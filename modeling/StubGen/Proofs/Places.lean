import Mathlib.Data.List.TakeWhile
import StubGen.Files.Path

/-!
# StubGen.Proofs.Places

Where paths lead to by their spelling alone.  The steps of a path are taken one after the other, so
what a path leads to is found part by part (`after_append`).  Slashes between two parts, however
many, make steps that stay where they are, and so:

1. a path that is joined to a base leads on from where the base leads to (`after_steps_join`);
2. a path without its last step has the same steps up to that one, apart from some that stay
   (`steps_join_directory`).
-/

namespace StubGen.Path

/-! ## Steps that are taken from a place -/

/-- The place that steps lead to from a place. -/
def after (start : Place) (steps : List String) : Place :=
  (steps.foldl advance start.reverse).reverse

theorem place_eq_after (workingDirectory path : String) :
    place workingDirectory path = after [] (steps (join workingDirectory path)) := rfl

theorem snd_absolute (workingDirectory path : String) :
    (absolute workingDirectory path).2 = place workingDirectory path := by
  rw [absolute]

@[simp] theorem after_nil (start : Place) : after start [] = start := by
  simp [after]

/-- Steps may be taken in two goes. -/
theorem after_append (start : Place) (first second : List String) :
    after start (first ++ second) = after (after start first) second := by
  simp [after, List.foldl_append]

/-- Steps are taken one by one. -/
theorem after_cons (start : Place) (step : String) (rest : List String) :
    after start (step :: rest) = after (after start [step]) rest :=
  after_append start [step] rest

/-- Empty steps and points stay where they are. -/
theorem after_stay {step : String} (h : step = "" ∨ step = ".") (start : Place) :
    after start [step] = start := by
  simp [after, advance, h]

theorem after_up (start : Place) : after start [".."] = start.dropLast := by
  simp [after, advance, List.tail_reverse]

/-- Any other step leads down. -/
theorem after_name {step : String} (hempty : step ≠ "") (hpoint : step ≠ ".") (hup : step ≠ "..")
    (start : Place) : after start [step] = start ++ [step] := by
  simp [after, advance, hempty, hpoint, hup]

/-- A step that leads down. -/
def LeadsDown (step : String) : Prop :=
  step ≠ "" ∧ step ≠ "." ∧ step ≠ ".."

/-- Steps that all lead down add their names. -/
theorem after_of_leadsDown {steps : List String} (h : ∀ step ∈ steps, LeadsDown step)
    (start : Place) : after start steps = start ++ steps := by
  induction steps generalizing start with
  | nil => simp
  | cons step rest ih =>
      obtain ⟨⟨hempty, hpoint, hup⟩, hrest⟩ := List.forall_mem_cons.mp h
      rw [after_cons, after_name hempty hpoint hup, ih hrest, List.append_assoc]
      rfl

@[simp] theorem after_replicate_empty (start : Place) (count : Nat) :
    after start (List.replicate count "") = start := by
  induction count with
  | zero => simp
  | succ count ih => rw [List.replicate_succ, after_cons, after_stay (.inl rfl), ih]

/-! ## Steps between slashes -/

theorem steps_ne_nil (path : String) : steps path ≠ [] := by
  simp [steps]

theorem steps_of_not_mem {path : String} (h : '/' ∉ path.toList) : steps path = [path] := by
  rw [steps, List.splitOn_eq_singleton h]
  simp

@[simp] theorem steps_empty : steps "" = [""] :=
  steps_of_not_mem (by simp)

/-- A slash ends a step. -/
theorem steps_append_slash (front rest : String) :
    steps (front ++ "/" ++ rest) = steps front ++ steps rest := by
  have hchars : (front ++ "/" ++ rest).toList = front.toList ++ '/' :: rest.toList := by simp
  rw [steps, hchars, List.splitOn_append_cons_self, List.map_append]
  rfl

/-- A number of slashes. -/
def slashes (count : Nat) : String :=
  String.ofList (List.replicate count '/')

theorem slashes_succ (count : Nat) : slashes (count + 1) = slashes count ++ "/" := by
  rw [slashes, List.replicate_succ', String.ofList_append]
  rfl

/-- Slashes between two paths make empty steps. -/
theorem steps_append_slashes (front rest : String) (count : Nat) :
    steps (front ++ slashes (count + 1) ++ rest) =
      steps front ++ List.replicate count "" ++ steps rest := by
  induction count generalizing rest with
  | zero => simpa [slashes] using steps_append_slash front rest
  | succ count ih =>
      have hfront : front ++ slashes (count + 1) = front ++ slashes (count + 1) ++ "" := by simp
      rw [slashes_succ, ← String.append_assoc, steps_append_slash, hfront, ih, steps_empty,
        List.replicate_succ']
      simp

/-- Slashes at the end make empty steps. -/
theorem steps_append_slashes_end (front : String) (count : Nat) :
    steps (front ++ slashes count) = steps front ++ List.replicate count "" := by
  cases count with
  | zero => simp [slashes]
  | succ count =>
      have h := steps_append_slashes front "" count
      rw [String.append_empty, steps_empty, List.append_assoc] at h
      rw [h, List.replicate_succ']

theorem steps_slashes (count : Nat) : steps (slashes count) = List.replicate (count + 1) "" := by
  have h := steps_append_slashes_end "" count
  rw [String.empty_append, steps_empty] at h
  rw [h, List.replicate_succ, List.singleton_append]

theorem utf8ByteSize_slashes (count : Nat) : (slashes count).utf8ByteSize = count := by
  induction count with
  | zero => rfl
  | succ count ih =>
      rw [slashes_succ, String.utf8ByteSize_append, ih]
      rfl

/-! ## Joined paths -/

theorem join_of_isAbsolute {path : String} (h : isAbsolute path = true) (base : String) :
    join base path = path := by
  rw [join, if_pos h]

/-- A path that does not lead from the top goes on from where its base leads to. -/
theorem after_steps_join {path : String} (h : isAbsolute path = false) (start : Place)
    (base : String) :
    after start (steps (join base path)) = after (after start (steps base)) (steps path) := by
  unfold join
  rw [if_neg (by simp [h])]
  split
  · next hbase =>
      rcases Bool.or_eq_true_iff.mp hbase with hempty | hslash
      · have hbaseEmpty : base = "" := by simpa using hempty
        rw [hbaseEmpty, String.empty_append, steps_empty, after_stay (.inl rfl)]
      · obtain ⟨front, hfront⟩ := List.isSuffixOf_iff_suffix.mp hslash
        have hsplit : base = String.ofList front ++ "/" := by
          apply String.ext
          simpa using hfront.symm
        have hend : steps base = steps (String.ofList front) ++ [""] := by
          have happend := steps_append_slash (String.ofList front) ""
          rwa [String.append_empty, ← hsplit, steps_empty] at happend
        rw [hend, hsplit, steps_append_slash, after_append, after_append, after_stay (.inl rfl)]
  · rw [steps_append_slash, after_append]

/-- Whether a path leads from the top shows at its first character. -/
theorem isAbsolute_append {front : String} (h : front ≠ "") (rest : String) :
    isAbsolute (front ++ rest) = isAbsolute front := by
  have hchars : front.toList ≠ [] := by simpa using h
  obtain ⟨c, cs, hcs⟩ := List.exists_cons_of_ne_nil hchars
  simp [isAbsolute, hcs, List.isPrefixOf]

/-- A path that leads from the top has an empty first step. -/
theorem isAbsolute_of_not_mem_steps {path : String} (h : "" ∉ steps path) :
    isAbsolute path = false := by
  cases hchars : path.toList with
  | nil => simp [isAbsolute, hchars]
  | cons c rest =>
      have hc : '/' ≠ c := by
        rintro rfl
        have hpath : path = "" ++ "/" ++ String.ofList rest := String.ext (by simp [hchars])
        exact h (by rw [hpath, steps_append_slash, steps_empty]; simp)
      simp [isAbsolute, hchars, List.isPrefixOf, hc]

/-- Joining does not look at the end of a path. -/
theorem join_append {front : String} (h : front ≠ "") (base rest : String) :
    join base (front ++ rest) = join base front ++ rest := by
  unfold join
  rw [isAbsolute_append h]
  split
  · rfl
  · split
    · rw [String.append_assoc]
    · rw [String.append_assoc, String.append_assoc, String.append_assoc]

/-- A joined path leads from the top if its base does. -/
theorem isAbsolute_join {path : String} (h : isAbsolute path = false) (base : String) :
    isAbsolute (join base path) = isAbsolute base := by
  by_cases hbase : base = ""
  · subst hbase
    rw [join, if_neg (by simp [h]), if_pos (by simp), String.empty_append, h]
    rfl
  · have hjoin : ∃ rest, join base path = base ++ rest := by
      unfold join
      rw [if_neg (by simp [h])]
      split
      · exact ⟨path, rfl⟩
      · exact ⟨"/" ++ path, String.append_assoc⟩
    obtain ⟨rest, hrest⟩ := hjoin
    rw [hrest, isAbsolute_append hbase]

/-- The place of a path that is joined to a base, seen from the place of the base. -/
theorem place_join {path : String} (h : isAbsolute path = false) (workingDirectory base : String) :
    place workingDirectory (join base path) = after (place workingDirectory base) (steps path) := by
  have habsolute := isAbsolute_join h base
  rw [place_eq_after, place_eq_after]
  cases hbase : isAbsolute base with
  | true =>
      rw [hbase] at habsolute
      rw [join_of_isAbsolute habsolute, join_of_isAbsolute hbase, after_steps_join h]
  | false =>
      rw [hbase] at habsolute
      rw [after_steps_join habsolute, after_steps_join h, after_steps_join hbase]

/-! ## The last step -/

/-- Slashes at the end of a text, which is given in reverse. -/
theorem ofList_reverse_eq_append_slashes (backwards : List Char) :
    String.ofList backwards.reverse =
      String.ofList (backwards.dropWhile (· == '/')).reverse ++
        slashes (backwards.takeWhile (· == '/')).length := by
  have hslashes : ∀ c ∈ backwards.takeWhile (· == '/'), c = '/' := fun c hc => by
    simpa using List.mem_takeWhile_imp hc
  rw [slashes, ← List.reverse_replicate, ← List.eq_replicate_of_mem hslashes,
    ← String.ofList_append, ← List.reverse_append, List.takeWhile_append_dropWhile]

/-- A path without its last step, the slashes behind that, and the last step. -/
theorem splitLast_cases (path : String) :
    '/' ∉ (splitLast path).2.toList ∧
      ((splitLast path).1 = "" ∧ path = (splitLast path).2 ∨
        ∃ count, ((splitLast path).1 = slashes (count + 1) ∧
            path = slashes (count + 1) ++ (splitLast path).2) ∨
          ((splitLast path).1 ≠ "" ∧
            path = (splitLast path).1 ++ slashes (count + 1) ++ (splitLast path).2)) := by
  -- Backwards, the path is its last step, slashes, and what is in front of them.
  set backwards := path.toList.reverse with hbackwards
  set last := backwards.takeWhile (· != '/') with hlast
  set front := backwards.dropWhile (· != '/') with hfront
  have hpath : path = String.ofList front.reverse ++ String.ofList last.reverse := by
    have hsplit : last ++ front = backwards := List.takeWhile_append_dropWhile
    rw [← String.ofList_append, ← List.reverse_append, hsplit, hbackwards, List.reverse_reverse,
      String.ofList_toList]
  have hslash : '/' ∉ last := fun hmem => by simpa using List.mem_takeWhile_imp hmem
  have hsecond : (splitLast path).2 = String.ofList last.reverse := rfl
  have hfirst : (splitLast path).1 = String.ofList
      (if front.all (· == '/') then front else front.dropWhile (· == '/')).reverse := rfl
  refine ⟨by simpa [hsecond] using hslash, ?_⟩
  rw [hsecond, hfirst]
  have hhead := List.head?_dropWhile_not (· != '/') backwards
  rw [← hfront] at hhead
  rcases hcases : front with _ | ⟨c, rest⟩
  · rw [hcases] at hpath
    exact .inl ⟨rfl, by simpa using hpath⟩
  · rw [← hcases]
    have hc : c = '/' := by simpa [hcases] using hhead
    have hcount : (front.takeWhile (· == '/')).length =
        (rest.takeWhile (· == '/')).length + 1 := by simp [hcases, hc]
    have hfrontSlashes := ofList_reverse_eq_append_slashes front
    rw [hcount] at hfrontSlashes
    refine .inr ⟨(rest.takeWhile (· == '/')).length, ?_⟩
    cases hall : front.all (· == '/') with
    | true =>
        have hinner : front.dropWhile (· == '/') = [] :=
          List.dropWhile_eq_nil_iff.mpr (List.all_eq_true.mp hall)
        rw [hinner, List.reverse_nil, String.ofList_nil, String.empty_append] at hfrontSlashes
        rw [hfrontSlashes] at hpath
        rw [if_pos rfl]
        exact .inl ⟨hfrontSlashes, hpath⟩
    | false =>
        have hinner : front.dropWhile (· == '/') ≠ [] := by
          rw [ne_eq, List.dropWhile_eq_nil_iff, ← List.all_eq_true, hall]
          simp
        rw [hfrontSlashes] at hpath
        rw [if_neg (by simp)]
        exact .inr ⟨by simpa using hinner, hpath⟩

/-- A path is its last step, or something in front, a slash and the last step. -/
theorem exists_last_step (path : String) :
    ∃ last, '/' ∉ last.toList ∧ (path = last ∨ ∃ front, path = front ++ "/" ++ last) := by
  obtain ⟨hslash, hcases⟩ := splitLast_cases path
  refine ⟨(splitLast path).2, hslash, ?_⟩
  rcases hcases with ⟨_, hpath⟩ | ⟨count, ⟨_, hpath⟩ | ⟨_, hpath⟩⟩
  · exact .inl hpath
  · exact .inr ⟨slashes count, by rwa [← slashes_succ]⟩
  · rw [slashes_succ, ← String.append_assoc] at hpath
    exact .inr ⟨_, hpath⟩

/-- The directory of a path is a part of it. -/
theorem exists_append_directory (path : String) : ∃ rest, path = directory path ++ rest := by
  obtain ⟨_, hcases⟩ := splitLast_cases path
  rcases hcases with ⟨hfront, hpath⟩ | ⟨count, ⟨hfront, hpath⟩ | ⟨_, hpath⟩⟩
  · exact ⟨(splitLast path).2, by rw [directory, hfront, String.empty_append]; exact hpath⟩
  · exact ⟨(splitLast path).2, by rw [directory, hfront]; exact hpath⟩
  · exact ⟨slashes (count + 1) ++ (splitLast path).2, by
      rw [directory, ← String.append_assoc]; exact hpath⟩

/-- Up to steps that stay where they are, the steps of a path but the last are those of the path
without its last step. -/
theorem steps_join_directory {path : String} (h : directory path ≠ "") (base : String) :
    ∃ m n, (steps (join base path)).dropLast ++ List.replicate m "" =
      steps (join base (directory path)) ++ List.replicate n "" := by
  obtain ⟨hslash, hcases⟩ := splitLast_cases path
  rcases hcases with ⟨hfront, _⟩ | ⟨count, ⟨hfront, hpath⟩ | ⟨_, hpath⟩⟩
  · exact absurd hfront h
  -- nothing but slashes stands in front of the last step
  · have habsolute : isAbsolute (slashes (count + 1)) = true := by
      simp [isAbsolute, slashes, List.replicate_succ]
    have hne : slashes (count + 1) ≠ "" := hfront ▸ h
    have hsteps : steps path = List.replicate (count + 1) "" ++ [(splitLast path).2] := by
      have happend := steps_append_slashes "" (splitLast path).2 count
      rw [String.empty_append, ← hpath, steps_empty, steps_of_not_mem hslash] at happend
      rw [happend, List.replicate_succ]
      rfl
    have hdirectory : directory path = slashes (count + 1) := hfront
    have hpathAbsolute : isAbsolute path = true := by
      rw [hpath, isAbsolute_append hne]
      exact habsolute
    refine ⟨1, 0, ?_⟩
    rw [hdirectory, join_of_isAbsolute hpathAbsolute, join_of_isAbsolute habsolute, hsteps,
      List.dropLast_concat, steps_slashes, List.replicate_succ' (n := count + 1)]
    simp
  -- slashes behind the directory make steps that stay where they are
  · refine ⟨0, count, ?_⟩
    have hjoin : join base path =
        join base (directory path) ++ slashes (count + 1) ++ (splitLast path).2 := by
      have happend := join_append h base (slashes (count + 1) ++ (splitLast path).2)
      rw [← String.append_assoc, ← String.append_assoc] at happend
      rw [← happend]
      exact congrArg (join base) hpath
    rw [hjoin, steps_append_slashes, steps_of_not_mem hslash, List.dropLast_concat]
    simp

end StubGen.Path
