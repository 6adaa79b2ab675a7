import Mathlib.Data.List.Induction
import StubGen.Proofs.Lines
import StubGen.Proofs.Places

/-!
# StubGen.Proofs.Spelling

The spelling of places.  Many paths lead to a place; one of them spells the names of the place and
nothing else (`spell`), and another one has a slash behind that (`slashed`).  Both go on in the same
way: what is joined to them stands behind the slash (`join_slashed`, `join_spell`).  Joining names
to the spelling of a place therefore spells the place that they lead to (`join_spell_intercalate`),
and taking the last step off takes off the last name (`splitLast_spell`).
-/

namespace StubGen.Path

/-! ## Names -/

/-- The name of something in a directory. -/
def IsProper (name : String) : Prop :=
  LeadsDown name ∧ '/' ∉ name.toList

/-- Steps hold no slashes. -/
theorem slash_not_mem_of_mem_steps {path step : String} (h : step ∈ steps path) :
    '/' ∉ step.toList := by
  obtain ⟨chars, hchars, rfl⟩ := List.mem_map.mp h
  simpa using Text.not_mem_of_mem_splitOn hchars

/-- A path is its steps with slashes between them. -/
theorem intercalate_steps (path : String) : "/".intercalate (steps path) = path := by
  apply String.ext
  rw [String.toList_intercalate, steps, List.map_map]
  have hchars : (String.toList ∘ String.ofList) = id := by
    funext chars
    simp
  rw [hchars, List.map_id]
  exact List.intercalate_splitOn '/'

/-- Proper names with slashes between them are the steps of a path. -/
theorem steps_intercalate {names : List String} (h : ∀ name ∈ names, IsProper name)
    (hne : names ≠ []) : steps ("/".intercalate names) = names := by
  have hslash : ∀ chars ∈ names.map String.toList, '/' ∉ chars := by
    simpa using fun name hname => (h name hname).2
  have hsplit : ("/".toList.intercalate (names.map String.toList)).splitOn '/' =
      names.map String.toList := List.splitOn_intercalate '/' hslash (by simpa using hne)
  rw [steps, String.toList_intercalate, hsplit]
  simp

/-- A name ends in no slash, whatever it stands behind. -/
theorem isSuffixOf_append_name (front : String) {name : String} (h : IsProper name) :
    "/".toList.isSuffixOf (front ++ name).toList = false := by
  have hne : name.toList ≠ [] := by simpa using h.1.1
  rw [Bool.eq_false_iff, ne_eq, List.isSuffixOf_iff_suffix]
  rintro ⟨rest, hrest⟩
  have hlast := congrArg List.getLast? hrest
  rw [String.toList_append, List.getLast?_append_of_ne_nil _ hne] at hlast
  exact h.2 (List.mem_of_getLast? (by simpa using hlast.symm))

/-- A path of proper names does not lead from the top. -/
theorem isAbsolute_intercalate {names : List String} (h : ∀ name ∈ names, IsProper name) :
    isAbsolute ("/".intercalate names) = false := by
  cases names with
  | nil => rfl
  | cons first rest =>
      obtain ⟨hdown, hslash⟩ := h first List.mem_cons_self
      have hfirst : isAbsolute first = false := by
        refine isAbsolute_of_not_mem_steps ?_
        rw [steps_of_not_mem hslash]
        simpa using hdown.1.symm
      by_cases hrest : rest = []
      · rwa [hrest, String.intercalate_singleton]
      · rw [String.intercalate_cons_of_ne_nil hrest, String.append_assoc,
          isAbsolute_append hdown.1, hfirst]

/-! ## Spellings -/

/-- The path that spells the names of a place. -/
def spell (names : Place) : String :=
  "/" ++ "/".intercalate names

/-- The spelling of a place with a slash behind it. -/
def slashed (names : Place) : String :=
  names.foldl (fun path name => path ++ name ++ "/") "/"

theorem slashed_concat (front : Place) (name : String) :
    slashed (front ++ [name]) = slashed front ++ name ++ "/" := by
  simp [slashed]

/-- Behind the names of a place, more names are spelled with slashes between them. -/
theorem spell_append (front : Place) {names : Place} (h : names ≠ []) :
    spell (front ++ names) = slashed front ++ "/".intercalate names := by
  induction front using List.reverseRecOn generalizing names with
  | nil => rfl
  | append_singleton front name ih =>
      rw [List.append_assoc, List.singleton_append, ih (List.cons_ne_nil _ _), slashed_concat,
        String.intercalate_cons_of_ne_nil h]
      simp only [String.append_assoc]

theorem spell_concat (front : Place) (name : String) :
    spell (front ++ [name]) = slashed front ++ name := by
  rw [spell_append front (List.cons_ne_nil _ _), String.intercalate_singleton]

/-- A path with a slash at its end goes on behind that. -/
theorem join_append_slash (front : String) {path : String} (h : isAbsolute path = false) :
    join (front ++ "/") path = front ++ "/" ++ path := by
  have hslash : "/".toList.isSuffixOf (front ++ "/").toList = true := by
    rw [List.isSuffixOf_iff_suffix, String.toList_append]
    exact List.suffix_append _ _
  rw [join, if_neg (by simp [h]), hslash, Bool.or_true, if_pos rfl]

/-- A path that does not lead from the top is put behind a slash. -/
theorem join_slashed (names : Place) {path : String} (h : isAbsolute path = false) :
    join (slashed names) path = slashed names ++ path := by
  induction names using List.reverseRecOn with
  | nil => exact join_append_slash "" h
  | append_singleton front name => rw [slashed_concat, join_append_slash _ h]

/-- Joining a path to a place puts a slash between them. -/
theorem join_spell {names : Place} (hnames : ∀ name ∈ names, IsProper name) {path : String}
    (h : isAbsolute path = false) : join (spell names) path = slashed names ++ path := by
  induction names using List.reverseRecOn with
  | nil => exact join_append_slash "" h
  | append_singleton front name =>
      have hname : IsProper name := hnames name (by simp)
      have hne : slashed front ++ name ≠ "" := by simp [hname.1.1]
      rw [spell_concat, slashed_concat, join, if_neg (by simp [h]), isSuffixOf_append_name _ hname,
        Bool.or_false, if_neg (by simpa using hne)]

/-- Names that are joined to the spelling of a place spell the place that they lead to. -/
theorem join_spell_intercalate {front names : Place} (hfront : ∀ name ∈ front, IsProper name)
    (hnames : ∀ name ∈ names, IsProper name) (hne : names ≠ []) :
    join (spell front) ("/".intercalate names) = spell (front ++ names) := by
  rw [join_spell hfront (isAbsolute_intercalate hnames), spell_append front hne]

/-- A path whose steps lead down, joined to a place, spells the place that it leads to. -/
theorem join_spell_steps {front : Place} (hfront : ∀ name ∈ front, IsProper name) {path : String}
    (h : ∀ step ∈ steps path, LeadsDown step) :
    (∀ name ∈ front ++ steps path, IsProper name) ∧
      join (spell front) path = spell (front ++ steps path) := by
  have hsteps : ∀ step ∈ steps path, IsProper step := fun step hstep =>
    ⟨h step hstep, slash_not_mem_of_mem_steps hstep⟩
  have hjoin := join_spell_intercalate hfront hsteps (steps_ne_nil path)
  rw [intercalate_steps] at hjoin
  exact ⟨List.forall_mem_append.mpr ⟨hfront, hsteps⟩, hjoin⟩

/-- The spelling of a place leads there. -/
theorem place_spell {names : Place} (h : ∀ name ∈ names, IsProper name)
    (workingDirectory : String) : place workingDirectory (spell names) = names := by
  have habsolute : isAbsolute (spell names) = true := by
    rw [spell, isAbsolute_append (by decide)]
    rfl
  have hsteps : steps (spell names) = "" :: steps ("/".intercalate names) := by
    have happend := steps_append_slash "" ("/".intercalate names)
    rwa [String.empty_append, steps_empty, List.singleton_append] at happend
  rw [place_eq_after, join_of_isAbsolute habsolute, hsteps, after_cons, after_stay (.inl rfl)]
  by_cases hne : names = []
  · rw [hne, String.intercalate_nil, steps_empty, after_stay (.inl rfl)]
  · rw [steps_intercalate h hne, after_of_leadsDown fun name hname => (h name hname).1,
      List.nil_append]

/-! ## The last name -/

/-- What stands behind the last slash, and what stands in front of it, backwards. -/
theorem splitLast_append_slash (base : String) {last : String} (h : '/' ∉ last.toList) :
    splitLast (base ++ "/" ++ last) =
      (String.ofList (if base.toList.reverse.all (· == '/') then '/' :: base.toList.reverse
        else base.toList.reverse.dropWhile (· == '/')).reverse, last) := by
  have hreverse : (base ++ "/" ++ last).toList.reverse =
      last.toList.reverse ++ '/' :: base.toList.reverse := by simp
  have hlast : ∀ c ∈ last.toList.reverse, (c != '/') = true := by
    intro c hc
    rw [bne_iff_ne]
    rintro rfl
    exact h (List.mem_reverse.mp hc)
  unfold splitLast
  simp only [hreverse]
  rw [List.takeWhile_append_of_pos hlast, List.dropWhile_append_of_pos hlast,
    List.takeWhile_cons_of_neg (by simp), List.dropWhile_cons_of_neg (by simp), List.append_nil,
    List.reverse_reverse, String.ofList_toList]
  rfl

/-- Splitting off the last name of a place leaves the place around it. -/
theorem splitLast_spell {front : Place} (hfront : ∀ name ∈ front, IsProper name) {name : String}
    (h : '/' ∉ name.toList) : splitLast (spell (front ++ [name])) = (spell front, name) := by
  rw [spell_concat]
  induction front using List.reverseRecOn with
  | nil => exact splitLast_append_slash "" h
  | append_singleton front last =>
      have hlast : IsProper last := hfront last (by simp)
      -- Backwards, the directory starts with the last character of a name, which is no slash.
      obtain ⟨c, rest, hreverse⟩ := List.exists_cons_of_ne_nil
        (show last.toList.reverse ≠ [] by simpa using hlast.1.1)
      have hc : c ≠ '/' := by
        rintro rfl
        exact hlast.2 (List.mem_reverse.mp (by simp [hreverse]))
      have hbase : (slashed front ++ last).toList.reverse =
          c :: (rest ++ (slashed front).toList.reverse) := by
        simp [hreverse]
      rw [slashed_concat, splitLast_append_slash _ h, spell_concat, hbase,
        List.dropWhile_cons_of_neg (by simpa using hc), if_neg (by simp [hc]), ← hbase,
        List.reverse_reverse, String.ofList_toList]

end StubGen.Path
