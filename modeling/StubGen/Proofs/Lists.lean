import Mathlib.Data.List.DropRight
import Mathlib.Data.List.Forall2
import Mathlib.Data.List.Nodup
import Mathlib.Tactic.Tauto

/-!
# StubGen.Proofs.Lists

Lists, as far as several developments need the same facts about them.

1. Of elements that are looked up by one key, the last counts (`IsLast`), which a look-up from
   behind finds (`find?_reverse_eq_some_iff_isLast`).
2. What is done element by element stops at the first element that is bad.  *First* means the same
   at every level (`FirstBad`): the elements before are good as a whole, and the element itself is
   bad, be it a part of its own or one of several (`firstBad_flatMap`).
3. A list is converted as a whole exactly when each of its elements is (`mapM_eq_ok_iff`), and else
   fails for the first that is not (`mapM_eq_error_iff`).
-/

namespace StubGen

/-! ## Elements and positions -/

/-- Elements have something they are related to as a list if each of them has. -/
theorem exists_forall₂_iff {related : α → β → Prop} {elements : List α} :
    (∃ others, List.Forall₂ related elements others) ↔ ∀ x ∈ elements, ∃ y, related x y := by
  induction elements with
  | nil => simp
  | cons first rest ih =>
      rw [List.forall_mem_cons, ← ih]
      constructor
      · rintro ⟨_, hothers⟩
        obtain ⟨y, others, hy, hrest, _⟩ := List.forall₂_cons_left_iff.mp hothers
        exact ⟨⟨y, hy⟩, others, hrest⟩
      · rintro ⟨⟨y, hy⟩, others, hothers⟩
        exact ⟨y :: others, .cons hy hothers⟩

/-- An element of a list has its counterpart in a related list, at the same position. -/
theorem exists_getElem?_of_forall₂ {R : α → β → Prop} {inputs : List α} {outputs : List β}
    (h : List.Forall₂ R inputs outputs) {number : Nat} {input : α}
    (hinput : inputs[number]? = some input) :
    ∃ output, outputs[number]? = some output ∧ R input output := by
  obtain ⟨hnumber, rfl⟩ := List.getElem?_eq_some_iff.mp hinput
  have houtput : number < outputs.length := h.length_eq ▸ hnumber
  exact ⟨outputs[number], List.getElem?_eq_getElem houtput, h.get hnumber houtput⟩

/-- An element with its position stands at that position. -/
theorem zipIdx_getElem?_of_getElem? {elements : List α} {number : Nat} {element : α}
    (h : elements[number]? = some element) :
    elements.zipIdx[number]? = some (element, number) := by
  rw [List.getElem?_zipIdx, h]
  simp

/-- What does not depend on positions is the same without them. -/
theorem flatMap_zipIdx (f : α → List β) (elements : List α) :
    (elements.zipIdx.flatMap fun entry => f entry.1) = elements.flatMap f := by
  rw [← List.flatMap_map Prod.fst f, List.zipIdx_map_fst]

/-- Without its duplicates, a list has none. -/
theorem nodup_eraseDups {α : Type} [BEq α] [LawfulBEq α] :
    (elements : List α) → elements.eraseDups.Nodup
  | [] => by simp
  | first :: rest => by
      rw [List.eraseDups_cons, List.nodup_cons]
      exact ⟨by simp, nodup_eraseDups _⟩
termination_by elements => elements.length
decreasing_by exact Nat.lt_succ_of_le (List.length_filter_le _ rest)

/-- A split of the images of some elements is one of the elements. -/
theorem exists_split_map {f : α → β} {elements : List α} {p : List β → β → Prop} :
    (∃ before found after, elements.map f = before ++ found :: after ∧ p before found) ↔
      ∃ before found after, elements = before ++ found :: after ∧ p (before.map f) (f found) := by
  constructor
  · rintro ⟨_, _, _, hsplit, hp⟩
    obtain ⟨before, others, rfl, rfl, hothers⟩ := List.map_eq_append_iff.mp hsplit
    obtain ⟨found, after, rfl, rfl, rfl⟩ := List.map_eq_cons_iff.mp hothers
    exact ⟨before, found, after, rfl, hp⟩
  · rintro ⟨before, found, after, rfl, hp⟩
    exact ⟨before.map f, f found, after.map f, by simp, hp⟩

/-- What is dropped as a whole from the end need not be there. -/
theorem rdropWhile_append_of_forall {p : α → Bool} {first second : List α}
    (h : ∀ x ∈ second, p x = true) : (first ++ second).rdropWhile p = first.rdropWhile p := by
  have hreverse : ∀ x ∈ second.reverse, p x = true := by simpa using h
  simp [List.rdropWhile, List.dropWhile_append_of_pos hreverse]

theorem mem_or_eq_of_mem_intersperse {separator element : α} {elements : List α}
    (h : element ∈ elements.intersperse separator) : element ∈ elements ∨ element = separator := by
  fun_induction List.intersperse separator elements <;> grind

theorem mem_intersperse {separator element : α} {elements : List α} (h : element ∈ elements) :
    element ∈ elements.intersperse separator := by
  fun_induction List.intersperse separator elements <;> grind

/-! ## The last element with a property -/

/-- The last element with a property. -/
def IsLast (p : α → Prop) (elements : List α) (element : α) : Prop :=
  p element ∧ ∃ before after, elements = before ++ element :: after ∧ ∀ later ∈ after, ¬ p later

/-- The last element with a property is one of the elements. -/
theorem IsLast.mem {p : α → Prop} {elements : List α} {element : α}
    (h : IsLast p elements element) : element ∈ elements := by
  obtain ⟨_, before, after, rfl, _⟩ := h
  simp

/-- The last element is in the rest of a list, unless the rest has none with the property. -/
theorem isLast_cons {p : α → Prop} {first element : α} {rest : List α} :
    IsLast p (first :: rest) element ↔
      IsLast p rest element ∨ (element = first ∧ p first ∧ ∀ later ∈ rest, ¬ p later) := by
  constructor
  · rintro ⟨helement, before, after, hsplit, hafter⟩
    cases before with
    | nil =>
        obtain ⟨rfl, rfl⟩ := List.cons.inj hsplit
        exact .inr ⟨rfl, helement, hafter⟩
    | cons other before =>
        obtain ⟨_, rfl⟩ := List.cons.inj hsplit
        exact .inl ⟨helement, before, after, rfl, hafter⟩
  · rintro (⟨helement, before, after, rfl, hafter⟩ | ⟨rfl, hfirst, hrest⟩)
    · exact ⟨helement, first :: before, after, rfl, hafter⟩
    · exact ⟨hfirst, [], rest, rfl, hrest⟩

/-- A look-up from behind finds the last element. -/
theorem find?_reverse_eq_some_iff_isLast {p : α → Bool} {elements : List α} {element : α} :
    elements.reverse.find? p = some element ↔ IsLast (p · = true) elements element := by
  rw [List.find?_eq_some_iff_append, IsLast]
  refine and_congr_right fun _ => ?_
  constructor
  · rintro ⟨after, before, hsplit, hafter⟩
    refine ⟨before.reverse, after.reverse, ?_, fun later hlater => ?_⟩
    · rw [← List.reverse_reverse elements, hsplit]
      simp
    · simpa using hafter later (List.mem_reverse.mp hlater)
  · rintro ⟨before, after, rfl, hafter⟩
    refine ⟨after.reverse, before.reverse, by simp, fun later hlater => ?_⟩
    simpa using hafter later (List.mem_reverse.mp hlater)

/-- Where keys are distinct, the last element of a key is the only one. -/
theorem find?_reverse_eq_some_iff {key : α → String} {elements : List α}
    (h : (elements.map key).Nodup) {name : String} {element : α} :
    elements.reverse.find? (fun other => key other == name) = some element ↔
      element ∈ elements ∧ key element = name := by
  constructor
  · intro hfind
    have hmem := List.mem_of_find?_eq_some hfind
    have hkey := List.find?_some hfind
    exact ⟨List.mem_reverse.mp hmem, by simpa using hkey⟩
  · rintro ⟨hmem, hkey⟩
    have hsome : (elements.reverse.find? fun other => key other == name).isSome :=
      List.find?_isSome.mpr ⟨element, List.mem_reverse.mpr hmem, by simp [hkey]⟩
    obtain ⟨found, hfound⟩ := Option.isSome_iff_exists.mp hsome
    have hfoundMem := List.mem_reverse.mp (List.mem_of_find?_eq_some hfound)
    have hfoundKey : key found = name := by simpa using List.find?_some hfound
    have heq : found = element :=
      List.inj_on_of_nodup_map h hfoundMem hmem (hfoundKey.trans hkey.symm)
    rw [hfound, heq]

/-- Of the elements with the key of a given one, there is a last. -/
theorem exists_last_of_mem (key : α → β) {element : α} {elements : List α}
    (h : element ∈ elements) :
    ∃ final later, final :: later <:+ elements ∧ key final = key element ∧
      ∀ other ∈ later, key other ≠ key final := by
  induction elements generalizing element with
  | nil => simp at h
  | cons first rest ih =>
      by_cases hrest : ∃ other ∈ rest, key other = key element
      · obtain ⟨other, hother, hkey⟩ := hrest
        obtain ⟨final, later, hsuffix, hfinal, hlater⟩ := ih hother
        exact ⟨final, later, hsuffix.trans (List.suffix_cons first rest), hfinal.trans hkey, hlater⟩
      · rcases List.mem_cons.mp h with rfl | hmem
        · exact ⟨element, rest, List.suffix_refl _, rfl, fun other hother hkey =>
            hrest ⟨other, hother, hkey⟩⟩
        · exact absurd ⟨element, hmem, rfl⟩ hrest

/-- If all that is found is the same, it does not matter in which order it is looked for. -/
theorem findSome?_congr_of_agree {f : α → Option β} {first second : List α}
    (hmem : ∀ x, x ∈ first ↔ x ∈ second)
    (hagree : ∀ x ∈ second, ∀ y ∈ second, ∀ a b, f x = some a → f y = some b → a = b) :
    first.findSome? f = second.findSome? f := by
  have hfound (b : β) : first.findSome? f = some b → second.findSome? f = some b := by
    intro hfirst
    obtain ⟨x, hx, hfx⟩ := List.exists_of_findSome?_eq_some hfirst
    cases hsecond : second.findSome? f with
    | none =>
        rw [List.findSome?_eq_none_iff.mp hsecond x ((hmem x).mp hx)] at hfx
        cases hfx
    | some other =>
        obtain ⟨y, hy, hfy⟩ := List.exists_of_findSome?_eq_some hsecond
        rw [hagree y hy x ((hmem x).mp hx) _ _ hfy hfx]
  cases hfirst : first.findSome? f with
  | some b => exact (hfound b hfirst).symm
  | none =>
      refine (List.findSome?_eq_none_iff.mpr fun x hx => ?_).symm
      exact List.findSome?_eq_none_iff.mp hfirst x ((hmem x).mpr hx)

/-! ## The first bad element -/

/-- Elements that are good up to one that is bad. -/
def FirstBad (good bad : α → Prop) (elements : List α) : Prop :=
  ∃ before element after, elements = before ++ element :: after ∧
    (∀ earlier ∈ before, good earlier) ∧ bad element

theorem firstBad_nil {good bad : α → Prop} : ¬ FirstBad good bad [] := by
  rintro ⟨before, element, after, h, _⟩
  simp at h

/-- The first element is bad, or it is good and the rest has a first bad one. -/
theorem firstBad_cons {good bad : α → Prop} {element : α} {rest : List α} :
    FirstBad good bad (element :: rest) ↔
      bad element ∨ (good element ∧ FirstBad good bad rest) := by
  constructor
  · rintro ⟨before, found, after, hsplit, hgood, hbad⟩
    cases before with
    | nil =>
        obtain ⟨rfl, _⟩ := List.cons.inj hsplit
        exact .inl hbad
    | cons first before =>
        obtain ⟨rfl, hrest⟩ := List.cons.inj hsplit
        exact .inr ⟨hgood element List.mem_cons_self, before, found, after, hrest,
          fun earlier hearlier => hgood earlier (List.mem_cons_of_mem _ hearlier), hbad⟩
  · rintro (hbad | ⟨hgood, before, found, after, rfl, hbefore, hbad⟩)
    · exact ⟨[], element, rest, rfl, by simp, hbad⟩
    · exact ⟨element :: before, found, after, rfl,
        List.forall_mem_cons.mpr ⟨hgood, hbefore⟩, hbad⟩

/-- The first bad element is in the first list, or that is all good and it is in the second. -/
theorem firstBad_append {good bad : α → Prop} {first second : List α} :
    FirstBad good bad (first ++ second) ↔
      FirstBad good bad first ∨ ((∀ element ∈ first, good element) ∧ FirstBad good bad second) := by
  induction first with
  | nil => simp [firstBad_nil]
  | cons element first ih =>
      rw [List.cons_append, firstBad_cons, firstBad_cons, ih, List.forall_mem_cons]
      tauto

/-- The first thing that is wrong with a list of parts is the first that is wrong with one of them,
where all parts before are good as a whole. -/
theorem firstBad_flatMap {good bad : β → Prop} {parts : α → List β} {elements : List α} :
    FirstBad good bad (elements.flatMap parts) ↔
      FirstBad (fun element => ∀ part ∈ parts element, good part)
        (fun element => FirstBad good bad (parts element)) elements := by
  induction elements with
  | nil => simp [firstBad_nil]
  | cons element elements ih => rw [List.flatMap_cons, firstBad_append, firstBad_cons, ih]

/-! ## Conversions that may fail -/

/-- Two steps succeed if the second does on the result of the first. -/
theorem bind_eq_ok_iff {action : Except ε α} {next : α → Except ε β} {result : β} :
    action >>= next = .ok result ↔ ∃ value, action = .ok value ∧ next value = .ok result := by
  cases action with
  | error failure => simp [bind, Except.bind]
  | ok value => simp [bind, Except.bind]

theorem map_eq_ok_iff {action : Except ε α} {convert : α → β} {result : β} :
    action.map convert = .ok result ↔ ∃ value, action = .ok value ∧ convert value = result := by
  cases action with
  | error failure => simp [Except.map]
  | ok value => simp [Except.map]

/-- A list is converted as a whole exactly when each of its elements is. -/
theorem mapM_eq_ok_iff {convert : α → Except ε β} {inputs : List α} {outputs : List β} :
    inputs.mapM convert = .ok outputs ↔
      List.Forall₂ (fun input output => convert input = .ok output) inputs outputs := by
  induction inputs generalizing outputs with
  | nil => simp [pure, Except.pure, eq_comm]
  | cons input inputs ih =>
      simp only [List.mapM_cons, bind_eq_ok_iff, ih, List.forall₂_cons_left_iff]
      constructor
      · rintro ⟨output, houtput, rest, hrest, hcons⟩
        exact ⟨output, rest, houtput, hrest, (Except.ok.inj hcons).symm⟩
      · rintro ⟨output, rest, houtput, hrest, rfl⟩
        exact ⟨output, houtput, rest, hrest, rfl⟩

/-- A list is converted exactly when each of its elements is. -/
theorem exists_mapM_eq_ok_iff {convert : α → Except ε β} {inputs : List α} :
    (∃ outputs, inputs.mapM convert = .ok outputs) ↔
      ∀ input ∈ inputs, ∃ output, convert input = .ok output := by
  simp only [mapM_eq_ok_iff, exists_forall₂_iff]

/-- Every result comes from some element. -/
theorem exists_of_mem_mapM {convert : α → Except ε β} {inputs : List α} {outputs : List β}
    (h : inputs.mapM convert = .ok outputs) {output : β} (houtput : output ∈ outputs) :
    ∃ input ∈ inputs, convert input = .ok output := by
  have hpairs := mapM_eq_ok_iff.mp h
  clear h
  induction hpairs with
  | nil => contradiction
  | cons hfirst _ ih =>
      rcases List.mem_cons.mp houtput with rfl | hrest
      · exact ⟨_, List.mem_cons_self, hfirst⟩
      · obtain ⟨input, hinput, hconvert⟩ := ih hrest
        exact ⟨input, List.mem_cons_of_mem _ hinput, hconvert⟩

/-- A list is not converted for the reason that its first element has which is not converted. -/
theorem mapM_eq_error_iff {convert : α → Except ε β} {inputs : List α} {failure : ε} :
    inputs.mapM convert = .error failure ↔
      FirstBad (fun input => ∃ output, convert input = .ok output)
        (fun input => convert input = .error failure) inputs := by
  induction inputs with
  | nil => simp [firstBad_nil, pure, Except.pure]
  | cons input inputs ih =>
      rw [firstBad_cons, ← ih, List.mapM_cons]
      cases hfirst : convert input with
      | error other => simp [bind, Except.bind]
      | ok output =>
          cases inputs.mapM convert with
          | error other => simp [bind, Except.bind]
          | ok outputs => simp [bind, Except.bind, pure, Except.pure]

end StubGen
