import Mathlib.Data.List.Nodup
import Mathlib.Data.List.Sort
import Mathlib.Tactic.Tauto
import StubGen.Import

/-!
# StubGen.Proofs.Keyed

Lists with at most one element of a key.

1. A fold that keeps the first element of each key keeps them in order of first occurrence, and
   leaves out no key (`foldl_appendNew`).
2. A list in ascending order is seen through the one question which element there is of a key.
   Putting an element into it answers the question for its key, and for no other
   (`find?_insertSorted`), and the answers determine the list (`eq_of_find?_eq`).
3. Sorted texts are in strictly ascending order and the same as before (`pairwise_ascending`,
   `mem_ascending`); nothing else is like that (`eq_ascending`).
-/

namespace StubGen

/-! ## First occurrences -/

/-- The elements that are added to `seen` for some elements: the first of each new key. -/
structure FirstOfKey [DecidableEq κ] (key : α → κ) (seen elements added : List α) : Prop where
  /-- They are some of the elements. -/
  subset : ∀ element ∈ added, element ∈ elements
  /-- Every key has been seen, or is there now. -/
  covers : ∀ element ∈ elements, ∃ other ∈ seen ++ added, key other = key element
  /-- No key had been seen. -/
  fresh : ∀ element ∈ added, ∀ other ∈ seen, key other ≠ key element
  /-- They stand in order of first occurrence. -/
  order : added.Pairwise fun first second =>
    (elements.map key).idxOf (key first) < (elements.map key).idxOf (key second)

section

variable [DecidableEq κ] {key : α → κ} {seen rest added : List α} {element : α}

/-- In front of a list, an element moves the position of every key but its own by one. -/
theorem idxOf_map_cons_of_ne {other : α} (h : key other ≠ key element) :
    ((element :: rest).map key).idxOf (key other) = (rest.map key).idxOf (key other) + 1 := by
  rw [List.map_cons, List.idxOf_cons_ne _ h.symm]

theorem FirstOfKey.nil : FirstOfKey key seen [] [] :=
  ⟨by simp, by simp, by simp, .nil⟩

/-- The order of first occurrences does not change with something else in front. -/
theorem FirstOfKey.order_cons (h : FirstOfKey key seen rest added)
    (hne : ∀ other ∈ added, key other ≠ key element) :
    added.Pairwise fun first second =>
      ((element :: rest).map key).idxOf (key first) <
        ((element :: rest).map key).idxOf (key second) := by
  refine h.order.imp_of_mem fun {first second} hfirst hsecond hlt => ?_
  rw [idxOf_map_cons_of_ne (hne first hfirst), idxOf_map_cons_of_ne (hne second hsecond)]
  omega

/-- An element whose key has been seen adds nothing. -/
theorem FirstOfKey.skip (h : FirstOfKey key seen rest added)
    (hseen : ∃ known ∈ seen, key known = key element) :
    FirstOfKey key seen (element :: rest) added := by
  obtain ⟨known, hknown, hkey⟩ := hseen
  have hne : ∀ other ∈ added, key other ≠ key element := fun other hother =>
    hkey ▸ (h.fresh other hother known hknown).symm
  refine ⟨fun other hother => List.mem_cons_of_mem _ (h.subset other hother), ?_, h.fresh,
    h.order_cons hne⟩
  exact List.forall_mem_cons.mpr ⟨⟨known, List.mem_append_left _ hknown, hkey⟩, h.covers⟩

/-- An element with a new key is the first of those that are added. -/
theorem FirstOfKey.keep (h : FirstOfKey key (seen ++ [element]) rest added)
    (hnew : ∀ other ∈ seen, key other ≠ key element) :
    FirstOfKey key seen (element :: rest) (element :: added) := by
  have hne : ∀ other ∈ added, key other ≠ key element := fun other hother =>
    (h.fresh other hother element (by simp)).symm
  refine ⟨?_, ?_, ?_, ?_⟩
  · exact List.forall_mem_cons.mpr ⟨List.mem_cons_self,
      fun other hother => List.mem_cons_of_mem _ (h.subset other hother)⟩
  · refine List.forall_mem_cons.mpr ⟨⟨element, by simp, rfl⟩, ?_⟩
    simpa using h.covers
  · exact List.forall_mem_cons.mpr ⟨hnew, fun other hother earlier hearlier =>
      h.fresh other hother earlier (List.mem_append_left _ hearlier)⟩
  · refine List.pairwise_cons.mpr ⟨fun other hother => ?_, h.order_cons hne⟩
    rw [idxOf_map_cons_of_ne (hne other hother)]
    simp

end

/-- A fold that adds new keys at the end adds the first element of each. -/
theorem foldl_appendNew [DecidableEq κ] (key : α → κ) (elements seen : List α) :
    ∃ added, elements.foldl (appendNew key) seen = seen ++ added ∧
      FirstOfKey key seen elements added := by
  -- what was seen grows along the fold, and what is added is told apart from it
  induction elements generalizing seen with
  | nil => exact ⟨[], by simp, .nil⟩
  | cons element rest ih =>
      by_cases hseen : seen.any fun other => key other == key element
      · obtain ⟨added, hfold, hadded⟩ := ih seen
        refine ⟨added, by rw [List.foldl_cons, appendNew, if_pos hseen, hfold], hadded.skip ?_⟩
        simpa using hseen
      · obtain ⟨added, hfold, hadded⟩ := ih (seen ++ [element])
        refine ⟨element :: added, ?_, hadded.keep (by simpa using hseen)⟩
        rw [List.foldl_cons, appendNew, if_neg hseen, hfold, List.append_assoc]
        rfl

/-! ## Ascending order -/

section

variable [LT κ] [DecidableEq κ] [DecidableLT κ] {replace : Bool} {key : α → κ} {element other : α}
  {elements : List α}

/-- Where keys tell elements apart, an element is added to those that are there. -/
theorem mem_insertSorted_iff (hkey : ∀ first second, key first = key second → first = second) :
    other ∈ insertSorted replace key element elements ↔ other = element ∨ other ∈ elements := by
  induction elements with
  | nil => simp [insertSorted]
  | cons first rest ih =>
      unfold insertSorted
      split
      · next heq =>
          rw [hkey _ _ heq, ite_self, List.mem_cons]
          tauto
      · split
        · rw [List.mem_cons]
        · rw [List.mem_cons, ih, List.mem_cons]
          tauto

end

section

variable [LT κ] [LE κ] [Std.IsLinearOrder κ] [Std.LawfulOrderLT κ] [BEq κ] [LawfulBEq κ]
  {key : α → κ} {element : α} {elements : List α}

omit [Std.IsLinearOrder κ] in
/-- An element of an ascending list is the one of its key. -/
theorem find?_eq_some_of_mem
    (h : elements.Pairwise fun first second => key first < key second) (hmem : element ∈ elements) :
    elements.find? (fun other => key other == key element) = some element := by
  induction elements with
  | nil => cases hmem
  | cons first rest ih =>
      obtain ⟨hfirst, hrest⟩ := List.pairwise_cons.mp h
      rcases List.mem_cons.mp hmem with rfl | hmem
      · simp
      · have hne : key first ≠ key element := Std.ne_of_lt (hfirst element hmem)
        rw [List.find?_cons_of_neg (by simpa using hne), ih hrest hmem]

/-- Ascending lists are equal if they have the same element, or none, for each key. -/
theorem eq_of_find?_eq {first second : List α}
    (hfirst : first.Pairwise fun a b => key a < key b)
    (hsecond : second.Pairwise fun a b => key a < key b)
    (h : ∀ wanted, first.find? (fun other => key other == wanted) =
      second.find? fun other => key other == wanted) : first = second := by
  have hirrefl : Std.Irrefl fun a b : α => key a < key b := ⟨fun a => Std.lt_irrefl⟩
  have hantisymm : Std.Antisymm fun a b : α => key a < key b :=
    ⟨fun a _ hlt hgt => absurd (Std.lt_trans hlt hgt) Std.lt_irrefl⟩
  refine hfirst.eq_of_mem_iff hsecond fun found => ⟨fun hmem => ?_, fun hmem => ?_⟩
  · have hfind := find?_eq_some_of_mem hfirst hmem
    exact List.mem_of_find?_eq_some ((h _).symm.trans hfind)
  · have hfind := find?_eq_some_of_mem hsecond hmem
    exact List.mem_of_find?_eq_some ((h _).trans hfind)

/-- After an element was put into an ascending list, its key has the new element or the old one, and
every other key has what it had. -/
theorem find?_insertSorted [DecidableEq κ] [DecidableLT κ] {replace : Bool}
    (h : elements.Pairwise fun first second => key first < key second)
    (wanted : κ) :
    (insertSorted replace key element elements).find? (fun other => key other == wanted) =
      if key element = wanted then
        (if replace then some element
          else (elements.find? fun other => key other == wanted).or (some element))
      else elements.find? fun other => key other == wanted := by
  induction elements with
  | nil => by_cases hkey : key element = wanted <;> simp [insertSorted, hkey]
  | cons first rest ih =>
      obtain ⟨hfirst, hrest⟩ := List.pairwise_cons.mp h
      unfold insertSorted
      split
      · next heq =>
          cases replace <;> by_cases hkey : key element = wanted <;>
            simp [← heq, hkey]
      · next hne =>
          split
          · next hlt =>
              by_cases hkey : key element = wanted
              -- the new key is below all others, so none of them has it
              · have hnone : (first :: rest).find? (fun other => key other == wanted) = none := by
                  rw [← hkey, List.find?_eq_none]
                  refine List.forall_mem_cons.mpr ⟨by simpa using Ne.symm hne, ?_⟩
                  intro later hlater
                  simpa using Ne.symm (Std.ne_of_lt (Std.lt_trans hlt (hfirst later hlater)))
                rw [List.find?_cons_of_pos (by simpa using hkey), if_pos hkey, hnone]
                simp
              · rw [List.find?_cons_of_neg (by simpa using hkey), if_neg hkey]
          · by_cases hkey : key first = wanted
            · have hother : key element ≠ wanted := fun heq => hne (heq.trans hkey.symm)
              simp [hkey, hother]
            · rw [List.find?_cons_of_neg (by simpa using hkey), ih hrest,
                List.find?_cons_of_neg (by simpa using hkey)]

end

/-! ## Sorted texts -/

/-- Texts are put one by one into an ascending list, which may hold some already. -/
theorem foldl_insertSorted_spec (texts : List String) {sorted : List String}
    (h : sorted.Pairwise (· < ·)) :
    (texts.foldl (fun sorted text => insertSorted false id text sorted) sorted).Pairwise (· < ·) ∧
      ∀ text, text ∈ texts.foldl (fun sorted text => insertSorted false id text sorted) sorted ↔
        text ∈ sorted ∨ text ∈ texts := by
  induction texts generalizing sorted with
  | nil => simpa using h
  | cons first rest ih =>
      have hinsert : (insertSorted false id first sorted).Pairwise (· < ·) :=
        pairwise_insertSorted h
      have hfirst (text : String) :
          text ∈ insertSorted false id first sorted ↔ text = first ∨ text ∈ sorted :=
        mem_insertSorted_iff fun _ _ heq => heq
      obtain ⟨horder, hmem⟩ := ih hinsert
      refine ⟨horder, fun text => ?_⟩
      rw [List.foldl_cons, hmem, hfirst, List.mem_cons]
      tauto

theorem pairwise_ascending (texts : List String) : (ascending texts).Pairwise (· < ·) :=
  (foldl_insertSorted_spec texts .nil).1

@[simp] theorem mem_ascending {text : String} {texts : List String} :
    text ∈ ascending texts ↔ text ∈ texts := by
  rw [ascending, (foldl_insertSorted_spec texts .nil).2]
  simp

/-- A list in strictly ascending order is determined by what it holds. -/
theorem eq_ascending {texts sorted : List String} (horder : sorted.Pairwise (· < ·))
    (hmem : ∀ text, text ∈ sorted ↔ text ∈ texts) : sorted = ascending texts :=
  horder.eq_of_mem_iff (pairwise_ascending texts) fun text => by rw [hmem, mem_ascending]

end StubGen
