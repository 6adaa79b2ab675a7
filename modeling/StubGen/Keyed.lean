/-!
# StubGen.Keyed

Lists with at most one element of a key, which is a text, a name or a location.  Elements are put
into such a list one by one, in order of their first occurrence or in ascending order of their keys.
-/

namespace StubGen

/-- Add an element at the end, unless its key is there already. -/
def appendNew [DecidableEq κ] (key : α → κ) (seen : List α) (element : α) : List α :=
  if seen.any fun other => key other == key element then seen else seen ++ [element]

/-- Put an element where it belongs among elements in ascending order of their keys.  Of two
elements with one key the new one stays if `replace` is set, and else the old one. -/
def insertSorted [LT κ] [DecidableEq κ] [DecidableLT κ] (replace : Bool) (key : α → κ)
    (element : α) : List α → List α
  | [] => [element]
  | first :: rest =>
    if key element = key first then (if replace then element else first) :: rest
    else if key element < key first then element :: first :: rest
    else first :: insertSorted replace key element rest

section

variable [LT κ] [DecidableEq κ] [DecidableLT κ] {replace : Bool} {key : α → κ}
  {element other : α} {elements : List α}

/-- Nothing gets into the list but the new element. -/
theorem mem_of_mem_insertSorted (h : other ∈ insertSorted replace key element elements) :
    other = element ∨ other ∈ elements := by
  induction elements with
  | nil => simpa [insertSorted] using h
  | cons first rest ih =>
      unfold insertSorted at h
      grind

variable [LE κ] [Std.IsLinearOrder κ] [Std.LawfulOrderLT κ]

/-- The list stays in order. -/
theorem pairwise_insertSorted
    (h : elements.Pairwise fun first second => key first < key second) :
    (insertSorted replace key element elements).Pairwise
      fun first second => key first < key second := by
  induction elements with
  | nil => exact List.pairwise_singleton _ _
  | cons first rest ih =>
      obtain ⟨hfirst, hrest⟩ := List.pairwise_cons.mp h
      unfold insertSorted
      split
      · next heq =>
          refine List.pairwise_cons.mpr ⟨fun later hlater => ?_, hrest⟩
          cases replace with
          | false => exact hfirst later hlater
          | true => exact heq ▸ hfirst later hlater
      · next hne =>
          split
          · next hlt =>
              refine List.pairwise_cons.mpr ⟨List.forall_mem_cons.mpr ⟨hlt, ?_⟩, h⟩
              exact fun later hlater => Std.lt_trans hlt (hfirst later hlater)
          · next hnot =>
              refine List.pairwise_cons.mpr ⟨fun later hlater => ?_, ih hrest⟩
              rcases mem_of_mem_insertSorted hlater with rfl | hmem
              · exact Std.lt_of_le_of_ne (Std.not_lt.mp hnot) (Ne.symm hne)
              · exact hfirst later hmem

end

end StubGen
