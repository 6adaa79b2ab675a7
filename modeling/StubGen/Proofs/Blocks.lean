import Mathlib.Data.List.TakeWhile
import StubGen.Proofs.LogicalLines

/-!
# StubGen.Proofs.Blocks

The rule of indentation.  Logical lines open and close blocks (`Blocks.place`):

1. behind a line that ends in a colon, the next one is indented deeper and opens a block;
2. behind any other line, the next one has the indentation of a block that is open, and closes all
   blocks inside that one.

Lines are *nested* (`isNested`) if they obey the rule and no block is missing at the end.  A block
is put together from its parts: lines that make up a *suite* can be a whole block (`Suite`), and
lines that *continue* one can follow there (`Continues`).  Lines that are nested on their own are a
suite wherever they are put (`suite_of_isNested`).
-/

namespace StubGen.Layout

/-! ## The rule -/

/-- The indentations of the open blocks, innermost first, and whether the last line has announced
another block. -/
structure Blocks where
  indents : List Nat := [0]
  announced : Bool := false
deriving DecidableEq, Repr

/-- The open blocks behind one more line, if it obeys the rule. -/
def Blocks.place (blocks : Blocks) (line : LogicalLine) : Option Blocks :=
  if blocks.announced then
    if blocks.indents.headD 0 < line.indent then some ⟨line.indent :: blocks.indents, line.opens⟩
    else none
  else
    let left := blocks.indents.dropWhile (line.indent < ·)
    if left.head? = some line.indent then some ⟨left, line.opens⟩ else none

/-- The open blocks behind more lines. -/
def Blocks.placeAll (blocks : Blocks) (lines : List LogicalLine) : Option Blocks :=
  lines.foldlM place blocks

/-- Whether logical lines obey the rule, and all announced blocks are there. -/
def isNested (lines : List LogicalLine) : Bool :=
  match Blocks.placeAll {} lines with
  | some blocks => !blocks.announced
  | none => false

/-- Whether the logical lines of a text are nested. -/
def isBlockStructured (text : String) : Bool :=
  match logicalLines? (Text.codeLines text) with
  | some lines => isNested lines
  | none => false

example : isBlockStructured "if a:\n    # why\n    f(\nb)\n\nelse:\n  g()\nh()\n" = true := by
  decide +kernel

-- A block is missing, a line opens a block that nothing announces, and a bracket is not closed.
example : isBlockStructured "if a:\nf()\n" = false ∧ isBlockStructured "f()\n    g()\n" = false ∧
    isBlockStructured "f(\n    g()\n" = false := by
  decide +kernel

/-! ## Inside a block -/

/-- A block of the given indentation is open inside `outer` ones.  There may be blocks inside it,
but none is announced. -/
structure Inside (indent : Nat) (outer : List Nat) (blocks : Blocks) : Prop where
  announced : blocks.announced = false
  indents : ∃ inner, blocks.indents = inner ++ indent :: outer ∧ ∀ other ∈ inner, indent < other

/-- A line of the given indentation may follow: its block is open, or is announced and may have this
indentation. -/
inductive Ready (indent : Nat) (outer : List Nat) (blocks : Blocks) : Prop
  | inside : Inside indent outer blocks → Ready indent outer blocks
  | announced : blocks = ⟨outer, true⟩ → outer.headD 0 < indent → Ready indent outer blocks

section

variable {indent : Nat} {outer : List Nat} {blocks : Blocks}

/-- A line of the right indentation closes the blocks inside its own, or opens its own. -/
theorem Ready.place (h : Ready indent outer blocks) (opens : Bool) :
    blocks.place ⟨indent, opens⟩ = some ⟨indent :: outer, opens⟩ := by
  cases h with
  | inside hinside =>
      obtain ⟨inner, hindents, hinner⟩ := hinside.indents
      have hleft : blocks.indents.dropWhile (indent < ·) = indent :: outer := by
        rw [hindents, List.dropWhile_append_of_pos (by simpa using hinner)]
        simp
      simp [Blocks.place, hinside.announced, hleft]
  | announced hblocks hdeeper =>
      rw [hblocks, Blocks.place, if_pos rfl, if_pos hdeeper]

/-- A line obeys the rule exactly when its indentation is that of a block it may stand in. -/
theorem place_eq_some_iff {line : LogicalLine} {next : Blocks} :
    blocks.place line = some next ↔
      ∃ outer, Ready line.indent outer blocks ∧ next = ⟨line.indent :: outer, line.opens⟩ := by
  constructor
  · intro h
    cases blocks with
    | mk indents announced =>
        -- an announced block must be deeper, any other line must stand in a block that is there
        cases announced with
        | true =>
            rw [Blocks.place, if_pos rfl] at h
            by_cases hdeeper : indents.headD 0 < line.indent
            · rw [if_pos hdeeper] at h
              exact ⟨indents, .announced rfl hdeeper, (Option.some.inj h).symm⟩
            · rw [if_neg hdeeper] at h
              contradiction
        | false =>
            rw [Blocks.place, if_neg Bool.false_ne_true] at h
            by_cases hhead : (indents.dropWhile (line.indent < ·)).head? = some line.indent
            · obtain ⟨outer, houter⟩ := List.head?_eq_some_iff.mp hhead
              have hinside : Inside line.indent outer ⟨indents, false⟩ := by
                refine ⟨rfl, indents.takeWhile (line.indent < ·), ?_, ?_⟩
                · rw [← houter, List.takeWhile_append_dropWhile]
                · intro other hother
                  simpa using List.mem_takeWhile_imp hother
              simp only [houter, List.head?_cons, if_true] at h
              exact ⟨outer, .inside hinside, (Option.some.inj h).symm⟩
            · simp only [if_neg hhead] at h
              contradiction
  · rintro ⟨outer, hready, rfl⟩
    exact hready.place line.opens

/-- What is inside an inner block is inside the outer one. -/
theorem Inside.outward {deeper : Nat} (h : Inside deeper (indent :: outer) blocks)
    (hdeeper : indent < deeper) : Inside indent outer blocks := by
  obtain ⟨inner, hindents, hinner⟩ := h.indents
  refine ⟨h.announced, inner ++ [deeper], by simpa using hindents, ?_⟩
  intro other hother
  rcases List.mem_append.mp hother with hmem | hmem
  · exact hdeeper.trans (hinner other hmem)
  · rwa [List.mem_singleton.mp hmem]

end

/-! ## Suites -/

/-- Lines that can make up a whole block of the given indentation, or follow in one. -/
def Suite (indent : Nat) (lines : List LogicalLine) : Prop :=
  ∀ outer blocks, Ready indent outer blocks →
    ∃ next, blocks.placeAll lines = some next ∧ Inside indent outer next

/-- Lines that can follow in a block of the given indentation. -/
def Continues (indent : Nat) (lines : List LogicalLine) : Prop :=
  ∀ outer blocks, Inside indent outer blocks →
    ∃ next, blocks.placeAll lines = some next ∧ Inside indent outer next

/-- Lines may be placed in two goes. -/
theorem placeAll_append {blocks next : Blocks} {first : List LogicalLine}
    (h : blocks.placeAll first = some next) (second : List LogicalLine) :
    blocks.placeAll (first ++ second) = next.placeAll second := by
  rw [Blocks.placeAll, List.foldlM_append, ← Blocks.placeAll, h]
  rfl

theorem Ready.placeAll_cons {blocks : Blocks} {line : LogicalLine} {outer : List Nat}
    (h : Ready line.indent outer blocks) (lines : List LogicalLine) :
    blocks.placeAll (line :: lines) = Blocks.placeAll ⟨line.indent :: outer, line.opens⟩ lines := by
  rw [Blocks.placeAll, List.foldlM_cons, h.place line.opens]
  rfl

/-- A line that was placed had a block ready for it, be it a new one or one that was there. -/
theorem placeAll_cons_eq_some {blocks next : Blocks} {line : LogicalLine}
    {lines : List LogicalLine} (h : blocks.placeAll (line :: lines) = some next) :
    ∃ outer, Ready line.indent outer blocks ∧
      Blocks.placeAll ⟨line.indent :: outer, line.opens⟩ lines = some next := by
  obtain ⟨middle, hmiddle, hnext⟩ := Option.bind_eq_some_iff.mp h
  obtain ⟨outer, hready, rfl⟩ := place_eq_some_iff.mp hmiddle
  exact ⟨outer, hready, hnext⟩

section

variable {indent : Nat} {first second : List LogicalLine}

/-- What can be a block can also follow in one. -/
theorem Suite.continues (h : Suite indent first) : Continues indent first :=
  fun outer blocks hinside => h outer blocks (.inside hinside)

theorem continues_nil : Continues indent [] :=
  fun _ blocks hinside => ⟨blocks, rfl, hinside⟩

/-- What follows in a block one after the other follows in it together. -/
theorem Continues.append (hfirst : Continues indent first) (hsecond : Continues indent second) :
    Continues indent (first ++ second) := by
  intro outer blocks hinside
  obtain ⟨middle, hmiddle, hinside'⟩ := hfirst outer blocks hinside
  obtain ⟨next, hnext, hlast⟩ := hsecond outer middle hinside'
  exact ⟨next, by rw [placeAll_append hmiddle, hnext], hlast⟩

/-- A block may go on. -/
theorem Suite.append (hfirst : Suite indent first) (hsecond : Continues indent second) :
    Suite indent (first ++ second) := by
  intro outer blocks hready
  obtain ⟨middle, hmiddle, hinside⟩ := hfirst outer blocks hready
  obtain ⟨next, hnext, hlast⟩ := hsecond outer middle hinside
  exact ⟨next, by rw [placeAll_append hmiddle, hnext], hlast⟩

/-- A line that ends in a colon and a suite that lies deeper are a suite. -/
theorem Suite.header {deeper : Nat} (hdeeper : indent < deeper) (h : Suite deeper first) :
    Suite indent (⟨indent, true⟩ :: first) := by
  intro outer blocks hready
  have hplaced : blocks.placeAll (⟨indent, true⟩ :: first) =
      Blocks.placeAll ⟨indent :: outer, true⟩ first :=
    Ready.placeAll_cons hready first
  obtain ⟨next, hnext, hinside⟩ := h (indent :: outer) ⟨indent :: outer, true⟩
    (.announced rfl hdeeper)
  exact ⟨next, by rw [hplaced, hnext], hinside.outward hdeeper⟩

/-- Lines that continue the outermost block are nested. -/
theorem Continues.isNested (h : Continues 0 first) : isNested first = true := by
  have hstart : Inside 0 [] {} := ⟨rfl, [], rfl, by simp⟩
  obtain ⟨next, hnext, hinside⟩ := h [] {} hstart
  simp [Layout.isNested, hnext, hinside.announced]

end

/-! ## Nested lines anywhere -/

/-- Open blocks, put inside others and indented further. -/
def Blocks.within (blocks : Blocks) (columns : Nat) (around : List Nat) : Blocks :=
  ⟨blocks.indents.map (columns + ·) ++ around, blocks.announced⟩

section

variable {indent : Nat} {outer : List Nat} {blocks next : Blocks} (columns : Nat)
  (around : List Nat)

/-- Being inside a block does not depend on what is around it. -/
theorem Inside.within (h : Inside indent outer blocks) :
    Inside (columns + indent) (outer.map (columns + ·) ++ around)
      (blocks.within columns around) := by
  obtain ⟨inner, hindents, hinner⟩ := h.indents
  refine ⟨h.announced, inner.map (columns + ·), ?_, ?_⟩
  · simp [Blocks.within, hindents]
  · simpa using hinner

theorem Ready.within (h : Ready indent outer blocks) (hne : blocks.indents ≠ []) :
    Ready (columns + indent) (outer.map (columns + ·) ++ around)
      (blocks.within columns around) := by
  cases h with
  | inside hinside => exact .inside (hinside.within columns around)
  | announced hblocks hdeeper =>
      subst hblocks
      obtain ⟨current, rest, rfl⟩ := List.exists_cons_of_ne_nil hne
      exact .announced rfl (Nat.add_lt_add_left hdeeper columns)

/-- Open blocks take lines in the same way wherever they lie. -/
theorem placeAll_within {lines : List LogicalLine} (hne : blocks.indents ≠ [])
    (h : blocks.placeAll lines = some next) :
    (blocks.within columns around).placeAll (lines.map (LogicalLine.shift columns)) =
      some (next.within columns around) := by
  induction lines generalizing blocks with
  | nil =>
      rw [← Option.some.inj h]
      rfl
  | cons line rest ih =>
      obtain ⟨outer, hready, hrest⟩ := placeAll_cons_eq_some h
      have hwithin : Ready (line.shift columns).indent (outer.map (columns + ·) ++ around)
          (blocks.within columns around) := hready.within columns around hne
      rw [List.map_cons, hwithin.placeAll_cons]
      exact ih (List.cons_ne_nil _ _) hrest

end

/-- The outermost block is not indented, and all others are. -/
def Blocks.Grounded (blocks : Blocks) : Prop :=
  ∃ inner, blocks.indents = inner ++ [0] ∧ ∀ other ∈ inner, 0 < other

theorem grounded_of_ready {indent : Nat} {outer : List Nat} {blocks : Blocks}
    (hground : blocks.Grounded) (h : Ready indent outer blocks) (opens : Bool) :
    Blocks.Grounded ⟨indent :: outer, opens⟩ := by
  obtain ⟨inner, hindents, hinner⟩ := hground
  cases h with
  | announced hblocks hdeeper =>
      subst hblocks
      have hpositive : 0 < indent := Nat.zero_lt_of_lt hdeeper
      exact ⟨indent :: inner, congrArg (indent :: ·) hindents,
        List.forall_mem_cons.mpr ⟨hpositive, hinner⟩⟩
  | inside hinside =>
      obtain ⟨closed, hclosed, _⟩ := hinside.indents
      rw [hindents, List.append_eq_append_iff] at hclosed
      rcases hclosed with ⟨rest, _, hrest⟩ | ⟨kept, rfl, hkept⟩
      · have hbottom : indent :: outer = [0] := by
          cases rest with
          | nil => exact hrest.symm
          | cons _ _ => simp at hrest
        exact ⟨[], hbottom, by simp⟩
      · exact ⟨kept, hkept, fun other hother => hinner other (List.mem_append_right _ hother)⟩

/-- Lines that are placed do not close the outermost block. -/
theorem grounded_placeAll {blocks next : Blocks} {lines : List LogicalLine}
    (hground : blocks.Grounded) (h : blocks.placeAll lines = some next) : next.Grounded := by
  induction lines generalizing blocks with
  | nil => rwa [← Option.some.inj h]
  | cons line rest ih =>
      obtain ⟨outer, hready, hrest⟩ := placeAll_cons_eq_some h
      exact ih (grounded_of_ready hground hready line.opens) hrest

/-- The first line stands in the outermost block, as there is no other yet. -/
theorem eq_of_ready_start {indent : Nat} {outer : List Nat} (h : Ready indent outer {}) :
    indent = 0 ∧ outer = [] := by
  cases h with
  | announced hblocks _ => simp at hblocks
  | inside hinside =>
      obtain ⟨inner, hindents, _⟩ := hinside.indents
      cases inner with
      | nil => simpa [eq_comm] using hindents
      | cons _ _ => simp at hindents

/-- Lines that are nested on their own are a suite wherever they are put. -/
theorem suite_of_isNested {lines : List LogicalLine} (hne : lines ≠ [])
    (h : isNested lines = true) (columns : Nat) :
    Suite columns (lines.map (LogicalLine.shift columns)) := by
  intro outer blocks hready
  cases hplaced : Blocks.placeAll {} lines with
  | none => simp [isNested, hplaced] at h
  | some next =>
      have hannounced : next.announced = false := by simpa [isNested, hplaced] using h
      obtain ⟨inner, hindents, hinner⟩ := grounded_placeAll ⟨[], rfl, by simp⟩ hplaced
      have hinside : Inside 0 [] next := ⟨hannounced, inner, hindents, hinner⟩
      refine ⟨next.within columns outer, ?_, hinside.within columns outer⟩
      obtain ⟨line, rest, rfl⟩ := List.exists_cons_of_ne_nil hne
      obtain ⟨around, hfirst, hrest⟩ := placeAll_cons_eq_some hplaced
      obtain ⟨hindent, rfl⟩ := eq_of_ready_start hfirst
      have hstart : Ready (line.shift columns).indent outer blocks := by
        rwa [LogicalLine.shift, hindent, Nat.add_zero]
      rw [hindent] at hrest
      rw [List.map_cons, hstart.placeAll_cons, LogicalLine.shift, hindent]
      exact placeAll_within columns outer (List.cons_ne_nil _ _) hrest

end StubGen.Layout
