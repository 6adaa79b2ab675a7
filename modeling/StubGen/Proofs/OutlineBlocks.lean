import StubGen.Proofs.Blocks
import StubGen.Proofs.CommentErasure
import StubGen.Proofs.Sketch

/-!
# StubGen.Proofs.OutlineBlocks

Outlines as blocks of code.

1. An outline is read piece by piece (`Outline.HasLogicalLines.append`), each piece at its own depth
   (`Piece.hasLogicalLines_here`, `Outline.HasLogicalLines.deeper`).  Comments and empty lines are
   not read (`Outline.IsSilent`).
2. An outline may make up a whole block of its level, or follow in one (`Outline.IsSuite`,
   `Outline.Follows`); larger ones are put together from such parts, and from lines that announce a
   block one level deeper (`Outline.IsSuite.header`).
3. A snippet that is nested on its own is a suite at any level (`Snippet.isSuite_here`).  Whether it
   is can be computed from a sketch (`isNestedCode_of_sketch`).
-/

namespace StubGen.Stub

open Text Emitter Layout

/-! ## Reading outlines -/

namespace Outline

/-- The logical lines of an outline, written at a level. -/
def HasLogicalLines (level : Nat) (outline : Outline) (read : List LogicalLine) : Prop :=
  logicalLines? ((outline.linesAt "    " level).flatMap codeLines) = some read

/-- An outline of which nothing is read. -/
def IsSilent (level : Nat) (outline : Outline) : Prop :=
  outline.HasLogicalLines level []

variable {level : Nat} {first second : Outline} {read read' : List LogicalLine}

/-- Outlines that are read one after the other are read together. -/
theorem HasLogicalLines.append (hfirst : first.HasLogicalLines level read)
    (hsecond : second.HasLogicalLines level read') :
    HasLogicalLines level (first ++ second) (read ++ read') := by
  rw [HasLogicalLines, linesAt, List.flatMap_append, List.flatMap_append]
  exact logicalLines?_append hfirst hsecond

/-- An outline one level deeper is read as it is one level deeper. -/
theorem HasLogicalLines.deeper (h : first.HasLogicalLines (level + 1) read) :
    first.deeper.HasLogicalLines level read := by
  rwa [HasLogicalLines, linesAt_deeper]

theorem isSilent_nil : IsSilent level [] := rfl

theorem IsSilent.append (hfirst : first.IsSilent level) (hsecond : second.IsSilent level) :
    IsSilent level (first ++ second) :=
  HasLogicalLines.append hfirst hsecond

end Outline

theorem length_indentationOf (levels : Nat) :
    (indentationOf "    " levels).length = 4 * levels := by
  rw [indentationOf, ← String.length_toList, String.toList_join, List.length_flatMap,
    List.map_replicate, List.sum_replicate_nat]
  exact Nat.mul_comm levels 4

/-- A piece of single lines is read at its level. -/
theorem Piece.hasLogicalLines_here (piece : Piece) {read : List LogicalLine}
    (h : Layout.Reads piece.lines read) (level : Nat) :
    Outline.HasLogicalLines level [piece.here] (read.map (.shift (4 * level))) := by
  have hspaces := eq_space_of_mem_indentationOf level
  have hsingle : ∀ line ∈ piece.lines.map (indentLine (indentationOf "    " level)),
      codeLines line = [line] := by
    rw [List.forall_mem_map]
    intro line hline
    apply codeLines_of_not_mem
    unfold indentLine
    split
    · simp
    · rw [String.toList_append, List.mem_append, not_or]
      exact ⟨fun hmem => absurd (hspaces _ hmem) (by decide), h.single line hline⟩
  have hlines : Outline.linesAt "    " level [piece.here] =
      piece.lines.map (indentLine (indentationOf "    " level)) := by
    simp [Outline.linesAt, Placed.linesAt, Piece.here]
  rw [Outline.HasLogicalLines, hlines, List.flatMap_congr hsingle, List.flatMap_singleton',
    logicalLines?_indented hspaces, h.logical, Option.map_some, length_indentationOf]

/-- Empty lines at the end of some code count for nothing. -/
theorem logicalLines?_append_replicate (lines : List String) (count : Nat) :
    logicalLines? (lines ++ List.replicate count "") = logicalLines? lines := by
  rw [logicalLines?, readSignificant, List.map_append, List.filter_append, List.map_replicate,
    List.filter_replicate_of_neg (by decide), List.append_nil]
  rfl

/-- A snippet reads as its lines do. -/
theorem Snippet.reads_lines {code : Snippet} {read : List LogicalLine}
    (h : Layout.Reads code.lines read) : Layout.Reads (Piece.snippet code).lines read := by
  have hne : code.lines ≠ [] := by cases code <;> exact List.cons_ne_nil _ _
  have hsplit : code.lines.flatMap codeLines = code.lines := by
    rw [List.flatMap_congr fun line hline => codeLines_of_not_mem (h.single line hline),
      List.flatMap_singleton']
  obtain ⟨count, hcount⟩ := codeLines_eq_dropTrailingNewlines_append (joinLines code.lines)
  rw [codeLines_joinLines hne, hsplit] at hcount
  constructor
  · intro line hline
    apply h.single line
    rw [hcount]
    exact List.mem_append_left _ hline
  · have hlogical := h.logical
    rwa [hcount, logicalLines?_append_replicate] at hlogical

/-- Comment lines count for nothing. -/
theorem logicalLines?_of_isCommentLine {lines : List String}
    (h : ∀ line ∈ lines, isCommentLine line = true) : logicalLines? lines = some [] := by
  have hkept : (lines.map String.toList).filter isSignificant = [] := by
    rw [List.filter_eq_nil_iff, List.forall_mem_map]
    intro line hline
    have hcomment := h line hline
    rw [isCommentLine, beq_iff_eq] at hcomment
    obtain ⟨rest, hrest⟩ := List.head?_eq_some_iff.mp hcomment
    simp [isSignificant, hrest]
  rw [logicalLines?, readSignificant, hkept]
  rfl

/-- Marked comments are not read. -/
theorem isSilent_comment {lines : List String} (h : (Piece.comment lines).Marked) (level : Nat) :
    Outline.IsSilent level [(Piece.comment lines).here] := by
  have hmarked : (Piece.comment lines).here.piece.Marked := h
  have hnone := Outline.codeLinesAt_comment rfl hmarked level
  rw [Outline.codeLinesAt, List.filter_eq_nil_iff] at hnone
  exact logicalLines?_of_isCommentLine (by simpa using hnone)

/-! ## Outlines as blocks -/

namespace Outline

/-- An outline that can be a whole block at its level, or follow in one. -/
def IsSuite (level : Nat) (outline : Outline) : Prop :=
  ∃ read, outline.HasLogicalLines level read ∧ Suite (4 * level) read

/-- An outline that can follow in a block at its level. -/
def Follows (level : Nat) (outline : Outline) : Prop :=
  ∃ read, outline.HasLogicalLines level read ∧ Continues (4 * level) read

variable {level : Nat} {first second body : Outline}

/-- What can be a block can also follow in one. -/
theorem IsSuite.follows (h : first.IsSuite level) : first.Follows level := by
  obtain ⟨read, hread, hsuite⟩ := h
  exact ⟨read, hread, hsuite.continues⟩

/-- What is not read may follow anywhere. -/
theorem IsSilent.follows (h : first.IsSilent level) : first.Follows level :=
  ⟨[], h, continues_nil⟩

/-- Outlines may follow one another in a block. -/
theorem Follows.append (hfirst : first.Follows level) (hsecond : second.Follows level) :
    Follows level (first ++ second) := by
  obtain ⟨read, hread, hcontinues⟩ := hfirst
  obtain ⟨read', hread', hcontinues'⟩ := hsecond
  exact ⟨read ++ read', hread.append hread', hcontinues.append hcontinues'⟩

/-- A block may go on. -/
theorem IsSuite.append (hfirst : first.IsSuite level) (hsecond : second.Follows level) :
    IsSuite level (first ++ second) := by
  obtain ⟨read, hread, hsuite⟩ := hfirst
  obtain ⟨read', hread', hcontinues⟩ := hsecond
  exact ⟨read ++ read', hread.append hread', hsuite.append hcontinues⟩

/-- What is not read may stand in front of a block. -/
theorem IsSuite.append_left (hfirst : first.IsSilent level) (hsecond : second.IsSuite level) :
    IsSuite level (first ++ second) := by
  obtain ⟨read, hread, hsuite⟩ := hsecond
  exact ⟨read, HasLogicalLines.append hfirst hread, hsuite⟩

/-- A block stays one between the comments of any node. -/
theorem IsSuite.between (h : body.IsSuite level) (comments : CommentIndex) (location : Location) :
    IsSuite level ([(Piece.comment (comments.leadingAt location)).here] ++ body ++
      [(Piece.comment (comments.trailingAt location)).here]) := by
  have hleading := isSilent_comment (marked_leadingAt comments location) level
  have htrailing := isSilent_comment (marked_trailingAt comments location) level
  exact (h.append_left hleading).append htrailing.follows

/-- Any number of outlines may follow one another in a block. -/
theorem follows_flatMap {outline : α → Outline} {elements : List α}
    (h : ∀ element ∈ elements, (outline element).Follows level) :
    Follows level (elements.flatMap outline) := by
  induction elements with
  | nil => exact isSilent_nil.follows
  | cons element rest ih =>
      rw [List.forall_mem_cons] at h
      exact h.1.append (ih h.2)

/-- A line that ends in a colon and a block one level deeper are a suite. -/
theorem IsSuite.header {text : String} (hheader : Layout.Reads [text] [⟨0, true⟩])
    (hbody : body.IsSuite (level + 1)) :
    IsSuite level ([(Piece.line text).here] ++ body.deeper) := by
  obtain ⟨read, hread, hsuite⟩ := hbody
  have hline : Outline.HasLogicalLines level [(Piece.line text).here] [⟨4 * level, true⟩] :=
    (Piece.line text).hasLogicalLines_here hheader level
  exact ⟨_, hline.append hread.deeper, hsuite.header (by omega)⟩

end Outline

/-- Lines that are nested on their own. -/
def IsNestedCode (lines : List String) : Prop :=
  ∃ read, Layout.Reads lines read ∧ read ≠ [] ∧ isNested read = true

theorem Piece.isSuite_here (piece : Piece) (h : IsNestedCode piece.lines) (level : Nat) :
    Outline.IsSuite level [piece.here] := by
  obtain ⟨read, hread, hne, hnested⟩ := h
  exact ⟨_, piece.hasLogicalLines_here hread level, suite_of_isNested hne hnested _⟩

/-- A snippet that is nested on its own is a suite at any level. -/
theorem Snippet.isSuite_here {code : Snippet} (h : IsNestedCode code.lines) (level : Nat) :
    Outline.IsSuite level [(Piece.snippet code).here] := by
  obtain ⟨read, hread, hne, hnested⟩ := h
  exact (Piece.snippet code).isSuite_here ⟨read, Snippet.reads_lines hread, hne, hnested⟩ level

/-- Whether the sketch of some code is nested. -/
def isNestedSketch (sketch : List (List Char)) : Bool :=
  sketch.all isSingle &&
    match readSignificant sketch with
    | some read => !read.isEmpty && isNested read
    | none => false

/-- Whether code is nested is seen from its sketch. -/
theorem isNestedCode_of_sketch {lines : List String} {sketch : List (List Char)}
    (h : LinesSketch lines sketch) (hsketch : isNestedSketch sketch = true) :
    IsNestedCode lines := by
  rw [isNestedSketch, Bool.and_eq_true] at hsketch
  obtain ⟨hsingle, hread⟩ := hsketch
  cases hlines : readSignificant sketch with
  | none => simp [hlines] at hread
  | some read =>
      have hnested : read ≠ [] ∧ isNested read = true := by simpa [hlines] using hread
      exact ⟨read, reads_of_sketch h hsingle hlines, hnested⟩

end StubGen.Stub
