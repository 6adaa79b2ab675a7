import Mathlib.Data.List.Forall2
import StubGen.Comment
import StubGen.Proofs.Lines

/-!
# StubGen.Proofs.CommentLines

The comments of a node, line by line.

1. A block divides into lines in one way only, which `spans` finds (`divides_iff`): a line holds no
   character that ends lines, a carriage return never leaves the line feed behind it to the next
   line, and only the last line may lack a terminator, unless it is empty.
2. A comment line carries one line of a block (`Carries`): all of it, behind the marker.
3. The comment lines of a block carry its lines, one each (`propagates_markLines`), so that the
   block can be put together again (`Divides.flatMap_chars`), and without its terminators can be
   read off (`Divides.flatMap_text`).
-/

namespace StubGen

namespace Text

/-! ## Lines of a block -/

/-- The characters that end lines. -/
def lineEnds : List Char :=
  ['\n', '\x0b', '\x0c', '\r', '\x1c', '\x1d', '\x1e', '\u0085', '\u2028', '\u2029']

/-- The characters that end a line, as a list. -/
theorem isLineEnd_iff {c : Char} : isLineEnd c = true ↔ c ∈ lineEnds := by
  have hnumbers : [0x0a, 0x0b, 0x0c, 0x0d, 0x1c, 0x1d, 0x1e, 0x85, 0x2028, 0x2029] =
      lineEnds.map Char.toNat := rfl
  have hinjective : Function.Injective Char.toNat := fun _ _ h => Char.toNat_inj.mp h
  rw [isLineEnd, hnumbers, List.contains_iff_mem, List.mem_map_of_injective hinjective]

/-- A terminator, and what may follow it. -/
inductive Terminates : (ending rest : List Char) → Prop
  | single {c : Char} {rest : List Char} (h : c ∈ lineEnds)
      (hwhole : c = '\r' → rest.head? ≠ some '\n') : Terminates [c] rest
  | pair {rest : List Char} : Terminates ['\r', '\n'] rest

/-- The lines of a block, with their terminators. -/
inductive Divides : List Span → List Char → Prop
  | nil : Divides [] []
  | last {text : List Char} (hne : text ≠ []) (hfree : ∀ c ∈ text, c ∉ lineEnds) :
      Divides [⟨text, []⟩] text
  | line {text ending rest : List Char} {spans : List Span} (hfree : ∀ c ∈ text, c ∉ lineEnds)
      (hending : Terminates ending rest) (hrest : Divides spans rest) :
      Divides (⟨text, ending⟩ :: spans) (text ++ (ending ++ rest))

theorem Terminates.filter_eq_nil {ending rest : List Char} (h : Terminates ending rest) :
    ending.filter (· ∉ lineEnds) = [] := by
  cases h with
  | single hc => simp [hc]
  | pair => decide

/-- A terminator at the front ends an empty line. -/
theorem spans_append_of_terminates {ending rest : List Char} (h : Terminates ending rest) :
    spans (ending ++ rest) = ⟨[], ending⟩ :: spans rest := by
  cases h with
  | pair => rw [List.cons_append, List.singleton_append, spans]
  | @single c rest hc hwhole =>
      rw [List.singleton_append, spans, if_pos (isLineEnd_iff.mpr hc)]
      intro more hreturn hrest
      exact hwhole hreturn (by rw [hrest]; rfl)

/-- Any other character belongs to the first line. -/
theorem spans_cons_of_not_mem {c : Char} {rest : List Char} (h : c ∉ lineEnds) :
    spans (c :: rest) = Span.consFirst c (spans rest) := by
  rw [spans, if_neg (mt isLineEnd_iff.mp h)]
  intro more hreturn
  subst hreturn
  exact absurd (by decide) h

/-- Characters that end no line go in front of the first line. -/
theorem spans_append_of_forall_not_mem {text rest : List Char} (h : ∀ c ∈ text, c ∉ lineEnds) :
    spans (text ++ rest) = text.foldr Span.consFirst (spans rest) := by
  induction text with
  | nil => rfl
  | cons c text ih =>
      have hc := List.forall_mem_cons.mp h
      rw [List.cons_append, spans_cons_of_not_mem hc.1, ih hc.2, List.foldr_cons]

/-- The text in front of a line becomes part of it. -/
theorem foldr_consFirst_cons (text : List Char) (span : Span) (more : List Span) :
    text.foldr Span.consFirst (span :: more) = ⟨text ++ span.text, span.ending⟩ :: more := by
  induction text with
  | nil => rfl
  | cons c text ih => rw [List.foldr_cons, ih, Span.consFirst, List.cons_append]

/-- A text that nothing follows is a line without a terminator. -/
theorem foldr_consFirst_nil {text : List Char} (h : text ≠ []) :
    text.foldr Span.consFirst [] = [⟨text, []⟩] := by
  rw [← List.dropLast_concat_getLast h, List.foldr_append, List.foldr_cons, List.foldr_nil,
    Span.consFirst, foldr_consFirst_cons]

namespace Divides

variable {lines : List Span} {chars : List Char}

/-- Lines stay divided with one more character in the first. -/
theorem consFirst {c : Char} (hc : c ∉ lineEnds) (h : Divides lines chars) :
    Divides (Span.consFirst c lines) (c :: chars) := by
  cases h with
  | nil => exact .last (by simp) (by simpa using hc)
  | last hne hfree => exact .last (by simp) (List.forall_mem_cons.mpr ⟨hc, hfree⟩)
  | line hfree hending hrest => exact .line (List.forall_mem_cons.mpr ⟨hc, hfree⟩) hending hrest

/-- There is one way only to divide a block into lines. -/
theorem eq_spans (h : Divides lines chars) : lines = spans chars := by
  induction h with
  | nil => rfl
  | @last text hne hfree =>
      have hspans : spans (text ++ []) = text.foldr Span.consFirst (spans []) :=
        spans_append_of_forall_not_mem hfree
      rw [List.append_nil] at hspans
      rw [hspans, spans, foldr_consFirst_nil hne]
  | line hfree hending _ ih =>
      rw [spans_append_of_forall_not_mem hfree, spans_append_of_terminates hending,
        foldr_consFirst_cons, List.append_nil, ih]

/-- The lines with their terminators make up the block. -/
theorem flatMap_chars (h : Divides lines chars) :
    lines.flatMap (fun span => span.text ++ span.ending) = chars := by
  induction h with
  | nil => rfl
  | last => simp
  | line _ _ _ ih => rw [List.flatMap_cons, ih, List.append_assoc]

/-- No line holds a character that ends lines. -/
theorem free (h : Divides lines chars) : ∀ span ∈ lines, ∀ c ∈ span.text, c ∉ lineEnds := by
  rw [h.eq_spans]
  intro span hspan c hc hmem
  have hend : isLineEnd c = false := isLineEnd_of_mem_spans span hspan c hc
  rw [isLineEnd_iff.mpr hmem] at hend
  contradiction

/-- The lines alone are all of the block but the characters that end lines. -/
theorem flatMap_text (h : Divides lines chars) :
    lines.flatMap Span.text = chars.filter (· ∉ lineEnds) := by
  have hkept {text : List Char} (hfree : ∀ c ∈ text, c ∉ lineEnds) :
      text.filter (· ∉ lineEnds) = text :=
    List.filter_eq_self.mpr fun c hc => decide_eq_true (hfree c hc)
  induction h with
  | nil => rfl
  | last _ hfree => simp only [List.flatMap_cons, List.flatMap_nil, List.append_nil, hkept hfree]
  | line hfree hending _ ih =>
      rw [List.flatMap_cons, List.filter_append, List.filter_append, hkept hfree,
        hending.filter_eq_nil, ih, List.nil_append]

end Divides

theorem divides_spans (chars : List Char) : Divides (spans chars) chars := by
  fun_induction spans chars with
  | case1 => exact .nil
  | case2 rest ih => exact @Divides.line [] _ _ _ (by simp) .pair ih
  | case3 c rest hpair hend ih =>
      -- a carriage return with a line feed behind it is the case before
      refine @Divides.line [] _ _ _ (by simp) (.single (isLineEnd_iff.mp hend) ?_) ih
      intro hreturn hfeed
      obtain ⟨more, hmore⟩ := List.head?_eq_some_iff.mp hfeed
      exact hpair more hreturn hmore
  | case4 c rest _ hend ih => exact ih.consFirst (mt isLineEnd_iff.mpr hend)

/-- The lines of a block are its spans, and nothing else divides it. -/
theorem divides_iff {lines : List Span} {chars : List Char} :
    Divides lines chars ↔ lines = spans chars :=
  ⟨Divides.eq_spans, fun h => h ▸ divides_spans chars⟩

end Text

open Text

/-! ## Comment lines -/

/-- A comment line that carries a line of a block: the marker and then the line, set off by a space
unless it is empty or starts with one. -/
inductive Carries : Span → String → Prop
  | flush {span : Span} {line : String} (h : span.text = [] ∨ span.text.head? = some ' ')
      (hline : line.toList = '#' :: span.text) : Carries span line
  | spaced {span : Span} {line : String} (hne : span.text ≠ [])
      (hspace : span.text.head? ≠ some ' ') (hline : line.toList = '#' :: ' ' :: span.text) :
      Carries span line

/-- Comment lines that carry the lines of a block, one each and in order. -/
def Propagates (block : String) (lines : List String) : Prop :=
  ∃ spans, Divides spans block.toList ∧ List.Forall₂ Carries spans lines

/-- A text that is one comment line wherever lines are divided. -/
def IsWholeComment (line : String) : Prop :=
  line.toList.head? = some '#' ∧ ∀ c ∈ line.toList, c ∉ lineEnds

/-- A marked line carries the line that it was made of. -/
theorem carries_markLine (span : Span) :
    Carries span (markLine commentMarker (String.ofList span.text)) := by
  unfold markLine
  rw [String.toList_ofList]
  cases htext : span.text with
  | nil => exact .flush (.inl htext) (by rw [htext]; rfl)
  | cons c text =>
      dsimp only
      split
      · next hc =>
          refine .flush (.inr (by rw [htext, hc]; rfl)) ?_
          simp [commentMarker, htext]
      · next hc =>
          refine .spaced (by simp [htext]) (by simpa [htext] using hc) ?_
          simp [commentMarker, htext]

/-- A comment line that carries a line is one line wherever lines are divided. -/
theorem Carries.isWholeComment {span : Span} {line : String} (h : Carries span line)
    (hfree : ∀ c ∈ span.text, c ∉ lineEnds) : IsWholeComment line := by
  cases h with
  | flush _ hline =>
      rw [IsWholeComment, hline]
      exact ⟨rfl, List.forall_mem_cons.mpr ⟨by decide, hfree⟩⟩
  | spaced _ _ hline =>
      have hspaced : ∀ c ∈ ' ' :: span.text, c ∉ lineEnds :=
        List.forall_mem_cons.mpr ⟨by decide, hfree⟩
      rw [IsWholeComment, hline]
      exact ⟨rfl, List.forall_mem_cons.mpr ⟨by decide, hspaced⟩⟩

/-- The comment lines of a block carry its lines. -/
theorem propagates_markLines (block : String) :
    Propagates block (markLines commentMarker (blockLines block)) := by
  refine ⟨spans block.toList, divides_spans _, ?_⟩
  rw [markLines, blockLines, List.map_map, List.forall₂_map_right_iff, List.forall₂_same]
  exact fun span _ => carries_markLine span

theorem Propagates.isWholeComment {block : String} {lines : List String}
    (h : Propagates block lines) : ∀ line ∈ lines, IsWholeComment line := by
  obtain ⟨spans, hdivides, hlines⟩ := h
  have hfree := hdivides.free
  clear hdivides
  induction hlines with
  | nil => simp
  | cons hcarries _ ih =>
      have hall := List.forall_mem_cons.mp hfree
      exact List.forall_mem_cons.mpr ⟨hcarries.isWholeComment hall.1, ih hall.2⟩

namespace NodeComments

/-- The comment lines in front of a node: its detached blocks, each with an empty comment line
behind it, and the block right above. -/
theorem leadingLines_eq (comments : NodeComments) :
    comments.leadingLines =
      (comments.detached.map fun block => markLines commentMarker (blockLines block)).flatMap
        (fun lines => lines ++ ["#"]) ++
      markLines commentMarker (blockLines comments.leading) := by
  rw [leadingLines, rawLeading, markLines, List.map_append, List.map_flatMap, List.flatMap_map]
  simp only [List.map_append, List.map_singleton]
  rfl

/-- No comment in front of a node can end its line early. -/
theorem isWholeComment_of_mem_leadingLines {comments : NodeComments} {line : String}
    (h : line ∈ comments.leadingLines) : IsWholeComment line := by
  rw [leadingLines_eq, List.flatMap_map, List.mem_append, List.mem_flatMap] at h
  rcases h with ⟨block, _, hline⟩ | hline
  · rcases List.mem_append.mp hline with hline | hbare
    · exact (propagates_markLines block).isWholeComment line hline
    · have hempty : Carries ⟨[], []⟩ "#" := .flush (.inl rfl) rfl
      rw [List.mem_singleton.mp hbare]
      exact hempty.isWholeComment (by simp)
  · exact (propagates_markLines comments.leading).isWholeComment line hline

/-- **Comments are propagated line by line without loss.**  Before a node stand comment lines for
the lines of each detached block, each block followed by a bare marker, and then those for the
leading block; behind it stand those for the trailing block.  Each is one comment line wherever
lines are divided.  The lines of a block are well determined: with their terminators they are the
block, and without them they are all of it but the characters that end lines. -/
theorem comment_lines_lossless (comments : NodeComments) :
    (∃ detached leading, List.Forall₂ Propagates comments.detached detached ∧
      Propagates comments.leading leading ∧
      comments.leadingLines = detached.flatMap (fun lines => lines ++ ["#"]) ++ leading) ∧
    Propagates comments.trailing comments.trailingLines ∧
    (∀ line ∈ comments.leadingLines ++ comments.trailingLines, IsWholeComment line) ∧
    ∀ block : String, ∃ lines, (∀ other, Divides other block.toList ↔ other = lines) ∧
      blockLines block = lines.map (fun span => String.ofList span.text) ∧
      lines.flatMap (fun span => span.text ++ span.ending) = block.toList ∧
      lines.flatMap Span.text = block.toList.filter (· ∉ lineEnds) := by
  have htrailing : Propagates comments.trailing comments.trailingLines :=
    propagates_markLines comments.trailing
  refine ⟨⟨_, _, ?_, propagates_markLines comments.leading, comments.leadingLines_eq⟩, htrailing,
    ?_, fun block => ?_⟩
  · rw [List.forall₂_map_right_iff, List.forall₂_same]
    exact fun block _ => propagates_markLines block
  · intro line hline
    rcases List.mem_append.mp hline with hleading | hmem
    · exact isWholeComment_of_mem_leadingLines hleading
    · exact htrailing.isWholeComment line hmem
  · have hdivides := divides_spans block.toList
    exact ⟨_, fun _ => divides_iff, rfl, hdivides.flatMap_chars, hdivides.flatMap_text⟩

example : leadingLines { leading := "\n x\u2028", detached := ["", "one\r\n\r two"] } =
    ["#", "# one", "#", "# two", "#", "#", "# x"] := by
  decide

end NodeComments

end StubGen
