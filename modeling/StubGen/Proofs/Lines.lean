import StubGen.Emitter
import StubGen.Proofs.Lists

/-!
# StubGen.Proofs.Lines

Splitting texts into lines, proved once so that later proofs need not go back to characters.

1. A text that is joined from lines splits into the lines of those lines (`codeLines_joinLines`):
   a line that holds a line feed comes back as several.
2. Line feeds at the end of a text are empty lines at its end
   (`codeLines_eq_dropTrailingNewlines_append`), so the text of an emitter has its lines, up to
   empty ones at the end (`rdropWhile_codeLines_text`).
3. No line of a comment block holds a character that ends lines (`isLineEnd_of_mem_blockLines`).
-/

namespace StubGen.Text

/-! ## Lines of generated code -/

/-- Parts do not hold what they were split at. -/
theorem not_mem_of_mem_splitOn {separator : Char} {chars part : List Char}
    (h : part ∈ chars.splitOn separator) : separator ∉ part := by
  induction chars generalizing part with
  | nil => simp_all
  | cons c rest ih =>
      rw [List.splitOn_cons_eq_if_modifyHead] at h
      split at h
      · rcases List.mem_cons.mp h with rfl | h
        · simp
        · exact ih h
      · next hc =>
          cases hrest : rest.splitOn separator with
          | nil => exact absurd hrest (List.splitOn_ne_nil separator rest)
          | cons first more =>
              rw [hrest] at h ih
              rcases List.mem_cons.mp h with rfl | h
              · have hfirst := ih List.mem_cons_self
                have hne : separator ≠ c := fun heq => hc (by simp [heq])
                exact List.not_mem_cons_of_ne_of_not_mem hne hfirst
              · exact ih (List.mem_cons_of_mem _ h)

/-- A text without a line feed is one line. -/
theorem codeLines_of_not_mem {text : String} (h : '\n' ∉ text.toList) :
    codeLines text = [text] := by
  rw [codeLines, List.splitOn_eq_singleton h]
  simp

theorem codeLines_empty : codeLines "" = [""] :=
  codeLines_of_not_mem (by simp)

/-- A line feed ends a line. -/
theorem codeLines_append_newline_append (first second : String) :
    codeLines (first ++ "\n" ++ second) = codeLines first ++ codeLines second := by
  have htext : (first ++ "\n" ++ second).toList = first.toList ++ '\n' :: second.toList := by simp
  rw [codeLines, htext, List.splitOn_append_cons_self, List.map_append]
  rfl

/-- A line feed at the end opens an empty line. -/
theorem codeLines_append_newline (text : String) :
    codeLines (text ++ "\n") = codeLines text ++ [""] := by
  have h := codeLines_append_newline_append text ""
  rwa [String.append_empty, codeLines_empty] at h

/-- Joined lines split into the lines of each. -/
theorem codeLines_joinLines {lines : List String} (h : lines ≠ []) :
    codeLines (joinLines lines) = lines.flatMap codeLines := by
  induction lines with
  | nil => contradiction
  | cons line rest ih =>
      by_cases hrest : rest = []
      · subst hrest
        simp [joinLines]
      · rw [joinLines, String.intercalate_cons_of_ne_nil hrest, codeLines_append_newline_append,
          List.flatMap_cons, ← ih hrest]
        rfl

/-! ## Trailing line feeds -/

theorem toList_dropTrailing (p : Char → Bool) (text : String) :
    (dropTrailing p text).toList = text.toList.rdropWhile p := by
  simp [dropTrailing, List.rdropWhile]

/-- Line feeds at the end make empty lines. -/
theorem splitOn_append_replicate (chars : List Char) (count : Nat) :
    (chars ++ List.replicate count '\n').splitOn '\n' =
      chars.splitOn '\n' ++ List.replicate count [] := by
  induction count with
  | zero => simp
  | succ count ih =>
      rw [List.replicate_succ', ← List.append_assoc, List.splitOn_append_cons_self, ih,
        List.replicate_succ', List.append_assoc]
      rfl

/-- A text is what is left without the line feeds at its end, and these line feeds. -/
theorem toList_eq_dropTrailingNewlines_append (text : String) :
    ∃ count, text.toList = (dropTrailingNewlines text).toList ++ List.replicate count '\n' := by
  have hnewlines : ∀ c ∈ text.toList.rtakeWhile (· == '\n'), c = '\n' := fun c hc => by
    simpa using List.mem_rtakeWhile_imp hc
  refine ⟨(text.toList.rtakeWhile (· == '\n')).length, ?_⟩
  rw [← List.eq_replicate_of_mem hnewlines, dropTrailingNewlines, toList_dropTrailing,
    List.rdropWhile_append_rtakeWhile]

/-- Line feeds at the end of a text are empty lines at its end. -/
theorem codeLines_eq_dropTrailingNewlines_append (text : String) :
    ∃ count, codeLines text = codeLines (dropTrailingNewlines text) ++ List.replicate count "" := by
  obtain ⟨count, hcount⟩ := toList_eq_dropTrailingNewlines_append text
  refine ⟨count, ?_⟩
  have hempty : String.ofList [] = "" := rfl
  unfold codeLines
  rw [hcount, splitOn_append_replicate, List.map_append, List.map_replicate, hempty]

/-- The text of an emitter has its lines, up to empty ones at the end. -/
theorem exists_codeLines_text (out : Emitter) : ∃ kept count count',
    codeLines out.text = kept ++ List.replicate count "" ∧
      out.lines.flatMap codeLines = kept ++ List.replicate count' "" := by
  by_cases hlines : out.lines = []
  · have htext : out.text = "\n" := by
      rw [Emitter.text, hlines]
      rfl
    refine ⟨[], 2, 0, ?_, by rw [hlines]; rfl⟩
    rw [htext]
    exact codeLines_append_newline_append "" ""
  · obtain ⟨count, hcount⟩ := codeLines_eq_dropTrailingNewlines_append (joinLines out.lines)
    refine ⟨_, 1, count, ?_, by rw [← codeLines_joinLines hlines, hcount]⟩
    rw [Emitter.text, codeLines_append_newline]
    rfl

/-- The lines of an emitter are those of its text, up to empty lines at the end. -/
theorem rdropWhile_codeLines_text (keep : String → Bool) (out : Emitter) :
    ((codeLines out.text).filter keep).rdropWhile (· == "") =
      ((out.lines.flatMap codeLines).filter keep).rdropWhile (· == "") := by
  have hblanks : ∀ (lines : List String) (count : Nat),
      ((lines ++ List.replicate count "").filter keep).rdropWhile (· == "") =
        (lines.filter keep).rdropWhile (· == "") := by
    intro lines count
    rw [List.filter_append]
    apply rdropWhile_append_of_forall
    intro line hline
    simp [List.eq_of_mem_replicate (List.mem_of_mem_filter hline)]
  obtain ⟨kept, count, count', htext, hlines⟩ := exists_codeLines_text out
  rw [htext, hlines, hblanks, hblanks]

/-! ## Lines of comment blocks -/

/-- The text of every line is free of characters that end lines. -/
theorem isLineEnd_of_mem_spans {chars : List Char} :
    ∀ span ∈ spans chars, ∀ c ∈ span.text, isLineEnd c = false := by
  fun_induction spans chars with
  | case1 => simp
  | case2 rest ih => simpa using ih
  | case3 c rest _ hend ih => simpa [hend] using ih
  | case4 c rest _ hend ih =>
      simp only [Bool.not_eq_true] at hend
      cases hspans : spans rest with
      | nil => simp [Span.consFirst, hend]
      | cons span more =>
          rw [hspans] at ih
          simp only [Span.consFirst, List.forall_mem_cons] at ih ⊢
          exact ⟨⟨hend, ih.1⟩, ih.2⟩

/-- No line of a block holds a character that ends lines. -/
theorem isLineEnd_of_mem_blockLines {text line : String} (h : line ∈ blockLines text) :
    ∀ c ∈ line.toList, isLineEnd c = false := by
  obtain ⟨span, hspan, rfl⟩ := List.mem_map.mp h
  simpa using isLineEnd_of_mem_spans span hspan

end StubGen.Text
