import StubGen.Proofs.Lines
import StubGen.Proofs.Outline

/-!
# StubGen.Proofs.CommentErasure

Schema comments do not reach the code.  What a module says is what is left of its text without its
comment lines, and without empty lines at the end (`codeOf`).

1. Every line of a schema comment starts with the marker and holds no line feed (`IsMarked`), so
   that it is one comment line of the text at any indentation.
2. Without its comments, the outline of a module is that of the module written without any, up to an
   empty line at the end (`code_moduleOutline`).
3. So the code of a module does not depend on the comments of its file (`codeOf_writeModule`).
-/

namespace StubGen.Stub

open Text Emitter

/-! ## Comment lines -/

/-- Whether the first character of a line that is no space is the comment marker. -/
def isCommentLine (line : String) : Bool :=
  (line.toList.dropWhile (· == ' ')).head? == some '#'

/-- The lines of a text that are no comment lines, without the empty lines at their end. -/
def codeOf (text : String) : List String :=
  ((codeLines text).filter fun line => !isCommentLine line).rdropWhile (· == "")

/-- A single line that starts with the comment marker. -/
structure IsMarked (line : String) : Prop where
  head : line.toList.head? = some '#'
  single : '\n' ∉ line.toList

/-- A line without a line feed becomes a comment line. -/
theorem isMarked_markLine {line : String} (h : '\n' ∉ line.toList) :
    IsMarked (markLine commentMarker line) := by
  unfold markLine
  split
  · exact ⟨rfl, by decide⟩
  · split
    · exact ⟨by simp [commentMarker], by simpa [commentMarker] using h⟩
    · exact ⟨by simp [commentMarker], by simpa [commentMarker] using h⟩

/-- The lines of a block hold no line feed, which is one of the characters that end them. -/
theorem not_mem_of_mem_blockLines {text line : String} (h : line ∈ blockLines text) :
    '\n' ∉ line.toList := by
  intro hmem
  have hend : isLineEnd '\n' = false := isLineEnd_of_mem_blockLines h '\n' hmem
  exact absurd hend (by decide)

/-- Comments in front of a node are comment lines. -/
theorem isMarked_of_mem_leadingAt {comments : CommentIndex} {location : Location} {line : String}
    (h : line ∈ comments.leadingAt location) : IsMarked line := by
  obtain ⟨raw, hraw, rfl⟩ := List.mem_map.mp h
  apply isMarked_markLine
  simp only [NodeComments.rawLeading, List.mem_append, List.mem_flatMap, List.mem_singleton] at hraw
  rcases hraw with ⟨block, _, hblock | rfl⟩ | hleading
  · exact not_mem_of_mem_blockLines hblock
  · simp
  · exact not_mem_of_mem_blockLines hleading

/-- Comments behind a node are comment lines. -/
theorem isMarked_of_mem_trailingAt {comments : CommentIndex} {location : Location} {line : String}
    (h : line ∈ comments.trailingAt location) : IsMarked line := by
  obtain ⟨raw, hraw, rfl⟩ := List.mem_map.mp h
  exact isMarked_markLine (not_mem_of_mem_blockLines hraw)

/-- A marked line is a comment line behind any number of spaces. -/
theorem filter_codeLines_of_isMarked {line indentation : String} (h : IsMarked line)
    (hspaces : ∀ c ∈ indentation.toList, c = ' ') :
    (codeLines (indentLine indentation line)).filter (fun line => !isCommentLine line) = [] := by
  obtain ⟨rest, hrest⟩ := List.head?_eq_some_iff.mp h.head
  have hne : line ≠ "" := by
    rintro rfl
    simp at hrest
  have hsingle : '\n' ∉ (indentation ++ line).toList := by
    rw [String.toList_append, List.mem_append, not_or]
    exact ⟨fun hmem => absurd (hspaces '\n' hmem) (by decide), h.single⟩
  have hcomment : isCommentLine (indentation ++ line) = true := by
    have hdrop : ∀ c ∈ indentation.toList, (c == ' ') = true := by simpa using hspaces
    simp [isCommentLine, List.dropWhile_append_of_pos hdrop, hrest]
  rw [indentLine, if_neg hne, codeLines_of_not_mem hsingle]
  simp [hcomment]

theorem eq_space_of_mem_indentationOf (levels : Nat) :
    ∀ c ∈ (indentationOf "    " levels).toList, c = ' ' := by
  intro c hc
  rw [indentationOf, String.toList_join, List.mem_flatMap] at hc
  obtain ⟨indent, hindent, hmem⟩ := hc
  rw [List.eq_of_mem_replicate hindent] at hmem
  simpa using hmem

/-! ## Outlines without their comments -/

namespace Piece

/-- Whether a piece stands for the comments of a node. -/
def isComment : Piece → Bool
  | .comment _ => true
  | _ => false

/-- A piece that has nothing but marked lines, if it stands for comments. -/
def Marked : Piece → Prop
  | .comment lines => ∀ line ∈ lines, IsMarked line
  | _ => True

@[simp] theorem marked_line (text : String) : (line text).Marked := trivial

@[simp] theorem marked_snippet (code : Snippet) : (snippet code).Marked := trivial

theorem exists_of_isComment {piece : Piece} (h : piece.isComment = true) :
    ∃ lines, piece = .comment lines := by
  cases piece with
  | comment lines => exact ⟨lines, rfl⟩
  | line _ | snippet _ => simp [isComment] at h

end Piece

namespace Outline

/-- An outline without its comments. -/
def code (outline : Outline) : Outline :=
  outline.filter fun placed => !placed.piece.isComment

/-- An outline whose comments are all marked. -/
def Marked (outline : Outline) : Prop :=
  ∀ placed ∈ outline, placed.piece.Marked

@[simp] theorem marked_nil : Marked [] := by
  simp [Marked]

/-- An outline is marked if its pieces are. -/
@[simp] theorem marked_cons {placed : Placed} {outline : Outline} :
    Marked (placed :: outline) ↔ placed.piece.Marked ∧ Marked outline :=
  List.forall_mem_cons

@[simp] theorem marked_append {first second : Outline} :
    Marked (first ++ second) ↔ Marked first ∧ Marked second :=
  List.forall_mem_append

@[simp] theorem marked_map {place : α → Placed} {elements : List α} :
    Marked (elements.map place) ↔ ∀ element ∈ elements, (place element).piece.Marked :=
  List.forall_mem_map

@[simp] theorem marked_flatMap {outline : α → Outline} {elements : List α} :
    Marked (elements.flatMap outline) ↔ ∀ element ∈ elements, Marked (outline element) :=
  List.forall_mem_flatMap

/-- Whether an outline is marked does not depend on its depth. -/
@[simp] theorem marked_deeper {outline : Outline} : Marked outline.deeper ↔ Marked outline := by
  simp [Marked, deeper]

@[simp] theorem code_nil : code [] = [] := rfl

/-- The code of an outline is that of its parts. -/
@[simp] theorem code_append (first second : Outline) :
    code (first ++ second) = code first ++ code second :=
  List.filter_append ..

@[simp] theorem code_flatMap (outline : α → Outline) (elements : List α) :
    code (elements.flatMap outline) = elements.flatMap fun element => code (outline element) :=
  List.filter_flatMap

/-- The code of what lies deeper lies deeper. -/
@[simp] theorem code_deeper (outline : Outline) : code outline.deeper = outline.code.deeper := by
  simp [code, deeper, List.filter_map, Function.comp_def]

/-- A comment is no code. -/
theorem code_cons_of_isComment {placed : Placed} {outline : Outline}
    (h : placed.piece.isComment = true) : code (placed :: outline) = code outline :=
  List.filter_cons_of_neg (by simp [h])

/-- A piece that is no comment is code. -/
theorem code_cons_of_not_isComment {placed : Placed} {outline : Outline}
    (h : placed.piece.isComment = false) : code (placed :: outline) = placed :: code outline :=
  List.filter_cons_of_pos (by simp [h])

@[simp] theorem code_comment_cons (lines : List String) (outline : Outline) :
    code ((Piece.comment lines).here :: outline) = code outline :=
  code_cons_of_isComment rfl

@[simp] theorem code_line_cons (text : String) (outline : Outline) :
    code ((Piece.line text).here :: outline) = (Piece.line text).here :: code outline :=
  code_cons_of_not_isComment rfl

@[simp] theorem code_snippet_cons (snippet : Snippet) (outline : Outline) :
    code ((Piece.snippet snippet).here :: outline) = (Piece.snippet snippet).here :: code outline :=
  code_cons_of_not_isComment rfl

/-- The lines of an outline that are no comment lines. -/
def codeLinesAt (level : Nat) (outline : Outline) : List String :=
  ((outline.linesAt "    " level).flatMap codeLines).filter fun line => !isCommentLine line

theorem codeLinesAt_append (level : Nat) (first second : Outline) :
    codeLinesAt level (first ++ second) = codeLinesAt level first ++ codeLinesAt level second := by
  simp [codeLinesAt, linesAt]

/-- Nothing is left of comment lines. -/
theorem codeLinesAt_comment {placed : Placed} {lines : List String}
    (hpiece : placed.piece = .comment lines) (h : placed.piece.Marked) (level : Nat) :
    codeLinesAt level [placed] = [] := by
  rw [hpiece] at h
  simp only [codeLinesAt, linesAt, Placed.linesAt, hpiece, Piece.lines, List.flatMap_singleton,
    List.flatMap_map, List.filter_flatMap, List.flatMap_eq_nil_iff]
  exact fun line hline =>
    filter_codeLines_of_isMarked (h line hline) (eq_space_of_mem_indentationOf _)

/-- Marked comments leave no line behind. -/
theorem codeLinesAt_code {outline : Outline} (h : outline.Marked) (level : Nat) :
    codeLinesAt level outline.code = codeLinesAt level outline := by
  induction outline with
  | nil => rfl
  | cons placed outline ih =>
      have hrest := ih fun other hother => h other (List.mem_cons_of_mem _ hother)
      have hcons : codeLinesAt level (placed :: outline) =
          codeLinesAt level [placed] ++ codeLinesAt level outline :=
        codeLinesAt_append level [placed] outline
      cases hcomment : placed.piece.isComment with
      | true =>
          obtain ⟨lines, hpiece⟩ := Piece.exists_of_isComment hcomment
          rw [code_cons_of_isComment hcomment, hrest, hcons,
            codeLinesAt_comment hpiece (h placed List.mem_cons_self), List.nil_append]
      | false =>
          rw [code_cons_of_not_isComment hcomment, hcons, ← hrest]
          exact codeLinesAt_append level [placed] (code outline)

end Outline

/-! ## The comments of a module -/

section

variable (comments : CommentIndex)

/-- The comments of a schema are marked, whatever texts they hold. -/
@[simp] theorem marked_leadingAt (location : Location) :
    (Piece.comment (comments.leadingAt location)).Marked :=
  fun _ hline => isMarked_of_mem_leadingAt hline

@[simp] theorem marked_trailingAt (location : Location) :
    (Piece.comment (comments.trailingAt location)).Marked :=
  fun _ hline => isMarked_of_mem_trailingAt hline

theorem marked_traceOutline (trace : BoundMethod → TraceBinding) (methods : List BoundMethod) :
    (traceOutline trace methods).Marked := by
  simp [traceOutline]

theorem marked_clientOutline (bound : BoundService) : (clientOutline comments bound).Marked := by
  simp [clientOutline, callOutline, marked_traceOutline]

/-- Entry points have no comments. -/
theorem marked_routingOutline (methods : List BoundMethod) (shape : Shape) :
    (routingOutline methods shape).Marked := by
  simp [routingOutline]

theorem marked_entryOutline (methods : List BoundMethod) (shape : Shape) :
    (entryOutline methods shape).Marked := by
  unfold entryOutline channelEntryOutline singleEntryOutline
  split
  · simp
  · split
    · simp [marked_routingOutline]
    · split <;> simp [marked_routingOutline]

theorem marked_serverOutline (bound : BoundService) : (serverOutline comments bound).Marked := by
  simp [serverOutline, marked_traceOutline, marked_entryOutline]

/-- The comments of a module are marked. -/
theorem marked_moduleOutline (file : SchemaFile) (services : List BoundService) :
    (moduleOutline file services).Marked := by
  have hheader : (headerOutline file).Marked := by
    have hleading := marked_leadingAt file.comments SchemaFile.location
    unfold headerOutline
    split
    · simp
    · have htitle : IsMarked "# Original file comments:" := ⟨by decide, by decide⟩
      simp only [Outline.marked_append, Outline.marked_cons, piece_here, Piece.marked_snippet,
        Outline.marked_nil, and_true, true_and]
      exact List.forall_mem_cons.mpr ⟨htitle, hleading⟩
  have htrailer : (trailerOutline file).Marked := by
    unfold trailerOutline
    split <;> simp
  simp [moduleOutline, preambleOutline, classesOutline, hheader, htrailer, marked_clientOutline,
    marked_serverOutline]

/-- The code of a client class does not depend on comments. -/
theorem code_clientOutline (bound : BoundService) :
    (clientOutline comments bound).code = (clientOutline {} bound).code := by
  simp [clientOutline, callOutline]

/-- The code of a server class does not depend on comments. -/
theorem code_serverOutline (bound : BoundService) :
    (serverOutline comments bound).code = (serverOutline {} bound).code := by
  simp [serverOutline]

end

/-- The code of a header is its snippet, with or without comments on the file. -/
theorem code_headerOutline (file : SchemaFile) :
    (headerOutline file).code = [(Piece.snippet (.fileHeader file.name)).here] := by
  unfold headerOutline
  split <;> simp

/-- Without its comments, a module is that without comments, up to an empty line at its end. -/
theorem code_moduleOutline (file : SchemaFile) (services : List BoundService) :
    (moduleOutline file services).code =
      (moduleOutline { file with comments := {} } services).code ++ (trailerOutline file).code := by
  have hpreamble : preambleOutline { file with comments := {} } = preambleOutline file := rfl
  have htrailer : trailerOutline { file with comments := {} } = [] := rfl
  simp [moduleOutline, classesOutline, code_headerOutline, hpreamble, htrailer,
    code_clientOutline file.comments, code_serverOutline file.comments]

/-- The code of what an outline writes is that of the outline without its comments. -/
theorem codeOf_write {outline : Outline} (h : outline.Marked) :
    codeOf (Emitter.write {} outline).text =
      (Outline.codeLinesAt 0 outline.code).rdropWhile (· == "") := by
  rw [codeOf, rdropWhile_codeLines_text, Outline.codeLinesAt_code h]
  rfl

/-- The comments behind a module add at most an empty line to its code. -/
theorem eq_empty_of_mem_trailer (file : SchemaFile) :
    ∀ line ∈ Outline.codeLinesAt 0 (trailerOutline file).code, (line == "") = true := by
  have hblank : Outline.codeLinesAt 0 [(Piece.line "").here] = [""] := by decide
  unfold trailerOutline
  split
  · simp [Outline.codeLinesAt, Outline.linesAt]
  · rw [Outline.code_line_cons, Outline.code_comment_cons, Outline.code_nil, hblank]
    simp

/-- The code of a module is the same with any comments. -/
theorem codeOf_writeModule (file : SchemaFile) (services : List BoundService)
    (first second : CommentIndex) :
    codeOf (writeModule { file with comments := first } services {}).text =
      codeOf (writeModule { file with comments := second } services {}).text := by
  have hnone : ∀ comments : CommentIndex,
      codeOf (writeModule { file with comments := comments } services {}).text =
        (Outline.codeLinesAt 0
          (moduleOutline { file with comments := {} } services).code).rdropWhile (· == "") := by
    intro comments
    rw [writeModule_eq, codeOf_write (marked_moduleOutline _ _), code_moduleOutline,
      Outline.codeLinesAt_append, rdropWhile_append_of_forall (eq_empty_of_mem_trailer _)]
  rw [hnone, hnone]

/-! ## Generation -/

/-- The module of a file with services, once the methods of these have their names. -/
theorem generate_singleton {file : SchemaFile} (h : file.services ≠ []) :
    generate [file] = (file.services.mapM bindService).map fun services =>
      [{ name := FileName.stubFile file.name, text := (writeModule file services {}).text }] := by
  have hkeep : file.services.isEmpty = false := by simpa using h
  simp only [generate, List.filter_cons, hkeep, Bool.not_false, if_true, List.filter_nil,
    List.mapM_cons, List.mapM_nil, moduleOf]
  cases file.services.mapM bindService <;> rfl

/-- **Comments never reach the code**: whatever comments a file has, its generation fails with the
same clash, or gives a module of the same name and with the same code. -/
theorem comments_never_reach_code {file : SchemaFile} (h : file.services ≠ [])
    (first second : CommentIndex) :
    (∃ clash, generate [{ file with comments := first }] = .error clash ∧
      generate [{ file with comments := second }] = .error clash) ∨
    ∃ output output', generate [{ file with comments := first }] = .ok [output] ∧
      generate [{ file with comments := second }] = .ok [output'] ∧
      output.name = output'.name ∧ codeOf output.text = codeOf output'.text := by
  have hfirst : ({ file with comments := first } : SchemaFile).services ≠ [] := h
  have hsecond : ({ file with comments := second } : SchemaFile).services ≠ [] := h
  rw [generate_singleton hfirst, generate_singleton hsecond]
  cases hservices : file.services.mapM bindService with
  | error clash => exact .inl ⟨clash, by simp [Except.map], by simp [Except.map]⟩
  | ok services =>
      exact .inr ⟨_, _, rfl, rfl, rfl, codeOf_writeModule file services first second⟩

/-- A file with one service. -/
def remarkedFile : SchemaFile where
  name := "chat/chat.proto"
  services :=
    let text : RecordType := ⟨"chat.Text", "chat/chat.proto", "chat"⟩
    [{ name := "Chat", fullName := "chat.Chat", location := [6, 0],
       methods := [{ name := "Say", input := text, output := text, location := [6, 0, 2, 0] }] }]
  hasMessages := true

/-- Comments on a service and a method that would be code behind a line end. -/
def remarks : CommentIndex where
  entries :=
    [([6, 0], { leading := "Talks.\u2028import os", detached := ["once\u000bexit()"] }),
     ([6, 0, 2, 0], { trailing := "Says.\r\nraise SystemExit" })]

theorem comments_never_reach_code_remarks :
    remarkedFile.services ≠ [] ∧
    ((∃ clash, generate [{ remarkedFile with comments := remarks }] = .error clash ∧
      generate [{ remarkedFile with comments := {} }] = .error clash) ∨
    ∃ output output', generate [{ remarkedFile with comments := remarks }] = .ok [output] ∧
      generate [{ remarkedFile with comments := {} }] = .ok [output'] ∧
      output.name = output'.name ∧ codeOf output.text = codeOf output'.text) :=
  have hservices : remarkedFile.services ≠ [] := by decide
  ⟨hservices, comments_never_reach_code hservices remarks {}⟩

end StubGen.Stub
