import StubGen.Proofs.CommentErasure
import StubGen.Proofs.Conversion
import StubGen.Proofs.ServerFunctions

/-!
# StubGen.Proofs.Concatenation

A module is the concatenation of its classes, each of which can be written on its own.

1. Indentation adds up: what is written at some level is what is written at no level, behind the
   indentation of that level (`Outline.linesAt_eq_map`).  So a writer that puts down one outline at
   every level adds to any emitter the lines that it writes to an empty one
   (`addsOwnLines_of_eq_write`), and leaves the level as it found it.
2. The lines of a class hold no line feeds (`Piece.IsSingle`), so they are lines of the text as
   well; and the last line of a module is not empty (`endsSolid_module`), so the text loses none of
   them (`codeLines_text`).
-/

namespace StubGen.Stub

open Text Emitter

/-! ## Indentation adds up -/

/-- Lines that are indented twice are indented once by both. -/
theorem indentLine_indentLine (outer inner line : String) :
    indentLine outer (indentLine inner line) = indentLine (outer ++ inner) line := by
  by_cases hline : line = ""
  · simp [indentLine, hline]
  · simp [indentLine, hline, String.append_assoc]

theorem indentationOf_add (indent : String) (first second : Nat) :
    indentationOf indent (first + second) =
      indentationOf indent first ++ indentationOf indent second := by
  simp only [indentationOf]
  rw [List.replicate_add, String.join_append]

/-- An outline at some level is the outline at no level, indented. -/
theorem Outline.linesAt_eq_map (indent : String) (level : Nat) (outline : Outline) :
    outline.linesAt indent level =
      (outline.linesAt indent 0).map (indentLine (indentationOf indent level)) := by
  simp only [linesAt, List.map_flatMap]
  congr 1
  funext placed
  simp [Placed.linesAt, indentationOf_add, indentLine_indentLine, Function.comp_def]

/-- A writer that leaves an emitter at its level, and adds the lines that it writes to an empty
emitter, each of them indented unless it is empty. -/
structure AddsOwnLines (write : Emitter → Emitter) (out : Emitter) : Prop where
  indent : (write out).indent = out.indent
  level : (write out).level = out.level
  lines : (write out).lines = out.lines ++
    (write { indent := out.indent }).lines.map
      (indentLine (String.join (List.replicate out.level out.indent)))

/-- A writer that puts down one outline at whatever level adds its own lines. -/
theorem addsOwnLines_of_eq_write {write : Emitter → Emitter} {outline : Outline}
    (h : ∀ out, write out = out.write outline) (out : Emitter) : AddsOwnLines write out where
  indent := by rw [h]; rfl
  level := by rw [h]; rfl
  lines := by
    rw [h, h]
    simp only [Emitter.write, List.nil_append]
    rw [Outline.linesAt_eq_map]
    rfl

/-! ## Single lines -/

theorem newline_not_mem_ofList {chars : List Char} (h : chars.contains '\n' = false) :
    '\n' ∉ (String.ofList chars).toList := by
  simp_all

/-- A piece none of whose lines holds a line feed. -/
def Piece.IsSingle (piece : Piece) : Prop :=
  ∀ line ∈ piece.lines, '\n' ∉ line.toList

@[simp] theorem Piece.isSingle_line {text : String} :
    (Piece.line text).IsSingle ↔ '\n' ∉ text.toList :=
  List.forall_mem_singleton

/-- Snippets are put down line by line, so that they hold no line feeds. -/
@[simp] theorem Piece.isSingle_snippet (code : Snippet) : (Piece.snippet code).IsSingle := by
  intro line hline
  obtain ⟨chars, hchars, rfl⟩ := List.mem_map.mp hline
  simpa using not_mem_of_mem_splitOn hchars

/-- The comments in front of a node hold no line feeds. -/
@[simp] theorem isSingle_leadingAt (comments : CommentIndex) (location : Location) :
    (Piece.comment (comments.leadingAt location)).IsSingle :=
  fun line hline => (marked_leadingAt comments location line hline).single

@[simp] theorem isSingle_trailingAt (comments : CommentIndex) (location : Location) :
    (Piece.comment (comments.trailingAt location)).IsSingle :=
  fun line hline => (marked_trailingAt comments location line hline).single

namespace Outline

/-- An outline none of whose lines holds a line feed. -/
def IsSingle (outline : Outline) : Prop :=
  ∀ piece ∈ outline.pieces, piece.IsSingle

@[simp] theorem isSingle_nil : IsSingle [] := by
  simp [IsSingle]

/-- An outline is put down in single lines if its pieces are. -/
@[simp] theorem isSingle_cons {placed : Placed} {outline : Outline} :
    IsSingle (placed :: outline) ↔ placed.piece.IsSingle ∧ outline.IsSingle :=
  List.forall_mem_cons

@[simp] theorem isSingle_append {first second : Outline} :
    IsSingle (first ++ second) ↔ first.IsSingle ∧ second.IsSingle := by
  simp only [IsSingle, pieces_append, List.forall_mem_append]

@[simp] theorem isSingle_deeper {outline : Outline} :
    outline.deeper.IsSingle ↔ outline.IsSingle := by
  simp only [IsSingle, pieces_deeper]

@[simp] theorem isSingle_map {place : α → Placed} {elements : List α} :
    IsSingle (elements.map place) ↔ ∀ element ∈ elements, (place element).piece.IsSingle := by
  simp only [IsSingle, pieces, List.forall_mem_map]

@[simp] theorem isSingle_flatMap {outline : α → Outline} {elements : List α} :
    IsSingle (elements.flatMap outline) ↔ ∀ element ∈ elements, (outline element).IsSingle := by
  simp only [IsSingle, pieces, List.map_flatMap, List.forall_mem_flatMap]

/-- The lines of such an outline are lines of any text that is made of them. -/
theorem IsSingle.flatMap_codeLines {outline : Outline} (h : outline.IsSingle) (level : Nat) :
    (outline.linesAt "    " level).flatMap codeLines = outline.linesAt "    " level := by
  have hsingle : ∀ line ∈ outline.linesAt "    " level, codeLines line = [line] := by
    intro line hline
    obtain ⟨placed, hplaced, hmem⟩ := List.mem_flatMap.mp hline
    obtain ⟨raw, hraw, rfl⟩ := List.mem_map.mp hmem
    have hpiece : placed.piece.IsSingle := h _ (List.mem_map_of_mem hplaced)
    apply codeLines_of_not_mem
    unfold indentLine
    split
    · simp
    · rw [String.toList_append, List.mem_append, not_or]
      exact ⟨fun hspace => absurd (eq_space_of_mem_indentationOf _ _ hspace) (by decide),
        hpiece raw hraw⟩
  rw [List.flatMap_congr hsingle, List.flatMap_singleton']

end Outline

/-- Nothing in a client class holds a line feed, whatever names there are. -/
theorem isSingle_clientOutline (comments : CommentIndex) (bound : BoundService) :
    (clientOutline comments bound).IsSingle := by
  simp [clientOutline, traceOutline, callOutline]

theorem newline_not_mem_reject (shape : Shape) :
    '\n' ∉ (reject shape unknownMethodError).toList := by
  have herror : '\n' ∉ unknownMethodError.toList := newline_not_mem_ofList rfl
  unfold reject
  split <;> simp only [String.toList_append, List.mem_append, not_or]
  · exact ⟨newline_not_mem_ofList rfl, herror⟩
  · exact ⟨⟨newline_not_mem_ofList rfl, herror⟩, newline_not_mem_ofList rfl⟩

theorem newline_not_mem_entryHead (shape : Shape) : '\n' ∉ (entryHead shape).toList := by
  have hprimitive : '\n' ∉ shape.primitive.toList := by
    cases shape <;> exact newline_not_mem_ofList rfl
  have hparameter : '\n' ∉ (entryParameter shape).toList := by
    cases shape <;> exact newline_not_mem_ofList rfl
  simp only [entryHead, String.toList_append, List.mem_append, not_or]
  exact ⟨⟨⟨⟨newline_not_mem_ofList rfl, hprimitive⟩, newline_not_mem_ofList rfl⟩, hparameter⟩,
    newline_not_mem_ofList rfl⟩

theorem isSingle_entryOutline (methods : List BoundMethod) (shape : Shape) :
    (entryOutline methods shape).IsSingle := by
  have hrouting (shape : Shape) : (routingOutline methods shape).IsSingle := by
    simp [routingOutline, newline_not_mem_reject]
  unfold entryOutline
  split
  · simp
  · split
    · simp [channelEntryOutline, switchHead, hrouting]
    · unfold singleEntryOutline
      split <;> simp [newline_not_mem_entryHead, hrouting]

/-- Nothing in a server class holds a line feed, whatever names there are. -/
theorem isSingle_serverOutline (comments : CommentIndex) (bound : BoundService) :
    (serverOutline comments bound).IsSingle := by
  simp [serverOutline, traceOutline, isSingle_entryOutline]

/-! ## The last line -/

/-- Lines of which the last is not empty and holds no line feed. -/
def EndsSolid (lines : List String) : Prop :=
  ∃ before last, lines = before ++ [last] ∧ last ≠ "" ∧ '\n' ∉ last.toList

/-- Only the last line counts. -/
theorem EndsSolid.append_left {second : List String} (h : EndsSolid second) (first : List String) :
    EndsSolid (first ++ second) := by
  obtain ⟨before, last, rfl, hlast⟩ := h
  exact ⟨first ++ before, last, by simp, hlast⟩

/-- Lines that all start with the same character end solidly. -/
theorem endsSolid_of_head? {lines : List String} {c : Char} (hne : lines ≠ [])
    (h : ∀ line ∈ lines, line.toList.head? = some c ∧ '\n' ∉ line.toList) : EndsSolid lines := by
  obtain ⟨hhead, hsingle⟩ := h _ (List.getLast_mem hne)
  refine ⟨lines.dropLast, lines.getLast hne, (List.dropLast_concat_getLast hne).symm, ?_, hsingle⟩
  intro hempty
  simp [hempty] at hhead

/-- Comment lines end solidly. -/
theorem endsSolid_of_marked {lines : List String} (hne : lines ≠ [])
    (h : ∀ line ∈ lines, IsMarked line) : EndsSolid lines :=
  endsSolid_of_head? hne fun line hline => ⟨(h line hline).head, (h line hline).single⟩

/-- Comments may follow. -/
theorem EndsSolid.append_marked {first second : List String} (h : EndsSolid first)
    (hsecond : ∀ line ∈ second, IsMarked line) : EndsSolid (first ++ second) := by
  by_cases hne : second = []
  · rwa [hne, List.append_nil]
  · exact (endsSolid_of_marked hne hsecond).append_left first

theorem exists_toList_joinLines (before : List String) (last : String) :
    ∃ front, (joinLines (before ++ [last])).toList = front ++ last.toList := by
  induction before with
  | nil => exact ⟨[], by simp [joinLines]⟩
  | cons line before ih =>
      obtain ⟨front, hfront⟩ := ih
      refine ⟨line.toList ++ '\n' :: front, ?_⟩
      rw [List.cons_append, joinLines, String.intercalate_cons_of_ne_nil (by simp)]
      rw [joinLines] at hfront
      simp [hfront]

/-- Joined lines end in a character of the last one. -/
theorem EndsSolid.exists_last {lines : List String} (h : EndsSolid lines) :
    ∃ front c, (joinLines lines).toList = front ++ [c] ∧ c ≠ '\n' := by
  obtain ⟨before, last, rfl, hne, hsingle⟩ := h
  obtain ⟨front, hfront⟩ := exists_toList_joinLines before last
  rcases List.eq_nil_or_concat last.toList with hnil | ⟨init, c, hconcat⟩
  · exact absurd (String.toList_eq_nil_iff.mp hnil) hne
  · rw [List.concat_eq_append] at hconcat
    refine ⟨front ++ init, c, by rw [hfront, hconcat, List.append_assoc], ?_⟩
    rintro rfl
    simp [hconcat] at hsingle

/-- Lines that end solidly are joined without a line feed at the end. -/
theorem EndsSolid.dropTrailingNewlines_joinLines {lines : List String} (h : EndsSolid lines) :
    dropTrailingNewlines (joinLines lines) = joinLines lines := by
  obtain ⟨front, c, hlines, hnewline⟩ := h.exists_last
  apply String.toList_injective
  rw [dropTrailingNewlines, toList_dropTrailing, hlines, List.rdropWhile_concat_neg]
  simpa using hnewline

/-- Lines with a solid last one are all there in the text, which ends in one more line feed. -/
theorem codeLines_text {out : Emitter} (h : EndsSolid out.lines) :
    codeLines out.text = out.lines.flatMap codeLines ++ [""] := by
  have hne : out.lines ≠ [] := by
    obtain ⟨before, last, hlines, _⟩ := h
    simp [hlines]
  rw [Emitter.text, h.dropTrailingNewlines_joinLines, codeLines_append_newline,
    codeLines_joinLines hne]

/-- A snippet with a solid last line loses none of its lines. -/
theorem EndsSolid.lines_snippet {code : Snippet} (h : EndsSolid code.lines) :
    (Piece.snippet code).lines = code.lines.flatMap codeLines := by
  have hne : code.lines ≠ [] := by
    obtain ⟨before, last, hlines, _⟩ := h
    simp [hlines]
  rw [Piece.lines, Snippet.text, h.dropTrailingNewlines_joinLines, codeLines_joinLines hne]

/-- A snippet keeps its last line. -/
theorem EndsSolid.snippet {code : Snippet} (h : EndsSolid code.lines) :
    EndsSolid (Piece.snippet code).lines := by
  have htext := h.lines_snippet
  obtain ⟨before, last, hlines, hne, hsingle⟩ := h
  refine ⟨before.flatMap codeLines, last, ?_, hne, hsingle⟩
  rw [htext, hlines, List.flatMap_append, List.flatMap_singleton, codeLines_of_not_mem hsingle]

/-- Indentation does not make a line empty. -/
theorem EndsSolid.linesAt {placed : Placed} (h : EndsSolid placed.piece.lines) :
    EndsSolid (Outline.linesAt "    " 0 [placed]) := by
  obtain ⟨before, last, hlines, hne, hsingle⟩ := h
  have hspaces := eq_space_of_mem_indentationOf (0 + placed.depth)
  refine ⟨before.map (indentLine (indentationOf "    " (0 + placed.depth))),
    indentLine (indentationOf "    " (0 + placed.depth)) last, ?_, ?_, ?_⟩
  · simp [Outline.linesAt, Placed.linesAt, hlines]
  · simp [indentLine, hne]
  · rw [indentLine, if_neg hne, String.toList_append, List.mem_append, not_or]
    exact ⟨fun hspace => absurd (hspaces _ hspace) (by decide), hsingle⟩

theorem linesAt_append (indent : String) (level : Nat) (first second : Outline) :
    Outline.linesAt indent level (first ++ second) =
      first.linesAt indent level ++ second.linesAt indent level :=
  List.flatMap_append

/-- At the outermost level, a piece has its own lines. -/
theorem linesAt_here (indent : String) (piece : Piece) :
    Outline.linesAt indent 0 [piece.here] = piece.lines := by
  have hline : ∀ line : String, indentLine "" line = line := by
    intro line
    unfold indentLine
    split <;> simp_all
  have hlines : piece.lines.map (indentLine "") = piece.lines := List.map_id'' hline piece.lines
  have hempty : indentationOf indent 0 = "" := rfl
  simp [Outline.linesAt, Placed.linesAt, Piece.here, hlines, hempty]

theorem linesAt_comment (indent : String) (lines : List String) :
    Outline.linesAt indent 0 [(Piece.comment lines).here] = lines :=
  linesAt_here indent (.comment lines)

theorem endsSolid_payloadHelpers : EndsSolid Snippet.payloadHelpers.lines := by
  apply EndsSolid.append_left
  exact ⟨relayLines.dropLast, "        return reactivex.create(subscribe)", rfl, by simp,
    newline_not_mem_ofList rfl⟩

/-- In front of the classes stand the helpers, which end solidly. -/
theorem endsSolid_preamble (file : SchemaFile) :
    EndsSolid ((preambleOutline file).linesAt "    " 0) := by
  have hlast : EndsSolid (Outline.linesAt "    " 0 [(Piece.snippet .payloadHelpers).here]) :=
    EndsSolid.linesAt endsSolid_payloadHelpers.snippet
  have hpreamble : preambleOutline file =
      ([(Piece.line "").here, (Piece.snippet (.modulePreamble file.name)).here] ++
        (file.imports.map fun imported => (Piece.line imported.statement).here) ++
        [(Piece.line "").here, (Piece.line "").here]) ++
      [(Piece.snippet .payloadHelpers).here] := by
    simp [preambleOutline]
  rw [hpreamble, linesAt_append]
  exact hlast.append_left _

/-- A server class ends with its comments, or with an entry point. -/
theorem endsSolid_server (comments : CommentIndex) (bound : BoundService) :
    EndsSolid ((serverOutline comments bound).linesAt "    " 0) := by
  have hpush : EndsSolid (Outline.linesAt "    " 0 [⟨1, .snippet .metadataPushEntry⟩]) :=
    EndsSolid.linesAt (EndsSolid.snippet
      ⟨["def metadata_push(self, payload):"], _, rfl, by simp, newline_not_mem_ofList rfl⟩)
  have hserver : serverOutline comments bound =
      ([(Piece.comment (comments.leadingAt bound.service.location)).here,
        (Piece.snippet (.serverHeader (serverName bound.service))).here] ++
        Outline.deeper
          (Outline.deeper (traceOutline BoundMethod.serverTrace bound.methods) ++
            (Shape.all.flatMap fun shape =>
              (Piece.line "").here :: entryOutline bound.methods shape) ++
            [(Piece.line "").here])) ++
      [⟨1, .snippet .metadataPushEntry⟩] ++
      [(Piece.comment (comments.trailingAt bound.service.location)).here] := by
    simp [serverOutline, Outline.deeper, Piece.here]
  rw [hserver, linesAt_append, linesAt_append, linesAt_comment]
  exact (hpush.append_left _).append_marked (marked_trailingAt comments _)

/-- The trailing comments on a file behind an empty line, if there are any. -/
def trailerLines (file : SchemaFile) : List String :=
  match file.comments.trailingAt SchemaFile.location with
  | [] => []
  | lines => "" :: lines

/-- The lines at the end of a module. -/
theorem linesAt_trailerOutline (file : SchemaFile) (indent : String) :
    (trailerOutline file).linesAt indent 0 = trailerLines file := by
  unfold trailerOutline trailerLines
  cases file.comments.trailingAt SchemaFile.location with
  | nil => rfl
  | cons first rest =>
      have hcomment := linesAt_comment indent (first :: rest)
      exact congrArg ("" :: ·) hcomment

/-- The last line of a module is not empty, whatever its file declares. -/
theorem endsSolid_module (file : SchemaFile) (services : List BoundService) :
    EndsSolid ((moduleOutline file services).linesAt "    " 0) := by
  have hclasses : EndsSolid (Outline.linesAt "    " 0 (headerOutline file ++ preambleOutline file ++
      classesOutline (clientOutline file.comments) services ++
      classesOutline (serverOutline file.comments) services)) := by
    rcases List.eq_nil_or_concat services with rfl | ⟨before, last, rfl⟩
    · simp only [classesOutline, List.flatMap_nil, List.append_nil, linesAt_append]
      exact (endsSolid_preamble file).append_left _
    · have hlast : classesOutline (serverOutline file.comments) (before.concat last) =
          classesOutline (serverOutline file.comments) before ++
            [(Piece.line "").here, (Piece.line "").here] ++ serverOutline file.comments last := by
        simp [classesOutline]
      rw [hlast, ← List.append_assoc, linesAt_append]
      exact (endsSolid_server file.comments last).append_left _
  have hmarked := marked_trailingAt file.comments SchemaFile.location
  rw [moduleOutline, linesAt_append, linesAt_trailerOutline]
  unfold trailerLines
  split
  · rwa [List.append_nil]
  · next hne =>
      rw [← List.singleton_append]
      exact ((endsSolid_of_marked hne hmarked).append_left _).append_left _

/-! ## Modules -/

/-- The lines of the classes of some services, each written on its own behind two empty lines. -/
def classLines (write : BoundService → Emitter → Emitter) (services : List BoundService) :
    List String :=
  services.flatMap fun bound => ["", ""] ++ (write bound {}).lines

/-- The lines of classes are what their writer puts down for each, on its own. -/
theorem linesAt_classesOutline {write : BoundService → Emitter → Emitter}
    {outline : BoundService → Outline}
    (h : ∀ bound out, write bound out = out.write (outline bound)) (services : List BoundService) :
    (classesOutline outline services).linesAt "    " 0 = classLines write services := by
  simp only [classesOutline, classLines, Outline.linesAt, List.flatMap_assoc, h]
  rfl

/-- An emitter that was empty holds the lines of what was written. -/
theorem lines_write_empty (outline : Outline) :
    (Emitter.write {} outline).lines = outline.linesAt "    " 0 := by
  simp [Emitter.write]

/-- The lines of a module: those of its header and preamble, those of its client classes and of its
server classes, and the trailing comments on its file. -/
theorem codeLines_writeModule (file : SchemaFile) (services : List BoundService) :
    codeLines (writeModule file services {}).text =
      (writePreamble file (writeHeader file {})).lines.flatMap codeLines ++
      classLines (writeClient file.comments) services ++
      classLines (writeServer file.comments) services ++ trailerLines file ++ [""] := by
  have hclients : (classesOutline (clientOutline file.comments) services).IsSingle := by
    simp [classesOutline, isSingle_clientOutline]
  have hservers : (classesOutline (serverOutline file.comments) services).IsSingle := by
    simp [classesOutline, isSingle_serverOutline]
  have htrailer : (trailerOutline file).IsSingle := by
    have htrailing := isSingle_trailingAt file.comments SchemaFile.location
    unfold trailerOutline
    split <;> simp [htrailing]
  have hsolid : EndsSolid (writeModule file services {}).lines := by
    rw [writeModule_eq, lines_write_empty]
    exact endsSolid_module file services
  -- only the preamble may hold line feeds, so the rest has its lines as they were written
  have hmodule : (writeModule file services {}).lines =
      (writePreamble file (writeHeader file {})).lines ++
      (classesOutline (clientOutline file.comments) services).linesAt "    " 0 ++
      (classesOutline (serverOutline file.comments) services).linesAt "    " 0 ++
      (trailerOutline file).linesAt "    " 0 := by
    rw [writeModule_eq, writePreamble_eq, writeHeader_eq, write_write, moduleOutline,
      lines_write_empty, lines_write_empty]
    simp only [linesAt_append]
  rw [codeLines_text hsolid, hmodule, List.flatMap_append, List.flatMap_append, List.flatMap_append,
    hclients.flatMap_codeLines, hservers.flatMap_codeLines, htrailer.flatMap_codeLines,
    linesAt_classesOutline (writeClient_eq file.comments),
    linesAt_classesOutline (writeServer_eq file.comments), linesAt_trailerOutline]

/-- A module that is made of the classes of its file: behind the lines of the header and of the
preamble come the client classes and then the server classes, each as it is written on its own, and
at last the trailing comments on the file.  The text ends in a line feed. -/
def ConcatenatesClasses (file : SchemaFile) (output : Output) : Prop :=
  ∃ services, file.services.mapM bindService = .ok services ∧
    codeLines output.text =
      (writePreamble file (writeHeader file {})).lines.flatMap codeLines ++
      classLines (writeClient file.comments) services ++
      classLines (writeServer file.comments) services ++ trailerLines file ++ [""]

/-- A generated module is made of the classes of its file. -/
theorem concatenatesClasses_of_moduleOf {file : SchemaFile} {output : Output}
    (h : moduleOf file = .ok output) : ConcatenatesClasses file output := by
  unfold moduleOf at h
  cases hservices : file.services.mapM bindService with
  | error clash => simp [hservices] at h
  | ok services =>
      simp only [hservices, Except.ok.injEq] at h
      exact ⟨services, hservices, h ▸ codeLines_writeModule file services⟩

/-- **A module is the concatenation of its classes**, and no class depends on where it is written or
on what was written before it.  The client class and the server class of a service leave every
emitter at its level, and add to it the lines that they have on their own; and each generated module
consists of the classes of its services, written on their own. -/
theorem classes_written_independently :
    (∀ (service : Service) (bound : BoundService), bindService service = .ok bound →
      ∀ (comments : CommentIndex) (out : Emitter),
        AddsOwnLines (writeClient comments bound) out ∧
          AddsOwnLines (writeServer comments bound) out) ∧
    ∀ (files : List SchemaFile) (outputs : List Output), generate files = .ok outputs →
      List.Forall₂ ConcatenatesClasses
        (files.filter fun file => !file.services.isEmpty) outputs := by
  constructor
  · intro service bound _ comments out
    exact ⟨addsOwnLines_of_eq_write (writeClient_eq comments bound) out,
      addsOwnLines_of_eq_write (writeServer_eq comments bound) out⟩
  · intro files outputs h
    exact (mapM_eq_ok_iff.mp h).imp fun _ _ => concatenatesClasses_of_moduleOf

/-- A file with two services and with comments between and behind them. -/
def pairedFile : SchemaFile where
  name := "chat/chat.proto"
  services :=
    let text : RecordType := ⟨"chat.Text", "chat/chat.proto", "chat"⟩
    [{ name := "Chat", fullName := "chat.Chat", location := [6, 0],
       methods :=
        [{ name := "Drop", input := text, output := text, fireAndForget := true },
         { name := "Meet", input := text, output := text, clientStreaming := true }] },
     { name := "Idle", fullName := "chat.Idle", location := [6, 1] }]
  hasMessages := true
  comments := { entries := [([6, 0], { trailing := "\n" }), ([12], { trailing := "The end.\n" })] }

/-- An emitter that has something on it already, at an inner level. -/
def nestedEmitter : Emitter where
  indent := "\t"
  level := 2
  lines := ["class Outer:", "", "\tclass Inner:"]

theorem classes_written_independently_paired :
    (∃ service ∈ pairedFile.services, ∃ bound, bindService service = .ok bound ∧
      AddsOwnLines (writeServer pairedFile.comments bound) nestedEmitter) ∧
    ∃ output, generate [pairedFile] = .ok [output] ∧ ConcatenatesClasses pairedFile output := by
  have hservices : pairedFile.services ≠ [] := by decide
  have haccepted : (pairedFile.services.mapM bindService).toBool = true := by decide +kernel
  cases hbound : pairedFile.services.mapM bindService with
  | error clash =>
      rw [hbound] at haccepted
      exact absurd haccepted Bool.false_ne_true
  | ok services =>
      obtain ⟨hclasses, hmodules⟩ := classes_written_independently
      constructor
      · cases mapM_eq_ok_iff.mp hbound with
        | cons hfirst _ =>
            exact ⟨_, List.mem_cons_self, _, hfirst, (hclasses _ _ hfirst _ nestedEmitter).2⟩
      · have hgenerated := generate_singleton hservices
        rw [hbound] at hgenerated
        cases hmodules _ _ hgenerated with
        | cons houtput _ => exact ⟨_, hgenerated, houtput⟩

end StubGen.Stub
