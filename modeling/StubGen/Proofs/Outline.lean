import StubGen.Stub.Module

/-!
# StubGen.Proofs.Outline

What the writers write, before it becomes lines.  An emitter keeps lines only, and no longer tells
a comment from a statement or one snippet from another.  An *outline* keeps the pieces themselves,
each at its depth below the writer:

1. comment lines that stand for the comments of a schema node;
2. a single line of code, which may be empty;
3. a snippet.

Every writer puts down one outline at whatever level it is called (`writeClient_eq`,
`writeServer_eq`, `writeModule_eq`), so that what a class consists of is read off its outline.
-/

namespace StubGen.Stub

/-! ## Outlines -/

/-- Something that a writer puts down in one go. -/
inductive Piece where
  | comment (lines : List String)
  | line (text : String)
  | snippet (code : Snippet)
deriving DecidableEq, Repr

/-- The lines of a piece, without their indentation. -/
def Piece.lines : Piece → List String
  | .comment lines => lines
  | .line text => [text]
  | .snippet code => Text.codeLines code.text

/-- A piece, and the number of levels by which it lies deeper than the writer that puts it down. -/
structure Placed where
  depth : Nat
  piece : Piece
deriving DecidableEq, Repr

/-- A piece at the level of its writer. -/
def Piece.here (piece : Piece) : Placed := ⟨0, piece⟩

@[simp] theorem piece_here (piece : Piece) : piece.here.piece = piece := rfl

/-- The pieces that a writer puts down, in order. -/
abbrev Outline := List Placed

/-- An outline one level deeper. -/
def Outline.deeper (outline : Outline) : Outline :=
  outline.map fun placed => { placed with depth := placed.depth + 1 }

/-- The indentation of some levels. -/
def indentationOf (indent : String) (levels : Nat) : String :=
  String.join (List.replicate levels indent)

/-- The lines of a piece, written at a level. -/
def Placed.linesAt (indent : String) (level : Nat) (placed : Placed) : List String :=
  placed.piece.lines.map (Emitter.indentLine (indentationOf indent (level + placed.depth)))

/-- The lines of an outline, written at a level. -/
def Outline.linesAt (indent : String) (level : Nat) (outline : Outline) : List String :=
  outline.flatMap (Placed.linesAt indent level)

/-- An outline one level deeper has the lines that it has when written one level deeper. -/
theorem Outline.linesAt_deeper (indent : String) (level : Nat) (outline : Outline) :
    outline.deeper.linesAt indent level = outline.linesAt indent (level + 1) := by
  simp only [linesAt, deeper, List.flatMap_map]
  congr 1
  funext placed
  simp only [Placed.linesAt]
  rw [Nat.add_assoc, Nat.add_comm 1]

end StubGen.Stub

namespace StubGen.Emitter

open Stub

/-- Put down an outline at the current level. -/
def write (out : Emitter) (outline : Outline) : Emitter :=
  { out with lines := out.lines ++ outline.linesAt out.indent out.level }

/-! ## Writing with an emitter -/

theorem write_nil (out : Emitter) : out.write [] = out := by
  simp [write, Outline.linesAt]

/-- Outlines may be put down one after the other. -/
@[simp] theorem write_write (out : Emitter) (first second : Outline) :
    (out.write first).write second = out.write (first ++ second) := by
  simp [write, Outline.linesAt]

/-- Lines that are added together are the lines of any one piece that has them. -/
theorem extend_eq_write (out : Emitter) (piece : Piece) :
    out.extend piece.lines = out.write [piece.here] := by
  simp [extend, write, Outline.linesAt, Placed.linesAt, Piece.here, indentation, indentationOf]

theorem extend_eq_write_comment (out : Emitter) (lines : List String) :
    out.extend lines = out.write [(Piece.comment lines).here] :=
  extend_eq_write out (.comment lines)

theorem extend_extend (out : Emitter) (first second : List String) :
    (out.extend first).extend second = out.extend (first ++ second) := by
  simp [extend, indentation]

/-- A line is put down as a piece. -/
@[simp] theorem line_eq_write (out : Emitter) (text : String) :
    out.line text = out.write [(Piece.line text).here] :=
  extend_eq_write out (.line text)

@[simp] theorem blank_eq_write (out : Emitter) : out.blank = out.write [(Piece.line "").here] :=
  line_eq_write out ""

@[simp] theorem render_eq_write (out : Emitter) (code : Snippet) :
    out.render code = out.write [(Piece.snippet code).here] :=
  extend_eq_write out (.snippet code)

/-- Lines that are added together are the same as lines added one after the other. -/
theorem extend_eq_write_lines (out : Emitter) (texts : List String) :
    out.extend texts = out.write (texts.map fun text => (Piece.line text).here) := by
  simp only [extend, write, Outline.linesAt, List.flatMap_map]
  congr 2
  induction texts with
  | nil => rfl
  | cons text texts ih =>
      rw [List.map_cons, List.flatMap_cons, ih]
      simp [Placed.linesAt, Piece.here, Piece.lines, indentation, indentationOf]

/-- A body that puts down an outline puts it down one level deeper inside `indented`. -/
theorem indented_eq_write {body : Emitter → Emitter} {outline : Outline}
    (h : ∀ out, body out = out.write outline) (out : Emitter) :
    out.indented body = out.write outline.deeper := by
  simp only [indented, h, write, enter, exit, Outline.linesAt_deeper, Nat.add_sub_cancel]

/-- A body that puts down an outline for every element puts them down in order. -/
theorem each_eq_write {body : Emitter → α → Emitter} {outline : α → Outline}
    (h : ∀ out element, body out element = out.write (outline element)) (elements : List α)
    (out : Emitter) : out.each elements body = out.write (elements.flatMap outline) := by
  induction elements generalizing out with
  | nil => rw [List.flatMap_nil, write_nil]; rfl
  | cons element elements ih =>
      rw [List.flatMap_cons, ← write_write, ← h, ← ih]
      rfl

end StubGen.Emitter

namespace StubGen.Stub

open Emitter

/-! ## The outline of a client class -/

/-- A client function between the comments of its method. -/
def callOutline (comments : CommentIndex) (bound : BoundMethod) : Outline :=
  [(Piece.line "").here,
   (Piece.comment (comments.leadingAt bound.method.location)).here,
   (Piece.snippet bound.clientCall).here,
   (Piece.comment (comments.trailingAt bound.method.location)).here]

/-- The trace wrappers that a constructor binds. -/
def traceOutline (trace : BoundMethod → TraceBinding) (methods : List BoundMethod) : Outline :=
  methods.map fun bound => (Piece.snippet (.traceBinding (trace bound))).here

/-- A client class between the comments of its service. -/
def clientOutline (comments : CommentIndex) (bound : BoundService) : Outline :=
  [(Piece.comment (comments.leadingAt bound.service.location)).here,
   (Piece.snippet (.clientHeader (clientName bound.service))).here] ++
  Outline.deeper
    (Outline.deeper (traceOutline BoundMethod.clientTrace bound.methods) ++
      bound.methods.flatMap (callOutline comments)) ++
  [(Piece.comment (comments.trailingAt bound.service.location)).here]

theorem writeCall_eq (comments : CommentIndex) (out : Emitter) (bound : BoundMethod) :
    writeCall comments out bound = out.write (callOutline comments bound) := by
  simp [writeCall, callOutline, extend_eq_write_comment]

/-- Trace bindings are put down one by one. -/
theorem writeTraces_eq (trace : BoundMethod → TraceBinding) (methods : List BoundMethod)
    (out : Emitter) :
    (out.each methods fun out bound => out.render (.traceBinding (trace bound))) =
      out.write (traceOutline trace methods) := by
  rw [each_eq_write (fun out bound => render_eq_write out (.traceBinding (trace bound)))]
  rw [traceOutline, List.map_eq_flatMap]

/-- A client class: its comments, its head, its constructor with the trace bindings, and its
functions. -/
theorem writeClient_eq (comments : CommentIndex) (bound : BoundService) (out : Emitter) :
    writeClient comments bound out = out.write (clientOutline comments bound) := by
  have hbody : ∀ out : Emitter,
      (out.indented fun out => out.each bound.methods fun out method =>
        out.render (.traceBinding method.clientTrace)).each bound.methods (writeCall comments) =
      out.write (Outline.deeper (traceOutline BoundMethod.clientTrace bound.methods) ++
        bound.methods.flatMap (callOutline comments)) := by
    intro out
    rw [indented_eq_write (writeTraces_eq BoundMethod.clientTrace bound.methods),
      each_eq_write (writeCall_eq comments), write_write]
  simp only [writeClient, clientOutline]
  rw [indented_eq_write hbody]
  simp [extend_eq_write_comment]

/-! ## The outline of a server class -/

/-- The check of the metadata, the branches of a shape, and the end that no branch takes. -/
def routingOutline (methods : List BoundMethod) (shape : Shape) : Outline :=
  [(Piece.snippet (.routingPreamble (reject shape missingMetadataError))).here] ++
  ((entryCases methods shape).map fun code => (Piece.snippet code).here) ++
  [(Piece.line (reject shape unknownMethodError)).here]

/-- The first line of the entry point of a shape with single requests. -/
def entryHead (shape : Shape) : String :=
  "def " ++ shape.primitive ++ "(self, " ++ entryParameter shape ++ "):"

/-- The entry point of a shape with single requests. -/
def singleEntryOutline (methods : List BoundMethod) (shape : Shape) : Outline :=
  [(Piece.line (entryHead shape)).here] ++
  Outline.deeper
    (if entryRaises shape then routingOutline methods shape
     else
      [(Piece.line "try:").here] ++ Outline.deeper (routingOutline methods shape) ++
      [(Piece.line "except Exception as error:").here] ++
      Outline.deeper [(Piece.line "return reactivex.throw(error)").here])

/-- The first line of the switch that routes channels. -/
def switchHead : String := "def _channel_switch(self, payload, relay):"

/-- The entry point for channels and its switch. -/
def channelEntryOutline (methods : List BoundMethod) : Outline :=
  [(Piece.snippet .channelEntry).here, (Piece.line "").here, (Piece.line switchHead).here] ++
  Outline.deeper (routingOutline methods .requestChannel)

/-- The entry point of a shape. -/
def entryOutline (methods : List BoundMethod) (shape : Shape) : Outline :=
  if (ofShape methods shape).isEmpty then [(Piece.snippet (unimplemented shape)).here]
  else if shape = .requestChannel then channelEntryOutline methods
  else singleEntryOutline methods shape

/-- A server class between the comments of its service. -/
def serverOutline (comments : CommentIndex) (bound : BoundService) : Outline :=
  [(Piece.comment (comments.leadingAt bound.service.location)).here,
   (Piece.snippet (.serverHeader (serverName bound.service))).here] ++
  Outline.deeper
    (Outline.deeper (traceOutline BoundMethod.serverTrace bound.methods) ++
      (Shape.all.flatMap fun shape => (Piece.line "").here :: entryOutline bound.methods shape) ++
      [(Piece.line "").here, (Piece.snippet .metadataPushEntry).here]) ++
  [(Piece.comment (comments.trailingAt bound.service.location)).here]

/-- The statements that route a payload: the check of its metadata, a branch for each method, and an
end. -/
theorem writeRouting_eq (methods : List BoundMethod) (shape : Shape) (out : Emitter) :
    writeRouting methods shape out = out.write (routingOutline methods shape) := by
  simp only [writeRouting, routingOutline]
  rw [each_eq_write render_eq_write, ← List.map_eq_flatMap]
  simp

/-- An entry point for single requests. -/
theorem writeSingleEntry_eq (methods : List BoundMethod) (shape : Shape) (out : Emitter) :
    writeSingleEntry methods shape out = out.write (singleEntryOutline methods shape) := by
  have hlast : ∀ out : Emitter, (out.line "return reactivex.throw(error)") =
      out.write [(Piece.line "return reactivex.throw(error)").here] :=
    fun out => line_eq_write out _
  have hbody : ∀ out : Emitter,
      (if entryRaises shape then writeRouting methods shape out
       else (((out.line "try:").indented (writeRouting methods shape)).line
          "except Exception as error:").indented
            fun out => out.line "return reactivex.throw(error)") =
      out.write (if entryRaises shape then routingOutline methods shape
       else
        [(Piece.line "try:").here] ++ Outline.deeper (routingOutline methods shape) ++
        [(Piece.line "except Exception as error:").here] ++
        Outline.deeper [(Piece.line "return reactivex.throw(error)").here]) := by
    intro out
    by_cases hraises : entryRaises shape
    · rw [if_pos hraises, if_pos hraises, writeRouting_eq]
    · rw [if_neg hraises, if_neg hraises, indented_eq_write hlast,
        indented_eq_write (writeRouting_eq methods shape)]
      simp
  simp only [writeSingleEntry, singleEntryOutline]
  rw [indented_eq_write hbody, line_eq_write, write_write, entryHead]

/-- The entry point for channels, with the switch that it calls. -/
theorem writeChannelEntry_eq (methods : List BoundMethod) (out : Emitter) :
    writeChannelEntry methods out = out.write (channelEntryOutline methods) := by
  simp only [writeChannelEntry, channelEntryOutline]
  rw [indented_eq_write (writeRouting_eq methods .requestChannel)]
  simp [switchHead]

theorem writeEntry_eq (methods : List BoundMethod) (out : Emitter) (shape : Shape) :
    writeEntry methods out shape =
      out.write ((Piece.line "").here :: entryOutline methods shape) := by
  simp only [writeEntry, entryOutline]
  by_cases hempty : (ofShape methods shape).isEmpty
  · rw [if_pos hempty, if_pos hempty, blank_eq_write, render_eq_write, write_write]
    rfl
  · rw [if_neg hempty, if_neg hempty]
    by_cases hchannel : shape = .requestChannel
    · rw [if_pos hchannel, if_pos hchannel, writeChannelEntry_eq, blank_eq_write, write_write]
      rfl
    · rw [if_neg hchannel, if_neg hchannel, writeSingleEntry_eq, blank_eq_write, write_write]
      rfl

/-- A server class: its comments, its head, its constructor with the trace bindings, and its entry
points. -/
theorem writeServer_eq (comments : CommentIndex) (bound : BoundService) (out : Emitter) :
    writeServer comments bound out = out.write (serverOutline comments bound) := by
  have hbody : ∀ out : Emitter,
      (((out.indented fun out => out.each bound.methods fun out method =>
        out.render (.traceBinding method.serverTrace)).each Shape.all
          (writeEntry bound.methods)).blank.render .metadataPushEntry) =
      out.write (Outline.deeper (traceOutline BoundMethod.serverTrace bound.methods) ++
        (Shape.all.flatMap fun shape =>
          (Piece.line "").here :: entryOutline bound.methods shape) ++
        [(Piece.line "").here, (Piece.snippet .metadataPushEntry).here]) := by
    intro out
    rw [indented_eq_write (writeTraces_eq BoundMethod.serverTrace bound.methods),
      each_eq_write (writeEntry_eq bound.methods)]
    simp
  simp only [writeServer, serverOutline]
  rw [indented_eq_write hbody]
  simp [extend_eq_write_comment]

/-! ## The outline of a module -/

/-- The header of a module and the comments on its file. -/
def headerOutline (file : SchemaFile) : Outline :=
  [(Piece.snippet (.fileHeader file.name)).here] ++
  match file.comments.leadingAt SchemaFile.location with
  | [] => []
  | lines => [(Piece.comment ("# Original file comments:" :: lines)).here]

/-- The description of a module, its imports and the shared helpers. -/
def preambleOutline (file : SchemaFile) : Outline :=
  [(Piece.line "").here, (Piece.snippet (.modulePreamble file.name)).here] ++
  (file.imports.map fun imported => (Piece.line imported.statement).here) ++
  [(Piece.line "").here, (Piece.line "").here, (Piece.snippet .payloadHelpers).here]

/-- The trailing comments on a file. -/
def trailerOutline (file : SchemaFile) : Outline :=
  match file.comments.trailingAt SchemaFile.location with
  | [] => []
  | lines => [(Piece.line "").here, (Piece.comment lines).here]

/-- The classes of some services, each behind two empty lines. -/
def classesOutline (classOutline : BoundService → Outline) (services : List BoundService) :
    Outline :=
  services.flatMap fun bound =>
    [(Piece.line "").here, (Piece.line "").here] ++ classOutline bound

/-- A whole module. -/
def moduleOutline (file : SchemaFile) (services : List BoundService) : Outline :=
  headerOutline file ++ preambleOutline file ++
  classesOutline (clientOutline file.comments) services ++
  classesOutline (serverOutline file.comments) services ++ trailerOutline file

theorem writeHeader_eq (file : SchemaFile) (out : Emitter) :
    writeHeader file out = out.write (headerOutline file) := by
  simp only [writeHeader, headerOutline]
  cases file.comments.leadingAt SchemaFile.location with
  | nil => simp
  | cons first rest =>
      change ((out.render _).extend ["# Original file comments:"]).extend (first :: rest) = _
      rw [extend_extend, extend_eq_write_comment, render_eq_write, write_write]
      rfl

/-- What stands between the header of a module and its classes. -/
theorem writePreamble_eq (file : SchemaFile) (out : Emitter) :
    writePreamble file out = out.write (preambleOutline file) := by
  simp only [writePreamble, preambleOutline]
  rw [extend_eq_write_lines]
  simp [Function.comp_def]

theorem writeTrailer_eq (file : SchemaFile) (out : Emitter) :
    writeTrailer file out = out.write (trailerOutline file) := by
  simp only [writeTrailer, trailerOutline]
  cases file.comments.trailingAt SchemaFile.location with
  | nil => rw [write_nil]
  | cons first rest =>
      change out.blank.extend (first :: rest) = _
      rw [extend_eq_write_comment, blank_eq_write, write_write]
      rfl

/-- A whole module. -/
theorem writeModule_eq (file : SchemaFile) (services : List BoundService) (out : Emitter) :
    writeModule file services out = out.write (moduleOutline file services) := by
  have hclients : ∀ (out : Emitter) (bound : BoundService),
      writeClient file.comments bound out.blank.blank =
        out.write ([(Piece.line "").here, (Piece.line "").here] ++
          clientOutline file.comments bound) := by
    intro out bound
    rw [writeClient_eq]
    simp
  have hservers : ∀ (out : Emitter) (bound : BoundService),
      writeServer file.comments bound out.blank.blank =
        out.write ([(Piece.line "").here, (Piece.line "").here] ++
          serverOutline file.comments bound) := by
    intro out bound
    rw [writeServer_eq]
    simp
  simp only [writeModule, moduleOutline]
  rw [each_eq_write hservers, each_eq_write hclients, writeTrailer_eq, writePreamble_eq,
    writeHeader_eq]
  simp [classesOutline]

end StubGen.Stub
