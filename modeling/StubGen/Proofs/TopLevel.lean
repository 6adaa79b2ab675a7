import StubGen.Proofs.Concatenation
import StubGen.Proofs.FirstClash
import StubGen.Proofs.PlainNames

/-!
# StubGen.Proofs.TopLevel

The definitions of a module in its first column.

1. Nothing that lies deeper than its writer starts in the first column (`filter_linesAt_deeper`),
   and comments start with their marker.  So a class has one line that defines something there,
   which is its head (`definitions_client`, `definitions_server`).
2. Before the classes there are the definitions that all modules share, and no others
   (`definitions_header`, `definitions_preamble`).  As far as a snippet is fixed, this is computed
   from its characters (`definitions_snippet`).
3. The names of helpers, clients, servers and imports end in different characters
   (`nodup_topLevelNames`, `aliasName_not_mem_topLevelNames`).
-/

namespace StubGen

open Text

/-! ## Names on one line -/

/-- A file whose name holds no line feed, and neither do the names of its services and those of the
files that it imports. -/
structure SchemaFile.NamesOnOneLine (file : SchemaFile) : Prop where
  name : '\n' ∉ file.name.toList
  services : ∀ service ∈ file.services, '\n' ∉ service.name.toList
  dependencies : ∀ dependency ∈ file.dependencies, '\n' ∉ dependency.toList
  types : ∀ record ∈ file.methodTypes, '\n' ∉ record.fileName.toList

theorem SchemaFile.NamesOnOneLine.of_mem_importedFiles {file : SchemaFile}
    (h : file.NamesOnOneLine) {imported : String} (himported : imported ∈ file.importedFiles) :
    '\n' ∉ imported.toList :=
  forall_mem_importedFiles h.name h.dependencies h.types imported himported

/-- An import stands on one line if the name of the file does. -/
theorem newline_not_mem_statement {current dependency : String} (h : '\n' ∉ dependency.toList) :
    '\n' ∉ (ModuleImport.resolve current dependency).statement.toList := by
  have hpackage : '\n' ∉ (ModuleImport.packageFrom current dependency).toList := by
    intro hmem
    rcases ModuleImport.mem_packageFrom hmem with hmem | hmem
    · exact h hmem
    · exact absurd hmem (by decide)
  have hmodule : '\n' ∉ (FileName.messageModule dependency).toList := by
    intro hmem
    rcases FileName.mem_messageModule hmem with hmem | hmem
    · exact h hmem
    · exact absurd hmem (by decide)
  have halias : '\n' ∉ (FileName.moduleAlias dependency).toList := by
    intro hmem
    rcases FileName.mem_moduleAlias hmem with ⟨hmem, _⟩ | hmem
    · exact h hmem
    · exact absurd hmem (by decide)
  simp [ModuleImport.statement, ModuleImport.resolve, hpackage, hmodule, halias]

namespace Stub

open Emitter

/-! ## Definitions -/

/-- Whether a line starts a function or a class in its first column. -/
def opensDefinition (line : String) : Bool :=
  "def ".toList.isPrefixOf line.toList || "class ".toList.isPrefixOf line.toList

/-- The lines of a text that start a function or a class in their first column. -/
def definitions (text : String) : List String :=
  (codeLines text).filter opensDefinition

/-- The first line of a class. -/
def classLine (name : String) : String :=
  "class " ++ name ++ ":"

theorem opensDefinition_classLine (name : String) : opensDefinition (classLine name) = true := by
  simp [opensDefinition, classLine]

/-- A line that starts with neither `d` nor `c` opens no definition. -/
theorem opensDefinition_of_head? {line : String} {c : Char} (h : line.toList.head? = some c)
    (hdef : c ≠ 'd') (hclass : c ≠ 'c') : opensDefinition line = false := by
  obtain ⟨rest, hrest⟩ := List.head?_eq_some_iff.mp h
  simp [opensDefinition, hrest, List.isPrefixOf, hdef.symm, hclass.symm]

/-- Comments define nothing. -/
theorem filter_eq_nil_of_isMarked {lines : List String} (h : ∀ line ∈ lines, IsMarked line) :
    lines.filter opensDefinition = [] := by
  rw [List.filter_eq_nil_iff]
  intro line hline
  simp [opensDefinition_of_head? (h line hline).head (by decide) (by decide)]

/-- Below its writer, nothing starts in the first column. -/
theorem filter_linesAt_deeper (outline : Outline) :
    (outline.deeper.linesAt "    " 0).filter opensDefinition = [] := by
  rw [Outline.linesAt_deeper, Outline.linesAt_eq_map, List.filter_eq_nil_iff, List.forall_mem_map]
  intro line _
  by_cases hline : line = ""
  · simp [indentLine, hline, opensDefinition]
  · have hspace : (indentLine (indentationOf "    " 1) line).toList.head? = some ' ' := by
      simp [indentLine, hline, indentationOf]
    simp [opensDefinition_of_head? hspace (by decide) (by decide)]

/-! ## Fixed lines -/

/-- A snippet of single lines has these lines. -/
theorem lines_snippet_of_single {code : Snippet} (hsolid : EndsSolid code.lines)
    (hsingle : ∀ line ∈ code.lines, '\n' ∉ line.toList) :
    (Piece.snippet code).lines = code.lines := by
  have hlines : ∀ line ∈ code.lines, codeLines line = [line] :=
    fun line hline => codeLines_of_not_mem (hsingle line hline)
  rw [hsolid.lines_snippet, List.flatMap_congr hlines, List.flatMap_singleton']

/-- Fixed lines and their characters, which are found by unification rather than by evaluation. -/
abbrev Spelled : List String → List (List Char) → Prop :=
  List.Forall₂ fun line chars => line = String.ofList chars

/-- Whether characters start a definition. -/
def startsDefinition (chars : List Char) : Bool :=
  ['d', 'e', 'f', ' '].isPrefixOf chars || ['c', 'l', 'a', 's', 's', ' '].isPrefixOf chars

/-- Lines without line feeds, and with a last one that is not empty. -/
def isSolid (chars : List (List Char)) : Bool :=
  chars.all (fun line => !line.contains '\n') && chars.getLast?.any (fun line => !line.isEmpty)

theorem Spelled.eq_map {lines : List String} {chars : List (List Char)} (h : Spelled lines chars) :
    lines = chars.map String.ofList := by
  induction h with
  | nil => rfl
  | cons hline _ ih => rw [hline, ih, List.map_cons]

/-- Definitions are found in the characters of lines as well. -/
theorem filter_map_ofList (chars : List (List Char)) :
    (chars.map String.ofList).filter opensDefinition =
      (chars.filter startsDefinition).map String.ofList := by
  have hopens : opensDefinition ∘ String.ofList = startsDefinition := by
    funext line
    simp [opensDefinition, startsDefinition]
  rw [List.filter_map, hopens]

/-- Solid lines hold no line feeds. -/
theorem newline_not_mem_of_isSolid {chars : List (List Char)} (h : isSolid chars = true) :
    ∀ line ∈ chars.map String.ofList, '\n' ∉ line.toList := by
  rw [isSolid, Bool.and_eq_true, List.all_eq_true] at h
  rw [List.forall_mem_map]
  exact fun line hline => newline_not_mem_ofList (by simpa using h.1 line hline)

/-- Solid lines end in one that is not empty. -/
theorem endsSolid_of_isSolid {chars : List (List Char)} (h : isSolid chars = true) :
    EndsSolid (chars.map String.ofList) := by
  have hsingle := newline_not_mem_of_isSolid h
  rw [isSolid, Bool.and_eq_true] at h
  obtain ⟨last, hlast, hsolid⟩ := (Option.any_eq_true _ _).mp h.2
  obtain ⟨before, rfl⟩ := List.getLast?_eq_some_iff.mp hlast
  refine ⟨before.map String.ofList, String.ofList last, by simp, ?_, hsingle _ (by simp)⟩
  simpa using hsolid

/-- The definitions of a snippet whose first line may hold a name, while the others are fixed. -/
theorem definitions_snippet {code : Snippet} {first : String} {rest heads : List String}
    {chars : List (List Char)} (hlines : code.lines = first :: rest) (hrest : Spelled rest chars)
    (hsolid : isSolid chars = true)
    (hheads : (chars.filter startsDefinition).map String.ofList = heads)
    (hfirst : '\n' ∉ first.toList) :
    (Piece.snippet code).lines.filter opensDefinition =
      [first].filter opensDefinition ++ heads := by
  rw [hrest.eq_map, ← List.singleton_append] at hlines
  have hsingle : ∀ line ∈ code.lines, '\n' ∉ line.toList := by
    rw [hlines, List.singleton_append, List.forall_mem_cons]
    exact ⟨hfirst, newline_not_mem_of_isSolid hsolid⟩
  have hcode : EndsSolid code.lines := by
    rw [hlines]
    exact (endsSolid_of_isSolid hsolid).append_left [first]
  rw [lines_snippet_of_single hcode hsingle, hlines, List.filter_append, filter_map_ofList, hheads]

/-! ## Classes -/

/-- A class has one line in the first column that is not a comment, which is the first line of its
header.  The header is fixed up to the name of the class, and nothing else in it is a definition. -/
theorem definitions_class {header : Snippet} {name : String} {rest : List String}
    {chars : List (List Char)} (hlines : header.lines = classLine name :: rest)
    (hrest : Spelled rest chars) (hsolid : isSolid chars = true)
    (hheads : chars.filter startsDefinition = []) (hname : '\n' ∉ name.toList)
    (comments : CommentIndex) (location : Location) (body : Outline) :
    (Outline.linesAt "    " 0
      ([(Piece.comment (comments.leadingAt location)).here, (Piece.snippet header).here] ++
        body.deeper ++ [(Piece.comment (comments.trailingAt location)).here])).filter
          opensDefinition = [classLine name] := by
  have hheader : (Piece.snippet header).lines.filter opensDefinition = [classLine name] := by
    rw [definitions_snippet hlines hrest hsolid rfl (by simpa [classLine] using hname), hheads,
      List.filter_singleton, opensDefinition_classLine]
    rfl
  have hleading := filter_eq_nil_of_isMarked (marked_leadingAt comments location)
  have htrailing := filter_eq_nil_of_isMarked (marked_trailingAt comments location)
  rw [← List.singleton_append, linesAt_append, linesAt_append, linesAt_append, linesAt_here,
    linesAt_here, linesAt_here]
  simp [Piece.lines.eq_1, hleading, htrailing, filter_linesAt_deeper, hheader]

section

variable {bound : BoundService} (hname : '\n' ∉ bound.service.name.toList)
  (comments : CommentIndex)

include hname

/-- A client class defines itself and nothing else. -/
theorem definitions_client :
    (writeClient comments bound {}).lines.filter opensDefinition =
      [classLine (clientName bound.service)] := by
  have hclient : '\n' ∉ (clientName bound.service).toList := by simpa [clientName] using hname
  rw [writeClient_eq, lines_write_empty, clientOutline]
  exact definitions_class rfl (by repeat' constructor) rfl rfl hclient comments _ _

/-- A server class defines itself and nothing else. -/
theorem definitions_server :
    (writeServer comments bound {}).lines.filter opensDefinition =
      [classLine (serverName bound.service)] := by
  have hserver : '\n' ∉ (serverName bound.service).toList := by simpa [serverName] using hname
  rw [writeServer_eq, lines_write_empty, serverOutline]
  exact definitions_class rfl (by repeat' constructor) rfl rfl hserver comments _ _

end

/-- The classes of some services are defined one after the other. -/
theorem definitions_classLines {write : BoundService → Emitter → Emitter} {name : Service → String}
    {services : List BoundService}
    (h : ∀ bound ∈ services, (write bound {}).lines.filter opensDefinition =
      [classLine (name bound.service)]) :
    (classLines write services).filter opensDefinition =
      services.map fun bound => classLine (name bound.service) := by
  induction services with
  | nil => rfl
  | cons bound services ih =>
      rw [List.forall_mem_cons] at h
      have hblank : opensDefinition "" = false := rfl
      rw [classLines, List.flatMap_cons, ← classLines, List.filter_append, List.filter_append, h.1,
        ih h.2]
      simp [hblank]

/-! ## The lines before the classes -/

/-- The header of a module defines nothing. -/
theorem definitions_header {file : SchemaFile} (hname : '\n' ∉ file.name.toList) :
    ((headerOutline file).linesAt "    " 0).filter opensDefinition = [] := by
  have hmarked : ∀ line ∈ (Snippet.fileHeader file.name).lines, IsMarked line := by
    simp only [Snippet.lines, List.forall_mem_cons]
    exact ⟨⟨by simp, newline_not_mem_ofList rfl⟩, ⟨by simp, by simpa using hname⟩, by simp⟩
  have hlines : (Piece.snippet (.fileHeader file.name)).lines =
      (Snippet.fileHeader file.name).lines :=
    lines_snippet_of_single (endsSolid_of_marked (by simp [Snippet.lines]) hmarked)
      fun line hline => (hmarked line hline).single
  rw [headerOutline, linesAt_append, linesAt_here, List.filter_append, hlines,
    filter_eq_nil_of_isMarked hmarked, List.nil_append]
  split
  · rfl
  · rw [linesAt_comment]
    apply filter_eq_nil_of_isMarked
    rw [List.forall_mem_cons]
    exact ⟨⟨by decide, by decide⟩, marked_leadingAt file.comments _⟩

/-- The first lines of what all modules define for their classes. -/
def helperHeads : List String :=
  ["def _as_bytes(data):", "def _to_payload(message):", "class _ChannelRelay:"]

/-- Imports define nothing. -/
theorem filter_imports (imports : List ModuleImport) :
    (Outline.linesAt "    " 0
      (imports.map fun imported => (Piece.line imported.statement).here)).filter opensDefinition =
        [] := by
  induction imports with
  | nil => rfl
  | cons imported imports ih =>
      have hhead : imported.statement.toList.head? = some 'f' := by
        simp [ModuleImport.statement]
      have hstatement := opensDefinition_of_head? hhead (by decide) (by decide)
      rw [List.map_cons, ← List.singleton_append, linesAt_append, linesAt_here, List.filter_append,
        ih, Piece.lines, List.filter_singleton, hstatement]
      rfl

/-- The fixed imports define nothing, whatever file they name. -/
theorem definitions_modulePreamble {source : String} (hsource : '\n' ∉ source.toList) :
    (Piece.snippet (.modulePreamble source)).lines.filter opensDefinition = [] := by
  let first := "\"\"\"RSocket RPC client and server stubs for `" ++ source ++ "`.\"\"\""
  have hhead : first.toList.head? = some '"' := by
    simp [first]
  have hfirst := opensDefinition_of_head? hhead (by decide) (by decide)
  have hpreamble : (Piece.snippet (.modulePreamble source)).lines.filter opensDefinition =
      [first].filter opensDefinition ++ [] := by
    apply definitions_snippet
    · rfl
    · repeat' constructor
    · rfl
    · rfl
    · simpa [first] using hsource
  rw [hpreamble, List.filter_singleton, hfirst]
  rfl

theorem definitions_payloadHelpers :
    (Piece.snippet .payloadHelpers).lines.filter opensDefinition = helperHeads := by
  have hhelpers : (Piece.snippet .payloadHelpers).lines.filter opensDefinition =
      ["def _as_bytes(data):"].filter opensDefinition ++
        ["def _to_payload(message):", "class _ChannelRelay:"] := by
    apply definitions_snippet
    · rfl
    · repeat' constructor
    · rfl
    · rfl
    · decide
  rw [hhelpers]
  rfl

/-- In front of the classes, a module defines the helpers and nothing else. -/
theorem definitions_preamble {file : SchemaFile} (hname : '\n' ∉ file.name.toList) :
    ((preambleOutline file).linesAt "    " 0).filter opensDefinition = helperHeads := by
  have hblank : (Piece.line "").lines.filter opensDefinition = [] := rfl
  have hpreamble : preambleOutline file =
      [(Piece.line "").here] ++ [(Piece.snippet (.modulePreamble file.name)).here] ++
        (file.imports.map fun imported => (Piece.line imported.statement).here) ++
        [(Piece.line "").here] ++ [(Piece.line "").here] ++
        [(Piece.snippet .payloadHelpers).here] := by
    simp [preambleOutline]
  simp only [hpreamble, linesAt_append, List.filter_append, hblank, filter_imports, linesAt_here,
    definitions_modulePreamble hname, definitions_payloadHelpers, List.nil_append,
    List.append_nil]

/-! ## Modules -/

/-- What stands in front of the classes is written line by line if the names are on one line. -/
theorem isSingle_preamble {file : SchemaFile} (h : file.NamesOnOneLine) :
    (headerOutline file ++ preambleOutline file).IsSingle := by
  have himports : ∀ imported ∈ file.imports, '\n' ∉ imported.statement.toList := by
    rw [SchemaFile.imports, List.forall_mem_map]
    exact fun imported himported => newline_not_mem_statement (h.of_mem_importedFiles himported)
  have hheader : (headerOutline file).IsSingle := by
    have hleading := marked_leadingAt file.comments SchemaFile.location
    unfold headerOutline
    split
    · simp
    · simp only [Outline.isSingle_append, Outline.isSingle_cons, piece_here,
        Piece.isSingle_snippet, Outline.isSingle_nil, and_true, true_and]
      exact List.forall_mem_cons.mpr ⟨by decide, fun line hline => (hleading line hline).single⟩
  simpa [hheader, preambleOutline] using himports

/-- A module defines the helpers, the clients and then the servers, each in the order of the
services. -/
theorem definitions_writeModule {file : SchemaFile} (h : file.NamesOnOneLine)
    {services : List BoundService} (hservices : services.map BoundService.service = file.services) :
    definitions (writeModule file services {}).text =
      helperHeads ++ (file.services.map fun service => classLine (clientName service)) ++
        file.services.map fun service => classLine (serverName service) := by
  have hnames : ∀ bound ∈ services, '\n' ∉ bound.service.name.toList := by
    intro bound hbound
    apply h.services
    rw [← hservices]
    exact List.mem_map_of_mem hbound
  have hfront : ((writePreamble file (writeHeader file {})).lines.flatMap codeLines).filter
      opensDefinition = helperHeads := by
    rw [writePreamble_eq, writeHeader_eq, write_write, lines_write_empty,
      (isSingle_preamble h).flatMap_codeLines, linesAt_append, List.filter_append,
      definitions_header h.name, definitions_preamble h.name, List.nil_append]
  have hblank : opensDefinition "" = false := rfl
  have htrailer : (trailerLines file).filter opensDefinition = [] := by
    have hmarked := marked_trailingAt file.comments SchemaFile.location
    unfold trailerLines
    split
    · rfl
    · rw [List.filter_cons_of_neg (by simp [hblank]), filter_eq_nil_of_isMarked hmarked]
  have hclients := definitions_classLines fun bound hbound =>
    definitions_client (hnames bound hbound) file.comments
  have hservers := definitions_classLines fun bound hbound =>
    definitions_server (hnames bound hbound) file.comments
  rw [definitions, codeLines_writeModule]
  simp only [List.filter_append, hfront, hclients, hservers, htrailer]
  simp [← hservices, hblank, Function.comp_def]

/-- A text with a solid last line ends in one line feed. -/
theorem exists_toList_text {out : Emitter} (h : EndsSolid out.lines) :
    ∃ front last, out.text.toList = front ++ [last, '\n'] ∧ last ≠ '\n' := by
  obtain ⟨front, last, hlines, hnewline⟩ := h.exists_last
  refine ⟨front, last, ?_, hnewline⟩
  rw [Emitter.text, h.dropTrailingNewlines_joinLines, String.toList_append, hlines]
  simp

/-! ## Names at the top level -/

/-- The names of what all modules define for their classes. -/
def helperNames : List String :=
  ["_as_bytes", "_to_payload", "_ChannelRelay"]

/-- The names of the functions and classes of a module. -/
def topLevelNames (file : SchemaFile) : List String :=
  helperNames ++ file.services.map clientName ++ file.services.map serverName

/-- Names are told apart by their last letters. -/
theorem ne_of_getLast? {first second : String} {c d : Char}
    (hfirst : first.toList.getLast? = some c) (hsecond : second.toList.getLast? = some d)
    (h : c ≠ d) : first ≠ second := by
  rintro rfl
  exact h (Option.some.inj (hfirst.symm.trans hsecond))

theorem getLast?_clientName (service : Service) :
    (clientName service).toList.getLast? = some 't' := by
  simp [clientName]

theorem getLast?_serverName (service : Service) :
    (serverName service).toList.getLast? = some 'r' := by
  simp [serverName]

/-- The names of the helpers end in other letters than those of classes. -/
theorem getLast?_of_mem_helperNames {name : String} (h : name ∈ helperNames) :
    ∃ c ∈ ['s', 'd', 'y'], name.toList.getLast? = some c := by
  simp only [helperNames, List.mem_cons, List.not_mem_nil, or_false] at h
  rcases h with rfl | rfl | rfl
  · exact ⟨'s', by decide, by decide⟩
  · exact ⟨'d', by decide, by decide⟩
  · exact ⟨'y', by decide, by decide⟩

theorem nodup_map_append {services : List Service} (h : (services.map Service.name).Nodup)
    (suffix : String) : (services.map fun service => service.name ++ suffix).Nodup := by
  have hinjective : Function.Injective (· ++ suffix) := by
    intro first second heq
    simpa using heq
  have hmap := h.map hinjective
  rwa [List.map_map] at hmap

/-- The names of a module are distinct if those of the services are. -/
theorem nodup_topLevelNames {file : SchemaFile} (h : (file.services.map Service.name).Nodup) :
    (topLevelNames file).Nodup := by
  rw [topLevelNames, List.nodup_append, List.nodup_append]
  refine ⟨⟨by decide, nodup_map_append h "Client", ?_⟩, nodup_map_append h "Server", ?_⟩
  · intro helper hhelper name hname
    obtain ⟨c, hc, hlast⟩ := getLast?_of_mem_helperNames hhelper
    obtain ⟨service, _, rfl⟩ := List.mem_map.mp hname
    refine ne_of_getLast? hlast (getLast?_clientName service) ?_
    rintro rfl
    exact absurd hc (by decide)
  · intro other hother name hname
    obtain ⟨service, _, rfl⟩ := List.mem_map.mp hname
    rcases List.mem_append.mp hother with hhelper | hclient
    · obtain ⟨c, hc, hlast⟩ := getLast?_of_mem_helperNames hhelper
      refine ne_of_getLast? hlast (getLast?_serverName service) ?_
      rintro rfl
      exact absurd hc (by decide)
    · obtain ⟨service', _, rfl⟩ := List.mem_map.mp hclient
      exact ne_of_getLast? (getLast?_clientName service') (getLast?_serverName service) (by decide)

/-- No import takes the name of a function or class. -/
theorem aliasName_not_mem_topLevelNames {file : SchemaFile} {imported : ModuleImport}
    (h : imported ∈ file.imports) : imported.aliasName ∉ topLevelNames file := by
  obtain ⟨dependency, _, rfl⟩ := List.mem_map.mp h
  have halias : (FileName.moduleAlias dependency).toList.getLast? = some '2' := by
    simp [FileName.moduleAlias]
  intro hmem
  rw [topLevelNames, List.mem_append, List.mem_append] at hmem
  rcases hmem with (hhelper | hclient) | hserver
  · obtain ⟨c, hc, hlast⟩ := getLast?_of_mem_helperNames hhelper
    refine ne_of_getLast? hlast halias ?_ rfl
    rintro rfl
    exact absurd hc (by decide)
  · obtain ⟨service, _, hname⟩ := List.mem_map.mp hclient
    exact ne_of_getLast? (getLast?_clientName service) halias (by decide) hname
  · obtain ⟨service, _, hname⟩ := List.mem_map.mp hserver
    exact ne_of_getLast? (getLast?_serverName service) halias (by decide) hname

/-- A module that defines what it should at its top level and nothing else. -/
structure TopLevelLayout (file : SchemaFile) (output : Output) : Prop where
  definitions : file.NamesOnOneLine → definitions output.text =
    helperHeads ++ (file.services.map fun service => classLine (clientName service)) ++
      file.services.map fun service => classLine (serverName service)
  names : (file.services.map Service.name).Nodup → (topLevelNames file).Nodup ∧
    ∀ imported ∈ file.imports, imported.aliasName ∉ topLevelNames file
  ending : ∃ front last, output.text.toList = front ++ [last, '\n'] ∧ last ≠ '\n'

/-- Binding keeps the services and their order. -/
theorem service_of_mapM_bindService {services : List Service} {bounds : List BoundService}
    (h : services.mapM bindService = .ok bounds) : bounds.map BoundService.service = services := by
  have hbounds := mapM_eq_ok_iff.mp h
  clear h
  induction hbounds with
  | nil => rfl
  | cons hbound _ ih =>
      obtain ⟨_, rfl⟩ := bindService_eq_ok_iff.mp hbound
      rw [List.map_cons, ih]

/-- **Every module has the top level that it should have.** -/
theorem topLevelLayout_of_moduleOf {file : SchemaFile} {output : Output}
    (h : moduleOf file = .ok output) : TopLevelLayout file output := by
  unfold moduleOf at h
  cases hbound : file.services.mapM bindService with
  | error clash => simp [hbound] at h
  | ok services =>
      simp only [hbound, Except.ok.injEq] at h
      subst h
      have hservices := service_of_mapM_bindService hbound
      refine ⟨fun hnames => definitions_writeModule hnames hservices,
        fun hnodup => ⟨nodup_topLevelNames hnodup, fun _ => aliasName_not_mem_topLevelNames⟩, ?_⟩
      apply exists_toList_text
      rw [writeModule_eq, lines_write_empty]
      exact endsSolid_module file services

/-- **The layout of a module at its top level**: the helpers, the client classes and then the server
classes, in order of declaration, whatever comments and imports stand between them.  Services with
different names have classes with different names, and none is named like an import.  The text ends
in one line feed. -/
theorem top_level_layout {files : List SchemaFile} {outputs : List Output}
    (h : generate files = .ok outputs) :
    List.Forall₂ TopLevelLayout (files.filter fun file => !file.services.isEmpty) outputs :=
  (mapM_eq_ok_iff.mp h).imp fun _ _ => topLevelLayout_of_moduleOf

/-- A file with services that are named like classes of others, and with comments that read like
definitions. -/
def mimickingFile : SchemaFile where
  name := "talk/echo.proto"
  services :=
    let text : RecordType := ⟨"talk.Text", "talk/text.proto", "talk"⟩
    [{ name := "Echo", fullName := "talk.Echo", location := [6, 0],
       methods := [{ name := "Say", input := text, output := text, location := [6, 0, 2, 0] }] },
     { name := "EchoClient", fullName := "talk.EchoClient", location := [6, 1] },
     { name := "EchoServer", fullName := "talk.EchoServer", location := [6, 2] }]
  dependencies := ["talk/text.proto"]
  comments := { entries :=
    [([6, 0], { leading := "class EchoClient:\n" }),
     ([6, 0, 2, 0], { trailing := "def say(): pass" }),
     ([12], { leading := "class Echo:\ndef echo():\n", trailing := "\nclass Echo:" })] }

theorem top_level_layout_mimicking :
    ∃ output, generate [mimickingFile] = .ok [output] ∧
      definitions output.text =
        ["def _as_bytes(data):", "def _to_payload(message):", "class _ChannelRelay:",
         "class EchoClient:", "class EchoClientClient:", "class EchoServerClient:",
         "class EchoServer:", "class EchoClientServer:", "class EchoServerServer:"] ∧
      (topLevelNames mimickingFile).Nodup ∧
      (∀ imported ∈ mimickingFile.imports, imported.aliasName ∉ topLevelNames mimickingFile) ∧
      ∃ front last, output.text.toList = front ++ [last, '\n'] ∧ last ≠ '\n' := by
  have hnames : mimickingFile.NamesOnOneLine := ⟨by decide, by decide, by decide, by decide⟩
  have haccepted : (mimickingFile.services.mapM bindService).toBool = true := by decide +kernel
  have hgenerated := generate_singleton (show mimickingFile.services ≠ [] by decide)
  cases hbound : mimickingFile.services.mapM bindService with
  | error clash =>
      rw [hbound] at haccepted
      exact absurd haccepted Bool.false_ne_true
  | ok services =>
      rw [hbound] at hgenerated
      cases top_level_layout hgenerated with
      | cons hlayout _ =>
          obtain ⟨hnodup, haliases⟩ := hlayout.names (by decide)
          exact ⟨_, hgenerated, hlayout.definitions hnames, hnodup, haliases, hlayout.ending⟩

end Stub

end StubGen
