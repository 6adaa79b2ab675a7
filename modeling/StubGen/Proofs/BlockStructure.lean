import StubGen.Proofs.OutlineBlocks

/-!
# StubGen.Proofs.BlockStructure

Generated modules obey the rule of indentation, whatever shapes and comments they have.

1. Every snippet is nested on its own, if its names are plain.  This is computed from its sketch.
2. Every writer puts down a suite, or what follows in one: an entry point with or without methods
   (`isSuite_entryOutline`), a class with all its functions (`isSuite_clientOutline`,
   `isSuite_serverOutline`), and a module (`follows_moduleOutline`).
3. So the text of a module is block-structured (`generate_isBlockStructured`).
-/

namespace StubGen.Stub

open Text Layout

/-! ## Lines with names -/

/-- A trace binding with plain names. -/
structure TraceBinding.PlainNames (binding : TraceBinding) : Prop where
  wrapper : Plain binding.wrapper
  factory : Plain binding.factory
  operation : Plain binding.operation
  serviceName : Plain binding.serviceName
  role : Plain binding.role
  serviceTag : Plain binding.serviceTag
  typeTag : Plain binding.typeTag

/-- A call site with plain names. -/
structure CallSite.PlainNames (site : CallSite) : Prop where
  function : Plain site.function
  traceAttribute : Plain site.traceAttribute
  serviceName : Plain site.serviceName
  rpcName : Plain site.rpcName

/-- A branch with plain names. -/
structure Branch.PlainNames (branch : Branch) : Prop where
  rpcName : Plain branch.rpcName
  traceAttribute : Plain branch.traceAttribute
  handler : Plain branch.handler
  inputType : Plain branch.inputType

theorem plain_primitive (shape : Shape) : Plain shape.primitive := by
  cases shape <;> decide

theorem plain_entryParameter (shape : Shape) : Plain (entryParameter shape) := by
  cases shape <;> decide

theorem sketch_statement {imported : ModuleImport} (hpackage : Plain imported.package)
    (hmodule : Plain imported.moduleName) (halias : Plain imported.aliasName) :
    LineSketch imported.statement "from  import  as " :=
  .lastName (lineSketch_names hpackage hmodule rfl rfl rfl) rfl rfl halias

/-- The head of an entry point holds the names of the shape and of its parameter. -/
theorem sketch_entryHead (shape : Shape) : LineSketch (entryHead shape) "def (self, ):" :=
  lineSketch_names (plain_primitive shape) (plain_entryParameter shape) rfl rfl rfl

/-- A tag and its value may follow any code. -/
theorem sketch_append_tagLiteral {line tag value : String} {sketch : List Char}
    (hline : LineSketch line (.ofList sketch)) (hcode : isBlank sketch = false)
    (htag : Plain tag) (hvalue : Plain value) :
    LineSketch (line ++ tagLiteral tag value)
      (.ofList (sketch ++ ['\x7b', '\x22', '\x22', ':', ' ', '\x22', '\x22', '\x7d'])) := by
  have hopened : isBlank (sketch ++ ['\x7b']) = false := isBlank_append hcode
  have hbrace : LineSketch (line ++ "\x7b") (.ofList (sketch ++ ['\x7b'])) := .more hline ['\x7b']
  have hkey := LineSketch.literal hbrace hopened (settles_append sketch rfl) htag [':', ' '] rfl
  have hentry := LineSketch.literal hkey (isBlank_append hopened) (settles_append _ rfl) hvalue
    ['\x7d'] rfl
  simpa [tagLiteral, String.append_assoc] using hentry

section

variable {site : CallSite} {branch : Branch} {binding : TraceBinding}

theorem sketch_tags (h : binding.PlainNames) :
    LineSketch
      ("    tracer, " ++ inQuotes binding.operation ++ ", " ++
        tagLiteral binding.serviceTag binding.serviceName ++ ", " ++
        tagLiteral binding.typeTag binding.role)
      "    tracer, \"\", \x7b\"\": \"\"\x7d, \x7b\"\": \"\"\x7d" := by
  have hoperation : LineSketch ("    tracer, " ++ inQuotes binding.operation ++ ", ")
      "    tracer, \"\", " := lineSketch_literal h.operation rfl rfl rfl
  have hservice := sketch_append_tagLiteral hoperation rfl h.serviceTag h.serviceName
  exact sketch_append_tagLiteral (.more hservice _) rfl h.typeTag h.role

/-- The metadata of a call hold the names of the service and of the method, as literals. -/
theorem sketch_encodeMetadata (h : site.PlainNames) :
    LineSketch site.encodeMetadata
      "metadata_bytes = rsocket_rpc_frames.encode_metadata(\"\", \"\", tracing_metadata, metadata or b\"\")" :=
  lineSketch_literals h.serviceName h.rpcName rfl rfl rfl rfl rfl

theorem sketch_readResponses {outputType : String} (h : Plain outputType) :
    LineSketch (readResponses outputType)
      ".pipe(ops.map(lambda payload: .FromString(_as_bytes(payload.data))))" :=
  lineSketch_name h rfl rfl

theorem sketch_returnTraced (h : site.PlainNames) :
    LineSketch site.returnTraced "return self.(trace_map)(reactivex.create(subscribe))" :=
  lineSketch_name h.traceAttribute rfl rfl

/-- A branch compares with the name of its method, as a literal. -/
theorem sketch_test (h : branch.PlainNames) : LineSketch branch.test "if method == \"\":" :=
  lineSketch_literal h.rpcName rfl rfl rfl

theorem sketch_handleSingle (h : branch.PlainNames) :
    LineSketch branch.handleSingle
      "self._service.(.FromString(_as_bytes(payload.data)), payload.metadata)" :=
  lineSketch_names h.handler h.inputType rfl rfl rfl

end

/-! ## Snippets without names -/

/-- The helpers are fixed text, so their sketch is the text itself. -/
theorem isNestedCode_payloadHelpers : IsNestedCode Snippet.payloadHelpers.lines := by
  apply isNestedCode_of_sketch
  · unfold Snippet.lines conversionLines relayLines
    simp only [List.cons_append, List.nil_append]
    repeat' constructor
  · rfl

theorem isNestedCode_metadataPushEntry : IsNestedCode Snippet.metadataPushEntry.lines := by
  apply isNestedCode_of_sketch
  · unfold Snippet.lines
    repeat' constructor
  · rfl

theorem isNestedCode_channelEntry : IsNestedCode Snippet.channelEntry.lines := by
  apply isNestedCode_of_sketch
  · unfold Snippet.lines channelEntryLines
    repeat' constructor
  · rfl

/-! ## Snippets of a shape -/

/-- An error is raised, or returned. -/
theorem reject_eq_or_eq (shape : Shape) (error : String) :
    reject shape error = "raise " ++ error ∨
      reject shape error = "return reactivex.throw(" ++ error ++ ")" :=
  ite_eq_or_eq ..

/-- Here a name stands inside a literal, in front of other text. -/
theorem isNestedCode_unimplemented (shape : Shape) : IsNestedCode (unimplemented shape).lines := by
  have hhead := sketch_entryHead shape
  have herror : LineSketch
      ("NotImplementedError(\"" ++ shape.primitive ++ "() is not implemented\")")
      "NotImplementedError(\"() is not implemented\")" :=
    lineSketch_name (plain_primitive shape) rfl rfl
  unfold unimplemented
  obtain hraise | hreturn := reject_eq_or_eq shape
    ("NotImplementedError(\"" ++ shape.primitive ++ "() is not implemented\")")
  · rw [hraise]
    exact isNestedCode_of_sketch
      (.cons hhead (.cons (.behind _ rfl (.behind _ rfl herror)) .nil)) rfl
  · rw [hreturn]
    exact isNestedCode_of_sketch
      (.cons hhead (.cons (.behind _ rfl (.more (.behind _ rfl herror) _)) .nil)) rfl

/-- The metadata are checked in a block of one statement. -/
theorem isNestedCode_routingPreamble (shape : Shape) :
    IsNestedCode (Snippet.routingPreamble (reject shape missingMetadataError)).lines := by
  obtain hraise | hreturn := reject_eq_or_eq shape missingMetadataError
  · rw [hraise]
    apply isNestedCode_of_sketch
    · apply List.Forall₂.cons (.text _)
      constructor
      · exact .behind _ rfl (.behind _ rfl (.text _))
      repeat' constructor
    · rfl
  · rw [hreturn]
    apply isNestedCode_of_sketch
    · apply List.Forall₂.cons (.text _)
      constructor
      · exact .behind _ rfl (.more (.behind _ rfl (.text _)) _)
      repeat' constructor
    · rfl

theorem isNestedCode_reject (shape : Shape) : IsNestedCode [reject shape unknownMethodError] := by
  obtain hraise | hreturn := reject_eq_or_eq shape unknownMethodError
  · rw [hraise]
    exact isNestedCode_of_sketch (.cons (.behind _ rfl (.text _)) .nil) rfl
  · rw [hreturn]
    exact isNestedCode_of_sketch (.cons (.more (.behind _ rfl (.text _)) _) .nil) rfl

/-! ## Snippets with names -/

/-- The description of a module holds the name of its file, between triple quotes. -/
theorem isNestedCode_modulePreamble {source : String} (h : Plain source) :
    IsNestedCode (Snippet.modulePreamble source).lines := by
  apply isNestedCode_of_sketch
  · unfold Snippet.lines preambleLines
    constructor
    · exact lineSketch_name h rfl rfl
    repeat' constructor
  · rfl

theorem isNestedCode_statement {imported : ModuleImport} (hpackage : Plain imported.package)
    (hmodule : Plain imported.moduleName) (halias : Plain imported.aliasName) :
    IsNestedCode [imported.statement] :=
  isNestedCode_of_sketch (.cons (sketch_statement hpackage hmodule halias) .nil) rfl

/-- The binding of a trace wrapper goes on over three lines, inside a bracket. -/
theorem isNestedCode_traceBinding {binding : TraceBinding} (h : binding.PlainNames) :
    IsNestedCode (Snippet.traceBinding binding).lines := by
  apply isNestedCode_of_sketch
  · unfold Snippet.lines TraceBinding.lines
    constructor
    · exact lineSketch_names h.wrapper h.factory rfl rfl rfl
    constructor
    · exact sketch_tags h
    repeat' constructor
  · rfl

section

variable {site : CallSite} (h : site.PlainNames) {outputType : String} (houtput : Plain outputType)

include h

/-- A client function without a response has no function inside it. -/
theorem isNestedCode_fireAndForgetCall : IsNestedCode (Snippet.fireAndForgetCall site).lines := by
  apply isNestedCode_of_sketch
  · unfold Snippet.lines CallSite.fireAndForgetLines
    constructor
    · exact lineSketch_name h.function rfl rfl
    apply List.Forall₂.cons (.text _)
    constructor
    · exact .more (lineSketch_name h.traceAttribute rfl rfl) _
    apply List.Forall₂.cons (.text _)
    constructor
    · exact .behind _ rfl (.text _)
    constructor
    · exact .behind _ rfl (sketch_encodeMetadata h)
    repeat' constructor
  · rfl

include houtput

/-- A client function with responses has a function inside it, whose result goes on over several
lines. -/
theorem isNestedCode_singleRequestCall {primitive : String} (hprimitive : Plain primitive) :
    IsNestedCode (Snippet.singleRequestCall site primitive outputType).lines := by
  apply isNestedCode_of_sketch
  · unfold Snippet.lines CallSite.singleRequestLines
    constructor
    · exact lineSketch_name h.function rfl rfl
    repeat apply List.Forall₂.cons (.text _)
    constructor
    · exact .behind _ rfl (.text _)
    constructor
    · exact .behind _ rfl (sketch_encodeMetadata h)
    apply List.Forall₂.cons (.text _)
    constructor
    · exact lineSketch_name hprimitive rfl rfl
    constructor
    · exact .behind _ rfl (sketch_readResponses houtput)
    repeat apply List.Forall₂.cons (.text _)
    exact .cons (.behind _ rfl (sketch_returnTraced h)) .nil
  · rfl

theorem isNestedCode_channelCall : IsNestedCode (Snippet.channelCall site outputType).lines := by
  apply isNestedCode_of_sketch
  · unfold Snippet.lines CallSite.channelLines
    constructor
    · exact lineSketch_name h.function rfl rfl
    repeat apply List.Forall₂.cons (.text _)
    constructor
    · exact .behind _ rfl (.text _)
    constructor
    · exact .behind _ rfl (sketch_encodeMetadata h)
    repeat apply List.Forall₂.cons (.text _)
    constructor
    · exact .behind _ rfl (sketch_readResponses houtput)
    repeat apply List.Forall₂.cons (.text _)
    exact .cons (.behind _ rfl (sketch_returnTraced h)) .nil
  · rfl

end

section

variable {branch : Branch} (h : branch.PlainNames)

include h

theorem isNestedCode_fireAndForgetCase :
    IsNestedCode (Snippet.fireAndForgetCase branch).lines := by
  apply isNestedCode_of_sketch
  · unfold Snippet.lines Branch.fireAndForgetLines
    constructor
    · exact sketch_test h
    constructor
    · exact .more (lineSketch_name h.traceAttribute rfl rfl) _
    constructor
    · exact .behind _ rfl (sketch_handleSingle h)
    repeat' constructor
  · rfl

theorem isNestedCode_singleRequestCase :
    IsNestedCode (Snippet.singleRequestCase branch).lines := by
  apply isNestedCode_of_sketch
  · unfold Snippet.lines Branch.singleRequestLines
    constructor
    · exact sketch_test h
    constructor
    · exact lineSketch_name h.traceAttribute rfl rfl
    constructor
    · exact .more (.behind _ rfl (sketch_handleSingle h)) _
    repeat' constructor
  · rfl

theorem isNestedCode_channelCase : IsNestedCode (Snippet.channelCase branch).lines := by
  apply isNestedCode_of_sketch
  · unfold Snippet.lines Branch.channelLines
    constructor
    · exact sketch_test h
    constructor
    · exact lineSketch_name h.inputType rfl rfl
    constructor
    · exact lineSketch_name h.traceAttribute rfl rfl
    constructor
    · exact lineSketch_name h.handler rfl rfl
    repeat' constructor
  · rfl

end

/-! ## Lines that announce a block -/

theorem reads_entryHead (shape : Shape) : Layout.Reads [entryHead shape] [⟨0, true⟩] :=
  reads_of_sketch (.cons (sketch_entryHead shape) .nil) rfl rfl

/-- The head of the channel switch announces a block. -/
theorem reads_switchHead : Layout.Reads [switchHead] [⟨0, true⟩] :=
  reads_of_sketch (.cons (.text _) .nil) rfl rfl

theorem reads_try : Layout.Reads ["try:"] [⟨0, true⟩] :=
  reads_of_sketch (.cons (.text _) .nil) rfl rfl

theorem reads_except : Layout.Reads ["except Exception as error:"] [⟨0, true⟩] :=
  reads_of_sketch (.cons (.text _) .nil) rfl rfl

/-- What the head of a class reads as: the class, its constructor, and two statements in there. -/
def classHead : List LogicalLine := [⟨0, true⟩, ⟨4, true⟩, ⟨8, false⟩, ⟨8, false⟩]

theorem reads_clientHeader {name : String} (h : Plain name) :
    Layout.Reads (Snippet.clientHeader name).lines classHead := by
  apply reads_of_sketch
  · constructor
    · exact lineSketch_name h rfl rfl
    repeat' constructor
  · rfl
  · rfl

theorem reads_serverHeader {name : String} (h : Plain name) :
    Layout.Reads (Snippet.serverHeader name).lines classHead := by
  apply reads_of_sketch
  · constructor
    · exact lineSketch_name h rfl rfl
    repeat' constructor
  · rfl
  · rfl

/-! ## Lines that are not read -/

/-- The header of a module is made of comments. -/
theorem reads_fileHeader {source : String} (h : Plain source) :
    Layout.Reads (Snippet.fileHeader source).lines [] := by
  apply reads_of_sketch
  · exact .cons (.text _) (.cons (.lastName (.text _) rfl rfl h) .nil)
  · rfl
  · rfl

/-- Empty lines are not read. -/
theorem isSilent_blank (level : Nat) : Outline.IsSilent level [(Piece.line "").here] :=
  (Piece.line "").hasLogicalLines_here ⟨by decide, rfl⟩ level

/-! ## Functions -/

section

variable {methods : List BoundMethod} {bound : BoundMethod}

/-- A client function is nested on its own, whatever the shape of its method. -/
theorem isNestedCode_clientCall (h : bound.PlainNames) : IsNestedCode bound.clientCall.lines := by
  have hsite : bound.callSite.PlainNames :=
    ⟨h.function, h.traceAttribute, h.serviceName, h.rpcName⟩
  unfold BoundMethod.clientCall
  cases bound.shape with
  | fireAndForget => exact isNestedCode_fireAndForgetCall hsite
  | requestResponse | requestStream =>
      exact isNestedCode_singleRequestCall hsite h.outputType (plain_primitive _)
  | requestChannel => exact isNestedCode_channelCall hsite h.outputType

/-- The branch of a method is nested on its own, whatever the shape of the method. -/
theorem isNestedCode_serverCase (h : bound.PlainNames) : IsNestedCode bound.serverCase.lines := by
  have hbranch : bound.branch.PlainNames :=
    ⟨h.rpcName, h.traceAttribute, h.function, h.inputType⟩
  unfold BoundMethod.serverCase
  cases bound.shape with
  | fireAndForget => exact isNestedCode_fireAndForgetCase hbranch
  | requestResponse | requestStream => exact isNestedCode_singleRequestCase hbranch
  | requestChannel => exact isNestedCode_channelCase hbranch

/-- A trace binding has plain names, if those are plain that clients and servers do not share. -/
theorem plainNames_trace (h : bound.PlainNames) {factory role : String} (hfactory : Plain factory)
    (hrole : Plain role) : TraceBinding.PlainNames
      { wrapper := bound.traceAttribute, factory := factory, operation := bound.operation,
        serviceName := bound.serviceName, role := role } where
  wrapper := h.traceAttribute
  factory := hfactory
  operation := h.operation
  serviceName := h.serviceName
  role := hrole
  serviceTag := (by decide : Plain spanServiceTag)
  typeTag := (by decide : Plain spanTypeTag)

theorem plainNames_clientTrace (h : bound.PlainNames) : bound.clientTrace.PlainNames :=
  plainNames_trace h (by split <;> decide) (by decide)

theorem plainNames_serverTrace (h : bound.PlainNames) : bound.serverTrace.PlainNames :=
  plainNames_trace h (by split <;> decide) (by decide)

/-- Trace bindings follow in the constructor. -/
theorem follows_traceOutline {trace : BoundMethod → TraceBinding}
    (h : ∀ bound ∈ methods, (trace bound).PlainNames) (level : Nat) :
    (traceOutline trace methods).Follows level := by
  rw [traceOutline, List.map_eq_flatMap]
  apply Outline.follows_flatMap
  intro bound hbound
  exact (Snippet.isSuite_here (isNestedCode_traceBinding (h bound hbound)) level).follows

/-- A client function follows in its class, whatever comments stand around it. -/
theorem follows_callOutline (h : bound.PlainNames) (comments : CommentIndex) (level : Nat) :
    (callOutline comments bound).Follows level := by
  have hblank := (isSilent_blank level).follows
  have hcall := Snippet.isSuite_here (isNestedCode_clientCall h) level
  exact hblank.append (hcall.between comments bound.method.location).follows

/-- The statements that route a payload are a suite: there are some even without a method of the
shape. -/
theorem isSuite_routingOutline (h : ∀ bound ∈ methods, bound.PlainNames) (shape : Shape)
    (level : Nat) : (routingOutline methods shape).IsSuite level := by
  have hpreamble := Snippet.isSuite_here (isNestedCode_routingPreamble shape) level
  have hcases : Outline.Follows level
      ((entryCases methods shape).map fun code => (Piece.snippet code).here) := by
    rw [entryCases, List.map_map, List.map_eq_flatMap]
    apply Outline.follows_flatMap
    intro bound hbound
    have hplain := h bound (List.mem_of_mem_filter hbound)
    exact (Snippet.isSuite_here (isNestedCode_serverCase hplain) level).follows
  have hend : Outline.IsSuite level [(Piece.line (reject shape unknownMethodError)).here] :=
    (Piece.line _).isSuite_here (isNestedCode_reject shape) level
  exact (hpreamble.append hcases).append hend.follows

/-- An entry point for single requests catches what is raised in it, unless it raises errors itself.
-/
theorem isSuite_singleEntryOutline (h : ∀ bound ∈ methods, bound.PlainNames) (shape : Shape)
    (level : Nat) : (singleEntryOutline methods shape).IsSuite level := by
  apply Outline.IsSuite.header (reads_entryHead shape)
  by_cases hraises : entryRaises shape
  · rw [if_pos hraises]
    exact isSuite_routingOutline h shape (level + 1)
  · have hreturn : Outline.IsSuite (level + 2)
        [(Piece.line "return reactivex.throw(error)").here] :=
      (Piece.line _).isSuite_here
        (isNestedCode_of_sketch (.cons (.text _) .nil) rfl) (level + 2)
    rw [if_neg hraises, List.append_assoc]
    exact (Outline.IsSuite.header reads_try (isSuite_routingOutline h shape (level + 2))).append
      (Outline.IsSuite.header reads_except hreturn).follows

/-- The entry point for channels and the switch that it calls are two functions of one block. -/
theorem isSuite_channelEntryOutline (h : ∀ bound ∈ methods, bound.PlainNames) (level : Nat) :
    (channelEntryOutline methods).IsSuite level := by
  have hentry := Snippet.isSuite_here isNestedCode_channelEntry level
  have hblank := (isSilent_blank level).follows
  have hswitch := Outline.IsSuite.header reads_switchHead
    (isSuite_routingOutline h .requestChannel (level + 1))
  exact hentry.append (hblank.append hswitch.follows)

/-- An entry point is a suite, whether its service has methods of the shape or not. -/
theorem isSuite_entryOutline (h : ∀ bound ∈ methods, bound.PlainNames) (shape : Shape)
    (level : Nat) : (entryOutline methods shape).IsSuite level := by
  unfold entryOutline
  split
  · exact Snippet.isSuite_here (isNestedCode_unimplemented shape) level
  · split
    · exact isSuite_channelEntryOutline h level
    · exact isSuite_singleEntryOutline h shape level

end

/-! ## Classes -/

/-- The head of a class, more statements in its constructor, and what follows that one in the class
are a suite. -/
theorem isSuite_class {head : Snippet} (hhead : Layout.Reads head.lines classHead) {level : Nat}
    {traces functions : Outline} (htraces : traces.Follows (level + 2))
    (hfunctions : functions.Follows (level + 1)) :
    Outline.IsSuite level
      ([(Piece.snippet head).here] ++ Outline.deeper (traces.deeper ++ functions)) := by
  obtain ⟨bindings, hbindings, hcontinues⟩ := htraces
  obtain ⟨rest, hrest, hcontinues'⟩ := hfunctions
  have hlines := (Piece.snippet head).hasLogicalLines_here (Snippet.reads_lines hhead) level
  refine ⟨_, hlines.append (hbindings.deeper.append hrest).deeper, ?_⟩
  have hstatements : Suite (4 * (level + 2)) [⟨4 * level + 8, false⟩, ⟨4 * level + 8, false⟩] :=
    suite_of_isNested (List.cons_ne_nil ⟨0, false⟩ [⟨0, false⟩]) (by decide) (4 * level + 8)
  have hconstructor : Suite (4 * (level + 1)) _ :=
    (hstatements.append hcontinues).header (by omega)
  exact (hconstructor.append hcontinues').header (by omega)

section

variable {service : BoundService}

/-- A client class is a suite, whatever comments stand around it and in it. -/
theorem isSuite_clientOutline (h : service.PlainNames) (comments : CommentIndex) (level : Nat) :
    (clientOutline comments service).IsSuite level := by
  have hname : Plain (clientName service.service) := plain_append.mpr ⟨h.name, by decide⟩
  have htraces := follows_traceOutline
    (fun bound hbound => plainNames_clientTrace (h.methods bound hbound)) (level + 2)
  have hcalls := Outline.follows_flatMap
    fun bound hbound => follows_callOutline (h.methods bound hbound) comments (level + 1)
  have hclass := isSuite_class (reads_clientHeader hname) htraces hcalls
  exact hclass.between comments service.service.location

/-- A server class is a suite, even if its service has no methods. -/
theorem isSuite_serverOutline (h : service.PlainNames) (comments : CommentIndex) (level : Nat) :
    (serverOutline comments service).IsSuite level := by
  have hname : Plain (serverName service.service) := plain_append.mpr ⟨h.name, by decide⟩
  have hblank := (isSilent_blank (level + 1)).follows
  have htraces := follows_traceOutline
    (fun bound hbound => plainNames_serverTrace (h.methods bound hbound)) (level + 2)
  have hentries : Outline.Follows (level + 1) (Shape.all.flatMap fun shape =>
      (Piece.line "").here :: entryOutline service.methods shape) :=
    Outline.follows_flatMap fun shape _ =>
      hblank.append (isSuite_entryOutline h.methods shape (level + 1)).follows
  have hpush := Snippet.isSuite_here isNestedCode_metadataPushEntry (level + 1)
  have hclass := isSuite_class (reads_serverHeader hname) htraces
    (hentries.append (hblank.append hpush.follows))
  rw [serverOutline, List.append_assoc (Outline.deeper _)]
  exact hclass.between comments service.service.location

end

/-! ## Modules -/

section

variable {file : SchemaFile} {services : List BoundService}

/-- The header of a module is not read, with or without comments on the file. -/
theorem isSilent_headerOutline (h : Plain file.name) (level : Nat) :
    (headerOutline file).IsSilent level := by
  have hheader : Outline.IsSilent level [(Piece.snippet (.fileHeader file.name)).here] :=
    (Piece.snippet _).hasLogicalLines_here (Snippet.reads_lines (reads_fileHeader h)) level
  have hmarked := marked_leadingAt file.comments SchemaFile.location
  unfold headerOutline
  split
  · exact hheader.append Outline.isSilent_nil
  · have htitle : IsMarked "# Original file comments:" := ⟨by decide, by decide⟩
    exact hheader.append (isSilent_comment (List.forall_mem_cons.mpr ⟨htitle, hmarked⟩) level)

/-- The comments at the end of a module are not read. -/
theorem isSilent_trailerOutline (level : Nat) : (trailerOutline file).IsSilent level := by
  unfold trailerOutline
  split
  · exact Outline.isSilent_nil
  · exact (isSilent_blank level).append (isSilent_comment (marked_trailingAt _ _) level)

/-- The imports of a module, and what its classes share, follow at the outermost level. -/
theorem follows_preambleOutline (h : file.PlainNames) (level : Nat) :
    (preambleOutline file).Follows level := by
  have hblank := (isSilent_blank level).follows
  have hdescription := Snippet.isSuite_here (isNestedCode_modulePreamble h.name) level
  have himports : Outline.Follows level
      (file.imports.map fun imported => (Piece.line imported.statement).here) := by
    rw [SchemaFile.imports, List.map_map, List.map_eq_flatMap]
    apply Outline.follows_flatMap
    intro dependency hdependency
    have hname := h.of_mem_importedFiles hdependency
    have hstatement : IsNestedCode [(ModuleImport.resolve file.name dependency).statement] :=
      isNestedCode_statement (plain_packageFrom hname) (plain_messageModule hname)
        (plain_moduleAlias hname)
    exact ((Piece.line _).isSuite_here hstatement level).follows
  have hhelpers := Snippet.isSuite_here isNestedCode_payloadHelpers level
  exact (hblank.append hdescription.follows).append himports |>.append
    (hblank.append (hblank.append hhelpers.follows))

/-- Classes follow one another, each behind two empty lines. -/
theorem follows_classesOutline {classOutline : BoundService → Outline} {level : Nat}
    (h : ∀ bound ∈ services, (classOutline bound).IsSuite level) :
    (classesOutline classOutline services).Follows level := by
  have hblank := (isSilent_blank level).follows
  exact Outline.follows_flatMap fun bound hbound =>
    hblank.append (hblank.append (h bound hbound).follows)

/-- A module follows at the outermost level. -/
theorem follows_moduleOutline (h : file.PlainNames)
    (hservices : ∀ bound ∈ services, bound.PlainNames) (level : Nat) :
    (moduleOutline file services).Follows level := by
  have hheader := (isSilent_headerOutline h.name level).follows
  have hclients := follows_classesOutline fun bound hbound =>
    isSuite_clientOutline (hservices bound hbound) file.comments level
  have hservers := follows_classesOutline fun bound hbound =>
    isSuite_serverOutline (hservices bound hbound) file.comments level
  have htrailer := (@isSilent_trailerOutline file level).follows
  exact (((hheader.append (follows_preambleOutline h level)).append hclients).append
    hservers).append htrailer

end

/-- What an outline writes is block-structured, if the outline follows at the outermost level. -/
theorem isBlockStructured_write {outline : Outline} (h : outline.Follows 0) :
    isBlockStructured (Emitter.write {} outline).text = true := by
  obtain ⟨read, hread, hcontinues⟩ := h
  obtain ⟨kept, count, count', htext, hlines⟩ := exists_codeLines_text (Emitter.write {} outline)
  have hwritten : logicalLines? (kept ++ List.replicate count' "") = some read := by
    rw [← hlines]
    exact hread
  rw [logicalLines?_append_replicate] at hwritten
  rw [isBlockStructured, htext, logicalLines?_append_replicate, hwritten]
  exact hcontinues.isNested

/-- **Generated modules are block-structured**: the module of a file with services and plain names
obeys the rule of indentation, whatever comments the file has. -/
theorem generate_isBlockStructured {file : SchemaFile} (hservices : file.services ≠ [])
    (hnames : file.PlainNames) {outputs : List Output} (h : generate [file] = .ok outputs) :
    ∃ output, outputs = [output] ∧ isBlockStructured output.text = true := by
  rw [generate_singleton hservices] at h
  cases hbound : file.services.mapM bindService with
  | error clash => simp [hbound, Except.map] at h
  | ok services =>
      have hplain : ∀ bound ∈ services, bound.PlainNames := by
        intro bound hmem
        obtain ⟨service, hservice, hbind⟩ := exists_of_mem_mapM hbound hmem
        exact plainNames_of_bindService (hnames.services service hservice) hbind
      simp only [hbound, Except.map, Except.ok.injEq] at h
      refine ⟨_, h.symm, ?_⟩
      rw [writeModule_eq]
      exact isBlockStructured_write (follows_moduleOutline hnames hplain 0)

/-- A file with comments everywhere and two services, of which one has methods of two shapes and the
other has none. -/
def layeredFile : SchemaFile where
  name := "chat/talk-1.proto"
  services :=
    let text : RecordType := ⟨"chat.Text", "chat/talk-1.proto", "chat"⟩
    let empty : RecordType :=
      ⟨"google.protobuf.Empty", "google/protobuf/empty.proto", "google.protobuf"⟩
    [{ name := "Talk", fullName := "chat.Talk", location := [6, 0],
       methods :=
        [{ name := "Say", input := text, output := empty, fireAndForget := true,
           location := [6, 0, 2, 0] },
         { name := "Meet", input := text, output := text, clientStreaming := true,
           serverStreaming := true, location := [6, 0, 2, 1] }] },
     { name := "Idle", fullName := "chat.Idle", location := [6, 1] }]
  dependencies := ["google/protobuf/empty.proto"]
  hasMessages := true
  comments :=
    { entries :=
        [([6, 0], { leading := "    def f():\n", trailing := "else:" }),
         ([6, 0, 2, 1], { detached := ["\x22\x22\x22"], trailing := "\n        \\" }),
         ([12], { leading := "class A:\n", trailing := "(" })] }

theorem generate_isBlockStructured_layered :
    layeredFile.services ≠ [] ∧ layeredFile.PlainNames ∧
      ∃ outputs, generate [layeredFile] = .ok outputs ∧
        ∃ output, outputs = [output] ∧ isBlockStructured output.text = true := by
  have hservices : layeredFile.services ≠ [] := by decide
  have hnames : layeredFile.PlainNames := by decide +kernel
  have haccepted : (layeredFile.services.mapM bindService).toBool = true := by decide +kernel
  cases hbound : layeredFile.services.mapM bindService with
  | error clash =>
      rw [hbound] at haccepted
      exact absurd haccepted Bool.false_ne_true
  | ok services =>
      have hgenerated := generate_singleton hservices
      rw [hbound] at hgenerated
      exact ⟨hservices, hnames, _, hgenerated,
        generate_isBlockStructured hservices hnames hgenerated⟩

end StubGen.Stub
