import StubGen.Proofs.CommentErasure
import StubGen.Proofs.FirstClash
import StubGen.Proofs.MethodNames

/-!
# StubGen.Proofs.ClientMembers

The names that a client class binds, read from its code, and which of them coincide.

1. A line binds a member if it defines a function of the class or assigns to an attribute of the
   instance (`readMember`).  How a line starts settles what it binds (`Settles`), so the values that
   stand further right on a line do not matter.
2. A client class binds the names of its head, of the trace wrappers of its methods and of their
   functions (`members_clientOutline`).
3. The names of accepted methods are distinct (`nodup_methodMembers`), and no trace wrapper has a
   name of the head (`traceAttribute_not_mem_fixedMembers`).
4. The check does not compare functions with the head of the class.  A function has a name of the
   head for nine method names (`methodName_mem_fixedMembers_iff`); it then takes the place of the
   constructor, or is hidden by the attribute.
-/

namespace StubGen.Stub

open Identifier

/-! ## Reading members -/

/-- The member that a line of a class binds from some column on: a function of the class, which is
defined at column 4, or an attribute of the instance that a value is assigned to. -/
def readMember (column : Nat) : List Char → Option (List Char)
  | ' ' :: rest => readMember (column + 1) rest
  | 'd' :: 'e' :: 'f' :: ' ' :: rest =>
    if column = 4 then some (rest.takeWhile isNameChar) else none
  | 's' :: 'e' :: 'l' :: 'f' :: '.' :: rest =>
    if [' ', '=', ' '].isPrefixOf (rest.dropWhile isNameChar) then some (rest.takeWhile isNameChar)
    else none
  | _ => none

/-- The member that a line binds which is written at some depth. -/
def memberAt? (depth : Nat) (line : String) : Option String :=
  (readMember (4 * depth) line.toList).map String.ofList

/-- The lines that a piece consists of.  A value with line feeds stays on the line that it is put
into. -/
def Piece.sourceLines : Piece → List String
  | .comment lines => lines
  | .line text => [text]
  | .snippet code => code.lines

/-- The members that a piece binds at some depth. -/
def Piece.members (depth : Nat) (piece : Piece) : List String :=
  piece.sourceLines.filterMap (memberAt? depth)

/-- The members that an outline binds when it is written at a level, in order. -/
def Outline.members (level : Nat) (outline : Outline) : List String :=
  outline.flatMap fun placed => placed.piece.members (level + placed.depth)

/-! ## Members of lines -/

/-- Spaces at the front only count. -/
theorem readMember_replicate (column count : Nat) (rest : List Char) :
    readMember column (List.replicate count ' ' ++ rest) = readMember (column + count) rest := by
  induction count generalizing column with
  | zero => rfl
  | succ count ih =>
      rw [List.replicate_succ, List.cons_append, readMember, ih, Nat.add_right_comm, Nat.add_assoc]

/-- A text that settles which member its line binds at a depth, whatever follows it. -/
def Settles (depth : Nat) (text : String) (found : Option String) : Prop :=
  ∀ rest, (readMember (4 * depth) (text.toList ++ rest)).map String.ofList = found

section

variable {depth : Nat} {text name : String} {chars : List Char} {found : Option String}

theorem Settles.memberAt? (h : Settles depth text found) : memberAt? depth text = found := by
  have hfound := h []
  rwa [List.append_nil] at hfound

/-- What a line defines is settled by its start. -/
theorem Settles.append (h : Settles depth text found) (more : String) :
    Settles depth (text ++ more) found := by
  intro rest
  rw [String.toList_append, List.append_assoc]
  exact h _

/-- Spaces in front of a line make it lie deeper. -/
theorem Settles.indent (levels : Nat) (h : Settles (depth + levels) text found)
    (hchars : chars = List.replicate (4 * levels) ' ') :
    Settles depth (String.ofList chars ++ text) found := by
  intro rest
  rw [String.toList_append, String.toList_ofList, hchars, List.append_assoc,
    readMember_replicate, ← Nat.mul_add]
  exact h rest

theorem settles_ofList
    (h : ∀ rest, (readMember (4 * depth) (chars ++ rest)).map String.ofList = found) :
    Settles depth (String.ofList chars) found := by
  rwa [Settles, String.toList_ofList]

/-- A function in a class is one level deep. -/
theorem settles_def (h : HasNameChars name) :
    Settles 1 ("def " ++ name ++ String.ofList ('(' :: chars)) (some name) := by
  intro rest
  simp [readMember, List.takeWhile_append_of_pos h, isNameChar]

/-- An attribute is a member at any depth. -/
theorem settles_attribute (h : HasNameChars name) :
    Settles depth ("self." ++ name ++ String.ofList (' ' :: '=' :: ' ' :: chars)) (some name) := by
  intro rest
  simp [readMember, List.takeWhile_append_of_pos h, List.dropWhile_append_of_pos h, isNameChar]

/-- What is called on the instance is not assigned to. -/
theorem settles_call (h : HasNameChars name) :
    Settles depth ("    self." ++ name ++ String.ofList ('(' :: chars)) none := by
  intro rest
  simp [readMember, List.dropWhile_append_of_pos h, isNameChar]

theorem memberAt?_ofList (h : (readMember (4 * depth) chars).map String.ofList = found) :
    memberAt? depth (String.ofList chars) = found := by
  rwa [Stub.memberAt?, String.toList_ofList]

theorem memberAt?_blank : memberAt? depth "" = none := by
  simp [Stub.memberAt?, readMember]

/-- Comments define nothing. -/
theorem memberAt?_of_isMarked (h : IsMarked text) : memberAt? depth text = none := by
  obtain ⟨rest, hrest⟩ := List.head?_eq_some_iff.mp h.head
  rw [Stub.memberAt?, hrest]
  rfl

end

/-! ## Members of pieces -/

theorem members_blank (depth : Nat) : (Piece.line "").members depth = [] := by
  simp [Piece.members, Piece.sourceLines, memberAt?_blank]

theorem members_comment {depth : Nat} {lines : List String} (h : (Piece.comment lines).Marked) :
    (Piece.comment lines).members depth = [] :=
  List.filterMap_eq_nil_iff.mpr fun line hline => memberAt?_of_isMarked (h line hline)

/-- The members that every client has. -/
theorem members_clientHeader (name : String) :
    (Piece.snippet (.clientHeader name)).members 0 = ["__init__", "_rs", "_tracer"] := by
  have hclass : memberAt? 0 ("class " ++ name ++ ":") = none :=
    (((settles_ofList fun _ => rfl).append _).append _).memberAt?
  have hrest : ["    def __init__(self, rs, tracer=None):", "        self._rs = rs",
      "        self._tracer = tracer"].filterMap (memberAt? 0) =
        ["__init__", "_rs", "_tracer"] := by
    decide +kernel
  rw [Piece.members, Piece.sourceLines, Snippet.lines, List.filterMap_cons, hclass, hrest]

/-- A snippet of which only the first line binds a member. -/
theorem members_of_head {code : Snippet} {depth : Nat} {name : String}
    (hhead : code.lines.head?.bind (memberAt? depth) = some name)
    (htail : ∀ line ∈ code.lines.tail, memberAt? depth line = none) :
    (Piece.snippet code).members depth = [name] := by
  rw [Piece.members, Piece.sourceLines]
  cases hlines : code.lines with
  | nil => simp [hlines] at hhead
  | cons head tail =>
      rw [hlines, List.head?_cons, Option.bind_some] at hhead
      rw [hlines, List.tail_cons] at htail
      rw [List.filterMap_cons_some hhead, List.filterMap_eq_nil_iff.mpr htail]

/-- A trace binding defines its wrapper and nothing else. -/
theorem members_traceBinding {binding : TraceBinding} (h : HasNameChars binding.wrapper) :
    (Piece.snippet (.traceBinding binding)).members 2 = [binding.wrapper] := by
  apply members_of_head
  · exact (((settles_attribute h).append _).append _).memberAt?
  · unfold Snippet.lines TraceBinding.lines
    simp only [List.tail_cons, List.forall_mem_cons]
    refine ⟨?_, memberAt?_ofList rfl, List.forall_mem_nil _⟩
    exact (((((settles_ofList fun _ => rfl).append _).append _).append _).append _).append _
      |>.memberAt?

theorem settles_encodeTrace (depth : Nat) : Settles depth encodeTrace none :=
  settles_ofList fun _ => rfl

theorem settles_encodeMetadata (depth : Nat) (site : CallSite) :
    Settles depth site.encodeMetadata none := by
  unfold CallSite.encodeMetadata
  exact ((((settles_ofList fun _ => rfl).append _).append _).append _).append _

theorem settles_readResponses (depth : Nat) (outputType : String) :
    Settles depth (readResponses outputType) none := by
  unfold readResponses
  exact ((settles_ofList fun _ => rfl).append _).append _

theorem settles_returnTraced (depth : Nat) (site : CallSite) :
    Settles depth site.returnTraced none := by
  unfold CallSite.returnTraced
  exact ((settles_ofList fun _ => rfl).append _).append _

/-- The wrapper that this function runs is called, not defined. -/
theorem members_fireAndForgetCall {site : CallSite} (hfunction : HasNameChars site.function)
    (htrace : HasNameChars site.traceAttribute) :
    (Piece.snippet (.fireAndForgetCall site)).members 1 = [site.function] := by
  apply members_of_head
  · exact (settles_def hfunction).memberAt?
  · unfold Snippet.lines CallSite.fireAndForgetLines
    simp only [List.tail_cons, List.forall_mem_cons]
    exact ⟨memberAt?_ofList rfl,
      ((settles_call htrace).append _).memberAt?,
      memberAt?_ofList rfl,
      ((settles_encodeTrace _).indent 1 rfl).memberAt?,
      ((settles_encodeMetadata _ site).indent 1 rfl).memberAt?,
      memberAt?_ofList rfl, List.forall_mem_nil _⟩

/-- The function inside is two levels deep, so it is no member. -/
theorem members_singleRequestCall {site : CallSite} (hfunction : HasNameChars site.function)
    (primitive outputType : String) :
    (Piece.snippet (.singleRequestCall site primitive outputType)).members 1 = [site.function] := by
  apply members_of_head
  · exact (settles_def hfunction).memberAt?
  · unfold Snippet.lines CallSite.singleRequestLines
    simp only [List.tail_cons, List.forall_mem_cons]
    exact ⟨memberAt?_ofList rfl, memberAt?_blank,
      memberAt?_ofList rfl,
      memberAt?_ofList rfl,
      ((settles_encodeTrace _).indent 2 rfl).memberAt?,
      ((settles_encodeMetadata _ site).indent 2 rfl).memberAt?,
      memberAt?_ofList rfl,
      (((settles_ofList fun _ => rfl).append _).append _).memberAt?,
      ((settles_readResponses _ outputType).indent 3 rfl).memberAt?,
      memberAt?_ofList rfl,
      memberAt?_ofList rfl, memberAt?_blank,
      ((settles_returnTraced _ site).indent 1 rfl).memberAt?, List.forall_mem_nil _⟩

theorem members_channelCall {site : CallSite} (hfunction : HasNameChars site.function)
    (outputType : String) :
    (Piece.snippet (.channelCall site outputType)).members 1 = [site.function] := by
  apply members_of_head
  · exact (settles_def hfunction).memberAt?
  · unfold Snippet.lines CallSite.channelLines
    simp only [List.tail_cons, List.forall_mem_cons]
    exact ⟨memberAt?_ofList rfl, memberAt?_blank,
      memberAt?_ofList rfl,
      ((settles_encodeTrace _).indent 2 rfl).memberAt?,
      ((settles_encodeMetadata _ site).indent 2 rfl).memberAt?, memberAt?_blank,
      memberAt?_ofList rfl,
      memberAt?_ofList rfl, memberAt?_blank,
      memberAt?_ofList rfl,
      memberAt?_ofList rfl,
      ((settles_readResponses _ outputType).indent 3 rfl).memberAt?,
      memberAt?_ofList rfl,
      memberAt?_ofList rfl, memberAt?_blank,
      ((settles_returnTraced _ site).indent 1 rfl).memberAt?, List.forall_mem_nil _⟩

/-- A client function defines one member, whatever its shape. -/
theorem members_clientCall {bound : BoundMethod} (hfunction : HasNameChars bound.function)
    (htrace : HasNameChars bound.traceAttribute) :
    (Piece.snippet bound.clientCall).members 1 = [bound.function] := by
  unfold BoundMethod.clientCall
  split
  · exact members_fireAndForgetCall hfunction htrace
  · exact members_channelCall hfunction _
  · exact members_singleRequestCall hfunction _ _
  · exact members_singleRequestCall hfunction _ _

/-! ## Members of the class -/

/-- The constructor and the attributes that every client class has. -/
def fixedMembers : List String :=
  ["__init__", "_rs", "_tracer"]

section

variable (comments : CommentIndex)

/-- An outline defines what its parts define, in order. -/
theorem members_append (level : Nat) (first second : Outline) :
    Outline.members level (first ++ second) = first.members level ++ second.members level :=
  List.flatMap_append

/-- What lies deeper is looked for one level deeper. -/
theorem members_deeper (level : Nat) (outline : Outline) :
    outline.deeper.members level = outline.members (level + 1) := by
  rw [Outline.members, Outline.deeper, List.flatMap_map, Outline.members]
  simp only [Nat.add_assoc, Nat.add_comm 1]

/-- The constructor defines one wrapper for each method. -/
theorem members_traceOutline {methods : List BoundMethod}
    (h : ∀ bound ∈ methods, HasNameChars bound.traceAttribute) :
    (traceOutline BoundMethod.clientTrace methods).members 2 =
      methods.map BoundMethod.traceAttribute := by
  rw [traceOutline, Outline.members, List.flatMap_map, List.map_eq_flatMap]
  exact List.flatMap_congr fun bound hbound => members_traceBinding (h bound hbound)

theorem members_callOutline {bound : BoundMethod} (hfunction : HasNameChars bound.function)
    (htrace : HasNameChars bound.traceAttribute) :
    (callOutline comments bound).members 1 = [bound.function] := by
  simp only [callOutline, Outline.members, List.flatMap_cons, List.flatMap_nil, Piece.here,
    Nat.add_zero]
  rw [members_blank, members_comment (marked_leadingAt _ _), members_clientCall hfunction htrace,
    members_comment (marked_trailingAt _ _)]
  rfl

/-- The members of a client class are those that every client class has, the trace wrappers of its
methods and their functions. -/
theorem members_clientOutline {bound : BoundService}
    (h : ∀ method ∈ bound.methods,
      HasNameChars method.function ∧ HasNameChars method.traceAttribute) :
    (clientOutline comments bound).members 0 =
      fixedMembers ++ bound.methods.map BoundMethod.traceAttribute ++
        bound.methods.map BoundMethod.function := by
  have htraces := members_traceOutline fun method hmethod => (h method hmethod).2
  have hcalls : Outline.members 1 (bound.methods.flatMap (callOutline comments)) =
      bound.methods.map BoundMethod.function := by
    rw [Outline.members, List.flatMap_assoc, List.map_eq_flatMap]
    exact List.flatMap_congr fun method hmethod =>
      members_callOutline comments (h method hmethod).1 (h method hmethod).2
  rw [clientOutline, members_append, members_append, members_deeper, members_append,
    members_deeper, htraces, hcalls]
  simp only [Outline.members, List.flatMap_cons, List.flatMap_nil, Piece.here, Nat.add_zero]
  rw [members_comment (marked_leadingAt _ _), members_comment (marked_trailingAt _ _),
    members_clientHeader]
  simp [fixedMembers]

end

/-! ## Names that hide a member -/

/-- The method names whose functions have the name of a member that every client class has. -/
def hidingNames : List String :=
  ["__init__", "__Init__", "__INIT__", "_rs", "_Rs", "_RS", "_tracer", "_Tracer", "_TRACER"]

/-- Methods of these names hide what every client class has. -/
theorem methodName_of_mem_hidingNames :
    ∀ name ∈ hidingNames, methodName name ∈ fixedMembers := by
  decide +kernel

theorem keyword_append_not_mem_fixedMembers :
    ∀ keyword ∈ keywords, keyword ++ "_" ∉ fixedMembers := by
  decide +kernel

/-- None of the members that every client has reads like words that were joined. -/
theorem joinsWords_of_mem_fixedMembers :
    ∀ name ∈ fixedMembers, joinsWords name.toList = false := by
  decide +kernel

/-- Among the names that differ from a fixed member in case, those that are one word. -/
theorem mem_hidingNames_of_caseVariant :
    ∀ name ∈ fixedMembers, ∀ chars ∈ caseVariants name.toList,
      splitWords chars = chars → chars ∈ hidingNames.map String.toList := by
  decide +kernel

/-- Methods of other names hide none of the members that every client class has. -/
theorem methodName_mem_fixedMembers_iff {name : String} (h : HasNameChars name) :
    methodName name ∈ fixedMembers ↔ name ∈ hidingNames := by
  constructor
  · intro hmem
    unfold methodName avoidKeyword at hmem
    split at hmem
    case isTrue hkeyword =>
      exact absurd hmem (keyword_append_not_mem_fixedMembers _ (List.contains_iff_mem.mp hkeyword))
    case isFalse =>
      obtain ⟨hwhole, hvariant⟩ :=
        mem_caseVariants_of_snakeCase h.ascii (joinsWords_of_mem_fixedMembers _ hmem)
      obtain ⟨found, hfound, hchars⟩ :=
        List.mem_map.mp (mem_hidingNames_of_caseVariant _ hmem _ hvariant hwhole)
      rwa [← String.toList_inj.mp hchars]
  · exact methodName_of_mem_hidingNames name

/-- A trace wrapper never hides such a member: its name ends in a suffix of its own. -/
theorem traceAttribute_not_mem_fixedMembers (function : String) :
    traceAttribute function ∉ fixedMembers := by
  have hsuffix : ['_', 't', 'r', 'a', 'c', 'e'] <:+ (traceAttribute function).toList := by
    rw [toList_traceAttribute, ← List.cons_append]
    exact List.suffix_append _ _
  have hfixed : ∀ name ∈ fixedMembers, ¬ ['_', 't', 'r', 'a', 'c', 'e'] <:+ name.toList := by
    decide +kernel
  exact fun hmem => hfixed _ hmem hsuffix

/-! ## Distinct members -/

theorem apart_iff {first second : Method} :
    first.Apart second ↔
      (first.functionName ≠ second.functionName ∧ first.functionName ≠ second.traceName) ∧
        first.traceName ≠ second.functionName ∧ first.traceName ≠ second.traceName := by
  rw [Method.Apart, List.disjoint_left]
  simp [Method.takenNames]

/-- The members that the methods of an accepted service take are distinct. -/
theorem nodup_methodMembers {service : Service} (h : service.NamesApart) :
    (service.methods.map Method.traceName ++ service.methods.map Method.functionName).Nodup := by
  have hfunctions : (service.methods.map Method.functionName).Nodup :=
    List.pairwise_map.mpr (h.imp fun hapart => (apart_iff.mp hapart).1.1)
  have htraces : (service.methods.map Method.traceName).Nodup :=
    List.pairwise_map.mpr (h.imp fun hapart => (apart_iff.mp hapart).2.2)
  -- The check does not compare a function with the wrapper of its own method.
  have hown : ∀ method ∈ service.methods, method.traceName ≠ method.functionName :=
    fun method _ => traceAttribute_ne_self method.functionName
  have hothers : service.methods.Pairwise fun first second =>
      first.traceName ≠ second.functionName := h.imp fun hapart => (apart_iff.mp hapart).2.1
  have hflipped : service.methods.Pairwise fun first second =>
      second.traceName ≠ first.functionName := h.imp fun hapart => (apart_iff.mp hapart).1.2.symm
  rw [List.nodup_append]
  simp only [List.forall_mem_map]
  exact ⟨htraces, hfunctions, fun _ hfirst _ hsecond =>
    List.Pairwise.forall_of_forall_of_flip hown hothers hflipped hfirst hsecond⟩

/-- If the names of a service are apart, then so are the members that are not its functions. -/
theorem nodup_fixedMembers_append {service : Service} (h : service.NamesApart) :
    (fixedMembers ++ service.methods.map Method.traceName).Nodup := by
  have hfixed : fixedMembers.Nodup := by decide
  refine hfixed.append (List.nodup_append'.mp (nodup_methodMembers h)).1 ?_
  intro name hname htrace
  obtain ⟨method, _, rfl⟩ := List.mem_map.mp htrace
  exact traceAttribute_not_mem_fixedMembers _ hname

/-- The members of the client class of an accepted service. -/
theorem members_of_bindService (comments : CommentIndex) {service : Service} {bound : BoundService}
    (hbound : bindService service = .ok bound)
    (hnames : ∀ method ∈ service.methods, isIdentifier method.name = true) :
    (clientOutline comments bound).members 0 =
      fixedMembers ++ service.methods.map Method.traceName ++
        service.methods.map Method.functionName := by
  obtain ⟨_, rfl⟩ := bindService_eq_ok_iff.mp hbound
  rw [members_clientOutline, List.map_map, List.map_map]
  · simp only [Function.comp_def, function_bindMethod, traceAttribute_bindMethod]
  · simp only [List.forall_mem_map, function_bindMethod, traceAttribute_bindMethod]
    intro method hmethod
    have hfunction : HasNameChars method.functionName :=
      hasNameChars_methodName (hasNameChars_of_isIdentifier (hnames method hmethod))
    exact ⟨hfunction, hasNameChars_traceAttribute hfunction⟩

/-- A client class binds no name twice exactly if no function hides a member that every client class
has. -/
theorem nodup_members_iff (comments : CommentIndex) {service : Service} {bound : BoundService}
    (hbound : bindService service = .ok bound)
    (hnames : ∀ method ∈ service.methods, isIdentifier method.name = true) :
    ((clientOutline comments bound).members 0).Nodup ↔
      ∀ method ∈ service.methods, method.name ∉ hidingNames := by
  have hapart := (bindService_eq_ok_iff.mp hbound).1
  have hhiding : ∀ method ∈ service.methods,
      (method.functionName ∈ fixedMembers ↔ method.name ∈ hidingNames) := fun method hmethod =>
    methodName_mem_fixedMembers_iff (hasNameChars_of_isIdentifier (hnames method hmethod))
  obtain ⟨hfixed, _, htraces⟩ := List.nodup_append'.mp (nodup_fixedMembers_append hapart)
  rw [members_of_bindService comments hbound hnames, List.append_assoc, List.nodup_append',
    List.disjoint_append_right]
  constructor
  · intro ⟨_, _, _, hfunctions⟩ method hmethod hname
    exact hfunctions ((hhiding method hmethod).mpr hname) (List.mem_map_of_mem hmethod)
  · intro hnone
    refine ⟨hfixed, nodup_methodMembers hapart, htraces, ?_⟩
    intro name hname hfunction
    obtain ⟨method, hmethod, rfl⟩ := List.mem_map.mp hfunction
    exact hnone method hmethod ((hhiding method hmethod).mp hname)

/-- **Members of a client class.**  The client class of an accepted service binds its constructor
and two attributes, the trace wrapper of every method and the function of every method.  The names
of methods are distinct, and no trace wrapper has one of the three fixed names; so no member hides
another exactly if no function has a fixed name, which happens for nine method names only. -/
theorem client_members_distinct_iff {service : Service} {bound : BoundService}
    (hbound : bindService service = .ok bound)
    (hnames : ∀ method ∈ service.methods, isIdentifier method.name = true)
    (comments : CommentIndex) :
    (∀ out, writeClient comments bound out = out.write (clientOutline comments bound)) ∧
    (clientOutline comments bound).members 0 =
      fixedMembers ++ service.methods.map Method.traceName ++
        service.methods.map Method.functionName ∧
    (fixedMembers ++ service.methods.map Method.traceName).Nodup ∧
    (service.methods.map Method.traceName ++ service.methods.map Method.functionName).Nodup ∧
    (((clientOutline comments bound).members 0).Nodup ↔
      ∀ method ∈ service.methods, method.name ∉ hidingNames) := by
  have hapart := (bindService_eq_ok_iff.mp hbound).1
  exact ⟨writeClient_eq comments bound, members_of_bindService comments hbound hnames,
    nodup_fixedMembers_append hapart, nodup_methodMembers hapart,
    nodup_members_iff comments hbound hnames⟩

/-- A service whose methods have names that are close to those that a client class has. -/
def guardedService : Service where
  name := "Guarded"
  fullName := "guarded.Guarded"
  methods :=
    let text : RecordType := ⟨"guarded.Text", "guarded.proto", "guarded"⟩
    [{ name := "Import", input := text, output := text },
     { name := "_tRacer", input := text, output := text, fireAndForget := true },
     { name := "__init", input := text, output := text, serverStreaming := true },
     { name := "_RS_", input := text, output := text, clientStreaming := true }]

theorem client_members_distinct_iff_guarded :
    bindService guardedService =
      .ok ⟨guardedService, guardedService.methods.map (bindMethod guardedService)⟩ ∧
    (∀ method ∈ guardedService.methods, isIdentifier method.name = true) ∧
    ((clientOutline {} ⟨guardedService,
      guardedService.methods.map (bindMethod guardedService)⟩).members 0).Nodup := by
  have hbound : bindService guardedService =
      .ok ⟨guardedService, guardedService.methods.map (bindMethod guardedService)⟩ := by
    decide +kernel
  have hnames : ∀ method ∈ guardedService.methods, isIdentifier method.name = true := by decide
  have hfree : ∀ method ∈ guardedService.methods, method.name ∉ hidingNames := by decide
  exact ⟨hbound, hnames, (client_members_distinct_iff hbound hnames {}).2.2.2.2.mpr hfree⟩

/-- A service with a method that is named as a constructor. -/
def constructorService : Service where
  name := "Echo"
  fullName := "echo.Echo"
  methods :=
    let text : RecordType := ⟨"echo.Text", "echo.proto", "echo"⟩
    [{ name := "__init__", input := text, output := text }]

/-- The check of names lets a function through that takes the place of the constructor. -/
theorem client_members_not_always_distinct :
    ¬ ∀ (service : Service) (bound : BoundService) (comments : CommentIndex),
      bindService service = .ok bound →
      (∀ method ∈ service.methods, isIdentifier method.name = true) →
      ((clientOutline comments bound).members 0).Nodup := by
  intro h
  have hbound : bindService constructorService =
      .ok ⟨constructorService, constructorService.methods.map (bindMethod constructorService)⟩ := by
    decide +kernel
  have hnames : ∀ method ∈ constructorService.methods, isIdentifier method.name = true := by decide
  have hfree := (nodup_members_iff {} hbound hnames).mp (h _ _ {} hbound hnames)
  exact hfree _ List.mem_cons_self (by decide)

end StubGen.Stub
