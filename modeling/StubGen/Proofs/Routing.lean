import Mathlib.Data.List.Nodup
import StubGen.Proofs.Binding
import StubGen.Proofs.ServerFunctions

/-!
# StubGen.Proofs.Routing

Client and server agree on where a call goes.  A client function sends its payloads through one
transport primitive, with the names of the service and of the method as routing metadata; the server
class has an entry point per primitive, which compares the method name with those of its branches.

A function of the server class answers a payload by the first of its pieces that does
(`ClassFunction.answer?`):

1. a branch answers a payload that carries its method name, and no other;
2. a line that raises or returns answers every payload that gets there;
3. so does the body of an entry point without methods.

`routerOf?_server` says what every entry point answers, `count_serverCase` and
`serverCase_mem_body_iff` where the branch of a method stands; `client_server_agreement` puts the
two classes together.
-/

namespace StubGen.Stub

/-! ## Answers -/

/-- What becomes of a payload in a function. -/
inductive Answer where
  /-- A branch takes it. -/
  | handled (branch : Snippet)
  /-- A statement turns it down. -/
  | rejected (statement : String)
deriving DecidableEq, Repr

/-- The values of a branch. -/
def Snippet.branch? : Snippet → Option Branch
  | .fireAndForgetCase branch | .singleRequestCase branch | .channelCase branch => some branch
  | _ => none

/-- The statement by which an entry point without methods turns a payload down. -/
def Snippet.rejection? : Snippet → Option String
  | .unimplementedEntry _ _ rejection => some rejection
  | _ => none

/-- The values of a piece that is a branch. -/
def Piece.branch? : Piece → Option Branch
  | .snippet code => code.branch?
  | _ => none

/-- Whether a line leaves its function. -/
def leavesFunction (line : String) : Bool :=
  "raise ".toList.isPrefixOf line.toList || "return ".toList.isPrefixOf line.toList

/-- The answer of a piece to a payload that carries a method name, if the piece has one. -/
def Piece.answer? (method : String) : Piece → Option Answer
  | .comment _ => none
  | .line text => if leavesFunction text then some (.rejected text) else none
  | .snippet code =>
    match code.branch? with
    | some branch => if branch.rpcName = method then some (.handled code) else none
    | none => code.rejection?.map .rejected

namespace ClassFunction

/-- The answer of a function: that of the first piece that has one. -/
def answer? (method : String) (function : ClassFunction) : Option Answer :=
  function.body.findSome? (Piece.answer? method)

/-- The branches of a function, in order. -/
def branches (function : ClassFunction) : List Branch :=
  function.body.filterMap Piece.branch?

end ClassFunction

/-- The function that routes the payloads of an entry point: the entry point itself, or the switch
if it is the one for channels that has a switch. -/
def routerOf? (functions : List ClassFunction) (shape : Shape) : Option ClassFunction :=
  (functions.find? fun function => function.name == shape.primitive).bind fun entry =>
    if entry.body.head? = some (.snippet .channelEntry) then
      functions.find? fun function => function.name == routerName .requestChannel
    else some entry

/-- The error for a payload of a shape that the service has no methods of. -/
def notImplementedError (shape : Shape) : String :=
  "NotImplementedError(\"" ++ shape.primitive ++ "() is not implemented\")"

/-- The answer of a service to a payload of a shape that carries a method name: the branch of its
first method with both, or the refusal of the entry point. -/
def expectedAnswer (methods : List BoundMethod) (shape : Shape) (method : String) : Answer :=
  match (ofShape methods shape).find? fun bound => bound.rpcName == method with
  | some bound => .handled bound.serverCase
  | none =>
    .rejected (reject shape
      (if (ofShape methods shape).isEmpty then notImplementedError shape else unknownMethodError))

/-- The case of a method is a branch with the values of the method. -/
theorem branch?_serverCase (bound : BoundMethod) :
    bound.serverCase.branch? = some bound.branch := by
  cases hshape : bound.shape <;> simp [BoundMethod.serverCase, hshape, Snippet.branch?]

theorem isSome_branch?_serverCase (bound : BoundMethod) :
    bound.serverCase.branch?.isSome = true := by
  rw [branch?_serverCase]
  rfl

/-- A branch is none of the snippets that are no branches. -/
theorem ne_of_branch? {code other : Snippet} (hcode : code.branch?.isSome = true)
    (hother : other.branch? = none) : other ≠ code := by
  rintro rfl
  rw [hother] at hcode
  contradiction

/-- The case of a method takes the payloads that carry the name of the method. -/
theorem answer?_serverCase (bound : BoundMethod) (method : String) :
    (Piece.snippet bound.serverCase).answer? method =
      if bound.rpcName = method then some (.handled bound.serverCase) else none := by
  cases hshape : bound.shape <;>
    simp [BoundMethod.serverCase, hshape, Piece.answer?, Snippet.branch?, BoundMethod.branch]

/-- A payload that is turned down leaves the function. -/
theorem leavesFunction_reject (shape : Shape) (error : String) :
    leavesFunction (reject shape error) = true := by
  unfold reject
  split <;> simp [leavesFunction]

theorem leavesFunction_entryHead (shape : Shape) : leavesFunction (entryHead shape) = false := by
  simp [leavesFunction, entryHead, List.isPrefixOf]

/-- An entry point without methods turns payloads down by its own statement. -/
theorem unimplemented_eq (shape : Shape) :
    unimplemented shape = .unimplementedEntry shape.primitive (entryParameter shape)
      (reject shape (notImplementedError shape)) := rfl

theorem branch?_unimplemented (shape : Shape) : (unimplemented shape).branch? = none := by
  rw [unimplemented_eq]
  rfl

/-- An entry point without methods turns every payload down. -/
theorem answer?_unimplemented (shape : Shape) (method : String) :
    (Piece.snippet (unimplemented shape)).answer? method =
      some (.rejected (reject shape (notImplementedError shape))) := by
  rw [unimplemented_eq]
  rfl

/-- Where a shape has no methods, its payloads are not implemented. -/
theorem expectedAnswer_of_isEmpty {methods : List BoundMethod} {shape : Shape}
    (h : (ofShape methods shape).isEmpty = true) (method : String) :
    expectedAnswer methods shape method = .rejected (reject shape (notImplementedError shape)) := by
  rw [expectedAnswer, if_pos h, List.isEmpty_iff.mp h]
  rfl

/-- The branches of some methods answer by the first with the method name. -/
theorem findSome?_serverCases (methods : List BoundMethod) (method : String) :
    (methods.map fun bound => Piece.snippet bound.serverCase).findSome? (Piece.answer? method) =
      (methods.find? fun bound => bound.rpcName == method).map fun bound =>
        .handled bound.serverCase := by
  induction methods with
  | nil => rfl
  | cons bound methods ih =>
      rw [List.map_cons, List.findSome?_cons, answer?_serverCase, List.find?_cons]
      by_cases hname : bound.rpcName = method
      · simp [hname]
      · rw [if_neg hname, beq_false_of_ne hname]
        exact ih

/-- Payloads are routed by a branch for each method of the shape, in order. -/
theorem filterMap_branch?_routing (methods : List BoundMethod) (shape : Shape) :
    (routingOutline methods shape).pieces.filterMap Piece.branch? =
      (ofShape methods shape).map BoundMethod.branch := by
  have hcases : (Piece.branch? ∘ fun bound => Piece.snippet bound.serverCase) =
      some ∘ BoundMethod.branch := by
    funext bound
    exact branch?_serverCase bound
  rw [pieces_routing, List.filterMap_append, List.filterMap_append, List.filterMap_map, hcases,
    List.filterMap_eq_map]
  simp [List.filterMap_cons, Piece.branch?, Snippet.branch?]

/-- Routing answers every payload. -/
theorem findSome?_routing (methods : List BoundMethod) (shape : Shape) (method : String)
    (h : (ofShape methods shape).isEmpty = false) (rest : List Piece) :
    ((routingOutline methods shape).pieces ++ rest).findSome? (Piece.answer? method) =
      some (expectedAnswer methods shape method) := by
  have hpreamble : ∀ rejection,
      (Piece.snippet (.routingPreamble rejection)).answer? method = none := fun _ => rfl
  simp only [pieces_routing, List.findSome?_append, List.findSome?_singleton, hpreamble,
    findSome?_serverCases, expectedAnswer, h]
  cases (ofShape methods shape).find? fun bound => bound.rpcName == method with
  | some bound => simp
  | none => simp [Piece.answer?, leavesFunction_reject]

/-! ## The router of an entry point -/

/-- The router of an entry point without methods. -/
theorem routerOf?_server_of_isEmpty (comments : CommentIndex) {bound : BoundService} {shape : Shape}
    (h : (ofShape bound.methods shape).isEmpty = true) :
    routerOf? (functionsOf (serverOutline comments bound).pieces) shape =
      some ⟨shape.primitive, [.snippet (unimplemented shape), .line ""]⟩ := by
  unfold routerOf?
  rw [find?_functionsOf_server comments bound shape (.inl rfl), entryFunctions, if_pos h]
  simp [unimplemented]

/-- The router of the entry point for channels is its switch. -/
theorem routerOf?_server_channel (comments : CommentIndex) {bound : BoundService}
    (h : (ofShape bound.methods .requestChannel).isEmpty = false) :
    routerOf? (functionsOf (serverOutline comments bound).pieces) .requestChannel =
      some ⟨"_channel_switch", .line switchHead ::
        ((routingOutline bound.methods .requestChannel).pieces ++ [.line ""])⟩ := by
  unfold routerOf?
  rw [find?_functionsOf_server comments bound .requestChannel (.inl rfl),
    find?_functionsOf_server comments bound .requestChannel (.inr rfl), entryFunctions, h]
  simp [routerName, Shape.primitive]

/-- Any other entry point is its own router. -/
theorem routerOf?_server_single (comments : CommentIndex) {bound : BoundService} {shape : Shape}
    (h : (ofShape bound.methods shape).isEmpty = false) (hshape : shape ≠ .requestChannel) :
    routerOf? (functionsOf (serverOutline comments bound).pieces) shape =
      some ⟨shape.primitive, .line (entryHead shape) ::
        (singleEntryBody bound.methods shape ++ [.line ""])⟩ := by
  unfold routerOf?
  rw [find?_functionsOf_server comments bound shape (.inl rfl), entryFunctions, h,
    if_neg (by decide), if_neg hshape]
  simp

/-- An entry point for single requests has a branch for each method of its shape, in order. -/
theorem filterMap_branch?_singleEntryBody (methods : List BoundMethod) (shape : Shape) :
    (singleEntryBody methods shape).filterMap Piece.branch? =
      (ofShape methods shape).map BoundMethod.branch := by
  unfold singleEntryBody
  split
  · exact filterMap_branch?_routing methods shape
  · simp [List.filterMap_cons, filterMap_branch?_routing, Piece.branch?]

/-- An entry point for single requests answers as the service should, whatever stands behind it. -/
theorem findSome?_singleEntryBody {methods : List BoundMethod} {shape : Shape}
    (h : (ofShape methods shape).isEmpty = false) (method : String) (rest : List Piece) :
    (singleEntryBody methods shape ++ rest).findSome? (Piece.answer? method) =
      some (expectedAnswer methods shape method) := by
  unfold singleEntryBody
  split
  · exact findSome?_routing methods shape method h rest
  · rw [List.cons_append, List.cons_append, List.append_assoc, List.findSome?_cons,
      findSome?_routing methods shape method h]
    rfl

/-- Every entry point has a router, which holds the branches of its shape and answers by them. -/
theorem routerOf?_server (comments : CommentIndex) (bound : BoundService) (shape : Shape) :
    ∃ router, routerOf? (functionsOf (serverOutline comments bound).pieces) shape = some router ∧
      router.branches = (ofShape bound.methods shape).map BoundMethod.branch ∧
      ∀ method, router.answer? method = some (expectedAnswer bound.methods shape method) := by
  -- a shape without methods is routed by the entry point itself, as are all but channels
  cases hempty : (ofShape bound.methods shape).isEmpty with
  | true =>
      refine ⟨_, routerOf?_server_of_isEmpty comments hempty, ?_, ?_⟩
      · simp [ClassFunction.branches, List.filterMap_cons, Piece.branch?, unimplemented,
          Snippet.branch?, List.isEmpty_iff.mp hempty]
      · intro method
        rw [ClassFunction.answer?, List.findSome?_cons, answer?_unimplemented,
          expectedAnswer_of_isEmpty hempty]
  | false =>
      by_cases hshape : shape = .requestChannel
      · subst hshape
        refine ⟨_, routerOf?_server_channel comments hempty, ?_, ?_⟩
        · simp [ClassFunction.branches, List.filterMap_cons, Piece.branch?,
            filterMap_branch?_routing]
        · intro method
          rw [ClassFunction.answer?, List.findSome?_cons, findSome?_routing _ _ _ hempty]
          rfl
      · refine ⟨_, routerOf?_server_single comments hempty hshape, ?_, ?_⟩
        · simp [ClassFunction.branches, List.filterMap_cons, Piece.branch?,
            filterMap_branch?_singleEntryBody]
        · intro method
          rw [ClassFunction.answer?, List.findSome?_cons, findSome?_singleEntryBody hempty]
          simp [Piece.answer?, leavesFunction_entryHead]

/-! ## Branches -/

/-- A method name belongs to one method of a service. -/
theorem eq_of_rpcName_eq {service : Service} {methods : List BoundMethod}
    (accepted : bindMethods service = .ok methods) {first second : BoundMethod}
    (hfirst : first ∈ methods) (hsecond : second ∈ methods)
    (h : first.rpcName = second.rpcName) : first = second := by
  have hnames := nodup_rpcNames accepted
  obtain ⟨rfl, -⟩ := bindMethods_eq_ok_iff.mp accepted
  obtain ⟨method, hmethod, rfl⟩ := List.mem_map.mp hfirst
  obtain ⟨other, hother, rfl⟩ := List.mem_map.mp hsecond
  rw [List.inj_on_of_nodup_map hnames hmethod hother h]

/-- Methods of an accepted service are told apart by their cases. -/
theorem eq_of_serverCase_eq {service : Service} {methods : List BoundMethod}
    (accepted : bindMethods service = .ok methods) {first second : BoundMethod}
    (hfirst : first ∈ methods) (hsecond : second ∈ methods)
    (h : first.serverCase = second.serverCase) : first = second := by
  have hbranch := congrArg Snippet.branch? h
  rw [branch?_serverCase, branch?_serverCase, Option.some.injEq] at hbranch
  exact eq_of_rpcName_eq accepted hfirst hsecond (congrArg Branch.rpcName hbranch)

/-- A method is selected by its own name, at the entry point of its own shape. -/
theorem expectedAnswer_eq_handled_iff {service : Service} {methods : List BoundMethod}
    (accepted : bindMethods service = .ok methods) {bound : BoundMethod} (h : bound ∈ methods)
    (shape : Shape) (method : String) :
    expectedAnswer methods shape method = .handled bound.serverCase ↔
      bound.rpcName = method ∧ bound.shape = shape := by
  unfold expectedAnswer
  cases hfind : (ofShape methods shape).find? fun other => other.rpcName == method with
  | some found =>
      have hfound := List.mem_filter.mp (List.mem_of_find?_eq_some hfind)
      have hname : found.rpcName = method := by simpa using List.find?_some hfind
      have hshape : found.shape = shape := by simpa using hfound.2
      rw [Answer.handled.injEq]
      constructor
      · intro heq
        rw [← eq_of_serverCase_eq accepted hfound.1 h heq]
        exact ⟨hname, hshape⟩
      · rintro ⟨rfl, -⟩
        rw [eq_of_rpcName_eq accepted hfound.1 h hname]
  | none =>
      simp only [reduceCtorEq, false_iff]
      rintro ⟨hname, hshape⟩
      have hmem : bound ∈ ofShape methods shape := by simp [ofShape, h, hshape]
      exact List.find?_eq_none.mp hfind bound hmem (by simp [hname])

/-- A name that no method of the shape has is rejected. -/
theorem expectedAnswer_of_forall_ne {methods : List BoundMethod} {shape : Shape} {method : String}
    (h : ∀ bound ∈ methods, ¬ (bound.rpcName = method ∧ bound.shape = shape)) :
    expectedAnswer methods shape method = .rejected (reject shape
      (if (ofShape methods shape).isEmpty then notImplementedError shape
       else unknownMethodError)) := by
  have hfind : (ofShape methods shape).find? (fun other => other.rpcName == method) = none := by
    rw [List.find?_eq_none]
    intro bound hbound hname
    obtain ⟨hmem, hshape⟩ := List.mem_filter.mp hbound
    exact h bound hmem ⟨eq_of_beq hname, eq_of_beq hshape⟩
  rw [expectedAnswer, hfind]

/-- The branches of a service are pairwise different. -/
theorem nodup_serverCases {service : Service} {methods : List BoundMethod}
    (accepted : bindMethods service = .ok methods) :
    (methods.map BoundMethod.serverCase).Nodup := by
  have hmethods : methods.Nodup := by
    have hnames := nodup_rpcNames accepted
    obtain ⟨rfl, -⟩ := bindMethods_eq_ok_iff.mp accepted
    exact (List.Nodup.of_map Method.name hnames).map_on fun first _ second _ h =>
      congrArg BoundMethod.method h
  exact hmethods.map_on fun first hfirst second hsecond =>
    eq_of_serverCase_eq accepted hfirst hsecond

/-- Every method has one shape. -/
theorem countP_ofShape (p : BoundMethod → Bool) (methods : List BoundMethod) :
    (Shape.all.flatMap (ofShape methods)).countP p = methods.countP p := by
  induction methods with
  | nil => rfl
  | cons bound methods ih =>
      simp only [Shape.all, List.flatMap_cons, List.flatMap_nil, List.countP_append,
        List.countP_nil] at ih ⊢
      cases hshape : bound.shape <;> simp [ofShape, hshape, List.countP_cons] at ih ⊢ <;> omega

/-- A branch occurs as often as methods of the shape have it for their case. -/
theorem count_routing (methods : List BoundMethod) (shape : Shape) {code : Snippet}
    (hcode : code.branch?.isSome = true) :
    (routingOutline methods shape).pieces.count (.snippet code) =
      (ofShape methods shape).countP fun bound => bound.serverCase == code := by
  have hpreamble : ∀ rejection, Snippet.routingPreamble rejection ≠ code :=
    fun _ => ne_of_branch? hcode rfl
  have hbeq : ∀ bound : BoundMethod, (Piece.snippet bound.serverCase == Piece.snippet code) =
      (bound.serverCase == code) := by
    intro bound
    simp [beq_eq_decide]
  simp [pieces_routing, List.count_eq_countP, List.countP_map, Function.comp_def, hbeq, hpreamble]

/-- The pieces of an entry point are all of its functions' pieces, and the branches among them are
those of its shape. -/
theorem count_entry (methods : List BoundMethod) (shape : Shape) {code : Snippet}
    (hcode : code.branch?.isSome = true) :
    (entryOutline methods shape).pieces.count (.snippet code) =
      (ofShape methods shape).countP fun bound => bound.serverCase == code := by
  unfold entryOutline
  split
  · next hempty =>
    have hne : unimplemented shape ≠ code := ne_of_branch? hcode (branch?_unimplemented shape)
    simp [List.isEmpty_iff.mp hempty, hne]
  · split
    · next hshape =>
      subst hshape
      have hne : Snippet.channelEntry ≠ code := ne_of_branch? hcode rfl
      simp [channelEntryOutline, hne, count_routing methods _ hcode]
    · rw [pieces_singleEntry, singleEntryBody]
      split <;> simp [count_routing methods _ hcode]

/-- The branch of a method occurs once in the whole server class. -/
theorem count_serverCase (comments : CommentIndex) {service : Service} {methods : List BoundMethod}
    (accepted : bindMethods service = .ok methods) {bound : BoundMethod} (h : bound ∈ methods) :
    (serverOutline comments ⟨service, methods⟩).pieces.count (.snippet bound.serverCase) = 1 := by
  have hcode := isSome_branch?_serverCase bound
  have hone : methods.countP (fun other => other.serverCase == bound.serverCase) = 1 := by
    have hcount := List.count_eq_one_of_mem (nodup_serverCases accepted)
      (List.mem_map_of_mem h)
    rwa [List.count_eq_countP, List.countP_map] at hcount
  have htraces : (traceOutline BoundMethod.serverTrace methods).pieces.count
      (.snippet bound.serverCase) = 0 := by
    rw [List.count_eq_zero]
    intro hmem
    simp only [traceOutline, Outline.pieces, List.map_map, List.mem_map] at hmem
    obtain ⟨other, _, heq⟩ := hmem
    exact ne_of_branch? hcode rfl (Piece.snippet.inj heq)
  have hhead : (serverHead comments ⟨service, methods⟩).count (.snippet bound.serverCase) = 0 := by
    have hheader : Snippet.serverHeader (serverName service) ≠ bound.serverCase :=
      ne_of_branch? hcode rfl
    simp [serverHead, htraces, hheader]
  have hpush : (pushFunction comments ⟨service, methods⟩).body.count
      (.snippet bound.serverCase) = 0 := by
    have hentry : Snippet.metadataPushEntry ≠ bound.serverCase := ne_of_branch? hcode rfl
    simp [pushFunction, hentry]
  have hblank : (Piece.line "" == .snippet bound.serverCase) = false := by simp
  -- the branches of the four entry points together are those of all methods
  have hsum := countP_ofShape (fun other => other.serverCase == bound.serverCase) methods
  simp only [Shape.all, List.flatMap_cons, List.flatMap_nil, List.countP_append, List.countP_nil,
    hone] at hsum
  rw [pieces_server]
  simp only [List.count_append, List.count_cons, count_entry methods _ hcode, hhead, hpush, hblank,
    Bool.false_eq_true, if_false]
  omega

/-- The branches that route payloads are the cases of the shape. -/
theorem mem_routing_iff (methods : List BoundMethod) (shape : Shape) {code : Snippet}
    (hcode : code.branch?.isSome = true) :
    .snippet code ∈ (routingOutline methods shape).pieces ↔ code ∈ entryCases methods shape := by
  rw [← List.count_pos_iff, count_routing methods shape hcode, List.countP_pos_iff]
  simp [entryCases]

/-- Of the functions of an entry point, the router alone holds branches. -/
theorem mem_body_iff {methods : List BoundMethod} {shape : Shape} {function : ClassFunction}
    (hfunction : function ∈ entryFunctions methods shape) {code : Snippet}
    (hcode : code.branch?.isSome = true) :
    .snippet code ∈ function.body ↔
      function.name = routerName shape ∧ code ∈ entryCases methods shape := by
  have hmem := mem_routing_iff methods shape hcode
  unfold entryFunctions at hfunction
  split at hfunction
  · next hempty =>
    have hne := (ne_of_branch? hcode (branch?_unimplemented shape)).symm
    simp [List.mem_singleton.mp hfunction, hne, entryCases, List.isEmpty_iff.mp hempty]
  · split at hfunction
    · next hshape =>
      subst hshape
      have hne : code ≠ .channelEntry := (ne_of_branch? hcode rfl).symm
      simp only [List.mem_cons, List.not_mem_nil, or_false] at hfunction
      rcases hfunction with rfl | rfl
      · simp [hne, Shape.primitive, routerName]
      · simp [hmem]
    · next hshape =>
      have hname := (routerName_of_ne hshape).symm
      have hbody : .snippet code ∈ singleEntryBody methods shape ↔
          code ∈ entryCases methods shape := by
        unfold singleEntryBody
        split <;> simp [hmem]
      simp [List.mem_singleton.mp hfunction, hname, hbody]

/-- The branch of a method stands in the router of its shape, and in no other function. -/
theorem serverCase_mem_body_iff (comments : CommentIndex) {service : Service}
    {methods : List BoundMethod} (accepted : bindMethods service = .ok methods)
    {bound : BoundMethod} (h : bound ∈ methods) {function : ClassFunction}
    (hfunction : function ∈ functionsOf (serverOutline comments ⟨service, methods⟩).pieces) :
    .snippet bound.serverCase ∈ function.body ↔ function.name = routerName bound.shape := by
  have hcode := isSome_branch?_serverCase bound
  have hcase : ∀ shape, bound.serverCase ∈ entryCases methods shape ↔ bound.shape = shape := by
    intro shape
    simp only [entryCases, ofShape, List.mem_map, List.mem_filter, beq_iff_eq]
    constructor
    · rintro ⟨other, ⟨hother, rfl⟩, heq⟩
      rw [eq_of_serverCase_eq accepted hother h heq]
    · rintro rfl
      exact ⟨bound, ⟨h, rfl⟩, rfl⟩
  rw [functionsOf_server, List.mem_append, List.mem_flatMap, List.mem_singleton] at hfunction
  rcases hfunction with ⟨shape, _, hentry⟩ | rfl
  · rw [mem_body_iff hentry hcode, hcase]
    constructor
    · rintro ⟨hname, rfl⟩
      exact hname
    · intro hname
      have hshape := shape_eq_of_name (name_of_mem_entryFunctions hentry) (.inr hname)
      exact ⟨hshape ▸ hname, hshape.symm⟩
  · have hpush : bound.serverCase ≠ .metadataPushEntry := (ne_of_branch? hcode rfl).symm
    have hname : "metadata_push" ≠ routerName bound.shape := (ne_metadata_push (.inr rfl)).symm
    simp [pushFunction, hpush, hname]

/-! ## Client functions -/

/-- The names and the transport primitive of a client function. -/
def Snippet.request? : Snippet → Option (CallSite × String)
  | .fireAndForgetCall site => some (site, "fire_and_forget")
  | .singleRequestCall site primitive _ => some (site, primitive)
  | .channelCall site _ => some (site, "request_channel")
  | _ => none

/-- Whether some line of a snippet holds a text. -/
def Snippet.Holds (code : Snippet) (text : String) : Prop :=
  ∃ line ∈ code.lines, text.toList <:+: line.toList

/-- The client function of a method calls the primitive of the method's shape. -/
theorem request?_clientCall (bound : BoundMethod) :
    bound.clientCall.request? = some (bound.callSite, bound.shape.primitive) := by
  cases hshape : bound.shape <;>
    simp [BoundMethod.clientCall, hshape, Snippet.request?, Shape.primitive]

theorem holds_of_mem_lines {code : Snippet} {before text after : String}
    (h : before ++ text ++ after ∈ code.lines) : code.Holds text :=
  ⟨_, h, before.toList, after.toList, by rw [String.toList_append, String.toList_append]⟩

theorem holds_of_mem_lines_end {code : Snippet} {before text : String}
    (h : before ++ text ∈ code.lines) : code.Holds text :=
  ⟨_, h, before.toList, [], by rw [String.toList_append, List.append_nil]⟩

theorem Snippet.Holds.of_append {code : Snippet} {text after : String}
    (h : code.Holds (text ++ after)) : code.Holds text := by
  obtain ⟨line, hline, hinfix⟩ := h
  rw [String.toList_append] at hinfix
  exact ⟨line, hline, (List.prefix_append _ _).isInfix.trans hinfix⟩

/-- The text of a client function for one request without an answer. -/
theorem holds_fireAndForgetCall (site : CallSite) :
    (Snippet.fireAndForgetCall site).Holds ("self._rs." ++ "fire_and_forget" ++ "(") := by
  have hline : "    self._rs.fire_and_forget(rsocket_rpc_core.Payload(data, metadata_bytes))" =
      "    " ++ ("self._rs." ++ "fire_and_forget" ++ "(") ++
        "rsocket_rpc_core.Payload(data, metadata_bytes))" := by decide
  apply holds_of_mem_lines
  rw [← hline]
  simp only [Snippet.lines, CallSite.fireAndForgetLines, List.mem_cons, true_or, or_true]

/-- The text of a client function for one request with answers. -/
theorem holds_singleRequestCall (site : CallSite) (primitive outputType : String) :
    (Snippet.singleRequestCall site primitive outputType).Holds
      ("self._rs." ++ primitive ++ "(") := by
  have hline : "            self._rs." ++ primitive ++
      "(rsocket_rpc_core.Payload(data, metadata_bytes))" =
      "            " ++ ("self._rs." ++ primitive ++ "(") ++
        "rsocket_rpc_core.Payload(data, metadata_bytes))" := by
    apply String.toList_inj.mp
    simp
  apply holds_of_mem_lines
  rw [← hline]
  simp only [Snippet.lines, CallSite.singleRequestLines, List.mem_cons, true_or, or_true]

/-- The text of a client function for a stream of requests. -/
theorem holds_channelCall (site : CallSite) (outputType : String) :
    (Snippet.channelCall site outputType).Holds ("self._rs." ++ "request_channel" ++ "(") := by
  have hline : "            self._rs.request_channel(messages.pipe(ops.map(to_payload)))" =
      "            " ++ ("self._rs." ++ "request_channel" ++ "(") ++
        "messages.pipe(ops.map(to_payload)))" := by decide
  apply holds_of_mem_lines
  rw [← hline]
  simp only [Snippet.lines, CallSite.channelLines, List.mem_cons, true_or, or_true]

/-- The text of a client function calls its primitive and encodes its names. -/
theorem holds_of_request? {code : Snippet} {site : CallSite} {primitive : String}
    (h : code.request? = some (site, primitive)) :
    code.Holds ("self._rs." ++ primitive ++ "(") ∧ code.Holds site.encodeMetadata := by
  cases code with
  | fireAndForgetCall other =>
      obtain ⟨rfl, rfl⟩ := Prod.mk.inj (Option.some.inj h)
      have hencode : "    " ++ other.encodeMetadata ∈
          (Snippet.fireAndForgetCall other).lines := by
        simp only [Snippet.lines, CallSite.fireAndForgetLines, List.mem_cons, true_or, or_true]
      exact ⟨holds_fireAndForgetCall other, holds_of_mem_lines_end hencode⟩
  | singleRequestCall other called outputType =>
      obtain ⟨rfl, rfl⟩ := Prod.mk.inj (Option.some.inj h)
      have hencode : "        " ++ other.encodeMetadata ∈
          (Snippet.singleRequestCall other called outputType).lines := by
        simp only [Snippet.lines, CallSite.singleRequestLines, List.mem_cons, true_or, or_true]
      exact ⟨holds_singleRequestCall other called outputType, holds_of_mem_lines_end hencode⟩
  | channelCall other outputType =>
      obtain ⟨rfl, rfl⟩ := Prod.mk.inj (Option.some.inj h)
      have hencode : "        " ++ other.encodeMetadata ∈
          (Snippet.channelCall other outputType).lines := by
        simp only [Snippet.lines, CallSite.channelLines, List.mem_cons, true_or, or_true]
      exact ⟨holds_channelCall other outputType, holds_of_mem_lines_end hencode⟩
  | _ => simp [Snippet.request?] at h

/-- A client function of some name, which calls a transport primitive and encodes the names of a
service and of a method as routing metadata. -/
structure Snippet.Calls (code : Snippet) (function primitive serviceName rpcName : String) :
    Prop where
  request : ∃ site, code.request? = some (site, primitive) ∧ site.function = function ∧
    site.serviceName = serviceName ∧ site.rpcName = rpcName
  invocation : code.Holds ("self._rs." ++ primitive ++ "(")
  metadata : code.Holds ("metadata_bytes = rsocket_rpc_frames.encode_metadata(" ++
    inQuotes serviceName ++ ", " ++ inQuotes rpcName ++ ", tracing_metadata, metadata or b\"\")")

/-- The client function of a method carries the names of its service and of the method. -/
theorem calls_clientCall (bound : BoundMethod) :
    bound.clientCall.Calls bound.function bound.shape.primitive bound.serviceName
      bound.rpcName where
  request := ⟨bound.callSite, request?_clientCall bound, rfl, rfl, rfl⟩
  invocation := (holds_of_request? (request?_clientCall bound)).1
  metadata := (holds_of_request? (request?_clientCall bound)).2

/-- The expression that calls the handler of a branch starts with the handler's name. -/
theorem handleSingle_eq (branch : Branch) :
    branch.handleSingle = "self._service." ++ branch.handler ++ "(" ++
      (branch.inputType ++ ".FromString(_as_bytes(payload.data)), payload.metadata)") := by
  unfold Branch.handleSingle
  exact String.append_assoc

/-- The text of a branch calls its handler. -/
theorem holds_of_branch? {code : Snippet} {branch : Branch} (h : code.branch? = some branch) :
    code.Holds ("self._service." ++ branch.handler ++ "(") := by
  cases code with
  | fireAndForgetCase other =>
      obtain rfl := Option.some.inj h
      have hline : "    " ++ other.handleSingle ∈ (Snippet.fireAndForgetCase other).lines := by
        simp only [Snippet.lines, Branch.fireAndForgetLines, List.mem_cons, true_or, or_true]
      have hholds := holds_of_mem_lines_end hline
      rw [handleSingle_eq] at hholds
      exact hholds.of_append
  | singleRequestCase other =>
      obtain rfl := Option.some.inj h
      have hline : "        " ++ other.handleSingle ++ ".pipe(" ∈
          (Snippet.singleRequestCase other).lines := by
        simp only [Snippet.lines, Branch.singleRequestLines, List.mem_cons, true_or, or_true]
      have hholds := holds_of_mem_lines hline
      rw [handleSingle_eq] at hholds
      exact hholds.of_append
  | channelCase other =>
      obtain rfl := Option.some.inj h
      have hsplit : "        self._service." ++ other.handler ++
          "(messages, payload.metadata).pipe(ops.map(_to_payload))" =
          "        " ++ ("self._service." ++ other.handler ++ "(") ++
            "messages, payload.metadata).pipe(ops.map(_to_payload))" := by
        apply String.toList_inj.mp
        simp
      have hline : "        self._service." ++ other.handler ++
          "(messages, payload.metadata).pipe(ops.map(_to_payload))" ∈
          (Snippet.channelCase other).lines := by
        simp only [Snippet.lines, Branch.channelLines, List.mem_cons, true_or, or_true]
      rw [hsplit] at hline
      exact holds_of_mem_lines hline
  | _ => simp [Snippet.branch?] at h

/-- A branch that compares the method name of a payload with a name, and calls a handler. -/
structure Snippet.Routes (code : Snippet) (function rpcName : String) : Prop where
  branch : ∃ branch, code.branch? = some branch ∧ branch.rpcName = rpcName ∧
    branch.handler = function
  test : code.lines.head? = some ("if method == " ++ inQuotes rpcName ++ ":")
  call : code.Holds ("self._service." ++ function ++ "(")

/-- The case of a method compares the name of the method, and calls its handler. -/
theorem routes_serverCase (bound : BoundMethod) :
    bound.serverCase.Routes bound.function bound.rpcName where
  branch := ⟨bound.branch, branch?_serverCase bound, rfl, rfl⟩
  test := head?_serverCase bound
  call := by
    have hhandler : bound.branch.handler = bound.function := rfl
    rw [← hhandler]
    exact holds_of_branch? (branch?_serverCase bound)

/-! ## Agreement -/

/-- A function that routes the payloads of a shape.  It compares the names of the methods of the
shape, each once and in order of declaration.  It selects the method of the shape that has the name
on the wire; if there is none it rejects the payload, as unknown when the shape has methods at
all. -/
structure ClassFunction.RoutesShape (router : ClassFunction) (service : Service) (shape : Shape) :
    Prop where
  names : router.branches.map Branch.rpcName =
    (service.methods.filter fun method => method.shape == shape).map Method.name
  distinct : (router.branches.map Branch.rpcName).Nodup
  selects : ∀ wire, ∀ method ∈ service.methods,
    router.answer? wire = some (.handled (bindMethod service method).serverCase) ↔
      method.name = wire ∧ method.shape = shape
  rejects : ∀ wire,
    (∀ method ∈ service.methods, ¬ (method.name = wire ∧ method.shape = shape)) →
      router.answer? wire = some (.rejected (reject shape
        (if ∃ method ∈ service.methods, method.shape = shape then unknownMethodError
         else notImplementedError shape)))

/-- The client class and the server class of a service agree on where its calls go. -/
structure RoutingAgreement (service : Service) (client server : List Piece) : Prop where
  /-- The client function of a method calls the primitive of the method's shape, with the names of
  service and method. -/
  calls : ∀ method ∈ service.methods, .snippet (bindMethod service method).clientCall ∈ client ∧
    (bindMethod service method).clientCall.Calls (bindMethod service method).function
      method.shape.primitive service.fullName method.name
  /-- The branch of a method compares the same method name and calls the handler of the same name.
  It occurs once in the class, in the router of the method's shape and in no other function. -/
  branches : ∀ method ∈ service.methods,
    (bindMethod service method).serverCase.Routes (bindMethod service method).function method.name ∧
    server.count (.snippet (bindMethod service method).serverCase) = 1 ∧
    (∃ function ∈ functionsOf server, function.name = routerName method.shape) ∧
    ∀ function ∈ functionsOf server,
      .snippet (bindMethod service method).serverCase ∈ function.body ↔
        function.name = routerName method.shape
  /-- Every entry point has a router for its shape. -/
  routers : ∀ shape, ∃ router,
    routerOf? (functionsOf server) shape = some router ∧ router.RoutesShape service shape

/-- A client class has a function for each method. -/
theorem mem_clientOutline (comments : CommentIndex) {bound : BoundService} {method : BoundMethod}
    (h : method ∈ bound.methods) :
    .snippet method.clientCall ∈ (clientOutline comments bound).pieces := by
  have hcall : .snippet method.clientCall ∈
      Outline.pieces (bound.methods.flatMap (callOutline comments)) := by
    simp only [Outline.pieces, List.map_flatMap, List.mem_flatMap]
    exact ⟨method, h, by simp [callOutline]⟩
  simp [clientOutline, hcall]

/-- A method keeps its shape when it is bound. -/
theorem ofShape_map_bindMethod (service : Service) (shape : Shape) :
    ofShape (service.methods.map (bindMethod service)) shape =
      (service.methods.filter fun method => method.shape == shape).map (bindMethod service) := by
  rw [ofShape, List.filter_map]
  rfl

/-- No bound method has a shape exactly if no method of the service has it. -/
theorem isEmpty_ofShape_iff {service : Service} {shape : Shape} :
    (ofShape (service.methods.map (bindMethod service)) shape).isEmpty = true ↔
      ¬ ∃ method ∈ service.methods, method.shape = shape := by
  simp [ofShape_map_bindMethod]

/-- The shape of a method has a function for its branches. -/
theorem exists_mem_functionsOf (comments : CommentIndex) {bound : BoundService}
    {method : BoundMethod} (h : method ∈ bound.methods) :
    ∃ function ∈ functionsOf (serverOutline comments bound).pieces,
      function.name = routerName method.shape := by
  have hempty : (ofShape bound.methods method.shape).isEmpty = false := by
    rw [List.isEmpty_eq_false_iff_exists_mem]
    exact ⟨method, by simp [ofShape, h]⟩
  have hentry : ∃ function ∈ entryFunctions bound.methods method.shape,
      function.name = routerName method.shape := by
    rw [entryFunctions, hempty, if_neg Bool.false_ne_true]
    split
    · exact ⟨_, List.mem_cons_of_mem _ List.mem_cons_self, rfl⟩
    · next hshape => exact ⟨_, List.mem_cons_self, (routerName_of_ne hshape).symm⟩
  obtain ⟨function, hfunction, hname⟩ := hentry
  refine ⟨function, ?_, hname⟩
  rw [functionsOf_server, List.mem_append, List.mem_flatMap]
  exact .inl ⟨method.shape, by cases method.shape <;> decide, hfunction⟩

/-- An accepted service keeps all of its methods. -/
theorem bindMethod_mem {service : Service} {methods : List BoundMethod}
    (accepted : bindMethods service = .ok methods) {method : Method}
    (h : method ∈ service.methods) : bindMethod service method ∈ methods := by
  rw [(bindMethods_eq_ok_iff.mp accepted).1]
  exact List.mem_map_of_mem h

/-- A function that holds the branches of a shape and answers by them routes the shape. -/
theorem routesShape_of_answer {service : Service} {methods : List BoundMethod}
    (accepted : bindMethods service = .ok methods) {router : ClassFunction} {shape : Shape}
    (hbranches : router.branches = (ofShape methods shape).map BoundMethod.branch)
    (hanswer : ∀ wire, router.answer? wire = some (expectedAnswer methods shape wire)) :
    router.RoutesShape service shape := by
  have hmethods := (bindMethods_eq_ok_iff.mp accepted).1
  have hnames : router.branches.map Branch.rpcName =
      (service.methods.filter fun method => method.shape == shape).map Method.name := by
    rw [hbranches, hmethods, ofShape_map_bindMethod, List.map_map, List.map_map]
    rfl
  refine ⟨hnames, ?_, ?_, ?_⟩
  · rw [hnames]
    exact (nodup_rpcNames accepted).sublist (List.filter_sublist.map _)
  · intro wire method hmethod
    rw [hanswer, Option.some.injEq]
    exact expectedAnswer_eq_handled_iff accepted (bindMethod_mem accepted hmethod) shape wire
  · intro wire hnone
    have hbound : ∀ bound ∈ methods, ¬ (bound.rpcName = wire ∧ bound.shape = shape) := by
      rw [hmethods]
      exact List.forall_mem_map.mpr hnone
    rw [hanswer, expectedAnswer_of_forall_ne hbound, hmethods]
    by_cases hserved : ∃ method ∈ service.methods, method.shape = shape
    · rw [if_pos hserved, if_neg (isEmpty_ofShape_iff.not.mpr (not_not.mpr hserved))]
    · rw [if_neg hserved, if_pos (isEmpty_ofShape_iff.mpr hserved)]

/-- **Client and server agree** on every service whose methods can have their names. -/
theorem client_server_agreement {service : Service} {methods : List BoundMethod}
    (accepted : bindMethods service = .ok methods) (comments : CommentIndex) :
    (∀ out, writeClient comments ⟨service, methods⟩ out =
      out.write (clientOutline comments ⟨service, methods⟩)) ∧
    (∀ out, writeServer comments ⟨service, methods⟩ out =
      out.write (serverOutline comments ⟨service, methods⟩)) ∧
    RoutingAgreement service (clientOutline comments ⟨service, methods⟩).pieces
      (serverOutline comments ⟨service, methods⟩).pieces := by
  refine ⟨writeClient_eq comments _, writeServer_eq comments _, ?_, ?_, ?_⟩
  · intro method hmethod
    exact ⟨mem_clientOutline comments (bindMethod_mem accepted hmethod),
      calls_clientCall (bindMethod service method)⟩
  · intro method hmethod
    have hmem := bindMethod_mem accepted hmethod
    have hfunction : ∃ function ∈ functionsOf (serverOutline comments ⟨service, methods⟩).pieces,
        function.name = routerName (bindMethod service method).shape :=
      exists_mem_functionsOf comments hmem
    exact ⟨routes_serverCase (bindMethod service method),
      count_serverCase comments accepted hmem, hfunction,
      fun _ hmember => serverCase_mem_body_iff comments accepted hmem hmember⟩
  · intro shape
    obtain ⟨router, hrouter, hbranches, hanswer⟩ :=
      routerOf?_server comments ⟨service, methods⟩ shape
    exact ⟨router, hrouter, routesShape_of_answer accepted hbranches hanswer⟩

/-- A service with a method of every shape. -/
def chatService : Service where
  name := "Chat"
  fullName := "chat.Chat"
  methods :=
    let text : RecordType := ⟨"chat.Text", "chat.proto", "chat"⟩
    [{ name := "Say", input := text, output := text },
     { name := "Notify", input := text, output := text, fireAndForget := true },
     { name := "Watch", input := text, output := text, serverStreaming := true },
     { name := "Talk", input := text, output := text, clientStreaming := true },
     { name := "Drop", input := text, output := text, fireAndForget := true }]

theorem client_server_agreement_chat :
    bindMethods chatService = .ok (chatService.methods.map (bindMethod chatService)) ∧
      RoutingAgreement chatService
        (clientOutline {} ⟨chatService, chatService.methods.map (bindMethod chatService)⟩).pieces
        (serverOutline {} ⟨chatService, chatService.methods.map (bindMethod chatService)⟩).pieces :=
  have accepted : bindMethods chatService =
      .ok (chatService.methods.map (bindMethod chatService)) := by decide +kernel
  ⟨accepted, (client_server_agreement accepted {}).2.2⟩

/-- A service without methods that send one request and expect nothing. -/
def echoService : Service where
  name := "Echo"
  fullName := "echo.Echo"
  methods :=
    let text : RecordType := ⟨"echo.Text", "echo.proto", "echo"⟩
    [{ name := "Say", input := text, output := text }]

/-- A payload that no method takes is not always rejected as unknown: an entry point without methods
is not implemented. -/
theorem unserved_shape_not_unknown :
    ¬ ∀ (service : Service) (methods : List BoundMethod) (comments : CommentIndex) (shape : Shape)
        (wire : String), bindMethods service = .ok methods →
      (∀ method ∈ service.methods, ¬ (method.name = wire ∧ method.shape = shape)) →
      (routerOf? (functionsOf (serverOutline comments ⟨service, methods⟩).pieces) shape).bind
          (ClassFunction.answer? wire) =
        some (.rejected (reject shape unknownMethodError)) := by
  intro h
  have hanswer := h echoService (echoService.methods.map (bindMethod echoService)) {} .fireAndForget
    "Notify" (by decide) (by decide)
  have hempty :
      (ofShape (echoService.methods.map (bindMethod echoService)) .fireAndForget).isEmpty =
        true := by decide
  have hreject : reject .fireAndForget (notImplementedError .fireAndForget) ≠
      reject .fireAndForget unknownMethodError := by decide
  rw [routerOf?_server_of_isEmpty {} hempty, Option.bind_some, ClassFunction.answer?,
    List.findSome?_cons, answer?_unimplemented, Option.some.injEq, Answer.rejected.injEq] at hanswer
  exact hreject hanswer

end StubGen.Stub
