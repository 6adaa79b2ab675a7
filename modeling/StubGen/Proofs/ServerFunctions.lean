import StubGen.Proofs.Outline

/-!
# StubGen.Proofs.ServerFunctions

The functions of a server class, read from its outline.  A piece whose first line starts with `def`
opens a function, which goes on up to the next such piece (`functionsOf`).  A server class consists
of the functions of its four entry points and of one for metadata pushes (`functionsOf_server`):

1. an entry point without methods is a single function;
2. so is an entry point for single requests;
3. the entry point for channels comes with a second function, its switch.

No two of these functions share a name, so that a name tells which entry point a function belongs
to (`find?_functionsOf_server`).
-/

namespace StubGen.Stub

/-! ## Functions -/

/-- The pieces of an outline. -/
def Outline.pieces (outline : Outline) : List Piece :=
  outline.map Placed.piece

@[simp] theorem pieces_nil : Outline.pieces [] = [] := rfl

@[simp] theorem pieces_cons (placed : Placed) (outline : Outline) :
    Outline.pieces (placed :: outline) = placed.piece :: Outline.pieces outline := rfl

@[simp] theorem pieces_append (first second : Outline) :
    Outline.pieces (first ++ second) = first.pieces ++ second.pieces :=
  List.map_append

@[simp] theorem pieces_deeper (outline : Outline) : outline.deeper.pieces = outline.pieces := by
  simp [Outline.pieces, Outline.deeper, Function.comp_def]

/-- The name of the function that a line opens, if it opens one. -/
def definedName? (line : String) : Option String :=
  if "def ".toList.isPrefixOf line.toList then
    some (String.ofList ((line.toList.drop 4).takeWhile (· != '(')))
  else none

/-- The name of the function that a piece opens, which its first line tells. -/
def Piece.opens? : Piece → Option String
  | .comment _ => none
  | .line text => definedName? text
  | .snippet code => code.lines.head?.bind definedName?

/-- A function of a class: the piece that opens it, and those up to the next function. -/
structure ClassFunction where
  name : String
  body : List Piece
deriving DecidableEq, Repr

/-- The functions among some pieces. -/
def functionsOf : List Piece → List ClassFunction
  | [] => []
  | piece :: rest =>
    match piece.opens? with
    | some name =>
      ⟨name, piece :: rest.takeWhile fun other => other.opens?.isNone⟩ :: functionsOf rest
    | none => functionsOf rest

/-- Pieces of which the first opens a function, if there is a first. -/
def StartsFunction (pieces : List Piece) : Prop :=
  pieces.takeWhile (fun piece => piece.opens?.isNone) = []

/-- Pieces none of which opens a function. -/
def Inside (pieces : List Piece) : Prop :=
  ∀ piece ∈ pieces, piece.opens? = none

/-- Pieces in front of all functions make no function. -/
theorem functionsOf_append_of_inside {first : List Piece} (h : Inside first) (rest : List Piece) :
    functionsOf (first ++ rest) = functionsOf rest := by
  induction first with
  | nil => rfl
  | cons piece first ih =>
      have hpiece : piece.opens? = none := h piece List.mem_cons_self
      rw [List.cons_append, functionsOf, hpiece]
      exact ih fun other hother => h other (List.mem_cons_of_mem _ hother)

/-- A function ends where the next one starts. -/
theorem functionsOf_cons_append {piece : Piece} {name : String} {body rest : List Piece}
    (hopens : piece.opens? = some name) (hbody : Inside body) (hrest : StartsFunction rest) :
    functionsOf (piece :: body ++ rest) = ⟨name, piece :: body⟩ :: functionsOf rest := by
  have htake : (body ++ rest).takeWhile (fun other => other.opens?.isNone) = body := by
    rw [List.takeWhile_append_of_pos (by simpa [Inside] using hbody), hrest, List.append_nil]
  rw [List.cons_append, functionsOf, hopens]
  simp only [htake, functionsOf_append_of_inside hbody]

/-! ## The functions of a server class -/

/-- The function that holds the branches of a shape: its entry point, or the switch of channels. -/
def routerName : Shape → String
  | .requestChannel => "_channel_switch"
  | shape => shape.primitive

theorem routerName_of_ne {shape : Shape} (h : shape ≠ .requestChannel) :
    routerName shape = shape.primitive := by
  cases shape <;> simp_all [routerName]

/-- The name of a function ends where its parameters start. -/
theorem definedName?_def {name : String} (h : '(' ∉ name.toList) (rest : String) :
    definedName? ("def " ++ name ++ "(" ++ rest) = some name := by
  have hname : ∀ c ∈ name.toList, (c != '(') = true := by
    intro c hc
    simpa using ne_of_mem_of_not_mem hc h
  simp [definedName?, List.takeWhile_append_of_pos hname]

/-- The first line of an entry point names its primitive. -/
theorem definedName?_entryHead (shape : Shape) :
    definedName? (entryHead shape) = some shape.primitive := by
  have hname : '(' ∉ shape.primitive.toList := by cases shape <;> decide
  have hhead : entryHead shape =
      "def " ++ shape.primitive ++ "(" ++ ("self, " ++ entryParameter shape ++ "):") := by
    apply String.toList_inj.mp
    simp [entryHead]
  rw [hhead, definedName?_def hname]

/-- An entry point without methods is a function too. -/
theorem opens?_unimplemented (shape : Shape) :
    (Piece.snippet (unimplemented shape)).opens? = some shape.primitive := by
  simp only [Piece.opens?, unimplemented, Snippet.lines, List.head?_cons, Option.bind_some]
  exact definedName?_entryHead shape

theorem opens?_entryHead (shape : Shape) :
    (Piece.line (entryHead shape)).opens? = some shape.primitive :=
  definedName?_entryHead shape

theorem opens?_channelEntry :
    (Piece.snippet .channelEntry).opens? = some Shape.requestChannel.primitive := by
  decide +kernel

theorem opens?_switchHead :
    (Piece.line switchHead).opens? = some (routerName .requestChannel) := by
  decide +kernel

theorem opens?_metadataPushEntry :
    (Piece.snippet .metadataPushEntry).opens? = some "metadata_push" := by
  decide +kernel

theorem opens?_reject (shape : Shape) (error : String) :
    (Piece.line (reject shape error)).opens? = none := by
  unfold reject
  split <;> simp [Piece.opens?, definedName?]

/-- The first line of a branch is its comparison. -/
theorem head?_serverCase (bound : BoundMethod) :
    bound.serverCase.lines.head? = some bound.branch.test := by
  cases hshape : bound.shape <;> simp only [BoundMethod.serverCase, hshape] <;> rfl

/-- Branches open no function. -/
theorem opens?_serverCase (bound : BoundMethod) :
    (Piece.snippet bound.serverCase).opens? = none := by
  simp [Piece.opens?, head?_serverCase, definedName?, Branch.test]

theorem opens?_traceBinding (binding : TraceBinding) :
    (Piece.snippet (.traceBinding binding)).opens? = none := by
  simp [Piece.opens?, Snippet.lines, TraceBinding.lines, definedName?]

theorem opens?_serverHeader (name : String) :
    (Piece.snippet (.serverHeader name)).opens? = none := by
  simp [Piece.opens?, Snippet.lines, definedName?]

theorem opens?_routingPreamble (rejection : String) :
    (Piece.snippet (.routingPreamble rejection)).opens? = none := by
  simp [Piece.opens?, Snippet.lines, definedName?]

/-- Payloads are routed by a check of their metadata, the branches, and an end. -/
theorem pieces_routing (methods : List BoundMethod) (shape : Shape) :
    (routingOutline methods shape).pieces =
      [.snippet (.routingPreamble (reject shape missingMetadataError))] ++
      ((ofShape methods shape).map fun bound => .snippet bound.serverCase) ++
      [.line (reject shape unknownMethodError)] := by
  simp [routingOutline, entryCases, Outline.pieces, Function.comp_def]

/-- All that routes a payload belongs to one function. -/
theorem inside_routing (methods : List BoundMethod) (shape : Shape) :
    Inside (routingOutline methods shape).pieces := by
  rw [pieces_routing]
  intro piece hpiece
  simp only [List.mem_append, List.mem_map, List.mem_singleton] at hpiece
  rcases hpiece with (rfl | ⟨bound, _, rfl⟩) | rfl
  · exact opens?_routingPreamble _
  · exact opens?_serverCase bound
  · exact opens?_reject shape _

/-- The pieces of a single entry point behind its first line. -/
def singleEntryBody (methods : List BoundMethod) (shape : Shape) : List Piece :=
  if entryRaises shape then (routingOutline methods shape).pieces
  else
    .line "try:" :: (routingOutline methods shape).pieces ++
      [.line "except Exception as error:", .line "return reactivex.throw(error)"]

/-- An entry point for single requests has its head and its body. -/
theorem pieces_singleEntry (methods : List BoundMethod) (shape : Shape) :
    (singleEntryOutline methods shape).pieces =
      .line (entryHead shape) :: singleEntryBody methods shape := by
  simp only [singleEntryOutline, singleEntryBody, pieces_deeper, pieces_cons, piece_here,
    List.cons_append, List.nil_append]
  split <;> simp

/-- The body of an entry point belongs to one function. -/
theorem inside_singleEntryBody (methods : List BoundMethod) (shape : Shape) :
    Inside (singleEntryBody methods shape) := by
  have hrouting := inside_routing methods shape
  unfold singleEntryBody
  split
  · exact hrouting
  · intro piece hpiece
    simp only [List.cons_append, List.mem_cons, List.mem_append, List.not_mem_nil,
      or_false] at hpiece
    rcases hpiece with rfl | hpiece | rfl | rfl
    · rfl
    · exact hrouting piece hpiece
    · rfl
    · rfl

/-- The functions of the entry point of a shape, with the empty line behind them. -/
def entryFunctions (methods : List BoundMethod) (shape : Shape) : List ClassFunction :=
  if (ofShape methods shape).isEmpty then
    [⟨shape.primitive, [.snippet (unimplemented shape), .line ""]⟩]
  else if shape = .requestChannel then
    [⟨shape.primitive, [.snippet .channelEntry, .line ""]⟩,
     ⟨routerName shape, .line switchHead :: ((routingOutline methods shape).pieces ++ [.line ""])⟩]
  else [⟨shape.primitive, .line (entryHead shape) :: (singleEntryBody methods shape ++ [.line ""])⟩]

theorem inside_blank : Inside [.line ""] := by
  intro piece hpiece
  rw [List.mem_singleton.mp hpiece]
  rfl

/-- The empty line behind a function belongs to it. -/
theorem inside_concat_blank {pieces : List Piece} (h : Inside pieces) :
    Inside (pieces ++ [.line ""]) :=
  List.forall_mem_append.mpr ⟨h, inside_blank⟩

/-- A piece that opens a function starts one. -/
theorem startsFunction_of_opens {piece : Piece} {name : String} (h : piece.opens? = some name)
    (rest : List Piece) : StartsFunction (piece :: rest) := by
  simp [StartsFunction, h]

/-- The outline of every shape starts a function. -/
theorem startsFunction_entry (methods : List BoundMethod) (shape : Shape) (rest : List Piece) :
    StartsFunction ((entryOutline methods shape).pieces ++ rest) := by
  unfold entryOutline
  split
  · exact startsFunction_of_opens (opens?_unimplemented shape) rest
  · split
    · exact startsFunction_of_opens opens?_channelEntry _
    · rw [pieces_singleEntry]
      exact startsFunction_of_opens (opens?_entryHead shape) _

/-- The outline of a shape makes the functions of the shape, if another function starts behind it.
-/
theorem functionsOf_entry (methods : List BoundMethod) (shape : Shape) {rest : List Piece}
    (hrest : StartsFunction rest) :
    functionsOf ((entryOutline methods shape).pieces ++ .line "" :: rest) =
      entryFunctions methods shape ++ functionsOf rest := by
  unfold entryOutline entryFunctions
  split
  · exact functionsOf_cons_append (opens?_unimplemented shape) inside_blank hrest
  · split
    · next hchannel =>
      subst hchannel
      have hrouting := inside_concat_blank (inside_routing methods .requestChannel)
      have hswitch := functionsOf_cons_append opens?_switchHead hrouting hrest
      have hentry := functionsOf_cons_append opens?_channelEntry inside_blank
        (startsFunction_of_opens opens?_switchHead
          ((routingOutline methods .requestChannel).pieces ++ [.line ""] ++ rest))
      simp only [channelEntryOutline, pieces_cons, piece_here, pieces_deeper, List.append_assoc,
        List.cons_append, List.nil_append] at hentry hswitch ⊢
      rw [hentry, hswitch]
    · rw [pieces_singleEntry]
      have hbody := inside_concat_blank (inside_singleEntryBody methods shape)
      have hentry := functionsOf_cons_append (opens?_entryHead shape) hbody hrest
      simpa using hentry

/-- The pieces of a server class in front of its entry points. -/
def serverHead (comments : CommentIndex) (bound : BoundService) : List Piece :=
  [.comment (comments.leadingAt bound.service.location),
   .snippet (.serverHeader (serverName bound.service))] ++
  (traceOutline BoundMethod.serverTrace bound.methods).pieces ++ [.line ""]

/-- The function for metadata pushes, with the comments behind the class. -/
def pushFunction (comments : CommentIndex) (bound : BoundService) : ClassFunction where
  name := "metadata_push"
  body := [.snippet .metadataPushEntry, .comment (comments.trailingAt bound.service.location)]

/-- What stands in front of the entry points is in none of their functions. -/
theorem inside_serverHead (comments : CommentIndex) (bound : BoundService) :
    Inside (serverHead comments bound) := by
  apply inside_concat_blank
  intro piece hpiece
  simp only [traceOutline, Outline.pieces, List.map_map, List.cons_append, List.nil_append,
    List.mem_cons, List.mem_map] at hpiece
  rcases hpiece with rfl | rfl | ⟨method, _, rfl⟩
  · rfl
  · exact opens?_serverHeader _
  · exact opens?_traceBinding _

/-- The pieces of the function for metadata pushes make that function and no other. -/
theorem functionsOf_pushFunction (comments : CommentIndex) (bound : BoundService) :
    functionsOf (pushFunction comments bound).body = [pushFunction comments bound] := by
  have hcomment : Inside [.comment (comments.trailingAt bound.service.location)] := by
    intro piece hpiece
    rw [List.mem_singleton.mp hpiece]
    rfl
  exact functionsOf_cons_append opens?_metadataPushEntry hcomment rfl

/-- **A server class has an entry point for each shape, and one for metadata pushes.** -/
theorem pieces_server (comments : CommentIndex) (bound : BoundService) :
    (serverOutline comments bound).pieces = serverHead comments bound ++
      ((entryOutline bound.methods .fireAndForget).pieces ++ .line "" ::
        ((entryOutline bound.methods .requestResponse).pieces ++ .line "" ::
          ((entryOutline bound.methods .requestStream).pieces ++ .line "" ::
            ((entryOutline bound.methods .requestChannel).pieces ++ .line "" ::
              (pushFunction comments bound).body)))) := by
  simp [serverOutline, serverHead, pushFunction, Shape.all]

/-- A server class has the functions of its four entry points, and one more. -/
theorem functionsOf_server (comments : CommentIndex) (bound : BoundService) :
    functionsOf (serverOutline comments bound).pieces =
      Shape.all.flatMap (entryFunctions bound.methods) ++ [pushFunction comments bound] := by
  have hpush : StartsFunction (pushFunction comments bound).body :=
    startsFunction_of_opens opens?_metadataPushEntry _
  rw [pieces_server, functionsOf_append_of_inside (inside_serverHead comments bound),
    functionsOf_entry _ _ (startsFunction_entry _ _ _),
    functionsOf_entry _ _ (startsFunction_entry _ _ _),
    functionsOf_entry _ _ (startsFunction_entry _ _ _), functionsOf_entry _ _ hpush,
    functionsOf_pushFunction]
  simp [Shape.all]

/-! ## The names of functions -/

/-- The functions of a shape are its entry point and the function with its branches. -/
theorem name_of_mem_entryFunctions {methods : List BoundMethod} {shape : Shape}
    {function : ClassFunction} (h : function ∈ entryFunctions methods shape) :
    function.name = shape.primitive ∨ function.name = routerName shape := by
  unfold entryFunctions at h
  split at h
  · rw [List.mem_singleton.mp h]
    exact .inl rfl
  · split at h
    · simp only [List.mem_cons, List.not_mem_nil, or_false] at h
      rcases h with rfl | rfl
      · exact .inl rfl
      · exact .inr rfl
    · rw [List.mem_singleton.mp h]
      exact .inl rfl

/-- The names of the functions of one shape are none of another. -/
theorem shape_eq_of_name {first second : Shape} {name : String}
    (hfirst : name = first.primitive ∨ name = routerName first)
    (hsecond : name = second.primitive ∨ name = routerName second) : first = second := by
  rcases hfirst with rfl | rfl <;> rcases hsecond with h | h <;>
    cases first <;> cases second <;> simp_all [Shape.primitive, routerName]

/-- No function of a shape is named like the one for metadata pushes. -/
theorem ne_metadata_push {shape : Shape} {name : String}
    (h : name = shape.primitive ∨ name = routerName shape) : name ≠ "metadata_push" := by
  rcases h with rfl | rfl <;> cases shape <;> decide

/-- A function of an entry point is found among the functions of that entry point. -/
theorem find?_functionsOf_server (comments : CommentIndex) (bound : BoundService) (shape : Shape)
    {name : String} (hname : name = shape.primitive ∨ name = routerName shape) :
    (functionsOf (serverOutline comments bound).pieces).find?
        (fun function => function.name == name) =
      (entryFunctions bound.methods shape).find? fun function => function.name == name := by
  have hother : ∀ other, other ≠ shape → (entryFunctions bound.methods other).find?
      (fun function => function.name == name) = none := by
    intro other hne
    rw [List.find?_eq_none]
    intro function hfunction heq
    have hown := name_of_mem_entryFunctions hfunction
    rw [eq_of_beq heq] at hown
    exact hne (shape_eq_of_name hown hname)
  have hpush : ((pushFunction comments bound).name == name) = false :=
    beq_false_of_ne (ne_metadata_push hname).symm
  rw [functionsOf_server]
  cases shape <;>
    simp only [Shape.all, List.flatMap_cons, List.flatMap_nil, List.find?_append, List.find?_nil,
      List.find?_singleton, hpush, hother, Option.or_none, Option.none_or, ne_eq, reduceCtorEq,
      not_false_eq_true, Bool.false_eq_true, if_false]

end StubGen.Stub
