import Mathlib.Data.List.Induction
import StubGen.Proofs.Conversion
import StubGen.Proofs.Keyed
import StubGen.Proofs.Resolution

/-!
# StubGen.Proofs.NodeComments

Which comments a node of a schema file gets.

1. A node is the file, a service or a method, and has a location by its position (`Node.location`).
   The schema of a file has the same locations for its nodes (`recorded?_of_convertFile`).
2. Of the places in the source with the location of a node, the last that has a comment counts
   (`CommentsAt`).  Places for other nodes and places of no node are passed over
   (`get_readComments`), so they do not matter (`get_readComments_congr`).
3. Comments are equal as a whole if they are for each location (`CommentIndex.eq_of_find?_eq`).
-/

namespace StubGen

/-! ## Nodes -/

/-- A node of a schema file, by its position. -/
inductive Node where
  | file
  | service (number : Nat)
  | method (number position : Nat)
deriving DecidableEq, Repr

namespace Node

/-- The location of a node in the source. -/
def location : Node → Location
  | .file => [12]
  | .service number => [6, number]
  | .method number position => [6, number, 2, position]

/-- A node that a compiled file has. -/
def IsIn (file : FileDescriptor) : Node → Prop
  | .file => True
  | .service number => ∃ service, file.services[number]? = some service
  | .method number position => ∃ service method, file.services[number]? = some service ∧
      service.methods[position]? = some method

/-- The location that a schema has for a node. -/
def recorded? (schema : SchemaFile) : Node → Option Location
  | .file => some SchemaFile.location
  | .service number => schema.services[number]?.map Service.location
  | .method number position =>
    (schema.services[number]?.bind fun service => service.methods[position]?).map Method.location

/-- A location belongs to one node at most. -/
theorem location_injective {node other : Node} (h : node.location = other.location) :
    node = other := by
  cases node <;> cases other <;> simp [location] at h ⊢ <;> omega

/-- All nodes with generated code keep their comments. -/
theorem isCommentedNode_location (node : Node) : isCommentedNode node.location = true := by
  cases node <;> rfl

end Node

section

variable {index : TypeIndex} {file : FileDescriptor} {schema : SchemaFile}

/-- A converted method keeps its location. -/
theorem location_of_convertMethod {number : Nat} {entry : MethodDescriptor × Nat}
    {method : Method} (h : convertMethod index number entry = .ok method) :
    method.location = (Node.method number entry.2).location := by
  simp only [convertMethod, bind_eq_ok_iff] at h
  obtain ⟨_, _, _, _, _, _, hmethod⟩ := h
  rw [← Except.ok.inj hmethod]
  rfl

/-- A service is converted to one with its location, and its methods to methods with theirs. -/
theorem locations_of_convertService {package : String} {entry : ServiceDescriptor × Nat}
    {service : Service} (h : convertService index package entry = .ok service) :
    service.location = (Node.service entry.2).location ∧
      ∀ position method, entry.1.methods[position]? = some method →
        ∃ converted, service.methods[position]? = some converted ∧
          converted.location = (Node.method entry.2 position).location := by
  simp only [convertService, bind_eq_ok_iff] at h
  obtain ⟨methods, hmethods, hservice⟩ := h
  rw [← Except.ok.inj hservice]
  refine ⟨rfl, fun position method hmethod => ?_⟩
  obtain ⟨converted, hconverted, hconvert⟩ := exists_getElem?_of_forall₂
    (mapM_eq_ok_iff.mp hmethods) (zipIdx_getElem?_of_getElem? hmethod)
  exact ⟨converted, hconverted, location_of_convertMethod hconvert⟩

/-- The schema of a file has the location of each node of the file. -/
theorem recorded?_of_convertFile (h : convertFile index file = .ok schema) {node : Node}
    (hnode : node.IsIn file) : node.recorded? schema = some node.location := by
  simp only [convertFile, bind_eq_ok_iff] at h
  obtain ⟨services, hservices, hschema⟩ := h
  rw [← Except.ok.inj hschema]
  have hservice {number : Nat} {service : ServiceDescriptor}
      (hmem : file.services[number]? = some service) :=
    exists_getElem?_of_forall₂ (mapM_eq_ok_iff.mp hservices) (zipIdx_getElem?_of_getElem? hmem)
  cases node with
  | file => rfl
  | service number =>
      obtain ⟨service, hmem⟩ := hnode
      obtain ⟨converted, hconverted, hconvert⟩ := hservice hmem
      simp [Node.recorded?, hconverted, (locations_of_convertService hconvert).1]
  | method number position =>
      obtain ⟨service, method, hmem, hmethod⟩ := hnode
      obtain ⟨converted, hconverted, hconvert⟩ := hservice hmem
      obtain ⟨found, hfound, hlocation⟩ :=
        (locations_of_convertService hconvert).2 position method hmethod
      simp [Node.recorded?, hconverted, hfound, hlocation]

end

/-! ## Comments by location -/

namespace CommentIndex

/-- An entry counts for its location, and for no other. -/
theorem get_insert (index : CommentIndex) (entry : Location × NodeComments) (location : Location) :
    (index.insert entry).get location =
      if entry.1 = location then entry.2 else index.get location := by
  have hfind : (index.insert entry).entries.find? (fun other => other.1 == location) =
      if entry.1 = location then some entry
      else index.entries.find? fun other => other.1 == location :=
    find?_insertSorted index.ascending location
  rw [get, hfind]
  by_cases h : entry.1 = location
  · rw [if_pos h, if_pos h]
  · rw [if_neg h, if_neg h, get]

/-- Of the entries for a location, the last counts. -/
theorem get_ofList (entries : List (Location × NodeComments)) (location : Location) :
    (ofList entries).get location =
      ((entries.reverse.find? fun entry => entry.1 == location).map Prod.snd).getD {} := by
  induction entries using List.reverseRecOn with
  | nil => rfl
  | append_singleton entries entry ih =>
      rw [ofList, List.foldl_concat, get_insert, ← ofList, ih, List.reverse_concat]
      by_cases h : entry.1 = location
      · simp [h]
      · rw [if_neg h, List.find?_cons_of_neg (by simpa using h)]

/-- Indexes with the same entry, or none, for every location are equal.  The order in which comments
were read leaves no trace in them. -/
theorem eq_of_find?_eq {first second : CommentIndex}
    (h : ∀ location, first.entries.find? (fun entry => entry.1 == location) =
      second.entries.find? fun entry => entry.1 == location) : first = second := by
  have hentries := StubGen.eq_of_find?_eq first.ascending second.ascending h
  cases first
  cases second
  simpa using hentries

end CommentIndex

/-- A place with a location and with some comment. -/
def SourceLocation.CommentsOn (place : SourceLocation) (location : Location) : Prop :=
  place.path = location ∧ (place.leading ≠ "" ∨ place.trailing ≠ "" ∨ place.detached ≠ [])

/-- The comments on a location: those of the last place with a comment on it, or none. -/
inductive CommentsAt (places : List SourceLocation) (location : Location) : NodeComments → Prop
  | last {place : SourceLocation} (h : IsLast (SourceLocation.CommentsOn · location) places place) :
      CommentsAt places location place.comments
  | absent (h : ∀ place ∈ places, ¬ place.CommentsOn location) : CommentsAt places location {}

/-- Whether a place has a location and some comment. -/
def SourceLocation.commentsOn (location : Location) (place : SourceLocation) : Bool :=
  place.path == location && place.hasComment

theorem SourceLocation.commentsOn_iff {location : Location} {place : SourceLocation} :
    place.commentsOn location = true ↔ place.CommentsOn location := by
  simp [SourceLocation.commentsOn, SourceLocation.CommentsOn, SourceLocation.hasComment, or_assoc]

/-- A place makes an entry for a node exactly if it has a comment on it. -/
theorem SourceLocation.any_entry? {location : Location} (h : isCommentedNode location = true)
    (place : SourceLocation) :
    (place.entry?.any fun entry => entry.1 == location) = place.commentsOn location := by
  by_cases hpath : place.path = location
  · cases hcomment : place.hasComment <;>
      simp [SourceLocation.entry?, SourceLocation.commentsOn, hpath, h, hcomment]
  · cases hkept : isCommentedNode place.path && place.hasComment <;>
      simp [SourceLocation.entry?, SourceLocation.commentsOn, hpath, hkept]

/-- A place that comments on a node makes an entry for it. -/
theorem SourceLocation.entry?_of_commentsOn {location : Location}
    (h : isCommentedNode location = true) {place : SourceLocation}
    (hplace : place.commentsOn location = true) :
    place.entry? = some (location, place.comments) := by
  simp only [SourceLocation.commentsOn, Bool.and_eq_true, beq_iff_eq] at hplace
  simp [SourceLocation.entry?, hplace, h]

/-- The comments of a node are those of the last place with a comment on it. -/
theorem get_readComments (file : FileDescriptor) {location : Location}
    (h : isCommentedNode location = true) :
    (readComments file).get location =
      ((file.places.reverse.find? (SourceLocation.commentsOn location)).map
        SourceLocation.comments).getD {} := by
  rw [readComments, CommentIndex.get_ofList, ← List.filterMap_reverse, List.find?_filterMap]
  simp only [SourceLocation.any_entry? h]
  cases hfind : file.places.reverse.find? (SourceLocation.commentsOn location) with
  | none => simp
  | some place =>
      simp [SourceLocation.entry?_of_commentsOn h (List.find?_some hfind)]

/-- **The comments that are kept for a node are those on it in the source**: the last place that
comments on it counts. -/
theorem commentsAt_get_readComments (file : FileDescriptor) {location : Location}
    (h : isCommentedNode location = true) :
    CommentsAt file.places location ((readComments file).get location) := by
  rw [get_readComments file h]
  cases hfind : file.places.reverse.find? (SourceLocation.commentsOn location) with
  | none =>
      refine .absent fun place hplace => ?_
      have hnone := List.find?_eq_none.mp hfind place (List.mem_reverse.mpr hplace)
      rwa [SourceLocation.commentsOn_iff] at hnone
  | some place =>
      refine .last ?_
      simpa only [SourceLocation.commentsOn_iff] using find?_reverse_eq_some_iff_isLast.mp hfind

/-- The places with a location, in order. -/
def placesAt (location : Location) (places : List SourceLocation) : List SourceLocation :=
  places.filter fun place => place.path == location

/-- Places with other locations do not matter. -/
theorem get_readComments_congr {file other : FileDescriptor} {location : Location}
    (h : isCommentedNode location = true)
    (hplaces : placesAt location file.places = placesAt location other.places) :
    (readComments file).get location = (readComments other).get location := by
  have hfind (places : List SourceLocation) :
      places.reverse.find? (SourceLocation.commentsOn location) =
        (placesAt location places).reverse.find? SourceLocation.hasComment := by
    rw [placesAt, ← List.filter_reverse, List.find?_filter]
    congr 1
    funext place
    rw [Bool.eq_iff_iff]
    simp [SourceLocation.commentsOn]
  rw [get_readComments file h, get_readComments other h, hfind, hfind, hplaces]

/-! ## Files with other places -/

/-- The places in the source of a file have no part in its conversion but for the comments. -/
theorem convertFile_withSourceInfo (index : TypeIndex) (file : FileDescriptor)
    (info : Option (List SourceLocation)) :
    convertFile index { file with sourceInfo := info } =
      (convertFile index file).map fun schema =>
        { schema with comments := readComments { file with sourceInfo := info } } := by
  unfold convertFile
  cases file.services.zipIdx.mapM (convertService index file.package) <;> rfl

/-- A converted file keeps the comments that were read. -/
theorem comments_of_convertFile {index : TypeIndex} {file : FileDescriptor} {schema : SchemaFile}
    (h : convertFile index file = .ok schema) : schema.comments = readComments file := by
  simp only [convertFile, bind_eq_ok_iff] at h
  obtain ⟨services, _, hschema⟩ := h
  rw [← Except.ok.inj hschema]

/-- **Every node gets exactly its own comments.**  The schema of a file has a location for each
node, which no other node has, and under that location the comments of the last place in the source
with a comment there, or none.  Whatever happens to the places with other locations, be they added,
removed, changed or put elsewhere, the comments of the node stay the same. -/
theorem node_comments_exact {index : TypeIndex} {file : FileDescriptor} {schema : SchemaFile}
    (h : convertFile index file = .ok schema) {node : Node} (hnode : node.IsIn file) :
    node.recorded? schema = some node.location ∧
    (∀ other : Node, other.location = node.location → other = node) ∧
    CommentsAt file.places node.location (schema.comments.get node.location) ∧
    ∀ info : Option (List SourceLocation),
      placesAt node.location (info.getD []) = placesAt node.location file.places →
      ∃ changed, convertFile index { file with sourceInfo := info } = .ok changed ∧
        node.recorded? changed = some node.location ∧
        changed.comments.get node.location = schema.comments.get node.location := by
  have hkept := node.isCommentedNode_location
  rw [comments_of_convertFile h]
  refine ⟨recorded?_of_convertFile h hnode, fun other => Node.location_injective,
    commentsAt_get_readComments file hkept, fun info hplaces => ?_⟩
  have hchanged := convertFile_withSourceInfo index file info
  rw [h] at hchanged
  exact ⟨_, hchanged, recorded?_of_convertFile hchanged hnode, get_readComments_congr hkept hplaces⟩

/-- A method has comments twice, and then once more a place without any. -/
def notedPlaces : List SourceLocation :=
  [{ path := [6, 0, 2, 1], leading := " First.\n" },
   { path := [6, 0, 2, 1, 4], leading := " Of its options.\n" },
   { path := [6, 0, 2, 1], trailing := " Second.\n", detached := [""] },
   { path := [6, 0, 2, 1] }]

/-- The places of the method among others, which are for other nodes or for none. -/
def crowdedPlaces : List SourceLocation :=
  [{ path := [], leading := " Nowhere.\n" },
   { path := [6, 0, 2, 1], leading := " First.\n" },
   { path := [6, 0, 2, 1], trailing := " Second.\n", detached := [""] },
   { path := [6, 0, 2, -1], leading := " Before the first.\n" },
   { path := [6, 0, 2, 1] },
   { path := [6, 0, 2, 0], leading := " Another method.\n" }]

/-- A file with two methods. -/
def notedFile : FileDescriptor where
  name := "noted.proto"
  services := [{ name := "Noted", methods :=
    [{ name := "Say", inputType := ".Text", outputType := ".Text" },
     { name := "Hear", inputType := ".Text", outputType := ".Text" }] }]
  sourceInfo := some notedPlaces

theorem node_comments_exact_crowded :
    ∃ schema crowded, convertFile [⟨"Text", "text.proto", ""⟩] notedFile = .ok schema ∧
      (Node.method 0 1).IsIn notedFile ∧
      CommentsAt notedPlaces [6, 0, 2, 1] ⟨"", " Second.\n", [""]⟩ ∧
      convertFile [⟨"Text", "text.proto", ""⟩]
        { notedFile with sourceInfo := some crowdedPlaces } = .ok crowded ∧
      crowded.comments.get [6, 0, 2, 1] = ⟨"", " Second.\n", [""]⟩ := by
  have hconverts : (convertFile [⟨"Text", "text.proto", ""⟩] notedFile).toBool = true := by decide
  cases hschema : convertFile [⟨"Text", "text.proto", ""⟩] notedFile with
  | error error =>
      rw [hschema] at hconverts
      contradiction
  | ok schema =>
      have hnode : (Node.method 0 1).IsIn notedFile := ⟨_, _, rfl, rfl⟩
      have hcomments : schema.comments.get [6, 0, 2, 1] = ⟨"", " Second.\n", [""]⟩ := by
        rw [comments_of_convertFile hschema]
        decide
      obtain ⟨_, _, hat, hothers⟩ := node_comments_exact hschema hnode
      obtain ⟨crowded, hcrowded, _, hsame⟩ := hothers (some crowdedPlaces) (by decide)
      exact ⟨schema, crowded, rfl, hnode, hcomments ▸ hat, hcrowded, hsame.trans hcomments⟩

end StubGen
