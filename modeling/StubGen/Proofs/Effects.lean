import Mathlib.Order.Defs.Unbundled
import StubGen.Proofs.FileTree
import StubGen.Run.Basic

/-!
# StubGen.Proofs.Effects

What actions may do to a file system, whether they fail or not.  An action respects a relation
between file systems if what it leaves behind is always related to what it found
(`Action.Respects`).  For a relation that can be composed it is enough to look at the parts of an
action (`Action.Respects.bind`).

Two such relations bound what was changed:

1. `FileTree.SameOutside`: all that lies outside of a region is as it was;
2. `FileTree.FilesFrom`: all files that are new or different are at given places.
-/

namespace StubGen

/-! ## Relations between file systems -/

namespace FileTree

/-- Two file systems are the same at all places but those in a region. -/
def SameOutside (region : Place → Prop) (before after : FileTree) : Prop :=
  ∀ spot, ¬ region spot → after.get? spot = before.get? spot

instance (region : Place → Prop) : IsPreorder FileTree (SameOutside region) where
  refl _ _ _ := rfl
  trans _ _ _ hfirst hsecond spot hspot := (hsecond spot hspot).trans (hfirst spot hspot)

/-- The files that are in the second file system but not, or not like that, in the first are at
given places. -/
def FilesFrom (allowed : Place → Prop) (before after : FileTree) : Prop :=
  ∀ spot data, after.get? spot = some (.file data) →
    before.get? spot = some (.file data) ∨ allowed spot

instance (allowed : Place → Prop) : IsPreorder FileTree (FilesFrom allowed) where
  refl _ _ _ hfile := .inl hfile
  trans _ _ _ hfirst hsecond spot data hfile := by
    rcases hsecond spot data hfile with hbetween | hallowed
    · exact hfirst spot data hbetween
    · exact .inr hallowed

/-- Files may be allowed in more places. -/
theorem FilesFrom.mono {allowed wider : Place → Prop} {before after : FileTree}
    (h : FilesFrom allowed before after) (hwider : ∀ spot, allowed spot → wider spot) :
    FilesFrom wider before after := by
  intro spot data hfile
  rcases h spot data hfile with hbefore | hallowed
  · exact .inl hbefore
  · exact .inr (hwider spot hallowed)

/-- What is the same outside a region can have new files in the region only. -/
theorem SameOutside.filesFrom {region : Place → Prop} {before after : FileTree}
    (h : SameOutside region before after) : FilesFrom region before after := by
  intro spot data hfile
  by_cases hspot : region spot
  · exact .inr hspot
  · rw [h spot hspot] at hfile
    exact .inl hfile

/-- New directories change the places where they are. -/
theorem AddsDirectories.sameOutside {allowed : Place → Prop} {before after : FileTree}
    (h : AddsDirectories allowed before after) : SameOutside allowed before after := by
  intro spot hspot
  rcases h spot with hsame | ⟨hallowed, _⟩
  · exact hsame
  · exact absurd hallowed hspot

/-- New directories are no files. -/
theorem AddsDirectories.filesFrom {made allowed : Place → Prop} {before after : FileTree}
    (h : AddsDirectories made before after) : FilesFrom allowed before after :=
  fun _ _ hfile => .inl (h.get?_eq_file_iff.mp hfile)

/-- An entry is put in one place. -/
theorem sameOutside_put (tree : FileTree) (added : Place) (entry : Entry) :
    SameOutside (· = added) tree (tree.put added entry) := by
  intro spot hspot
  by_cases hnil : spot = []
  · subst hnil
    rfl
  · rw [get?_put hnil, if_neg hspot]

/-- Writing a file changes nothing but what is at its place. -/
theorem sameOutside_of_write {tree written : FileTree} {workingDirectory path : String}
    {data : Bytes} (h : tree.write workingDirectory path data = .ok written) :
    SameOutside (· = Path.place workingDirectory path) tree written := by
  obtain ⟨_, rfl⟩ := write_eq_ok_iff.mp h
  exact sameOutside_put tree _ _

end FileTree

/-! ## Actions -/

namespace Action

/-- What an action leaves behind is related to what it found. -/
def Respects (related : FileTree → FileTree → Prop) (here : Site) (action : Action α) : Prop :=
  ∀ world, related world.tree (action here world).2.tree

/-- A chain of actions succeeds if all of them do, each on what the one before has left behind. -/
theorem bind_apply_eq_ok_iff {action : Action α} {next : α → Action β} {here : Site}
    {world last : World} {b : β} :
    (action >>= next) here world = (.ok b, last) ↔
      ∃ a between, action here world = (.ok a, between) ∧ next a here between = (.ok b, last) := by
  cases hresult : action here world with
  | mk result between =>
      cases result with
      | error failure => simp [bind_of_error hresult]
      | ok a =>
          rw [bind_of_ok hresult]
          constructor
          · exact fun h => ⟨a, between, rfl, h⟩
          · rintro ⟨_, _, ⟨⟩, h⟩
            exact h

theorem pure_apply_eq_ok_iff {a b : α} {here : Site} {world last : World} :
    (pure a : Action α) here world = (.ok b, last) ↔ a = b ∧ world = last := by
  rw [pure_apply, Prod.mk.injEq, Except.ok.injEq]

/-- A result that is passed on leaves everything as it is. -/
theorem ofExcept_eq_ok_iff {failure : ε → Failure} {result : Except ε α} {a : α} {here : Site}
    {world last : World} :
    ofExcept failure result here world = (.ok a, last) ↔ result = .ok a ∧ world = last := by
  cases result <;> simp

/-- Reading changes nothing. -/
theorem readFile_eq_ok_iff {path : String} {data : Bytes} {here : Site} {world last : World} :
    readFile path here world = (.ok data, last) ↔
      world.tree.read here.workingDirectory path = .ok data ∧ last = world := by
  rw [readFile, site_bind, tree_bind]
  cases world.tree.read here.workingDirectory path <;> simp [eq_comm]

/-- A change of the file system that may fail changes nothing else. -/
theorem ofExcept_bind_setTree_eq_ok_iff {failure : ε → Failure} {change : Except ε FileTree}
    {here : Site} {world last : World} {done : Unit} :
    (ofExcept failure change >>= setTree) here world = (.ok done, last) ↔
      ∃ changed, change = .ok changed ∧ last = { world with tree := changed } := by
  cases change with
  | error problem => simp [bind_of_error (ofExcept_error _ _)]
  | ok changed => simp [bind_of_ok (ofExcept_ok _ _), setTree, eq_comm]

/-- Writing changes the file system only. -/
theorem writeFile_eq_ok_iff {path : String} {data : Bytes} {here : Site} {world last : World}
    {done : Unit} :
    writeFile path data here world = (.ok done, last) ↔
      ∃ written, world.tree.write here.workingDirectory path data = .ok written ∧
        last = { world with tree := written } := by
  rw [writeFile, site_bind, tree_bind]
  exact ofExcept_bind_setTree_eq_ok_iff

/-- Removing changes the file system only. -/
theorem removeFile_eq_ok_iff {path : String} {here : Site} {world last : World} {done : Unit} :
    removeFile path here world = (.ok done, last) ↔
      ∃ rest, world.tree.remove here.workingDirectory path = .ok rest ∧
        last = { world with tree := rest } := by
  rw [removeFile, site_bind, tree_bind]
  exact ofExcept_bind_setTree_eq_ok_iff

/-- Making directories changes the file system only. -/
theorem makeDirectories_eq_ok_iff {path : String} {here : Site} {world last : World}
    {done : Unit} :
    makeDirectories path here world = (.ok done, last) ↔
      ∃ made, world.tree.ensureDirectories here.workingDirectory path = (made, none) ∧
        last = { world with tree := made } := by
  rw [makeDirectories, site_bind, tree_bind]
  cases world.tree.ensureDirectories here.workingDirectory path with
  | mk made problem =>
      have hset : setTree made here world = (.ok (), { world with tree := made }) := rfl
      rw [bind_of_ok hset]
      cases problem <;> simp [fail, eq_comm]

/-- A command that cannot be started is recorded all the same. -/
theorem start_of_error {command : List String} {here : Site} {world : World} {problem : LaunchError}
    (h : here.programs command world.tree = .error problem) :
    start command here world =
      (.ok (.error problem), { world with commands := world.commands ++ [command] }) := by
  simp only [start, h]

/-- A command that was started leaves behind what it has made of the file system. -/
theorem start_of_ok {command : List String} {here : Site} {world : World} {finished : Finished}
    {after : FileTree}
    (h : here.programs command world.tree = .ok (finished, after)) :
    start command here world =
      (.ok (.ok finished),
        { world with commands := world.commands ++ [command], tree := after }) := by
  simp only [start, h]

/-- An action that leaves every file system alone leaves this one alone. -/
theorem tree_eq_of_respects {action : Action α} {here : Site} (h : Respects Eq here action)
    {world world' : World} {result : Except Failure α}
    (hresult : action here world = (result, world')) : world'.tree = world.tree := by
  have htree := h world
  rw [hresult] at htree
  exact htree.symm

/-- It is enough to look at what is done at this very site. -/
theorem respects_site_bind {related : FileTree → FileTree → Prop} {here : Site}
    {next : Site → Action β} (h : Respects related here (next here)) :
    Respects related here (site >>= next) := h

variable {related : FileTree → FileTree → Prop} [IsPreorder FileTree related] {here : Site}

/-- An action that goes on only where another one has succeeded. -/
theorem related_bind {action : Action α} {next : α → Action β} {world : World}
    (h : related world.tree (action here world).2.tree)
    (hnext : ∀ a world', action here world = (.ok a, world') →
      related world'.tree (next a here world').2.tree) :
    related world.tree ((action >>= next) here world).2.tree := by
  obtain ⟨result, world', hresult⟩ : ∃ result world', action here world = (result, world') :=
    ⟨_, _, rfl⟩
  rw [hresult] at h
  cases result with
  | error failure => rwa [bind_of_error hresult]
  | ok a =>
      rw [bind_of_ok hresult]
      exact trans_of related h (hnext a world' hresult)

/-- **What a chain of actions does**: if each of them changes the file system as `related` allows,
then so does the chain, also where it ends early. -/
theorem Respects.bind {action : Action α} {next : α → Action β}
    (h : Respects related here action) (hnext : ∀ a, Respects related here (next a)) :
    Respects related here (action >>= next) :=
  fun world => related_bind (h world) fun a world' _ => hnext a world'

theorem respects_pure (a : α) : Respects related here (pure a) :=
  fun world => refl_of related world.tree

theorem respects_fail (failure : Failure) : Respects related here (fail failure : Action α) :=
  fun world => refl_of related world.tree

theorem respects_note (records : List LogRecord) : Respects related here (note records) :=
  fun world => refl_of related world.tree

theorem respects_tree : Respects related here tree :=
  fun world => refl_of related world.tree

/-- Passing on a result, or a failure, changes nothing. -/
theorem respects_ofExcept (failure : ε → Failure) (result : Except ε α) :
    Respects related here (ofExcept failure result) := by
  cases result with
  | ok a => exact respects_pure a
  | error error => exact respects_fail (failure error)

theorem respects_readFile (path : String) : Respects related here (readFile path) :=
  respects_site_bind (respects_tree.bind fun _ => respects_ofExcept _ _)

/-- A change of the file system that may fail does what the change does, or nothing. -/
theorem related_ofExcept_bind_setTree {failure : ε → Failure} {change : Except ε FileTree}
    {world : World} (h : ∀ changed, change = .ok changed → related world.tree changed) :
    related world.tree ((ofExcept failure change >>= setTree) here world).2.tree := by
  cases change with
  | error problem => exact refl_of related world.tree
  | ok changed => exact h changed rfl

/-- Writing does what a successful write does, or nothing. -/
theorem respects_writeFile {path : String} {data : Bytes}
    (h : ∀ tree written, tree.write here.workingDirectory path data = .ok written →
      related tree written) : Respects related here (writeFile path data) := by
  intro world
  rw [writeFile, site_bind, tree_bind]
  exact related_ofExcept_bind_setTree (h world.tree)

/-- Removing does what a successful removal does, or nothing. -/
theorem respects_removeFile {path : String}
    (h : ∀ tree rest, tree.remove here.workingDirectory path = .ok rest → related tree rest) :
    Respects related here (removeFile path) := by
  intro world
  rw [removeFile, site_bind, tree_bind]
  exact related_ofExcept_bind_setTree (h world.tree)

/-- The file system after directories were made, whether that has failed at some point or not. -/
theorem makeDirectories_tree (path : String) (here : Site) (world : World) :
    (makeDirectories path here world).2.tree =
      (world.tree.ensureDirectories here.workingDirectory path).1 := by
  rw [makeDirectories, site_bind, tree_bind]
  cases hproblem : (world.tree.ensureDirectories here.workingDirectory path).2 <;> rfl

/-- A command does what its program does, or nothing. -/
theorem respects_start {command : List String}
    (h : ∀ tree finished after, here.programs command tree = .ok (finished, after) →
      related tree after) : Respects related here (start command) := by
  intro world
  rw [start]
  cases hplay : here.programs command world.tree with
  | error problem => exact refl_of related world.tree
  | ok ended =>
      obtain ⟨finished, after⟩ := ended
      exact h world.tree finished after hplay

/-- A loop does what its steps do. -/
theorem respects_foldlM {step : β → α → Action β} (h : ∀ b a, Respects related here (step b a))
    (elements : List α) (b : β) : Respects related here (elements.foldlM step b) := by
  induction elements generalizing b with
  | nil => exact respects_pure b
  | cons a rest ih =>
      rw [List.foldlM_cons]
      exact (h b a).bind ih

end Action

/-! ## Loading -/

namespace Load

variable {related : FileTree → FileTree → Prop} [IsPreorder FileTree related] {here : Site}

open StubGen.Action

/-- Converting schemas changes no files. -/
theorem respects_schemasOf (data : Bytes) (selected : Option (List String)) :
    Respects related here (schemasOf data selected) := by
  unfold schemasOf
  cases descriptorSet? data with
  | none => exact respects_fail _
  | some files => exact (respects_note _).bind fun _ => respects_ofExcept _ _

/-- Loading a descriptor set changes no files. -/
theorem respects_loadSet (loaded : List SchemaFile) (path : String) :
    Respects related here (loadSet loaded path) :=
  respects_site_bind <| (respects_readFile _).bind fun _ =>
    (respects_schemasOf _ _).bind fun _ => respects_pure _

/-- Looking for schema files changes none. -/
theorem respects_schemaFileNames (settings : Settings) :
    Respects related here (schemaFileNames settings) :=
  respects_site_bind <| respects_tree.bind fun _ =>
    (respects_ofExcept _ _).bind fun _ => respects_pure _

/-- The file for compiled schemas. -/
def compiledFile (site : Site) : String :=
  Path.join site.temporaryDirectory "descriptors.pb"

/-- The schema compiler may do to the file system what it is allowed to. -/
theorem respects_compile {importPaths files : List String}
    (h : ∀ compiler tree finished after,
      here.programs (compileCommand compiler (compiledFile here) importPaths files) tree =
        .ok (finished, after) → related tree after)
    (compiler : Setting (Option String)) :
    Respects related here (compile compiler (compiledFile here) importPaths files) := by
  refine (respects_ofExcept _ _).bind fun name => (respects_note _).bind fun _ => ?_
  refine (respects_start (h name)).bind fun result => ?_
  cases result with
  | ok finished =>
      simp only
      split
      · exact respects_fail _
      · exact respects_pure _
  | error problem =>
      cases problem with
      | system message | other message => exact respects_fail _
      | path error =>
          simp only
          split <;> exact respects_fail _

end Load

/-! ## Outputs -/

namespace Run

/-- Generating stubs changes no files. -/
theorem respects_generate {related : FileTree → FileTree → Prop} [IsPreorder FileTree related]
    {here : Site} (files : List SchemaFile) :
    Action.Respects related here (generate files) :=
  (Action.respects_note _).bind fun _ => Action.respects_ofExcept _ _

-- These equations are stated here because it takes long to derive them from the definitions, where
-- an action is a function; for the same reason `rfl` stands in brackets, which keeps it from simp.
theorem removeAll_cons (path : String) (rest : List String) :
    removeAll (path :: rest) = Action.removeFile path >>= fun _ => removeAll rest :=
  (rfl)

theorem writeOutputs_cons (settings : Settings) (directory : String) (output : Stub.Output)
    (rest : List Stub.Output) :
    writeOutputs settings directory (output :: rest) =
      writeOutput settings directory output >>= fun path =>
        writeOutputs settings directory rest >>= fun paths => pure (path :: paths) :=
  (rfl)

end Run

end StubGen
