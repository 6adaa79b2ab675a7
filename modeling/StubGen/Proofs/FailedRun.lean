import StubGen.Proofs.Effects
import StubGen.Proofs.Imports
import StubGen.Proofs.Response

/-!
# StubGen.Proofs.FailedRun

What a run leaves behind if there is nothing to write.

1. A run first removes the files that it is asked to clean up, and nothing else
   (`removes_of_clean`).
2. Loading schemas changes nothing (`sameOutside_load`): the schema compiler works in a temporary
   directory, which is removed in any case.
3. All modules are generated before the first is written.

So a run that cannot load its schemas, or cannot generate a module of any of them, has done nothing
but clean up (`failed_generation_writes_nothing`).
-/

namespace StubGen

open StubGen.Path (place)

/-! ## Cleaning up -/

/-- The second file system is the first without the files at the given places. -/
structure FileTree.Removes (gone : Place → Prop) (before after : FileTree) : Prop where
  file : ∀ spot, gone spot → ∃ data, before.get? spot = some (.file data)
  removed : ∀ spot, gone spot → after.get? spot = none
  others : ∀ spot, ¬ gone spot → after.get? spot = before.get? spot

namespace FileTree

/-- A file is removed from its place. -/
theorem removes_of_remove {tree rest : FileTree} {workingDirectory path : String}
    (h : tree.remove workingDirectory path = .ok rest) :
    Removes (· = place workingDirectory path) tree rest := by
  unfold remove at h
  cases hlookup : tree.lookup workingDirectory path with
  | error cause => simp [hlookup] at h
  | ok found =>
      obtain ⟨found, entry⟩ := found
      obtain ⟨hfound, hget⟩ := get?_place_of_lookup hlookup
      rw [← hfound] at hget ⊢
      cases entry with
      | directory => simp [hlookup] at h
      | file data =>
          simp only [hlookup, Except.ok.injEq] at h
          subst h
          -- the top is a directory, and no file
          have hne : found ≠ [] := by
            intro hnil
            rw [hnil, get?_top] at hget
            simp at hget
          refine ⟨?_, ?_, ?_⟩
          · rintro spot rfl
            exact ⟨data, hget⟩
          · rintro spot rfl
            rw [get?_erase hne, if_pos rfl]
          · intro spot hspot
            by_cases hnil : spot = []
            · subst hnil
              rfl
            · rw [get?_erase hnil, if_neg hspot]

namespace Removes

variable {gone more : Place → Prop} {before between after : FileTree}

theorem refl (tree : FileTree) : Removes (fun _ => False) tree tree :=
  ⟨fun _ h => h.elim, fun _ h => h.elim, fun _ _ => rfl⟩

/-- What two steps remove is gone after both. -/
theorem trans (hfirst : Removes gone before between) (hsecond : Removes more between after) :
    Removes (fun spot => gone spot ∨ more spot) before after := by
  have hmore (spot : Place) (hspot : more spot) : ¬ gone spot := by
    intro hgone
    obtain ⟨data, hfile⟩ := hsecond.file spot hspot
    rw [hfirst.removed spot hgone] at hfile
    contradiction
  refine ⟨?_, ?_, ?_⟩
  · rintro spot (hgone | hspot)
    · exact hfirst.file spot hgone
    · rw [← hfirst.others spot (hmore spot hspot)]
      exact hsecond.file spot hspot
  · rintro spot (hgone | hspot)
    · rw [hsecond.others spot fun hspot => hmore spot hspot hgone]
      exact hfirst.removed spot hgone
    · exact hsecond.removed spot hspot
  · intro spot hspot
    obtain ⟨hgone, hother⟩ := not_or.mp hspot
    rw [hsecond.others spot hother, hfirst.others spot hgone]

theorem congr (h : Removes gone before after) (hgone : ∀ spot, gone spot ↔ more spot) :
    Removes more before after := by
  obtain rfl : gone = more := funext fun spot => propext (hgone spot)
  exact h

/-- Nothing comes back where nothing changes. -/
theorem of_same (h : Removes gone before between)
    (hsame : SameOutside (fun _ => False) between after) : Removes gone before after := by
  refine ⟨h.file, ?_, ?_⟩
  · intro spot hspot
    rw [hsame spot not_false, h.removed spot hspot]
  · intro spot hspot
    rw [hsame spot not_false, h.others spot hspot]

/-- Only files are removed. -/
theorem keepsDirectories (h : Removes gone before after) : KeepsDirectories before after := by
  intro spot hspot
  have hgone : ¬ gone spot := by
    intro hgone
    obtain ⟨data, hfile⟩ := h.file spot hgone
    rw [hspot] at hfile
    simp at hfile
  rw [h.others spot hgone, hspot]

end Removes

end FileTree

/-- A setting that is needed and given is the one listed. -/
theorem Setting.listed_of_needed {setting : Setting (List α)} {name : String} {values : List α}
    (h : setting.needed name = .ok values) : setting.listed = values := by
  cases setting with
  | given others => exact Except.ok.inj h
  | blank | absent => cases h

/-- A setting that has to be answered says yes if the answer does. -/
theorem Setting.isYes_of_answered {setting : Setting Bool} {name : String} {answer : Bool}
    (h : setting.answered name = .ok answer) : setting.isYes = answer := by
  cases setting with
  | given other =>
      obtain rfl : other = answer := Except.ok.inj h
      cases other <;> rfl
  | blank => exact Except.ok.inj h
  | absent => cases h

namespace Run

open FileTree

/-- Removing some paths removes what is at their places. -/
theorem removes_of_removeAll {paths : List String} {here : Site} {world world' : World}
    (h : removeAll paths here world = (.ok (), world')) :
    Removes (fun spot => ∃ path ∈ paths, spot = place here.workingDirectory path) world.tree
      world'.tree := by
  induction paths generalizing world with
  | nil =>
      obtain rfl : world = world' := congrArg Prod.snd h
      exact (Removes.refl world.tree).congr (by simp)
  | cons path rest ih =>
      rw [removeAll_cons] at h
      obtain ⟨_, between, hremove, hrest⟩ := Action.bind_apply_eq_ok_iff.mp h
      obtain ⟨tree, htree, hbetween⟩ := Action.removeFile_eq_ok_iff.mp hremove
      have hfirst : Removes (· = place here.workingDirectory path) world.tree between.tree := by
        rw [hbetween]
        exact removes_of_remove htree
      exact (hfirst.trans (ih hrest)).congr (by simp)

/-- The places of all that the patterns in the settings of a run stand for. -/
def MarkedForCleaning (settings : Settings) (here : Site) (tree : FileTree) (spot : Place) : Prop :=
  ∃ pattern ∈ settings.clean.listed, ∃ found,
    Glob.Scope.expand ⟨tree, here.workingDirectory, settings.recursive.isYes⟩
      (Path.join here.workingDirectory pattern) = .ok found ∧
    ∃ path ∈ found, spot = place here.workingDirectory path

/-- The paths to clean up are those that the patterns stand for. -/
theorem mem_cleanPaths {scope : Glob.Scope} {patterns paths : List String}
    (h : cleanPaths scope patterns = .ok paths) (path : String) :
    path ∈ paths ↔ ∃ pattern ∈ patterns, ∃ found,
      scope.expand (Path.join scope.workingDirectory pattern) = .ok found ∧ path ∈ found := by
  induction patterns generalizing paths with
  | nil =>
      obtain rfl : [] = paths := Except.ok.inj h
      simp
  | cons pattern rest ih =>
      unfold cleanPaths at h
      split at h
      · cases h
      · next found hexpand =>
          obtain ⟨others, hothers, rfl⟩ := map_eq_ok_iff.mp h
          rw [List.mem_append, ih hothers]
          simp [hexpand]

/-- Cleaning up removes what the patterns stand for, and nothing else. -/
theorem removes_of_clean {settings : Settings} {here : Site} {world cleaned : World}
    (h : clean settings here world = (.ok (), cleaned)) :
    Removes (MarkedForCleaning settings here world.tree) world.tree cleaned.tree := by
  rw [clean, Action.site_bind, Action.tree_bind] at h
  obtain ⟨patterns, _, hpatterns, h⟩ := Action.bind_apply_eq_ok_iff.mp h
  obtain ⟨hneeded, rfl⟩ := Action.ofExcept_eq_ok_iff.mp hpatterns
  have hlisted := Setting.listed_of_needed hneeded
  split at h
  · next hempty =>
      obtain ⟨_, rfl⟩ := Action.pure_apply_eq_ok_iff.mp h
      refine (Removes.refl world.tree).congr fun spot => ?_
      simp [MarkedForCleaning, hlisted, List.isEmpty_iff.mp hempty]
  · obtain ⟨recursive, _, hrecursive, h⟩ := Action.bind_apply_eq_ok_iff.mp h
    obtain ⟨hanswered, rfl⟩ := Action.ofExcept_eq_ok_iff.mp hrecursive
    obtain ⟨paths, _, hpaths, h⟩ := Action.bind_apply_eq_ok_iff.mp h
    obtain ⟨hfound, rfl⟩ := Action.ofExcept_eq_ok_iff.mp hpaths
    refine (removes_of_removeAll h).congr fun spot => ?_
    simp only [mem_ascending, mem_cleanPaths hfound, MarkedForCleaning, hlisted,
      Setting.isYes_of_answered hanswered]
    grind

end Run

/-! ## Loading -/

/-- The temporary directory of a site is ready to be made: there is a directory to make it in, and
nothing is there or below it. -/
structure Site.TemporaryDirectoryFree (here : Site) (tree : FileTree) : Prop where
  parent : tree.isDirectory here.workingDirectory (Path.directory here.temporaryDirectory) = true
  free : ∀ spot, place here.workingDirectory here.temporaryDirectory <+: spot →
    tree.get? spot = none

/-- The schema compiler, if it can be started, writes nothing but the file for compiled schemas. -/
def Site.CompilerKeepsToOutput (here : Site) : Prop :=
  ∀ compiler importPaths files tree finished after,
    here.programs (Load.compileCommand compiler (Load.compiledFile here) importPaths files) tree =
      .ok (finished, after) →
    tree.SameOutside (· = place here.workingDirectory (Load.compiledFile here)) after

namespace Load

open FileTree StubGen.Action

/-- The compiled schemas lie right in the temporary directory. -/
theorem place_compiledFile (here : Site) :
    place here.workingDirectory (compiledFile here) =
      place here.workingDirectory here.temporaryDirectory ++ ["descriptors.pb"] := by
  have hname : Path.steps "descriptors.pb" = ["descriptors.pb"] :=
    Path.steps_of_not_mem (by decide)
  rw [compiledFile, Path.place_join (by decide), hname,
    Path.after_name (by decide) (by decide) (by decide)]

/-- The compiled schemas lie below the temporary directory. -/
theorem prefix_place_compiledFile (here : Site) :
    place here.workingDirectory here.temporaryDirectory <+:
      place here.workingDirectory (compiledFile here) := by
  rw [place_compiledFile]
  exact List.prefix_append _ _

/-- Schemas are compiled inside of the temporary directory. -/
theorem sameOutside_compileTemporarily {here : Site} (hcompiler : here.CompilerKeepsToOutput)
    {world : World} (hfree : here.TemporaryDirectoryFree world.tree)
    (compiler : Setting (Option String)) (importPaths files : List String) :
    SameOutside (place here.workingDirectory here.temporaryDirectory <+: ·) world.tree
      (compileTemporarily compiler importPaths files here world).2.tree := by
  rw [compileTemporarily, site_bind]
  refine related_bind ?_ fun _ world' _ => ?_
  · have hparent := hasPath_of_isDirectory hfree.parent
    rw [makeDirectories_tree, ensureDirectories, ensureUpTo_of_directory (.inr hparent)]
    intro spot hspot
    refine (addsDirectories_ensureDirectory world.tree _ _).sameOutside spot ?_
    rintro rfl
    exact hspot (List.prefix_refl _)
  · refine ((respects_compile ?_ compiler).bind fun _ => respects_readFile _) world'
    intro name tree finished after hplay spot hspot
    refine hcompiler name importPaths files tree finished after hplay spot fun hcompiled => ?_
    rw [hcompiled] at hspot
    exact hspot (prefix_place_compiledFile here)

/-- Loading schemas leaves the file system as it was. -/
theorem sameOutside_load {here : Site} (hcompiler : here.CompilerKeepsToOutput) {world : World}
    (hfree : here.TemporaryDirectoryFree world.tree) (settings : Settings) :
    SameOutside (fun _ => False) world.tree (load settings here world).2.tree := by
  unfold load
  split
  · exact respects_foldlM respects_loadSet _ _ world
  · refine related_bind (respects_schemaFileNames settings world) fun files world' hfiles => ?_
    split
    · exact ((respects_note _).bind fun _ => respects_pure _) world'
    · have htree := tree_eq_of_respects (respects_schemaFileNames settings) hfiles
      rw [loadFiles, site_bind]
      refine related_bind (respects_ofExcept _ _ world') fun given world'' hgiven => ?_
      have htree' := tree_eq_of_respects (respects_ofExcept _ _) hgiven
      have hfree' : here.TemporaryDirectoryFree world''.tree := by rwa [htree', htree]
      refine related_bind ?_ fun data world' _ => respects_schemasOf data (some files) world'
      have hsame := sameOutside_compileTemporarily hcompiler hfree' settings.protoc
        (here.workingDirectory :: given.map (Path.join here.workingDirectory)) files
      intro spot _
      by_cases hnil : spot = []
      · subst hnil
        rfl
      · refine (get?_eraseAll hnil).trans ?_
        split
        · next hprefix => rw [hfree'.free spot hprefix]
        · next hprefix => exact hsame spot hprefix

end Load

/-! ## Failed runs -/

/-- Removing files does not put anything into the temporary directory. -/
theorem Site.TemporaryDirectoryFree.of_removes {here : Site} {before after : FileTree}
    (h : here.TemporaryDirectoryFree before) {gone : Place → Prop}
    (hremoves : FileTree.Removes gone before after) : here.TemporaryDirectoryFree after := by
  obtain ⟨spot, hlookup⟩ := FileTree.isDirectory_iff.mp h.parent
  obtain ⟨_, _, hget⟩ := FileTree.lookup_eq_ok_iff.mp hlookup
  have hkeeps := hremoves.keepsDirectories
  refine ⟨FileTree.isDirectory_iff.mpr ⟨spot, FileTree.lookup_of_keepsDirectories hkeeps hlookup
    (hkeeps spot hget)⟩, fun other hother => ?_⟩
  by_cases hgone : gone other
  · exact hremoves.removed other hgone
  · rw [hremoves.others other hgone, h.free other hother]

/-- **A failed generation writes nothing.**  If schemas cannot be loaded, or some module cannot be
generated, then the run fails for that reason, and all that has become of the file system is that
the files are gone which it was asked to clean up. -/
theorem failed_generation_writes_nothing {settings : Settings} {here : Site}
    {world cleaned : World} {failure : Failure}
    (hfree : here.TemporaryDirectoryFree world.tree) (hcompiler : here.CompilerKeepsToOutput)
    (hclean : Run.clean settings here world = (.ok (), cleaned))
    (hfail : ((Load.load settings >>= Run.generate) here cleaned).1 = .error failure) :
    ∃ after, Run.run settings here world = (.error failure, after) ∧
      FileTree.Removes (Run.MarkedForCleaning settings here world.tree) world.tree after.tree := by
  have hremoves := Run.removes_of_clean hclean
  have hload := Load.sameOutside_load hcompiler (hfree.of_removes hremoves) settings
  have hsame : FileTree.SameOutside (fun _ => False) cleaned.tree
      ((Load.load settings >>= Run.generate) here cleaned).2.tree :=
    Action.related_bind hload fun files world' _ => Run.respects_generate files world'
  refine ⟨((Load.load settings >>= Run.generate) here cleaned).2, ?_, hremoves.of_same hsame⟩
  rw [Run.run, Action.site_bind, Action.bind_of_ok hclean, ← bind_assoc]
  exact Action.bind_of_error (Prod.ext hfail rfl)

/-- A site whose schema compiler makes two files of whatever it is given.  Two methods of the second
clash. -/
def clashingSite : Site where
  workingDirectory := "/work"
  temporaryFile := "/tmp/file"
  temporaryDirectory := "/tmp/directory"
  programs := fun command tree =>
    if command.head? = some "protoc" then
      match tree.write "/work" "/tmp/directory/descriptors.pb"
        (Wire.encodePayload 1 (Plugin.fileBytes "talk.proto" "Talk" [Plugin.methodBytes "Say"]) ++
          Wire.encodePayload 1 (Plugin.fileBytes "voice.proto" "Voice"
            [Plugin.methodBytes "Say", Plugin.methodBytes "say"])) with
      | .ok written => .ok ({}, written)
      | .error problem => .error (.path problem)
    else .error (.path ⟨.notFound, command.headD ""⟩)

/-- A file system with two schema files and a module that was generated before. -/
def clashingWorld : World where
  tree := ⟨[(["tmp"], .directory), (["work"], .directory), (["work", "talk.proto"], .file []),
    (["work", "voice.proto"], .file []), (["work", "talk_pb2_rsocket.py"], .file [35])]⟩

/-- The same without the module. -/
def cleanedWorld : World where
  tree := ⟨[(["tmp"], .directory), (["work"], .directory), (["work", "talk.proto"], .file []),
    (["work", "voice.proto"], .file [])]⟩

/-- A run for all schema files that removes the module first. -/
def clashingSettings : Settings :=
  .ofOptions { paths := ["."], clean := ["talk_pb2_rsocket.py"] }

theorem clashingSite_compilerKeepsToOutput : clashingSite.CompilerKeepsToOutput := by
  intro compiler importPaths files tree finished after hplay
  simp only [clashingSite] at hplay
  split at hplay
  · cases hwrite : tree.write "/work" "/tmp/directory/descriptors.pb" _ with
    | error problem =>
        rw [hwrite] at hplay
        cases hplay
    | ok written =>
        rw [hwrite] at hplay
        obtain rfl : written = after := congrArg Prod.snd (Except.ok.inj hplay)
        exact FileTree.sameOutside_of_write hwrite
  · cases hplay

theorem failed_generation_writes_nothing_clash :
    ∃ after, Run.run clashingSettings clashingSite clashingWorld =
        (.error (.clash ⟨"Voice", "Say", "say", "say"⟩), after) ∧
      FileTree.Removes (Run.MarkedForCleaning clashingSettings clashingSite clashingWorld.tree)
        clashingWorld.tree after.tree := by
  have hplace : place clashingSite.workingDirectory clashingSite.temporaryDirectory =
      ["tmp", "directory"] := by decide +kernel
  have hfree : clashingSite.TemporaryDirectoryFree clashingWorld.tree := by
    refine ⟨by decide +kernel, ?_⟩
    rw [hplace]
    rintro spot ⟨rest, rfl⟩
    simp [clashingWorld, FileTree.get?]
  have hclean : Run.clean clashingSettings clashingSite clashingWorld = (.ok (), cleanedWorld) := by
    decide +kernel
  have hfail : ((Load.load clashingSettings >>= Run.generate) clashingSite cleanedWorld).1 =
      .error (.clash ⟨"Voice", "Say", "say", "say"⟩) := by decide +kernel
  exact failed_generation_writes_nothing hfree clashingSite_compilerKeepsToOutput hclean hfail

end StubGen
