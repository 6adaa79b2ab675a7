import StubGen.Files.Search
import StubGen.Proofs.FailedRun
import StubGen.Proofs.Spelling

/-!
# StubGen.Proofs.Exclusion

What a search leaves out.  Exclusions are compared with the paths that were found as they are
spelled, and only what is left is turned into places (`SearchRequest.mem_run_iff`).  An excluded
file is thus found after all if some argument leads to it by another spelling.

1. Patterns are replaced by names of the tree, and nothing else about a path changes.  Where a path
   spells names and patterns only, what it stands for spells a place; `**` at its end also stands
   for what is in front of it, with a slash behind (`standFor_of_mem_expandUpTo`).
2. A place has one spelling (`Path.place_spell`), so what such arguments find is left out if it is
   excluded (`SearchRequest.SpellsDown.eq_of_place_eq`).
-/

namespace StubGen

open StubGen.Path (steps join place spell slashed IsProper LeadsDown)

/-! ## Names in a tree -/

namespace FileTree

/-- The names in a directory are the last steps to the entries right below it. -/
theorem mem_namesIn_iff {tree : FileTree} {spot : Place} {name : String} :
    name ∈ tree.namesIn spot ↔ ∃ entry, (spot ++ [name], entry) ∈ tree.entries := by
  rw [namesIn, List.mem_filterMap]
  constructor
  · rintro ⟨⟨place, entry⟩, hmem, hname⟩
    rcases List.eq_nil_or_concat place with rfl | ⟨front, last, rfl⟩
    · simp at hname
    · simp only [List.concat_eq_append, List.getLast?_concat, List.dropLast_concat, beq_iff_eq,
        Option.ite_none_right_eq_some, Option.some.injEq] at hname
      obtain ⟨rfl, rfl⟩ := hname
      exact ⟨entry, by simpa using hmem⟩
  · rintro ⟨entry, hmem⟩
    exact ⟨_, hmem, by simp⟩

/-- The entries below a directory, by the steps that lead to them. -/
theorem mem_below_iff {tree : FileTree} {spot rest : Place} {entry : Entry} :
    (rest, entry) ∈ tree.below spot ↔ rest ≠ [] ∧ (spot ++ rest, entry) ∈ tree.entries := by
  rw [below, List.mem_filterMap]
  constructor
  · rintro ⟨⟨place, other⟩, hmem, hbelow⟩
    simp only [Option.ite_none_right_eq_some, Bool.and_eq_true, List.isPrefixOf_iff_prefix,
      bne_iff_ne, Option.some.injEq, Prod.mk.injEq] at hbelow
    obtain ⟨⟨⟨more, rfl⟩, hne⟩, hrest, rfl⟩ := hbelow
    rw [List.drop_left] at hrest
    subst hrest
    exact ⟨by simpa using hne, hmem⟩
  · rintro ⟨hne, hmem⟩
    exact ⟨_, hmem, by simp [hne]⟩

/-- File systems in which every step to an entry is a name. -/
def HasProperNames (tree : FileTree) : Prop :=
  ∀ entry ∈ tree.entries, ∀ name ∈ entry.1, IsProper name

/-- If all names of a tree are proper, then so are those in a directory. -/
theorem HasProperNames.of_mem_namesIn {tree : FileTree} (h : tree.HasProperNames) {spot : Place}
    {name : String} (hname : name ∈ tree.namesIn spot) : IsProper name := by
  obtain ⟨entry, hentry⟩ := mem_namesIn_iff.mp hname
  exact h _ hentry name (by simp)

/-- If all names of a tree are proper, then so are those on the way to something below a directory.
-/
theorem HasProperNames.of_mem_below {tree : FileTree} (h : tree.HasProperNames) {spot : Place}
    {found : Place × Entry} (hfound : found ∈ tree.below spot) :
    found.1 ≠ [] ∧ ∀ name ∈ found.1, IsProper name := by
  obtain ⟨hne, hentry⟩ := mem_below_iff.mp hfound
  exact ⟨hne, fun name hname => h _ hentry name (List.mem_append_right _ hname)⟩

end FileTree

/-! ## What patterns stand for -/

namespace Glob.Scope

variable {scope : Scope}

/-- The paths that names and patterns may stand for: the spelling of a place, and, where they end in
`**`, also one with a slash behind it. -/
def StandFor (scope : Scope) (names : Place) (path : String) : Prop :=
  ∃ target : Place, (∀ name ∈ target, IsProper name) ∧
    (path = spell target ∨
      path = slashed target ∧ scope.recursive = true ∧ names.getLast? = some "**")

/-- The spelling of a place may stand for names and patterns, whatever these are. -/
theorem standFor_spell {target : Place} (h : ∀ name ∈ target, IsProper name) (names : Place) :
    scope.StandFor names (spell target) :=
  ⟨target, h, .inl rfl⟩

/-- Behind such a path, a further step comes after one slash. -/
theorem StandFor.join {names : Place} {path : String} (h : scope.StandFor names path) :
    ∃ target : Place, (∀ name ∈ target, IsProper name) ∧
      ∀ rest, Path.isAbsolute rest = false → Path.join path rest = slashed target ++ rest := by
  obtain ⟨target, hproper, rfl | ⟨rfl, -, -⟩⟩ := h
  · exact ⟨target, hproper, fun rest => Path.join_spell hproper⟩
  · exact ⟨target, hproper, fun rest => Path.join_slashed target⟩

/-- What a step stands for in a directory: names that lead on from there, or, for `**`, nothing. -/
theorem mem_expandStep (htree : scope.tree.HasProperNames) {directoriesOnly : Bool}
    {directory step : String} (hstep : IsProper step) {found : List String}
    (h : scope.expandStep directoriesOnly directory step = .ok found) {rest : String}
    (hrest : rest ∈ found) :
    (rest = "" ∧ scope.recursive = true ∧ step = "**") ∨
      ∃ names ≠ [], (∀ name ∈ names, IsProper name) ∧ rest = "/".intercalate names := by
  have hsingle {name : String} (hname : IsProper name) :
      ∃ names ≠ [], (∀ name ∈ names, IsProper name) ∧ name = "/".intercalate names :=
    ⟨[name], List.cons_ne_nil _ _, by simpa using hname, by rw [String.intercalate_singleton]⟩
  -- the three kinds of steps: `**`, other patterns, and plain names
  unfold expandStep at h
  split at h
  · next hspan =>
      obtain ⟨spot?, -, rfl⟩ := map_eq_ok_iff.mp h
      rcases List.mem_cons.mp hrest with rfl | hbelow
      · exact .inl ⟨rfl, hspan.2, hspan.1⟩
      · cases spot? with
        | none => cases hbelow
        | some spot =>
            obtain ⟨below, hmem, rfl⟩ := List.mem_map.mp hbelow
            have hreached := (List.mem_filter.mp hmem).1
            have hproper := htree.of_mem_below (List.mem_filter.mp hreached).1
            exact .inr ⟨below.1, hproper.1, hproper.2, rfl⟩
  · split at h
    · obtain ⟨spot?, -, rfl⟩ := map_eq_ok_iff.mp h
      cases spot? with
      | none => cases hrest
      | some spot =>
          have hname := (List.mem_filter.mp (List.mem_filter.mp hrest).1).1
          exact .inr (hsingle (htree.of_mem_namesIn hname))
    · obtain rfl := Except.ok.inj h
      rw [plainStep, if_neg hstep.1.1] at hrest
      split at hrest
      · rw [List.mem_singleton.mp hrest]
        exact .inr (hsingle hstep)
      · cases hrest

/-- A path is found in one of the directories, and spelled as that is. -/
theorem mem_expandSteps {directoriesOnly : Bool} {step : String} {directories found : List String}
    (h : scope.expandSteps directoriesOnly step directories = .ok found) {path : String}
    (hpath : path ∈ found) :
    ∃ directory ∈ directories, ∃ rests,
      scope.expandStep directoriesOnly directory step = .ok rests ∧
        ∃ rest ∈ rests, path = join directory rest := by
  induction directories generalizing found with
  | nil =>
      obtain rfl := Except.ok.inj h
      cases hpath
  | cons directory others ih =>
      unfold expandSteps at h
      split at h
      · cases h
      · next rests hrests =>
          obtain ⟨later, hlater, rfl⟩ := map_eq_ok_iff.mp h
          rcases List.mem_append.mp hpath with hhere | hthere
          · obtain ⟨rest, hrest, rfl⟩ := List.mem_map.mp hhere
            exact ⟨directory, List.mem_cons_self, rests, hrests, rest, hrest, rfl⟩
          · obtain ⟨other, hother, hfound⟩ := ih hlater hthere
            exact ⟨other, List.mem_cons_of_mem _ hother, hfound⟩

/-- A path without a pattern stands for itself or for nothing. -/
theorem eq_of_mem_plainPath {path found : String} (h : found ∈ scope.plainPath path) :
    found = path := by
  unfold plainPath at h
  dsimp only at h
  split at h <;> split at h <;> simp_all

/-- What a path stands for is itself, or what its last step stands for in some directories. -/
theorem expandUpTo_succ_eq_ok {depth : Nat} {directoriesOnly : Bool} {path : String}
    {found : List String} (h : scope.expandUpTo (depth + 1) directoriesOnly path = .ok found) :
    found = scope.plainPath path ∨
      Pattern.isPattern path = true ∧ ∃ directories,
        (scope.expandUpTo depth true (Path.splitLast path).1 = .ok directories ∨
          directories = [(Path.splitLast path).1]) ∧
        scope.expandSteps directoriesOnly (Path.splitLast path).2 directories.eraseDups =
          .ok found := by
  unfold expandUpTo at h
  dsimp only at h
  split at h
  · next hpattern =>
      split at h
      · cases h
      · next directories hdirectories =>
          refine .inr ⟨hpattern, directories, ?_, h⟩
          split at hdirectories
          · exact .inl hdirectories
          · exact .inr (Except.ok.inj hdirectories).symm
  · exact .inl (Except.ok.inj h).symm

/-- What a spelling with patterns stands for, name by name. -/
theorem standFor_of_mem_expandUpTo (htree : scope.tree.HasProperNames) {names : Place}
    (hnames : ∀ name ∈ names, IsProper name) {depth : Nat} {directoriesOnly : Bool}
    {found : List String} (h : scope.expandUpTo depth directoriesOnly (spell names) = .ok found)
    {path : String} (hpath : path ∈ found) : scope.StandFor names path := by
  induction depth generalizing names directoriesOnly found path with
  | zero =>
      obtain rfl := Except.ok.inj h
      cases hpath
  | succ depth ih =>
      rcases expandUpTo_succ_eq_ok h with rfl | ⟨hpattern, directories, hdirectories, hfound⟩
      · rw [eq_of_mem_plainPath hpath]
        exact standFor_spell hnames names
      rcases List.eq_nil_or_concat' names with rfl | ⟨front, last, rfl⟩
      · exact absurd hpattern (by decide)
      obtain ⟨hfront, hlast⟩ := List.forall_mem_append.mp hnames
      have hlast : IsProper last := hlast last List.mem_cons_self
      rw [Path.splitLast_spell hfront hlast.2] at hdirectories hfound
      have hspelled : ∀ directory ∈ directories, scope.StandFor front directory := by
        rcases hdirectories with hdirectories | rfl
        · exact fun directory hdirectory => ih hfront hdirectories hdirectory
        · simpa using standFor_spell hfront front
      -- With or without a slash behind it, a directory goes on in the same way, and only the last
      -- step decides how the path ends.
      obtain ⟨directory, hdirectory, rests, hrests, rest, hrest, rfl⟩ :=
        mem_expandSteps hfound hpath
      obtain ⟨target, htarget, hjoin⟩ :=
        (hspelled directory (List.mem_eraseDups.mp hdirectory)).join
      rcases mem_expandStep htree hlast hrests hrest with
        ⟨rfl, hrecursive, rfl⟩ | ⟨more, hne, hmore, rfl⟩
      · rw [hjoin "" rfl, String.append_empty]
        exact ⟨target, htarget, .inr ⟨rfl, hrecursive, List.getLast?_concat⟩⟩
      · rw [hjoin _ (Path.isAbsolute_intercalate hmore), ← Path.spell_append target hne]
        exact standFor_spell (List.forall_mem_append.mpr ⟨htarget, hmore⟩) _

/-- What is found by an argument that spells names and patterns. -/
theorem standFor_of_mem_search (htree : scope.tree.HasProperNames) {names : Place}
    (hnames : ∀ name ∈ names, IsProper name) {found : List String}
    (h : scope.search (spell names) = .ok found) {path : String} (hpath : path ∈ found) :
    scope.StandFor names path := by
  unfold search at h
  split at h
  · obtain rfl := Except.ok.inj h
    split at hpath
    · obtain ⟨below, hmem, rfl⟩ := List.mem_map.mp hpath
      have hreached := (List.mem_filter.mp hmem).1
      obtain ⟨hne, hproper⟩ := htree.of_mem_below (List.mem_filter.mp hreached).1
      rw [Path.join_spell_intercalate hnames hproper hne]
      exact standFor_spell (List.forall_mem_append.mpr ⟨hnames, hproper⟩) _
    · obtain ⟨name, hmem, rfl⟩ := List.mem_map.mp hpath
      have hname := htree.of_mem_namesIn (List.mem_filter.mp (List.mem_filter.mp hmem).1).1
      have hproper : ∀ other ∈ [name], IsProper other := by simpa using hname
      have hjoin := Path.join_spell_intercalate hnames hproper (List.cons_ne_nil _ _)
      rw [String.intercalate_singleton] at hjoin
      rw [hjoin]
      exact standFor_spell (List.forall_mem_append.mpr ⟨hnames, hproper⟩) _
  · exact standFor_of_mem_expandUpTo htree hnames h hpath

/-- The paths that an argument stands for. -/
def Finds (scope : Scope) (argument path : String) : Prop :=
  ∃ found, scope.search argument = .ok found ∧ path ∈ found

/-- The paths that an exclusion stands for: the path of a file for itself alone, any other one for
what its patterns match. -/
def LeavesOut (scope : Scope) (argument path : String) : Prop :=
  if scope.tree.isFile scope.workingDirectory argument then path = argument
  else ∃ found, scope.expand argument = .ok found ∧ path ∈ found

end Glob.Scope

/-! ## Searches -/

namespace SearchRequest

variable {request : SearchRequest} {tree : FileTree} {workingDirectory : String}

/-- Where a search looks paths up. -/
def scope (request : SearchRequest) (tree : FileTree) (workingDirectory : String) : Glob.Scope :=
  ⟨tree, workingDirectory, request.recursive.isYes⟩

/-- The paths that a search finds before it leaves any out. -/
def Matches (request : SearchRequest) (tree : FileTree) (workingDirectory path : String) : Prop :=
  ∃ argument ∈ request.paths.listed,
    (request.scope tree workingDirectory).Finds (join workingDirectory argument) path

/-- The paths that a search leaves out. -/
def Excludes (request : SearchRequest) (tree : FileTree) (workingDirectory path : String) : Prop :=
  ∃ argument ∈ request.excludes.listed,
    (request.scope tree workingDirectory).LeavesOut (join workingDirectory argument) path

/-- The path of a file leaves out that path and no other. -/
theorem leavesOut_of_isFile {argument : String} (h : tree.isFile workingDirectory argument = true)
    (path : String) :
    (request.scope tree workingDirectory).LeavesOut argument path ↔ path = argument := by
  simp [Glob.Scope.LeavesOut, scope, h]

/-- If it is known how to look paths up, the settings say how. -/
theorem lookUp_eq_ok {find : Glob.Scope → Except PathError (List String)} {found : List String}
    (h : request.lookUp tree workingDirectory find = .ok found) :
    find (request.scope tree workingDirectory) = .ok found := by
  unfold lookUp at h
  split at h
  · cases h
  · next recursive hrecursive =>
      rw [scope, Setting.isYes_of_answered hrecursive]
      cases hfind : find ⟨tree, workingDirectory, recursive⟩ with
      | error problem => simp [hfind, Except.mapError] at h
      | ok others => simpa [hfind, Except.mapError] using h

/-- What an argument excludes is what it leaves out. -/
theorem mem_of_excludedBy {argument : String} {found : List String}
    (h : request.excludedBy tree workingDirectory argument = .ok found) (path : String) :
    path ∈ found ↔ (request.scope tree workingDirectory).LeavesOut argument path := by
  unfold excludedBy at h
  split at h
  · next hfile =>
      obtain rfl := Except.ok.inj h
      rw [leavesOut_of_isFile hfile, List.mem_singleton]
  · next hfile =>
      rw [Glob.Scope.LeavesOut, lookUp_eq_ok h]
      simp [scope, hfile]

/-- Arguments find together what each of them finds. -/
theorem mem_gather {find : String → Except SearchError (List String)}
    {finds : String → String → Prop}
    (hfind : ∀ {argument found}, find argument = .ok found →
      ∀ path, path ∈ found ↔ finds argument path)
    {arguments found : List String} (h : gather find workingDirectory arguments = .ok found)
    (path : String) :
    path ∈ found ↔ ∃ argument ∈ arguments, finds (join workingDirectory argument) path := by
  induction arguments generalizing found with
  | nil =>
      obtain rfl := Except.ok.inj h
      simp
  | cons argument rest ih =>
      unfold gather at h
      split at h
      · cases h
      · next part hpart =>
          obtain ⟨others, hothers, rfl⟩ := map_eq_ok_iff.mp h
          rw [List.mem_append, hfind hpart, ih hothers]
          simp

/-- The excluded paths are those that some argument leaves out. -/
theorem mem_excludedPaths {excluded : List String}
    (h : request.excludedPaths tree workingDirectory = .ok excluded) (path : String) :
    path ∈ excluded ↔ request.Excludes tree workingDirectory path := by
  unfold excludedPaths at h
  split at h
  · cases h
  · next excludes hexcludes =>
      rw [Excludes, Setting.listed_of_needed hexcludes]
      exact mem_gather mem_of_excludedBy h path

/-- The matched paths are those that some argument finds. -/
theorem mem_matchedPaths {matched : List String}
    (h : request.matchedPaths tree workingDirectory = .ok matched) (path : String) :
    path ∈ matched ↔ request.Matches tree workingDirectory path := by
  unfold matchedPaths at h
  split at h
  · cases h
  · next paths hpaths =>
      rw [Matches, Setting.listed_of_needed hpaths]
      refine mem_gather (fun hfind path => ?_) h path
      simp [Glob.Scope.Finds, lookUp_eq_ok hfind]

/-- **A search finds what is matched and not excluded**, both by spelling. -/
theorem mem_foundPaths {found : List String}
    (h : request.foundPaths tree workingDirectory = .ok found) (path : String) :
    path ∈ found ↔ request.Matches tree workingDirectory path ∧
      ¬ request.Excludes tree workingDirectory path := by
  unfold foundPaths at h
  split at h
  · cases h
  · next excluded hexcluded =>
      obtain ⟨matched, hmatched, rfl⟩ := map_eq_ok_iff.mp h
      simp [mem_matchedPaths hmatched, mem_excludedPaths hexcluded]

/-- A search finds the places of the paths that it does not leave out. -/
theorem mem_run_iff {places : List Place} (h : request.run tree workingDirectory = .ok places)
    (spot : Place) :
    spot ∈ places ↔ ∃ path, request.Matches tree workingDirectory path ∧
      ¬ request.Excludes tree workingDirectory path ∧ place workingDirectory path = spot := by
  obtain ⟨found, hfound, rfl⟩ := map_eq_ok_iff.mp h
  simp only [List.mem_map, List.mem_eraseDups, mem_foundPaths hfound]
  constructor
  · rintro ⟨absolute, ⟨path, hfound, habsolute⟩, hplace⟩
    rw [← habsolute, Path.snd_absolute] at hplace
    exact ⟨path, hfound.1, hfound.2, hplace⟩
  · rintro ⟨path, hmatches, hkept, hplace⟩
    rw [← Path.snd_absolute] at hplace
    exact ⟨_, ⟨path, ⟨hmatches, hkept⟩, rfl⟩, hplace⟩

/-! ## Excluded files -/

/-- Arguments that spell what they stand for step by step from the top, without steps that stay or
go up.  No argument ends in `**`, unless that is a pattern like any other. -/
structure SpellsDown (request : SearchRequest) (tree : FileTree) (workingDirectory : String)
    (exclude : String) : Prop where
  names : tree.HasProperNames
  root : ∃ root : Place, (∀ name ∈ root, IsProper name) ∧ workingDirectory = spell root
  paths : ∀ path ∈ request.paths.listed, ∀ step ∈ steps path, LeadsDown step
  exclude : ∀ step ∈ steps exclude, LeadsDown step
  spans : request.recursive.isYes = true →
    ∀ path ∈ request.paths.listed, (steps path).getLast? ≠ some "**"

/-- Arguments that lead down find each place under one spelling. -/
theorem SpellsDown.eq_of_place_eq {exclude : String}
    (h : request.SpellsDown tree workingDirectory exclude) {path : String}
    (hpath : request.Matches tree workingDirectory path)
    (hplace : place workingDirectory path =
      place workingDirectory (join workingDirectory exclude)) :
    path = join workingDirectory exclude := by
  obtain ⟨root, hroot, rfl⟩ := h.root
  obtain ⟨argument, hargument, found, hfound, hmem⟩ := hpath
  obtain ⟨hproper, hjoin⟩ := Path.join_spell_steps hroot (h.paths argument hargument)
  obtain ⟨hexclude, hspelled⟩ := Path.join_spell_steps hroot h.exclude
  rw [hjoin] at hfound
  obtain ⟨target, htarget, rfl | ⟨-, hrecursive, hlast⟩⟩ :=
    Glob.Scope.standFor_of_mem_search h.names hproper hfound hmem
  · rw [hspelled, Path.place_spell htarget, Path.place_spell hexclude] at hplace
    rw [hspelled, hplace]
  · rw [List.getLast?_append_of_ne_nil _ (Path.steps_ne_nil argument)] at hlast
    exact absurd hlast (h.spans hrecursive argument hargument)

end SearchRequest

/-- **Exclusions count for a spelling.**  An excluded file is found exactly if the arguments lead to
it by a path that is spelled otherwise and that no exclusion stands for.  Where the arguments and
the exclusion lead down from the top step by step there is no such path, and the file is left
out. -/
theorem excluded_file_found_iff {request : SearchRequest} {tree : FileTree}
    {workingDirectory : String} {places : List Place}
    (h : request.run tree workingDirectory = .ok places) {exclude : String}
    (hexclude : exclude ∈ request.excludes.listed)
    (hfile : tree.isFile workingDirectory (join workingDirectory exclude) = true) :
    (place workingDirectory (join workingDirectory exclude) ∈ places ↔
      ∃ path ≠ join workingDirectory exclude,
        place workingDirectory path = place workingDirectory (join workingDirectory exclude) ∧
          request.Matches tree workingDirectory path ∧
          ¬ request.Excludes tree workingDirectory path) ∧
    (request.SpellsDown tree workingDirectory exclude →
      place workingDirectory (join workingDirectory exclude) ∉ places) := by
  have hself : request.Excludes tree workingDirectory (join workingDirectory exclude) :=
    ⟨exclude, hexclude, (SearchRequest.leavesOut_of_isFile hfile _).mpr rfl⟩
  have hiff := SearchRequest.mem_run_iff h (place workingDirectory (join workingDirectory exclude))
  constructor
  · rw [hiff]
    constructor
    · rintro ⟨path, hmatches, hkept, hplace⟩
      exact ⟨path, fun heq => hkept (heq ▸ hself), hplace, hmatches, hkept⟩
    · rintro ⟨path, -, hplace, hmatches, hkept⟩
      exact ⟨path, hmatches, hkept, hplace⟩
  · intro hdown hmem
    obtain ⟨path, hmatches, hkept, hplace⟩ := hiff.mp hmem
    exact hkept (hdown.eq_of_place_eq hmatches hplace ▸ hself)

/-- A working directory with a schema file, and another one in a directory. -/
def talkTree : FileTree :=
  ⟨[(["work"], .directory), (["work", "api"], .directory),
    (["work", "api", "talk.proto"], .file []), (["work", "echo.proto"], .file [])]⟩

/-- A search for all schema files but one, which two arguments lead to. -/
def talkSearch : SearchRequest :=
  ⟨.given ["api", "**/*.proto"], .given ["api/talk.proto"], .given true⟩

theorem spellsDown_talkSearch : talkSearch.SpellsDown talkTree "/work" "api/talk.proto" where
  names := by simp [FileTree.HasProperNames, talkTree, IsProper, LeadsDown]
  root := ⟨["work"], by simp [IsProper, LeadsDown], by decide +kernel⟩
  paths := by
    have hdirectory : steps "api" = ["api"] := by decide +kernel
    have hpattern : steps "**/*.proto" = ["**", "*.proto"] := by decide +kernel
    simp [talkSearch, Setting.listed, hdirectory, hpattern, LeadsDown]
  exclude := by
    have hfile : steps "api/talk.proto" = ["api", "talk.proto"] := by decide +kernel
    simp [hfile, LeadsDown]
  spans := by decide +kernel

theorem excluded_file_found_iff_talk :
    talkSearch.run talkTree "/work" = .ok [["work", "echo.proto"]] ∧
    talkTree.isFile "/work" (join "/work" "api/talk.proto") = true ∧
    place "/work" (join "/work" "api/talk.proto") ∉ [["work", "echo.proto"]] := by
  have hrun : talkSearch.run talkTree "/work" = .ok [["work", "echo.proto"]] := by decide +kernel
  have hfile : talkTree.isFile "/work" (join "/work" "api/talk.proto") = true := by decide +kernel
  have hexclude : "api/talk.proto" ∈ talkSearch.excludes.listed := List.mem_cons_self
  exact ⟨hrun, hfile, (excluded_file_found_iff hrun hexclude hfile).2 spellsDown_talkSearch⟩

/-- A point in front of a directory brings back a file in it that is excluded. -/
theorem excluded_file_not_always_left_out :
    ¬ ∀ (request : SearchRequest) (tree : FileTree) (workingDirectory : String)
      (places : List Place) (exclude : String),
      request.run tree workingDirectory = .ok places → exclude ∈ request.excludes.listed →
      tree.isFile workingDirectory (join workingDirectory exclude) = true →
      place workingDirectory (join workingDirectory exclude) ∉ places := by
  intro h
  refine h ⟨.given ["./api"], .given ["api/talk.proto"], .given false⟩ talkTree "/work"
    [["work", "api", "talk.proto"]] "api/talk.proto" ?_ List.mem_cons_self ?_ ?_
  · decide +kernel
  · decide +kernel
  · decide +kernel

end StubGen
