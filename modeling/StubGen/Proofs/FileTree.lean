import Mathlib.Logic.Function.Iterate
import StubGen.Files.Tree
import StubGen.Proofs.Places

/-!
# StubGen.Proofs.FileTree

What the operations on a file system do.  A file system is seen through `get?` alone: what is at a
place after something was put there or taken away, and what every operation leaves as it was.

1. A path is followed through directories only (`follow_cons_eq_ok_iff`), so it leads to the place
   that its spelling says (`eq_after_of_follow`), and goes on doing so as long as no directory is
   lost (`follow_of_keepsDirectories`).
2. Writing a file puts it at the place of its path (`write_eq_ok_iff`).
3. Making directories adds some on the way to a path, where nothing was before
   (`addsDirectories_ensureDirectories`), and does nothing where there is a directory already
   (`ensureDirectories_of_isDirectory`).
-/

namespace StubGen.FileTree

open StubGen.Path (steps join place after)

/-! ## What is at a place -/

@[simp] theorem get?_top (tree : FileTree) : tree.get? [] = some .directory := rfl

/-- Below the top, the first entry counts. -/
theorem get?_of_ne_nil (tree : FileTree) {spot : Place} (h : spot ≠ []) :
    tree.get? spot = (tree.entries.find? fun entry => entry.1 == spot).map Prod.snd := by
  rw [get?, if_neg h]

/-- A tree without some places has all the others as they were. -/
theorem get?_filter (tree : FileTree) (kept : Place → Bool) {spot : Place} (h : spot ≠ []) :
    (FileTree.mk (tree.entries.filter fun entry => kept entry.1)).get? spot =
      if kept spot then tree.get? spot else none := by
  rw [get?_of_ne_nil _ h, get?_of_ne_nil _ h, List.find?_filter]
  cases hkept : kept spot with
  | true =>
      have heq : (fun entry : Place × Entry =>
          decide (kept entry.1 = true ∧ (entry.1 == spot) = true)) =
          fun entry => entry.1 == spot := by
        funext entry
        by_cases hentry : entry.1 = spot
        · simp [hentry, hkept]
        · simp [hentry]
      rw [heq, if_pos rfl]
  | false =>
      rw [if_neg (by simp), Option.map_eq_none_iff, List.find?_eq_none]
      rintro entry _ hentry
      obtain ⟨hkeptEntry, hspot⟩ := of_decide_eq_true hentry
      rw [beq_iff_eq.mp hspot, hkept] at hkeptEntry
      contradiction

theorem get?_erase {tree : FileTree} {gone spot : Place} (h : spot ≠ []) :
    (tree.erase gone).get? spot = if spot = gone then none else tree.get? spot := by
  rw [erase, get?_filter tree (· != gone) h]
  by_cases heq : spot = gone <;> simp [heq]

theorem get?_eraseAll {tree : FileTree} {gone spot : Place} (h : spot ≠ []) :
    (tree.eraseAll gone).get? spot = if gone <+: spot then none else tree.get? spot := by
  rw [eraseAll, get?_filter tree (fun other => !gone.isPrefixOf other) h]
  by_cases hgone : gone <+: spot
  · rw [List.isPrefixOf_iff_prefix.mpr hgone]
    simp [hgone]
  · rw [Bool.eq_false_iff.mpr (hgone ∘ List.isPrefixOf_iff_prefix.mp)]
    simp [hgone]

/-- An entry replaces what was at its place, and nothing else. -/
theorem get?_put {tree : FileTree} {added spot : Place} {entry : Entry} (h : spot ≠ []) :
    (tree.put added entry).get? spot = if spot = added then some entry else tree.get? spot := by
  rw [get?_of_ne_nil _ h, put, List.find?_cons]
  by_cases heq : spot = added
  · simp [heq]
  · have hne : (added == spot) = false := by simpa using fun hadded => heq hadded.symm
    simp only [hne]
    rw [← get?_of_ne_nil _ h, get?_erase h, if_neg heq, if_neg heq]

/-! ## Following paths -/

/-- A step can be taken from a directory, if it is not too long. -/
theorem follow_cons_eq_ok_iff {tree : FileTree} {start target : Place} {step : String}
    {rest : List String} :
    tree.follow start (step :: rest) = .ok target ↔
      tree.get? start = some .directory ∧ step.utf8ByteSize ≤ nameLimit ∧
        tree.follow (after start [step]) rest = .ok target := by
  rw [follow]
  cases tree.get? start with
  | none => simp
  | some entry =>
      cases entry with
      | file data => simp
      | directory =>
          by_cases hstay : step = "" ∨ step = "."
          · have hsize : step.utf8ByteSize ≤ nameLimit := by
              rcases hstay with rfl | rfl <;> decide
            simp [hstay, hsize, Path.after_stay hstay]
          · by_cases hup : step = ".."
            · subst hup
              have hsize : "..".utf8ByteSize ≤ nameLimit := by decide
              simp [hsize, Path.after_up]
            · obtain ⟨hempty, hpoint⟩ := not_or.mp hstay
              by_cases hsize : nameLimit < step.utf8ByteSize
              · simp [hempty, hpoint, hup, hsize, Nat.not_le.mpr hsize]
              · simp [hempty, hpoint, hup, hsize, Path.after_name hempty hpoint hup,
                  Nat.not_lt.mp hsize]

/-- Steps may be followed in two goes. -/
theorem follow_append_eq_ok_iff {tree : FileTree} {start target : Place}
    {first second : List String} :
    tree.follow start (first ++ second) = .ok target ↔
      ∃ middle, tree.follow start first = .ok middle ∧ tree.follow middle second = .ok target := by
  induction first generalizing start with
  | nil => simp [follow]
  | cons step rest ih =>
      simp only [List.cons_append, follow_cons_eq_ok_iff, ih]
      grind

/-- A path that can be followed leads to where its spelling says. -/
theorem eq_after_of_follow {tree : FileTree} {start target : Place} {taken : List String}
    (h : tree.follow start taken = .ok target) : target = after start taken := by
  induction taken generalizing start with
  | nil => simpa [follow] using h.symm
  | cons step rest ih =>
      obtain ⟨_, _, hrest⟩ := follow_cons_eq_ok_iff.mp h
      rw [Path.after_cons]
      exact ih hrest

/-- No directory of the first file system is lost in the second. -/
def KeepsDirectories (before after : FileTree) : Prop :=
  ∀ spot, before.get? spot = some .directory → after.get? spot = some .directory

/-- A way through directories stays open as long as these do. -/
theorem follow_of_keepsDirectories {before after : FileTree} (h : KeepsDirectories before after)
    {start target : Place} {taken : List String}
    (hfollow : before.follow start taken = .ok target) :
    after.follow start taken = .ok target := by
  induction taken generalizing start with
  | nil => simpa [follow] using hfollow
  | cons step rest ih =>
      obtain ⟨hstart, hsize, hrest⟩ := follow_cons_eq_ok_iff.mp hfollow
      exact follow_cons_eq_ok_iff.mpr ⟨h start hstart, hsize, ih hrest⟩

/-- Empty steps do nothing in a directory. -/
theorem follow_replicate_empty {tree : FileTree} {start : Place}
    (h : tree.get? start = some .directory) (count : Nat) :
    tree.follow start (List.replicate count "") = .ok start := by
  induction count with
  | zero => rfl
  | succ count ih =>
      rw [List.replicate_succ, follow_cons_eq_ok_iff, Path.after_stay (.inl rfl)]
      exact ⟨h, by decide, ih⟩

/-- A path leads somewhere if it can be used and followed, and if something is there. -/
theorem lookup_eq_ok_iff {tree : FileTree} {workingDirectory path : String} {spot : Place}
    {entry : Entry} :
    tree.lookup workingDirectory path = .ok (spot, entry) ↔
      unusable? path = none ∧ tree.follow [] (steps (join workingDirectory path)) = .ok spot ∧
        tree.get? spot = some entry := by
  rw [lookup, locate]
  cases unusable? path with
  | some cause => simp
  | none =>
      cases hfollow : tree.follow [] (steps (join workingDirectory path)) with
      | error cause => simp
      | ok found =>
          cases hget : tree.get? found with
          | none => grind
          | some other => grind

/-- What a path leads to is at its place. -/
theorem get?_place_of_lookup {tree : FileTree} {workingDirectory path : String} {spot : Place}
    {entry : Entry} (h : tree.lookup workingDirectory path = .ok (spot, entry)) :
    spot = place workingDirectory path ∧ tree.get? (place workingDirectory path) = some entry := by
  obtain ⟨_, hfollow, hget⟩ := lookup_eq_ok_iff.mp h
  have hspot : spot = place workingDirectory path := by
    rw [Path.place_eq_after]
    exact eq_after_of_follow hfollow
  rw [← hspot]
  exact ⟨rfl, hget⟩

/-- What a path leads to is still found where no directory was lost and the place is as it was. -/
theorem lookup_of_keepsDirectories {before after : FileTree} (h : KeepsDirectories before after)
    {workingDirectory path : String} {spot : Place} {entry : Entry}
    (hlookup : before.lookup workingDirectory path = .ok (spot, entry))
    (hget : after.get? spot = some entry) :
    after.lookup workingDirectory path = .ok (spot, entry) := by
  obtain ⟨husable, hfollow, _⟩ := lookup_eq_ok_iff.mp hlookup
  exact lookup_eq_ok_iff.mpr ⟨husable, follow_of_keepsDirectories h hfollow, hget⟩

/-- The answers about a path, by what it leads to. -/
theorem hasPath_iff {tree : FileTree} {workingDirectory path : String} :
    tree.hasPath workingDirectory path = true ↔
      ∃ spot entry, tree.lookup workingDirectory path = .ok (spot, entry) := by
  rw [hasPath]
  cases tree.lookup workingDirectory path with
  | error cause => simp [Except.toBool]
  | ok found =>
      obtain ⟨spot, entry⟩ := found
      simp [Except.toBool]

theorem isDirectory_iff {tree : FileTree} {workingDirectory path : String} :
    tree.isDirectory workingDirectory path = true ↔
      ∃ spot, tree.lookup workingDirectory path = .ok (spot, .directory) := by
  rw [isDirectory]
  cases tree.lookup workingDirectory path with
  | error cause => simp
  | ok found =>
      obtain ⟨spot, entry⟩ := found
      cases entry <;> simp

theorem isFile_iff {tree : FileTree} {workingDirectory path : String} :
    tree.isFile workingDirectory path = true ↔
      ∃ spot data, tree.lookup workingDirectory path = .ok (spot, .file data) := by
  rw [isFile]
  cases tree.lookup workingDirectory path with
  | error cause => simp
  | ok found =>
      obtain ⟨spot, entry⟩ := found
      cases entry <;> simp

/-! ## The directory of a path -/

/-- A path that can be used can also be used without its last step. -/
theorem unusable?_directory {path : String} (h : unusable? path = none)
    (hne : Path.directory path ≠ "") : unusable? (Path.directory path) = none := by
  obtain ⟨rest, hrest⟩ := Path.exists_append_directory path
  have hchars : path.toList = (Path.directory path).toList ++ rest.toList := by
    rw [← String.toList_append, ← hrest]
  have hsize : path.utf8ByteSize = (Path.directory path).utf8ByteSize + rest.utf8ByteSize := by
    rw [← String.utf8ByteSize_append, ← hrest]
  unfold unusable? hasNull at h ⊢
  grind

/-- If a path can be followed up to its last step, then that is where the path without that step
leads to. -/
theorem lookup_directory {tree : FileTree} {workingDirectory path : String} {parent : Place}
    (husable : unusable? path = none) (hne : Path.directory path ≠ "")
    (hfollow : tree.follow [] (steps (join workingDirectory path)).dropLast = .ok parent)
    (hparent : tree.get? parent = some .directory) :
    tree.lookup workingDirectory (Path.directory path) = .ok (parent, .directory) := by
  obtain ⟨m, n, hsteps⟩ := Path.steps_join_directory hne workingDirectory
  have hlong : tree.follow []
      ((steps (join workingDirectory path)).dropLast ++ List.replicate m "") = .ok parent :=
    follow_append_eq_ok_iff.mpr ⟨parent, hfollow, follow_replicate_empty hparent m⟩
  rw [hsteps, follow_append_eq_ok_iff] at hlong
  obtain ⟨middle, hmiddle, hblank⟩ := hlong
  have heq : parent = middle := by
    simpa using eq_after_of_follow hblank
  exact lookup_eq_ok_iff.mpr ⟨unusable?_directory husable hne, heq ▸ hmiddle, hparent⟩

/-- A path that leads to something leads through the directory in front of its last step. -/
theorem isDirectory_directory_of_hasPath {tree : FileTree} {workingDirectory path : String}
    (h : tree.hasPath workingDirectory path = true) (hne : Path.directory path ≠ "") :
    tree.isDirectory workingDirectory (Path.directory path) = true := by
  obtain ⟨spot, entry, hlookup⟩ := hasPath_iff.mp h
  obtain ⟨husable, hfollow, _⟩ := lookup_eq_ok_iff.mp hlookup
  have hsteps := List.dropLast_concat_getLast (Path.steps_ne_nil (join workingDirectory path))
  rw [← hsteps, follow_append_eq_ok_iff] at hfollow
  obtain ⟨parent, hparent, hlast⟩ := hfollow
  obtain ⟨hdirectory, _⟩ := follow_cons_eq_ok_iff.mp hlast
  exact isDirectory_iff.mpr ⟨parent, lookup_directory husable hne hparent hdirectory⟩

theorem hasPath_of_isDirectory {tree : FileTree} {workingDirectory path : String}
    (h : tree.isDirectory workingDirectory path = true) :
    tree.hasPath workingDirectory path = true := by
  obtain ⟨spot, hlookup⟩ := isDirectory_iff.mp h
  exact hasPath_iff.mpr ⟨spot, .directory, hlookup⟩

/-! ## Writing -/

/-- Steps that name something in a directory. -/
def IsName (step : String) : Prop :=
  step ≠ "" ∧ step ≠ "." ∧ step ≠ ".." ∧ step.utf8ByteSize ≤ nameLimit

/-- When a path names something in a directory: it can be followed up to its last step, which is a
name. -/
theorem parentAndName_eq_ok_iff {tree : FileTree} {workingDirectory path : String}
    {parent : Place} {name : String} :
    tree.parentAndName workingDirectory path = .ok (parent, some name) ↔
      unusable? path = none ∧
        tree.follow [] (steps (join workingDirectory path)).dropLast = .ok parent ∧
        tree.get? parent = some .directory ∧ IsName name ∧
        (steps (join workingDirectory path)).getLastD "" = name := by
  unfold parentAndName IsName
  cases unusable? path with
  | some cause => simp
  | none =>
      simp only [true_and]
      cases tree.follow [] (steps (join workingDirectory path)).dropLast with
      | error cause => simp
      | ok found =>
          cases hget : tree.get? found with
          | none => grind
          | some entry =>
              cases entry with
              | file data => grind
              | directory => grind

/-- The name is the last step of the path. -/
theorem steps_of_parentAndName {tree : FileTree} {workingDirectory path : String}
    {parent : Place} {name : String}
    (h : tree.parentAndName workingDirectory path = .ok (parent, some name)) :
    (steps (join workingDirectory path)).dropLast ++ [name] =
      steps (join workingDirectory path) := by
  obtain ⟨_, _, _, _, hname⟩ := parentAndName_eq_ok_iff.mp h
  have hlast : (steps (join workingDirectory path)).getLast (Path.steps_ne_nil _) = name := by
    rw [← hname, List.getLastD_eq_getLast?,
      List.getLast?_eq_some_getLast (Path.steps_ne_nil (join workingDirectory path)),
      Option.getD_some]
  rw [← hlast]
  exact List.dropLast_concat_getLast (Path.steps_ne_nil (join workingDirectory path))

/-- A name in a directory is at the place of the path that ends in it. -/
theorem place_of_parentAndName {tree : FileTree} {workingDirectory path : String}
    {parent : Place} {name : String}
    (h : tree.parentAndName workingDirectory path = .ok (parent, some name)) :
    parent ++ [name] = place workingDirectory path := by
  obtain ⟨_, hfollow, _, ⟨hempty, hpoint, hup, _⟩, _⟩ := parentAndName_eq_ok_iff.mp h
  rw [Path.place_eq_after, ← steps_of_parentAndName h, Path.after_append,
    ← eq_after_of_follow hfollow, Path.after_name hempty hpoint hup]

/-- Paths at which a file can be written. -/
def Writable (tree : FileTree) (workingDirectory path : String) : Prop :=
  (∃ parent name, tree.parentAndName workingDirectory path = .ok (parent, some name)) ∧
    tree.get? (place workingDirectory path) ≠ some .directory

/-- Nothing can be written at the top. -/
theorem Writable.place_ne_nil {tree : FileTree} {workingDirectory path : String}
    (h : tree.Writable workingDirectory path) : place workingDirectory path ≠ [] := by
  obtain ⟨⟨parent, name, hparent⟩, _⟩ := h
  simp [← place_of_parentAndName hparent]

/-- A file is written at its place, or not at all. -/
theorem write_eq_ok_iff {tree written : FileTree} {workingDirectory path : String} {data : Bytes} :
    tree.write workingDirectory path data = .ok written ↔
      tree.Writable workingDirectory path ∧
        written = tree.put (place workingDirectory path) (.file data) := by
  unfold Writable
  rw [write]
  cases hparent : tree.parentAndName workingDirectory path with
  | error cause => simp
  | ok found =>
      obtain ⟨parent, name | name⟩ := found
      · simp
      · rw [← place_of_parentAndName hparent]
        simp only
        cases tree.get? (parent ++ [name]) with
        | none => simp [eq_comm]
        | some entry =>
            cases entry with
            | file other => simp [eq_comm]
            | directory => simp

/-- The directory in which a file can be written is there. -/
theorem Writable.isDirectory_directory {tree : FileTree} {workingDirectory path : String}
    (h : tree.Writable workingDirectory path) (hne : Path.directory path ≠ "") :
    tree.isDirectory workingDirectory (Path.directory path) = true := by
  obtain ⟨⟨parent, name, hparent⟩, _⟩ := h
  obtain ⟨husable, hfollow, hdirectory, _⟩ := parentAndName_eq_ok_iff.mp hparent
  exact isDirectory_iff.mpr ⟨parent, lookup_directory husable hne hfollow hdirectory⟩

/-- What can be written stays so while directories are kept, unless it becomes one itself. -/
theorem Writable.of_keepsDirectories {before after : FileTree} {workingDirectory path : String}
    (h : before.Writable workingDirectory path) (hkeeps : KeepsDirectories before after)
    (hget : after.get? (place workingDirectory path) ≠ some .directory) :
    after.Writable workingDirectory path := by
  obtain ⟨⟨parent, name, hparent⟩, _⟩ := h
  obtain ⟨husable, hfollow, hdirectory, hname⟩ := parentAndName_eq_ok_iff.mp hparent
  exact ⟨⟨parent, name, parentAndName_eq_ok_iff.mpr ⟨husable,
    follow_of_keepsDirectories hkeeps hfollow, hkeeps parent hdirectory, hname⟩⟩, hget⟩

/-- Where a file could be written, and no directory was lost since, a path leads to what is at its
place. -/
theorem Writable.lookup_of_keepsDirectories {before after : FileTree}
    {workingDirectory path : String} (h : before.Writable workingDirectory path)
    (hkeeps : KeepsDirectories before after) {entry : Entry}
    (hentry : after.get? (place workingDirectory path) = some entry) :
    after.lookup workingDirectory path = .ok (place workingDirectory path, entry) := by
  obtain ⟨⟨parent, name, hparent⟩, _⟩ := h
  obtain ⟨husable, hfollow, hdirectory, ⟨hempty, hpoint, hup, hsize⟩, _⟩ :=
    parentAndName_eq_ok_iff.mp hparent
  have hname : after.follow parent [name] = .ok (place workingDirectory path) := by
    rw [follow_cons_eq_ok_iff, Path.after_name hempty hpoint hup, place_of_parentAndName hparent]
    exact ⟨hkeeps parent hdirectory, hsize, rfl⟩
  refine lookup_eq_ok_iff.mpr ⟨husable, ?_, hentry⟩
  rw [← steps_of_parentAndName hparent]
  exact follow_append_eq_ok_iff.mpr ⟨parent, follow_of_keepsDirectories hkeeps hfollow, hname⟩

/-! ## Refusals -/

/-- Paths with a null character are refused before the operating system gets to see them. -/
theorem isSystem_iff {error : PathError} : error.isSystem = true ↔ error.cause ≠ .nullByte := by
  obtain ⟨cause, path⟩ := error
  cases cause <;> simp [PathError.isSystem, PathCause.describe?]

/-- Without such a character, a path may be unusable for another reason only. -/
theorem unusable?_ne_nullByte {path : String} (h : hasNull path = false) :
    unusable? path ≠ some .nullByte := by
  unfold unusable?
  grind

/-- Following steps finds no null characters: these have been looked for before. -/
theorem follow_ne_nullByte (tree : FileTree) (start : Place) (taken : List String) :
    tree.follow start taken ≠ .error .nullByte := by
  induction taken generalizing start with
  | nil => simp [follow]
  | cons step rest ih =>
      unfold follow
      grind

/-- A path without a null character is refused by the operating system, if at all, when a file is
read. -/
theorem isSystem_of_read {tree : FileTree} {workingDirectory path : String} {problem : PathError}
    (hpath : hasNull path = false) (h : tree.read workingDirectory path = .error problem) :
    problem.isSystem = true := by
  have husable := unusable?_ne_nullByte hpath
  have hfollow := tree.follow_ne_nullByte [] (steps (join workingDirectory path))
  rw [isSystem_iff]
  unfold read lookup locate at h
  grind

/-- A path without a null character is refused by the operating system, if at all, when a file is
written. -/
theorem isSystem_of_write {tree : FileTree} {workingDirectory path : String} {data : Bytes}
    {problem : PathError} (hpath : hasNull path = false)
    (h : tree.write workingDirectory path data = .error problem) : problem.isSystem = true := by
  have husable := unusable?_ne_nullByte hpath
  have hfollow := tree.follow_ne_nullByte [] (steps (join workingDirectory path)).dropLast
  rw [isSystem_iff]
  unfold write parentAndName at h
  grind

/-! ## Making directories -/

/-- The second file system has more directories than the first, at some of the given places, where
nothing was before.  Nothing else is different. -/
def AddsDirectories (allowed : Place → Prop) (before after : FileTree) : Prop :=
  ∀ spot, after.get? spot = before.get? spot ∨
    (allowed spot ∧ before.get? spot = none ∧ after.get? spot = some .directory)

namespace AddsDirectories

variable {allowed : Place → Prop} {before between after : FileTree}

theorem refl (allowed : Place → Prop) (tree : FileTree) : AddsDirectories allowed tree tree :=
  fun _ => .inl rfl

/-- Directories may be added in two goes. -/
theorem trans (hfirst : AddsDirectories allowed before between)
    (hsecond : AddsDirectories allowed between after) : AddsDirectories allowed before after := by
  intro spot
  rcases hfirst spot with hsame | ⟨hallowed, hnone, hmade⟩
  · rw [← hsame]
    exact hsecond spot
  · rcases hsecond spot with hsame | ⟨_, hother, _⟩
    · exact .inr ⟨hallowed, hnone, hsame.trans hmade⟩
    · rw [hmade] at hother
      contradiction

theorem mono (h : AddsDirectories allowed before after) {wider : Place → Prop}
    (hwider : ∀ spot, allowed spot → wider spot) : AddsDirectories wider before after := by
  intro spot
  rcases h spot with hsame | ⟨hallowed, hnone, hmade⟩
  · exact .inl hsame
  · exact .inr ⟨hwider spot hallowed, hnone, hmade⟩

/-- Added directories take nothing away. -/
theorem keepsDirectories (h : AddsDirectories allowed before after) :
    KeepsDirectories before after := by
  intro spot hspot
  rcases h spot with hsame | ⟨_, hnone, _⟩
  · rw [hsame, hspot]
  · rw [hspot] at hnone
    contradiction

/-- Files are neither made nor changed nor lost. -/
theorem get?_eq_file_iff (h : AddsDirectories allowed before after) {spot : Place} {data : Bytes} :
    after.get? spot = some (.file data) ↔ before.get? spot = some (.file data) := by
  rcases h spot with hsame | ⟨_, hnone, hmade⟩
  · rw [hsame]
  · rw [hnone, hmade]
    simp

end AddsDirectories

/-- Slashes at the end of a path do not change its place. -/
theorem place_append_slashes {path : String} (h : path ≠ "") (workingDirectory : String)
    (count : Nat) :
    place workingDirectory (path ++ Path.slashes count) = place workingDirectory path := by
  rw [Path.place_eq_after, Path.place_eq_after, Path.join_append h, Path.steps_append_slashes_end,
    Path.after_append, Path.after_replicate_empty]

theorem place_withoutTrailingSlashes {path : String} (h : withoutTrailingSlashes path ≠ "")
    (workingDirectory : String) :
    place workingDirectory (withoutTrailingSlashes path) = place workingDirectory path := by
  obtain ⟨count, hpath⟩ : ∃ count, path = withoutTrailingSlashes path ++ Path.slashes count := by
    have hslashes := Path.ofList_reverse_eq_append_slashes path.toList.reverse
    rw [List.reverse_reverse, String.ofList_toList] at hslashes
    exact ⟨_, hslashes⟩
  rw [← place_append_slashes h workingDirectory count, ← hpath]

/-- A directory is made at its place, where nothing was before. -/
theorem makeDirectory_eq_ok {tree made : FileTree} {workingDirectory path : String}
    (h : tree.makeDirectory workingDirectory path = .ok made) :
    tree.get? (place workingDirectory path) = none ∧
      made = tree.put (place workingDirectory path) .directory := by
  unfold makeDirectory at h
  split at h
  · contradiction
  · split at h
    · contradiction
    · next hne =>
        cases hparent : tree.parentAndName workingDirectory (withoutTrailingSlashes path) with
        | error cause => simp [hparent] at h
        | ok found =>
            obtain ⟨parent, name | name⟩ := found
            · simp [hparent] at h
            · simp only [hparent] at h
              rw [place_of_parentAndName hparent, place_withoutTrailingSlashes hne] at h
              cases hget : tree.get? (place workingDirectory path) with
              | some entry => simp [hget] at h
              | none =>
                  simp only [hget, Except.ok.injEq] at h
                  exact ⟨rfl, h.symm⟩

/-- Making sure of a directory adds it, or nothing. -/
theorem addsDirectories_ensureDirectory (tree : FileTree) (workingDirectory path : String) :
    AddsDirectories (· = place workingDirectory path) tree
      (tree.ensureDirectory workingDirectory path).1 := by
  rw [ensureDirectory]
  cases hmake : tree.makeDirectory workingDirectory path with
  | error problem =>
      simp only
      split <;> exact .refl _ tree
  | ok made =>
      obtain ⟨hnone, rfl⟩ := makeDirectory_eq_ok hmake
      intro spot
      by_cases hnil : spot = []
      · rw [hnil, get?_top, get?_top]
        exact .inl rfl
      · by_cases hspot : spot = place workingDirectory path
        · refine .inr ⟨hspot, by rw [hspot, hnone], ?_⟩
          rw [get?_put hnil, if_pos hspot]
        · exact .inl (by rw [get?_put hnil, if_neg hspot])

/-- A directory that is there is left alone. -/
theorem ensureDirectory_of_isDirectory {tree : FileTree} {workingDirectory path : String}
    (h : tree.isDirectory workingDirectory path = true) :
    tree.ensureDirectory workingDirectory path = (tree, none) := by
  obtain ⟨spot, hlookup⟩ := isDirectory_iff.mp h
  obtain ⟨_, hget⟩ := get?_place_of_lookup hlookup
  rw [ensureDirectory]
  cases hmake : tree.makeDirectory workingDirectory path with
  | error problem => simp [h]
  | ok made =>
      obtain ⟨hnone, _⟩ := makeDirectory_eq_ok hmake
      rw [hnone] at hget
      contradiction

/-- The path that is made first is the directory of a path, or the directory of that. -/
theorem parentOf_fst (path : String) :
    (parentOf path).1 = Path.directory path ∨
      (parentOf path).1 = Path.directory (Path.directory path) := by
  unfold parentOf Path.directory
  split
  · next front hsplit => exact .inr (by rw [hsplit])
  · exact .inl rfl

/-- If there is something in front of the last step, then no other directories are made. -/
theorem ensureUpTo_of_directory {tree : FileTree} {workingDirectory path : String}
    (h : Path.directory path = "" ∨
      tree.hasPath workingDirectory (Path.directory path) = true) (depth : Nat) :
    ensureUpTo workingDirectory depth tree path = tree.ensureDirectory workingDirectory path := by
  cases depth with
  | zero => rfl
  | succ depth =>
      have hparent : (parentOf path).1 = "" ∨
          tree.hasPath workingDirectory (parentOf path).1 = true := by
        rcases parentOf_fst path with heq | heq
        · rwa [heq]
        · rw [heq]
          rcases h with hempty | hpath
          · rw [hempty]
            exact .inl rfl
          · by_cases hne : Path.directory (Path.directory path) = ""
            · exact .inl hne
            · exact .inr (hasPath_of_isDirectory (isDirectory_directory_of_hasPath hpath hne))
      rw [ensureUpTo]
      rcases hparent with hempty | hpath
      · simp [hempty]
      · simp [hpath]

/-- Making a directory that is there does nothing. -/
theorem ensureDirectories_of_isDirectory {tree : FileTree} {workingDirectory path : String}
    (h : tree.isDirectory workingDirectory path = true) :
    tree.ensureDirectories workingDirectory path = (tree, none) := by
  have hdirectory : Path.directory path = "" ∨
      tree.hasPath workingDirectory (Path.directory path) = true := by
    by_cases hne : Path.directory path = ""
    · exact .inl hne
    · exact .inr (hasPath_of_isDirectory
        (isDirectory_directory_of_hasPath (hasPath_of_isDirectory h) hne))
  rw [ensureDirectories, ensureUpTo_of_directory hdirectory, ensureDirectory_of_isDirectory h]

/-- The places of a path and of all that are left of it when its last steps are dropped one by
one. -/
def OnTheWay (workingDirectory path : String) (spot : Place) : Prop :=
  ∃ n, spot = place workingDirectory (Path.directory^[n] path)

/-- What is on the way to the directory of a path is on the way to the path. -/
theorem OnTheWay.of_directory {workingDirectory path : String} {spot : Place}
    (h : OnTheWay workingDirectory (Path.directory path) spot) :
    OnTheWay workingDirectory path spot := by
  obtain ⟨n, hspot⟩ := h
  exact ⟨n + 1, by rw [Function.iterate_succ_apply, hspot]⟩

/-- Making sure of a directory and of those above it adds directories on the way only. -/
theorem addsDirectories_ensureUpTo (workingDirectory : String) (depth : Nat) (tree : FileTree)
    (path : String) :
    AddsDirectories (OnTheWay workingDirectory path) tree
      (ensureUpTo workingDirectory depth tree path).1 := by
  have hlast (tree : FileTree) : AddsDirectories (OnTheWay workingDirectory path) tree
      (tree.ensureDirectory workingDirectory path).1 :=
    (addsDirectories_ensureDirectory tree workingDirectory path).mono fun spot hspot => ⟨0, hspot⟩
  induction depth generalizing tree path with
  | zero => exact hlast tree
  | succ depth ih =>
      have hparent : AddsDirectories (OnTheWay workingDirectory path) tree
          (ensureUpTo workingDirectory depth tree (parentOf path).1).1 := by
        refine (ih tree (parentOf path).1 ?_).mono fun spot hspot => ?_
        · exact fun tree => (addsDirectories_ensureDirectory tree workingDirectory _).mono
            fun spot hspot => ⟨0, hspot⟩
        -- behind a slash at the end, the parent is that of the path without the slash
        · rcases parentOf_fst path with heq | heq
          · rw [heq] at hspot
            exact hspot.of_directory
          · rw [heq] at hspot
            exact hspot.of_directory.of_directory
      rw [ensureUpTo]
      simp only
      split
      · exact hlast tree
      · split
        · exact hparent
        · split
          · exact hparent
          · exact hparent.trans (hlast _)

/-- Making directories only adds some on the way. -/
theorem addsDirectories_ensureDirectories (tree : FileTree) (workingDirectory path : String) :
    AddsDirectories (OnTheWay workingDirectory path) tree
      (tree.ensureDirectories workingDirectory path).1 :=
  addsDirectories_ensureUpTo workingDirectory path.length tree path

end StubGen.FileTree
