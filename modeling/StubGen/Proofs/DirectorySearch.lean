import StubGen.Proofs.Exclusion

/-!
# StubGen.Proofs.DirectorySearch

What a search finds in directories: all files in them that are named like a schema, and nothing else
(`directory_search_exact`).

1. A name that is joined to the path of a directory leads to what has that name in the directory
   (`FileTree.lookup_join_eq_ok_iff`), if the joined path is not too long.
2. So the two ways to list schema files, by the names in a directory and by all that lies below it,
   are told by the names that lead to the files (`SearchRequest.mem_filesOf_iff`), and their paths
   lead to the place of the directory and these names behind it (`SearchRequest.exists_place_iff`).
3. The spelling of a directory decides only which paths are too long, and whether they have two
   slashes at their front, which makes other paths of them (`SearchRequest.nodup_placesOf`).
-/

namespace StubGen

open StubGen.Path (steps join place isAbsolute IsProper)

/-! ## Joined paths -/

namespace Path

instance (name : String) : Decidable (IsProper name) :=
  inferInstanceAs (Decidable ((name ≠ "" ∧ name ≠ "." ∧ name ≠ "..") ∧ '/' ∉ name.toList))

/-- What stands between a base and a path that is joined to it. -/
def separator (base : String) : String :=
  if "/".toList.isSuffixOf base.toList then "" else "/"

/-- A path is joined to its base by a slash, unless the base ends in one. -/
theorem join_eq_append {base path : String} (hbase : base ≠ "") (h : isAbsolute path = false) :
    join base path = base ++ separator base ++ path := by
  unfold join separator
  rw [if_neg (by simp [h])]
  cases "/".toList.isSuffixOf base.toList <;> simp [hbase]

theorem separator_append (front : String) {rest : String} (h : rest ≠ "") :
    separator (front ++ rest) = separator rest := by
  have hne : rest.toList ≠ [] := by simpa using h
  have hsuffix :
      "/".toList.isSuffixOf (front ++ rest).toList = "/".toList.isSuffixOf rest.toList := by
    rw [Bool.eq_iff_iff, List.isSuffixOf_iff_suffix, List.isSuffixOf_iff_suffix,
      String.toList_append]
    constructor
    · intro hfront
      exact List.suffix_of_suffix_length_le hfront (List.suffix_append _ _)
        (List.length_pos_iff.mpr hne)
    · intro hrest
      exact hrest.trans (List.suffix_append _ _)
  rw [separator, separator, hsuffix]

/-- A joined path ends as the path itself. -/
theorem exists_join_eq_append (base path : String) : ∃ front, join base path = front ++ path := by
  unfold join
  split
  · exact ⟨"", by simp⟩
  · split
    · exact ⟨base, rfl⟩
    · exact ⟨base ++ "/", rfl⟩

theorem join_ne_empty {path : String} (h : path ≠ "") (base : String) : join base path ≠ "" := by
  obtain ⟨front, hfront⟩ := exists_join_eq_append base path
  simp [hfront, h]

/-- Paths may be joined from the front or from the end. -/
theorem join_join {directory path : String} (hdirectory : directory ≠ "")
    (h : isAbsolute path = false) (base : String) :
    join base (join directory path) = join (join base directory) path := by
  obtain ⟨front, hfront⟩ := exists_join_eq_append base directory
  have hseparator : separator (join base directory) = separator directory := by
    rw [hfront, separator_append front hdirectory]
  rw [join_eq_append hdirectory h, join_eq_append (join_ne_empty hdirectory base) h, hseparator,
    String.append_assoc, join_append hdirectory, String.append_assoc]

/-- What is in front of a joined path is in front of its base. -/
theorem hasTwoSlashes_join {base path : String} (hbase : base ≠ "") (hne : path ≠ "")
    (h : isAbsolute path = false) : hasTwoSlashes (join base path) = hasTwoSlashes base := by
  obtain ⟨p, more, hpath⟩ := List.exists_cons_of_ne_nil (show path.toList ≠ [] by simpa using hne)
  have hp : p ≠ '/' := by
    rintro rfl
    simp [isAbsolute, hpath] at h
  rw [join_eq_append hbase h, hasTwoSlashes, hasTwoSlashes, String.toList_append,
    String.toList_append, hpath, separator]
  rcases hchars : base.toList with _ | ⟨c, _ | ⟨d, _ | ⟨e, rest⟩⟩⟩
  · exact absurd (String.toList_eq_nil_iff.mp hchars) hbase
  · by_cases hc : c = '/' <;> simp [hc, hp]
  · by_cases hc : c = '/' <;> by_cases hd : d = '/' <;> simp [hc, hd, hp]
  · by_cases hc : c = '/' <;> by_cases hd : d = '/' <;> by_cases he : e = '/' <;> simp [hc, hd, he]

end Path

namespace FileTree

/-! ## Trees -/

/-- A name that the operating system allows. -/
@[mk_iff]
structure IsAllowed (name : String) : Prop where
  proper : IsProper name
  short : name.utf8ByteSize ≤ nameLimit
  clean : '\x00' ∉ name.toList

instance (name : String) : Decidable (IsAllowed name) :=
  decidable_of_iff _ (isAllowed_iff name).symm

/-- A file system in which no two entries are at one place, and all names are allowed. -/
@[mk_iff]
structure WellFormed (tree : FileTree) : Prop where
  distinct : (tree.entries.map Prod.fst).Nodup
  names : ∀ entry ∈ tree.entries, ∀ name ∈ entry.1, IsAllowed name

instance (tree : FileTree) : Decidable tree.WellFormed :=
  decidable_of_iff _ (wellFormed_iff tree).symm

/-- In a tree with one entry at each place, looking an entry up is finding it. -/
theorem mem_entries_iff {tree : FileTree} (h : (tree.entries.map Prod.fst).Nodup) {spot : Place}
    (hspot : spot ≠ []) {entry : Entry} :
    (spot, entry) ∈ tree.entries ↔ tree.get? spot = some entry := by
  rw [get?_of_ne_nil tree hspot]
  constructor
  · intro hmem
    cases hfind : tree.entries.find? fun other => other.1 == spot with
    | none =>
        have hnone := List.find?_eq_none.mp hfind (spot, entry) hmem
        simp at hnone
    | some other =>
        have hother : other.1 = spot := by simpa using List.find?_some hfind
        have heq := List.inj_on_of_nodup_map h (List.mem_of_find?_eq_some hfind) hmem hother
        simp [heq]
  · intro hget
    obtain ⟨other, hfind, rfl⟩ := Option.map_eq_some_iff.mp hget
    have hother : other.1 = spot := by simpa using List.find?_some hfind
    rw [← hother]
    exact List.mem_of_find?_eq_some hfind

/-- In a well-formed tree all names are allowed. -/
theorem WellFormed.isAllowed {tree : FileTree} (h : tree.WellFormed) {spot : Place} {entry : Entry}
    (hget : tree.get? spot = some entry) {name : String} (hname : name ∈ spot) :
    IsAllowed name := by
  have hspot : spot ≠ [] := List.ne_nil_of_mem hname
  exact h.names _ ((mem_entries_iff h.distinct hspot).mpr hget) name hname

/-! ## Paths into directories -/

/-- A path that does not lead from the top goes on from where its base leads to. -/
theorem follow_steps_join_eq_ok_iff {tree : FileTree} {base path : String} {spot target : Place}
    (hbase : tree.follow [] (steps base) = .ok spot) (hne : base ≠ "")
    (h : isAbsolute path = false) :
    tree.follow [] (steps (join base path)) = .ok target ↔
      tree.follow spot (steps path) = .ok target := by
  have hfront : ∃ front, tree.follow [] front = .ok spot ∧
      steps (join base path) = front ++ steps path := by
    rw [Path.join_eq_append hne h, Path.separator]
    split
    next hslash =>
      -- the empty step behind the slash stays in the directory in front of it
      obtain ⟨front, hfront⟩ := List.isSuffixOf_iff_suffix.mp hslash
      have hsplit : base = String.ofList front ++ "/" := by
        apply String.ext
        simpa using hfront.symm
      have hend := Path.steps_append_slash (String.ofList front) ""
      rw [String.append_empty, ← hsplit, Path.steps_empty] at hend
      rw [hend, follow_append_eq_ok_iff] at hbase
      obtain ⟨middle, hmiddle, hstay⟩ := hbase
      have hspot : spot = middle := by
        simpa [Path.after_stay] using eq_after_of_follow hstay
      refine ⟨steps (String.ofList front), hspot ▸ hmiddle, ?_⟩
      rw [String.append_empty, hsplit, Path.steps_append_slash]
    next => exact ⟨steps base, hbase, Path.steps_append_slash base path⟩
  obtain ⟨front, hfollow, hsteps⟩ := hfront
  rw [hsteps, follow_append_eq_ok_iff]
  constructor
  · rintro ⟨middle, hmiddle, htarget⟩
    obtain rfl := Except.ok.inj (hfollow.symm.trans hmiddle)
    exact htarget
  · exact fun htarget => ⟨spot, hfollow, htarget⟩

/-- The paths that can be used. -/
theorem unusable?_eq_none_iff {path : String} :
    unusable? path = none ↔
      '\x00' ∉ path.toList ∧ path ≠ "" ∧ path.utf8ByteSize < pathLimit := by
  unfold unusable? hasNull
  grind

theorem IsAllowed.isAbsolute {name : String} (h : IsAllowed name) : isAbsolute name = false := by
  apply Path.isAbsolute_of_not_mem_steps
  rw [Path.steps_of_not_mem h.proper.2, List.mem_singleton]
  exact h.proper.1.1.symm

/-- A name in a directory leads to what has that name there, if its path is not too long. -/
theorem lookup_join_eq_ok_iff {tree : FileTree} {workingDirectory directory : String} {base : Place}
    (hdirectory : tree.lookup workingDirectory directory = .ok (base, .directory)) {name : String}
    (hname : IsAllowed name) {spot : Place} {entry : Entry} :
    tree.lookup workingDirectory (join directory name) = .ok (spot, entry) ↔
      (join directory name).utf8ByteSize < pathLimit ∧ spot = base ++ [name] ∧
        tree.get? spot = some entry := by
  obtain ⟨husable, hfollow, hget⟩ := lookup_eq_ok_iff.mp hdirectory
  obtain ⟨hclean, hne, _⟩ := unusable?_eq_none_iff.mp husable
  have hjoinClean : '\x00' ∉ (join directory name).toList := by
    rw [Path.join_eq_append hne hname.isAbsolute, Path.separator]
    split <;> simp [hclean, hname.clean]
  have hjoinNe : join directory name ≠ "" := by
    simp [Path.join_eq_append hne hname.isAbsolute, hne]
  have hstep : tree.follow base [name] = .ok spot ↔ base ++ [name] = spot := by
    obtain ⟨hempty, hpoint, hup⟩ := hname.proper.1
    rw [follow_cons_eq_ok_iff, Path.after_name hempty hpoint hup]
    simp [hget, hname.short, follow]
  rw [lookup_eq_ok_iff, unusable?_eq_none_iff, Path.join_join hne hname.isAbsolute,
    follow_steps_join_eq_ok_iff hfollow (Path.join_ne_empty hne _) hname.isAbsolute,
    Path.steps_of_not_mem hname.proper.2, hstep]
  simp [hjoinClean, hjoinNe, eq_comm]

/-- What leads to a directory is neither empty nor too long. -/
theorem usable_of_isDirectory {tree : FileTree} {workingDirectory path : String}
    (h : tree.isDirectory workingDirectory path = true) :
    path ≠ "" ∧ path.utf8ByteSize < pathLimit := by
  obtain ⟨_, hlookup⟩ := isDirectory_iff.mp h
  exact (unusable?_eq_none_iff.mp (lookup_eq_ok_iff.mp hlookup).1).2

/-- A name in a directory leads to a file if one is there, and if the path is not too long. -/
theorem isFile_join_iff {tree : FileTree} {workingDirectory directory : String} {base : Place}
    (hdirectory : tree.lookup workingDirectory directory = .ok (base, .directory)) {name : String}
    (hname : IsAllowed name) :
    tree.isFile workingDirectory (join directory name) = true ↔
      (join directory name).utf8ByteSize < pathLimit ∧
        ∃ data, tree.get? (base ++ [name]) = some (.file data) := by
  simp [isFile_iff, lookup_join_eq_ok_iff hdirectory hname]

/-- Slashes behind a path to a directory change nothing, if they do not make it too long. -/
theorem isDirectory_append_slashes {tree : FileTree} {workingDirectory path : String}
    (h : tree.isDirectory workingDirectory path = true) {count : Nat}
    (hsize : path.utf8ByteSize + count < pathLimit) :
    tree.isDirectory workingDirectory (path ++ Path.slashes count) = true := by
  obtain ⟨base, hlookup⟩ := isDirectory_iff.mp h
  obtain ⟨husable, hfollow, hget⟩ := lookup_eq_ok_iff.mp hlookup
  obtain ⟨hclean, hne, -⟩ := unusable?_eq_none_iff.mp husable
  refine isDirectory_iff.mpr ⟨base, lookup_eq_ok_iff.mpr ⟨?_, ?_, hget⟩⟩
  · rw [unusable?_eq_none_iff, String.utf8ByteSize_append, Path.utf8ByteSize_slashes]
    exact ⟨by simp [Path.slashes, hclean], by simp [hne], hsize⟩
  · rw [Path.join_append hne, Path.steps_append_slashes_end, follow_append_eq_ok_iff]
    exact ⟨base, hfollow, follow_replicate_empty hget count⟩

/-! ## Schema files -/

/-- There is a file at a place, and it is named like a schema. -/
def IsSchemaFile (tree : FileTree) (spot : Place) : Prop :=
  (∃ data, tree.get? spot = some (.file data)) ∧ FileName.hasSchemaSuffix (spot.getLastD "") = true

/-- The names on the way to a schema file are proper, so that its path can be read by its spelling.
-/
theorem IsSchemaFile.isProper {tree : FileTree} {spot names : Place}
    (h : tree.IsSchemaFile (spot ++ names)) (htree : tree.WellFormed) :
    ∀ name ∈ names, IsProper name := by
  obtain ⟨⟨data, hdata⟩, -⟩ := h
  intro name hname
  exact (htree.isAllowed hdata (List.mem_append_right _ hname)).proper

end FileTree

/-- Names that a search follows from a directory: a single one, if the path that it leads to is not
too long; in a recursive search any number, if the path that all but the last lead to is not too
long. -/
def Reaches (directory : String) (names : Place) : (recursive : Bool) → Prop
  | false => names.length = 1 ∧ (Path.descend directory names).utf8ByteSize < pathLimit
  | true => names ≠ [] ∧ (Path.descend directory names.dropLast).utf8ByteSize < pathLimit

theorem Reaches.ne_nil {directory : String} {names : Place} {recursive : Bool}
    (h : Reaches directory names recursive) : names ≠ [] := by
  cases recursive with
  | false => exact List.ne_nil_of_length_eq_add_one h.1
  | true => exact h.1

namespace Glob.Scope

variable {tree : FileTree} {workingDirectory directory : String} {recursive : Bool} {base : Place}

/-- The schema files right in a directory. -/
theorem mem_schemaFilesIn_iff (htree : tree.WellFormed)
    (hdirectory : tree.lookup workingDirectory directory = .ok (base, .directory)) {path : String} :
    path ∈ schemaFilesIn ⟨tree, workingDirectory, recursive⟩ directory base ↔
      ∃ name, tree.IsSchemaFile (base ++ [name]) ∧
        (join directory name).utf8ByteSize < pathLimit ∧ path = join directory name := by
  simp only [schemaFilesIn, namesAt, List.mem_map, List.mem_filter, Bool.and_eq_true,
    FileTree.mem_namesIn_iff, FileTree.IsSchemaFile, List.getLastD_concat]
  constructor
  · rintro ⟨name, ⟨⟨⟨entry, hentry⟩, -⟩, hsuffix, hfile⟩, rfl⟩
    have hname := htree.names _ hentry name (by simp)
    obtain ⟨hsize, hdata⟩ := (FileTree.isFile_join_iff hdirectory hname).mp hfile
    exact ⟨name, ⟨hdata, hsuffix⟩, hsize, rfl⟩
  · rintro ⟨name, ⟨⟨data, hdata⟩, hsuffix⟩, hsize, rfl⟩
    have hname : FileTree.IsAllowed name := htree.isAllowed hdata (by simp)
    have hentry := (FileTree.mem_entries_iff htree.distinct (by simp)).mpr hdata
    exact ⟨name, ⟨⟨⟨_, hentry⟩, by simp⟩, hsuffix,
      (FileTree.isFile_join_iff hdirectory hname).mpr ⟨hsize, data, hdata⟩⟩, rfl⟩

/-- The schema files at any depth, where only the directories on the way must have paths that are
not too long. -/
theorem mem_schemaFilesBelow_iff (htree : tree.WellFormed) {path : String} :
    path ∈ schemaFilesBelow ⟨tree, workingDirectory, recursive⟩ directory base ↔
      ∃ names ≠ [], tree.IsSchemaFile (base ++ names) ∧
        (Path.descend directory names.dropLast).utf8ByteSize < pathLimit ∧
        path = join directory ("/".intercalate names) := by
  have hlast {names : Place} (hne : names ≠ []) :
      (base ++ names).getLastD "" = names.getLastD "" := by
    simp [List.getLastD_eq_getLast?, List.getLast?_append_of_ne_nil _ hne]
  simp only [schemaFilesBelow, reachedBelow, List.mem_map, List.mem_filter, Bool.and_eq_true,
    decide_eq_true_eq, bne_iff_ne]
  constructor
  · rintro ⟨⟨names, entry⟩, ⟨⟨hbelow, hsize⟩, hentry, hsuffix⟩, rfl⟩
    obtain ⟨hne, hmem⟩ := FileTree.mem_below_iff.mp hbelow
    rw [FileTree.mem_entries_iff htree.distinct (by simp [hne])] at hmem
    cases entry with
    | directory => exact absurd rfl hentry
    | file data => exact ⟨names, hne, ⟨⟨data, hmem⟩, by rwa [hlast hne]⟩, hsize, rfl⟩
  · rintro ⟨names, hne, ⟨⟨data, hdata⟩, hsuffix⟩, hsize, rfl⟩
    rw [hlast hne] at hsuffix
    have hmem := (FileTree.mem_entries_iff htree.distinct (by simp [hne])).mpr hdata
    exact ⟨(names, .file data),
      ⟨⟨FileTree.mem_below_iff.mpr ⟨hne, hmem⟩, hsize⟩, by simp, hsuffix⟩, rfl⟩

end Glob.Scope

/-! ## The schema files of one directory -/

namespace SearchRequest

variable {tree : FileTree} {workingDirectory : String} {paths : List String}

/-- A search in directories that leaves nothing out. -/
def inDirectories (paths : List String) (recursive : Bool) : SearchRequest :=
  ⟨.given paths, .given [], .given recursive⟩

/-- The schema files in a directory, or below it. -/
def filesOf (tree : FileTree) (workingDirectory : String) (recursive : Bool) (directory : String) :
    List String :=
  let scope : Glob.Scope := ⟨tree, workingDirectory, recursive⟩
  let base := place workingDirectory directory
  if recursive then scope.schemaFilesBelow directory base else scope.schemaFilesIn directory base

/-- A directory is searched without looking at its name as a pattern. -/
theorem search_of_isDirectory {directory : String}
    (h : tree.isDirectory workingDirectory directory = true) (recursive : Bool) :
    Glob.Scope.search ⟨tree, workingDirectory, recursive⟩ directory =
      .ok (filesOf tree workingDirectory recursive directory) := by
  obtain ⟨base, hlookup⟩ := FileTree.isDirectory_iff.mp h
  have hbase := (FileTree.get?_place_of_lookup hlookup).1
  simp only [Glob.Scope.search, hlookup, filesOf, hbase]

/-- The place of a path below a directory lies below that of the directory. -/
theorem place_join_intercalate {names : Place} (hne : names ≠ [])
    (h : ∀ name ∈ names, IsProper name) (workingDirectory directory : String) :
    place workingDirectory (join directory ("/".intercalate names)) =
      place workingDirectory directory ++ names := by
  rw [Path.place_join (Path.isAbsolute_intercalate h), Path.steps_intercalate h hne,
    Path.after_of_leadsDown fun name hname => (h name hname).1]

/-- The schema files of a directory, by the names that lead to them. -/
theorem mem_filesOf_iff (htree : tree.WellFormed) {directory : String}
    (hdirectory : tree.isDirectory workingDirectory directory = true) {recursive : Bool}
    {file : String} :
    file ∈ filesOf tree workingDirectory recursive directory ↔
      ∃ names, tree.IsSchemaFile (place workingDirectory directory ++ names) ∧
        Reaches directory names recursive ∧ file = join directory ("/".intercalate names) := by
  obtain ⟨base, hlookup⟩ := FileTree.isDirectory_iff.mp hdirectory
  have hbase := (FileTree.get?_place_of_lookup hlookup).1
  rw [filesOf, ← hbase]
  cases recursive with
  | false =>
      simp only [Bool.false_eq_true, if_false]
      rw [Glob.Scope.mem_schemaFilesIn_iff htree hlookup]
      constructor
      · rintro ⟨name, hfile, hsize, hpath⟩
        exact ⟨[name], hfile, ⟨rfl, hsize⟩, by rw [String.intercalate_singleton, hpath]⟩
      · rintro ⟨names, hfile, ⟨hlength, hsize⟩, hpath⟩
        obtain ⟨name, rfl⟩ := List.length_eq_one_iff.mp hlength
        exact ⟨name, hfile, hsize, by rw [hpath, String.intercalate_singleton]⟩
  | true =>
      simp only [if_true]
      rw [Glob.Scope.mem_schemaFilesBelow_iff htree]
      constructor
      · rintro ⟨names, hne, hfile, hsize, hpath⟩
        exact ⟨names, hfile, ⟨hne, hsize⟩, hpath⟩
      · rintro ⟨names, hfile, ⟨hne, hsize⟩, hpath⟩
        exact ⟨names, hne, hfile, hsize, hpath⟩

/-- The schema files of a directory, by their places. -/
theorem exists_place_iff (htree : tree.WellFormed) {directory : String}
    (hdirectory : tree.isDirectory workingDirectory directory = true) {recursive : Bool}
    {spot : Place} :
    (∃ file ∈ filesOf tree workingDirectory recursive directory,
        place workingDirectory file = spot) ↔
      tree.IsSchemaFile spot ∧
        ∃ names, spot = place workingDirectory directory ++ names ∧
          Reaches directory names recursive := by
  constructor
  · rintro ⟨file, hmem, hplace⟩
    obtain ⟨names, hfile, hreaches, hpath⟩ := (mem_filesOf_iff htree hdirectory).mp hmem
    rw [hpath, place_join_intercalate hreaches.ne_nil (hfile.isProper htree)] at hplace
    exact ⟨hplace ▸ hfile, names, hplace.symm, hreaches⟩
  · rintro ⟨hfile, names, hspot, hreaches⟩
    rw [hspot] at hfile
    refine ⟨_, (mem_filesOf_iff htree hdirectory).mpr ⟨names, hfile, hreaches, rfl⟩, ?_⟩
    rw [place_join_intercalate hreaches.ne_nil (hfile.isProper htree), hspot]

/-- The paths of the schema files keep the two slashes at the front of their directory. -/
theorem hasTwoSlashes_of_mem_filesOf (htree : tree.WellFormed) {directory : String}
    (hdirectory : tree.isDirectory workingDirectory directory = true) {recursive : Bool}
    {file : String} (h : file ∈ filesOf tree workingDirectory recursive directory) :
    Path.hasTwoSlashes (join workingDirectory file) =
      Path.hasTwoSlashes (join workingDirectory directory) := by
  obtain ⟨names, hfile, hreaches, rfl⟩ := (mem_filesOf_iff htree hdirectory).mp h
  have hnames := hfile.isProper htree
  have habsolute := Path.isAbsolute_intercalate hnames
  have hne : "/".intercalate names ≠ "" := by
    intro hempty
    have hsteps := Path.steps_intercalate hnames hreaches.ne_nil
    rw [hempty, Path.steps_empty] at hsteps
    exact (hnames "" (by simp [← hsteps])).1.1 rfl
  have hdirectoryNe := (FileTree.usable_of_isDirectory hdirectory).1
  rw [Path.join_join hdirectoryNe habsolute,
    Path.hasTwoSlashes_join (Path.join_ne_empty hdirectoryNe _) hne habsolute]

/-- A recursive search follows all names that any search does. -/
theorem reaches_recursive {directory : String} {names : Place}
    (hdirectory : tree.isDirectory workingDirectory directory = true)
    (h : Reaches directory names false) : Reaches directory names true := by
  obtain ⟨name, rfl⟩ := List.length_eq_one_iff.mp h.1
  exact ⟨by simp, (FileTree.usable_of_isDirectory hdirectory).2⟩

/-! ## Searches in several directories -/

/-- The places of the schema files of some directories, each path once. -/
def placesOf (tree : FileTree) (workingDirectory : String) (paths : List String)
    (recursive : Bool) : List Place :=
  let files := paths.flatMap fun path =>
    filesOf tree workingDirectory recursive (join workingDirectory path)
  (files.map (Path.absolute workingDirectory)).eraseDups.map Prod.snd

/-- What several arguments stand for together, if each stands for something. -/
theorem gather_eq_ok {find : String → Except SearchError (List String)}
    {files : String → List String} {arguments : List String}
    (h : ∀ argument ∈ arguments, find (join workingDirectory argument) = .ok (files argument)) :
    gather find workingDirectory arguments = .ok (arguments.flatMap files) := by
  induction arguments with
  | nil => rfl
  | cons argument rest ih =>
      rw [List.forall_mem_cons] at h
      rw [gather, h.1, ih h.2]
      rfl

/-- A search in directories succeeds. -/
theorem run_inDirectories
    (h : ∀ path ∈ paths, tree.isDirectory workingDirectory (join workingDirectory path) = true)
    (recursive : Bool) :
    (inDirectories paths recursive).run tree workingDirectory =
      .ok (placesOf tree workingDirectory paths recursive) := by
  have hmatched : (inDirectories paths recursive).matchedPaths tree workingDirectory =
      .ok (paths.flatMap fun path =>
        filesOf tree workingDirectory recursive (join workingDirectory path)) := by
    apply gather_eq_ok
    intro path hpath
    have hsearch := search_of_isDirectory (h path hpath) recursive
    simp only [lookUp, inDirectories, Setting.answered, hsearch, Except.mapError]
  have hexcluded : (inDirectories paths recursive).excludedPaths tree workingDirectory = .ok [] :=
    rfl
  simp [run, foundPaths, hmatched, hexcluded, Except.map, placesOf]

/-- A place is found if it is that of a schema file which the search reaches from one of the
directories. -/
theorem mem_placesOf_iff (htree : tree.WellFormed)
    (h : ∀ path ∈ paths, tree.isDirectory workingDirectory (join workingDirectory path) = true)
    {recursive : Bool} {spot : Place} :
    spot ∈ placesOf tree workingDirectory paths recursive ↔
      tree.IsSchemaFile spot ∧ ∃ path ∈ paths, ∃ names,
        spot = place workingDirectory (join workingDirectory path) ++ names ∧
          Reaches (join workingDirectory path) names recursive := by
  simp only [placesOf, List.mem_map, List.mem_eraseDups, List.mem_flatMap]
  constructor
  · rintro ⟨_, ⟨file, ⟨path, hpath, hfile⟩, rfl⟩, hspot⟩
    rw [Path.snd_absolute] at hspot
    obtain ⟨hschema, hnames⟩ := (exists_place_iff htree (h path hpath)).mp ⟨file, hfile, hspot⟩
    exact ⟨hschema, path, hpath, hnames⟩
  · rintro ⟨hschema, path, hpath, hnames⟩
    obtain ⟨file, hfile, hspot⟩ := (exists_place_iff htree (h path hpath)).mpr ⟨hschema, hnames⟩
    exact ⟨_, ⟨file, ⟨path, hpath, hfile⟩, rfl⟩, by rwa [Path.snd_absolute]⟩

/-- Only paths with two slashes at their front and paths without can lead to the same place. -/
theorem nodup_placesOf (htree : tree.WellFormed)
    (h : ∀ path ∈ paths, tree.isDirectory workingDirectory (join workingDirectory path) = true)
    (hslashes : ∀ first ∈ paths, ∀ second ∈ paths,
      Path.hasTwoSlashes (join workingDirectory (join workingDirectory first)) =
        Path.hasTwoSlashes (join workingDirectory (join workingDirectory second)))
    (recursive : Bool) : (placesOf tree workingDirectory paths recursive).Nodup := by
  apply List.Nodup.map_on _ (nodup_eraseDups _)
  simp only [List.mem_eraseDups, List.forall_mem_map, List.mem_flatMap]
  rintro first ⟨path, hpath, hfirst⟩ second ⟨path', hpath', hsecond⟩ hplace
  rw [Path.snd_absolute, Path.snd_absolute] at hplace
  rw [Path.absolute, Path.absolute, hplace,
    hasTwoSlashes_of_mem_filesOf htree (h path hpath) hfirst,
    hasTwoSlashes_of_mem_filesOf htree (h path' hpath') hsecond, hslashes path hpath path' hpath']

/-- A recursive search finds all that any search does. -/
theorem placesOf_subset (htree : tree.WellFormed)
    (h : ∀ path ∈ paths, tree.isDirectory workingDirectory (join workingDirectory path) = true) :
    placesOf tree workingDirectory paths false ⊆ placesOf tree workingDirectory paths true := by
  intro spot hspot
  rw [mem_placesOf_iff htree h] at hspot ⊢
  obtain ⟨hfile, path, hpath, names, hnames, hreaches⟩ := hspot
  exact ⟨hfile, path, hpath, names, hnames, reaches_recursive (h path hpath) hreaches⟩

end SearchRequest

/-- **Searches in directories**: if all paths lead to directories and nothing is excluded, a search
succeeds, and finds the files named like a schema that are right in one of the directories, or, in
a recursive search, at any depth below one.  A recursive search finds all that any other does.

1. It does not matter how the directories are spelled, in which order and how often they are given,
   or whether they overlap, but for the length of the paths: a file is left out if its path, as
   spelled by way of the directory, is too long, and in a recursive search, if the path of the
   directory that it lies in is.
2. A directory that is named like a schema is not found.
3. Each place is found once, unless some of the paths have two slashes at their front and others
   have not. -/
theorem directory_search_exact {tree : FileTree} (htree : tree.WellFormed)
    {workingDirectory : String} {paths : List String}
    (hpaths : ∀ path ∈ paths,
      tree.isDirectory workingDirectory (join workingDirectory path) = true) :
    ∃ found : Bool → List Place,
      (∀ recursive, (SearchRequest.inDirectories paths recursive).run tree workingDirectory =
        .ok (found recursive)) ∧
      (∀ recursive spot, spot ∈ found recursive ↔
        tree.IsSchemaFile spot ∧ ∃ path ∈ paths, ∃ names,
          spot = place workingDirectory (join workingDirectory path) ++ names ∧
            Reaches (join workingDirectory path) names recursive) ∧
      found false ⊆ found true ∧
      ((∀ first ∈ paths, ∀ second ∈ paths,
          Path.hasTwoSlashes (join workingDirectory (join workingDirectory first)) =
            Path.hasTwoSlashes (join workingDirectory (join workingDirectory second))) →
        ∀ recursive, (found recursive).Nodup) :=
  ⟨SearchRequest.placesOf tree workingDirectory paths, SearchRequest.run_inDirectories hpaths,
    fun _ _ => SearchRequest.mem_placesOf_iff htree hpaths,
    SearchRequest.placesOf_subset htree hpaths, SearchRequest.nodup_placesOf htree hpaths⟩

/-- A directory with a schema file in it, and a directory that is named like one. -/
def nestedTree : FileTree :=
  ⟨[(["work"], .directory), (["work", "api"], .directory), (["work", "api", "a.proto"], .file []),
    (["work", "api", "notes.txt"], .file []), (["work", "api", "b.proto"], .directory),
    (["work", "api", "b.proto", "c.protodevel"], .file [])]⟩

/-- Overlapping directories, one of them in two spellings. -/
def nestedPaths : List String :=
  ["api", "./api//b.proto/..", "api/b.proto"]

theorem directory_search_exact_nested :
    nestedTree.WellFormed ∧
    (∀ path ∈ nestedPaths, nestedTree.isDirectory "/work" (join "/work" path) = true) ∧
    ∃ found : Bool → List Place,
      (∀ recursive, (SearchRequest.inDirectories nestedPaths recursive).run nestedTree "/work" =
        .ok (found recursive)) ∧
      ["work", "api", "a.proto"] ∈ found false ∧
      ["work", "api", "b.proto", "c.protodevel"] ∈ found true ∧
      ["work", "api", "b.proto"] ∉ found true ∧
      found false ⊆ found true ∧ ∀ recursive, (found recursive).Nodup := by
  have htree : nestedTree.WellFormed := by decide +kernel
  have hpaths :
      ∀ path ∈ nestedPaths, nestedTree.isDirectory "/work" (join "/work" path) = true := by
    decide +kernel
  obtain ⟨found, hrun, hmem, hsubset, hnodup⟩ := directory_search_exact htree hpaths
  refine ⟨htree, hpaths, found, hrun, ?_, ?_, ?_, hsubset, hnodup (by decide +kernel)⟩
  · exact (hmem _ _).mpr ⟨⟨⟨[], by decide +kernel⟩, by decide +kernel⟩, "api", by decide +kernel,
      ["a.proto"], by decide +kernel, rfl, by decide +kernel⟩
  · exact (hmem _ _).mpr ⟨⟨⟨[], by decide +kernel⟩, by decide +kernel⟩, "./api//b.proto/..",
      by decide +kernel, ["b.proto", "c.protodevel"], by decide +kernel, by simp, by decide +kernel⟩
  · intro hfound
    obtain ⟨⟨⟨data, hdata⟩, -⟩, -⟩ := (hmem _ _).mp hfound
    have hdirectory : nestedTree.get? ["work", "api", "b.proto"] = some .directory := by
      decide +kernel
    simp [hdirectory] at hdata

/-- A path that leads to a directory with a schema file in it, and is nearly too long. -/
def stretchedPath : String :=
  "api" ++ Path.slashes 4080

theorem join_stretchedPath : join "/work" stretchedPath = "/work/api" ++ Path.slashes 4080 := by
  have hbase : join "/work" "api" = "/work/api" := by decide +kernel
  rw [stretchedPath, Path.join_append (by decide), hbase]

theorem isDirectory_stretchedPath :
    talkTree.isDirectory "/work" (join "/work" stretchedPath) = true := by
  rw [join_stretchedPath]
  exact FileTree.isDirectory_append_slashes (by decide +kernel) (by decide +kernel)

theorem place_stretchedPath : place "/work" (join "/work" stretchedPath) = ["work", "api"] := by
  rw [join_stretchedPath, FileTree.place_append_slashes (by decide)]
  decide +kernel

theorem not_reaches_stretchedPath :
    ¬ Reaches (join "/work" stretchedPath) ["talk.proto"] false := by
  rintro ⟨-, hsize⟩
  have hne := (FileTree.usable_of_isDirectory isDirectory_stretchedPath).1
  have hrelative : isAbsolute "talk.proto" = false := by decide +kernel
  have hdirectory : "/work/api".utf8ByteSize = 9 := rfl
  have hname : "talk.proto".utf8ByteSize = 10 := rfl
  rw [Path.descend, List.foldl_cons, List.foldl_nil, Path.join_eq_append hne hrelative,
    join_stretchedPath, String.utf8ByteSize_append, String.utf8ByteSize_append,
    String.utf8ByteSize_append, Path.utf8ByteSize_slashes, hdirectory, hname, pathLimit] at hsize
  omega

/-- A file is left out if the path to it gets too long, and found twice if the path to its directory
is given once with two slashes at its front and once without. -/
theorem directory_search_not_always_exact :
    (¬ ∀ (tree : FileTree) (workingDirectory : String) (paths : List String) (found : List Place),
      tree.WellFormed →
      (∀ path ∈ paths, tree.isDirectory workingDirectory (join workingDirectory path) = true) →
      (SearchRequest.inDirectories paths false).run tree workingDirectory = .ok found →
      ∀ spot, tree.IsSchemaFile spot →
        (∃ path ∈ paths, ∃ name,
          spot = place workingDirectory (join workingDirectory path) ++ [name]) →
        spot ∈ found) ∧
    (¬ ∀ (tree : FileTree) (workingDirectory : String) (paths : List String) (found : List Place),
      tree.WellFormed →
      (∀ path ∈ paths, tree.isDirectory workingDirectory (join workingDirectory path) = true) →
      (SearchRequest.inDirectories paths false).run tree workingDirectory = .ok found →
      found.Nodup) := by
  have htree : talkTree.WellFormed := by decide +kernel
  constructor
  · intro h
    have hpaths : ∀ path ∈ [stretchedPath],
        talkTree.isDirectory "/work" (join "/work" path) = true :=
      List.forall_mem_singleton.mpr isDirectory_stretchedPath
    have hfile : talkTree.IsSchemaFile ["work", "api", "talk.proto"] :=
      ⟨⟨[], by decide +kernel⟩, by decide +kernel⟩
    have hfound := h talkTree "/work" _ _ htree hpaths
      (SearchRequest.run_inDirectories hpaths false) _ hfile
      ⟨_, List.mem_singleton_self _, "talk.proto", by rw [place_stretchedPath]; rfl⟩
    obtain ⟨-, path, hpath, names, hspot, hreaches⟩ :=
      (SearchRequest.mem_placesOf_iff htree hpaths).mp hfound
    obtain rfl := List.mem_singleton.mp hpath
    rw [place_stretchedPath] at hspot
    obtain rfl : ["talk.proto"] = names := by simpa using hspot
    exact not_reaches_stretchedPath hreaches
  · intro h
    have hnodup := h talkTree "/work" ["api", "//work/api"]
      [["work", "api", "talk.proto"], ["work", "api", "talk.proto"]] htree (by decide +kernel)
      (by decide +kernel)
    simp at hnodup

end StubGen
