import Mathlib.Data.List.Induction
import StubGen.Import
import StubGen.Proofs.OutputDirectory

/-!
# StubGen.Proofs.RelativeImports

What the relative imports of stubs lead to.  A relative package name is read from the package of the
importing module: its first dot is that package, every further dot is one package up, and the names
behind the dots lead down again (`ModuleImport.packageAt?`).

1. The name of a schema has as many slashes as there are directories above its stub file
   (`length_directories`), so the dots of an import lead up to the root (`enclosing?_append`).
2. What follows the dots are the directories of the imported file, if none of them holds a dot
   (`dottedNames_intercalate`).

An import therefore leads to the directory of the imported file, from wherever the stubs are
(`packageAt?_packageFrom`).
-/

namespace StubGen

open StubGen.Path (steps join place after)

/-! ## Relative package names -/

namespace ModuleImport

/-- The package so many levels above a package.  There is none above the root. -/
def enclosing? : (levels : Nat) → (package : Place) → Option Place
  | 0, package => some package
  | _ + 1, [] => none
  | levels + 1, name :: names => enclosing? levels (name :: names).dropLast

/-- The names between the dots of a name.  The empty name has none. -/
def dottedNames (name : List Char) : List String :=
  if name = [] then [] else (name.splitOn '.').map String.ofList

/-- The package that a relative name stands for in the modules of a package. -/
def packageAt? (package : Place) (name : String) : Option Place :=
  match (name.toList.takeWhile (· == '.')).length with
  | 0 => none
  | levels + 1 =>
    (enclosing? levels package).map (· ++ dottedNames (name.toList.dropWhile (· == '.')))

/-- Leaving as many packages as there are names leads to where these started. -/
theorem enclosing?_append (base names : Place) :
    enclosing? names.length (base ++ names) = some base := by
  induction names using List.reverseRecOn with
  | nil => simp [enclosing?]
  | append_singleton names name ih =>
      obtain ⟨first, rest, hcons⟩ :=
        List.exists_cons_of_ne_nil (show base ++ (names ++ [name]) ≠ [] by simp)
      have hdropLast : (first :: rest).dropLast = base ++ names := by
        rw [← hcons, ← List.append_assoc, List.dropLast_concat]
      rw [List.length_append, List.length_singleton, hcons, enclosing?, hdropLast, ih]

/-- Names without dots are found again between the dots. -/
theorem dottedNames_intercalate {names : List (List Char)}
    (h : ∀ name ∈ names, name ≠ [] ∧ '.' ∉ name) :
    dottedNames (['.'].intercalate names) = names.map String.ofList := by
  cases names with
  | nil => rfl
  | cons first rest =>
      obtain ⟨c, cs, hfirst⟩ := List.exists_cons_of_ne_nil (h first List.mem_cons_self).1
      have hne : ['.'].intercalate (first :: rest) ≠ [] := by
        cases rest <;> simp [hfirst]
      rw [dottedNames, if_neg hne,
        List.splitOn_intercalate '.' (fun name hname => (h name hname).2) (by simp)]

/-- A name of dots and then something else stands for what that leads to from further up. -/
theorem packageAt?_ofList {path : List Char} (h : path.head? ≠ some '.') (package : Place)
    (levels : Nat) :
    packageAt? package (String.ofList (List.replicate (levels + 1) '.' ++ path)) =
      (enclosing? levels package).map (· ++ dottedNames path) := by
  have htake : path.takeWhile (· == '.') = [] := by
    cases path with
    | nil => rfl
    | cons c rest => simpa using h
  have hdrop : path.dropWhile (· == '.') = path := by
    cases path with
    | nil => rfl
    | cons c rest => simpa using h
  have hdots : ∀ c ∈ List.replicate (levels + 1) '.', (c == '.') = true := by
    simp [List.mem_replicate]
  rw [packageAt?, String.toList_ofList, List.takeWhile_append_of_pos hdots,
    List.dropWhile_append_of_pos hdots, htake, hdrop, List.append_nil, List.length_replicate]

end ModuleImport

/-! ## The directories of a name -/

namespace FileName

/-- The directories that a name leads through. -/
def directories (name : String) : Place :=
  (steps name).dropLast

theorem directories_eq_map (name : String) :
    directories name = (directoryComponents name).map String.ofList := by
  rw [directories, directoryComponents, List.map_dropLast]
  rfl

/-- There are as many directories as slashes. -/
theorem length_directories (name : String) :
    (directories name).length = name.toList.count '/' := by
  have hsplit (chars : List Char) : (chars.splitOn '/').length = chars.count '/' + 1 := by
    induction chars with
    | nil => rfl
    | cons c rest ih =>
        rw [List.splitOn_cons_eq_if_modifyHead]
        by_cases hc : c = '/'
        · simp [hc, ih]
        · simp [hc, ih]
  simp [directories, steps, hsplit]

/-- The stub file of a schema is in the directory of the schema. -/
theorem directories_stubFile (name : String) : directories (stubFile name) = directories name := by
  obtain ⟨last, hsteps⟩ := steps_stubFile name
  rw [directories, hsteps, List.dropLast_concat]
  rfl

end FileName

/-! ## Imports of stubs -/

open FileName (directories stubFile)

namespace ModuleImport

/-- Names whose directories can be written between dots. -/
def HasPlainDirectories (name : String) : Prop :=
  ∀ directory ∈ directories name, directory ≠ "" ∧ '.' ∉ directory.toList

/-- From as many directories below the root as the name of a schema has, imports lead to the
directory of the imported file. -/
theorem packageAt?_packageFrom {dependency : String}
    (hforeign : FileName.isWellKnown dependency = false) (h : HasPlainDirectories dependency)
    (current : String) (root : Place) :
    packageAt? (root ++ directories (stubFile current)) (packageFrom current dependency) =
      some (root ++ directories dependency) := by
  have hnames : ∀ name ∈ FileName.directoryComponents dependency, name ≠ [] ∧ '.' ∉ name := by
    intro name hname
    rw [HasPlainDirectories, FileName.directories_eq_map] at h
    simpa using h _ (List.mem_map_of_mem hname)
  have hhead : (['.'].intercalate (FileName.directoryComponents dependency)).head? ≠ some '.' := by
    cases hdirectories : FileName.directoryComponents dependency with
    | nil => simp
    | cons first rest =>
        obtain ⟨hne, hdot⟩ := hnames first (by simp [hdirectories])
        obtain ⟨c, cs, rfl⟩ := List.exists_cons_of_ne_nil hne
        have hc : c ≠ '.' := by
          rintro rfl
          simp at hdot
        cases rest <;> simpa using hc
  rw [packageFrom, if_neg (by simp [hforeign]), packageAt?_ofList hhead,
    ← FileName.length_directories, ← FileName.directories_stubFile, enclosing?_append,
    dottedNames_intercalate hnames, ← FileName.directories_eq_map, Option.map_some]

/-- The module that an import in the stubs of a schema stands for, by its names from the root. -/
def moduleAt? (current dependency : String) : Option Place :=
  (packageAt? (directories (stubFile current)) (resolve current dependency).package).map
    (· ++ [(resolve current dependency).moduleName])

/-- An import stands for the module of the dependency, from whatever directory it is imported. -/
theorem moduleAt?_eq_some {dependency : String}
    (hforeign : FileName.isWellKnown dependency = false) (h : HasPlainDirectories dependency)
    (current : String) :
    moduleAt? current dependency =
      some (directories dependency ++ [FileName.messageModule dependency]) := by
  have hpackage := packageAt?_packageFrom hforeign h current []
  rw [List.nil_append, List.nil_append] at hpackage
  rw [moduleAt?, resolve, hpackage, Option.map_some]

end ModuleImport

/-- Names that lead down step by step lead to their stub files below any root. -/
theorem place_join_stubFile {current : String} (h : ∀ step ∈ steps current, Path.LeadsDown step)
    (workingDirectory root : String) :
    (place workingDirectory (join root (stubFile current))).dropLast =
      place workingDirectory root ++ directories (stubFile current) := by
  have hdirectories : ∀ step ∈ directories (stubFile current), Path.LeadsDown step := by
    rw [FileName.directories_stubFile]
    exact fun step hstep => h step (List.dropLast_subset _ hstep)
  have hrelative : Path.isAbsolute (stubFile current) = false := by
    rw [FileName.isAbsolute_stubFile]
    exact Path.isAbsolute_of_not_mem_steps fun hmem => (h "" hmem).1 rfl
  obtain ⟨last, hsteps⟩ := FileName.steps_stubFile current
  have hstub : steps (stubFile current) =
      directories (stubFile current) ++ [last ++ "_pb2_rsocket.py"] := by
    rw [directories, hsteps, List.dropLast_concat]
  have hdown : ∀ step ∈ directories (stubFile current) ++ [last ++ "_pb2_rsocket.py"],
      Path.LeadsDown step :=
    List.forall_mem_append.mpr
      ⟨hdirectories, List.forall_mem_singleton.mpr (FileName.leadsDown_append last)⟩
  rw [Path.place_join hrelative, hstub, Path.after_of_leadsDown hdown, ← List.append_assoc,
    List.dropLast_concat]

/-- **Relative imports lead to the imported file** wherever the stubs are.  Read in the directory of
the stubs, the package of an import never leads above the root, and it is the directory of the
imported file below the root.  Below an output directory, that is the place of this directory, if
the name of the schema leads down step by step.  So the imports of one file stand for one and the
same module in all stubs. -/
theorem relative_imports_reach_dependency {dependency : String}
    (hforeign : FileName.isWellKnown dependency = false)
    (h : ModuleImport.HasPlainDirectories dependency) :
    (∀ current, ModuleImport.packageAt? (directories (stubFile current))
      (ModuleImport.packageFrom current dependency) = some (directories dependency)) ∧
    (∀ current workingDirectory root, (∀ step ∈ steps current, Path.LeadsDown step) →
      ModuleImport.packageAt? (place workingDirectory (join root (stubFile current))).dropLast
        (ModuleImport.packageFrom current dependency) =
          some (place workingDirectory root ++ directories dependency)) ∧
    ∀ first second,
      ModuleImport.moduleAt? first dependency = ModuleImport.moduleAt? second dependency ∧
      ModuleImport.moduleAt? first dependency =
        some (directories dependency ++ [FileName.messageModule dependency]) := by
  have hreach := ModuleImport.packageAt?_packageFrom hforeign h
  have hmodule := ModuleImport.moduleAt?_eq_some hforeign h
  refine ⟨fun current => by simpa using hreach current [], fun current _ _ hdown => ?_,
    fun first second => ⟨(hmodule first).trans (hmodule second).symm, hmodule first⟩⟩
  rw [place_join_stubFile hdown]
  exact hreach current _

theorem relative_imports_reach_dependency_nested :
    ModuleImport.packageFrom "shop/v1/cart.proto" "talk/text/line.proto" = "...talk.text" ∧
      ModuleImport.packageAt? ["work", "out", "shop", "v1"] "...talk.text" =
        some ["work", "out", "talk", "text"] ∧
      ModuleImport.moduleAt? "shop/v1/cart.proto" "talk/text/line.proto" =
        ModuleImport.moduleAt? "cart.proto" "talk/text/line.proto" := by
  have hpackage : ModuleImport.packageFrom "shop/v1/cart.proto" "talk/text/line.proto" =
      "...talk.text" := by decide
  have hstub : (place "/work" (join "out" (stubFile "shop/v1/cart.proto"))).dropLast =
      ["work", "out", "shop", "v1"] := by decide +kernel
  have hdirectories : directories "talk/text/line.proto" = ["talk", "text"] := by decide +kernel
  have hsteps : steps "shop/v1/cart.proto" = ["shop", "v1", "cart.proto"] := by decide +kernel
  have hplain : ModuleImport.HasPlainDirectories "talk/text/line.proto" := by
    simp [ModuleImport.HasPlainDirectories, hdirectories]
  have hdown : ∀ step ∈ steps "shop/v1/cart.proto", Path.LeadsDown step := by
    simp [hsteps, Path.LeadsDown]
  obtain ⟨_, hplace, hmodule⟩ := relative_imports_reach_dependency (by decide) hplain
  have hreached := hplace "shop/v1/cart.proto" "/work" "out" hdown
  rw [hpackage, hstub, hdirectories] at hreached
  exact ⟨hpackage, hreached, (hmodule _ _).1⟩

end StubGen
