import StubGen.Proofs.AliasNames
import StubGen.Proofs.Lines
import StubGen.Proofs.RelativeImports

/-!
# StubGen.Proofs.EmittedModules

Imports and the modules that the schema compiler writes.  The compiler turns the whole path of a
schema file into one dotted name, with dots for slashes and underscores for hyphens
(`FileName.emittedModule`).  An import takes its two parts from different rules: the module is the
last component of the path, with underscores for hyphens, and the package is made of the directories
as they are.

1. Up to the last component, the dotted name is that of the directories (`toList_emittedModule`).
2. The last component is one name of the dotted name only if it holds no dot (`moduleName_eq_iff`),
   and only then the directories are all other names (`exists_emittedNames_eq`).
3. The directories are written alike only if they hold no hyphen (`package_eq_iff`).
-/

namespace StubGen

open Text

/-! ## Dotted module names -/

namespace FileName

/-- Underscores for hyphens. -/
def underscored (c : Char) : Char :=
  if c = '-' then '_' else c

/-- The dotted name of the module that the schema compiler writes for a schema file. -/
def emittedModule (name : String) : String :=
  String.ofList ((stem name).toList.map fun c => if c = '/' then '.' else underscored c) ++ "_pb2"

/-- The names between the dots. -/
def emittedNames (name : String) : List (List Char) :=
  (emittedModule name).toList.splitOn '.'

/-- Underscores take the place of dashes, not of dots. -/
@[simp] theorem underscored_eq_dot_iff {c : Char} : underscored c = '.' ↔ c = '.' := by
  unfold underscored
  split
  · next h => simp [h]
  · rfl

theorem underscored_eq_self_iff {c : Char} : underscored c = c ↔ c ≠ '-' := by
  unfold underscored
  split
  · next h => simp [h]
  · next h => simp [h]

theorem dot_mem_map_underscored_iff {chars : List Char} :
    '.' ∈ chars.map underscored ↔ '.' ∈ chars := by
  simp [List.mem_map]

/-- A name without dashes stays as it is. -/
theorem map_underscored_eq_self_iff {chars : List Char} :
    chars.map underscored = chars ↔ '-' ∉ chars := by
  induction chars with
  | nil => simp
  | cons c rest ih =>
      rw [List.map_cons, List.cons.injEq, underscored_eq_self_iff, ih, List.mem_cons, not_or,
        ne_comm]

/-- Replacing a separator and the characters of all parts. -/
theorem map_intercalate (f : Char → Char) (separator : Char) (parts : List (List Char)) :
    ([separator].intercalate parts).map f = [f separator].intercalate (parts.map (·.map f)) := by
  induction parts with
  | nil => rfl
  | cons part rest ih =>
      by_cases hrest : rest = []
      · simp [hrest]
      · rw [List.map_cons, List.intercalate_cons_of_ne_nil hrest,
          List.intercalate_cons_of_ne_nil (by simpa using hrest), List.map_append, List.map_append,
          ih]
        rfl

theorem intercalate_concat {separator : List Char} {parts : List (List Char)} (h : parts ≠ [])
    (last : List Char) :
    separator.intercalate (parts ++ [last]) = separator.intercalate parts ++ separator ++ last := by
  induction parts with
  | nil => contradiction
  | cons part rest ih =>
      by_cases hrest : rest = []
      · simp [hrest, List.intercalate_cons_cons]
      · rw [List.cons_append, List.intercalate_cons_of_ne_nil (by simp),
          List.intercalate_cons_of_ne_nil hrest, ih hrest]
        simp

/-- What stands behind the last part belongs to it. -/
theorem intercalate_concat_append (separator : List Char) (parts : List (List Char))
    (last ending : List Char) :
    separator.intercalate (parts ++ [last]) ++ ending =
      separator.intercalate (parts ++ [last ++ ending]) := by
  by_cases hparts : parts = []
  · simp [hparts]
  · rw [intercalate_concat hparts, intercalate_concat hparts, List.append_assoc]

/-- A character other than the separator comes from one of the parts. -/
theorem mem_intercalate_iff {separator c : Char} (h : c ≠ separator) {parts : List (List Char)} :
    c ∈ [separator].intercalate parts ↔ ∃ part ∈ parts, c ∈ part := by
  rw [List.intercalate, List.mem_flatten]
  constructor
  · rintro ⟨part, hpart, hc⟩
    rcases mem_or_eq_of_mem_intersperse hpart with hmem | rfl
    · exact ⟨part, hmem, hc⟩
    · exact absurd (List.mem_singleton.mp hc) h
  · rintro ⟨part, hpart, hc⟩
    exact ⟨part, mem_intersperse hpart, hc⟩

/-! ## Directories and the last component -/

/-- A name is its directories and its last component. -/
theorem components_eq_append (name : String) :
    components name = directoryComponents name ++ [baseChars name] := by
  have hne : components name ≠ [] := List.splitOn_ne_nil '/' name.toList
  have hlast : baseChars name = (components name).getLast hne := by
    rw [baseChars, List.getLastD_eq_getLast?, List.getLast?_eq_some_getLast hne, Option.getD_some]
  rw [directoryComponents, hlast, List.dropLast_concat_getLast]

/-- Dropping the suffix of a file leaves its directories alone. -/
theorem directories_stem (name : String) : directories (stem name) = directories name := by
  obtain ⟨ending, hending, hname⟩ := exists_append_stem name
  obtain ⟨last, hsteps⟩ := Path.steps_append_of_not_mem (stem name) hending
  nth_rewrite 2 [hname]
  rw [directories, directories, hsteps, List.dropLast_concat]

theorem directoryComponents_stem (name : String) :
    directoryComponents (stem name) = directoryComponents name := by
  have h := directories_stem name
  rw [directories_eq_map, directories_eq_map] at h
  exact List.map_injective_iff.mpr (fun _ _ => String.ofList_injective) h

theorem toList_messageModule (name : String) :
    (messageModule name).toList = (baseChars (stem name)).map underscored ++ "_pb2".toList := by
  rw [messageModule, String.toList_append, String.toList_ofList]
  rfl

/-- The module of a file has a dot in its name if the stem has one behind its directories. -/
theorem dot_mem_messageModule_iff {name : String} :
    '.' ∈ (messageModule name).toList ↔ '.' ∈ baseChars (stem name) := by
  have hending : '.' ∉ "_pb2".toList := by decide
  rw [toList_messageModule, List.mem_append, dot_mem_map_underscored_iff, or_iff_left hending]

/-- The dotted name is that of the directories, and the message module behind them. -/
theorem toList_emittedModule (name : String) :
    (emittedModule name).toList = ['.'].intercalate
      ((directoryComponents name).map (·.map underscored) ++ [(messageModule name).toList]) := by
  have hparts : ∀ part ∈ components (stem name),
      part.map (fun c => if c = '/' then '.' else underscored c) = part.map underscored := by
    intro part hpart
    apply List.map_congr_left
    intro c hc
    rw [if_neg]
    rintro rfl
    exact not_mem_of_mem_splitOn hpart hc
  have hstem : (stem name).toList.map (fun c => if c = '/' then '.' else underscored c) =
      ['.'].intercalate ((components (stem name)).map (·.map underscored)) := by
    have hjoined : (stem name).toList = ['/'].intercalate (components (stem name)) :=
      (List.intercalate_splitOn '/').symm
    rw [hjoined, map_intercalate, List.map_congr_left hparts, if_pos rfl]
  rw [emittedModule, String.toList_append, String.toList_ofList, hstem, components_eq_append,
    directoryComponents_stem, List.map_append, List.map_singleton, intercalate_concat_append,
    toList_messageModule]

/-- The names between the dots are those of the directories, and those of the message module. -/
theorem exists_emittedNames_eq (name : String) :
    ∃ front, emittedNames name = front ++ (messageModule name).toList.splitOn '.' ∧
      ['.'].intercalate front = (['.'].intercalate (directoryComponents name)).map underscored := by
  rw [emittedNames, toList_emittedModule, map_intercalate]
  by_cases hdirectories : directoryComponents name = []
  · exact ⟨[], by simp [hdirectories], by simp [hdirectories]⟩
  · refine ⟨(['.'].intercalate ((directoryComponents name).map (·.map underscored))).splitOn '.',
      ?_, List.intercalate_splitOn '.'⟩
    rw [intercalate_concat (by simpa using hdirectories), List.append_assoc, List.singleton_append,
      List.splitOn_append_cons_self]

end FileName

/-! ## Imports -/

namespace ModuleImport

open FileName

/-- Imports of the module that the schema compiler writes: the last name between the dots is the
module, and the others are the package, as seen from the stubs of a schema. -/
def NamesEmitted (current dependency : String) : Prop :=
  (resolve current dependency).moduleName = String.ofList ((emittedNames dependency).getLastD []) ∧
    (resolve current dependency).package =
      String.ofList (List.replicate (current.toList.count '/' + 1) '.' ++
        ['.'].intercalate (emittedNames dependency).dropLast)

instance (current dependency : String) : Decidable (NamesEmitted current dependency) :=
  inferInstanceAs (Decidable (_ ∧ _))

/-- The module of an import is the last name between the dots only if it holds no dot itself. -/
theorem moduleName_eq_iff (current dependency : String) :
    (resolve current dependency).moduleName =
        String.ofList ((emittedNames dependency).getLastD []) ↔
      '.' ∉ baseChars (stem dependency) := by
  obtain ⟨front, hnames, _⟩ := exists_emittedNames_eq dependency
  have hne := List.splitOn_ne_nil '.' (messageModule dependency).toList
  have hlast : (emittedNames dependency).getLastD [] =
      ((messageModule dependency).toList.splitOn '.').getLast hne := by
    rw [hnames, List.getLastD_eq_getLast?, List.getLast?_append_of_ne_nil _ hne,
      List.getLast?_eq_some_getLast hne, Option.getD_some]
  rw [hlast, ← dot_mem_messageModule_iff]
  constructor
  · intro hmodule hdot
    have hchars := congrArg String.toList hmodule
    rw [resolve, String.toList_ofList] at hchars
    rw [hchars] at hdot
    exact not_mem_of_mem_splitOn (List.getLast_mem hne) hdot
  · intro hdot
    simp [resolve, List.splitOn_eq_singleton hdot]

/-- If the last component holds no dot, the package of an import is made of all other names between
the dots only if the directories hold no hyphen. -/
theorem package_eq_iff (current : String) {dependency : String}
    (hforeign : isWellKnown dependency = false) (hdot : '.' ∉ baseChars (stem dependency)) :
    (resolve current dependency).package =
        String.ofList (List.replicate (current.toList.count '/' + 1) '.' ++
          ['.'].intercalate (emittedNames dependency).dropLast) ↔
      ∀ directory ∈ directoryComponents dependency, '-' ∉ directory := by
  obtain ⟨front, hnames, hfront⟩ := exists_emittedNames_eq dependency
  have hhyphen : '-' ∉ ['.'].intercalate (directoryComponents dependency) ↔
      ∀ directory ∈ directoryComponents dependency, '-' ∉ directory := by
    simp [mem_intercalate_iff (show '-' ≠ '.' by decide)]
  rw [← dot_mem_messageModule_iff] at hdot
  rw [hnames, List.splitOn_eq_singleton hdot, List.dropLast_concat, hfront, resolve, packageFrom,
    if_neg (by simp [hforeign]), ← hhyphen, ← map_underscored_eq_self_iff]
  constructor
  · intro hpackage
    exact (List.append_cancel_left (String.ofList_injective hpackage)).symm
  · intro hdirectories
    rw [hdirectories]

/-- **Imports name the modules that the schema compiler writes** exactly for files whose own names
hold no dot, apart from the schema suffix, and whose directories hold no hyphen. -/
theorem names_emitted_iff (current : String) {dependency : String}
    (hforeign : isWellKnown dependency = false) :
    NamesEmitted current dependency ↔
      '.' ∉ baseChars (stem dependency) ∧
        ∀ directory ∈ directoryComponents dependency, '-' ∉ directory := by
  rw [NamesEmitted, moduleName_eq_iff]
  exact and_congr_right (package_eq_iff current hforeign)

theorem names_emitted_iff_shop :
    isWellKnown "shop/v1.2/cart-list.proto" = false ∧
      NamesEmitted "talk/talk.proto" "shop/v1.2/cart-list.proto" := by
  have hforeign : isWellKnown "shop/v1.2/cart-list.proto" = false := by decide
  have hbase : '.' ∉ baseChars (stem "shop/v1.2/cart-list.proto") := by decide +kernel
  have hdirectories : directoryComponents "shop/v1.2/cart-list.proto" =
      ["shop".toList, "v1.2".toList] := by decide +kernel
  exact ⟨hforeign, (names_emitted_iff "talk/talk.proto" hforeign).mpr
    ⟨hbase, by simp [hdirectories]⟩⟩

/-- A file in a directory with a hyphen is imported from a package that is not there. -/
theorem names_emitted_not_always :
    ¬ ∀ current dependency, isWellKnown dependency = false → IsAscii dependency →
      IsPathName dependency → NamesEmitted current dependency := by
  intro h
  have hshop := h "talk.proto" "my-shop/cart.proto" (by decide) (by decide) (by decide)
  exact absurd hshop (by decide +kernel)

end ModuleImport

end StubGen
