import Mathlib.Data.List.Basic
import StubGen.Proofs.Binding
import StubGen.Proofs.Refusal

/-!
# StubGen.Proofs.FirstClash

Which services are refused, and for what reason.  A method takes two names in the classes of its
service, that of its function and that of its trace wrapper; the two kinds share one space, so a
function may clash with a wrapper as well.

1. The check goes through the methods in order, and stops at the first method that takes a name of
   an earlier one (`firstClash?_eq_some_iff`).
2. The earlier methods have no names in common, or the check would have stopped before; so there is
   one method that the clash can be with (`clashOf?_bindMethod_eq_some_iff`).
3. Generation stops at the first service with a clash, in order of files and services
   (`generate_eq_error_iff`).
-/

namespace StubGen

/-! ## Names of methods -/

namespace Method

/-- The function of a method in the generated classes. -/
def functionName (method : Method) : String :=
  Identifier.methodName method.name

/-- The attribute of a method in the generated classes. -/
def traceName (method : Method) : String :=
  Stub.traceAttribute method.functionName

/-- The names that a method takes. -/
def takenNames (method : Method) : List String :=
  [method.functionName, method.traceName]

/-- Methods that take no name in common. -/
def Apart (first second : Method) : Prop :=
  first.takenNames.Disjoint second.takenNames

end Method

/-- A service of which no two methods take a name in common. -/
def Service.NamesApart (service : Service) : Prop :=
  service.methods.Pairwise Method.Apart

namespace Stub

/-- The first clash of a service.  The methods before `later` have no names in common, and `later`
takes a name that `earlier` has taken, and none of the others before it.  That is the name of its
function if any method before it has taken it, and otherwise the name of its trace wrapper. -/
def FirstClash (service : Service) (clash : NameClash) : Prop :=
  ∃ front earlier back later rest name,
    service.methods = (front ++ earlier :: back) ++ later :: rest ∧
    (front ++ earlier :: back).Pairwise Method.Apart ∧
    name ∈ earlier.takenNames ∧ (∀ other ∈ front ++ back, name ∉ other.takenNames) ∧
    (name = later.functionName ∨ name = later.traceName ∧
      ∀ other ∈ front ++ earlier :: back, later.functionName ∉ other.takenNames) ∧
    clash =
      { service := service.fullName, earlier := earlier.name, later := later.name, name := name }

/-! ## The check -/

section

variable {earlier later : List BoundMethod} {bound : BoundMethod} {clash : NameClash}

/-- A name clashes with the first of the earlier methods that takes it. -/
theorem clashOf?_eq_some_iff {name : String} :
    clashOf? earlier bound name = some clash ↔
      ∃ front other back, earlier = front ++ other :: back ∧ name ∈ other.memberNames ∧
        (∀ previous ∈ front, name ∉ previous.memberNames) ∧
        clash = { service := bound.serviceName, earlier := other.rpcName, later := bound.rpcName,
                  name := name } := by
  simp only [clashOf?, Option.map_eq_some_iff, List.find?_eq_some_iff_append]
  constructor
  · rintro ⟨other, ⟨hname, front, back, hsplit, hfront⟩, rfl⟩
    exact ⟨front, other, back, hsplit, by simpa using hname, by simpa using hfront, rfl⟩
  · rintro ⟨front, other, back, hsplit, hname, hfront, rfl⟩
    exact ⟨other, ⟨by simpa using hname, front, back, hsplit, by simpa using hfront⟩, rfl⟩

/-- The check stops at the first method with a clash. -/
theorem firstClash?_eq_some_iff :
    firstClash? earlier later = some clash ↔
      ∃ before bound rest, later = before ++ bound :: rest ∧ firstClash? earlier before = none ∧
        bound.memberNames.findSome? (clashOf? (earlier ++ before) bound) = some clash := by
  induction later generalizing earlier with
  | nil => simp [firstClash?]
  | cons first later ih =>
      -- if the first method clashes, the split is in front of it, and else somewhere behind
      cases hfirst : first.memberNames.findSome? (clashOf? earlier first) with
      | some found =>
          simp only [firstClash?, hfirst, Option.some.injEq]
          constructor
          · rintro rfl
            exact ⟨[], first, later, rfl, rfl, by simpa using hfirst⟩
          · rintro ⟨before, bound, rest, hsplit, hnone, hclash⟩
            cases before with
            | nil =>
                obtain ⟨rfl, _⟩ := List.cons.inj hsplit
                rw [List.append_nil, hfirst] at hclash
                exact Option.some.inj hclash
            | cons other before =>
                obtain ⟨rfl, _⟩ := List.cons.inj hsplit
                simp [firstClash?, hfirst] at hnone
      | none =>
          simp only [firstClash?, hfirst, ih]
          constructor
          · rintro ⟨before, bound, rest, rfl, hnone, hclash⟩
            refine ⟨first :: before, bound, rest, rfl, ?_, by simpa using hclash⟩
            simpa [firstClash?, hfirst] using hnone
          · rintro ⟨before, bound, rest, hsplit, hnone, hclash⟩
            cases before with
            | nil =>
                obtain ⟨rfl, _⟩ := List.cons.inj hsplit
                rw [List.append_nil, hfirst] at hclash
                contradiction
            | cons other before =>
                obtain ⟨rfl, rfl⟩ := List.cons.inj hsplit
                refine ⟨before, bound, rest, rfl, ?_, by simpa using hclash⟩
                simpa [firstClash?, hfirst] using hnone

end

/-! ## Clashes of a service -/

section

variable {service : Service} {methods : List Method} {later : Method} {clash : NameClash}

@[simp] theorem function_bindMethod (service : Service) (method : Method) :
    (bindMethod service method).function = method.functionName := by
  rw [bindMethod, Method.functionName]

@[simp] theorem traceAttribute_bindMethod (service : Service) (method : Method) :
    (bindMethod service method).traceAttribute = method.traceName := by
  rw [bindMethod, Method.traceName, Method.functionName]

@[simp] theorem memberNames_bindMethod (service : Service) (method : Method) :
    (bindMethod service method).memberNames = method.takenNames := by
  simp [BoundMethod.memberNames, Method.takenNames]

/-- Methods are kept apart by their names alone, not by their service. -/
theorem namesApart_bindMethod_iff {first second : Method} :
    NamesApart (bindMethod service first) (bindMethod service second) ↔ first.Apart second := by
  simp only [NamesApart, memberNames_bindMethod]
  exact ⟨fun h name hfirst hsecond => h name hsecond hfirst,
    fun h _ hsecond hfirst => h hfirst hsecond⟩

/-- The methods of a service are kept apart by their names alone. -/
theorem pairwise_namesApart_iff :
    (methods.map (bindMethod service)).Pairwise NamesApart ↔ methods.Pairwise Method.Apart := by
  simp only [List.pairwise_map, namesApart_bindMethod_iff]

/-- The methods before a clash have no names in common. -/
theorem firstClash?_map_eq_none_iff :
    firstClash? [] (methods.map (bindMethod service)) = none ↔ methods.Pairwise Method.Apart := by
  simp [firstClash?_eq_none_iff, pairwise_namesApart_iff]

/-- A clash with methods that have no names in common is a clash with one of them only. -/
theorem clashOf?_bindMethod_eq_some_iff (h : methods.Pairwise Method.Apart) {name : String} :
    clashOf? (methods.map (bindMethod service)) (bindMethod service later) name = some clash ↔
      ∃ front earlier back, methods = front ++ earlier :: back ∧ name ∈ earlier.takenNames ∧
        (∀ other ∈ front ++ back, name ∉ other.takenNames) ∧
        clash = { service := service.fullName, earlier := earlier.name, later := later.name,
                  name := name } := by
  rw [clashOf?_eq_some_iff, exists_split_map]
  simp only [List.forall_mem_map, List.forall_mem_append, memberNames_bindMethod]
  constructor
  · rintro ⟨front, earlier, back, rfl, hname, hfront, hclash⟩
    have hback : ∀ other ∈ back, earlier.Apart other :=
      (List.pairwise_cons.mp (List.pairwise_append.mp h).2.1).1
    exact ⟨front, earlier, back, rfl, hname, ⟨hfront, fun other hother => hback other hother hname⟩,
      hclash⟩
  · rintro ⟨front, earlier, back, rfl, hname, ⟨hfront, _⟩, hclash⟩
    exact ⟨front, earlier, back, rfl, hname, hfront, hclash⟩

theorem clashOf?_bindMethod_eq_none_iff {name : String} :
    clashOf? (methods.map (bindMethod service)) (bindMethod service later) name = none ↔
      ∀ other ∈ methods, name ∉ other.takenNames := by
  simp only [clashOf?_eq_none_iff, List.forall_mem_map, memberNames_bindMethod]

/-- The function of a method is looked at before its trace wrapper. -/
theorem findSome?_clashOf?_eq_some_iff :
    (bindMethod service later).memberNames.findSome?
        (clashOf? (methods.map (bindMethod service)) (bindMethod service later)) = some clash ↔
      ∃ name, (name = later.functionName ∨ name = later.traceName ∧
          ∀ other ∈ methods, later.functionName ∉ other.takenNames) ∧
        clashOf? (methods.map (bindMethod service)) (bindMethod service later) name =
          some clash := by
  rw [memberNames_bindMethod, Method.takenNames,
    ← @clashOf?_bindMethod_eq_none_iff service methods later]
  cases hfunction : clashOf? (methods.map (bindMethod service)) (bindMethod service later)
      later.functionName with
  | none => simp [hfunction]
  | some found => simp [hfunction]

/-- A service is refused for its first clash. -/
theorem bindMethods_eq_error_iff :
    bindMethods service = .error clash ↔ FirstClash service clash := by
  have hcheck : bindMethods service = .error clash ↔
      firstClash? [] (service.methods.map (bindMethod service)) = some clash := by
    simp only [bindMethods]
    cases firstClash? [] (service.methods.map (bindMethod service)) <;> simp
  rw [hcheck, firstClash?_eq_some_iff, exists_split_map]
  simp only [List.nil_append, firstClash?_map_eq_none_iff, findSome?_clashOf?_eq_some_iff]
  constructor
  · rintro ⟨before, later, rest, hsplit, hapart, name, hname, hclash⟩
    obtain ⟨front, earlier, back, rfl, htaken, hothers, rfl⟩ :=
      (clashOf?_bindMethod_eq_some_iff hapart).mp hclash
    exact ⟨front, earlier, back, later, rest, name, hsplit, hapart, htaken, hothers, hname, rfl⟩
  · rintro ⟨front, earlier, back, later, rest, name, hsplit, hapart, htaken, hothers, hname, hclash⟩
    exact ⟨front ++ earlier :: back, later, rest, hsplit, hapart, name, hname,
      (clashOf?_bindMethod_eq_some_iff hapart).mpr
        ⟨front, earlier, back, rfl, htaken, hothers, hclash⟩⟩

/-- A service is accepted exactly if no two of its methods take a name in common. -/
theorem bindMethods_eq_ok_iff_namesApart {bound : List BoundMethod} :
    bindMethods service = .ok bound ↔
      service.NamesApart ∧ bound = service.methods.map (bindMethod service) := by
  rw [bindMethods_eq_ok_iff, Service.NamesApart, ← @pairwise_namesApart_iff service]
  constructor
  · rintro ⟨rfl, hapart⟩
    exact ⟨hapart, rfl⟩
  · rintro ⟨hapart, rfl⟩
    exact ⟨rfl, hapart⟩

/-- A service is refused for its first clash. -/
theorem bindService_eq_error_iff :
    bindService service = .error clash ↔ FirstClash service clash := by
  rw [← bindMethods_eq_error_iff, bindService]
  cases bindMethods service <;> simp

/-- A service is accepted if all its names are apart. -/
theorem bindService_eq_ok_iff {bound : BoundService} :
    bindService service = .ok bound ↔
      service.NamesApart ∧ bound = ⟨service, service.methods.map (bindMethod service)⟩ := by
  have hmethods : bindService service = .ok bound ↔
      ∃ methods, bindMethods service = .ok methods ∧ bound = ⟨service, methods⟩ := by
    rw [bindService]
    cases bindMethods service <;> simp [eq_comm]
  simp [hmethods, bindMethods_eq_ok_iff_namesApart, and_assoc]

theorem exists_bindService_iff :
    (∃ bound, bindService service = .ok bound) ↔ service.NamesApart := by
  simp [bindService_eq_ok_iff]

end

/-! ## Clashes of files -/

/-- A file is accepted if all its services are. -/
theorem exists_moduleOf_iff {file : SchemaFile} :
    (∃ output, moduleOf file = .ok output) ↔ ∀ service ∈ file.services, service.NamesApart := by
  have hservices : (∀ service ∈ file.services, service.NamesApart) ↔
      ∃ services, file.services.mapM bindService = .ok services := by
    simp only [exists_mapM_eq_ok_iff, exists_bindService_iff]
  rw [hservices, moduleOf]
  cases file.services.mapM bindService <;> simp

/-- A file is refused for the first clash of its first service with one. -/
theorem moduleOf_eq_error_iff {file : SchemaFile} {clash : NameClash} :
    moduleOf file = .error clash ↔
      FirstBad Service.NamesApart (FirstClash · clash) file.services := by
  have hservices : FirstBad Service.NamesApart (FirstClash · clash) file.services ↔
      file.services.mapM bindService = .error clash := by
    simp only [mapM_eq_error_iff, exists_bindService_iff, bindService_eq_error_iff]
  rw [hservices, moduleOf]
  cases file.services.mapM bindService <;> simp

/-- Files without services are not generated, and have nothing to clash. -/
theorem flatMap_filter_services (files : List SchemaFile) :
    (files.filter fun file => !file.services.isEmpty).flatMap SchemaFile.services =
      files.flatMap SchemaFile.services := by
  induction files with
  | nil => rfl
  | cons file files ih =>
      rw [List.filter_cons, List.flatMap_cons]
      split
      · rw [List.flatMap_cons, ih]
      · simp_all

/-- Files are accepted together if all their services are. -/
theorem exists_generate_iff {files : List SchemaFile} :
    (∃ outputs, generate files = .ok outputs) ↔
      ∀ service ∈ files.flatMap SchemaFile.services, service.NamesApart := by
  rw [← flatMap_filter_services, List.forall_mem_flatMap, generate, exists_mapM_eq_ok_iff]
  simp only [exists_moduleOf_iff]

/-- Files are refused for the first clash of the first service with one, in whatever file that is.
-/
theorem generate_eq_error_iff {files : List SchemaFile} {clash : NameClash} :
    generate files = .error clash ↔
      FirstBad Service.NamesApart (FirstClash · clash) (files.flatMap SchemaFile.services) := by
  rw [← flatMap_filter_services, firstBad_flatMap, generate, mapM_eq_error_iff]
  simp only [exists_moduleOf_iff, moduleOf_eq_error_iff]

/-- **The check of names is exact.**  A service is accepted exactly if no two of its methods take a
name in common, and then has its methods in order of declaration; otherwise it is refused for its
first clash.  So modules are generated exactly if all services of all files are accepted; otherwise
the first service that is not, in order of files and services, is the reason. -/
theorem name_check_exact :
    (∀ service : Service,
      (∀ bound, bindMethods service = .ok bound ↔
        service.NamesApart ∧ bound = service.methods.map (bindMethod service)) ∧
      ∀ clash, bindMethods service = .error clash ↔ FirstClash service clash) ∧
    ∀ files : List SchemaFile,
      ((∃ outputs, generate files = .ok outputs) ↔
        ∀ file ∈ files, ∀ service ∈ file.services, service.NamesApart) ∧
      ∀ clash, generate files = .error clash ↔
        FirstBad Service.NamesApart (FirstClash · clash) (files.flatMap SchemaFile.services) := by
  constructor
  · exact fun service => ⟨fun _ => bindMethods_eq_ok_iff_namesApart,
      fun _ => bindMethods_eq_error_iff⟩
  · intro files
    rw [← List.forall_mem_flatMap]
    exact ⟨exists_generate_iff, fun _ => generate_eq_error_iff⟩

end Stub

end StubGen
