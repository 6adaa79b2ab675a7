import StubGen.Stub.Binding

/-!
# StubGen.Proofs.Binding

When the methods of a service can have their names.  The check walks the methods in order and
compares the names of each with those of all earlier ones; it passes exactly when the names of any
two methods lie apart (`bindMethods_eq_ok_iff`).  Since the names are read off the method name,
methods that passed have different method names as well (`nodup_rpcNames`).
-/

namespace StubGen.Stub

/-- Two methods that share no name. -/
def NamesApart (earlier later : BoundMethod) : Prop :=
  ∀ name ∈ later.memberNames, name ∉ earlier.memberNames

/-- A name clashes with none if no earlier method has it. -/
theorem clashOf?_eq_none_iff {earlier : List BoundMethod} {bound : BoundMethod} {name : String} :
    clashOf? earlier bound name = none ↔ ∀ other ∈ earlier, name ∉ other.memberNames := by
  simp [clashOf?, List.find?_eq_none]

/-- The check passes exactly when the names of the methods to check lie apart, both from those of
the earlier methods and from one another. -/
theorem firstClash?_eq_none_iff {earlier later : List BoundMethod} :
    firstClash? earlier later = none ↔
      (∀ other ∈ earlier, ∀ bound ∈ later, NamesApart other bound) ∧
        later.Pairwise NamesApart := by
  -- each method that passes joins the earlier ones
  induction later generalizing earlier with
  | nil => simp [firstClash?]
  | cons bound later ih =>
      have hbound : bound.memberNames.findSome? (clashOf? earlier bound) = none ↔
          ∀ other ∈ earlier, NamesApart other bound := by
        simp only [List.findSome?_eq_none_iff, clashOf?_eq_none_iff, NamesApart]
        exact ⟨fun h other hother name hname => h name hname other hother,
          fun h name hname other hother => h other hother name hname⟩
      cases hclash : bound.memberNames.findSome? (clashOf? earlier bound) with
      | some clash =>
          have hnot : ¬ ∀ other ∈ earlier, NamesApart other bound := by
            rw [← hbound, hclash]
            simp
          simp only [firstClash?, hclash, List.forall_mem_cons, reduceCtorEq, false_iff]
          exact fun h => hnot fun other hother => (h.1 other hother).1
      | none =>
          simp only [firstClash?, hclash, ih, List.forall_mem_append, List.forall_mem_cons,
            List.pairwise_cons, List.not_mem_nil, false_implies, implies_true, and_true]
          constructor
          · rintro ⟨⟨hearlier, hhead⟩, hlater⟩
            exact ⟨fun other hother => ⟨hbound.mp hclash other hother, hearlier other hother⟩,
              hhead, hlater⟩
          · rintro ⟨hearlier, hhead, hlater⟩
            exact ⟨⟨fun other hother => (hearlier other hother).2, hhead⟩, hlater⟩

/-- The methods of a service have their names exactly when these lie pairwise apart, and are then
the methods in order of declaration. -/
theorem bindMethods_eq_ok_iff {service : Service} {methods : List BoundMethod} :
    bindMethods service = .ok methods ↔
      methods = service.methods.map (bindMethod service) ∧ methods.Pairwise NamesApart := by
  simp only [bindMethods]
  cases hclash : firstClash? [] (service.methods.map (bindMethod service)) with
  | some clash =>
      have hnot : ¬ (service.methods.map (bindMethod service)).Pairwise NamesApart := by
        intro hapart
        have hnone : firstClash? [] (service.methods.map (bindMethod service)) = none :=
          firstClash?_eq_none_iff.mpr ⟨by simp, hapart⟩
        rw [hclash] at hnone
        contradiction
      simp only [reduceCtorEq, false_iff]
      rintro ⟨rfl, hapart⟩
      exact hnot hapart
  | none =>
      simp only [Except.ok.injEq]
      constructor
      · rintro rfl
        exact ⟨rfl, (firstClash?_eq_none_iff.mp hclash).2⟩
      · rintro ⟨rfl, _⟩
        rfl

/-- Methods of one service with the same method name share their function's name. -/
theorem NamesApart.rpcName_ne {service : Service} {first second : Method}
    (h : NamesApart (bindMethod service first) (bindMethod service second)) :
    first.name ≠ second.name := by
  intro hname
  apply h (bindMethod service second).function
  · simp [BoundMethod.memberNames]
  · simp [BoundMethod.memberNames, bindMethod, hname]

/-- The method names of a service whose methods have their names are pairwise different. -/
theorem nodup_rpcNames {service : Service} {methods : List BoundMethod}
    (h : bindMethods service = .ok methods) : (service.methods.map Method.name).Nodup := by
  obtain ⟨rfl, hapart⟩ := bindMethods_eq_ok_iff.mp h
  rw [List.pairwise_map] at hapart
  rw [List.nodup_iff_pairwise_ne, List.pairwise_map]
  exact hapart.imp NamesApart.rpcName_ne

end StubGen.Stub
