import DeclSchema.Proofs.Mappability

/-!
What is reported as unmapped.

Each declaration that does not map leaves one entry, in the order of the
declarations, records before functions; a declaration that maps leaves
none. `Reports` says this of a list of entries without the functions that
make it: the entries stand one to one beside the declarations that do not
map. A function maps if all its types do, in whatever order they are tried.
-/

namespace DeclSchema

/-- The types of a function: its result, if it has one, and its arguments. -/
def FunctionDecl.types (f : FunctionDecl) : List FieldType :=
  f.result.toList ++ f.arguments.map (·.type)

/-- If `f` gives nothing exactly where `p` holds, what it gives stands beside
the elements without `p`. -/
theorem forall₂_filter_filterMap {α β : Type} {p : α → Prop} [DecidablePred p] {f : α → Option β}
    {R : α → β → Prop} (hnone : ∀ a, f a = none ↔ p a) (hsome : ∀ a b, f a = some b → R a b)
    (l : List α) : List.Forall₂ R (l.filter (¬ p ·)) (l.filterMap f) := by
  induction l with
  | nil => exact .nil
  | cons a rest ih =>
      cases ha : f a with
      | none =>
          have hp : p a := (hnone a).mp ha
          rw [List.filter_cons_of_neg (by simpa using hp), List.filterMap_cons_none ha]
          exact ih
      | some b =>
          have hp : ¬ p a := by simp [← hnone, ha]
          rw [List.filter_cons_of_pos (by simpa using hp), List.filterMap_cons_some ha]
          exact .cons (hsome a b ha) ih

namespace Catalog

variable {c : Catalog} {r : RecordDecl} {f : FunctionDecl} {u : Unmapped}

/-! ### Records -/

theorem recordFault_eq_none_iff : c.recordFault r = none ↔ c.Maps r := by
  unfold recordFault Maps
  split <;> simp_all

theorem recordFault_eq_some_iff : c.recordFault r = some u ↔ c.recordSchema r = .error u := by
  unfold recordFault
  split <;> simp_all

/-- A record is reported with the fault of its fields. -/
theorem fault?_recordSchema (c : Catalog) (r : RecordDecl) :
    fault? (c.recordSchema r) =
      (fault? (mapFields c [] r)).map fun fault => ⟨r.name, none, fault.cause, fault.field⟩ := by
  rw [recordSchema]
  cases mapFields c [] r <;> rfl

/-- The entry is the record's own: it says why this record has no schema. -/
structure ReportsRecord (c : Catalog) (r : RecordDecl) (u : Unmapped) : Prop where
  schema : c.recordSchema r = .error u
  name : u.name = r.name
  position : u.position = none

theorem reportsRecord_of_recordFault (h : c.recordFault r = some u) : c.ReportsRecord r u := by
  have hschema := recordFault_eq_some_iff.mp h
  have hentry := hschema
  unfold recordSchema at hentry
  split at hentry
  · cases hentry
  · cases hentry
    exact ⟨hschema, rfl, rfl⟩

/-! ### Functions -/

/-- Every type of the function has a schema. -/
def MapsFunction (c : Catalog) (f : FunctionDecl) : Prop :=
  ∀ t ∈ f.types, ∃ node, mapType c [] t = .ok node

theorem mapsFunction_iff_fault?_eq_none :
    c.MapsFunction f ↔ ∀ t ∈ f.types, fault? (mapType c [] t) = none := by
  simp only [MapsFunction, fault?_eq_none_iff]

instance : Decidable (c.MapsFunction f) :=
  decidable_of_iff _ mapsFunction_iff_fault?_eq_none.symm

theorem unmappedArgument_eq_none_iff (i : Nat) (arguments : List FieldDecl) :
    c.unmappedArgument i arguments = none ↔
      ∀ a ∈ arguments, fault? (mapType c [] a.type) = none := by
  induction arguments generalizing i with
  | nil => simp [unmappedArgument]
  | cons a rest ih =>
      rw [unmappedArgument]
      cases h : mapType c [] a.type with
      | error cause => simp [h]
      | ok node => simp [h, ih]

theorem functionFault_eq_none_iff : c.functionFault f = none ↔ c.MapsFunction f := by
  rw [mapsFunction_iff_fault?_eq_none]
  have harguments := unmappedArgument_eq_none_iff (c := c) 0 f.arguments
  unfold functionFault FunctionDecl.types
  cases hresult : f.result with
  | none =>
      simp only [Option.map_none, Option.toList_none, List.nil_append, List.forall_mem_map]
      rw [← harguments]
      split <;> simp_all
  | some t =>
      simp only [Option.map_some, Option.toList_some, List.singleton_append, List.forall_mem_cons,
        List.forall_mem_map]
      rw [← harguments]
      cases ht : mapType c [] t with
      | error cause => simp
      | ok node =>
          simp only [fault?_ok, true_and]
          split <;> simp_all

/-- The entry is the function's own: it says which of its types has no
schema, and where it stands. -/
structure ReportsFunction (c : Catalog) (f : FunctionDecl) (u : Unmapped) : Prop where
  fault : c.functionFault f = some u
  name : u.name = f.name
  position : u.position ≠ none
  context : u.context = some f.signature

theorem reportsFunction_of_functionFault (h : c.functionFault f = some u) :
    c.ReportsFunction f u := by
  have hentry := h
  unfold functionFault at hentry
  split at hentry
  · cases hentry
    exact ⟨h, rfl, by simp, rfl⟩
  · split at hentry
    · cases hentry
      exact ⟨h, rfl, by simp, rfl⟩
    · cases hentry

/-! ### The whole report -/

/-- The entries stand one to one beside the records that do not map, in
order, and then beside the functions that do not map, in order. -/
def Reports (c : Catalog) (entries : List Unmapped) : Prop :=
  ∃ recordEntries functionEntries, entries = recordEntries ++ functionEntries ∧
    List.Forall₂ c.ReportsRecord (c.records.filter (¬ c.Maps ·)) recordEntries ∧
    List.Forall₂ c.ReportsFunction (c.functions.filter (¬ c.MapsFunction ·)) functionEntries

theorem reports_unmapped (c : Catalog) : c.Reports c.unmapped := by
  refine ⟨_, _, rfl, ?_, ?_⟩
  · exact forall₂_filter_filterMap (fun _ => recordFault_eq_none_iff)
      (fun _ _ => reportsRecord_of_recordFault) c.records
  · exact forall₂_filter_filterMap (fun _ => functionFault_eq_none_iff)
      (fun _ _ => reportsFunction_of_functionFault) c.functions

/-- Nothing is reported exactly if every declaration maps. -/
theorem unmapped_eq_nil_iff :
    c.unmapped = [] ↔ (∀ r ∈ c.records, c.Maps r) ∧ ∀ f ∈ c.functions, c.MapsFunction f := by
  rw [unmapped, List.append_eq_nil_iff, List.filterMap_eq_nil_iff, List.filterMap_eq_nil_iff]
  simp only [recordFault_eq_none_iff, functionFault_eq_none_iff]

end Catalog

end DeclSchema
