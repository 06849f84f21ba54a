import DeclSchema.Proofs.RecordOrder
import DeclSchema.Proofs.Strict

/-!
A record that nothing refers to.

A new record can change what older declarations map to: a name that stood
for nothing may be its alias, and a name that was found as a title in the
last round may now be found in the first. It does so only through a
reference. If no reference of the catalog is one of the names of the new
record, every reference still stands for what it stood for
(`Unrelated.target?_eq`), and what has been mapped or reported before is
mapped or reported as before. The new record itself may refer to anything.
-/

namespace DeclSchema

/-- The name that the leaf of a type refers to. -/
def FieldType.reference? (t : FieldType) : Option String :=
  match t.leaf with
  | .record name => some name
  | _ => none

namespace Catalog

variable {c : Catalog} {n r : RecordDecl} {t : FieldType} {name : String}

theorem target?_eq_bind (c : Catalog) (t : FieldType) :
    c.target? t = t.reference?.bind c.find? := by
  unfold target? FieldType.reference?
  cases t.leaf <;> rfl

/-- The names that fields, arguments and results refer to. -/
def references (c : Catalog) : List String :=
  c.types.filterMap (·.reference?)

/-- The record has a new name, and no reference of the catalog is its name,
its title or one of its aliases. -/
structure Unrelated (c : Catalog) (n : RecordDecl) : Prop where
  new : ∀ r ∈ c.records, r.name ≠ n.name
  unnamed : ∀ name ∈ c.references, name ∉ n.names

instance : Decidable (c.Unrelated n) :=
  decidable_of_iff
    ((∀ r ∈ c.records, r.name ≠ n.name) ∧ ∀ name ∈ c.references, name ∉ n.names)
    ⟨fun h => ⟨h.1, h.2⟩, fun h => ⟨h.new, h.unnamed⟩⟩

theorem records_addRecord_of_new (h : ∀ r ∈ c.records, r.name ≠ n.name) :
    (c.addRecord n).records = c.records ++ [n] := by
  have hkept : (c.records.filter fun old => old.name != n.name) = c.records :=
    List.filter_eq_self.mpr fun r hr => by simpa using h r hr
  rw [addRecord, hkept]

/-- A text that is none of the new names stands for what it stood for, in
the first round as in the second. -/
theorem find?_addRecord_of_new (h : ∀ r ∈ c.records, r.name ≠ n.name) (hname : name ∉ n.names) :
    (c.addRecord n).find? name = c.find? name := by
  rw [mem_names_iff, not_or] at hname
  obtain ⟨hanswers, htitle⟩ := hname
  rw [find?, find?, records_addRecord_of_new h]
  simp [List.find?_append, hanswers, htitle]

namespace Unrelated

theorem target?_eq (h : c.Unrelated n) (ht : t ∈ c.types) :
    c.target? t = (c.addRecord n).target? t := by
  rw [target?_eq_bind, target?_eq_bind]
  cases hname : t.reference? with
  | none => rfl
  | some name =>
      have hmem : name ∈ c.references := List.mem_filterMap.mpr ⟨t, ht, hname⟩
      exact (find?_addRecord_of_new h.new (h.unnamed name hmem)).symm

theorem fieldsAgree (h : c.Unrelated n) : c.FieldsAgree (c.addRecord n) := by
  intro r hr f hf
  exact h.target?_eq (mem_types_of_field hr hf)

theorem recordSchema_eq (h : c.Unrelated n) (hr : r ∈ c.records) :
    (c.addRecord n).recordSchema r = c.recordSchema r :=
  (recordSchema_congr h.fieldsAgree (h.fieldsAgree r hr)).symm

theorem functionFault_eq (h : c.Unrelated n) {f : FunctionDecl} (hf : f ∈ c.functions) :
    (c.addRecord n).functionFault f = c.functionFault f :=
  (functionFault_congr h.fieldsAgree fun _ ht => h.target?_eq (mem_types_of_function hf ht)).symm

/-- The report is the old one with the entry of the new record, if it has
one, between the records and the functions. -/
theorem unmapped_eq (h : c.Unrelated n) :
    (c.addRecord n).unmapped =
      recordEntries c.unmapped ++ (fault? ((c.addRecord n).recordSchema n)).toList ++
        functionEntries c.unmapped := by
  have hrecords : c.records.filterMap (c.addRecord n).recordFault =
      c.records.filterMap c.recordFault :=
    List.filterMap_congr fun r hr => recordFault_congr (h.recordSchema_eq hr)
  have hfunctions : c.functions.filterMap (c.addRecord n).functionFault =
      c.functions.filterMap c.functionFault :=
    List.filterMap_congr fun f hf => h.functionFault_eq hf
  have hnew : [n].filterMap (c.addRecord n).recordFault =
      (fault? ((c.addRecord n).recordSchema n)).toList := by
    rw [List.filterMap_cons, recordFault]
    cases (c.addRecord n).recordSchema n <;> rfl
  have hkept : (c.addRecord n).functions = c.functions := rfl
  rw [recordEntries_unmapped, functionEntries_unmapped, unmapped,
    records_addRecord_of_new h.new, hkept, List.filterMap_append, hrecords, hfunctions, hnew]

end Unrelated

/-- With a record that no reference names, every older record maps to the
same schema or leaves the same entry, every older function has the same
outcome, and the report is the old one with the entry of the new record, if
it does not map, after those of the older records. -/
theorem addRecord_of_unrelated (h : c.Unrelated n) :
    (c.addRecord n).records = c.records ++ [n] ∧
    (∀ r ∈ c.records, (c.addRecord n).recordSchema r = c.recordSchema r) ∧
    (∀ f ∈ c.functions, (c.addRecord n).functionFault f = c.functionFault f) ∧
    (c.addRecord n).unmapped =
      recordEntries c.unmapped ++ (fault? ((c.addRecord n).recordSchema n)).toList ++
        functionEntries c.unmapped :=
  ⟨records_addRecord_of_new h.new, fun _ hr => h.recordSchema_eq hr,
    fun _ hf => h.functionFault_eq hf, h.unmapped_eq⟩

/-- A tram that belongs to a shed, which is never defined. -/
def tramDecl : RecordDecl where
  name := "tram"
  aliases := ["TRAM"]
  fields := [⟨"home", .pointer (.record "shed")⟩]

theorem depot_with_tram : depot.Unrelated tramDecl ∧ shedDecl ∈ depot.records ∧
    (depot.addRecord tramDecl).recordSchema shedDecl = depot.recordSchema shedDecl ∧
    (depot.addRecord tramDecl).unmapped =
      recordEntries depot.unmapped ++ [⟨"tram", none, "shed", some "home"⟩] ++
        functionEntries depot.unmapped := by
  have h : depot.Unrelated tramDecl := by decide +kernel
  have hshed : shedDecl ∈ depot.records := by decide +kernel
  have hfind : (depot.addRecord tramDecl).find? "shed" = some shedDecl := by decide +kernel
  have hempty : ∀ visiting, fault? (mapFields (depot.addRecord tramDecl) visiting shedDecl) =
      some ⟨"shed", none⟩ := fun _ => fault?_mapFields_of_nil rfl
  have hhome : fault? (mapType (depot.addRecord tramDecl) [tramDecl.name]
      (.pointer (.record "shed"))) = some "shed" := by
    have hname : shedDecl.name ∉ [tramDecl.name] := by decide
    simp only [fault?_mapType, FieldType.leaf, hfind, if_neg hname, hempty, Option.map_some]
  have htram : fault? (mapFields (depot.addRecord tramDecl) [] tramDecl) =
      some ⟨"shed", some "home"⟩ := by
    have hfields : tramDecl.fields = [⟨"home", .pointer (.record "shed")⟩] := rfl
    rw [fault?_mapFields (by decide), hfields, List.findSome?_singleton, hhome]
    rfl
  obtain ⟨-, hrecords, -, hreport⟩ := addRecord_of_unrelated h
  rw [fault?_recordSchema, htram] at hreport
  exact ⟨h, hshed, hrecords shedDecl hshed, hreport⟩

end Catalog

end DeclSchema
