import DeclSchema.Proofs.Outcome

/-!
When nothing is missing from a document.

A strict document fails if any declaration does not map, and whether one
maps may hang on records far away. For the catalog as a whole it does not:
`Complete` looks at each declaration once and follows no reference. If no
record is without fields and no leaf is unsupported or without a record,
then no walk can ever come to a bad leaf. And a defect anywhere shows in
the declaration it stands in, whatever that declaration leads to.
-/

namespace DeclSchema

open Catalog

variable {c : Catalog} {visiting : List String} {t : FieldType} {text : String}

namespace Catalog

/-- The types of all fields, results and arguments. -/
def types (c : Catalog) : List FieldType :=
  c.records.flatMap (fun r => r.fields.map (·.type)) ++ c.functions.flatMap (·.types)

/-- The leaf of the type is not unsupported, and a record it names is there. -/
def Resolved (c : Catalog) (t : FieldType) : Prop :=
  (∀ spelling, t.leaf ≠ .unsupported spelling) ∧
    ∀ name, t.leaf = .record name → c.find? name ≠ none

/-- No record is without fields and no type is without its leaf. -/
def Complete (c : Catalog) : Prop :=
  (∀ r ∈ c.records, r.fields ≠ []) ∧ ∀ t ∈ c.types, c.Resolved t

theorem resolved_iff_leaf : c.Resolved t ↔
    (match t.leaf with
      | .unsupported _ => false
      | .record name => (c.find? name).isSome
      | _ => true) = true := by
  unfold Resolved
  cases t.leaf <;> simp [Option.isSome_iff_ne_none]

instance : Decidable (c.Resolved t) :=
  decidable_of_iff _ resolved_iff_leaf.symm

instance : Decidable c.Complete :=
  inferInstanceAs (Decidable (_ ∧ _))

theorem mem_types_of_field {r : RecordDecl} (hr : r ∈ c.records) {f : FieldDecl}
    (hf : f ∈ r.fields) : f.type ∈ c.types := by
  rw [types, List.mem_append, List.mem_flatMap]
  exact .inl ⟨r, hr, List.mem_map_of_mem hf⟩

theorem mem_types_of_function {f : FunctionDecl} (hf : f ∈ c.functions) (ht : t ∈ f.types) :
    t ∈ c.types := by
  rw [types, List.mem_append, List.mem_flatMap, List.mem_flatMap]
  exact .inr ⟨f, hf, ht⟩

theorem Complete.resolved_field (hc : c.Complete) {r : RecordDecl} (hr : r ∈ c.records)
    {f : FieldDecl} (hf : f ∈ r.fields) : c.Resolved f.type :=
  hc.2 _ (mem_types_of_field hr hf)

theorem Complete.resolved_of_mem_types (hc : c.Complete) {f : FunctionDecl}
    (hf : f ∈ c.functions) (ht : t ∈ f.types) : c.Resolved t :=
  hc.2 _ (mem_types_of_function hf ht)

theorem BadLeaf.not_resolved (hfields : ∀ r ∈ c.records, r.fields ≠ [])
    (hb : c.BadLeaf t.leaf text) : ¬ c.Resolved t := by
  rintro ⟨hsupported, hnamed⟩
  generalize hleaf : t.leaf = leaf at hb
  cases hb with
  | unsupported => exact hsupported _ hleaf
  | unresolved hnone => exact hnamed _ hleaf hnone
  | fieldless hsome hr => exact hfields _ (mem_of_find? hsome) hr

/-- In a complete catalog no way leads to a bad leaf. -/
theorem Complete.not_reaches (hc : c.Complete) (ht : c.Resolved t) :
    ¬ c.Reaches visiting t text := by
  intro h
  induction h with
  | here hb _ => exact hb.not_resolved hc.1 ht
  | through ht' _ hf _ ih => exact ih (hc.resolved_field (mem_of_target? ht') hf)

theorem Complete.fault?_eq_none (hc : c.Complete) (ht : c.Resolved t) :
    fault? (mapType c visiting t) = none := by
  cases hfault : fault? (mapType c visiting t) with
  | none => rfl
  | some text => exact absurd (reaches_of_fault? hfault) (hc.not_reaches ht)

/-- A type that maps has its leaf, wherever it is mapped. -/
theorem resolved_of_fault?_eq_none (h : fault? (mapType c visiting t) = none) : c.Resolved t := by
  rw [fault?_mapType] at h
  constructor
  · intro spelling hleaf
    simp [hleaf] at h
  · intro name hleaf hnone
    simp [hleaf, hnone] at h

/-- Every declaration maps exactly if the catalog is complete. -/
theorem unmapped_eq_nil_iff_complete : c.unmapped = [] ↔ c.Complete := by
  rw [unmapped_eq_nil_iff]
  simp only [maps_iff_fault?_eq_none, mapsFunction_iff_fault?_eq_none,
    fault?_mapFields_eq_none_iff]
  constructor
  · rintro ⟨hrecords, hfunctions⟩
    refine ⟨fun r hr => (hrecords r hr).1, fun t ht => ?_⟩
    -- a type maps in the declaration it stands in, and its own leaf is always looked at
    rw [types, List.mem_append, List.mem_flatMap, List.mem_flatMap] at ht
    rcases ht with ⟨r, hr, ht⟩ | ⟨f, hf, ht⟩
    · obtain ⟨field, hfield, rfl⟩ := List.mem_map.mp ht
      exact resolved_of_fault?_eq_none ((hrecords r hr).2 field hfield)
    · exact resolved_of_fault?_eq_none (hfunctions f hf t ht)
  · intro hc
    refine ⟨fun r hr => ⟨hc.1 r hr, fun f hf => ?_⟩, fun f hf t ht => ?_⟩
    · exact hc.fault?_eq_none (hc.resolved_field hr hf)
    · exact hc.fault?_eq_none (hc.resolved_of_mem_types hf ht)

end Catalog

theorem Output.strict_eq_ok_iff {out : Output} {document : Document} :
    out.strict = .ok document ↔ out.unmapped = [] ∧ out.document = document := by
  unfold Output.strict
  by_cases h : out.unmapped = [] <;> simp [h]

theorem Output.strict_eq_error_iff {out : Output} {e : Error} :
    out.strict = .error e ↔ out.unmapped ≠ [] ∧ e = .unmapped (out.unmapped.map (·.name)) := by
  unfold Output.strict
  by_cases h : out.unmapped = []
  · simp [h]
  · rw [if_neg (by simpa using h), Except.error.injEq, eq_comm]
    simp [h]

/-- Without a root, the strict document is there exactly if the catalog is
complete, and so is the strict document about every record. Where it is
not, the error names what the lenient document leaves out, in order. -/
theorem Catalog.strict_ok_iff_complete (c : Catalog) (title : String) :
    ((∃ document, c.generateStrict ⟨title, none⟩ = .ok document) ↔ c.Complete) ∧
    (∀ o, (∃ document, (c.generateAll o).strict = .ok document) ↔ c.Complete) ∧
    ∃ out, c.generate ⟨title, none⟩ = .ok out ∧
      (∀ e, c.generateStrict ⟨title, none⟩ = .error e ↔
        ¬ c.Complete ∧ e = .unmapped (out.unmapped.map (·.name))) ∧
      ∀ o e, (c.generateAll o).strict = .error e ↔
        ¬ c.Complete ∧ e = .unmapped (out.unmapped.map (·.name)) := by
  obtain ⟨schema, hgen, -⟩ := generate_default c title
  have hstrict : c.generateStrict ⟨title, none⟩ = Output.strict ⟨.single schema, c.unmapped⟩ := by
    rw [generateStrict, hgen]
    rfl
  have hall : ∀ o, (c.generateAll o).unmapped = c.unmapped := fun _ => rfl
  refine ⟨?_, fun o => ?_, ⟨.single schema, c.unmapped⟩, hgen, fun e => ?_, fun o e => ?_⟩
  · simp [hstrict, Output.strict_eq_ok_iff, unmapped_eq_nil_iff_complete]
  · simp [Output.strict_eq_ok_iff, hall, unmapped_eq_nil_iff_complete]
  · simp [hstrict, Output.strict_eq_error_iff, unmapped_eq_nil_iff_complete]
  · simp [Output.strict_eq_error_iff, hall, unmapped_eq_nil_iff_complete]

end DeclSchema
