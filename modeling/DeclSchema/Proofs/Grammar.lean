import DeclSchema.Proofs.CamelCase
import DeclSchema.Proofs.Definitions

/-!
The grammar of the documents.

A document that is written is of few forms, and here they are written down
by themselves, as a grammar of JSON that knows nothing of types, records
and catalogs. `IsNode` is the schema of a type: nine forms, of which an
array holds one schema and an object at least one, each under a key of its
own. `IsRecordSchema` is such an object under a title. An object is given
by its entries and the order in which they are kept does not matter.

Every schema that the mapping makes is a node of this grammar, by induction
along the mapping (`isNode_toJson`), and so every document is one of three:
a record under its title, the object without properties, or records under
`definitions`, each of them under the key that is its own title.
-/

namespace DeclSchema

open Catalog

/-- The document is an object with these entries and no others. -/
def Json.HasEntries (j : Json) (entries : List (String × Json)) : Prop :=
  ∃ kept, j = .object kept ∧ kept.Perm entries

theorem Json.hasEntries_ofEntries {entries : List (String × Json)}
    (h : (entries.map (·.1)).Nodup) : (Json.ofEntries entries).HasEntries entries :=
  ⟨_, rfl, Keyed.ofList_perm h⟩

mutual

/-- The schema of a type. -/
inductive IsNode : Json → Prop
  | boolean {j : Json} (h : j.HasEntries [("type", .text "boolean")]) : IsNode j
  | integer {j : Json} {format : String} (hformat : format ∈ ["int8", "int16", "int32", "int64"])
      (h : j.HasEntries [("type", .text "integer"), ("format", .text format)]) : IsNode j
  | number {j : Json} {format : String} (hformat : format ∈ ["float", "double"])
      (h : j.HasEntries [("type", .text "number"), ("format", .text format)]) : IsNode j
  | text {j : Json} (h : j.HasEntries [("type", .text "string")]) : IsNode j
  | boundedText {j : Json} (n : Nat)
      (h : j.HasEntries [("type", .text "string"), ("maxLength", .number n)]) : IsNode j
  | timestamp {j : Json}
      (h : j.HasEntries [("type", .text "string"), ("format", .text "date-time"),
        ("default", .text "1970-01-01T00:00:00.000Z")]) : IsNode j
  | array {j items : Json} (hitems : IsNode items)
      (h : j.HasEntries [("type", .text "array"), ("items", items)]) : IsNode j
  | anyObject {j : Json} (h : j.HasEntries [("type", .text "object")]) : IsNode j
  | object {j : Json} {properties : List (String × Json)} (hproperties : IsProperties properties)
      (h : j.HasEntries [("type", .text "object"), ("properties", .object properties)]) : IsNode j

/-- The properties of an object: at least one, under different keys. -/
inductive IsProperties : List (String × Json) → Prop
  | intro {properties : List (String × Json)} (hne : properties ≠ [])
      (hnodup : (properties.map (·.1)).Nodup)
      (hkey : ∀ e ∈ properties, Name.IsKey e.1.toList)
      (hnode : ∀ e ∈ properties, IsNode e.2) : IsProperties properties

end

/-- The schema of a record under a title. -/
def IsRecordSchema (title : String) (j : Json) : Prop :=
  ∃ properties, IsProperties properties ∧
    j.HasEntries [("title", .text title), ("type", .text "object"),
      ("properties", .object properties)]

/-- The object without properties under a title. -/
def IsStub (title : String) (j : Json) : Prop :=
  j.HasEntries [("title", .text title), ("type", .text "object"), ("properties", .object [])]

/-! ### Schemas of types -/

variable {c : Catalog} {visiting : List String} {t : FieldType} {r : RecordDecl} {node : Node}
  {properties : Keyed Node} {schema : RecordSchema} {o : Options}

theorem Node.entriesToJson_eq_map (entries : List (String × Node)) :
    Node.entriesToJson entries = entries.map fun e => (e.1, e.2.toJson) := by
  induction entries with
  | nil => rw [Node.entriesToJson, List.map_nil]
  | cons e rest ih => rw [Node.entriesToJson, ih, List.map_cons]

theorem isNode_toJson_primitive (p : Primitive) : IsNode p.toNode.toJson := by
  cases p with
  | bool => exact .boolean (Json.hasEntries_ofEntries (by simp))
  | int8 | int16 | int32 | int64 =>
      exact .integer (by simp) (Json.hasEntries_ofEntries (by simp))
  | float | double => exact .number (by simp) (Json.hasEntries_ofEntries (by simp))
  | char => exact .text (Json.hasEntries_ofEntries (by simp))

/-- The fields of a record make properties, if each makes a node: there is
one at least, no key comes twice, and each key is a camel-case spelling. -/
theorem isProperties_entriesToJson (h : mapFields c visiting r = .ok properties)
    (hnode : ∀ e ∈ properties, IsNode e.2.toJson) :
    IsProperties (Node.entriesToJson properties) := by
  have hsorted : Keyed.Sorted properties := by
    obtain ⟨-, entries, -, rfl⟩ := mapFields_eq_ok_iff.mp h
    exact Keyed.sorted_ofList entries
  rw [Node.entriesToJson_eq_map]
  refine .intro ?_ ?_ ?_ ?_
  · rw [Ne, List.map_eq_nil_iff]
    exact properties_ne_nil h
  · rw [List.map_map]
    exact hsorted.nodup_keys
  · rw [List.forall_mem_map]
    intro e he
    obtain ⟨f, -, hkey, -⟩ := exists_field_of_mem_properties h he
    rw [hkey]
    exact Name.isKey_camelCase f.name
  · rw [List.forall_mem_map]
    exact hnode

/-- Every schema that a type maps to is a node. -/
theorem isNode_toJson (h : mapType c visiting t = .ok node) : IsNode node.toJson := by
  refine mapped_induction (motive := fun _ node => IsNode node.toJson)
    ?primitive ?boundedText ?timestamp ?anyObject ?array ?object h
  case primitive =>
    intro _ p
    exact isNode_toJson_primitive p
  case boundedText =>
    intro _ n
    exact .boundedText n (Json.hasEntries_ofEntries (by simp))
  case timestamp =>
    intro _
    exact .timestamp (Json.hasEntries_ofEntries (by simp))
  case anyObject =>
    intro _
    exact .anyObject (Json.hasEntries_ofEntries (by simp))
  case array =>
    intro _ items ih
    rw [Node.toJson]
    exact .array ih (Json.hasEntries_ofEntries (by simp))
  case object =>
    intro visiting r _ _ properties hproperties ih
    rw [Node.toJson]
    exact .object (isProperties_entriesToJson hproperties ih) (Json.hasEntries_ofEntries (by simp))

/-! ### Documents -/

theorem isRecordSchema_toJson (h : c.recordSchema r = .ok schema) :
    IsRecordSchema (Name.title r.name) schema.toJson := by
  obtain ⟨htitle, hproperties⟩ := recordSchema_eq_ok_iff.mp h
  refine ⟨Node.entriesToJson schema.properties, ?_, ?_⟩
  · refine isProperties_entriesToJson hproperties fun e he => ?_
    obtain ⟨f, -, -, hmapped⟩ := exists_field_of_mem_properties hproperties he
    exact isNode_toJson hmapped
  · rw [← htitle]
    exact Json.hasEntries_ofEntries (by simp)

namespace Catalog

/-- A document about one record holds the schema of some record, or stands
for none. -/
theorem exists_single_of_generate {out : Output} (h : c.generate o = .ok out) :
    ∃ schema, out.document = .single schema ∧
      ((∃ r ∈ c.records, c.recordSchema r = .ok schema) ∨ schema = ⟨o.title, []⟩) := by
  obtain ⟨title, root⟩ := o
  cases root with
  | none =>
      obtain ⟨schema, hdefault, hcases⟩ := generate_default c title
      rw [hdefault, Except.ok.injEq] at h
      subst h
      refine ⟨schema, rfl, ?_⟩
      rcases hcases with ⟨r, hlast, hschema⟩ | ⟨-, hstub⟩
      · exact .inl ⟨r, hlast.mem_records, hschema⟩
      · exact .inr hstub
  | some name =>
      cases hfind : c.find? name with
      | none =>
          simp only [generate, hfind] at h
          cases h
      | some r =>
          cases hmapped : c.mappedRecords.find? fun m => m.1.name == r.name with
          | none =>
              simp only [generate, hfind, hmapped] at h
              cases h
          | some m =>
              simp only [generate, hfind, hmapped] at h
              cases h
              obtain ⟨hm, hschema⟩ := mem_mappedRecords_iff.mp (List.mem_of_find?_eq_some hmapped)
              exact ⟨m.2, rfl, .inl ⟨m.1, hm, hschema⟩⟩

theorem isRecordSchema_of_mem_definitions {e : String × Json} (h : e ∈ c.definitions o) :
    IsRecordSchema e.1 e.2 := by
  rw [definitions_eq] at h
  obtain ⟨⟨key, schema⟩, hmem, rfl⟩ := List.mem_map.mp h
  obtain ⟨⟨r, found⟩, hm, heq⟩ := List.mem_map.mp (Keyed.mem_of_mem_ofList hmem)
  rw [Prod.mk.injEq] at heq
  obtain ⟨rfl, rfl⟩ := heq
  exact isRecordSchema_toJson (mem_mappedRecords_iff.mp hm).2

/-- A document about one record is the schema of a record of the catalog
under its title, or the object without properties under the title of the
options; without a root there always is one. The document about every
record holds such schemas, each under its own title. -/
theorem documents_in_grammar (c : Catalog) (o : Options) :
    (∀ out, c.generate o = .ok out →
      (∃ r ∈ c.records, IsRecordSchema (Name.title r.name) out.serialized) ∨
        IsStub o.title out.serialized) ∧
    (o.root = none → ∃ out, c.generate o = .ok out) ∧
    ∃ definitions, (c.generateAll o).serialized.HasEntries
        [("title", .text o.title), ("type", .text "object"), ("definitions", .object definitions)] ∧
      (definitions.map (·.1)).Nodup ∧ ∀ e ∈ definitions, IsRecordSchema e.1 e.2 := by
  refine ⟨fun out hgen => ?_, fun hroot => ?_, c.definitions o, ?_, ?_, ?_⟩
  · obtain ⟨schema, hdocument, hcases⟩ := exists_single_of_generate hgen
    rw [Output.serialized, hdocument]
    rcases hcases with ⟨r, hr, hschema⟩ | rfl
    · exact .inl ⟨r, hr, isRecordSchema_toJson hschema⟩
    · exact .inr (Json.hasEntries_ofEntries (by simp))
  · obtain ⟨title, root⟩ := o
    cases hroot
    obtain ⟨schema, hgen, -⟩ := generate_default c title
    exact ⟨_, hgen⟩
  · rw [definitions_eq]
    exact Json.hasEntries_ofEntries (by simp)
  · rw [definitions_eq, List.map_map]
    exact (Keyed.sorted_ofList _).nodup_keys
  · exact fun e => isRecordSchema_of_mem_definitions

end Catalog

end DeclSchema
