import DeclSchema.Proofs.Outcome
import DeclSchema.Proofs.Walk
import Mathlib.Data.List.Perm.Subperm

/-!
How deep the mapping nests.

A record is entered only if it is not on the stack, so the stack never
holds a name twice, and all its names are names of records. A catalog has
only so many. This bounds the visits that are open at once (`IsStack`), and
with them the schemas: a schema grows one object deeper only where a record
is entered, so `depth` never exceeds the number of records that are not
being visited.
-/

namespace DeclSchema

open Catalog Walk

/-! ### The stack -/

/-- The names are those of records of the catalog, and no name comes twice. -/
def Catalog.IsStack (c : Catalog) (names : List String) : Prop :=
  names.Nodup ∧ ∀ name ∈ names, ∃ r ∈ c.records, r.name = name

namespace Catalog.IsStack

variable {c : Catalog} {names : List String} {r : RecordDecl}

theorem nil : c.IsStack [] := by
  simp [IsStack]

theorem push (h : c.IsStack names) (hr : r ∈ c.records) (hv : r.name ∉ names) :
    c.IsStack (r.name :: names) := by
  refine ⟨List.nodup_cons.mpr ⟨hv, h.1⟩, ?_⟩
  intro name hname
  rcases List.mem_cons.mp hname with rfl | hname
  · exact ⟨r, hr, rfl⟩
  · exact h.2 name hname

theorem length_le (h : c.IsStack names) : names.length ≤ c.records.length := by
  have hsub : names ⊆ c.records.map (·.name) := by
    intro name hname
    obtain ⟨r, hr, rfl⟩ := h.2 name hname
    exact List.mem_map_of_mem hr
  calc
    names.length ≤ (c.records.map (·.name)).length := (h.1.subperm hsub).length_le
    _ = c.records.length := List.length_map _

end Catalog.IsStack

/-- The records whose fields are being mapped while the visit is open, its
own record included. -/
def Visit.inside : Visit → List String
  | .type visiting _ => visiting
  | .fields visiting r => r.name :: visiting

theorem Visit.Within.isStack_inside_and_length_le {c : Catalog} {visit : Visit}
    (h : visit.Within c c.IsStack) :
    c.IsStack visit.inside ∧ visit.inside.length ≤ c.records.length := by
  have hstack : c.IsStack visit.inside := by
    cases visit with
    | type visiting t => exact h
    | fields visiting r => exact h.1.push h.2.1 h.2.2
  exact ⟨hstack, hstack.length_le⟩

theorem Catalog.unvisited_nil (c : Catalog) : c.unvisited [] = c.records.length := by
  simp [unvisited]

/-- From the empty stack, room for every record is enough. -/
theorem walkFields_runs_nil {c : Catalog} {r : RecordDecl} (hr : r ∈ c.records) :
    Runs (Visit.Within c c.IsStack) (walkFields c c.records.length r) [] (mapFields c [] r) [] := by
  refine walkFields_runs ?_ c.records.length IsStack.nil (Nat.le_of_eq c.unvisited_nil) hr (by simp)
  intro visiting s hs hstack hv
  exact hstack.push hs hv

theorem walkType_runs_nil (c : Catalog) (t : FieldType) :
    Runs (Visit.Within c c.IsStack) (walkType c (walkFields c c.records.length) t) []
      (mapType c [] t) [] :=
  walkType_runs (fun _ => IsStack.nil) (fun _ hr _ => walkFields_runs_nil hr) t

/-! ### The schemas -/

mutual

/-- How many objects with properties are nested in the schema. -/
def Node.depth : Node → Nat
  | .array items => items.depth
  | .object properties => Node.entriesDepth properties + 1
  | _ => 0

def Node.entriesDepth : List (String × Node) → Nat
  | [] => 0
  | (_, node) :: rest => max node.depth (Node.entriesDepth rest)

end

def RecordSchema.depth (schema : RecordSchema) : Nat :=
  Node.entriesDepth schema.properties + 1

theorem Node.entriesDepth_le {entries : List (String × Node)} {n : Nat}
    (h : ∀ e ∈ entries, e.2.depth ≤ n) : Node.entriesDepth entries ≤ n := by
  induction entries with
  | nil => exact Nat.zero_le n
  | cons e rest ih =>
      rw [List.forall_mem_cons] at h
      exact Nat.max_le.mpr ⟨h.1, ih h.2⟩

variable {c : Catalog} {visiting : List String} {r : RecordDecl}

theorem depth_le_unvisited {t : FieldType} {node : Node} (h : mapType c visiting t = .ok node) :
    node.depth ≤ c.unvisited visiting := by
  refine mapped_induction (motive := fun visiting node => node.depth ≤ c.unvisited visiting)
    ?primitive ?boundedText ?timestamp ?anyObject ?array ?object h
  case primitive =>
    intro visiting p
    cases p <;> exact Nat.zero_le _
  case boundedText | timestamp | anyObject =>
    intros
    exact Nat.zero_le _
  case array =>
    intro visiting items ih
    rw [Node.depth]
    exact ih
  case object =>
    intro visiting r hr hv properties _ ih
    exact Nat.lt_of_le_of_lt (Node.entriesDepth_le ih) (unvisited_lt hr hv)

theorem depth_le_of_recordSchema {schema : RecordSchema} (hr : r ∈ c.records)
    (h : c.recordSchema r = .ok schema) : schema.depth ≤ c.records.length := by
  have hproperties := (recordSchema_eq_ok_iff.mp h).2
  have hle : Node.entriesDepth schema.properties ≤ c.unvisited [r.name] := by
    apply Node.entriesDepth_le
    intro e he
    obtain ⟨f, -, -, hmapped⟩ := exists_field_of_mem_properties hproperties he
    exact depth_le_unvisited hmapped
  rw [← c.unvisited_nil]
  exact Nat.lt_of_le_of_lt hle (unvisited_lt hr (by simp))

/-- The record schemas that a document holds. -/
def Document.schemas : Document → List RecordSchema
  | .single schema => [schema]
  | .definitions _ schemas => schemas.map (·.2)

theorem exists_record_of_mem_schemas_generateAll {o : Options} {schema : RecordSchema}
    (h : schema ∈ (c.generateAll o).document.schemas) :
    ∃ r ∈ c.records, c.recordSchema r = .ok schema := by
  obtain ⟨e, he, rfl⟩ := List.mem_map.mp h
  obtain ⟨⟨r, schema⟩, hm, rfl⟩ := List.mem_map.mp (Keyed.mem_of_mem_ofList he)
  obtain ⟨hr, hschema⟩ := mem_mappedRecords_iff.mp hm
  exact ⟨r, hr, hschema⟩

theorem exists_record_of_mem_schemas_generate (hc : c.NamesDistinct) {o : Options} {out : Output}
    (hgen : c.generate o = .ok out) {schema : RecordSchema} (h : schema ∈ out.document.schemas) :
    (∃ r ∈ c.records, c.recordSchema r = .ok schema) ∨
      (∀ r ∈ c.records, ¬ c.Maps r) ∧ schema = ⟨o.title, []⟩ := by
  obtain ⟨title, root⟩ := o
  cases root with
  | none =>
      obtain ⟨found, hdefault, hcases⟩ := generate_default c title
      rw [hdefault, Except.ok.injEq] at hgen
      subst hgen
      obtain rfl := List.mem_singleton.mp h
      exact hcases.imp_left fun ⟨r, hlast, hschema⟩ => ⟨r, hlast.mem_records, hschema⟩
  | some name =>
      obtain ⟨r, found, hfind, hschema, rfl⟩ := (generate_root_eq_ok_iff hc).mp hgen
      obtain rfl := List.mem_singleton.mp h
      exact .inl ⟨r, mem_of_find? hfind, hschema⟩

/-- The mapping of every type and of every record ends: a walk with as much
room as the catalog has records never gives up, gives the same result and
leaves the stack empty. At every visit the records being mapped are distinct
records of the catalog, so none is mapped inside itself and no more are
open than there are. No schema has more objects in each other than there
are records; the document of a catalog with no records at all is an object
in which nothing is nested. -/
theorem mapping_ends (hc : c.Built) :
    (∀ t, ∃ visits, (walkType c (walkFields c c.records.length) t).run ⟨[], []⟩ =
        some (mapType c [] t, ⟨[], visits⟩) ∧
      ∀ visit ∈ visits, c.IsStack visit.inside ∧ visit.inside.length ≤ c.records.length) ∧
    (∀ r ∈ c.records, ∃ visits, (walkFields c c.records.length r).run ⟨[], []⟩ =
        some (mapFields c [] r, ⟨[], visits⟩) ∧
      ∀ visit ∈ visits, c.IsStack visit.inside ∧ visit.inside.length ≤ c.records.length) ∧
    (∀ t node, mapType c [] t = .ok node → node.depth ≤ c.records.length) ∧
    (∀ o, ∀ schema ∈ (c.generateAll o).document.schemas, schema.depth ≤ c.records.length) ∧
    (∀ o out, c.generate o = .ok out → ∀ schema ∈ out.document.schemas,
      schema.depth ≤ c.records.length ∨ c.records = [] ∧ schema = ⟨o.title, []⟩) := by
  refine ⟨fun t => ?_, fun r hr => ?_, fun t node h => ?_, fun o schema h => ?_, ?_⟩
  · obtain ⟨visits, hrun, hwithin⟩ := walkType_runs_nil c t []
    exact ⟨visits, hrun, fun visit hvisit => (hwithin visit hvisit).isStack_inside_and_length_le⟩
  · obtain ⟨visits, hrun, hwithin⟩ := walkFields_runs_nil hr []
    exact ⟨visits, hrun, fun visit hvisit => (hwithin visit hvisit).isStack_inside_and_length_le⟩
  · exact c.unvisited_nil ▸ depth_le_unvisited h
  · obtain ⟨r, hr, hschema⟩ := exists_record_of_mem_schemas_generateAll h
    exact depth_le_of_recordSchema hr hschema
  · intro o out hgen schema h
    rcases exists_record_of_mem_schemas_generate hc.namesDistinct hgen h with
      ⟨r, hr, hschema⟩ | ⟨-, rfl⟩
    · exact .inl (depth_le_of_recordSchema hr hschema)
    · cases hrecords : c.records with
      | nil => exact .inr ⟨rfl, rfl⟩
      | cons r rest =>
          refine .inl ?_
          simp [RecordSchema.depth, Node.entriesDepth]

theorem railway_mapping_ends : railway.Built ∧ stationDecl ∈ railway.records ∧
    (∃ visits, (walkFields railway railway.records.length stationDecl).run ⟨[], []⟩ =
        some (mapFields railway [] stationDecl, ⟨[], visits⟩) ∧
      ∀ visit ∈ visits, railway.IsStack visit.inside ∧
        visit.inside.length ≤ railway.records.length) ∧
    ∃ node, mapType railway [] (.record "STATION") = .ok node ∧
      node.depth ≤ railway.records.length := by
  have hmem : stationDecl ∈ railway.records := mem_of_find? find?_railway.2
  obtain ⟨node, hnode⟩ : ∃ node, mapType railway [] (.record "STATION") = .ok node := by
    rw [← fault?_eq_none_iff]
    simp [fault?_mapFields_eq_none_iff, fault?_mapType, FieldType.leaf, find?_railway,
      stationDecl, trackDecl]
  have hends := mapping_ends built_railway
  exact ⟨built_railway, hmem, hends.2.1 stationDecl hmem, node, hnode, hends.2.2.1 _ node hnode⟩

end DeclSchema
