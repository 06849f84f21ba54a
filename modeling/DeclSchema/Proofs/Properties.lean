import DeclSchema.Proofs.Grammar

/-!
Which fields of a record are in its schema.

If a record maps, each of its fields has a schema, and the schema of the
record keeps them in an object under their camel-case names. Two different
names can have one camel-case spelling: `max_speed` and `maxSpeed` are two
fields and one property. Of the fields under one key the last is kept
(`get?_properties_eq_some_iff`), and nothing tells that there were others.
So every field is in the schema exactly if no two are spelled alike in
camel case (`keepsEveryField_iff`).
-/

namespace DeclSchema

open Catalog

variable {c : Catalog} {visiting : List String} {r : RecordDecl} {fields : List FieldDecl}
  {entries : List (String × Node)} {properties : Keyed Node} {schema : RecordSchema}
  {key : String} {node : Node}

namespace RecordDecl

/-- The keys of the fields in the record's schema, in field order. -/
def propertyNames (r : RecordDecl) : List String :=
  r.fields.map (Name.camelCase ·.name)

/-- The field has the key, and no field after it has. -/
def IsLastNamed (r : RecordDecl) (key : String) (f : FieldDecl) : Prop :=
  ∃ before after, r.fields = before ++ f :: after ∧ Name.camelCase f.name = key ∧
    ∀ g ∈ after, Name.camelCase g.name ≠ key

/-- Of fields with different keys each is the last with its own. -/
theorem isLastNamed_of_nodup (h : r.propertyNames.Nodup) {f : FieldDecl} (hf : f ∈ r.fields) :
    r.IsLastNamed (Name.camelCase f.name) f := by
  obtain ⟨before, after, hsplit⟩ := List.append_of_mem hf
  refine ⟨before, after, hsplit, rfl, fun g hg hkey => ?_⟩
  rw [propertyNames, hsplit, List.map_append, List.map_cons] at h
  have hnot := (List.nodup_cons.mp (List.nodup_append.mp h).2.1).1
  exact hnot (hkey ▸ List.mem_map_of_mem hg)

end RecordDecl

/-! ### Properties as the fields give them -/

theorem keys_of_mapEach (h : mapEach c visiting fields = .ok entries) :
    entries.map (·.1) = fields.map (Name.camelCase ·.name) := by
  rw [mapEach_eq_ok_iff] at h
  induction h with
  | nil => rfl
  | cons hfirst _ ih => rw [List.map_cons, List.map_cons, hfirst.1, ih]

/-- The first entry under a key is that of the first field that has it. -/
theorem lookup_eq_some_iff_first
    (h : List.Forall₂ (fun f e => e.1 = Name.camelCase f.name ∧ mapType c visiting f.type = .ok e.2)
      fields entries) :
    entries.lookup key = some node ↔
      ∃ before f after, fields = before ++ f :: after ∧ Name.camelCase f.name = key ∧
        (∀ g ∈ before, Name.camelCase g.name ≠ key) ∧ mapType c visiting f.type = .ok node := by
  induction h with
  | nil => simp
  | @cons f e fields entries hfirst _ ih =>
      obtain ⟨hkey, hnode⟩ := hfirst
      by_cases hown : Name.camelCase f.name = key
      · have hfound : (e :: entries).lookup key = some e.2 := by
          rw [List.lookup_cons, hkey, hown, BEq.rfl]
        rw [hfound, Option.some.injEq]
        constructor
        · rintro rfl
          exact ⟨[], f, fields, rfl, hown, by simp, hnode⟩
        · rintro ⟨before, g, after, hsplit, -, hbefore, hg⟩
          -- a field before `g` would be `f`, which has the key
          cases before with
          | nil =>
              obtain ⟨rfl, -⟩ := List.cons.inj hsplit
              exact Except.ok.inj (hnode.symm.trans hg)
          | cons first before =>
              obtain ⟨rfl, -⟩ := List.cons.inj hsplit
              exact absurd hown (hbefore f List.mem_cons_self)
      · have hskip : (e :: entries).lookup key = entries.lookup key := by
          have hne : (key == e.1) = false := by simpa [hkey] using Ne.symm hown
          rw [List.lookup_cons, hne]
        rw [hskip, ih]
        constructor
        · rintro ⟨before, g, after, rfl, hg, hbefore, hmapped⟩
          exact ⟨f :: before, g, after, rfl, hg, by simpa [hown] using hbefore, hmapped⟩
        · rintro ⟨before, g, after, hsplit, hg, hbefore, hmapped⟩
          cases before with
          | nil =>
              obtain ⟨rfl, -⟩ := List.cons.inj hsplit
              exact absurd hg hown
          | cons first before =>
              have hrest : fields = before ++ g :: after := (List.cons.inj hsplit).2
              exact ⟨before, g, after, hrest, hg,
                fun x hx => hbefore x (List.mem_cons_of_mem _ hx), hmapped⟩

/-- Under a key stands the schema of the last field that has it. -/
theorem get?_properties_eq_some_iff (h : mapFields c visiting r = .ok properties) :
    properties.get? key = some node ↔
      ∃ f, r.IsLastNamed key f ∧ mapType c (r.name :: visiting) f.type = .ok node := by
  obtain ⟨-, entries, hentries, rfl⟩ := mapFields_eq_ok_iff.mp h
  rw [Keyed.get?_ofList,
    lookup_eq_some_iff_first (List.forall₂_reverse_iff.mpr (mapEach_eq_ok_iff.mp hentries))]
  constructor
  · rintro ⟨after, f, before, hsplit, hkey, hafter, hmapped⟩
    refine ⟨f, ⟨before.reverse, after.reverse, ?_, hkey, ?_⟩, hmapped⟩
    · rw [← List.reverse_reverse r.fields, hsplit]
      simp
    · simpa using hafter
  · rintro ⟨f, ⟨before, after, hsplit, hkey, hafter⟩, hmapped⟩
    refine ⟨after.reverse, f, before.reverse, ?_, hkey, ?_, hmapped⟩
    · rw [hsplit]
      simp
    · simpa using hafter

theorem length_properties (h : mapFields c visiting r = .ok properties) :
    properties.length = r.propertyNames.dedup.length := by
  obtain ⟨-, entries, hentries, rfl⟩ := mapFields_eq_ok_iff.mp h
  rw [Keyed.length_ofList, keys_of_mapEach hentries, RecordDecl.propertyNames]

/-! ### Properties as they are written -/

/-- The entries under `properties` of the schema as it is written. -/
def RecordSchema.written (schema : RecordSchema) : Keyed Json :=
  (schema.toJson.get? "properties").elim [] Json.entries

theorem RecordSchema.written_eq (schema : RecordSchema) :
    schema.written = schema.properties.map fun e => (e.1, e.2.toJson) := by
  rw [written, toJson, Json.get?_ofEntries, Node.entriesToJson_eq_map]
  simp [Json.entries]

namespace Catalog

theorem get?_written_eq_some_iff (h : c.recordSchema r = .ok schema) {j : Json} :
    schema.written.get? key = some j ↔
      ∃ f node, r.IsLastNamed key f ∧ mapType c [r.name] f.type = .ok node ∧ node.toJson = j := by
  have hproperties := (recordSchema_eq_ok_iff.mp h).2
  rw [RecordSchema.written_eq, Keyed.get?_map, Option.map_eq_some_iff]
  simp only [get?_properties_eq_some_iff hproperties]
  constructor
  · rintro ⟨node, ⟨f, hlast, hmapped⟩, hj⟩
    exact ⟨f, node, hlast, hmapped, hj⟩
  · rintro ⟨f, node, hlast, hmapped, hj⟩
    exact ⟨node, ⟨f, hlast, hmapped⟩, hj⟩

theorem length_written (h : c.recordSchema r = .ok schema) :
    schema.written.length = r.propertyNames.dedup.length := by
  rw [RecordSchema.written_eq, List.length_map,
    length_properties (recordSchema_eq_ok_iff.mp h).2]

/-- There are as many properties as fields, and under the key of each field
stands what its type maps to inside the record. -/
def KeepsEveryField (c : Catalog) (r : RecordDecl) (schema : RecordSchema) : Prop :=
  schema.written.length = r.fields.length ∧
    ∀ f ∈ r.fields, ∃ node, mapType c [r.name] f.type = .ok node ∧
      schema.written.get? (Name.camelCase f.name) = some node.toJson

theorem keepsEveryField_iff (h : c.recordSchema r = .ok schema) :
    c.KeepsEveryField r schema ↔ r.propertyNames.Nodup := by
  have hlength : r.fields.length = r.propertyNames.length := by
    rw [RecordDecl.propertyNames, List.length_map]
  constructor
  · rintro ⟨hcount, -⟩
    rw [length_written h, hlength] at hcount
    rw [← List.dedup_eq_self]
    exact (List.dedup_sublist _).eq_of_length hcount
  · intro hnodup
    refine ⟨?_, fun f hf => ?_⟩
    · rw [length_written h, hlength, hnodup.dedup]
    · -- a record that maps has a schema for each of its fields
      have hfault := maps_iff_fault?_eq_none.mp ⟨schema, h⟩
      obtain ⟨node, hnode⟩ := fault?_eq_none_iff.mp
        ((fault?_mapFields_eq_none_iff.mp hfault).2 f hf)
      exact ⟨node, hnode, (get?_written_eq_some_iff h).mpr
        ⟨f, node, RecordDecl.isLastNamed_of_nodup hnodup hf, hnode, rfl⟩⟩

/-- Under each key stands what the last field with that key maps to inside
the record, and nothing else is there. So the schema of a record keeps
every field exactly if no two fields have one camel-case spelling. -/
theorem properties_are_last_of_each_key (h : c.recordSchema r = .ok schema) :
    (∀ key j, schema.written.get? key = some j ↔
      ∃ f node, r.IsLastNamed key f ∧ mapType c [r.name] f.type = .ok node ∧ node.toJson = j) ∧
    schema.written.length = r.propertyNames.dedup.length ∧
    (c.KeepsEveryField r schema ↔ r.propertyNames.Nodup) :=
  ⟨fun _ _ => get?_written_eq_some_iff h, length_written h, keepsEveryField_iff h⟩

/-- Two fields with one key. -/
def gaugeDecl : RecordDecl where
  name := "gauge"
  fields := [⟨"max_speed", .primitive .int32⟩, ⟨"maxSpeed", .primitive .double⟩]

def dashboard : Catalog :=
  empty.registerAll [.record gaugeDecl]

theorem propertyNames_gauge : gaugeDecl.propertyNames = ["maxSpeed", "maxSpeed"] := by
  decide +kernel

theorem maps_gauge : dashboard.Maps gaugeDecl :=
  maps_of_primitives (by decide) (by simp [gaugeDecl])

/-- Of the two speeds the second is the property. -/
theorem gauge_properties : ∃ schema, dashboard.recordSchema gaugeDecl = .ok schema ∧
    schema.written.length = 1 ∧
    schema.written.get? "maxSpeed" = some Node.double.toJson := by
  obtain ⟨schema, hschema⟩ := maps_gauge
  obtain ⟨hget, hlength, -⟩ := properties_are_last_of_each_key hschema
  refine ⟨schema, hschema, ?_, ?_⟩
  · rw [hlength, propertyNames_gauge]
    decide
  · refine (hget _ _).mpr ⟨⟨"maxSpeed", .primitive .double⟩, .double, ?_, rfl, rfl⟩
    exact ⟨_, [], List.singleton_append.symm, by decide +kernel, by simp⟩

/-- The record maps and its fields have different names, and only one of
them is in its schema. -/
theorem gauge_loses_a_field : dashboard.Built ∧ gaugeDecl ∈ dashboard.records ∧
    (gaugeDecl.fields.map (·.name)).Nodup ∧
    ∃ schema, dashboard.recordSchema gaugeDecl = .ok schema ∧
      schema.written.length = 1 ∧ ¬ dashboard.KeepsEveryField gaugeDecl schema := by
  obtain ⟨schema, hschema⟩ := maps_gauge
  refine ⟨⟨empty, by simp, _, rfl⟩, by decide, by decide, schema, hschema, ?_, ?_⟩
  · rw [length_written hschema, propertyNames_gauge]
    decide
  · rw [keepsEveryField_iff hschema, propertyNames_gauge]
    decide

end Catalog

end DeclSchema
