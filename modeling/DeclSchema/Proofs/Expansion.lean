import DeclSchema.Proofs.Agreement
import DeclSchema.Proofs.Nesting
import DeclSchema.Proofs.Properties

/-!
The mapping without its stack.

The mapping keeps the names of the records it is inside of for one purpose:
not to go round in circles. Where there is no circle to go round, the stack
should not be noticed at all, and there are three ways to say so.

The first compares two stacks. All that a mapping ever asks of its stack is
whether the names of records that the type leads to are on it, so two stacks
that answer alike there give the same result (`mapType_eq_of_same_entries`).
In particular a stack with none of those names is as good as an empty one.

The second follows from it. A record is mapped inside every record that
refers to it, each time on another stack, and comes out as it does on its
own unless it leads back to where it is mapped.

The third drops the stack altogether. `expandType` and `expandFields` are
the same traversal as one would write it for records that only ever refer to
simpler ones. On a circle it would not end, so it is given a depth, and
beyond that it has no result. In a catalog without circles a depth as great
as the number of records is never used up, and the result is that of the
mapping.
-/

namespace DeclSchema

open Catalog Relation

variable {c : Catalog} {visiting : List String} {t : FieldType} {r s : RecordDecl}

namespace Catalog

/-- The record is named by the leaf of the type, or some record that is
reached from there. -/
def LeadsTo (c : Catalog) (t : FieldType) (s : RecordDecl) : Prop :=
  ∃ r, c.target? t = some r ∧ c.Reachable r s

theorem leadsTo_of_find? {name : String} (hleaf : t.leaf = .record name)
    (hfind : c.find? name = some r) : c.LeadsTo t r :=
  ⟨r, target?_eq_some_iff.mpr ⟨name, hleaf, hfind⟩, .refl⟩

theorem leadsTo_of_field {name : String} (hleaf : t.leaf = .record name)
    (hfind : c.find? name = some r) {f : FieldDecl} (hf : f ∈ r.fields)
    (h : c.LeadsTo f.type s) : c.LeadsTo t s := by
  obtain ⟨next, hnext, hreach⟩ := h
  exact ⟨r, target?_eq_some_iff.mpr ⟨name, hleaf, hfind⟩, hreach.head ⟨f, hf, hnext⟩⟩

end Catalog

/-! ### Two stacks -/

/-- The mapping of a type is the same on two stacks that hold the same names
of records that the type leads to. -/
theorem mapType_eq_of_same_entries {visiting' : List String}
    (h : ∀ s, c.LeadsTo t s → (s.name ∈ visiting ↔ s.name ∈ visiting')) :
    mapType c visiting t = mapType c visiting' t := by
  induction visiting, t using visiting_induction (c := c) generalizing visiting' with
  | step visiting t ihrecords =>
      refine mapType_eq_of_reference fun name hleaf => ?_
      cases hfind : c.find? name with
      | none => rw [mapType_record_unresolved hfind, mapType_record_unresolved hfind]
      | some r =>
          have hsame : r.name ∈ visiting ↔ r.name ∈ visiting' :=
            h r (leadsTo_of_find? hleaf hfind)
          rw [mapType_record hfind, mapType_record hfind]
          by_cases hv : r.name ∈ visiting
          · rw [if_pos hv, if_pos (hsame.mp hv)]
          · -- both stacks grow by the same name, so they still answer alike
            have hfields : mapFields c visiting r = mapFields c visiting' r := by
              refine mapFields_congr fun f hf => ?_
              refine ihrecords r (mem_of_find? hfind) hv f hf fun s hs => ?_
              rw [List.mem_cons, List.mem_cons, h s (leadsTo_of_field hleaf hfind hf hs)]
            rw [if_neg hv, if_neg (hsame.not.mp hv), hfields]

theorem mapType_eq_of_none_visited (h : ∀ s, c.LeadsTo t s → s.name ∉ visiting) :
    mapType c visiting t = mapType c [] t := by
  refine mapType_eq_of_same_entries fun s hs => ?_
  simp [h s hs]

/-! ### A record inside another -/

theorem RecordSchema.get?_properties_toJson (schema : RecordSchema) :
    schema.toJson.get? "properties" = some (.object (Node.entriesToJson schema.properties)) := by
  rw [RecordSchema.toJson, Json.get?_ofEntries]
  simp

theorem Node.get?_properties_toJson (properties : List (String × Node)) :
    (Node.object properties).toJson.get? "properties" =
      some (.object (Node.entriesToJson properties)) := by
  rw [Node.toJson, Json.get?_ofEntries]
  simp

namespace Catalog

/-- What stands under a field of a record that refers to a record which does
not lead back is what that record is on its own. -/
theorem nested_eq_own (hc : c.NamesDistinct) (hr : r ∈ c.records) {schema : RecordSchema}
    (hschema : c.recordSchema r = .ok schema) {f : FieldDecl} (hf : f ∈ r.fields) {name : String}
    (htype : f.type = .record name) (hfind : c.find? name = some s) (hback : ¬ c.Reachable s r) :
    ∃ own, c.recordSchema s = .ok own ∧
      mapType c [r.name] f.type = .ok (.object own.properties) := by
  -- no record that the field leads to is `r`, so none has its name
  have hsame : mapType c [r.name] f.type = mapType c [] f.type := by
    refine mapType_eq_of_none_visited fun s' hs' => ?_
    obtain ⟨next, hnext, hreach⟩ := hs'
    obtain rfl : s = next := by
      rw [htype] at hnext
      exact Option.some.inj (hfind.symm.trans hnext)
    intro hname
    have hmem := hreach.mem_records (mem_of_find? hfind)
    have heq := hc.eq_of_name_eq hmem hr (List.mem_singleton.mp hname)
    exact hback (heq ▸ hreach)
  have hmaps := (fault?_mapFields_eq_none_iff.mp (maps_iff_fault?_eq_none.mp ⟨schema, hschema⟩)).2
  obtain ⟨node, hnode⟩ := fault?_eq_none_iff.mp (hmaps f hf)
  have hempty : mapType c [] f.type = .ok node := hsame ▸ hnode
  rw [htype, mapType_record hfind, if_neg List.not_mem_nil, nested, mapError_eq_ok_iff,
    map_eq_ok_iff] at hempty
  obtain ⟨properties, hproperties, rfl⟩ := hempty
  exact ⟨⟨Name.title s.name, properties⟩, recordSchema_eq_ok_iff.mpr ⟨rfl, hproperties⟩, hnode⟩

end Catalog

/-! ### No stack -/

/-- The schema of a type with every reference entered. `enter` is how the
fields of a record are gone through. -/
def expandType (c : Catalog) (enter : RecordDecl → Option (Except FieldFault (Keyed Node)))
    (t : FieldType) : Option (Except String Node) :=
  mapLayers (fun _ => pure ())
    (fun name =>
      match c.find? name with
      | none => some (.error name)
      | some r => (enter r).map nested) t

/-- The schemas of a record's fields. There is no result if more than `depth`
records have to be entered inside each other, and nothing else stops it. -/
def expandFields (c : Catalog) : (depth : Nat) → RecordDecl →
    Option (Except FieldFault (Keyed Node))
  | 0, _ => none
  | depth + 1, r => mapComplete r (mapInOrder (expandType c (expandFields c depth)) r.fields)

theorem follows_some : Follows fun {α} (x : Option α) (a : α) => x = some a where
  pure _ := rfl
  bind := by
    rintro α β x f a b rfl hf
    exact hf

variable {enter : RecordDecl → Option (Except FieldFault (Keyed Node))}

/-- If the records that the type names are not on the stack and are gone
through as the mapping does it, the type expands to what it maps to. -/
theorem expandType_of_enter
    (h : ∀ name r, t.leaf = .record name → c.find? name = some r →
      r.name ∉ visiting ∧ enter r = some (mapFields c visiting r)) :
    expandType c enter t = some (mapType c visiting t) := by
  refine follows_some.mapLayers (fun _ => rfl) fun name hleaf => ?_
  cases hfind : c.find? name with
  | none => rw [mapType_record_unresolved hfind]
  | some r =>
      obtain ⟨hnew, henter⟩ := h name r hleaf hfind
      rw [mapType_record hfind, if_neg hnew]
      simp only [henter, Option.map_some]

namespace Catalog

/-- No record leads back to itself. -/
def Acyclic (c : Catalog) : Prop :=
  ∀ r ∈ c.records, ¬ TransGen c.Refers r r

/-- If no record that `r` leads to is on the stack, then without circles none
that a record named in `r` leads to is on it once `r` is there too. -/
theorem Acyclic.none_visited (h : c.Acyclic) (hc : c.NamesDistinct) (hr : r ∈ c.records)
    (hv : ∀ s, c.Reachable r s → s.name ∉ visiting) {next : RecordDecl} (hnext : c.Refers r next)
    (hs : c.Reachable next s) : s.name ∉ r.name :: visiting := by
  have hreach : c.Reachable r s := hs.head hnext
  rw [List.mem_cons, not_or]
  refine ⟨fun hname => ?_, hv s hreach⟩
  have heq := hc.eq_of_name_eq (hreach.mem_records hr) hr hname
  subst heq
  exact h s hr (TransGen.head' hnext hs)

end Catalog

/-- Without circles, room for the records that are not being visited is
enough, and the expansion is the mapping. -/
theorem expandFields_eq_mapFields (ha : c.Acyclic) (hc : c.NamesDistinct) (depth : Nat)
    (hroom : c.unvisited visiting ≤ depth) (hr : r ∈ c.records)
    (hv : ∀ s, c.Reachable r s → s.name ∉ visiting) :
    expandFields c depth r = some (mapFields c visiting r) := by
  -- the expansion has no stack; the one of the mapping is what shows that depth is left
  induction depth generalizing visiting r with
  | zero =>
      have := unvisited_lt hr (hv r .refl)
      omega
  | succ depth ih =>
      have hroom' : c.unvisited (r.name :: visiting) ≤ depth := by
        have := unvisited_lt hr (hv r .refl)
        omega
      have hfields : ∀ f ∈ r.fields, expandType c (expandFields c depth) f.type =
          some (mapType c (r.name :: visiting) f.type) := by
        intro f hf
        refine expandType_of_enter fun name next hleaf hfind => ?_
        have hnext : c.Refers r next := ⟨f, hf, target?_eq_some_iff.mpr ⟨name, hleaf, hfind⟩⟩
        have hnone : ∀ s, c.Reachable next s → s.name ∉ r.name :: visiting :=
          fun s hs => ha.none_visited hc hr hv hnext hs
        exact ⟨hnone next .refl, ih hroom' (mem_of_find? hfind) hnone⟩
      rw [expandFields]
      exact follows_some.mapComplete (follows_some.mapInOrder hfields)

theorem expandFields_eq_mapFields_nil (ha : c.Acyclic) (hc : c.NamesDistinct) {depth : Nat}
    (hdepth : c.records.length ≤ depth) (hr : r ∈ c.records) :
    expandFields c depth r = some (mapFields c [] r) :=
  expandFields_eq_mapFields ha hc depth (c.unvisited_nil ▸ hdepth) hr (by simp)

theorem expandType_eq_mapType_nil (ha : c.Acyclic) (hc : c.NamesDistinct) {depth : Nat}
    (hdepth : c.records.length ≤ depth) (t : FieldType) :
    expandType c (expandFields c depth) t = some (mapType c [] t) :=
  expandType_of_enter fun _ _ _ hfind =>
    ⟨List.not_mem_nil, expandFields_eq_mapFields_nil ha hc hdepth (mem_of_find? hfind)⟩

namespace Catalog

/-- The schema is what the expansion makes of the record, with any depth that
has room for all records. -/
def Expands (c : Catalog) (r : RecordDecl) (schema : RecordSchema) : Prop :=
  schema.title = Name.title r.name ∧
    ∀ depth ≥ c.records.length, expandFields c depth r = some (.ok schema.properties)

theorem expands_of_recordSchema (ha : c.Acyclic) (hc : c.NamesDistinct) (hr : r ∈ c.records)
    {schema : RecordSchema} (h : c.recordSchema r = .ok schema) : c.Expands r schema := by
  obtain ⟨htitle, hproperties⟩ := recordSchema_eq_ok_iff.mp h
  refine ⟨htitle, fun depth hdepth => ?_⟩
  rw [expandFields_eq_mapFields_nil ha hc hdepth hr, hproperties]

/-- A stack with no record on it that the type leads to is not noticed. So a
record that does not lead back to the one it is mapped inside of is there
what it is on its own; and in a catalog without circles types, records and
documents come out as they do with no stack at all. -/
theorem stack_unnoticed_off_circles (c : Catalog) :
    (∀ visiting t, (∀ s, c.LeadsTo t s → s.name ∉ visiting) →
      mapType c visiting t = mapType c [] t) ∧
    (c.Built → ∀ r ∈ c.records, ∀ schema, c.recordSchema r = .ok schema →
      ∀ f ∈ r.fields, ∀ name s, f.type = .record name → c.find? name = some s →
        ¬ c.Reachable s r →
        ∃ own, c.recordSchema s = .ok own ∧
          mapType c [r.name] f.type = .ok (.object own.properties) ∧
          (r.IsLastNamed (Name.camelCase f.name) f → ∃ nested properties,
            schema.written.get? (Name.camelCase f.name) = some nested ∧
            nested.get? "properties" = some properties ∧
            own.toJson.get? "properties" = some properties)) ∧
    (c.Built → c.Acyclic →
      (∀ depth ≥ c.records.length, ∀ t,
        expandType c (expandFields c depth) t = some (mapType c [] t)) ∧
      (∀ depth ≥ c.records.length, ∀ r ∈ c.records,
        expandFields c depth r = some (mapFields c [] r)) ∧
      (∀ o, ∀ schema ∈ (c.generateAll o).document.schemas,
        ∃ r ∈ c.records, c.Expands r schema) ∧
      (∀ o out, c.generate o = .ok out → ∀ schema ∈ out.document.schemas,
        (∃ r ∈ c.records, c.Expands r schema) ∨
          (∀ r ∈ c.records, ¬ c.Maps r) ∧ schema = ⟨o.title, []⟩)) := by
  refine ⟨fun visiting t => mapType_eq_of_none_visited, ?_, ?_⟩
  · intro hc r hr schema hschema f hf name s htype hfind hback
    obtain ⟨own, hown, hmapped⟩ :=
      nested_eq_own hc.namesDistinct hr hschema hf htype hfind hback
    refine ⟨own, hown, hmapped, fun hlast => ⟨_, _, ?_, Node.get?_properties_toJson _,
      own.get?_properties_toJson⟩⟩
    exact (get?_written_eq_some_iff hschema).mpr ⟨f, _, hlast, hmapped, rfl⟩
  · intro hc ha
    have hnames := hc.namesDistinct
    refine ⟨fun depth hdepth t => expandType_eq_mapType_nil ha hnames hdepth t,
      fun depth hdepth r hr => expandFields_eq_mapFields_nil ha hnames hdepth hr,
      fun o schema h => ?_, ?_⟩
    · obtain ⟨r, hr, hschema⟩ := exists_record_of_mem_schemas_generateAll h
      exact ⟨r, hr, expands_of_recordSchema ha hnames hr hschema⟩
    · intro o out hgen schema h
      refine (exists_record_of_mem_schemas_generate hnames hgen h).imp_left ?_
      rintro ⟨r, hr, hschema⟩
      exact ⟨r, hr, expands_of_recordSchema ha hnames hr hschema⟩

theorem eq_of_reachable_of_primitives (h : ∀ f ∈ r.fields, ∃ p, f.type = .primitive p)
    (hreach : c.Reachable r s) : s = r := by
  rcases ReflTransGen.cases_head hreach with heq | ⟨next, ⟨f, hf, ht⟩, -⟩
  · exact heq.symm
  · obtain ⟨p, hp⟩ := h f hf
    rw [hp] at ht
    cases ht

def axleDecl : RecordDecl where
  name := "axle"
  aliases := ["AXLE"]
  fields := [⟨"load", .primitive .double⟩]

/-- A wagon with an axle, and with the wagon behind it. -/
def wagonDecl : RecordDecl where
  name := "wagon"
  fields := [⟨"front_axle", .record "AXLE"⟩, ⟨"next", .pointer (.record "wagon")⟩]

def goodsTrain : Catalog :=
  empty.registerAll [.record axleDecl, .record wagonDecl]

/-- A bogie, which refers to one record twice and to itself not at all. -/
def bogieDecl : RecordDecl where
  name := "bogie"
  fields := [⟨"front", .record "AXLE"⟩, ⟨"rear", .pointer (.record "axle")⟩]

def workshop : Catalog :=
  empty.registerAll [.record axleDecl, .record bogieDecl]

theorem find?_goodsTrain : goodsTrain.find? "AXLE" = some axleDecl ∧
    goodsTrain.find? "wagon" = some wagonDecl := by
  decide +kernel

theorem eq_axle_of_reachable (h : c.Reachable axleDecl s) : s = axleDecl :=
  eq_of_reachable_of_primitives (by simp [axleDecl]) h

theorem maps_wagon : goodsTrain.Maps wagonDecl := by
  rw [maps_iff_fault?_eq_none]
  simp [fault?_mapFields_eq_none_iff, fault?_mapType, FieldType.leaf, find?_goodsTrain,
    wagonDecl, axleDecl]

theorem acyclic_workshop : workshop.Acyclic := by
  have hrecords : workshop.records = [axleDecl, bogieDecl] := by decide
  have hfind : workshop.find? "AXLE" = some axleDecl ∧ workshop.find? "axle" = some axleDecl := by
    decide +kernel
  have hne : bogieDecl ≠ axleDecl := by decide
  intro r hr hcircle
  obtain ⟨next, ⟨f, hf, ht⟩, hback⟩ := TransGen.head'_iff.mp hcircle
  rw [hrecords, List.mem_pair] at hr
  rcases hr with rfl | rfl
  · obtain rfl := List.mem_singleton.mp hf
    cases ht
  · -- both fields lead to the axle, which leads nowhere
    have hnext : next = axleDecl := by
      rcases List.mem_pair.mp hf with rfl | rfl
      · exact Option.some.inj (ht.symm.trans hfind.1)
      · exact Option.some.inj (ht.symm.trans hfind.2)
    rw [hnext] at hback
    exact hne (eq_axle_of_reachable hback)

theorem goodsTrain_stack_unnoticed :
    goodsTrain.Built ∧
    mapType goodsTrain ["wagon"] (.record "AXLE") = mapType goodsTrain [] (.record "AXLE") ∧
    (∃ schema own nested properties, goodsTrain.recordSchema wagonDecl = .ok schema ∧
      goodsTrain.recordSchema axleDecl = .ok own ∧
      schema.written.get? "frontAxle" = some nested ∧
      nested.get? "properties" = some properties ∧
      own.toJson.get? "properties" = some properties) ∧
    workshop.Built ∧ workshop.Acyclic ∧
    expandFields workshop 2 bogieDecl = some (mapFields workshop [] bogieDecl) := by
  have htrain : goodsTrain.Built := ⟨empty, by simp, _, rfl⟩
  have hworkshop : workshop.Built := ⟨empty, by simp, _, rfl⟩
  obtain ⟨hstack, hnested, -⟩ := stack_unnoticed_off_circles goodsTrain
  obtain ⟨-, -, hacyclic⟩ := stack_unnoticed_off_circles workshop
  refine ⟨htrain, hstack _ _ ?_, ?_, hworkshop, acyclic_workshop, ?_⟩
  · rintro s ⟨next, hnext, hreach⟩
    obtain rfl := Option.some.inj (find?_goodsTrain.1.symm.trans hnext)
    rw [eq_axle_of_reachable hreach]
    decide
  · obtain ⟨schema, hschema⟩ := maps_wagon
    have hback : ¬ goodsTrain.Reachable axleDecl wagonDecl := by
      intro h
      exact absurd (eq_axle_of_reachable h) (by decide)
    have hkey : Name.camelCase "front_axle" = "frontAxle" := by decide +kernel
    have hlast : wagonDecl.IsLastNamed (Name.camelCase "front_axle")
        ⟨"front_axle", .record "AXLE"⟩ :=
      ⟨[], [⟨"next", .pointer (.record "wagon")⟩], rfl, rfl, by decide +kernel⟩
    obtain ⟨own, hown, -, hwritten⟩ := hnested htrain wagonDecl (mem_of_find? find?_goodsTrain.2)
      schema hschema _ List.mem_cons_self "AXLE" axleDecl rfl find?_goodsTrain.1 hback
    obtain ⟨nested, properties, hget, hboth⟩ := hwritten hlast
    exact ⟨schema, own, nested, properties, hschema, hown, hkey ▸ hget, hboth⟩
  · exact (hacyclic hworkshop acyclic_workshop).2.1 2 (by decide) bogieDecl (by decide)

end Catalog

end DeclSchema
