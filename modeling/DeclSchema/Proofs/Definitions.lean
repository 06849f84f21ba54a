import DeclSchema.Proofs.KeyOrder
import DeclSchema.Proofs.Outcome

/-!
Every record under its title.

The document about every record keeps its schemas in an object whose keys
are titles. Names are distinct, titles need not be: `max_speed` and
`maxSpeed` are two names and one title. Of the records that map under one
title only the last is in the document (`get?_titledSchemas`), so nothing is
missing from it exactly if no two records that map share a title
(`rendersEvery_iff`).

A title is also a name to ask for a record by, but the last of the three
that are tried. A record that has the text as its name or as an alias comes
before every record that has it as its title, and of those the first is
taken. Under what conditions the record that is found is the one in the
document is the second main statement.
-/

namespace DeclSchema

/-! ### Reading a serialized document -/

namespace Json

/-- What stands under a key of an object. -/
def get? (j : Json) (key : String) : Option Json :=
  match j with
  | object entries => Keyed.get? entries key
  | _ => none

/-- The entries of an object. -/
def entries : Json → Keyed Json
  | object entries => entries
  | _ => []

theorem get?_ofEntries (entries : List (String × Json)) (key : String) :
    (ofEntries entries).get? key = entries.reverse.lookup key :=
  Keyed.get?_ofList entries key

end Json

/-- The document as it is written. -/
def Output.serialized (out : Output) : Json :=
  out.document.toJson

theorem RecordSchema.get?_title_toJson (schema : RecordSchema) :
    schema.toJson.get? "title" = some (.text schema.title) := by
  rw [RecordSchema.toJson, Json.get?_ofEntries]
  simp [List.lookup_cons]

namespace Catalog

variable {c : Catalog} {r s : RecordDecl} {t : String} {schema : RecordSchema} {o : Options}

/-- The entries under `definitions` of the document about every record. -/
def definitions (c : Catalog) (o : Options) : Keyed Json :=
  ((c.generateAll o).serialized.get? "definitions").elim [] Json.entries

/-- The schema of a record, if it maps and has the title. -/
def titled? (c : Catalog) (t : String) (r : RecordDecl) : Option RecordSchema :=
  if Name.title r.name = t then (c.recordSchema r).toOption else none

theorem titled?_eq_some_iff :
    c.titled? t r = some schema ↔ Name.title r.name = t ∧ c.recordSchema r = .ok schema := by
  unfold titled?
  cases c.recordSchema r <;> simp [Except.toOption]

theorem titled?_eq_none_iff : c.titled? t r = none ↔ (c.Maps r → Name.title r.name ≠ t) := by
  unfold titled? Maps
  cases c.recordSchema r <;> simp [Except.toOption]

/-- The record maps and has the title, and no later record that maps has
it. -/
def IsLastTitled (c : Catalog) (t : String) (r : RecordDecl) : Prop :=
  ∃ before after, c.records = before ++ r :: after ∧ Name.title r.name = t ∧ c.Maps r ∧
    ∀ s ∈ after, c.Maps s → Name.title s.name ≠ t

/-- The titles of the records that map, in catalog order. -/
def mappedTitles (c : Catalog) : List String :=
  (c.records.filter (c.Maps ·)).map (Name.title ·.name)

theorem definitions_eq (c : Catalog) (o : Options) :
    c.definitions o =
      (Keyed.ofList (c.mappedRecords.map fun m => (Name.title m.1.name, m.2))).map
        fun e => (e.1, e.2.toJson) := by
  unfold definitions Output.serialized generateAll
  rw [Document.toJson, Json.get?_ofEntries]
  simp [Json.entries]

/-- The schema under a title is that of the last record that maps and has
it. -/
theorem get?_titledSchemas (c : Catalog) (t : String) :
    (Keyed.ofList (c.mappedRecords.map fun m => (Name.title m.1.name, m.2))).get? t =
      c.records.reverse.findSome? (c.titled? t) := by
  -- the list of entries as it comes from the records, one entry for each that maps
  have hentries : (c.mappedRecords.map fun m => (Name.title m.1.name, m.2)) =
      c.records.filterMap fun r => (c.recordSchema r).toOption.map (Name.title r.name, ·) := by
    rw [mappedRecords, List.map_filterMap]
    refine List.filterMap_congr fun r _ => ?_
    cases c.recordSchema r <;> rfl
  have htitled : (fun r => ((c.recordSchema r).toOption.map (Name.title r.name, ·)).bind fun e =>
      if t == e.1 then some e.2 else none) = c.titled? t := by
    funext r
    unfold titled?
    cases c.recordSchema r with
    | error u => simp [Except.toOption]
    | ok schema => simp [Except.toOption, @eq_comm _ t]
  rw [Keyed.get?_ofList, hentries, ← List.filterMap_reverse, List.lookup_eq_findSome?,
    ← List.head?_filterMap, List.filterMap_filterMap, htitled, List.head?_filterMap]

theorem get?_titledSchemas_eq_some_iff :
    (Keyed.ofList (c.mappedRecords.map fun m => (Name.title m.1.name, m.2))).get? t =
        some schema ↔
      ∃ r, c.IsLastTitled t r ∧ c.recordSchema r = .ok schema := by
  rw [get?_titledSchemas]
  constructor
  · intro hfound
    obtain ⟨after, r, before, hsplit, hr, hafter⟩ := List.findSome?_eq_some_iff.mp hfound
    obtain ⟨htitle, hschema⟩ := titled?_eq_some_iff.mp hr
    refine ⟨r, ⟨before.reverse, after.reverse, ?_, htitle, ⟨schema, hschema⟩, ?_⟩, hschema⟩
    · rw [← List.reverse_reverse c.records, hsplit]
      simp
    · intro s hs
      exact titled?_eq_none_iff.mp (hafter s (List.mem_reverse.mp hs))
  · rintro ⟨r, ⟨before, after, hsplit, htitle, -, hafter⟩, hschema⟩
    refine List.findSome?_eq_some_iff.mpr
      ⟨after.reverse, r, before.reverse, ?_, titled?_eq_some_iff.mpr ⟨htitle, hschema⟩, ?_⟩
    · rw [hsplit]
      simp
    · intro s hs
      exact titled?_eq_none_iff.mpr (hafter s (List.mem_reverse.mp hs))

theorem get?_definitions_eq_some_iff {j : Json} :
    (c.definitions o).get? t = some j ↔
      ∃ r schema, c.IsLastTitled t r ∧ c.recordSchema r = .ok schema ∧ schema.toJson = j := by
  rw [definitions_eq, Keyed.get?_map, Option.map_eq_some_iff]
  simp only [get?_titledSchemas_eq_some_iff]
  constructor
  · rintro ⟨schema, ⟨r, hlast, hschema⟩, hj⟩
    exact ⟨r, schema, hlast, hschema, hj⟩
  · rintro ⟨r, schema, hlast, hschema, hj⟩
    exact ⟨schema, ⟨r, hlast, hschema⟩, hj⟩

/-! ### What is missing from the document about every record -/

theorem map_fst_mappedRecords (c : Catalog) :
    c.mappedRecords.map (·.1) = c.records.filter (c.Maps ·) := by
  rw [mappedRecords, List.map_filterMap, ← List.filterMap_eq_filter]
  congr 1
  funext r
  unfold Maps
  cases hr : c.recordSchema r <;> simp [Option.guard, hr]

theorem keys_mappedRecords (c : Catalog) :
    (c.mappedRecords.map fun m => (Name.title m.1.name, m.2)).map (·.1) = c.mappedTitles := by
  rw [mappedTitles, ← map_fst_mappedRecords, List.map_map, List.map_map]
  rfl

theorem length_definitions (c : Catalog) (o : Options) :
    (c.definitions o).length = c.mappedTitles.dedup.length := by
  rw [definitions_eq, List.length_map, Keyed.length_ofList, keys_mappedRecords]

/-- There are as many entries as records that map, and under the title of
each stands its own schema. -/
def RendersEvery (c : Catalog) (o : Options) : Prop :=
  (c.definitions o).length = (c.records.filter (c.Maps ·)).length ∧
    ∀ r ∈ c.records, ∀ schema, c.recordSchema r = .ok schema →
      (c.definitions o).get? (Name.title r.name) = some schema.toJson

/-- Of records with different titles each is the last with its own. -/
theorem isLastTitled_of_nodup (h : c.mappedTitles.Nodup) (hr : r ∈ c.records) (hmaps : c.Maps r) :
    c.IsLastTitled (Name.title r.name) r := by
  obtain ⟨before, after, hsplit⟩ := List.append_of_mem hr
  refine ⟨before, after, hsplit, rfl, hmaps, fun s hs hsmaps htitle => ?_⟩
  rw [mappedTitles, hsplit, List.filter_append, List.filter_cons_of_pos (by simpa using hmaps),
    List.map_append, List.map_cons] at h
  have hnot := (List.nodup_cons.mp (List.nodup_append.mp h).2.1).1
  apply hnot
  rw [← htitle]
  exact List.mem_map_of_mem (List.mem_filter.mpr ⟨hs, by simpa using hsmaps⟩)

theorem rendersEvery_iff : c.RendersEvery o ↔ c.mappedTitles.Nodup := by
  have hlength : (c.records.filter (c.Maps ·)).length = c.mappedTitles.length := by
    rw [mappedTitles, List.length_map]
  constructor
  · rintro ⟨hcount, -⟩
    rw [length_definitions, hlength] at hcount
    rw [← List.dedup_eq_self]
    exact (List.dedup_sublist _).eq_of_length hcount
  · intro h
    refine ⟨?_, fun r hr schema hschema => ?_⟩
    · rw [length_definitions, hlength, h.dedup]
    · exact get?_definitions_eq_some_iff.mpr
        ⟨r, schema, isLastTitled_of_nodup h hr ⟨schema, hschema⟩, hschema, rfl⟩

/-- Under each title of a record that maps stands the schema of the last
such record, and nothing else is there. So the document has an entry of its
own for every record that maps exactly if no two of them share a title. -/
theorem definitions_are_last_of_each_title (c : Catalog) (o : Options) :
    (∀ t j, (c.definitions o).get? t = some j ↔
      ∃ r schema, c.IsLastTitled t r ∧ c.recordSchema r = .ok schema ∧ schema.toJson = j) ∧
    (c.definitions o).length = c.mappedTitles.dedup.length ∧
    (c.RendersEvery o ↔ c.mappedTitles.Nodup) :=
  ⟨fun _ _ => get?_definitions_eq_some_iff, length_definitions c o, rendersEvery_iff⟩

theorem maps_of_primitives (hfields : r.fields ≠ [])
    (h : ∀ f ∈ r.fields, ∃ p, f.type = .primitive p) : c.Maps r := by
  rw [maps_iff_fault?_eq_none, fault?_mapFields_eq_none_iff]
  refine ⟨hfields, fun f hf => ?_⟩
  obtain ⟨p, hp⟩ := h f hf
  rw [hp, mapType_primitive, fault?_ok]

/-- A speed as an older header spells it. -/
def limitDecl : RecordDecl where
  name := "max_speed"
  fields := [⟨"limit", .primitive .int32⟩]

/-- A speed as a newer header spells it. -/
def speedDecl : RecordDecl where
  name := "maxSpeed"
  fields := [⟨"value", .primitive .double⟩]

/-- Two records with one title. -/
def speeds : Catalog :=
  empty.registerAll [.record limitDecl, .record speedDecl]

/-- Both records map and have different names, and only one of them is in
the document. -/
theorem speeds_lose_a_record : speeds.Built ∧ speeds.NamesDistinct ∧ speeds.Maps limitDecl ∧
    speeds.Maps speedDecl ∧ (speeds.definitions ⟨"Model", none⟩).length = 1 ∧
    ¬ speeds.RendersEvery ⟨"Model", none⟩ := by
  have hbuilt : speeds.Built := ⟨empty, by simp, _, rfl⟩
  have hlimit : speeds.Maps limitDecl := maps_of_primitives (by decide) (by simp [limitDecl])
  have hspeed : speeds.Maps speedDecl := maps_of_primitives (by decide) (by simp [speedDecl])
  have hrecords : speeds.records = [limitDecl, speedDecl] := by decide
  have htitles : speeds.mappedTitles = ["MaxSpeed", "MaxSpeed"] := by
    have htitle : Name.title limitDecl.name = "MaxSpeed" ∧
        Name.title speedDecl.name = "MaxSpeed" := by decide +kernel
    simp [mappedTitles, hrecords, hlimit, hspeed, htitle]
  refine ⟨hbuilt, hbuilt.namesDistinct, hlimit, hspeed, ?_, ?_⟩
  · rw [length_definitions, htitles]
    decide
  · rw [rendersEvery_iff, htitles]
    decide

/-! ### A title as the name of a record -/

/-- The first record in catalog order that has the property. -/
def IsFirst (c : Catalog) (p : RecordDecl → Prop) (r : RecordDecl) : Prop :=
  ∃ before after, c.records = before ++ r :: after ∧ p r ∧ ∀ s ∈ before, ¬ p s

theorem IsFirst.find?_eq_some {p : RecordDecl → Prop} [DecidablePred p] (h : c.IsFirst p r) :
    c.records.find? (p ·) = some r := by
  obtain ⟨before, after, hsplit, hr, hbefore⟩ := h
  rw [List.find?_eq_some_iff_append]
  exact ⟨by simpa using hr, before, after, hsplit, by simpa using hbefore⟩

/-- A record that has the text as its name or as an alias comes before every
record that has it as its title. -/
theorem IsFirst.find?_of_answersTo (h : c.IsFirst (·.answersTo t) s) : c.find? t = some s := by
  have hfind : c.records.find? (·.answersTo t) = some s := by simpa using h.find?_eq_some
  rw [find?, hfind]

theorem IsFirst.find?_of_title (h : c.IsFirst (Name.title ·.name = t) r)
    (honly : ∀ s ∈ c.records, s.answersTo t → s = r) : c.find? t = some r := by
  rw [find?]
  split
  · next s hs =>
      rw [honly s (List.mem_of_find?_eq_some hs) (by simpa using List.find?_some hs)]
  · exact h.find?_eq_some

/-- What a document about the record comes to: its schema, or an error that
names it. -/
def recordOutcome (c : Catalog) (r : RecordDecl) : Except Error Json :=
  match c.recordSchema r with
  | .ok schema => .ok schema.toJson
  | .error _ => .error (.unmapped [r.name])

theorem recordOutcome_of_recordSchema (h : c.recordSchema r = .ok schema) :
    c.recordOutcome r = .ok schema.toJson := by
  rw [recordOutcome, h]

/-- A root that stands for a record gives what that record gives. -/
theorem generate_root_serialized (hc : c.NamesDistinct) {name : String} (h : c.find? name = some r)
    (title : String) :
    (c.generate ⟨title, some name⟩).map Output.serialized = c.recordOutcome r := by
  unfold recordOutcome
  rcases generate_root_cases hc title name with
    ⟨hfind, -⟩ | ⟨s, hfind, hmaps, hgen⟩ | ⟨s, schema, hfind, hschema, hgen⟩
  · rw [h] at hfind
    cases hfind
  · rw [h, Option.some.injEq] at hfind
    subst hfind
    rw [hgen]
    cases hschema : c.recordSchema r with
    | ok schema => exact absurd ⟨schema, hschema⟩ hmaps
    | error u => rfl
  · rw [h, Option.some.injEq] at hfind
    subst hfind
    rw [hgen, hschema]
    rfl

/-- The schema under a title is that of the last record that maps and has
it. Asking for the title gives this very schema if that record is also the
first with the title and no other record has the title as its name or as an
alias. If some record has, the first that has is meant instead. -/
theorem generate_title_agrees (hc : c.Built) {j : Json}
    (hkey : (c.definitions o).get? t = some j) :
    ∃ r, c.IsLastTitled t r ∧ c.recordOutcome r = .ok j ∧
      (c.IsFirst (Name.title ·.name = t) r → (∀ s ∈ c.records, s.answersTo t → s = r) →
        ∀ title, (c.generate ⟨title, some t⟩).map Output.serialized = .ok j) ∧
      ∀ s, c.IsFirst (·.answersTo t) s →
        ∀ title, (c.generate ⟨title, some t⟩).map Output.serialized = c.recordOutcome s := by
  obtain ⟨r, schema, hlast, hschema, rfl⟩ := get?_definitions_eq_some_iff.mp hkey
  have houtcome := recordOutcome_of_recordSchema hschema
  refine ⟨r, hlast, houtcome, fun hfirst honly title => ?_, fun s hs title => ?_⟩
  · rw [generate_root_serialized hc.namesDistinct (hfirst.find?_of_title honly), houtcome]
  · exact generate_root_serialized hc.namesDistinct hs.find?_of_answersTo title

def truckDecl : RecordDecl where
  name := "truck"
  fields := [⟨"load", .primitive .double⟩]

/-- A van that is also called by the title of the truck. -/
def vanDecl : RecordDecl where
  name := "van"
  aliases := ["Truck"]
  fields := [⟨"seats", .primitive .int32⟩]

def garage : Catalog :=
  empty.registerAll [.record truckDecl, .record vanDecl]

theorem built_garage : garage.Built :=
  ⟨empty, by simp, _, rfl⟩

theorem records_garage : garage.records = [truckDecl, vanDecl] := by
  decide

theorem title_garage : Name.title truckDecl.name = "Truck" ∧ Name.title vanDecl.name = "Van" := by
  decide +kernel

theorem maps_garage : garage.Maps truckDecl ∧ garage.Maps vanDecl :=
  ⟨maps_of_primitives (by decide) (by simp [truckDecl]),
    maps_of_primitives (by decide) (by simp [vanDecl])⟩

theorem van_title_agrees : garage.Built ∧
    ∃ j, (garage.definitions ⟨"Model", none⟩).get? "Van" = some j ∧
      (garage.generate ⟨"Model", some "Van"⟩).map Output.serialized = .ok j := by
  obtain ⟨schema, hschema⟩ := maps_garage.2
  have hkey : (garage.definitions ⟨"Model", none⟩).get? "Van" = some schema.toJson :=
    get?_definitions_eq_some_iff.mpr ⟨vanDecl, schema,
      ⟨[truckDecl], [], records_garage, title_garage.2, maps_garage.2, by simp⟩, hschema, rfl⟩
  refine ⟨built_garage, schema.toJson, hkey, ?_⟩
  obtain ⟨r, ⟨before, after, hsplit, htitle, -, -⟩, -, hagree, -⟩ :=
    generate_title_agrees built_garage hkey
  obtain rfl : r = vanDecl := by
    have hr : r ∈ garage.records := by simp [hsplit]
    rw [records_garage] at hr
    rcases List.mem_cons.mp hr with rfl | hr
    · rw [title_garage.1] at htitle
      exact absurd htitle (by decide)
    · exact List.mem_singleton.mp hr
  refine hagree ⟨[truckDecl], [], records_garage, title_garage.2, ?_⟩ ?_ "Model"
  · simp [title_garage.1]
  · rw [records_garage]
    decide

/-- The truck stands under its title, and asking for that title gives the
van. -/
theorem truck_title_disagrees : garage.Built ∧
    ∃ j, (garage.definitions ⟨"Model", none⟩).get? "Truck" = some j ∧
      (garage.generate ⟨"Model", some "Truck"⟩).map Output.serialized ≠ .ok j := by
  obtain ⟨truck, htruck⟩ := maps_garage.1
  obtain ⟨van, hvan⟩ := maps_garage.2
  have hkey : (garage.definitions ⟨"Model", none⟩).get? "Truck" = some truck.toJson :=
    get?_definitions_eq_some_iff.mpr ⟨truckDecl, truck,
      ⟨[], [vanDecl], records_garage, title_garage.1, maps_garage.1, by simp [title_garage.2]⟩,
      htruck, rfl⟩
  have hfind : garage.find? "Truck" = some vanDecl :=
    IsFirst.find?_of_answersTo ⟨[truckDecl], [], records_garage, by decide, by decide⟩
  refine ⟨built_garage, truck.toJson, hkey, ?_⟩
  rw [generate_root_serialized built_garage.namesDistinct hfind, recordOutcome_of_recordSchema hvan,
    Ne, Except.ok.injEq]
  intro heq
  -- the two schemas have different titles
  have htitle := congrArg (Json.get? · "title") heq
  simp only [RecordSchema.get?_title_toJson, (recordSchema_eq_ok_iff.mp htruck).1,
    (recordSchema_eq_ok_iff.mp hvan).1, title_garage, Option.some.injEq, Json.text.injEq] at htitle
  exact absurd htitle (by decide)

end Catalog

end DeclSchema
