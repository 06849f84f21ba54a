import DeclSchema.Proofs.Report

/-!
What comes out of a catalog.

A document about one record finds the record by any of its names and then
looks for its name among the records that have a schema. Names are
distinct, so what it finds there is the schema of that very record
(`find?_mappedRecords`). Without a name the last record that maps is taken;
the object without properties stands for no record at all, because a
record that maps always has properties.
-/

namespace DeclSchema.Catalog

variable {c : Catalog} {r : RecordDecl} {schema : RecordSchema} {title : String}

theorem recordSchema_eq_ok_iff :
    c.recordSchema r = .ok schema ↔
      schema.title = Name.title r.name ∧ mapFields c [] r = .ok schema.properties := by
  obtain ⟨title, properties⟩ := schema
  unfold recordSchema
  split
  · next found hfound =>
      rw [hfound, Except.ok.injEq, RecordSchema.mk.injEq, Except.ok.injEq, eq_comm]
  · next fault hfault => simp [hfault]

theorem properties_ne_nil_of_recordSchema (h : c.recordSchema r = .ok schema) :
    schema.properties ≠ [] :=
  properties_ne_nil (recordSchema_eq_ok_iff.mp h).2

theorem mem_mappedRecords_iff :
    (r, schema) ∈ c.mappedRecords ↔ r ∈ c.records ∧ c.recordSchema r = .ok schema := by
  rw [mappedRecords, List.mem_filterMap]
  constructor
  · rintro ⟨s, hs, hmapped⟩
    split at hmapped
    · next found hfound =>
        rw [Option.some.injEq, Prod.mk.injEq] at hmapped
        obtain ⟨rfl, rfl⟩ := hmapped
        exact ⟨hs, hfound⟩
    · cases hmapped
  · rintro ⟨hr, hschema⟩
    exact ⟨r, hr, by rw [hschema]⟩

/-- The name of a record finds its own schema, or nothing. -/
theorem find?_mappedRecords (hc : c.NamesDistinct) (hr : r ∈ c.records) :
    (c.mappedRecords.find? fun m => m.1.name == r.name) =
      match c.recordSchema r with
      | .ok schema => some (r, schema)
      | .error _ => none := by
  have hown : ∀ m ∈ c.mappedRecords, m.1.name = r.name → m.1 = r ∧ c.recordSchema r = .ok m.2 := by
    rintro ⟨s, found⟩ hm hname
    obtain ⟨hs, hfound⟩ := mem_mappedRecords_iff.mp hm
    have heq : s = r := hc.eq_of_name_eq hs hr hname
    exact ⟨heq, heq ▸ hfound⟩
  cases hschema : c.recordSchema r with
  | error u =>
      rw [List.find?_eq_none]
      intro m hm hname
      have hfound := (hown m hm (by simpa using hname)).2
      rw [hschema] at hfound
      cases hfound
  | ok schema =>
      have hmem := mem_mappedRecords_iff.mpr ⟨hr, hschema⟩
      cases hfind : c.mappedRecords.find? fun m => m.1.name == r.name with
      | none => simpa using List.find?_eq_none.mp hfind _ hmem
      | some m =>
          obtain ⟨hm, hfound⟩ := hown m (List.mem_of_find?_eq_some hfind)
            (by simpa using List.find?_some hfind)
          rw [hschema, Except.ok.injEq] at hfound
          rw [← hm, hfound]

/-- With a name there are three outcomes: it stands for no record, for one
that does not map, or for one whose schema is the document. -/
theorem generate_root_cases (hc : c.NamesDistinct) (title name : String) :
    (c.find? name = none ∧ c.generate ⟨title, some name⟩ = .error (.unknownType name)) ∨
    (∃ r, c.find? name = some r ∧ ¬ c.Maps r ∧
      c.generate ⟨title, some name⟩ = .error (.unmapped [r.name])) ∨
    (∃ r schema, c.find? name = some r ∧ c.recordSchema r = .ok schema ∧
      c.generate ⟨title, some name⟩ = .ok ⟨.single schema, c.unmapped⟩) := by
  cases hfind : c.find? name with
  | none =>
      refine .inl ⟨rfl, ?_⟩
      simp only [generate, hfind]
      rfl
  | some r =>
      have hlookup := find?_mappedRecords hc (mem_of_find? hfind)
      cases hschema : c.recordSchema r with
      | error u =>
          refine .inr (.inl ⟨r, rfl, by simp [Maps, hschema], ?_⟩)
          simp only [generate, hfind, hlookup, hschema]
          rfl
      | ok schema =>
          refine .inr (.inr ⟨r, schema, rfl, hschema, ?_⟩)
          simp only [generate, hfind, hlookup, hschema]
          rfl

theorem generate_root_eq_unknownType_iff (hc : c.NamesDistinct) {name : String} :
    c.generate ⟨title, some name⟩ = .error (.unknownType name) ↔ c.find? name = none := by
  rcases generate_root_cases hc title name with
    ⟨hfind, hgen⟩ | ⟨r, hfind, -, hgen⟩ | ⟨r, schema, hfind, -, hgen⟩
  · simp [hgen, hfind]
  · simp [hgen, hfind]
  · simp [hgen, hfind]

theorem generate_root_eq_unmapped_iff (hc : c.NamesDistinct) {name : String} (hr : r ∈ c.records) :
    c.generate ⟨title, some name⟩ = .error (.unmapped [r.name]) ↔
      c.find? name = some r ∧ ¬ c.Maps r := by
  rcases generate_root_cases hc title name with
    ⟨hfind, hgen⟩ | ⟨s, hfind, hmaps, hgen⟩ | ⟨s, schema, hfind, hschema, hgen⟩
  · simp [hgen, hfind]
  · rw [hgen, hfind, Except.error.injEq, Error.unmapped.injEq, List.singleton_inj,
      Option.some.injEq]
    constructor
    · intro hname
      -- the error holds a name only, and only one record has it
      obtain rfl := hc.eq_of_name_eq (mem_of_find? hfind) hr hname
      exact ⟨rfl, hmaps⟩
    · rintro ⟨rfl, -⟩
      rfl
  · rw [hgen, hfind, Option.some.injEq]
    simp only [reduceCtorEq, false_iff, not_and, not_not]
    rintro rfl
    exact ⟨schema, hschema⟩

theorem generate_root_error (hc : c.NamesDistinct) {name : String} {e : Error}
    (h : c.generate ⟨title, some name⟩ = .error e) :
    e = .unknownType name ∨ ∃ r ∈ c.records, e = .unmapped [r.name] := by
  rcases generate_root_cases hc title name with
    ⟨-, hgen⟩ | ⟨r, hfind, -, hgen⟩ | ⟨r, schema, -, -, hgen⟩
  · rw [hgen, Except.error.injEq] at h
    exact .inl h.symm
  · rw [hgen, Except.error.injEq] at h
    exact .inr ⟨r, mem_of_find? hfind, h.symm⟩
  · rw [hgen] at h
    cases h

theorem generate_root_eq_ok_iff (hc : c.NamesDistinct) {name : String} {out : Output} :
    c.generate ⟨title, some name⟩ = .ok out ↔
      ∃ r schema, c.find? name = some r ∧ c.recordSchema r = .ok schema ∧
        out = ⟨.single schema, c.unmapped⟩ := by
  rcases generate_root_cases hc title name with
    ⟨hfind, hgen⟩ | ⟨r, hfind, hmaps, hgen⟩ | ⟨r, schema, hfind, hschema, hgen⟩
  · simp [hgen, hfind]
  · simp only [hgen, hfind, reduceCtorEq, Option.some.injEq, false_iff]
    rintro ⟨_, schema, rfl, hschema, -⟩
    exact hmaps ⟨schema, hschema⟩
  · simp [hgen, hfind, hschema, eq_comm]

/-- The record is the last of the catalog that maps. -/
def IsLastMapped (c : Catalog) (r : RecordDecl) : Prop :=
  ∃ before after, c.records = before ++ r :: after ∧ c.Maps r ∧ ∀ s ∈ after, ¬ c.Maps s

theorem getLast?_mappedRecords_eq_none_iff :
    c.mappedRecords.getLast? = none ↔ ∀ r ∈ c.records, ¬ c.Maps r := by
  rw [List.getLast?_eq_none_iff, mappedRecords, List.filterMap_eq_nil_iff]
  refine forall₂_congr fun r _ => ?_
  unfold Maps
  cases c.recordSchema r <;> simp

theorem isLastMapped_of_getLast? (h : c.mappedRecords.getLast? = some (r, schema)) :
    c.IsLastMapped r ∧ c.recordSchema r = .ok schema := by
  have hschema := (mem_mappedRecords_iff.mp (List.mem_of_getLast? h)).2
  rw [mappedRecords, List.getLast?_filterMap, List.findSome?_eq_some_iff] at h
  obtain ⟨after, last, before, hsplit, hlast, hafter⟩ := h
  have hr : last = r := by
    split at hlast
    · rw [Option.some.injEq, Prod.mk.injEq] at hlast
      exact hlast.1
    · cases hlast
  subst hr
  refine ⟨⟨before.reverse, after.reverse, ?_, ⟨schema, hschema⟩, ?_⟩, hschema⟩
  · rw [← List.reverse_reverse c.records, hsplit]
    simp
  · rintro s hs ⟨found, hfound⟩
    have hnone := hafter s (List.mem_reverse.mp hs)
    rw [hfound] at hnone
    cases hnone

/-- Without a name, the outcome is the last record that maps, or the object
without properties if there is none. -/
theorem generate_default (c : Catalog) (title : String) :
    ∃ schema, c.generate ⟨title, none⟩ = .ok ⟨.single schema, c.unmapped⟩ ∧
      ((∃ r, c.IsLastMapped r ∧ c.recordSchema r = .ok schema) ∨
        (∀ r ∈ c.records, ¬ c.Maps r) ∧ schema = ⟨title, []⟩) := by
  cases hlast : c.mappedRecords.getLast? with
  | none =>
      refine ⟨⟨title, []⟩, ?_, .inr ⟨getLast?_mappedRecords_eq_none_iff.mp hlast, rfl⟩⟩
      simp only [generate, hlast]
      rfl
  | some m =>
      refine ⟨m.2, ?_, .inl ⟨m.1, isLastMapped_of_getLast? hlast⟩⟩
      simp only [generate, hlast]
      rfl

theorem IsLastMapped.mem_records (h : c.IsLastMapped r) : r ∈ c.records := by
  obtain ⟨before, after, hsplit, -, -⟩ := h
  simp [hsplit]

theorem unmapped_of_generate (hc : c.NamesDistinct) {o : Options} {out : Output}
    (h : c.generate o = .ok out) : out.unmapped = c.unmapped := by
  obtain ⟨title, root⟩ := o
  cases root with
  | none =>
      obtain ⟨schema, hgen, -⟩ := generate_default c title
      rw [hgen] at h
      cases h
      rfl
  | some name =>
      obtain ⟨r, schema, -, -, rfl⟩ := (generate_root_eq_ok_iff hc).mp h
      rfl

/-- Whatever registrations built the catalog and whatever is asked for, a
document is about the record its root stands for, or about the last record
that maps; it fails only for a root that stands for nothing or for a record
that does not map; and what it leaves out is reported, entry by entry. -/
theorem generate_outcome (hc : c.Built) (o : Options) :
    (∀ name, o.root = some name →
      (c.generate o = .error (.unknownType name) ↔ c.find? name = none) ∧
      (∀ r ∈ c.records, c.generate o = .error (.unmapped [r.name]) ↔
        c.find? name = some r ∧ ¬ c.Maps r) ∧
      (∀ e, c.generate o = .error e →
        e = .unknownType name ∨ ∃ r ∈ c.records, e = .unmapped [r.name]) ∧
      (∀ out, c.generate o = .ok out ↔ ∃ r schema, c.find? name = some r ∧
        (schema.title = Name.title r.name ∧ mapFields c [] r = .ok schema.properties) ∧
        out = ⟨.single schema, c.unmapped⟩)) ∧
    (o.root = none → ∃ schema, c.generate o = .ok ⟨.single schema, c.unmapped⟩ ∧
      ((∃ r, c.IsLastMapped r ∧ c.recordSchema r = .ok schema) ∨ schema = ⟨o.title, []⟩) ∧
      (schema = ⟨o.title, []⟩ ↔ ∀ r ∈ c.records, ¬ c.Maps r)) ∧
    (∀ out, c.generate o = .ok out → c.Reports out.unmapped) ∧
    c.Reports (c.generateAll o).unmapped := by
  have hnames := hc.namesDistinct
  obtain ⟨title, root⟩ := o
  refine ⟨?_, ?_, ?_, reports_unmapped c⟩
  · rintro name rfl
    simp only [← recordSchema_eq_ok_iff]
    exact ⟨generate_root_eq_unknownType_iff hnames,
      fun r hr => generate_root_eq_unmapped_iff hnames hr,
      fun e he => generate_root_error hnames he,
      fun out => generate_root_eq_ok_iff hnames⟩
  · rintro rfl
    obtain ⟨schema, hgen, hschema⟩ := generate_default c title
    refine ⟨schema, hgen, hschema.imp_right (·.2), ?_⟩
    rcases hschema with ⟨r, hlast, hschema⟩ | ⟨hnone, rfl⟩
    · -- a record that maps has properties
      constructor
      · rintro rfl
        exact absurd rfl (properties_ne_nil_of_recordSchema hschema)
      · intro hnone
        exact absurd ⟨schema, hschema⟩ (hnone r hlast.mem_records)
    · exact ⟨fun _ => hnone, fun _ => rfl⟩
  · intro out hgen
    rw [unmapped_of_generate hnames hgen]
    exact reports_unmapped c

/-- A shed that is declared and never defined. -/
def shedDecl : RecordDecl where
  name := "shed"
  fields := []

/-- The built-in declarations, the shed, and a function that takes one. -/
def depot : Catalog :=
  builtin.registerAll
    [ .record shedDecl,
      .function
        { name := "openShed"
          arguments := [⟨"shed", .pointer (.record "shed")⟩]
          result := none } ]

theorem depot_outcome : depot.Built ∧ shedDecl ∈ depot.records ∧
    depot.find? "Shed" = some shedDecl ∧ ¬ depot.Maps shedDecl ∧
    depot.generate ⟨"Model", some "Shed"⟩ = .error (.unmapped ["shed"]) ∧
    ∃ schema, depot.generate ⟨"Model", none⟩ = .ok ⟨.single schema, depot.unmapped⟩ := by
  have hbuilt : depot.Built := ⟨builtin, by simp, _, rfl⟩
  have hmem : shedDecl ∈ depot.records := by decide +kernel
  have hfind : depot.find? "Shed" = some shedDecl := by decide +kernel
  have hmaps : ¬ depot.Maps shedDecl := by
    rw [maps_iff_fault?_eq_none, fault?_mapFields_eq_none_iff]
    simp [shedDecl]
  have hroot := (generate_outcome hbuilt ⟨"Model", some "Shed"⟩).1 "Shed" rfl
  obtain ⟨schema, hgen, -⟩ := (generate_outcome hbuilt ⟨"Model", none⟩).2.1 rfl
  exact ⟨hbuilt, hmem, hfind, hmaps, (hroot.2.1 shedDecl hmem).mpr ⟨hfind, hmaps⟩, schema, hgen⟩

end DeclSchema.Catalog
