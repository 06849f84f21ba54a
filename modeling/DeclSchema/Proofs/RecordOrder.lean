import DeclSchema.Proofs.Agreement
import DeclSchema.Proofs.Definitions

/-!
When the order of records does not matter.

A name is looked up in catalog order, and this is the only place where the
mapping sees the order at all, since it reads a catalog through references
and nothing else. If no text can be used for two records, the look-up has
nothing to choose from, and two catalogs with the same records find the
same (`Unambiguous.find?_eq_of_perm`). Then every declaration maps in both
as it does in the other, and what is left of the order is where the records
stand in the report; a document puts its entries in key order anyway.
-/

namespace DeclSchema

open Catalog

variable {c d : Catalog} {r : RecordDecl}

/-! ### Catalogs that find the same -/

namespace Catalog

theorem target?_congr (hfind : ∀ name, c.find? name = d.find? name) (t : FieldType) :
    c.target? t = d.target? t := by
  rw [target?, target?, funext hfind]

theorem recordSchema_of_find?_eq (hfind : ∀ name, c.find? name = d.find? name) :
    c.recordSchema = d.recordSchema := by
  funext r
  exact recordSchema_congr (fun _ _ f _ => target?_congr hfind f.type)
    fun f _ => target?_congr hfind f.type

theorem functionFault_of_find?_eq (hfind : ∀ name, c.find? name = d.find? name) :
    c.functionFault = d.functionFault := by
  funext f
  exact functionFault_congr (fun _ _ f _ => target?_congr hfind f.type)
    fun t _ => target?_congr hfind t

end Catalog

/-! ### Look-up where no text is used twice -/

/-- Every text that the record can be found by. -/
def RecordDecl.names (r : RecordDecl) : List String :=
  r.name :: Name.title r.name :: r.aliases

namespace Catalog

/-- No text is the name, an alias or the title of two records. -/
def Unambiguous (c : Catalog) : Prop :=
  ∀ r ∈ c.records, ∀ s ∈ c.records, ∀ name ∈ r.names, name ∈ s.names → r = s

instance : Decidable c.Unambiguous :=
  inferInstanceAs
    (Decidable (∀ r ∈ c.records, ∀ s ∈ c.records, ∀ name ∈ r.names, name ∈ s.names → r = s))

theorem mem_names_iff {name : String} :
    name ∈ r.names ↔ r.answersTo name ∨ Name.title r.name = name := by
  simp only [RecordDecl.names, RecordDecl.answersTo, List.mem_cons, Bool.or_eq_true, beq_iff_eq,
    List.contains_iff_mem]
  grind

theorem mem_names_of_find? {name : String} (h : c.find? name = some r) : name ∈ r.names := by
  rw [mem_names_iff]
  unfold find? at h
  split at h
  · next s hs =>
      rw [Option.some.injEq] at h
      subst h
      exact .inl (by simpa using List.find?_some hs)
  · exact .inr (by simpa using List.find?_some h)

/-- A text that some record has as one of its names stands for a record. -/
theorem find?_ne_none {name : String} (hr : r ∈ c.records) (hname : name ∈ r.names) :
    c.find? name ≠ none := by
  intro hnone
  unfold find? at hnone
  split at hnone
  · cases hnone
  · next hanswers =>
      rw [List.find?_eq_none] at hanswers hnone
      rcases mem_names_iff.mp hname with h | h
      · exact hanswers r hr h
      · exact hnone r hr (by simpa using h)

theorem Unambiguous.find?_eq_some_iff (hc : c.Unambiguous) {name : String} :
    c.find? name = some r ↔ r ∈ c.records ∧ name ∈ r.names := by
  constructor
  · intro h
    exact ⟨mem_of_find? h, mem_names_of_find? h⟩
  · rintro ⟨hr, hname⟩
    obtain ⟨s, hs⟩ := Option.ne_none_iff_exists'.mp (find?_ne_none hr hname)
    rw [hs, hc s (mem_of_find? hs) r hr name (mem_names_of_find? hs) hname]

theorem Unambiguous.of_perm (hc : c.Unambiguous) (h : c.records.Perm d.records) :
    d.Unambiguous := by
  intro r hr s hs
  exact hc r (h.mem_iff.mpr hr) s (h.mem_iff.mpr hs)

/-- Where no text is used twice, the order of records does not matter to the
look-up. -/
theorem Unambiguous.find?_eq_of_perm (hc : c.Unambiguous) (h : c.records.Perm d.records)
    (name : String) : c.find? name = d.find? name := by
  apply Option.ext
  intro r
  rw [hc.find?_eq_some_iff, (hc.of_perm h).find?_eq_some_iff, h.mem_iff]

theorem Unambiguous.nodup_mappedTitles (hc : c.Unambiguous) (hnames : c.NamesDistinct) :
    c.mappedTitles.Nodup := by
  have hrecords : c.records.Nodup := List.Nodup.of_map _ hnames
  refine (hrecords.filter _).map_on ?_
  intro r hr s hs htitle
  refine hc r (List.mem_of_mem_filter hr) s (List.mem_of_mem_filter hs) (Name.title r.name) ?_ ?_
  · exact mem_names_iff.mpr (.inr rfl)
  · exact mem_names_iff.mpr (.inr htitle.symm)

/-! ### Documents and reports -/

theorem generate_root_congr (hc : c.NamesDistinct) (hd : d.NamesDistinct)
    (hfind : ∀ name, c.find? name = d.find? name) (title name : String) :
    (c.generate ⟨title, some name⟩).map Output.serialized =
      (d.generate ⟨title, some name⟩).map Output.serialized := by
  cases hname : c.find? name with
  | none =>
      have hname' : d.find? name = none := (hfind name).symm.trans hname
      rw [(generate_root_eq_unknownType_iff hc).mpr hname,
        (generate_root_eq_unknownType_iff hd).mpr hname']
  | some r =>
      have hname' : d.find? name = some r := (hfind name).symm.trans hname
      rw [generate_root_serialized hc hname, generate_root_serialized hd hname', recordOutcome,
        recordOutcome, recordSchema_of_find?_eq hfind]

theorem generateAll_document_of_perm (hc : c.Unambiguous) (hnames : c.NamesDistinct)
    (h : c.records.Perm d.records) (o : Options) :
    (c.generateAll o).document = (d.generateAll o).document := by
  have hmapped : c.mappedRecords.Perm d.mappedRecords := by
    rw [mappedRecords, mappedRecords, recordSchema_of_find?_eq (hc.find?_eq_of_perm h)]
    exact h.filterMap _
  have hentries := Keyed.ofList_eq_of_perm
    (hmapped.map fun m => (Name.title m.1.name, m.2))
    (c.keys_mappedRecords ▸ hc.nodup_mappedTitles hnames)
  rw [generateAll, generateAll, hentries]

end Catalog

/-- The entries about records. -/
def recordEntries (entries : List Unmapped) : List Unmapped :=
  entries.filter (·.position.isNone)

/-- The entries about functions. -/
def functionEntries (entries : List Unmapped) : List Unmapped :=
  entries.filter (·.position.isSome)

/-- The reports say the same about records, in whatever order, and the same
about functions in the same order. -/
def SameReport (entries others : List Unmapped) : Prop :=
  (recordEntries entries).Perm (recordEntries others) ∧
    functionEntries entries = functionEntries others

namespace Catalog

theorem position_of_mem_recordFaults {u : Unmapped} (h : u ∈ c.records.filterMap c.recordFault) :
    u.position = none := by
  obtain ⟨r, -, hu⟩ := List.mem_filterMap.mp h
  exact (reportsRecord_of_recordFault hu).position

theorem position_of_mem_functionFaults {u : Unmapped}
    (h : u ∈ c.functions.filterMap c.functionFault) : u.position ≠ none := by
  obtain ⟨f, -, hu⟩ := List.mem_filterMap.mp h
  exact (reportsFunction_of_functionFault hu).position

theorem recordEntries_unmapped (c : Catalog) :
    recordEntries c.unmapped = c.records.filterMap c.recordFault := by
  have hrecords : ∀ u ∈ c.records.filterMap c.recordFault, u.position.isNone = true := by
    intro u hu
    exact Option.isNone_iff_eq_none.mpr (position_of_mem_recordFaults hu)
  have hfunctions : ∀ u ∈ c.functions.filterMap c.functionFault, ¬ u.position.isNone = true := by
    intro u hu
    simpa using position_of_mem_functionFaults hu
  rw [recordEntries, unmapped, List.filter_append, List.filter_eq_self.mpr hrecords,
    List.filter_eq_nil_iff.mpr hfunctions, List.append_nil]

theorem functionEntries_unmapped (c : Catalog) :
    functionEntries c.unmapped = c.functions.filterMap c.functionFault := by
  have hrecords : ∀ u ∈ c.records.filterMap c.recordFault, ¬ u.position.isSome = true := by
    intro u hu
    simp [position_of_mem_recordFaults hu]
  have hfunctions : ∀ u ∈ c.functions.filterMap c.functionFault, u.position.isSome = true := by
    intro u hu
    exact Option.isSome_iff_ne_none.mpr (position_of_mem_functionFaults hu)
  rw [functionEntries, unmapped, List.filter_append, List.filter_eq_nil_iff.mpr hrecords,
    List.filter_eq_self.mpr hfunctions, List.nil_append]

theorem sameReport_of_perm (hc : c.Unambiguous) (hfunctions : c.functions = d.functions)
    (h : c.records.Perm d.records) : SameReport c.unmapped d.unmapped := by
  have hfind := hc.find?_eq_of_perm h
  have hfault : c.recordFault = d.recordFault := by
    funext r
    exact recordFault_congr (congrFun (recordSchema_of_find?_eq hfind) r)
  constructor
  · rw [recordEntries_unmapped, recordEntries_unmapped, hfault]
    exact h.filterMap d.recordFault
  · rw [functionEntries_unmapped, functionEntries_unmapped, hfunctions,
      functionFault_of_find?_eq hfind]

/-- Two catalogs with the same functions and the same records, in whatever
order, in which no text is used for two records, give the same document or
the same error for every root, and the same document about every record.
What they report about records differs in order at most, and what they
report about functions not at all. -/
theorem generate_of_perm (hfunctions : c.functions = d.functions)
    (hrecords : c.records.Perm d.records) (hnames : c.NamesDistinct) (hc : c.Unambiguous) :
    (∀ title name, (c.generate ⟨title, some name⟩).map Output.serialized =
      (d.generate ⟨title, some name⟩).map Output.serialized) ∧
    (∀ o, (c.generateAll o).serialized = (d.generateAll o).serialized) ∧
    (∀ o, SameReport (c.generateAll o).unmapped (d.generateAll o).unmapped) ∧
    ∀ o out other, c.generate o = .ok out → d.generate o = .ok other →
      SameReport out.unmapped other.unmapped := by
  have hnames' : d.NamesDistinct := (hrecords.map _).nodup_iff.mp hnames
  have hreport := sameReport_of_perm hc hfunctions hrecords
  refine ⟨?_, fun o => ?_, fun _ => hreport, fun o out other hout hother => ?_⟩
  · exact generate_root_congr hnames hnames' (hc.find?_eq_of_perm hrecords)
  · rw [Output.serialized, Output.serialized, generateAll_document_of_perm hc hnames hrecords]
  · rw [unmapped_of_generate hnames hout, unmapped_of_generate hnames' hother]
    exact hreport

/-- The railway, declared from the other end. -/
def railwayReversed : Catalog :=
  empty.registerAll [.record trackDecl, .record stationDecl]

theorem railway_of_perm : railway.records ≠ railwayReversed.records ∧
    railway.functions = railwayReversed.functions ∧
    railway.records.Perm railwayReversed.records ∧ railway.NamesDistinct ∧ railway.Unambiguous ∧
    (railway.generate ⟨"Model", some "STATION"⟩).map Output.serialized =
      (railwayReversed.generate ⟨"Model", some "STATION"⟩).map Output.serialized ∧
    (railway.generateAll ⟨"Model", none⟩).serialized =
      (railwayReversed.generateAll ⟨"Model", none⟩).serialized := by
  have hfunctions : railway.functions = railwayReversed.functions := rfl
  have hperm : railway.records.Perm railwayReversed.records := by decide
  have hnames := built_railway.namesDistinct
  have hunambiguous : railway.Unambiguous := by decide +kernel
  have hsame := generate_of_perm hfunctions hperm hnames hunambiguous
  exact ⟨by decide, hfunctions, hperm, hnames, hunambiguous, hsame.1 _ _, hsame.2.1 _⟩

end Catalog

end DeclSchema
