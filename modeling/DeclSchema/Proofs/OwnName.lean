import DeclSchema.Proofs.Definitions

/-!
What the own name of a record stands for.

Names and aliases are looked up in one round, and the first record in
catalog order that has the text as either of them is taken. Registration
keeps the names apart from each other, but it never compares a name with
the aliases of other records. So a record is found by its own name unless a
record before it has that name as an alias. If there is such a record, the
name stands for the first of them, and it does so everywhere: as the root of
a document and as the type of a field.
-/

namespace DeclSchema.Catalog

variable {c : Catalog} {r s : RecordDecl} {p : RecordDecl → Prop}

theorem answersTo_iff {name : String} : r.answersTo name ↔ r.name = name ∨ name ∈ r.aliases := by
  simp [RecordDecl.answersTo]

/-- If some record has the property, there is a first one. -/
theorem exists_isFirst [DecidablePred p] (hr : r ∈ c.records) (hp : p r) : ∃ s, c.IsFirst p s := by
  have hsome : (c.records.find? (p ·)).isSome := List.find?_isSome.mpr ⟨r, hr, by simpa using hp⟩
  obtain ⟨s, hs⟩ := Option.isSome_iff_exists.mp hsome
  obtain ⟨hps, before, after, hsplit, hbefore⟩ := List.find?_eq_some_iff_append.mp hs
  exact ⟨s, before, after, hsplit, by simpa using hps, by simpa using hbefore⟩

/-- A record before this one has the name of this one as an alias. -/
def Shadowed (c : Catalog) (r : RecordDecl) : Prop :=
  ∃ before after, c.records = before ++ r :: after ∧ ∃ s ∈ before, r.name ∈ s.aliases

/-- The record is the first that its own name can mean exactly if it is not
shadowed. -/
theorem isFirst_answersTo_name_iff (hc : c.NamesDistinct) (hr : r ∈ c.records) :
    c.IsFirst (·.answersTo r.name) r ↔ ¬ c.Shadowed r := by
  have hnodup : c.records.Nodup := List.Nodup.of_map _ hc
  constructor
  · rintro ⟨before, after, hsplit, -, hbefore⟩ ⟨before', after', hsplit', s, hs, halias⟩
    -- the record stands at one place only, so the two splits are the same
    have hone : r ∉ before ∧ r ∉ after := by
      rw [hsplit, List.nodup_append, List.nodup_cons] at hnodup
      exact ⟨fun hmem => hnodup.2.2 r hmem r List.mem_cons_self rfl, hnodup.2.1.1⟩
    obtain ⟨rfl, -, -⟩ :=
      (List.append_cons_inj_of_notMem hone.1 hone.2).mp (hsplit.symm.trans hsplit')
    exact hbefore s hs (answersTo_iff.mpr (.inr halias))
  · intro hshadow
    obtain ⟨before, after, hsplit⟩ := List.append_of_mem hr
    refine ⟨before, after, hsplit, answersTo_iff.mpr (.inl rfl), fun s hs hanswers => ?_⟩
    rcases answersTo_iff.mp hanswers with hname | halias
    · -- no other record has the name, and this one does not stand before itself
      have hmem : s ∈ c.records := by simp [hsplit, hs]
      have heq : s = r := hc.eq_of_name_eq hmem hr hname
      rw [hsplit, List.nodup_append] at hnodup
      exact hnodup.2.2 s hs r List.mem_cons_self heq
    · exact hshadow ⟨before, after, hsplit, s, hs, halias⟩

/-- The text stands for the record: the look-up finds it, a document with
this root is about it, and a field of this type expands to its fields. -/
structure Means (c : Catalog) (name : String) (r : RecordDecl) : Prop where
  found : c.find? name = some r
  root : ∀ title, (c.generate ⟨title, some name⟩).map Output.serialized = c.recordOutcome r
  field : ∀ visiting, r.name ∉ visiting → mapType c visiting (.record name) =
    ((mapFields c visiting r).map .object).mapError (·.cause)

/-- Root and field go by the look-up and by nothing else. -/
theorem means_of_find? (hc : c.NamesDistinct) {name : String} (h : c.find? name = some r) :
    c.Means name r where
  found := h
  root := generate_root_serialized hc h
  field := by
    intro visiting hv
    rw [mapType_record h, if_neg hv, nested]

/-- The own name of a record stands for that record exactly if no record
before it has the name as an alias. In any case it stands for the first
record that has it as its name or as an alias. -/
theorem own_name_means_first (hc : c.Built) (hr : r ∈ c.records) :
    (c.Means r.name r ↔ ¬ c.Shadowed r) ∧
    ∃ s, c.IsFirst (·.answersTo r.name) s ∧ c.Means r.name s := by
  have hnames := hc.namesDistinct
  obtain ⟨s, hs⟩ := exists_isFirst (p := (·.answersTo r.name)) hr (answersTo_iff.mpr (.inl rfl))
  have hmeans : c.Means r.name s := means_of_find? hnames hs.find?_of_answersTo
  refine ⟨?_, s, hs, hmeans⟩
  rw [← isFirst_answersTo_name_iff hnames hr]
  constructor
  · intro hself
    obtain rfl : s = r := Option.some.inj (hmeans.found.symm.trans hself.found)
    exact hs
  · intro hfirst
    exact means_of_find? hnames hfirst.find?_of_answersTo

/-- A record that has an alias of the built-in car as its name. -/
def carTypeDecl : RecordDecl where
  name := "CAR_TYPE"
  fields := [⟨"seats", .primitive .int32⟩]

def fleet : Catalog :=
  builtin.registerAll [.record carTypeDecl]

theorem built_fleet : fleet.Built :=
  ⟨builtin, by simp, _, rfl⟩

theorem records_fleet : fleet.records =
    [wrapperDecl .int32, packetDecl, namedValueDecl, carDecl] ++ carTypeDecl :: [] := by
  decide

theorem find?_fleet : fleet.find? carDecl.name = some carDecl ∧
    fleet.find? carTypeDecl.name = some carDecl := by
  decide +kernel

/-- The car is found by its name, and the record that is shadowed by it is
not. -/
theorem fleet_own_names : fleet.Built ∧ carDecl ∈ fleet.records ∧ carTypeDecl ∈ fleet.records ∧
    ¬ fleet.Shadowed carDecl ∧ fleet.Shadowed carTypeDecl ∧
    fleet.Means carTypeDecl.name carDecl := by
  have hcar : carDecl ∈ fleet.records := by simp [records_fleet]
  have htype : carTypeDecl ∈ fleet.records := by simp [records_fleet]
  obtain ⟨hself, -⟩ := own_name_means_first built_fleet hcar
  obtain ⟨-, s, -, hmeans⟩ := own_name_means_first built_fleet htype
  have hshadow : fleet.Shadowed carTypeDecl :=
    ⟨_, _, records_fleet, carDecl, by simp, by decide⟩
  obtain rfl : s = carDecl := Option.some.inj (hmeans.found.symm.trans find?_fleet.2)
  exact ⟨built_fleet, hcar, htype,
    hself.mp (means_of_find? built_fleet.namesDistinct find?_fleet.1), hshadow, hmeans⟩

/-- The record is there, and its own name stands for another. -/
theorem carType_not_found_by_name : fleet.Built ∧ carTypeDecl ∈ fleet.records ∧
    fleet.find? carTypeDecl.name = some carDecl ∧
    fleet.find? carTypeDecl.name ≠ some carTypeDecl := by
  refine ⟨built_fleet, by simp [records_fleet], find?_fleet.2, ?_⟩
  rw [find?_fleet.2, Ne, Option.some.injEq]
  decide

end DeclSchema.Catalog
