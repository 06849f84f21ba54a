import DeclSchema.Proofs.Report
import Mathlib

/-!
What an entry of the report blames.

A record or a function is tried type by type, and the first type that fails
is the one that is reported. Which type that is can be said without the
mapping: it is the first from which a bad leaf can be reached, and the
entry tells such a leaf (`FirstBad`). For a function this is reaching by
any way at all. For a record it is reaching without passing the record
itself. A field that only leads back to its own record is not to blame for
what is wrong there, although a bad leaf can be reached from it.

The position of an argument is its index in 32 bits, with a sign. With at
most `2 ^ 31` arguments every index fits, and none is mistaken for `-1`, the
position of the result.
-/

namespace DeclSchema.Catalog

variable {c : Catalog} {visiting : List String} {r : RecordDecl}
  {f : FunctionDecl} {u : Unmapped} {text : String}

/-- The field at index `i` is the first from which a bad leaf can be reached
without entering a record of `visiting`, and the leaf is told as `text`. -/
structure FirstBad (c : Catalog) (visiting : List String) (fields : List FieldDecl) (i : Nat)
    (f : FieldDecl) (text : String) : Prop where
  at_index : fields[i]? = some f
  reaches : c.Reaches visiting f.type text
  none_before : ∀ j < i, ∀ g, fields[j]? = some g → ∀ other, ¬ c.Reaches visiting g.type other

/-- Where the types of a list are tried in order, the one that fails first is
the first that reaches a bad leaf. -/
theorem firstBad_of_split (hc : c.NamesDistinct) {before after : List FieldDecl} {f : FieldDecl}
    (hf : fault? (mapType c visiting f.type) = some text)
    (hbefore : ∀ g ∈ before, fault? (mapType c visiting g.type) = none) :
    c.FirstBad visiting (before ++ f :: after) before.length f text where
  at_index := by simp
  reaches := reaches_of_fault? hf
  none_before := by
    intro j hj g hg
    rw [List.getElem?_append_left hj] at hg
    exact (fault?_mapType_eq_none_iff hc).mp (hbefore g (List.mem_of_getElem? hg))

/-! ### Records -/

/-- The fields of a record that fail tell the first of them that is bad. -/
theorem firstBad_of_fault?_mapFields (hc : c.NamesDistinct) {fault : FieldFault}
    (hfields : r.fields ≠ []) (h : fault? (mapFields c visiting r) = some fault) :
    ∃ i f, c.FirstBad (r.name :: visiting) r.fields i f fault.cause ∧
      fault.field = some f.name := by
  rw [fault?_mapFields hfields, List.findSome?_eq_some_iff] at h
  obtain ⟨before, f, after, hsplit, hf, hbefore⟩ := h
  obtain ⟨cause, hcause, rfl⟩ := Option.map_eq_some_iff.mp hf
  refine ⟨before.length, f, ?_, rfl⟩
  rw [hsplit]
  exact firstBad_of_split hc hcause fun g hg => Option.map_eq_none_iff.mp (hbefore g hg)

/-- A record that does not map is in the report. Without fields it is blamed
itself; otherwise the entry names the first field from which a bad leaf can
be reached without passing the record, and tells such a leaf. -/
theorem record_entry_blames_first_field (hc : c.NamesDistinct) (hr : r ∈ c.records)
    (h : ¬ c.Maps r) :
    ∃ u ∈ c.unmapped, c.recordSchema r = .error u ∧ u.name = r.name ∧ u.position = none ∧
      (r.fields = [] → u.cause = r.name ∧ u.context = none) ∧
      (r.fields ≠ [] → ∃ i f, c.FirstBad [r.name] r.fields i f u.cause ∧
        u.context = some f.name) := by
  rw [maps_iff_fault?_eq_none] at h
  obtain ⟨fault, hfault⟩ := Option.ne_none_iff_exists'.mp h
  have hschema : c.recordSchema r = .error ⟨r.name, none, fault.cause, fault.field⟩ := by
    rw [← fault?_eq_some_iff, fault?_recordSchema, hfault, Option.map_some]
  have hentry := List.mem_filterMap.mpr ⟨r, hr, recordFault_eq_some_iff.mpr hschema⟩
  refine ⟨_, List.mem_append_left _ hentry, hschema, rfl, rfl, fun hnil => ?_, fun hfields => ?_⟩
  · rw [fault?_mapFields_of_nil hnil, Option.some.injEq] at hfault
    subst hfault
    exact ⟨rfl, rfl⟩
  · exact firstBad_of_fault?_mapFields hc hfields hfault

/-- A signal that knows the section it guards. -/
def signalDecl : RecordDecl where
  name := "signal"
  fields := [⟨"guards", .pointer (.record "section")⟩, ⟨"lamp", .unsupported "lamp (*)(int)"⟩]

/-- A section that knows its signal and nothing else. -/
def sectionDecl : RecordDecl where
  name := "section"
  fields := [⟨"entry", .pointer (.record "signal")⟩]

/-- Two records that refer to each other, of which one has a bad leaf. -/
def signalBox : Catalog :=
  empty.registerAll [.record signalDecl, .record sectionDecl]

theorem built_signalBox : signalBox.Built :=
  ⟨empty, by simp, _, rfl⟩

theorem find?_signalBox : signalBox.find? "signal" = some signalDecl ∧
    signalBox.find? "section" = some sectionDecl := by
  decide +kernel

/-- Whatever names the section reaches the lamp of the signal. -/
theorem section_reaches_lamp {t : FieldType} (ht : signalBox.target? t = some sectionDecl) :
    signalBox.Reaches [] t "lamp (*)(int)" := by
  have hlamp : signalBox.Reaches [] (.unsupported "lamp (*)(int)") "lamp (*)(int)" :=
    .here (.unsupported _) (by simp)
  have hentry : signalBox.Reaches [] (.pointer (.record "signal")) "lamp (*)(int)" :=
    .through find?_signalBox.1 (by simp)
      (List.mem_cons_of_mem _ List.mem_cons_self : ⟨"lamp", _⟩ ∈ signalDecl.fields) hlamp
  exact .through ht (by simp) (List.mem_cons_self : ⟨"entry", _⟩ ∈ sectionDecl.fields) hentry

/-- A way from the first field of the signal to the lamp passes the signal
again, so the lamp is to blame and not the section. -/
theorem signal_blames_lamp : signalBox.NamesDistinct ∧ signalDecl ∈ signalBox.records ∧
    ¬ signalBox.Maps signalDecl ∧
    signalBox.Reaches [] (.pointer (.record "section")) "lamp (*)(int)" ∧
    ∃ u ∈ signalBox.unmapped, u.name = "signal" ∧ u.context = some "lamp" ∧
      u.cause = "lamp (*)(int)" := by
  have hmem : signalDecl ∈ signalBox.records := mem_of_find? find?_signalBox.1
  have hmaps : ¬ signalBox.Maps signalDecl := by
    rw [maps_iff_fault?_eq_none, fault?_mapFields_eq_none_iff]
    simp [signalDecl, fault?_mapType, FieldType.leaf]
  have hguards : fault? (mapType signalBox ["signal"] (.pointer (.record "section"))) = none := by
    simp [fault?_mapType, FieldType.leaf, find?_signalBox, fault?_mapFields_eq_none_iff,
      sectionDecl, signalDecl]
  obtain ⟨u, hu, -, hname, -, -, hblame⟩ :=
    record_entry_blames_first_field built_signalBox.namesDistinct hmem hmaps
  obtain ⟨i, f, ⟨hf, hreaches, -⟩, hcontext⟩ := hblame (by decide)
  refine ⟨built_signalBox.namesDistinct, hmem, hmaps, section_reaches_lamp find?_signalBox.2,
    u, hu, hname, ?_⟩
  rcases i with _ | _ | i
  · obtain rfl : _ = f := Option.some.inj hf
    exact absurd hreaches
      ((fault?_mapType_eq_none_iff built_signalBox.namesDistinct).mp hguards u.cause)
  · obtain rfl : _ = f := Option.some.inj hf
    refine ⟨hcontext, ?_⟩
    generalize u.cause = cause at hreaches
    rcases hreaches.exists_badLeaf with hb | ⟨_, _, ht, -⟩
    · cases hb
      rfl
    · cases ht
  · cases hf

/-! ### Functions -/

theorem unmappedArgument_eq_some {i k : Nat} {arguments : List FieldDecl}
    (h : c.unmappedArgument i arguments = some (k, text)) :
    ∃ before a after, arguments = before ++ a :: after ∧ k = i + before.length ∧
      fault? (mapType c [] a.type) = some text ∧
      ∀ b ∈ before, fault? (mapType c [] b.type) = none := by
  induction arguments generalizing i with
  | nil => cases h
  | cons a rest ih =>
      rw [unmappedArgument] at h
      cases ha : mapType c [] a.type with
      | error cause =>
          rw [ha, Option.some.injEq, Prod.mk.injEq] at h
          obtain ⟨rfl, rfl⟩ := h
          exact ⟨[], a, rest, rfl, by simp, by rw [ha, fault?_error], by simp⟩
      | ok node =>
          rw [ha] at h
          obtain ⟨before, b, after, rfl, rfl, hb, hbefore⟩ := ih h
          refine ⟨a :: before, b, after, rfl, ?_, hb, ?_⟩
          · rw [List.length_cons]
            omega
          · rw [List.forall_mem_cons]
            exact ⟨by rw [ha, fault?_ok], hbefore⟩

/-- A function is reported for its result, or else for the first argument
that fails. -/
theorem functionFault_eq_some_cases (h : c.functionFault f = some u) :
    (∃ t cause, f.result = some t ∧ fault? (mapType c [] t) = some cause ∧
      u = ⟨f.name, some resultPosition, cause, some f.signature⟩) ∨
    ((∀ t, f.result = some t → fault? (mapType c [] t) = none) ∧
      ∃ i cause, c.unmappedArgument 0 f.arguments = some (i, cause) ∧
        u = ⟨f.name, some (.ofNat i), cause, some f.signature⟩) := by
  unfold functionFault at h
  split at h
  · next cause hresult =>
      obtain ⟨t, ht, hfault⟩ := Option.map_eq_some_iff.mp hresult
      exact .inl ⟨t, cause, ht, by rw [hfault, fault?_error], (Option.some.inj h).symm⟩
  · next hresult =>
      refine .inr ⟨fun t ht => ?_, ?_⟩
      · cases hfault : mapType c [] t with
        | error cause => exact absurd (by rw [ht, Option.map_some, hfault]) (hresult cause)
        | ok node => rfl
      · split at h
        · next i cause hargument => exact ⟨i, cause, hargument, (Option.some.inj h).symm⟩
        · cases h

/-- An index that fits is not the position of the result. -/
theorem ofNat_ne_resultPosition {i : Nat} (h : i < 2 ^ 31) : Int32.ofNat i ≠ resultPosition := by
  intro heq
  have hindex : (Int32.ofNat i).toInt = i := Int32.toInt_ofNat_of_lt h
  have hresult : resultPosition.toInt = -1 := by decide
  rw [heq] at hindex
  omega

/-- A function is reported exactly if a bad leaf can be reached from one of
its types. The entry is about the result, at position `-1`, if a bad leaf
can be reached from there, and else about the first argument from which one
can be reached. It tells a bad leaf of that very type, and the function as
it is declared. -/
theorem function_entry_blames_first_type (hc : c.Built) (f : FunctionDecl)
    (hlength : f.arguments.length ≤ 2 ^ 31) :
    (c.functionFault f = none ↔ ∀ t ∈ f.types, ∀ text, ¬ c.Reaches [] t text) ∧
    ∀ u, c.functionFault f = some u →
      u.name = f.name ∧
      u.context = some (f.qualifiedName ++ "(" ++
        String.intercalate ", " (f.arguments.map (·.type.spelling)) ++ ")") ∧
      (u.position = some (-1) ↔ ∃ t text, f.result = some t ∧ c.Reaches [] t text) ∧
      (u.position = some (-1) → ∃ t, f.result = some t ∧ c.Reaches [] t u.cause) ∧
      (u.position ≠ some (-1) → ∃ i a, c.FirstBad [] f.arguments i a u.cause ∧
        u.position.map Int32.toInt = some (i : Int)) := by
  have hnames := hc.namesDistinct
  constructor
  · rw [functionFault_eq_none_iff, mapsFunction_iff_fault?_eq_none]
    simp only [fault?_mapType_eq_none_iff hnames]
  · intro u hu
    rcases functionFault_eq_some_cases hu with
      ⟨t, cause, ht, hcause, rfl⟩ | ⟨hresult, i, cause, hargument, rfl⟩
    · have hreaches : c.Reaches [] t cause := reaches_of_fault? hcause
      refine ⟨rfl, rfl, ⟨fun _ => ⟨t, cause, ht, hreaches⟩, fun _ => rfl⟩,
        fun _ => ⟨t, ht, hreaches⟩, fun hne => absurd rfl hne⟩
    · obtain ⟨before, a, after, hsplit, hi, ha, hbefore⟩ := unmappedArgument_eq_some hargument
      rw [Nat.zero_add] at hi
      have hlt : i < 2 ^ 31 := by
        rw [hsplit, List.length_append, List.length_cons] at hlength
        omega
      have hposition : some (Int32.ofNat i) ≠ some (-1) :=
        fun heq => ofNat_ne_resultPosition hlt (Option.some.inj heq)
      refine ⟨rfl, rfl, ⟨fun heq => absurd heq hposition, ?_⟩, fun heq => absurd heq hposition,
        fun _ => ⟨i, a, ?_, ?_⟩⟩
      · rintro ⟨t, text, ht, hreaches⟩
        exact absurd hreaches ((fault?_mapType_eq_none_iff hnames).mp (hresult t ht) text)
      · rw [hsplit, hi]
        exact firstBad_of_split hnames ha hbefore
      · rw [Option.map_some, Int32.toInt_ofNat_of_lt hlt]

/-- A function that takes sections, after a number of them. -/
def switchDecl : FunctionDecl where
  name := "switchAll"
  arguments := [⟨"count", .primitive .int32⟩, ⟨"sections", .array (.pointer (.record "section"))⟩]
  result := some (.primitive .bool)

theorem not_reaches_primitive (p : Primitive) : ¬ c.Reaches visiting (.primitive p) text := by
  intro h
  rcases h.exists_badLeaf with hb | ⟨_, _, ht, -⟩
  · cases hb
  · cases ht

/-- From the second argument the lamp can be reached, through two records. -/
theorem switch_blames_sections : signalBox.Built ∧ switchDecl.arguments.length ≤ 2 ^ 31 ∧
    ∃ u, signalBox.functionFault switchDecl = some u ∧ u.name = "switchAll" ∧
      u.context = some "switchAll(int, std::vector<section *>)" ∧
      u.position.map Int32.toInt = some 1 := by
  have hlength : switchDecl.arguments.length ≤ 2 ^ 31 := by decide
  obtain ⟨hnone, hentry⟩ := function_entry_blames_first_type built_signalBox switchDecl hlength
  obtain ⟨u, hu⟩ : ∃ u, signalBox.functionFault switchDecl = some u := by
    rw [← Option.ne_none_iff_exists']
    intro h
    exact hnone.mp h (.array (.pointer (.record "section"))) (by decide) _
      (section_reaches_lamp find?_signalBox.2)
  obtain ⟨hname, hcontext, hresult, -, hargument⟩ := hentry u hu
  have hposition : u.position ≠ some (-1) := by
    rw [Ne, hresult]
    rintro ⟨t, text, ht, hreaches⟩
    obtain rfl : _ = t := Option.some.inj ht
    exact not_reaches_primitive .bool hreaches
  obtain ⟨i, a, ⟨ha, hreaches, -⟩, hi⟩ := hargument hposition
  refine ⟨built_signalBox, hlength, u, hu, hname, by rw [hcontext]; decide, ?_⟩
  rcases i with _ | _ | i
  · obtain rfl : _ = a := Option.some.inj ha
    exact absurd hreaches (not_reaches_primitive .int32)
  · exact hi
  · cases ha

end DeclSchema.Catalog
