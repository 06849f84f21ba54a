import DeclSchema.Output
import DeclSchema.Proofs.Mapping

/-!
Which records map.

The mapping goes through a record's fields and, where they refer to other
records, through the fields of those, but it never enters a record it is
already inside of: there it stops and reports nothing. So it looks at less
than can be reached. The main statement is that this hides nothing. A
record maps exactly if it has fields and no bad leaf stands in a field of
any record that it leads to, however long the way and whatever circles are
on it.

Both halves are first shown inside arbitrary records: a fault is a bad leaf
that can be reached (`reaches_of_fault?`), and a bad leaf that can be
reached is a fault (`Catalog.Reaches.fault?_ne_none`), though not always
with its own text, since the mapping stops at the first. The second half is
where circles matter and where record names have to be distinct.
-/

namespace DeclSchema

open Catalog Relation

variable {c : Catalog} {visiting : List String} {t : FieldType} {r s : RecordDecl}
  {text : String}

/-- What the mapping reports is a bad leaf that can be reached. -/
theorem reaches_of_fault? (h : fault? (mapType c visiting t) = some text) :
    c.Reaches visiting t text := by
  induction visiting, t using visiting_induction (c := c) generalizing text with
  | step visiting t ih =>
      cases ht : c.target? t with
      | none =>
          rw [fault?_mapType_eq_some_iff_badLeaf ht] at h
          exact .here h (by simp [ht])
      | some r =>
          rw [fault?_mapType_of_target? ht] at h
          split at h
          · cases h
          · next hv =>
              by_cases hr : r.fields = []
              · rw [fault?_mapFields_of_nil hr] at h
                obtain rfl : r.name = text := by simpa using h
                exact .here (badLeaf_of_target? ht hr) (by simpa [ht] using hv)
              · rw [fault?_mapFields hr, Option.map_eq_some_iff] at h
                obtain ⟨fault, hfirst, rfl⟩ := h
                obtain ⟨f, hf, hfault⟩ := List.exists_of_findSome?_eq_some hfirst
                obtain ⟨cause, hcause, rfl⟩ := Option.map_eq_some_iff.mp hfault
                have hrest := ih r (mem_of_target? ht) hv f hf hcause
                exact .through ht hv hf (hrest.mono (List.subset_cons_self _ _))

/-- A bad leaf that can be reached makes the mapping fail. -/
theorem Catalog.Reaches.fault?_ne_none (hc : c.NamesDistinct) (h : c.Reaches visiting t text) :
    fault? (mapType c visiting t) ≠ none := by
  induction visiting, t using visiting_induction (c := c) generalizing text with
  | step visiting t ih =>
      cases h with
      | here hb hv =>
          cases ht : c.target? t with
          | none => rw [(fault?_mapType_eq_some_iff_badLeaf ht).mpr hb]; simp
          | some r =>
              rw [fault?_mapType_of_target? ht, if_neg (hv r ht),
                fault?_mapFields_of_nil (hb.of_target? ht).1]
              simp
      | @through _ r f _ ht hv hf hrest =>
          have hr := mem_of_target? ht
          -- the rest of the way may come back to `r`, where the mapping would stop
          obtain ⟨g, hg, hdirect⟩ : ∃ g ∈ r.fields, c.Reaches (r.name :: visiting) g.type text := by
            rcases hrest.restart hc hr (List.ne_nil_of_mem hf) with hdirect | hagain
            · exact ⟨f, hf, hdirect⟩
            · exact hagain
          rw [fault?_mapType_of_target? ht, if_neg hv, Ne, Option.map_eq_none_iff,
            fault?_mapFields_eq_none_iff]
          rintro ⟨-, hall⟩
          exact ih r hr hv g hg hdirect (hall g hg)

/-- A type maps inside `visiting` exactly if no bad leaf can be reached from
it without entering a record of `visiting`. -/
theorem fault?_mapType_eq_none_iff (hc : c.NamesDistinct) :
    fault? (mapType c visiting t) = none ↔ ∀ text, ¬ c.Reaches visiting t text := by
  constructor
  · intro hnone text h
    exact h.fault?_ne_none hc hnone
  · intro h
    cases hfault : fault? (mapType c visiting t) with
    | none => rfl
    | some text => exact absurd (reaches_of_fault? hfault) (h text)

namespace Catalog

/-- The record has a schema. -/
def Maps (c : Catalog) (r : RecordDecl) : Prop :=
  ∃ schema, c.recordSchema r = .ok schema

theorem maps_iff_fault?_eq_none : c.Maps r ↔ fault? (mapFields c [] r) = none := by
  unfold Maps recordSchema
  split
  · next h => simp [h]
  · next h => simp [h]

instance : Decidable (c.Maps r) :=
  decidable_of_iff _ maps_iff_fault?_eq_none.symm

/-- A record with fields maps exactly if no bad leaf can be reached from one
of them. That the mapping is inside the record then makes no difference. -/
theorem maps_iff_reaches (hc : c.NamesDistinct) (hr : r ∈ c.records) :
    c.Maps r ↔ r.fields ≠ [] ∧ ∀ f ∈ r.fields, ∀ text, ¬ c.Reaches [] f.type text := by
  rw [maps_iff_fault?_eq_none, fault?_mapFields_eq_none_iff]
  refine and_congr_right fun hfields => ?_
  simp only [fault?_mapType_eq_none_iff hc]
  constructor
  · intro h f hf text hreach
    rcases hreach.restart hc hr hfields with hdirect | ⟨g, hg, hagain⟩
    · exact h f hf text hdirect
    · exact h g hg text hagain
  · intro h f hf text hreach
    exact h f hf text (hreach.mono (List.nil_subset _))

/-- A record maps exactly if it has fields and no record that it leads to has
a field with a bad leaf. -/
theorem maps_iff_reachable (hc : c.NamesDistinct) (hr : r ∈ c.records) :
    c.Maps r ↔ r.fields ≠ [] ∧
      ∀ s, c.Reachable r s → ∀ f ∈ s.fields, ∀ text, ¬ c.BadLeaf f.type.leaf text := by
  rw [maps_iff_reaches hc hr]
  refine and_congr_right fun _ => ?_
  constructor
  · intro h s hreach f hf text hb
    obtain ⟨g, hg, hbad⟩ := exists_reaches_iff_reachable.mpr ⟨s, hreach, f, hf, hb⟩
    exact h g hg text hbad
  · intro h f hf text hreaches
    obtain ⟨s, hreach, g, hg, hb⟩ := exists_reaches_iff_reachable.mp ⟨f, hf, hreaches⟩
    exact h s hreach g hg text hb

/-- Every record that a mapped record leads to maps too. -/
theorem Maps.of_reachable (hc : c.NamesDistinct) (hr : r ∈ c.records) (h : c.Maps r)
    (hreach : c.Reachable r s) : c.Maps s := by
  rw [maps_iff_reachable hc hr] at h
  rw [maps_iff_reachable hc (hreach.mem_records hr)]
  constructor
  · -- a record that some field refers to has fields, or that field's leaf is bad
    rcases ReflTransGen.cases_tail hreach with rfl | ⟨b, hb, f, hf, ht⟩
    · exact h.1
    · intro hnil
      exact h.2 b hb f hf s.name (badLeaf_of_target? ht hnil)
  · intro s' hreach'
    exact h.2 s' (hreach.trans hreach')

/-- In every catalog that registrations build, a record maps exactly if it
has fields and no record that it leads to has a field with a bad leaf; and
with a record, all that it leads to map. -/
theorem maps_iff_no_reachable_badLeaf (hc : c.Built) (hr : r ∈ c.records) :
    (c.Maps r ↔ r.fields ≠ [] ∧
      ∀ s, c.Reachable r s → ∀ f ∈ s.fields, ¬ ∃ text, c.BadLeaf f.type.leaf text) ∧
    (c.Maps r → ∀ s, c.Reachable r s → c.Maps s) := by
  constructor
  · rw [maps_iff_reachable hc.namesDistinct hr]
    simp only [not_exists]
  · intro h s hreach
    exact h.of_reachable hc.namesDistinct hr hreach

/-- A station with a track to the next. -/
def stationDecl : RecordDecl where
  name := "station"
  aliases := ["STATION"]
  fields := [⟨"exits", .array (.pointer (.record "Track"))⟩]

/-- A track that leads back to a station, which it calls by its alias. -/
def trackDecl : RecordDecl where
  name := "track"
  fields := [⟨"length", .primitive .double⟩, ⟨"end", .pointer (.record "STATION")⟩]

/-- Two records that refer to each other, by a title and by an alias. -/
def railway : Catalog :=
  empty.registerAll [.record stationDecl, .record trackDecl]

theorem built_railway : railway.Built :=
  ⟨empty, by simp, _, rfl⟩

theorem find?_railway : railway.find? "Track" = some trackDecl ∧
    railway.find? "STATION" = some stationDecl := by
  decide +kernel

theorem railway_maps : railway.Built ∧ stationDecl ∈ railway.records ∧
    railway.Maps stationDecl ∧ railway.Reachable stationDecl trackDecl ∧
    railway.Maps trackDecl := by
  have hmem : stationDecl ∈ railway.records := mem_of_find? find?_railway.2
  have hreach : railway.Reachable stationDecl trackDecl :=
    .single ⟨_, List.mem_cons_self, find?_railway.1⟩
  have hmaps : railway.Maps stationDecl := by
    rw [maps_iff_fault?_eq_none]
    simp [fault?_mapFields_eq_none_iff, fault?_mapType, FieldType.leaf, find?_railway,
      stationDecl, trackDecl]
  exact ⟨built_railway, hmem, hmaps, hreach,
    (maps_iff_no_reachable_badLeaf built_railway hmem).2 hmaps trackDecl hreach⟩

end Catalog

end DeclSchema
