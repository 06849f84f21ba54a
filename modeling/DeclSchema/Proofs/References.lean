import DeclSchema.Proofs.Registration
import Mathlib.Logic.Relation

/-!
Who refers to whom in a catalog, and where a reference ends badly.

A field refers to a record when the leaf under its pointers and arrays names
that record in one of the three ways a name can be found. References may
run in circles. A leaf is bad when nothing can be said about it: it is
unsupported, it names no record, or it names a record without fields.

`Reaches visiting t text` is what a mapping inside the records of `visiting`
has to look out for: a bad leaf, told as `text`, that can be reached from
`t` without entering any of those records. The one fact with content is
`Reaches.restart`. If a bad leaf can be reached at all, then going round a
circle through a record `r` is never needed for it: it can be reached
without passing `r`, or else from a field of `r` without passing `r` again.
-/

namespace DeclSchema.Catalog

open Relation

variable {c : Catalog} {r s : RecordDecl} {t : FieldType} {text : String}
  {visiting : List String}

/-- The record that the leaf of a type names. -/
def target? (c : Catalog) (t : FieldType) : Option RecordDecl :=
  match t.leaf with
  | .record name => c.find? name
  | _ => none

theorem target?_eq_some_iff :
    c.target? t = some r ↔ ∃ name, t.leaf = .record name ∧ c.find? name = some r := by
  unfold target?
  split
  · next name hleaf => simp [hleaf]
  · next hleaf =>
      constructor
      · intro h
        cases h
      · rintro ⟨name, heq, -⟩
        exact (hleaf name heq).elim

theorem mem_of_target? (h : c.target? t = some r) : r ∈ c.records := by
  obtain ⟨name, -, hfind⟩ := target?_eq_some_iff.mp h
  exact mem_of_find? hfind

/-- A field of the first record has a leaf that names the second. -/
def Refers (c : Catalog) (r s : RecordDecl) : Prop :=
  ∃ f ∈ r.fields, c.target? f.type = some s

/-- The second record is the first or is reached from it by any number of
references. -/
def Reachable (c : Catalog) (r s : RecordDecl) : Prop :=
  ReflTransGen c.Refers r s

theorem Reachable.mem_records (h : c.Reachable r s) (hr : r ∈ c.records) : s ∈ c.records := by
  induction h with
  | refl => exact hr
  | tail _ hrefers _ =>
      obtain ⟨f, -, ht⟩ := hrefers
      exact mem_of_target? ht

/-- A leaf that has no schema, and the text that tells which it is. -/
inductive BadLeaf (c : Catalog) : FieldType → String → Prop
  | unsupported (spelling : String) : BadLeaf c (.unsupported spelling) spelling
  | unresolved {name : String} (h : c.find? name = none) : BadLeaf c (.record name) name
  | fieldless {name : String} {r : RecordDecl} (h : c.find? name = some r)
      (hr : r.fields = []) : BadLeaf c (.record name) r.name

/-- A leaf that names a record is bad only if that record has no fields. -/
theorem BadLeaf.of_target? (hb : c.BadLeaf t.leaf text) (h : c.target? t = some r) :
    r.fields = [] ∧ text = r.name := by
  obtain ⟨name, hleaf, hfind⟩ := target?_eq_some_iff.mp h
  rw [hleaf] at hb
  cases hb with
  | unresolved hnone => rw [hnone] at hfind; cases hfind
  | fieldless hsome hfields =>
      rw [hsome, Option.some.injEq] at hfind
      subst hfind
      exact ⟨hfields, rfl⟩

theorem badLeaf_of_target? (h : c.target? t = some r) (hr : r.fields = []) :
    c.BadLeaf t.leaf r.name := by
  obtain ⟨name, hleaf, hfind⟩ := target?_eq_some_iff.mp h
  rw [hleaf]
  exact .fieldless hfind hr

/-- From the type a bad leaf can be reached, told as `text`, and no record
that is entered on the way is one of `visiting`. -/
inductive Reaches (c : Catalog) (visiting : List String) : FieldType → String → Prop
  | here {t : FieldType} {text : String} (hb : c.BadLeaf t.leaf text)
      (hv : ∀ r, c.target? t = some r → r.name ∉ visiting) : Reaches c visiting t text
  | through {t : FieldType} {r : RecordDecl} {f : FieldDecl} {text : String}
      (ht : c.target? t = some r) (hv : r.name ∉ visiting) (hf : f ∈ r.fields)
      (hrest : Reaches c visiting f.type text) : Reaches c visiting t text

/-- With fewer records to keep out of, as much can be reached. -/
theorem Reaches.mono {fewer : List String} (h : c.Reaches visiting t text)
    (hsub : fewer ⊆ visiting) : c.Reaches fewer t text := by
  induction h with
  | here hb hv => exact .here hb fun r ht hmem => hv r ht (hsub hmem)
  | through ht hv hf _ ih => exact .through ht (fun hmem => hv (hsub hmem)) hf ih

/-- What can be reached at all can be reached without passing `r`, or from a
field of `r` without passing `r` again. -/
theorem Reaches.restart (hc : c.NamesDistinct) (hr : r ∈ c.records) (hfields : r.fields ≠ [])
    (h : c.Reaches visiting t text) :
    c.Reaches (r.name :: visiting) t text ∨
      ∃ f ∈ r.fields, c.Reaches (r.name :: visiting) f.type text := by
  induction h with
  | here hb hv =>
      refine .inl (.here hb fun s ht hmem => ?_)
      rcases List.mem_cons.mp hmem with hname | hmem
      · -- the leaf would name `r` itself, which has fields
        have hs := hc.eq_of_name_eq (mem_of_target? ht) hr hname
        exact hfields (hs ▸ (hb.of_target? ht).1)
      · exact hv s ht hmem
  | @through t s f text ht hv hf _ ih =>
      rcases ih with hrest | hagain
      · by_cases hname : s.name = r.name
        · -- the walk is at `r` for the last time: start over from this field
          have hs := hc.eq_of_name_eq (mem_of_target? ht) hr hname
          exact .inr ⟨f, hs ▸ hf, hrest⟩
        · exact .inl (.through ht (by simp [hname, hv]) hf hrest)
      · exact .inr hagain

/-- A bad leaf that can be reached stands at the type itself or in a field of
a record that the type's target leads to. -/
theorem Reaches.exists_badLeaf (h : c.Reaches visiting t text) :
    c.BadLeaf t.leaf text ∨
      ∃ r s, c.target? t = some r ∧ c.Reachable r s ∧
        ∃ f ∈ s.fields, c.BadLeaf f.type.leaf text := by
  induction h with
  | here hb _ => exact .inl hb
  | @through t r f text ht _ hf _ ih =>
      rcases ih with hb | ⟨r', s, ht', hreach, hbad⟩
      · exact .inr ⟨r, r, ht, .refl, f, hf, hb⟩
      · exact .inr ⟨r, s, ht, hreach.head ⟨f, hf, ht'⟩, hbad⟩

/-- Some field of a record reaches a bad leaf exactly if some record that it
leads to has a field with that bad leaf. -/
theorem exists_reaches_iff_reachable :
    (∃ f ∈ r.fields, c.Reaches [] f.type text) ↔
      ∃ s, c.Reachable r s ∧ ∃ f ∈ s.fields, c.BadLeaf f.type.leaf text := by
  constructor
  · rintro ⟨f, hf, h⟩
    rcases h.exists_badLeaf with hb | ⟨r', s, ht, hreach, hbad⟩
    · exact ⟨r, .refl, f, hf, hb⟩
    · exact ⟨s, hreach.head ⟨f, hf, ht⟩, hbad⟩
  · rintro ⟨s, hreach, f, hf, hb⟩
    induction hreach using ReflTransGen.head_induction_on with
    | refl => exact ⟨f, hf, .here hb (by simp)⟩
    | head hrefers _ ih =>
        obtain ⟨g, hg, ht⟩ := hrefers
        obtain ⟨f', hf', hrest⟩ := ih
        exact ⟨g, hg, .through ht (by simp) hf' hrest⟩

end DeclSchema.Catalog
