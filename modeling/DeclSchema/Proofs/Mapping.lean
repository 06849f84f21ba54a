import DeclSchema.Mapping
import DeclSchema.Proofs.References
import Mathlib.Data.List.Forall2

/-!
When the mapping fails, and with what.

The mapping builds a schema or reports a fault. Most of what is said about
it is about the fault alone, and for that the schemas on the way do not
matter: `fault?` forgets them. What is left of the three functions is short.
A type fails as its leaf does, a leaf that enters a record fails as the
record's fields do, and fields fail as the first of them that fails.

Every argument about the mapping is an induction on the records it is not
inside of. `visiting_induction` is that induction: what is to be shown of a
type inside `visiting` may be assumed of the fields of every other record,
with that record visited too.
-/

namespace DeclSchema

variable {ε δ α β : Type}

/-- What an outcome reports if it is no success. -/
def fault? : Except ε α → Option ε
  | .ok _ => none
  | .error e => some e

@[simp] theorem fault?_ok (a : α) : fault? (.ok a : Except ε α) = none := rfl

@[simp] theorem fault?_error (e : ε) : fault? (.error e : Except ε α) = some e := rfl

@[simp] theorem fault?_map (f : α → β) (x : Except ε α) : fault? (x.map f) = fault? x := by
  cases x <;> rfl

@[simp] theorem fault?_mapError (f : ε → δ) (x : Except ε α) :
    fault? (x.mapError f) = (fault? x).map f := by
  cases x <;> rfl

theorem fault?_eq_none_iff {x : Except ε α} : fault? x = none ↔ ∃ a, x = .ok a := by
  cases x <;> simp

theorem fault?_eq_some_iff {x : Except ε α} {e : ε} : fault? x = some e ↔ x = .error e := by
  cases x <;> simp

theorem map_eq_ok_iff {f : α → β} {x : Except ε α} {b : β} :
    x.map f = .ok b ↔ ∃ a, x = .ok a ∧ f a = b := by
  cases x <;> simp [Except.map]

theorem mapError_eq_ok_iff {f : ε → δ} {x : Except ε α} {a : α} :
    x.mapError f = .ok a ↔ x = .ok a := by
  cases x <;> simp [Except.mapError]

section Mapping

open Catalog

variable {c : Catalog} {visiting : List String} {t : FieldType} {r : RecordDecl}
  {text : String}

/-- What is to be shown of a type inside `visiting` may be assumed of every
field of a record outside of it, inside that record too. -/
theorem visiting_induction {motive : List String → FieldType → Prop}
    (step : ∀ visiting t,
      (∀ r ∈ c.records, r.name ∉ visiting → ∀ f ∈ r.fields,
        motive (r.name :: visiting) f.type) → motive visiting t)
    (visiting : List String) (t : FieldType) : motive visiting t := by
  induction hn : c.unvisited visiting using Nat.strongRecOn
    generalizing visiting t with
  | _ n ih =>
      apply step
      intro r hr hv f _
      exact ih _ (hn ▸ unvisited_lt hr hv) _ _ rfl

/-! ### What the mapping does at each layer -/

@[simp] theorem mapType_primitive (p : Primitive) :
    mapType c visiting (.primitive p) = .ok p.toNode := rfl

@[simp] theorem mapType_cString : mapType c visiting .cString = .ok .text := rfl

@[simp] theorem mapType_charArray (n : Nat) :
    mapType c visiting (.charArray n) = .ok (.boundedText n) := rfl

@[simp] theorem mapType_array (e : FieldType) :
    mapType c visiting (.array e) = (mapType c visiting e).map .array := rfl

@[simp] theorem mapType_pointer (t : FieldType) :
    mapType c visiting (.pointer t) = mapType c visiting t := rfl

@[simp] theorem mapType_opaqueType (name : String) :
    mapType c visiting (.opaqueType name) = .ok .anyObject := rfl

@[simp] theorem mapType_unsupported (spelling : String) :
    mapType c visiting (.unsupported spelling) = .error spelling := rfl

/-- A reference enters its record unless the mapping is inside of it. -/
theorem mapType_record {name : String} (h : c.find? name = some r) :
    mapType c visiting (.record name) =
      if r.name ∈ visiting then .ok .anyObject else nested (mapFields c visiting r) := by
  change mapReference c visiting (fun r _ _ => mapFields c visiting r) name = _
  unfold mapReference
  split
  · next hnone => rw [h] at hnone; cases hnone
  · next s hsome =>
      rw [h, Option.some.injEq] at hsome
      subst hsome
      rfl

theorem mapType_record_unresolved {name : String} (h : c.find? name = none) :
    mapType c visiting (.record name) = .error name := by
  change mapReference c visiting (fun r _ _ => mapFields c visiting r) name = _
  unfold mapReference
  split
  · rfl
  · next s hsome => rw [h] at hsome; cases hsome

/-- Every array but the two special ones maps as its elements do. -/
theorem mapLayers_fixedArray {m : Type → Type} [Monad m] {visit : FieldType → m Unit}
    {reference : String → m (Except String Node)} {e : FieldType} {n : Nat}
    (htime : ¬(e = .primitive .int64 ∧ n = 1)) (hchar : e ≠ .primitive .char) :
    mapLayers visit reference (.fixedArray e n) = (do
      visit (.fixedArray e n)
      return (← mapLayers visit reference e).map .array) := by
  rw [mapLayers]
  · exact fun he hn => htime ⟨he, hn⟩
  · exact hchar

theorem mapType_fixedArray_cases (c : Catalog) (visiting : List String) (e : FieldType) (n : Nat) :
    (e = .primitive .int64 ∧ n = 1 ∧ mapType c visiting (.fixedArray e n) = .ok .timestamp) ∨
    (e = .primitive .char ∧ mapType c visiting (.fixedArray e n) = .ok (.boundedText n)) ∨
    mapType c visiting (.fixedArray e n) = (mapType c visiting e).map .array := by
  by_cases htime : e = .primitive .int64 ∧ n = 1
  · obtain ⟨rfl, rfl⟩ := htime
    exact .inl ⟨rfl, rfl, rfl⟩
  · by_cases hchar : e = .primitive .char
    · subst hchar
      exact .inr (.inl ⟨rfl, rfl⟩)
    · refine .inr (.inr ?_)
      rw [mapType, mapLayers_fixedArray htime hchar]
      rfl

theorem mapEach_nil : mapEach c visiting [] = .ok [] := rfl

theorem mapEach_cons (f : FieldDecl) (rest : List FieldDecl) :
    mapEach c visiting (f :: rest) =
      match mapType c visiting f.type with
      | .error cause => .error ⟨cause, some f.name⟩
      | .ok node => (mapEach c visiting rest).map ((Name.camelCase f.name, node) :: ·) := by
  change Id.run (mapInOrder (mapType c visiting) (f :: rest)) = _
  rw [mapInOrder]
  cases mapType c visiting f.type <;> rfl

theorem mapFields_eq (c : Catalog) (visiting : List String) (r : RecordDecl) :
    mapFields c visiting r =
      if r.fields.isEmpty then .error ⟨r.name, none⟩
      else (mapEach c (r.name :: visiting) r.fields).map Keyed.ofList := by
  rw [mapFields, mapComplete]
  split <;> rfl

/-! ### The same mapping in another monad -/

/-- `P x a` says that the computation `x` gives `a`, and this can be followed
from step to step. -/
structure Follows {m : Type → Type} [Monad m] (P : ∀ {α : Type}, m α → α → Prop) : Prop where
  pure : ∀ {α : Type} (a : α), P (pure a) a
  bind : ∀ {α β : Type} {x : m α} {f : α → m β} {a : α} {b : β},
    P x a → P (f a) b → P (x >>= f) b

namespace Follows

variable {m : Type → Type} [Monad m] {P : ∀ {α : Type}, m α → α → Prop}

/-- Only a reference is treated in a way of its own, so a type gives what it
maps to if the reference in it does. -/
theorem mapLayers (h : Follows P) {visit : FieldType → m Unit}
    {reference : String → m (Except String Node)} (hvisit : ∀ t, P (visit t) ())
    (href : ∀ name, t.leaf = .record name →
      P (reference name) (mapType c visiting (.record name))) :
    P (mapLayers visit reference t) (mapType c visiting t) := by
  induction t with
  | primitive | cString | charArray | opaqueType | unsupported =>
      exact h.bind (hvisit _) (h.pure _)
  | array e ih => exact h.bind (hvisit _) (h.bind (ih href) (h.pure _))
  | pointer t ih => exact h.bind (hvisit _) (ih href)
  | fixedArray e n ih =>
      by_cases htime : e = .primitive .int64 ∧ n = 1
      · obtain ⟨rfl, rfl⟩ := htime
        exact h.bind (hvisit _) (h.pure _)
      · by_cases hchar : e = .primitive .char
        · subst hchar
          exact h.bind (hvisit _) (h.pure _)
        · rw [mapType, mapLayers_fixedArray htime hchar, mapLayers_fixedArray htime hchar]
          exact h.bind (hvisit _) (h.bind (ih href) (h.pure _))
  | record name => exact h.bind (hvisit _) (href name rfl)

theorem mapInOrder (h : Follows P) {type : FieldType → m (Except String Node)}
    {fields : List FieldDecl} (htype : ∀ f ∈ fields, P (type f.type) (mapType c visiting f.type)) :
    P (mapInOrder type fields) (mapEach c visiting fields) := by
  induction fields with
  | nil => exact h.pure _
  | cons f rest ih =>
      rw [List.forall_mem_cons] at htype
      rw [mapEach_cons]
      refine h.bind htype.1 ?_
      cases mapType c visiting f.type with
      | error cause => exact h.pure _
      | ok node => exact h.bind (ih htype.2) (h.pure _)

theorem mapComplete (h : Follows P) {entries : m (Except FieldFault (List (String × Node)))}
    (hentries : P entries (mapEach c (r.name :: visiting) r.fields)) :
    P (mapComplete r entries) (mapFields c visiting r) := by
  rw [mapFields_eq, DeclSchema.mapComplete]
  split
  · exact h.pure _
  · exact h.bind hentries (h.pure _)

end Follows

theorem follows_id : Follows fun {α} (x : Id α) (a : α) => x.run = a where
  pure _ := rfl
  bind := by
    rintro α β x f a b rfl rfl
    rfl

/-- Only a reference makes the mapping look at its catalog or at the records
it is inside of, so a type maps alike wherever the reference in it does. -/
theorem mapType_eq_of_reference {d : Catalog} {visiting' : List String}
    (h : ∀ name, t.leaf = .record name →
      mapType c visiting (.record name) = mapType d visiting' (.record name)) :
    mapType c visiting t = mapType d visiting' t :=
  follows_id.mapLayers (fun _ => rfl) h

/-! ### Success -/

/-- Fields that map give one entry each, in order: the property name of the
field and the schema of its type. -/
theorem mapEach_eq_ok_iff {fields : List FieldDecl} {entries : List (String × Node)} :
    mapEach c visiting fields = .ok entries ↔
      List.Forall₂ (fun f e => e.1 = Name.camelCase f.name ∧ mapType c visiting f.type = .ok e.2)
        fields entries := by
  induction fields generalizing entries with
  | nil => rw [mapEach_nil, List.forall₂_nil_left_iff, Except.ok.injEq, eq_comm]
  | cons f rest ih =>
      rw [mapEach_cons, List.forall₂_cons_left_iff]
      cases htype : mapType c visiting f.type with
      | error cause => simp
      | ok node =>
          cases hrest : mapEach c visiting rest with
          | error fault => simp [Except.map, ← ih, hrest]
          | ok tail =>
              simp only [Except.map, Except.ok.injEq, ← ih, hrest]
              constructor
              · rintro rfl
                exact ⟨_, _, ⟨rfl, rfl⟩, rfl, rfl⟩
              · rintro ⟨⟨key, node'⟩, tail', ⟨rfl, rfl⟩, rfl, rfl⟩
                rfl

theorem exists_field_of_mem_entries {fields : List FieldDecl} {entries : List (String × Node)}
    (h : mapEach c visiting fields = .ok entries) {e : String × Node} (he : e ∈ entries) :
    ∃ f ∈ fields, e.1 = Name.camelCase f.name ∧ mapType c visiting f.type = .ok e.2 := by
  rw [mapEach_eq_ok_iff] at h
  induction h with
  | nil => cases he
  | cons hfirst _ ih =>
      rcases List.mem_cons.mp he with rfl | he
      · exact ⟨_, List.mem_cons_self, hfirst⟩
      · obtain ⟨f, hf, hmapped⟩ := ih he
        exact ⟨f, List.mem_cons_of_mem _ hf, hmapped⟩

theorem mapFields_eq_ok_iff {properties : Keyed Node} :
    mapFields c visiting r = .ok properties ↔
      r.fields ≠ [] ∧ ∃ entries, mapEach c (r.name :: visiting) r.fields = .ok entries ∧
        properties = Keyed.ofList entries := by
  rw [mapFields_eq]
  by_cases h : r.fields = []
  · simp [h]
  · rw [if_neg (by simpa using h)]
    cases mapEach c (r.name :: visiting) r.fields <;> simp [Except.map, h, eq_comm]

/-- The properties of a record are never none. -/
theorem properties_ne_nil {properties : Keyed Node}
    (h : mapFields c visiting r = .ok properties) : properties ≠ [] := by
  obtain ⟨hfields, entries, hentries, rfl⟩ := mapFields_eq_ok_iff.mp h
  apply Keyed.ofList_ne_nil
  rintro rfl
  exact hfields (List.forall₂_nil_right_iff.mp (mapEach_eq_ok_iff.mp hentries))

/-- Every property is the schema of a field. -/
theorem exists_field_of_mem_properties {properties : Keyed Node} {e : String × Node}
    (h : mapFields c visiting r = .ok properties) (he : e ∈ properties) :
    ∃ f ∈ r.fields, e.1 = Name.camelCase f.name ∧
      mapType c (r.name :: visiting) f.type = .ok e.2 := by
  obtain ⟨-, entries, hentries, rfl⟩ := mapFields_eq_ok_iff.mp h
  exact exists_field_of_mem_entries hentries (Keyed.mem_of_mem_ofList he)

/-- What is to be shown of every schema inside `visiting` follows layer by
layer; of an object it may be assumed of each property inside the record
that is entered. -/
theorem mapped_induction {motive : List String → Node → Prop}
    (primitive : ∀ visiting p, motive visiting (Primitive.toNode p))
    (boundedText : ∀ visiting n, motive visiting (.boundedText n))
    (timestamp : ∀ visiting, motive visiting .timestamp)
    (anyObject : ∀ visiting, motive visiting .anyObject)
    (array : ∀ visiting items, motive visiting items → motive visiting (.array items))
    (object : ∀ visiting, ∀ r ∈ c.records, r.name ∉ visiting → ∀ properties,
      mapFields c visiting r = .ok properties →
      (∀ e ∈ properties, motive (r.name :: visiting) e.2) → motive visiting (.object properties))
    {node : Node} (h : mapType c visiting t = .ok node) : motive visiting node := by
  induction visiting, t using visiting_induction (c := c) generalizing node with
  | step visiting t ihrecords =>
      -- layers stay inside the same records, only a reference enters another
      induction t generalizing node with
      | primitive p =>
          rw [mapType_primitive, Except.ok.injEq] at h
          exact h ▸ primitive visiting p
      | cString =>
          rw [mapType_cString, Except.ok.injEq] at h
          exact h ▸ primitive visiting .char
      | charArray n =>
          rw [mapType_charArray, Except.ok.injEq] at h
          exact h ▸ boundedText visiting n
      | opaqueType name =>
          rw [mapType_opaqueType, Except.ok.injEq] at h
          exact h ▸ anyObject visiting
      | unsupported spelling =>
          rw [mapType_unsupported] at h
          cases h
      | array e ih =>
          rw [mapType_array, map_eq_ok_iff] at h
          obtain ⟨items, hitems, rfl⟩ := h
          exact array visiting items (ih hitems)
      | fixedArray e n ih =>
          rcases mapType_fixedArray_cases c visiting e n with ⟨-, -, hmap⟩ | ⟨-, hmap⟩ | hmap
          · rw [hmap, Except.ok.injEq] at h
            exact h ▸ timestamp visiting
          · rw [hmap, Except.ok.injEq] at h
            exact h ▸ boundedText visiting n
          · rw [hmap, map_eq_ok_iff] at h
            obtain ⟨items, hitems, rfl⟩ := h
            exact array visiting items (ih hitems)
      | pointer t ih =>
          rw [mapType_pointer] at h
          exact ih h
      | record name =>
          cases hfind : c.find? name with
          | none =>
              rw [mapType_record_unresolved hfind] at h
              cases h
          | some r =>
              rw [mapType_record hfind] at h
              split at h
              · rw [Except.ok.injEq] at h
                exact h ▸ anyObject visiting
              · next hv =>
                  rw [nested, mapError_eq_ok_iff, map_eq_ok_iff] at h
                  obtain ⟨properties, hproperties, rfl⟩ := h
                  have hr := mem_of_find? hfind
                  refine object visiting r hr hv properties hproperties fun e he => ?_
                  obtain ⟨f, hf, -, hmapped⟩ := exists_field_of_mem_properties hproperties he
                  exact ihrecords r hr hv f hf hmapped

/-! ### Faults -/

/-- The special arrays are of elements that map, so an array fails as its
elements do, whatever its length. -/
theorem fault?_mapType_fixedArray (e : FieldType) (n : Nat) :
    fault? (mapType c visiting (.fixedArray e n)) = fault? (mapType c visiting e) := by
  rcases mapType_fixedArray_cases c visiting e n with ⟨rfl, -, h⟩ | ⟨rfl, h⟩ | h
  · rw [h, mapType_primitive, fault?_ok, fault?_ok]
  · rw [h, mapType_primitive, fault?_ok, fault?_ok]
  · rw [h, fault?_map]

/-- A type fails as its leaf does. -/
theorem fault?_mapType (t : FieldType) :
    fault? (mapType c visiting t) =
      match t.leaf with
      | .unsupported spelling => some spelling
      | .record name =>
          match c.find? name with
          | none => some name
          | some r =>
              if r.name ∈ visiting then none else (fault? (mapFields c visiting r)).map (·.cause)
      | _ => none := by
  induction t with
  | array e ih => rw [mapType_array, fault?_map, ih]; rfl
  | fixedArray e n ih => rw [fault?_mapType_fixedArray, ih]; rfl
  | pointer t ih => rw [mapType_pointer, ih]; rfl
  | record name =>
      simp only [FieldType.leaf]
      split
      · next hnone => rw [mapType_record_unresolved hnone, fault?_error]
      · next r hsome =>
          rw [mapType_record hsome]
          split <;> simp [nested]
  | primitive | cString | charArray | opaqueType | unsupported => rfl

/-- A type that names a record fails as the fields of that record do, unless
the mapping is inside of it. -/
theorem fault?_mapType_of_target? (h : c.target? t = some r) :
    fault? (mapType c visiting t) =
      if r.name ∈ visiting then none else (fault? (mapFields c visiting r)).map (·.cause) := by
  obtain ⟨name, hleaf, hfind⟩ := target?_eq_some_iff.mp h
  rw [fault?_mapType, hleaf]
  simp only [hfind]

/-- A type that names no record fails exactly if its leaf is bad. -/
theorem fault?_mapType_eq_some_iff_badLeaf (h : c.target? t = none) :
    fault? (mapType c visiting t) = some text ↔ c.BadLeaf t.leaf text := by
  rw [fault?_mapType]
  unfold target? at h
  cases hleaf : t.leaf with
  | unsupported spelling =>
      simp only [Option.some.injEq]
      constructor
      · rintro rfl
        exact .unsupported spelling
      · intro hb
        cases hb
        rfl
  | record name =>
      simp only [hleaf] at h
      simp only [h, Option.some.injEq]
      constructor
      · rintro rfl
        exact .unresolved h
      · intro hb
        cases hb with
        | unresolved _ => rfl
        | fieldless hsome _ => rw [h] at hsome; cases hsome
  | primitive | cString | charArray | array | fixedArray | pointer | opaqueType =>
      simp only [reduceCtorEq, false_iff]
      intro hb
      cases hb

/-- Fields fail as the first of them that fails. -/
theorem fault?_mapEach (fields : List FieldDecl) :
    fault? (mapEach c visiting fields) =
      fields.findSome? fun f =>
        (fault? (mapType c visiting f.type)).map fun cause => ⟨cause, some f.name⟩ := by
  induction fields with
  | nil => rfl
  | cons f rest ih =>
      rw [mapEach_cons, List.findSome?_cons]
      cases mapType c visiting f.type with
      | error cause => rfl
      | ok node => simp [ih]

theorem fault?_mapFields_of_nil (h : r.fields = []) :
    fault? (mapFields c visiting r) = some ⟨r.name, none⟩ := by
  rw [mapFields_eq, h]
  rfl

/-- A record with fields fails as the first of its fields that fails inside
of it. -/
theorem fault?_mapFields (h : r.fields ≠ []) :
    fault? (mapFields c visiting r) =
      r.fields.findSome? fun f =>
        (fault? (mapType c (r.name :: visiting) f.type)).map fun cause =>
          ⟨cause, some f.name⟩ := by
  rw [mapFields_eq, if_neg (by simpa using h), fault?_map, fault?_mapEach]

/-- A record maps exactly if it has fields and each maps inside of it. -/
theorem fault?_mapFields_eq_none_iff :
    fault? (mapFields c visiting r) = none ↔
      r.fields ≠ [] ∧ ∀ f ∈ r.fields, fault? (mapType c (r.name :: visiting) f.type) = none := by
  by_cases h : r.fields = []
  · simp [fault?_mapFields_of_nil h, h]
  · simp [fault?_mapFields h, h]

end Mapping

end DeclSchema
