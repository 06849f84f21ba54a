import DeclSchema.Proofs.Mapping
import Mathlib

/-!
Types that C writes alike.

Text has two forms of its own among the types, and C writes each of them
like a type that is put together from `char`: `char *` is also a pointer to
`char`, and `char[80]` is also an array of it. These two are the only ones.
A spelling is read from its end: the last character tells the outermost
layer, and what is left when the layer is taken off is the spelling of the
type under it. So types with one spelling are the same once text is written
out as pointers and arrays (`spelling_eq_iff`), and since the mapping does
not tell the two forms apart either, they have one schema.

All of this is about types that name nothing. A record may have any name,
also one that looks like another type.
-/

namespace DeclSchema

theorem Primitive.spelling_injective : Function.Injective Primitive.spelling := by
  intro p q h
  cases p <;> cases q <;> simp_all [Primitive.spelling]

/-- A list is cut at the last place where an element stands in it. -/
theorem append_cons_inj_of_notMem_right {α : Type} {a : α} {front front' back back' : List α}
    (hback : a ∉ back) (hback' : a ∉ back') (h : front ++ a :: back = front' ++ a :: back') :
    front = front' ∧ back = back' := by
  rcases List.append_eq_append_iff.mp h with ⟨middle, hfront, htail⟩ | ⟨middle, hfront, htail⟩
  · cases middle with
    | nil => simp_all
    | cons b middle =>
        obtain ⟨-, rfl⟩ := List.cons.inj htail
        exact absurd (by simp) hback
  · cases middle with
    | nil => simp_all
    | cons b middle =>
        obtain ⟨-, rfl⟩ := List.cons.inj htail
        exact absurd (by simp) hback'

namespace FieldType

variable {t u : FieldType}

/-- No part of the type is known by its name or its spelling only. -/
def NamesNothing (t : FieldType) : Prop :=
  ∀ name, t.leaf ≠ .record name ∧ t.leaf ≠ .opaqueType name ∧ t.leaf ≠ .unsupported name

/-! ### Text written out -/

/-- The type with text as a pointer to `char` or an array of it. -/
def writtenOut : FieldType → FieldType
  | cString => pointer (primitive .char)
  | charArray n => fixedArray (primitive .char) n
  | array e => array e.writtenOut
  | fixedArray e n => fixedArray e.writtenOut n
  | pointer t => pointer t.writtenOut
  | t => t

theorem spelling_writtenOut (t : FieldType) : t.writtenOut.spelling = t.spelling := by
  induction t with
  | charArray n =>
      have hopen : "char" ++ "[" = "char[" := by decide
      rw [writtenOut, spelling, spelling, spelling, Primitive.spelling, hopen]
  | array e ih => rw [writtenOut, spelling, spelling, ih]
  | fixedArray e n ih => rw [writtenOut, spelling, spelling, ih]
  | pointer t ih => rw [writtenOut, spelling, spelling, ih]
  | cString => decide
  | primitive | record | opaqueType | unsupported => rfl

theorem writtenOut_eq_primitive_iff {p : Primitive} :
    t.writtenOut = primitive p ↔ t = primitive p := by
  cases t <;> simp [writtenOut]

/-- The mapping does not tell the two forms of text apart, under whatever
layers they stand. -/
theorem mapType_writtenOut (c : Catalog) (visiting : List String) (t : FieldType) :
    mapType c visiting t.writtenOut = mapType c visiting t := by
  induction t with
  | cString | charArray => rfl
  | array e ih => rw [writtenOut, mapType_array, mapType_array, ih]
  | pointer t ih => rw [writtenOut, mapType_pointer, mapType_pointer, ih]
  | fixedArray e n ih =>
      rw [writtenOut]
      rcases mapType_fixedArray_cases c visiting e n with ⟨rfl, -, -⟩ | ⟨rfl, -⟩ | hmap
      · rfl
      · rfl
      · rcases mapType_fixedArray_cases c visiting e.writtenOut n with
          ⟨hprimitive, -, -⟩ | ⟨hprimitive, -⟩ | hmap'
        · obtain rfl := writtenOut_eq_primitive_iff.mp hprimitive
          rfl
        · obtain rfl := writtenOut_eq_primitive_iff.mp hprimitive
          rfl
        · rw [hmap, hmap', ih]
  | primitive | record | opaqueType | unsupported => rfl

/-- Layers over a scalar. -/
inductive IsWrittenOut : FieldType → Prop where
  | primitive (p : Primitive) : IsWrittenOut (.primitive p)
  | array {e : FieldType} (he : IsWrittenOut e) : IsWrittenOut (.array e)
  | fixedArray {e : FieldType} (n : Nat) (he : IsWrittenOut e) : IsWrittenOut (.fixedArray e n)
  | pointer {t : FieldType} (ht : IsWrittenOut t) : IsWrittenOut (.pointer t)

theorem isWrittenOut_writtenOut (h : t.NamesNothing) : IsWrittenOut t.writtenOut := by
  induction t with
  | primitive p => exact .primitive p
  | cString => exact .pointer (.primitive .char)
  | charArray n => exact .fixedArray n (.primitive .char)
  | array e ih => exact .array (ih h)
  | fixedArray e n ih => exact .fixedArray n (ih h)
  | pointer t ih => exact .pointer (ih h)
  | record name => exact absurd rfl (h name).1
  | opaqueType name => exact absurd rfl (h name).2.1
  | unsupported spelling => exact absurd rfl (h spelling).2.2

/-! ### Reading a spelling from its end -/

/-- The last character of the spelling of layers over a scalar. -/
def closing : FieldType → Option Char
  | primitive p => p.spelling.toList.getLast?
  | array _ => some '>'
  | fixedArray _ _ => some ']'
  | pointer _ => some '*'
  | _ => none

theorem getLast?_spelling (h : IsWrittenOut t) : t.spelling.toList.getLast? = t.closing := by
  cases h with
  | primitive p => rfl
  | array | fixedArray | pointer =>
      rw [spelling, String.toList_append, List.getLast?_append]
      rfl

theorem closing_eq_of_spelling_eq (ht : IsWrittenOut t) (hu : IsWrittenOut u)
    (h : t.spelling = u.spelling) : t.closing = u.closing := by
  rw [← getLast?_spelling ht, ← getLast?_spelling hu, h]

theorem closing_primitive_ne (p : Primitive) :
    (primitive p).closing ≠ some '>' ∧ (primitive p).closing ≠ some ']' ∧
      (primitive p).closing ≠ some '*' := by
  cases p <;> decide

theorem bracket_notMem_toString (n : Nat) : '[' ∉ (toString n).toList := by
  intro h
  rw [Nat.toString_eq_repr, Nat.toList_repr] at h
  exact absurd (Nat.isDigit_of_mem_toDigits (by decide) (by decide) h) (by decide)

/-- The length of an array is what stands after the last opening bracket. -/
theorem eq_of_spelling_fixedArray {m n : Nat}
    (h : (fixedArray t m).spelling = (fixedArray u n).spelling) :
    t.spelling = u.spelling ∧ m = n := by
  rw [spelling, spelling, String.append_left_inj, ← String.toList_inj] at h
  simp only [String.toList_append, List.append_assoc] at h
  obtain ⟨hspelling, hlength⟩ := append_cons_inj_of_notMem_right (bracket_notMem_toString m)
    (bracket_notMem_toString n) h
  refine ⟨String.toList_inj.mp hspelling, Nat.repr_injective ?_⟩
  rw [← Nat.toString_eq_repr, ← Nat.toString_eq_repr]
  exact String.toList_inj.mp hlength

theorem eq_of_spelling_eq (ht : IsWrittenOut t) (hu : IsWrittenOut u)
    (h : t.spelling = u.spelling) : t = u := by
  induction ht generalizing u with
  | primitive p =>
      have hclosing := closing_eq_of_spelling_eq (.primitive p) hu h
      obtain ⟨hvector, hbracket, hstar⟩ := closing_primitive_ne p
      cases hu with
      | primitive q => rw [Primitive.spelling_injective h]
      | array => exact absurd hclosing hvector
      | fixedArray => exact absurd hclosing hbracket
      | pointer => exact absurd hclosing hstar
  | array he ih =>
      have hclosing := closing_eq_of_spelling_eq (.array he) hu h
      cases hu with
      | array he' =>
          rw [spelling, spelling, String.append_left_inj, String.append_right_inj] at h
          rw [ih he' h]
      | primitive q => exact absurd hclosing.symm (closing_primitive_ne q).1
      | fixedArray | pointer => cases hclosing
  | fixedArray n he ih =>
      have hclosing := closing_eq_of_spelling_eq (.fixedArray n he) hu h
      cases hu with
      | fixedArray m he' =>
          obtain ⟨helement, rfl⟩ := eq_of_spelling_fixedArray h
          rw [ih he' helement]
      | primitive q => exact absurd hclosing.symm (closing_primitive_ne q).2.1
      | array | pointer => cases hclosing
  | pointer ht ih =>
      have hclosing := closing_eq_of_spelling_eq (.pointer ht) hu h
      cases hu with
      | pointer hu =>
          rw [spelling, spelling, String.append_left_inj] at h
          rw [ih hu h]
      | primitive q => exact absurd hclosing.symm (closing_primitive_ne q).2.2
      | array | fixedArray => cases hclosing

theorem spelling_eq_iff (ht : t.NamesNothing) (hu : u.NamesNothing) :
    t.spelling = u.spelling ↔ t.writtenOut = u.writtenOut := by
  rw [← spelling_writtenOut t, ← spelling_writtenOut u]
  constructor
  · exact eq_of_spelling_eq (isWrittenOut_writtenOut ht) (isWrittenOut_writtenOut hu)
  · exact congrArg spelling

/-! ### One schema -/

/-- A type that names nothing has a schema, and always the same. -/
theorem exists_mapType_eq_ok (h : t.NamesNothing) :
    ∃ node, ∀ c visiting, mapType c visiting t = .ok node := by
  have hok : fault? (mapType Catalog.empty [] t) = none := by
    rw [fault?_mapType]
    split
    · next name hleaf => exact absurd hleaf (h name).2.2
    · next name hleaf => exact absurd hleaf (h name).1
    · rfl
  obtain ⟨node, hnode⟩ := fault?_eq_none_iff.mp hok
  refine ⟨node, fun c visiting => ?_⟩
  rw [← hnode]
  apply mapType_eq_of_reference
  intro name hleaf
  exact absurd hleaf (h name).1

/-- Types that name nothing and that C writes alike have the same schema, in
every catalog and inside whatever records. -/
theorem same_spelling_same_schema (ht : t.NamesNothing) (hu : u.NamesNothing)
    (h : t.spelling = u.spelling) :
    ∃ node, ∀ c visiting, mapType c visiting t = .ok node ∧ mapType c visiting u = .ok node := by
  obtain ⟨node, hnode⟩ := exists_mapType_eq_ok ht
  refine ⟨node, fun c visiting => ⟨hnode c visiting, ?_⟩⟩
  have hsame : t.writtenOut = u.writtenOut := (spelling_eq_iff ht hu).mp h
  rw [← mapType_writtenOut, ← hsame, mapType_writtenOut, hnode]

/-- A sequence of pairs of texts, with the texts in either form. -/
theorem textPairs_same_schema :
    (array (fixedArray cString 2)).spelling = "std::vector<char *[2]>" ∧
      (array (fixedArray (pointer (primitive .char)) 2)).spelling = "std::vector<char *[2]>" ∧
      ∃ node, ∀ c visiting,
        mapType c visiting (array (fixedArray cString 2)) = .ok node ∧
          mapType c visiting (array (fixedArray (pointer (primitive .char)) 2)) = .ok node :=
  ⟨by decide +kernel, by decide +kernel, same_spelling_same_schema (fun _ => by simp [leaf])
    (fun _ => by simp [leaf]) (by decide +kernel)⟩

end FieldType

end DeclSchema
