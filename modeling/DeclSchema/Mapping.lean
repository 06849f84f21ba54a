import DeclSchema.Catalog
import DeclSchema.Schema

/-!
From field types to schemas.

Layers map to layers and leaves to leaves, with three rules of their own:
one `long long` in an array is a point in time, an array of `char` is
bounded text, and a pointer is what it points to. A type maps unless a
leaf of it has no schema, and then the mapping names that leaf.

A reference to a record maps to the schema of its fields. Records may
refer to each other in circles, so the mapping carries the names of the
records it is inside of, `visiting`, and does not enter one of them again:
such a reference is an object about which nothing more is said. This is
also why the mapping ends. Each time it enters a record, one more name of
the catalog is on the list (`unvisited_lt`), and between two entries it
only goes down in a type.

What the mapping does with the layers of a type, with fields and with a
record has nothing to do with how it keeps that list, so it is written once
for any monad (`mapLayers`, `mapInOrder`, `mapComplete`), with the way to
treat a reference as an argument.
-/

namespace DeclSchema

structure FieldFault where
  cause : String
  /-- The first field that leads to it, or none if the record has no
  fields at all. -/
  field : Option String
  deriving DecidableEq, Repr

namespace Catalog

def unvisited (c : Catalog) (visiting : List String) : Nat :=
  (c.records.filter fun r => !visiting.contains r.name).length

theorem unvisited_lt {c : Catalog} {visiting : List String} {r : RecordDecl}
    (hr : r ∈ c.records) (hv : r.name ∉ visiting) :
    c.unvisited (r.name :: visiting) < c.unvisited visiting := by
  unfold unvisited
  have hsub : (c.records.filter fun s => !(r.name :: visiting).contains s.name) =
      ((c.records.filter fun s => !visiting.contains s.name).filter fun s => s.name != r.name) := by
    rw [List.filter_filter]
    congr 1
    funext s
    simp only [List.contains_cons, Bool.not_or, bne]
  rw [hsub]
  refine Nat.lt_of_le_of_ne (List.length_filter_le _ _) fun heq => ?_
  have hall := List.length_filter_eq_length_iff.1 heq
  have := hall r (List.mem_filter.2 ⟨hr, by simpa using hv⟩)
  simp at this

end Catalog

section Traversal

variable {m : Type → Type} [Monad m]

/-- The schema of a type, or the spelling of the leaf that has none. `visit`
is done at every layer, and `reference` gives the schema for the name of a
record. -/
def mapLayers (visit : FieldType → m Unit) (reference : String → m (Except String Node))
    (t : FieldType) : m (Except String Node) := do
  visit t
  match t with
  | .primitive p => return .ok p.toNode
  | .cString => return .ok .text
  | .charArray n => return .ok (.boundedText n)
  | .array e => return (← mapLayers visit reference e).map .array
  -- The two special arrays come before the general one.
  | .fixedArray (.primitive .int64) 1 => return .ok .timestamp
  | .fixedArray (.primitive .char) n => return .ok (.boundedText n)
  | .fixedArray e _ => return (← mapLayers visit reference e).map .array
  | .pointer t => mapLayers visit reference t
  | .opaqueType _ => return .ok .anyObject
  | .unsupported s => return .error s
  | .record name => reference name

def mapInOrder (type : FieldType → m (Except String Node)) :
    List FieldDecl → m (Except FieldFault (List (String × Node)))
  | [] => return .ok []
  | f :: rest => do
      match ← type f.type with
      | .error cause => return .error ⟨cause, some f.name⟩
      | .ok node => return (← mapInOrder type rest).map ((Name.camelCase f.name, node) :: ·)

/-- The properties of a record that `entries` goes through. A record with no
fields is incomplete and has no schema. -/
def mapComplete (r : RecordDecl) (entries : m (Except FieldFault (List (String × Node)))) :
    m (Except FieldFault (Keyed Node)) := do
  if r.fields.isEmpty then return .error ⟨r.name, none⟩
  else return (← entries).map Keyed.ofList

end Traversal

def nested (properties : Except FieldFault (Keyed Node)) : Except String Node :=
  (properties.map .object).mapError (·.cause)

/-- The schema of a reference inside the records of `visiting`, none of which
is entered again. -/
def mapReference (c : Catalog) (visiting : List String)
    (enter : (r : RecordDecl) → r ∈ c.records → r.name ∉ visiting →
      Except FieldFault (Keyed Node)) (name : String) : Except String Node :=
  match h : c.find? name with
  | none => .error name
  | some r =>
      if hv : r.name ∈ visiting then .ok .anyObject
      else nested (enter r (Catalog.mem_of_find? h) hv)

def mapFields (c : Catalog) (visiting : List String) (r : RecordDecl) :
    Except FieldFault (Keyed Node) :=
  let reference := mapReference c (r.name :: visiting) fun s _ _ =>
    mapFields c (r.name :: visiting) s
  Id.run (mapComplete r (mapInOrder (mapLayers (fun _ => pure ()) reference) r.fields))
termination_by c.unvisited (r.name :: visiting)
decreasing_by exact Catalog.unvisited_lt ‹_› ‹_›

/-- The schema of a type inside the records of `visiting`, or the spelling of
the leaf that has none. -/
def mapType (c : Catalog) (visiting : List String) (t : FieldType) : Except String Node :=
  Id.run (mapLayers (fun _ => pure ())
    (mapReference c visiting fun r _ _ => mapFields c visiting r) t)

def mapEach (c : Catalog) (visiting : List String) (fields : List FieldDecl) :
    Except FieldFault (List (String × Node)) :=
  Id.run (mapInOrder (mapType c visiting) fields)

end DeclSchema
