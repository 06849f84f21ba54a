import DeclSchema.Proofs.Mapping

/-!
The mapping as a walk that keeps a stack.

`mapType` is handed the records it is inside of and needs no bound. Here is
the same traversal as a machine that has only one stack, on which it pushes
a record before its fields and from which it pops it after them, that
writes down every type and every record it comes to, and that gives up when
the fields of more than `depth` records are open at once. It is what makes
statements about the visits themselves possible: how deep they nest, what
is on the stack at each of them, and what is left on it at the end.

`Runs P m before a after` is the judgment about such a machine: started on
the stack `before` it does not give up, it ends with `a` on the stack
`after`, and each visit it makes has `P`. One rule per operation is enough to
follow the walk. What comes out is that it is the mapping
(`walkType_runs`, `walkFields_runs`): with room for the records that are not
being visited it never gives up, its result is that of `mapType`, the stack
ends as it began, and what holds of the first stack and is kept by pushing a
new record holds at every visit.
-/

namespace DeclSchema

/-- A visit of the walk to a type or to a record's fields, with the stack it
starts on. -/
inductive Visit where
  | type (visiting : List String) (t : FieldType)
  | fields (visiting : List String) (r : RecordDecl)

/-- The stack of a walk, innermost record first, and the visits it has made
so far, the first one first. -/
structure WalkState where
  visiting : List String
  visits : List Visit

/-- A walk gives up as `none`. -/
abbrev Walk (α : Type) := StateT WalkState Option α

namespace Walk

variable {α β : Type}

def note (visit : List String → Visit) : Walk Unit :=
  modify fun s => { s with visits := s.visits ++ [visit s.visiting] }

def stack : Walk (List String) :=
  return (← get).visiting

def push (name : String) : Walk Unit :=
  modify fun s => { s with visiting := name :: s.visiting }

def pop : Walk Unit :=
  modify fun s => { s with visiting := s.visiting.tail }

/-- Started on the stack `before` the walk ends with `a` on the stack
`after`, and each visit it makes has `P`. -/
def Runs (P : Visit → Prop) (m : Walk α) (before : List String) (a : α) (after : List String) :
    Prop :=
  ∀ visits, ∃ made, m.run ⟨before, visits⟩ = some (a, ⟨after, visits ++ made⟩) ∧
    ∀ visit ∈ made, P visit

section Rules

variable {P : Visit → Prop} {before middle after : List String}

theorem Runs.pure (a : α) : Runs P (pure a) before a before := by
  intro visits
  exact ⟨[], by simp, by simp⟩

theorem Runs.bind {m : Walk α} {f : α → Walk β} {a : α} {b : β} (hm : Runs P m before a middle)
    (hf : Runs P (f a) middle b after) : Runs P (m >>= f) before b after := by
  intro visits
  obtain ⟨made, hrun, hP⟩ := hm visits
  obtain ⟨made', hrun', hP'⟩ := hf (visits ++ made)
  refine ⟨made ++ made', ?_, ?_⟩
  · rw [StateT.run_bind, hrun, Option.bind_eq_bind, Option.bind_some, hrun', List.append_assoc]
  · intro visit hvisit
    rcases List.mem_append.mp hvisit with hvisit | hvisit
    · exact hP visit hvisit
    · exact hP' visit hvisit

theorem Runs.note {visit : List String → Visit} (h : P (visit before)) :
    Runs P (note visit) before () before := by
  intro visits
  exact ⟨[visit before], rfl, by simpa using h⟩

theorem Runs.stack : Runs P stack before before before := by
  intro visits
  exact ⟨[], by simp [Walk.stack], by simp⟩

theorem Runs.push (name : String) : Runs P (push name) before () (name :: before) := by
  intro visits
  exact ⟨[], by simp [Walk.push], by simp⟩

theorem Runs.pop {name : String} : Runs P pop (name :: before) () before := by
  intro visits
  exact ⟨[], by simp [Walk.pop], by simp⟩

end Rules

end Walk

/-! ### The walk -/

open Walk

/-- The schema of a reference. `enter` is how the walk goes through the fields
of a record that is not on its stack. -/
def walkReference (c : Catalog) (enter : RecordDecl → Walk (Except FieldFault (Keyed Node)))
    (name : String) : Walk (Except String Node) :=
  match c.find? name with
  | none => return .error name
  | some r => do
      if r.name ∈ (← stack) then return .ok .anyObject
      else return nested (← enter r)

def walkType (c : Catalog) (enter : RecordDecl → Walk (Except FieldFault (Keyed Node)))
    (t : FieldType) : Walk (Except String Node) :=
  mapLayers (fun t => note (.type · t)) (walkReference c enter) t

/-- The fields of a record, with the record on the stack. -/
def walkInside (c : Catalog) (enter : RecordDecl → Walk (Except FieldFault (Keyed Node)))
    (r : RecordDecl) : Walk (Except FieldFault (List (String × Node))) := do
  push r.name
  let entries ← mapInOrder (walkType c enter) r.fields
  pop
  return entries

/-- The schemas of a record's fields, with at most `depth` visits of this kind
open at once. -/
def walkFields (c : Catalog) : (depth : Nat) → RecordDecl → Walk (Except FieldFault (Keyed Node))
  | 0, _ => failure
  | depth + 1, r => do
      note (.fields · r)
      mapComplete r (walkInside c (walkFields c depth) r)

/-! ### The walk is the mapping -/

section Mapping

open Catalog

variable {c : Catalog} {visiting : List String}
  {enter : RecordDecl → Walk (Except FieldFault (Keyed Node))} {P : Visit → Prop}

/-- What ends on the stack it began on can be followed from step to step. -/
theorem follows_runs (P : Visit → Prop) (visiting : List String) :
    Follows fun {α} (m : Walk α) (a : α) => Runs P m visiting a visiting where
  pure := Runs.pure
  bind := Runs.bind

/-- If the walk through a record is the mapping of its fields, the walk
through a type is the mapping of the type. -/
theorem walkType_runs (htype : ∀ t, P (.type visiting t))
    (henter : ∀ r ∈ c.records, r.name ∉ visiting →
      Runs P (enter r) visiting (mapFields c visiting r) visiting) (t : FieldType) :
    Runs P (walkType c enter t) visiting (mapType c visiting t) visiting := by
  refine (follows_runs P visiting).mapLayers (fun t => Runs.note (htype t)) fun name _ => ?_
  rw [walkReference]
  cases hfind : c.find? name with
  | none =>
      rw [mapType_record_unresolved hfind]
      exact .pure _
  | some r =>
      rw [mapType_record hfind]
      refine Runs.stack.bind ?_
      split
      · exact .pure _
      · next hv => exact (henter r (mem_of_find? hfind) hv).bind (.pure _)

theorem walkInside_runs {r : RecordDecl} (htype : ∀ t, P (.type (r.name :: visiting) t))
    (henter : ∀ s ∈ c.records, s.name ∉ r.name :: visiting →
      Runs P (enter s) (r.name :: visiting) (mapFields c (r.name :: visiting) s)
        (r.name :: visiting)) :
    Runs P (walkInside c enter r) visiting (mapEach c (r.name :: visiting) r.fields) visiting := by
  have hentries := (follows_runs P (r.name :: visiting)).mapInOrder
    fun f (_ : f ∈ r.fields) => walkType_runs htype henter f.type
  exact (Runs.push r.name).bind (hentries.bind (Runs.pop.bind (.pure _)))

/-- What is asked of a visit when `I` is to hold of every stack: the stack has
it, and a record whose fields are mapped is of the catalog and not on the
stack. -/
def Visit.Within (c : Catalog) (I : List String → Prop) : Visit → Prop
  | .type visiting _ => I visiting
  | .fields visiting r => I visiting ∧ r ∈ c.records ∧ r.name ∉ visiting

variable {I : List String → Prop}

/-- With room for every record that is not being visited the walk through a
record is the mapping of its fields. What holds of a stack and is kept by
pushing a new record holds at every visit. -/
theorem walkFields_runs
    (hpush : ∀ visiting, ∀ r ∈ c.records, I visiting → r.name ∉ visiting → I (r.name :: visiting))
    (depth : Nat) {visiting : List String} (hI : I visiting) (hroom : c.unvisited visiting ≤ depth)
    {r : RecordDecl} (hr : r ∈ c.records) (hv : r.name ∉ visiting) :
    Runs (Visit.Within c I) (walkFields c depth r) visiting (mapFields c visiting r) visiting := by
  induction depth generalizing visiting r with
  | zero =>
      -- `r` itself is not being visited, so there is room
      have := unvisited_lt hr hv
      omega
  | succ depth ih =>
      have hroom' : c.unvisited (r.name :: visiting) ≤ depth := by
        have := unvisited_lt hr hv
        omega
      have hI' := hpush visiting r hr hI hv
      rw [walkFields]
      refine (Runs.note ⟨hI, hr, hv⟩).bind ((follows_runs _ visiting).mapComplete ?_)
      refine walkInside_runs (fun _ => hI') fun s hs hsv => ?_
      exact ih hI' hroom' hs hsv

end Mapping

end DeclSchema
