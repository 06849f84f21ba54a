import DeclSchema.Proofs.Blame
import DeclSchema.Proofs.Walk

/-!
One walk for all declarations.

Every declaration of a catalog could be mapped by a walk of its own, which
starts on an empty stack. In fact one walk goes through all of them, records
first, and its stack is passed on from each to the next. A record left
behind on it would be taken for one that the walk is inside of, and what
refers to it later would be written as an object about which nothing is
said, or would map although it should not.

Nothing is left behind. A walk that ends has popped what it pushed,
whatever it came to: a schema, a circle that it cut, a field that failed at
any depth, a record without fields. This is `Restores`, and it holds of any
stack, also of one that no walk from the empty stack can meet, and of any
record, also of one that is on the stack or not in the catalog. What is
asked is room for one record more than the catalog has; a walk without
bounds has it.
-/

namespace DeclSchema

namespace Walk

variable {α β : Type} {visiting : List String}

/-- Started on the stack `visiting` the walk ends with `a`, and the stack is
as it was. -/
def Restores (m : Walk α) (visiting : List String) (a : α) : Prop :=
  Runs (fun _ => True) m visiting a visiting

theorem Runs.mono {P Q : Visit → Prop} {m : Walk α} {before after : List String} {a : α}
    (h : Runs P m before a after) (hPQ : ∀ visit, P visit → Q visit) : Runs Q m before a after := by
  intro visits
  obtain ⟨made, hrun, hP⟩ := h visits
  exact ⟨made, hrun, fun visit hvisit => hPQ visit (hP visit hvisit)⟩

/-- What one step of a loop restores, the loop restores. -/
theorem Restores.foldlM {f : β → α → Walk β} {g : β → α → β}
    (h : ∀ b a, Restores (f b a) visiting (g b a)) (l : List α) (b : β) :
    Restores (l.foldlM f b) visiting (l.foldl g b) := by
  induction l generalizing b with
  | nil => exact .pure b
  | cons a rest ih =>
      rw [List.foldlM_cons, List.foldl_cons]
      exact (h b a).bind (ih (g b a))

end Walk

open Catalog Walk

section Types

variable {c : Catalog} {depth : Nat}

theorem Catalog.unvisited_le (c : Catalog) (visiting : List String) :
    c.unvisited visiting ≤ c.records.length :=
  List.length_filter_le _ _

/-- The records that the walk enters on its way are of the catalog and not on
the stack, whatever the stack is. -/
theorem walkFields_restores_of_mem (hroom : c.records.length ≤ depth) {visiting : List String}
    {r : RecordDecl} (hr : r ∈ c.records) (hv : r.name ∉ visiting) :
    Restores (walkFields c depth r) visiting (mapFields c visiting r) := by
  have hruns := walkFields_runs (I := fun _ => True) (fun _ _ _ _ _ => trivial) depth trivial
    ((c.unvisited_le visiting).trans hroom) hr hv
  exact hruns.mono fun _ _ => trivial

theorem walkType_restores (hroom : c.records.length ≤ depth) (visiting : List String)
    (t : FieldType) :
    Restores (walkType c (walkFields c depth) t) visiting (mapType c visiting t) :=
  walkType_runs (fun _ => trivial) (fun _ hr hv => walkFields_restores_of_mem hroom hr hv) t

theorem walkFields_restores (hroom : c.records.length < depth) (visiting : List String)
    (r : RecordDecl) : Restores (walkFields c depth r) visiting (mapFields c visiting r) := by
  obtain ⟨depth, rfl⟩ : ∃ k, depth = k + 1 := ⟨depth - 1, by omega⟩
  have hroom' : c.records.length ≤ depth := by omega
  rw [walkFields]
  refine (Runs.note trivial).bind ((follows_runs _ visiting).mapComplete ?_)
  refine walkInside_runs (fun _ => trivial) fun s hs hv => ?_
  exact walkFields_restores_of_mem hroom' hs hv

end Types

/-! ### Declarations -/

def walkRecord (c : Catalog) (depth : Nat) (r : RecordDecl) :
    Walk (Except Unmapped RecordSchema) := do
  match ← walkFields c depth r with
  | .ok properties => return .ok ⟨Name.title r.name, properties⟩
  | .error fault => return .error ⟨r.name, none, fault.cause, fault.field⟩

def walkArguments (c : Catalog) (depth i : Nat) : List FieldDecl → Walk (Option (Nat × String))
  | [] => return none
  | a :: rest => do
      match ← walkType c (walkFields c depth) a.type with
      | .error cause => return some (i, cause)
      | .ok _ => walkArguments c depth (i + 1) rest

/-- Why the result of a function has no schema. -/
def walkResult (c : Catalog) (depth : Nat) : Option FieldType → Walk (Option String)
  | none => return none
  | some t => return fault? (← walkType c (walkFields c depth) t)

/-- The entry for a function whose argument at an index has no schema. -/
def argumentEntry (f : FunctionDecl) (blamed : Nat × String) : Unmapped :=
  ⟨f.name, some (.ofNat blamed.1), blamed.2, some f.signature⟩

def walkFunction (c : Catalog) (depth : Nat) (f : FunctionDecl) : Walk (Option Unmapped) := do
  match ← walkResult c depth f.result with
  | some cause => return some ⟨f.name, some resultPosition, cause, some f.signature⟩
  | none => return (← walkArguments c depth 0 f.arguments).map (argumentEntry f)

/-- What has come of the declarations so far: the records that map, and the
entries for what does not. -/
structure Survey where
  mapped : List (RecordDecl × RecordSchema)
  unmapped : List Unmapped

def Survey.addRecord (survey : Survey) (r : RecordDecl) : Except Unmapped RecordSchema → Survey
  | .ok schema => { survey with mapped := survey.mapped ++ [(r, schema)] }
  | .error u => { survey with unmapped := survey.unmapped ++ [u] }

def Survey.addFunction (survey : Survey) : Option Unmapped → Survey
  | some u => { survey with unmapped := survey.unmapped ++ [u] }
  | none => survey

/-- All records and then all functions, on one stack. -/
def walkSurvey (c : Catalog) (depth : Nat) (records : List RecordDecl)
    (functions : List FunctionDecl) : Walk Survey := do
  let survey ← records.foldlM
    (fun survey r => return survey.addRecord r (← walkRecord c depth r)) ⟨[], []⟩
  functions.foldlM (fun survey f => return survey.addFunction (← walkFunction c depth f)) survey

section Declarations

variable {c : Catalog} {depth : Nat}

theorem walkRecord_restores (hroom : c.records.length < depth) (r : RecordDecl) :
    Restores (walkRecord c depth r) [] (c.recordSchema r) := by
  refine (walkFields_restores hroom [] r).bind ?_
  rw [recordSchema]
  cases mapFields c [] r with
  | ok properties => exact .pure _
  | error fault => exact .pure _

theorem walkArguments_restores (hroom : c.records.length ≤ depth) (i : Nat)
    (arguments : List FieldDecl) :
    Restores (walkArguments c depth i arguments) [] (c.unmappedArgument i arguments) := by
  induction arguments generalizing i with
  | nil => exact .pure _
  | cons a rest ih =>
      refine (walkType_restores hroom [] a.type).bind ?_
      rw [unmappedArgument]
      cases mapType c [] a.type with
      | error cause => exact .pure _
      | ok node => exact ih (i + 1)

theorem walkResult_restores (hroom : c.records.length ≤ depth) (result : Option FieldType) :
    Restores (walkResult c depth result) [] (result.bind fun t => fault? (mapType c [] t)) := by
  cases result with
  | none => exact .pure _
  | some t => exact (walkType_restores hroom [] t).bind (.pure _)

theorem functionFault_eq_or (c : Catalog) (f : FunctionDecl) :
    c.functionFault f =
      ((f.result.bind fun t => fault? (mapType c [] t)).map fun cause =>
        ⟨f.name, some resultPosition, cause, some f.signature⟩).or
        ((c.unmappedArgument 0 f.arguments).map (argumentEntry f)) := by
  rw [functionFault]
  cases f.result with
  | none => cases c.unmappedArgument 0 f.arguments <;> rfl
  | some t =>
      rw [Option.map_some, Option.bind_some]
      cases mapType c [] t with
      | error cause => rfl
      | ok node => cases c.unmappedArgument 0 f.arguments <;> rfl

theorem walkFunction_restores (hroom : c.records.length ≤ depth) (f : FunctionDecl) :
    Restores (walkFunction c depth f) [] (c.functionFault f) := by
  refine (walkResult_restores hroom f.result).bind ?_
  rw [functionFault_eq_or]
  cases f.result.bind fun t => fault? (mapType c [] t) with
  | some cause => exact .pure _
  | none => exact (walkArguments_restores hroom 0 f.arguments).bind (.pure _)

/-- The survey of declarations that are mapped each by itself. -/
def surveyOf (c : Catalog) (records : List RecordDecl) (functions : List FunctionDecl) : Survey :=
  functions.foldl (fun survey f => survey.addFunction (c.functionFault f))
    (records.foldl (fun survey r => survey.addRecord r (c.recordSchema r)) ⟨[], []⟩)

theorem walkSurvey_restores (hroom : c.records.length < depth) (records : List RecordDecl)
    (functions : List FunctionDecl) :
    Restores (walkSurvey c depth records functions) [] (surveyOf c records functions) := by
  have hrecord (survey : Survey) (r : RecordDecl) :
      Restores (do return survey.addRecord r (← walkRecord c depth r)) []
        (survey.addRecord r (c.recordSchema r)) :=
    (walkRecord_restores hroom r).bind (.pure _)
  have hfunction (survey : Survey) (f : FunctionDecl) :
      Restores (do return survey.addFunction (← walkFunction c depth f)) []
        (survey.addFunction (c.functionFault f)) :=
    (walkFunction_restores (Nat.le_of_lt hroom) f).bind (.pure _)
  exact (Restores.foldlM hrecord records _).bind (Restores.foldlM hfunction functions _)

theorem foldl_addRecord (records : List RecordDecl) (survey : Survey) :
    records.foldl (fun survey r => survey.addRecord r (c.recordSchema r)) survey =
      ⟨survey.mapped ++ records.filterMap fun r =>
          match c.recordSchema r with
          | .ok schema => some (r, schema)
          | .error _ => none,
        survey.unmapped ++ records.filterMap c.recordFault⟩ := by
  induction records generalizing survey with
  | nil => simp
  | cons r rest ih =>
      rw [List.foldl_cons, ih]
      cases h : c.recordSchema r <;> simp [Survey.addRecord, recordFault, h]

theorem foldl_addFunction (functions : List FunctionDecl) (survey : Survey) :
    functions.foldl (fun survey f => survey.addFunction (c.functionFault f)) survey =
      ⟨survey.mapped, survey.unmapped ++ functions.filterMap c.functionFault⟩ := by
  induction functions generalizing survey with
  | nil => simp
  | cons f rest ih =>
      rw [List.foldl_cons, ih]
      cases h : c.functionFault f <;> simp [Survey.addFunction, h]

theorem surveyOf_catalog (c : Catalog) :
    surveyOf c c.records c.functions = ⟨c.mappedRecords, c.unmapped⟩ := by
  rw [surveyOf, foldl_addRecord, foldl_addFunction]
  rfl

/-- A walk through a type or through the fields of a record leaves any stack
as it found it, with the result of the mapping. So one walk can serve all
declarations: after any records and functions, whatever came of them, the
result for a record or a function is what a new walk gives, and the survey
of a catalog is made of these results. -/
theorem shared_walk_maps_alone (hroom : c.records.length < depth) :
    (∀ visiting t, Restores (walkType c (walkFields c depth) t) visiting (mapType c visiting t)) ∧
    (∀ visiting r, Restores (walkFields c depth r) visiting (mapFields c visiting r)) ∧
    (∀ records functions r,
      Restores (walkRecord c depth r) [] (c.recordSchema r) ∧
      Restores (do let _ ← walkSurvey c depth records functions; walkRecord c depth r) []
        (c.recordSchema r)) ∧
    (∀ records functions f,
      Restores (walkFunction c depth f) [] (c.functionFault f) ∧
      Restores (do let _ ← walkSurvey c depth records functions; walkFunction c depth f) []
        (c.functionFault f)) ∧
    Restores (walkSurvey c depth c.records c.functions) [] ⟨c.mappedRecords, c.unmapped⟩ := by
  have hroom' := Nat.le_of_lt hroom
  refine ⟨walkType_restores hroom', walkFields_restores hroom, ?_, ?_, ?_⟩
  · intro records functions r
    have hr := walkRecord_restores hroom r
    exact ⟨hr, (walkSurvey_restores hroom records functions).bind hr⟩
  · intro records functions f
    have hf := walkFunction_restores hroom' f
    exact ⟨hf, (walkSurvey_restores hroom records functions).bind hf⟩
  · rw [← surveyOf_catalog]
    exact walkSurvey_restores hroom c.records c.functions

/-- Both records of the signal box lead to the lamp, which has no schema. The
walk through the signal fails in the middle of its fields, after it has cut
the circle through the section. With the signal left on the stack the
section would map. -/
theorem section_fails_after_signal :
    signalBox.records.length < 3 ∧
    (∃ properties, mapFields signalBox [signalDecl.name] sectionDecl = .ok properties) ∧
    ∃ u, Restores
      (do let _ ← walkSurvey signalBox 3 [signalDecl] []; walkRecord signalBox 3 sectionDecl)
      [] (.error u) := by
  have hroom : signalBox.records.length < 3 := by decide
  obtain ⟨-, -, hrecords, -, -⟩ := shared_walk_maps_alone hroom
  have hfails : ¬ signalBox.Maps sectionDecl := by
    rw [maps_iff_fault?_eq_none, fault?_mapFields_eq_none_iff]
    simp [sectionDecl, fault?_mapType, FieldType.leaf, find?_signalBox,
      fault?_mapFields_eq_none_iff, signalDecl]
  refine ⟨hroom, ?_, ?_⟩
  · rw [← fault?_eq_none_iff, fault?_mapFields_eq_none_iff]
    simp [sectionDecl, fault?_mapType, FieldType.leaf, find?_signalBox]
  · obtain ⟨-, hsection⟩ := hrecords [signalDecl] [] sectionDecl
    cases hschema : signalBox.recordSchema sectionDecl with
    | ok schema => exact absurd ⟨schema, hschema⟩ hfails
    | error u => exact ⟨u, hschema ▸ hsection⟩

end Declarations

end DeclSchema
