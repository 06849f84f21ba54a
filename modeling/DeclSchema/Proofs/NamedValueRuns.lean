import DeclSchema.Declared.Integers
import DeclSchema.Proofs.Transcript
import DeclSchema.Proofs.Wraparound

/-!
Whole runs over a named value.

The value of the record is assigned now and then, and between assignments
the length of its name is added to it, of whatever name it has at that
moment. Both the name and the last assignment are read off the list of
steps (`currentName`, `lastAssigned`), and so are the calls that add since
then, each by its place in the list (`addedAt`). `exactValue` is the last
assignment and what was added since, in integers. The record after a run is
then known (`recordAfter`): it has the current name, and its value is the
exact one modulo `2 ^ 32`. Nothing is asked of the length of a name. It is
cut to 32 bits before it is added, which changes nothing modulo `2 ^ 32`.
-/

namespace DeclSchema.Declared.NamedValue

namespace Step

/-- The name that the step gives to the record. -/
def name? : Step → Option (Option (List UInt8))
  | .new name _ => some name
  | .setName name => some name
  | .reset _ => some none
  | _ => none

/-- The value that the step assigns. -/
def value? : Step → Option Int32
  | .new _ value => some value
  | .setValue value => some value
  | .reset _ => some 0
  | _ => none

def adds : Step → Bool
  | .addNameLength _ => true
  | _ => false

def status : Step → Option Int32
  | .reset _ => some resetStatus
  | _ => none

/-- The step, called in another way if it can be. -/
def through (via : Via) : Step → Step
  | .addNameLength _ => .addNameLength via
  | .reset _ => .reset via
  | step => step

end Step

variable {r : NamedValue} {steps before : List Step} {s : Step}

/-! ### What a run adds up to -/

def nameBytes (name : Option (List UInt8)) : Nat :=
  name.elim 0 List.length

/-- The name after the steps, of a record that has the name `name` before
them. -/
def currentName (name : Option (List UInt8)) (steps : List Step) : Option (List UInt8) :=
  (steps.filterMap Step.name?).getLastD name

def lastAssigned (value : Int32) (steps : List Step) : Int32 :=
  (steps.filterMap Step.value?).getLastD value

/-- The place of the first step after the last assignment. -/
def assignedUpTo (steps : List Step) : Nat :=
  (steps.rdropWhile (·.value?.isNone)).length

/-- What the step at the place `i` adds: the length of the name that is
current there. -/
def addedAt (name : Option (List UInt8)) (steps : List Step) (i : Nat) : Nat :=
  if steps[i]?.any Step.adds then nameBytes (currentName name (steps.take i)) else 0

/-- The last value assigned, and all that was added since. -/
def exactValue (r : NamedValue) (steps : List Step) : Int :=
  (lastAssigned r.value steps).toInt +
    ∑ i ∈ Finset.Ico (assignedUpTo steps) steps.length, (addedAt r.name steps i : Int)

def recordAfter (r : NamedValue) (steps : List Step) : NamedValue :=
  ⟨currentName r.name steps, .ofInt (exactValue r steps)⟩

theorem nameLength_eq (r : NamedValue) : r.nameLength = nameBytes r.name := by
  unfold nameLength nameBytes
  cases r.name <;> rfl

theorem currentName_concat (name : Option (List UInt8)) :
    currentName name (before ++ [s]) = s.name?.getD (currentName name before) := by
  unfold currentName
  rw [List.filterMap_append]
  cases h : s.name? <;> simp [h]

theorem exactValue_of_assigned {value : Int32} (h : s.value? = some value) :
    exactValue r (before ++ [s]) = value.toInt := by
  have hlast : lastAssigned r.value (before ++ [s]) = value := by
    simp [lastAssigned, List.filterMap_append, h]
  have hplace : assignedUpTo (before ++ [s]) = (before ++ [s]).length := by
    rw [assignedUpTo, List.rdropWhile_concat_neg _ _ _ (by simp [h])]
  simp [exactValue, hlast, hplace]

theorem addedAt_concat_of_lt {i : Nat} (name : Option (List UInt8)) (h : i < before.length) :
    addedAt name (before ++ [s]) i = addedAt name before i := by
  unfold addedAt
  rw [List.getElem?_append_left h, List.take_append_of_le_length (by omega)]

theorem addedAt_concat_length (name : Option (List UInt8)) :
    addedAt name (before ++ [s]) before.length =
      if s.adds then nameBytes (currentName name before) else 0 := by
  simp [addedAt]

/-- A step that assigns nothing adds at most its own part to the sum. -/
theorem exactValue_of_not_assigned (h : s.value? = none) :
    exactValue r (before ++ [s]) =
      exactValue r before + ↑(if s.adds then nameBytes (currentName r.name before) else 0) := by
  have hlast : lastAssigned r.value (before ++ [s]) = lastAssigned r.value before := by
    simp [lastAssigned, List.filterMap_append, h]
  have hplace : assignedUpTo (before ++ [s]) = assignedUpTo before := by
    rw [assignedUpTo, assignedUpTo, List.rdropWhile_concat_pos _ _ _ (by simp [h])]
  have hle : assignedUpTo before ≤ before.length := (List.rdropWhile_prefix _ before).length_le
  have hsame : ∀ i ∈ Finset.Ico (assignedUpTo before) before.length,
      (addedAt r.name (before ++ [s]) i : Int) = addedAt r.name before i := by
    intro i hi
    rw [addedAt_concat_of_lt r.name (Finset.mem_Ico.mp hi).2]
  rw [exactValue, exactValue, hlast, hplace, List.length_append, List.length_singleton,
    Finset.sum_Ico_succ_top hle, Finset.sum_congr rfl hsame, addedAt_concat_length, add_assoc]

/-! ### One step, and a run -/

theorem recordAfter_nil (r : NamedValue) : recordAfter r [] = r := by
  simp [recordAfter, currentName, exactValue, lastAssigned]

theorem recordAfter_of_assigned {value : Int32} (h : s.value? = some value) :
    recordAfter r (before ++ [s]) = ⟨s.name?.getD (recordAfter r before).name, value⟩ := by
  rw [recordAfter, currentName_concat, exactValue_of_assigned h, Int32.ofInt_toInt]
  rfl

theorem recordAfter_of_not_assigned (h : s.value? = none) :
    recordAfter r (before ++ [s]) =
      ⟨s.name?.getD (recordAfter r before).name,
        (recordAfter r before).value +
          .ofNat (if s.adds then (recordAfter r before).nameLength else 0)⟩ := by
  rw [recordAfter, currentName_concat, exactValue_of_not_assigned h, Int32.ofInt_add,
    Int32.ofInt_eq_ofNat, nameLength_eq]
  rfl

/-- A call for callers from C does what the operation itself does. -/
theorem step_through (r : NamedValue) (s : Step) (via : Via) :
    r.step (s.through via) = r.step s := by
  cases s with
  | new | setName | setValue => rfl
  | addNameLength via' => cases via <;> cases via' <;> rfl
  | reset via' => cases via <;> cases via' <;> rfl

theorem step_recordAfter (r : NamedValue) (before : List Step) (s : Step) :
    (recordAfter r before).step s = .returned (recordAfter r (before ++ [s]), s.status) := by
  rw [← step_through _ _ .direct]
  cases s with
  | new name value =>
      rw [recordAfter_of_assigned rfl]
      rfl
  | setValue value =>
      rw [recordAfter_of_assigned rfl]
      rfl
  | reset via =>
      rw [recordAfter_of_assigned rfl]
      rfl
  | setName name =>
      rw [recordAfter_of_not_assigned rfl]
      simp [Step.adds, Step.name?, Step.through, step, Step.status]
  | addNameLength via =>
      rw [recordAfter_of_not_assigned rfl]
      simp [Step.adds, Step.name?, Step.through, step, Step.status, addNameLength]

/-- One step of a run with all that can be seen of it: the record after it
and its status. -/
def watchedStep (r : NamedValue) (s : Step) : Call (NamedValue × (NamedValue × Option Int32)) :=
  (r.step s).bind fun result => .returned (result.1, result)

/-- Every point of a run. -/
def points (r : NamedValue) (steps : List Step) : Call (List (NamedValue × Option Int32)) :=
  (Call.transcript watchedStep r steps).bind fun result => .returned result.1

theorem run_eq_transcript (r : NamedValue) (steps : List Step) :
    r.run steps = (Call.transcript watchedStep r steps).bind fun result => .returned result.2 := by
  induction steps generalizing r with
  | nil => rfl
  | cons s rest ih =>
      rw [run, Call.transcript, watchedStep]
      cases r.step s with
      | aborted symbol cause => rfl
      | returned result =>
          simp only [Call.bind, ih]
          cases Call.transcript watchedStep result.1 rest <;> rfl

theorem transcript_recordAfter (r : NamedValue) (steps : List Step) :
    ∃ points, Call.transcript watchedStep r steps = .returned (points, recordAfter r steps) ∧
      points.length = steps.length ∧
      ∀ before s after, steps = before ++ s :: after →
        points[before.length]? = some (recordAfter r (before ++ [s]), s.status) := by
  have hstep (before : List Step) (s : Step) :
      watchedStep (recordAfter r before) s =
        .returned (recordAfter r (before ++ [s]), recordAfter r (before ++ [s]), s.status) := by
    rw [watchedStep, step_recordAfter, Call.bind]
  have htranscript := Call.transcript_of_steps (recordAfter r)
    (fun before s => (recordAfter r (before ++ [s]), s.status)) []
    fun before s _ (_ : steps = _) => hstep before s
  rwa [recordAfter_nil] at htranscript

theorem run_recordAfter (r : NamedValue) (steps : List Step) :
    r.run steps = .returned (recordAfter r steps) := by
  obtain ⟨points, hpoints, -⟩ := transcript_recordAfter r steps
  rw [run_eq_transcript, hpoints, Call.bind]

theorem transcript_map_through (r : NamedValue) (steps : List Step) (via : Via) :
    Call.transcript watchedStep r (steps.map (Step.through via)) =
      Call.transcript watchedStep r steps := by
  apply Call.transcript_map
  intro r s
  rw [watchedStep, watchedStep, step_through]

/-- Only the steps that are there to name the record change its name. -/
theorem names_of_name_ne {q q' : NamedValue} {status : Option Int32}
    (h : q.step s = .returned (q', status)) (hne : q'.name ≠ q.name) :
    (∃ name value, s = .new name value) ∨ (∃ name, s = .setName name) ∨ ∃ via, s = .reset via := by
  rw [← step_through _ _ .direct] at h
  cases s with
  | new name value => exact .inl ⟨name, value, rfl⟩
  | setName name => exact .inr (.inl ⟨name, rfl⟩)
  | reset via => exact .inr (.inr ⟨via, rfl⟩)
  | setValue value =>
      cases h
      exact absurd rfl hne
  | addNameLength via =>
      cases h
      exact absurd rfl hne

/-- At every point of a run the value is the last one assigned, and the
lengths of the names that were current at the calls since, modulo `2 ^ 32`,
and the name is the last one given. The name changes only at a step that
gives one. Runs that differ only in how their operations are called are the
same at every point. -/
theorem run_exact_modulo (r : NamedValue) (steps : List Step) :
    (∃ points, r.points steps = .returned points ∧ points.length = steps.length ∧
      ∀ before s after, steps = before ++ s :: after →
        ∃ q, points[before.length]? = some (q, s.status) ∧
          r.run (before ++ [s]) = .returned q ∧
          q.name = currentName r.name (before ++ [s]) ∧
          Wraps q.value (exactValue r (before ++ [s]))) ∧
    (∀ (q q' : NamedValue) (s : Step) (status : Option Int32),
      q.step s = .returned (q', status) → q'.name ≠ q.name →
      (∃ name value, s = .new name value) ∨ (∃ name, s = .setName name) ∨
        ∃ via, s = .reset via) ∧
    ∀ steps', steps'.map (Step.through .direct) = steps.map (Step.through .direct) →
      r.points steps' = r.points steps ∧ r.run steps' = r.run steps := by
  refine ⟨?_, fun _ _ _ _ => names_of_name_ne, fun steps' hsame => ?_⟩
  · obtain ⟨points, hpoints, hlength, hall⟩ := transcript_recordAfter r steps
    refine ⟨points, by rw [NamedValue.points, hpoints, Call.bind], hlength, ?_⟩
    intro before s after hsplit
    exact ⟨_, hall before s after hsplit, run_recordAfter r _, rfl, Wraps.ofInt _⟩
  · have htranscript : Call.transcript watchedStep r steps' =
        Call.transcript watchedStep r steps := by
      rw [← transcript_map_through r steps' .direct, hsame, transcript_map_through]
    rw [points, points, run_eq_transcript, run_eq_transcript, htranscript]
    exact ⟨rfl, rfl⟩

/-- A name of `n` bytes is added twice, and then one of a single byte. -/
def longRun (n : Nat) (via : Via) : List Step :=
  [.setName (some (List.replicate n 0x61)), .addNameLength via, .addNameLength via,
    .setName (some [0x61]), .addNameLength via]

theorem exactValue_longRun (n : Nat) (via : Via) :
    exactValue blank (longRun n via) = 2 * n + 1 := by
  have hassigned : assignedUpTo (longRun n via) = 0 := rfl
  have hlast : lastAssigned blank.value (longRun n via) = 0 := rfl
  have hlength : (longRun n via).length = 5 := rfl
  have hadded : ∑ i ∈ Finset.Ico 0 5, (addedAt blank.name (longRun n via) i : Int) = n + n + 1 := by
    simp [Finset.sum_range_succ, addedAt, longRun, Step.adds, currentName, Step.name?, nameBytes,
      List.findSome?_cons]
  rw [exactValue, hassigned, hlast, hlength, hadded, Int32.toInt_zero]
  ring

/-- The name has more bytes than the value can count, and the value has gone
round by the end. -/
theorem longRun_modulo :
    (∃ q, blank.run (longRun 2147483653 .direct) = .returned q ∧ q.name = some [0x61] ∧
      q.value = 11) ∧
    blank.points (longRun 2147483653 .entry) = blank.points (longRun 2147483653 .direct) := by
  obtain ⟨⟨points, -, -, hpoints⟩, -, hsame⟩ :=
    run_exact_modulo blank (longRun 2147483653 .direct)
  obtain ⟨q, -, hrun, hname, hvalue⟩ :=
    hpoints ((longRun 2147483653 .direct).take 4) (.addNameLength .direct) [] rfl
  have hexact : exactValue blank (longRun 2147483653 .direct) = 4294967307 := by
    rw [exactValue_longRun]
    rfl
  refine ⟨⟨q, hrun, hname, ?_⟩, (hsame (longRun 2147483653 .entry) rfl).1⟩
  have hwraps : Wraps 11 4294967307 := by decide
  exact Wraps.unique (hexact ▸ hvalue) hwraps

end DeclSchema.Declared.NamedValue
