import DeclSchema.Proofs.Transcript
import DeclSchema.Proofs.Wraparound

/-!
Whole sessions with a handle.

A caller makes a sequence, pushes values, asks for their number and their
sum, releases the sequence and starts again, in any order and as often as
it likes. `session` is such a run, with the answer to each operation. What
the handle stands for at any point depends on the operations before it in
two ways only, and both are read off the list of them: it is live if the
last of them that made or released a sequence made one (`isLive`), and it
holds the values pushed since the last one was made (`pushed`). `contents`
puts the two together, and one operation keeps it (`perform_contents`). The
sum of what is held is then a matter of `Wraps` alone.
-/

namespace DeclSchema.Declared.Handle

/-- An operation of a session: one that changes what the handle stands for,
or a question about it. -/
inductive Operation where
  | change (step : Step)
  | length
  | sum
  deriving DecidableEq

inductive Answer where
  | done
  | length (count : Nat)
  | sum (value : Int32)
  deriving DecidableEq

def perform (h : Handle) : Operation → Call (Handle × Answer)
  | .change step => (h.step step).bind fun h => .returned (h, .done)
  | .length => h.length.bind fun count => .returned (h, .length count)
  | .sum => h.sum.bind fun value => .returned (h, .sum value)

def session (h : Handle) (ops : List Operation) : Call (List Answer × Handle) :=
  Call.transcript perform h ops

/-! ### What a handle stands for -/

namespace Operation

/-- Whether the handle is live afterwards, if the operation decides it. -/
def live? : Operation → Option Bool
  | .change .create => some true
  | .change .free => some false
  | _ => none

def value? : Operation → Option Int32
  | .change (.push value) => some value
  | _ => none

/-- The operation may only be performed on a live handle. -/
def needsLive : Operation → Bool
  | .change .create | .change .free => false
  | _ => true

end Operation

variable {ops before after : List Operation} {op : Operation}

def isLive (ops : List Operation) : Bool :=
  (ops.filterMap Operation.live?).getLastD false

/-- The values pushed since a sequence was last made. -/
def pushed (ops : List Operation) : List Int32 :=
  (ops.rtakeWhile (· ≠ .change .create)).filterMap Operation.value?

def contents (ops : List Operation) : Handle :=
  if isLive ops then some (pushed ops).toArray else none

/-- Values are pushed and questions asked on a live handle only. -/
def UsedLive (ops : List Operation) : Prop :=
  ∀ (before : List Operation) (op : Operation) (after : List Operation),
    ops = before ++ op :: after → op.needsLive → isLive before

theorem usedLive_iff :
    UsedLive ops ↔ ∀ i : Fin ops.length, ops[i].needsLive → isLive (ops.take i) := by
  constructor
  · intro h i
    exact h (ops.take i) ops[i] (ops.drop (i + 1)) (by simp)
  · rintro h before op after rfl
    simpa using h ⟨before.length, by simp⟩

instance : Decidable (UsedLive ops) :=
  decidable_of_iff _ usedLive_iff.symm

theorem isLive_concat : isLive (before ++ [op]) = op.live?.getD (isLive before) := by
  unfold isLive
  rw [List.filterMap_append]
  cases h : op.live? <;> simp [h]

theorem pushed_create : pushed (before ++ [.change .create]) = [] := by
  simp [pushed]

theorem pushed_concat (h : op ≠ .change .create) :
    pushed (before ++ [op]) = pushed before ++ op.value?.toList := by
  unfold pushed
  rw [List.rtakeWhile_concat_pos _ _ _ (by simpa using h), List.filterMap_append]
  cases h : op.value? <;> simp [h]

theorem contents_of_isLive (h : isLive before) : contents before = some (pushed before).toArray :=
  if_pos h

/-- The handle and what is pushed stay as they are under a question. -/
theorem contents_concat (hlive : op.live? = none) (hvalue : op.value? = none) :
    contents (before ++ [op]) = contents before := by
  have hne : op ≠ .change .create := by
    rintro rfl
    cases hlive
  simp [contents, isLive_concat, pushed_concat hne, hlive, hvalue]

/-! ### One operation -/

/-- What is answered to an operation after the operations before it. -/
def answer (before : List Operation) : Operation → Answer
  | .change _ => .done
  | .length => .length (pushed before).length
  | .sum => .sum (IntSequence.sum (pushed before).toArray)

theorem perform_contents (h : op.needsLive → isLive before) :
    (contents before).perform op = .returned (contents (before ++ [op]), answer before op) := by
  cases op with
  | change step =>
      cases step with
      | create =>
          have hafter : contents (before ++ [.change .create]) = create := by
            simp [contents, isLive_concat, Operation.live?, pushed_create, create]
          rw [hafter]
          rfl
      | free =>
          have hafter : contents (before ++ [.change .free]) = none := by
            simp [contents, isLive_concat, Operation.live?]
          rw [hafter]
          rfl
      | push value =>
          have hlive := h rfl
          have hne : Operation.change (.push value) ≠ .change .create := by simp
          have hafter : contents (before ++ [.change (.push value)]) =
              some ((pushed before).toArray.push value) := by
            simp [contents, isLive_concat, Operation.live?, hlive, Operation.value?,
              pushed_concat hne]
          rw [hafter, contents_of_isLive hlive]
          rfl
  | length =>
      rw [contents_concat rfl rfl, contents_of_isLive (h rfl)]
      rfl
  | sum =>
      rw [contents_concat rfl rfl, contents_of_isLive (h rfl)]
      rfl

/-! ### Values pushed in another order -/

theorem run_pushes (s : IntSequence) (values : List Int32) :
    Handle.run (some s) (values.map .push) = .returned (some (s ++ values.toArray)) := by
  induction values generalizing s with
  | nil => simp [run]
  | cons value rest ih =>
      have hcons : s.push value ++ rest.toArray = s ++ (value :: rest).toArray := by simp
      rw [← hcons, ← ih]
      rfl

theorem sum_of_new_sequence (values : List Int32) :
    (Handle.run none (.create :: values.map .push)).bind sum =
      .returned (IntSequence.sum values.toArray) := by
  rw [run, step, Call.bind, create, run_pushes]
  simp [Call.bind, sum, EntryPoint.call_some]

/-- A session that pushes and asks on a live handle only goes through to its
end. The number that is answered is that of the values pushed since the
sequence was made. The sum is the 32-bit integer congruent to their exact
sum: it is what the safe sum of the same values gives, it is the same if
they are pushed in another order, and it is the exact sum if that is in
range, even where a sum on the way was not. -/
theorem session_sums_modulo (h : UsedLive ops) :
    ∃ answers handle, Handle.session none ops = .returned (answers, handle) ∧
      answers.length = ops.length ∧
      (∀ before after, ops = before ++ Operation.length :: after →
        answers[before.length]? = some (Answer.length (pushed before).length)) ∧
      ∀ before after, ops = before ++ Operation.sum :: after →
        ∃ value, answers[before.length]? = some (Answer.sum value) ∧
          IntSequence.sum (pushed before).toArray = value ∧
          Wraps value (exactSum (pushed before)) ∧
          (∀ values : List Int32, values.Perm (pushed before) →
            (Handle.run none (.create :: values.map .push)).bind sum = .returned value) ∧
          (-2 ^ 31 ≤ exactSum (pushed before) → exactSum (pushed before) < 2 ^ 31 →
            value.toInt = exactSum (pushed before)) := by
  obtain ⟨answers, hsession, hlength, hanswers⟩ :=
    Call.transcript_of_steps contents answer []
      fun before op after hsplit => perform_contents (h before op after hsplit)
  refine ⟨answers, _, hsession, hlength, fun before after hsplit => hanswers _ _ _ hsplit, ?_⟩
  intro before after hsplit
  have hwraps := wraps_sum (pushed before)
  have hanswer := hanswers before .sum after hsplit
  rw [List.nil_append] at hanswer
  refine ⟨_, hanswer, rfl, hwraps, ?_, hwraps.toInt_eq⟩
  intro values hperm
  have hvalues := wraps_sum values
  rw [exactSum_of_perm hperm] at hvalues
  rw [sum_of_new_sequence, hvalues.unique hwraps]

/-- A counter that is driven over the end of its range and back, released,
and used again. -/
def odometer : List Operation :=
  [.change .create, .change (.push Int32.maxValue), .change (.push 1), .sum,
    .change (.push (-1)), .length, .sum, .change .free, .change .create, .change (.push 5), .sum]

theorem odometer_sums :
    UsedLive odometer ∧ ∃ answers handle,
      Handle.session none odometer = .returned (answers, handle) ∧
      answers[3]? = some (Answer.sum Int32.minValue) ∧ answers[5]? = some (Answer.length 3) ∧
      answers[6]? = some (Answer.sum Int32.maxValue) ∧ answers[10]? = some (Answer.sum 5) := by
  have hused : UsedLive odometer := by decide
  obtain ⟨answers, handle, hsession, -, hlengths, hsums⟩ := session_sums_modulo hused
  obtain ⟨_, hover, rfl, -⟩ := hsums (odometer.take 3) (odometer.drop 4) rfl
  obtain ⟨back, hback, -, -, -, hexact⟩ := hsums (odometer.take 6) (odometer.drop 7) rfl
  obtain ⟨_, hagain, rfl, -⟩ := hsums (odometer.take 10) [] rfl
  have hmax : back.toInt = Int32.maxValue.toInt := hexact (by decide) (by decide)
  obtain rfl := Int32.toInt_inj.mp hmax
  exact ⟨hused, answers, handle, hsession, hover.trans (by decide),
    hlengths (odometer.take 5) (odometer.drop 6) rfl, hback, hagain.trans (by decide)⟩

end DeclSchema.Declared.Handle
