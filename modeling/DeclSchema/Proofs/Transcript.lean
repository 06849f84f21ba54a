import DeclSchema.Declared.EntryPoint

/-!
Runs of calls, with everything they answer.

A caller that holds a state makes one call after the other, and each changes
the state and answers. The transcript of such a run is the list of answers.
It is known as soon as two things are known of every point of the run: the
state there, as a function of the calls made so far, and what the next call
answers. `transcript_of_steps` is the one induction for this; what is left
to each kind of state is to say what one call does.
-/

namespace DeclSchema.Declared.Call

variable {σ α β : Type}

/-- The answers to a list of calls, one for each, and the state after them. -/
def transcript (step : σ → α → Call (σ × β)) (s : σ) : List α → Call (List β × σ)
  | [] => .returned ([], s)
  | a :: rest =>
      (step s a).bind fun first =>
        (transcript step first.1 rest).bind fun later => .returned (first.2 :: later.1, later.2)

/-- `state` is the state after a list of calls and `answer` what the next one
answers. The run goes on after the calls `before`; the induction is on the
calls still to come, with `before` growing by one each time. -/
theorem transcript_of_steps {step : σ → α → Call (σ × β)} (state : List α → σ)
    (answer : List α → α → β) (before : List α) {calls : List α}
    (h : ∀ middle a after, calls = middle ++ a :: after →
      step (state (before ++ middle)) a =
        .returned (state (before ++ middle ++ [a]), answer (before ++ middle) a)) :
    ∃ answers, transcript step (state before) calls =
        .returned (answers, state (before ++ calls)) ∧
      answers.length = calls.length ∧
      ∀ middle a after, calls = middle ++ a :: after →
        answers[middle.length]? = some (answer (before ++ middle) a) := by
  induction calls generalizing before with
  | nil =>
      refine ⟨[], by simp [transcript], rfl, ?_⟩
      intro middle a after hsplit
      simp at hsplit
  | cons a rest ih =>
      have hfirst : step (state before) a =
          .returned (state (before ++ [a]), answer before a) := by
        simpa using h [] a rest rfl
      obtain ⟨answers, hrest, hlength, hanswers⟩ := ih (before ++ [a]) <| by
        intro middle b after hsplit
        simpa using h (a :: middle) b after (by rw [hsplit, List.cons_append])
      refine ⟨answer before a :: answers, ?_, by simp [hlength], ?_⟩
      · rw [transcript, hfirst]
        simp only [bind, hrest, List.append_assoc, List.singleton_append]
      · intro middle b after hsplit
        rcases middle with _ | ⟨first, middle⟩
        · obtain ⟨rfl, -⟩ := List.cons.inj hsplit
          simp
        · obtain ⟨rfl, hlater⟩ := List.cons.inj hsplit
          simpa using hanswers middle b after hlater

/-- Calls that do the same in every state have the same transcript. -/
theorem transcript_map {step : σ → α → Call (σ × β)} {f : α → α}
    (h : ∀ s a, step s (f a) = step s a) (s : σ) (calls : List α) :
    transcript step s (calls.map f) = transcript step s calls := by
  induction calls generalizing s with
  | nil => rfl
  | cons a rest ih =>
      rw [List.map_cons, transcript, transcript, h]
      simp only [ih]

end DeclSchema.Declared.Call
