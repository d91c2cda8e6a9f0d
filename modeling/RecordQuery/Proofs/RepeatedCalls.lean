/-!
# Calls one after the other

A step gives a result and leaves a state for the next call. What the results and the states of a run
of calls are follows from the step alone: a fact that each call keeps holds throughout, a state that
a call does not change is never left, and a step that follows another one call by call follows it
through the whole run.
-/
namespace RecordQuery

universe u v w x

variable {σ : Type u} {β : Type v} {τ : Type w} {γ : Type x}

/-- The results of a number of calls of a step, and the state that the calls leave. -/
def calls (step : σ → β × σ) : Nat → σ → List β × σ
  | 0, state => ([], state)
  | times + 1, state =>
    let (result, state) := step state
    let (results, state) := calls step times state
    (result :: results, state)

section Runs

variable {step : σ → β × σ}

@[simp] theorem calls_zero (state : σ) : calls step 0 state = ([], state) := rfl

theorem calls_succ (times : Nat) (state : σ) :
    calls step (times + 1) state
      = ((step state).1 :: (calls step times (step state).2).1,
        (calls step times (step state).2).2) := rfl

@[simp] theorem length_calls (times : Nat) (state : σ) :
    (calls step times state).1.length = times := by
  induction times generalizing state with
  | zero => rfl
  | succ times ih => simp [calls_succ, ih]

theorem lt_of_getElem?_calls {i times : Nat} {state : σ} {result : β}
    (given : (calls step times state).1[i]? = some result) : i < times := by
  have bound := (List.getElem?_eq_some_iff.1 given).1
  rwa [length_calls] at bound

theorem calls_add (m n : Nat) (state : σ) :
    (calls step (m + n) state).2 = (calls step n (calls step m state).2).2 := by
  induction m generalizing state with
  | zero => rw [Nat.zero_add, calls_zero]
  | succ m ih => rw [Nat.add_right_comm, calls_succ, calls_succ, ih]

theorem calls_succ_snd (times : Nat) (state : σ) :
    (calls step (times + 1) state).2 = (step (calls step times state).2).2 :=
  calls_add times 1 state

theorem getElem?_calls {i times : Nat} (within : i < times) (state : σ) :
    (calls step times state).1[i]? = some (step (calls step i state).2).1 := by
  induction times generalizing i state with
  | zero => cases within
  | succ times ih =>
    cases i with
    | zero => rfl
    | succ i =>
      rw [calls_succ, calls_succ, List.getElem?_cons_succ]
      exact ih (Nat.lt_of_succ_lt_succ within) (step state).2

/-- What each call keeps holds behind every run. -/
theorem calls_keeps {P : σ → Prop} (keeps : ∀ state, P state → P (step state).2) {state : σ}
    (start : P state) (times : Nat) : P (calls step times state).2 := by
  induction times generalizing state with
  | zero => exact start
  | succ times ih => exact ih (keeps state start)

theorem calls_of_stuck {state : σ} (stuck : (step state).2 = state) (times : Nat) :
    (calls step times state).2 = state := by
  induction times with
  | zero => rfl
  | succ times ih => rw [calls_succ, stuck, ih]

/-- If every call that changes the state lowers a measure, no call changes anything once there were
as many calls as the measure was high. -/
theorem stuck_calls (measure : σ → Nat)
    (lowers : ∀ state, (step state).2 = state ∨ measure (step state).2 < measure state)
    {times : Nat} {state : σ} (enough : measure state ≤ times) :
    (step (calls step times state).2).2 = (calls step times state).2 := by
  induction times generalizing state with
  | zero =>
    rcases lowers state with stuck | less
    · exact stuck
    · omega
  | succ times ih =>
    rcases lowers state with stuck | less
    · rw [calls_of_stuck stuck, stuck]
    · apply ih
      omega

theorem calls_eq_of_le (measure : σ → Nat)
    (lowers : ∀ state, (step state).2 = state ∨ measure (step state).2 < measure state)
    {m n : Nat} {state : σ} (enough : measure state ≤ m) (le : m ≤ n) :
    (calls step n state).2 = (calls step m state).2 := by
  rcases Nat.exists_eq_add_of_le le with ⟨k, rfl⟩
  rw [calls_add, calls_of_stuck (stuck_calls measure lowers enough)]

end Runs

/-- A step that does on images what another does on states does so through a run. -/
theorem calls_map {step : σ → β × σ} {step' : τ → γ × τ} {onState : σ → τ} {onResult : β → γ}
    (follows : ∀ state,
      step' (onState state) = (onResult (step state).1, onState (step state).2))
    (times : Nat) (state : σ) :
    calls step' times (onState state)
      = ((calls step times state).1.map onResult, onState (calls step times state).2) := by
  induction times generalizing state with
  | zero => rfl
  | succ times ih =>
    have first := follows state
    have later := ih (step state).2
    rw [calls_succ, calls_succ, first, later, List.map_cons]

end RecordQuery
