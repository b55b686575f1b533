import DynamicCssc.Foundation.Checked
import Mathlib.Tactic

/-! Runs of a step function that may refuse a label: the labels taken and the states passed, in order. -/
namespace Foundation.Runs

variable {σ α ε : Type}

/-- From a state, by accepted labels, through states to a last one. -/
inductive Run (step : σ → α → Except ε σ) (start : σ) : List α → List σ → σ → Prop
  | start : Run step start [] [start] start
  | next (labels : List α) (states : List σ) (last : σ) (label : α) (state : σ)
      (run : Run step start labels states last) (accepted : step last label = .ok state) :
      Run step start (labels ++ [label]) (states ++ [state]) state

variable {step : σ → α → Except ε σ} {start last : σ} {labels : List α} {states : List σ}

/-- What holds at the start and is kept by every accepted label holds along the run. -/
theorem Run.invariant (holds : List α → List σ → σ → Prop) (initial : holds [] [start] start)
    (keeps : ∀ labels states last label state, Run step start labels states last →
      holds labels states last → step last label = .ok state →
      holds (labels ++ [label]) (states ++ [state]) state)
    (run : Run step start labels states last) : holds labels states last := by
  induction run with
  | start => exact initial
  | next labels states last label state before accepted ih =>
    exact keeps labels states last label state before ih accepted

theorem Run.length (run : Run step start labels states last) : states.length = labels.length + 1 := by
  induction run with
  | start => rfl
  | next labels states last label state before accepted ih => simp [ih]

theorem Run.ends (run : Run step start labels states last) : states[labels.length]? = some last := by
  induction run with
  | start => rfl
  | next labels states last label state before accepted ih =>
    rw [List.length_append,List.length_singleton,← before.length,List.getElem?_concat_length]

theorem Run.starts (run : Run step start labels states last) : states[0]? = some start := by
  induction run with
  | start => rfl
  | next labels states last label state before accepted ih =>
    rw [List.getElem?_append_left (by rw [before.length]; omega)]
    exact ih

theorem Run.consecutive (run : Run step start labels states last) (place : ℕ) (before after : σ)
    (here : states[place]? = some before) (there : states[place + 1]? = some after) :
    ∃ label, labels[place]? = some label ∧ step before label = .ok after := by
  induction run generalizing place with
  | start =>
    rw [List.getElem?_eq_none (by simp)] at there
    cases there
  | next labels states last label state earlier accepted ih =>
    have size := earlier.length
    have bound := (List.getElem?_eq_some_iff.mp there).1
    rw [List.length_append,List.length_singleton] at bound
    rw [List.getElem?_append_left (by omega)] at here
    by_cases final : place = labels.length
    · subst final
      rw [List.getElem?_append_right (by omega),← size,Nat.sub_self,List.getElem?_cons_zero,
        Option.some.injEq] at there
      rw [earlier.ends,Option.some.injEq] at here
      subst here there
      exact ⟨label,by simp,accepted⟩
    · rw [List.getElem?_append_left (by omega)] at there
      obtain ⟨taken,found,stepped⟩ := ih place here there
      refine ⟨taken,?_,stepped⟩
      rw [List.getElem?_append_left (by omega)]
      exact found

theorem Run.predecessor (run : Run step start labels states last) (place : ℕ) (state : σ)
    (here : states[place]? = some state) (later : state ≠ start ∨ 0 < place) :
    ∃ before earlier label, place = earlier + 1 ∧ states[earlier]? = some before ∧
      labels[earlier]? = some label ∧ step before label = .ok state := by
  cases place with
  | zero =>
    rw [run.starts,Option.some.injEq] at here
    rcases later with other | positive
    · exact absurd here.symm other
    · omega
  | succ earlier =>
    have bound := (List.getElem?_eq_some_iff.mp here).1
    have found : states[earlier]? = some states[earlier] := List.getElem?_eq_getElem (by omega)
    obtain ⟨label,taken,stepped⟩ := run.consecutive earlier _ _ found here
    exact ⟨_,earlier,label,rfl,found,taken,stepped⟩

theorem Run.upto (run : Run step start labels states last) (place : ℕ) (state : σ)
    (here : states[place]? = some state) :
    Run step start (labels.take place) (states.take (place + 1)) state := by
  induction run generalizing place with
  | start =>
    have bound := (List.getElem?_eq_some_iff.mp here).1
    have zero : place = 0 := by simpa using bound
    subst zero
    rw [List.getElem?_cons_zero,Option.some.injEq] at here
    subst here
    exact .start
  | next labels states last label after earlier accepted ih =>
    have size := earlier.length
    have bound := (List.getElem?_eq_some_iff.mp here).1
    rw [List.length_append,List.length_singleton] at bound
    by_cases final : place = labels.length + 1
    · subst final
      rw [List.getElem?_append_right (by omega),size,Nat.sub_self,List.getElem?_cons_zero,
        Option.some.injEq] at here
      subst here
      rw [List.take_of_length_le (by simp),List.take_of_length_le (by simp [size])]
      exact .next labels states last label after earlier accepted
    · rw [List.getElem?_append_left (by omega)] at here
      rw [List.take_append_of_le_length (by omega),List.take_append_of_le_length (by omega)]
      exact ih place here

end Foundation.Runs
