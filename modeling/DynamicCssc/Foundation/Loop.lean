import DynamicCssc.Foundation.Checked
import Mathlib.Tactic

/-! A loop that runs while a test holds, for a given number of rounds at most. A measure that every
round lowers bounds the rounds it takes, and more rounds than that change nothing. -/
namespace Foundation.Loop

variable {σ ε : Type}

/-- `while test(state): state = body(state)`; `stuck` when the rounds run out. -/
def run (test : σ → Bool) (body : σ → Except ε σ) (stuck : ε) : ℕ → σ → Except ε σ
  | 0, state => if test state then .error stuck else .ok state
  | rounds + 1, state => if test state then body state >>= run test body stuck rounds else .ok state

/-- The loop ends in a state that keeps the invariant and fails the test. -/
theorem run_ends (test : σ → Bool) (body : σ → Except ε σ) (stuck : ε) (invariant : σ → Prop)
    (measure : σ → ℕ)
    (round : ∀ state, invariant state → test state = true →
      ∃ next, body state = .ok next ∧ invariant next ∧ measure next < measure state)
    (start : σ) (initial : invariant start) :
    ∃ final, invariant final ∧ test final = false ∧
      ∀ rounds, measure start ≤ rounds → run test body stuck rounds start = .ok final := by
  induction size : measure start using Nat.strong_induction_on generalizing start with
  | _ size ih =>
    by_cases going : test start = true
    · obtain ⟨next,made,kept,lower⟩ := round start initial going
      obtain ⟨final,holds,stopped,ends⟩ := ih (measure next) (by omega) next kept rfl
      refine ⟨final,holds,stopped,?_⟩
      intro rounds enough
      obtain ⟨fewer,rfl⟩ : ∃ fewer, rounds = fewer + 1 := ⟨rounds - 1,by omega⟩
      rw [run,if_pos going,made]
      exact ends fewer (by omega)
    · have stopped : test start = false := by simpa using going
      refine ⟨start,initial,stopped,?_⟩
      intro rounds _
      cases rounds <;> simp [run,stopped]

/-- A fold over a list, with an invariant for each place in it. -/
theorem foldlM_places {α : Type} (step : σ → α → Except ε σ) (items : List α) (holds : ℕ → σ → Prop)
    (steps : ∀ place item state, items[place]? = some item → holds place state →
      ∃ next, step state item = .ok next ∧ holds (place + 1) next)
    (initial : σ) (start : holds 0 initial) :
    ∃ final, items.foldlM step initial = .ok final ∧ holds items.length final := by
  induction items generalizing holds initial with
  | nil => exact ⟨initial,rfl,start⟩
  | cons item items ih =>
    obtain ⟨next,first,kept⟩ := steps 0 item initial rfl start
    obtain ⟨final,rest,done⟩ := ih (fun place => holds (place + 1))
      (fun place other state here => steps (place + 1) other state here) next kept
    refine ⟨final,?_,done⟩
    rw [List.foldlM_cons,first]
    exact rest

theorem foldlM_taken {α : Type} (step : σ → α → Except ε σ) (items : List α) (initial final : σ)
    (run : items.foldlM step initial = .ok final) (item : α) (member : item ∈ items) :
    ∃ before after, step before item = .ok after := by
  induction items generalizing initial with
  | nil => cases member
  | cons first items ih =>
    rw [List.foldlM_cons] at run
    obtain ⟨next,taken,rest⟩ := (Checked.bind_success _ _ _).mp run
    rcases List.mem_cons.mp member with rfl | later
    · exact ⟨initial,next,taken⟩
    · exact ih next rest later

theorem run_mono (test : σ → Bool) (body : σ → Except ε σ) (stuck : ε) (rounds more : ℕ)
    (enough : rounds ≤ more) (start final : σ) (ended : run test body stuck rounds start = .ok final) :
    run test body stuck more start = .ok final := by
  induction rounds generalizing more start with
  | zero =>
    rw [run] at ended
    split at ended
    · cases ended
    · rename_i stopped
      cases more with
      | zero => rw [run,if_neg stopped,ended]
      | succ more => rw [run,if_neg stopped,ended]
  | succ rounds ih =>
    obtain ⟨more,rfl⟩ : ∃ fewer, more = fewer + 1 := ⟨more - 1,by omega⟩
    rw [run] at ended ⊢
    split at ended
    · rename_i going
      obtain ⟨next,first,rest⟩ := (Checked.bind_success _ _ _).mp ended
      rw [if_pos going]
      exact (Checked.bind_success _ _ _).mpr ⟨next,first,ih more (by omega) next rest⟩
    · rename_i stopped
      rw [if_neg stopped,ended]

/-- A fold whose steps return the same and more. -/
theorem foldlM_mono {α : Type} (step other : σ → α → Except ε σ) (items : List α)
    (each : ∀ state item next, step state item = .ok next → other state item = .ok next)
    (initial final : σ) (run : items.foldlM step initial = .ok final) :
    items.foldlM other initial = .ok final := by
  induction items generalizing initial with
  | nil => exact run
  | cons item items ih =>
    rw [List.foldlM_cons] at run ⊢
    obtain ⟨next,first,rest⟩ := (Checked.bind_success _ _ _).mp run
    exact (Checked.bind_success _ _ _).mpr ⟨next,each _ _ _ first,ih next rest⟩

end Foundation.Loop
