import Mathlib.Data.List.Basic

/-! Sessions on a database: a computation that may raise keeps the writes it made so far,
and a transaction undoes them when it does. -/
namespace Foundation.Transaction

/-- A computation on a state `σ`. When it raises, the state still holds its writes. -/
def Session (σ ε α : Type) := σ → Except ε α × σ

variable {σ ε α β : Type}

instance : Monad (Session σ ε) where
  pure value := fun state => (.ok value,state)
  bind first next := fun state =>
    match first state with
    | (.ok value,after) => next value after
    | (.error error,after) => (.error error,after)

def require (condition : σ → Prop) [DecidablePred condition] (error : ε) : Session σ ε Unit :=
  fun state => if condition state then (.ok (),state) else (.error error,state)

def modify (change : σ → σ) : Session σ ε Unit := fun state => (.ok (),change state)

def check (result : Except ε α) : Session σ ε α := fun state => (result,state)

def each (write : α → Session σ ε Unit) : List α → Session σ ε Unit
  | [] => pure ()
  | row :: rows => write row >>= fun _ => each write rows

/-- `BEGIN`, the body, then `COMMIT`; any exception rolls every write back. -/
def transaction (body : Session σ ε α) : Session σ ε α := fun state =>
  match body state with
  | (.ok value,after) => (.ok value,after)
  | (.error error,_) => (.error error,state)

theorem pure_ok (value result : α) (before after : σ) :
    (pure value : Session σ ε α) before = (.ok result,after) ↔ result = value ∧ after = before := by
  simp only [pure,Prod.mk.injEq,Except.ok.injEq]
  exact ⟨fun ⟨a,b⟩ => ⟨a.symm,b.symm⟩,fun ⟨a,b⟩ => ⟨a.symm,b.symm⟩⟩

theorem bind_ok (first : Session σ ε α) (next : α → Session σ ε β) (result : β)
    (before after : σ) : (first >>= next) before = (.ok result,after) ↔
      ∃ value middle, first before = (.ok value,middle) ∧ next value middle = (.ok result,after) := by
  change (match first before with
    | (.ok value,after) => next value after
    | (.error error,after) => (.error error,after)) = (.ok result,after) ↔ _
  cases run : first before with
  | mk outcome middle =>
    cases outcome with
    | error error => simp
    | ok value =>
      constructor
      · intro rest
        exact ⟨value,middle,rfl,rest⟩
      · rintro ⟨_,_,same,rest⟩
        obtain ⟨rfl,rfl⟩ : value = _ ∧ middle = _ := by simpa using same
        exact rest

theorem require_ok (condition : σ → Prop) [DecidablePred condition] (error : ε) (done : Unit)
    (before after : σ) : require condition error before = (.ok done,after) ↔
      condition before ∧ after = before := by
  unfold require
  split
  · rename_i holds
    simp [holds,eq_comm]
  · rename_i fails
    simp [fails]

theorem modify_ok (change : σ → σ) (done : Unit) (before after : σ) :
    (modify change : Session σ ε Unit) before = (.ok done,after) ↔ after = change before := by
  simp [modify,eq_comm]

theorem check_ok (result : Except ε α) (value : α) (before after : σ) :
    check result before = (.ok value,after) ↔ result = .ok value ∧ after = before := by
  simp [check,eq_comm]

/-- A transaction commits exactly the runs that return. -/
theorem transaction_ok (body : Session σ ε α) (value : α) (before after : σ) :
    transaction body before = (.ok value,after) ↔ body before = (.ok value,after) := by
  unfold transaction
  cases run : body before with
  | mk outcome middle => cases outcome <;> simp

private theorem transaction_error (body : Session σ ε α) (error : ε) (before after : σ)
    (raised : transaction body before = (.error error,after)) : after = before := by
  unfold transaction at raised
  cases run : body before with
  | mk outcome middle =>
    rw [run] at raised
    cases outcome with
    | ok value => simp at raised
    | error other => simpa [eq_comm] using (Prod.mk.inj raised).2

/-- Rows that are written one after the other, each under its own condition. -/
theorem each_ok (write : α → Session σ ε Unit) (store : σ → List α → σ)
    (admits : σ → α → Prop) (rows : List α) (before after : σ) (done : Unit)
    (single : ∀ row state next, write row state = (.ok (),next) ↔
      admits state row ∧ next = store state [row])
    (empty : ∀ state, store state [] = state)
    (append : ∀ state row rest, store (store state [row]) rest = store state (row :: rest)) :
    each write rows before = (.ok done,after) ↔
      (∀ earlier row later, rows = earlier ++ row :: later → admits (store before earlier) row) ∧
        after = store before rows := by
  induction rows generalizing before with
  | nil =>
    rw [each,pure_ok,empty]
    simp
  | cons row rows ih =>
    rw [each,bind_ok]
    constructor
    · rintro ⟨_,middle,first,rest⟩
      obtain ⟨admitted,rfl⟩ := (single row before middle).mp first
      obtain ⟨later,rfl⟩ := (ih (store before [row])).mp rest
      refine ⟨?_,append before row rows⟩
      intro earlier other tail split
      cases earlier with
      | nil =>
        rw [empty,← (List.cons.inj split).1]
        exact admitted
      | cons head earlier =>
        obtain ⟨rfl,tails⟩ := List.cons.inj split
        rw [← append]
        exact later earlier other tail tails
    · rintro ⟨admitted,rfl⟩
      have first := admitted [] row rows rfl
      rw [empty] at first
      refine ⟨(),store before [row],(single row before _).mpr ⟨first,rfl⟩,(ih _).mpr ⟨?_,?_⟩⟩
      · intro earlier other tail split
        rw [append]
        exact admitted (row :: earlier) other tail (by rw [split]; rfl)
      · exact (append before row rows).symm

def ReadOnly (body : Session σ ε α) : Prop := ∀ state, (body state).2 = state

/-- A computation that leaves the state as it was whenever it raises. -/
def Clean (body : Session σ ε α) : Prop :=
  ∀ error before after, body before = (.error error,after) → after = before

theorem require_readOnly (condition : σ → Prop) [DecidablePred condition] (error : ε) :
    ReadOnly (require condition error) := by
  intro state
  unfold require
  split <;> rfl

theorem check_readOnly (result : Except ε α) : ReadOnly (check result : Session σ ε α) := fun _ => rfl

theorem pure_readOnly (value : α) : ReadOnly (pure value : Session σ ε α) := fun _ => rfl

theorem ReadOnly.bind {first : Session σ ε α} {next : α → Session σ ε β} (reads : ReadOnly first)
    (rest : ∀ value, ReadOnly (next value)) : ReadOnly (first >>= next) := by
  intro state
  have kept := reads state
  change (match first state with
    | (.ok value,after) => next value after
    | (.error error,after) => (.error error,after)).2 = state
  cases run : first state with
  | mk outcome middle =>
    rw [run] at kept
    cases outcome with
    | error error => exact kept
    | ok value => rw [← kept]; exact rest value middle

theorem ReadOnly.clean {body : Session σ ε α} (reads : ReadOnly body) : Clean body := by
  intro error before after raised
  rw [← reads before,raised]

theorem ReadOnly.bind_clean {first : Session σ ε α} {next : α → Session σ ε β}
    (reads : ReadOnly first) (rest : ∀ value, Clean (next value)) : Clean (first >>= next) := by
  intro error before after raised
  have kept := reads before
  change (match first before with
    | (.ok value,after) => next value after
    | (.error error,after) => (.error error,after)) = (.error error,after) at raised
  cases run : first before with
  | mk outcome middle =>
    rw [run] at raised kept
    change middle = before at kept
    subst kept
    cases outcome with
    | error other => exact (Prod.mk.inj raised).2.symm
    | ok value => exact rest value error middle after raised

theorem Clean.bind_pure {first : Session σ ε α} (clean : Clean first) (result : α → β) :
    Clean (first >>= fun value => pure (result value)) := by
  intro error before after raised
  change (match first before with
    | (.ok value,after) => (pure (result value) : Session σ ε β) after
    | (.error error,after) => (.error error,after)) = (.error error,after) at raised
  cases run : first before with
  | mk outcome middle =>
    rw [run] at raised
    cases outcome with
    | error other => exact (Prod.mk.inj raised).2 ▸ clean other before middle run
    | ok value => exact absurd (Prod.mk.inj raised).1 (by simp)

theorem transaction_clean (body : Session σ ε α) : Clean (transaction body) :=
  fun error before after raised => transaction_error body error before after raised

end Foundation.Transaction
