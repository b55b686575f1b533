import Mathlib.Data.List.Nodup
import Mathlib.Data.List.Basic

/-! Checks that either pass or raise, and the loops that run them.
A loop of checks passes exactly when every check in it does, so later proofs
read the conditions of a validator off these lemmas and never unfold a loop. -/
namespace Foundation.Checked

variable {ε α β σ κ : Type}

theorem bind_success (first : Except ε α) (next : α → Except ε β) (result : β) :
    (first >>= next) = .ok result ↔ ∃ value, first = .ok value ∧ next value = .ok result := by
  cases first with
  | error error => simp [bind,Except.bind]
  | ok value => simp [bind,Except.bind]

theorem then_success (first : Except ε Unit) (next : Unit → Except ε β) (result : β) :
    (first >>= next) = .ok result ↔ first = .ok () ∧ next () = .ok result := by
  rw [bind_success]
  exact ⟨fun ⟨_,passed,rest⟩ => ⟨passed,rest⟩,fun ⟨passed,rest⟩ => ⟨(),passed,rest⟩⟩

theorem ok_bind (value : α) (next : α → Except ε β) : (.ok value >>= next) = next value := rfl

theorem pass (first : Except ε Unit) (next : Unit → Except ε β) (result : β)
    (passed : first = .ok ()) (rest : next () = .ok result) : (first >>= next) = .ok result :=
  (then_success first next result).mpr ⟨passed,rest⟩

/-- Raise `error` unless the condition holds. -/
def require (condition : Prop) [Decidable condition] (error : ε) : Except ε Unit :=
  if condition then .ok () else .error error

@[simp] theorem require_success (condition : Prop) [Decidable condition] (error : ε) (done : Unit) :
    require condition error = .ok done ↔ condition := by
  unfold require
  split <;> simp_all

theorem require_true (condition : Prop) [Decidable condition] (error : ε) (holds : condition) :
    require condition error = .ok () := (require_success condition error ()).mpr holds

def each (check : α → Except ε Unit) : List α → Except ε Unit
  | [] => .ok ()
  | item :: items => check item >>= fun _ => each check items

@[simp] theorem each_success (check : α → Except ε Unit) (items : List α) (done : Unit) :
    each check items = .ok done ↔ ∀ item ∈ items, check item = .ok () := by
  induction items with
  | nil => simp [each]
  | cons item items ih => simp [each,then_success,ih]

/-- A loop that also keeps the set of keys seen so far and raises on the first
key that comes back. `before` runs ahead of the membership test, `after` behind it. -/
def eachDistinct [DecidableEq κ] (key : α → κ) (before : α → Except ε Unit) (duplicate : ε)
    (after : α → Except ε Unit) : List κ → List α → Except ε Unit
  | _, [] => .ok ()
  | seen, item :: items => do
    before item
    require (key item ∉ seen) duplicate
    after item
    eachDistinct key before duplicate after (key item :: seen) items

private theorem eachDistinct_from [DecidableEq κ] (key : α → κ) (before : α → Except ε Unit) (duplicate : ε)
    (after : α → Except ε Unit) (seen : List κ) (items : List α) (done : Unit) :
    eachDistinct key before duplicate after seen items = .ok done ↔
      ((items.map key).Nodup ∧ ∀ item ∈ items, key item ∉ seen) ∧
      ∀ item ∈ items, before item = .ok () ∧ after item = .ok () := by
  induction items generalizing seen with
  | nil => simp [eachDistinct]
  | cons item items ih =>
    simp only [eachDistinct,then_success,require_success,ih,List.map_cons,List.nodup_cons,
      List.mem_cons,List.mem_map,forall_eq_or_imp,not_or]
    constructor
    · rintro ⟨hb,fresh,ha,⟨nodup,apart⟩,rest⟩
      refine ⟨⟨⟨?_,nodup⟩,fresh,fun other member => (apart other member).2⟩,⟨hb,ha⟩,rest⟩
      rintro ⟨other,member,same⟩
      exact (apart other member).1 same
    · rintro ⟨⟨⟨apart,nodup⟩,fresh,old⟩,⟨hb,ha⟩,rest⟩
      exact ⟨hb,fresh,ha,⟨nodup,fun other member =>
        ⟨fun same => apart ⟨other,member,same⟩,old other member⟩⟩,rest⟩

@[simp] theorem eachDistinct_success [DecidableEq κ] (key : α → κ) (before : α → Except ε Unit)
    (duplicate : ε) (after : α → Except ε Unit) (items : List α) (done : Unit) :
    eachDistinct key before duplicate after [] items = .ok done ↔
      (items.map key).Nodup ∧ ∀ item ∈ items, before item = .ok () ∧ after item = .ok () := by
  rw [eachDistinct_from]
  simp

/-- A fold that may raise keeps every invariant that its steps keep. -/
theorem foldlM_invariant (step : σ → α → Except ε σ) (invariant : σ → Prop)
    (items : List α)
    (keeps : ∀ state item next, item ∈ items → invariant state → step state item = .ok next →
      invariant next)
    (initial final : σ) (start : invariant initial) (run : items.foldlM step initial = .ok final) :
    invariant final := by
  induction items generalizing initial with
  | nil =>
    simp only [List.foldlM_nil,pure,Except.pure,Except.ok.injEq] at run
    exact run ▸ start
  | cons item items ih =>
    rw [List.foldlM_cons,bind_success] at run
    obtain ⟨next,first,rest⟩ := run
    exact ih (fun state other next member => keeps state other next (by simp [member]))
      next (keeps initial item next (by simp) start first) rest

theorem foldlM_ok (step : σ → α → Except ε σ) (next : σ → α → σ) (items : List α) (initial : σ)
    (steps : ∀ state item, item ∈ items → step state item = .ok (next state item)) :
    items.foldlM step initial = .ok (items.foldl next initial) := by
  induction items generalizing initial with
  | nil => rfl
  | cons item items ih =>
    rw [List.foldlM_cons,steps initial item (by simp),ok_bind,List.foldl_cons]
    exact ih _ fun state other member => steps state other (by simp [member])

/-- A fold whose steps check their item and then go on in one way. -/
theorem foldlM_success (step : σ → α → Except ε σ) (next : σ → α → σ) (passes : α → Prop)
    (steps : ∀ state item result, step state item = .ok result ↔ passes item ∧ result = next state item)
    (items : List α) (initial result : σ) : items.foldlM step initial = .ok result ↔
      (∀ item ∈ items, passes item) ∧ result = items.foldl next initial := by
  induction items generalizing initial with
  | nil => simp [pure,Except.pure,eq_comm]
  | cons item items ih =>
    simp only [List.foldlM_cons,bind_success,steps,ih,List.mem_cons,forall_eq_or_imp,List.foldl_cons]
    constructor
    · intro ⟨_,⟨here,next⟩,rest,last⟩
      exact ⟨⟨here,rest⟩,next ▸ last⟩
    · intro ⟨⟨here,rest⟩,last⟩
      exact ⟨_,⟨here,rfl⟩,rest,last⟩

/-- Two folds whose steps correspond return what corresponds. -/
theorem foldlM_map {τ : Type} (read : σ → τ) (image : α → β) (step : σ → α → Except ε σ)
    (other : τ → β → Except ε τ)
    (steps : ∀ state item, (step state item).map read = other (read state) (image item))
    (items : List α) (initial : σ) :
    (items.foldlM step initial).map read = (items.map image).foldlM other (read initial) := by
  induction items generalizing initial with
  | nil => rfl
  | cons item items ih =>
    rw [List.foldlM_cons,List.map_cons,List.foldlM_cons,← steps]
    cases step initial item with
    | error failure => rfl
    | ok next => exact ih next

theorem mapM_total (f : α → Except ε β) (g : α → β) (items : List α)
    (steps : ∀ item ∈ items, f item = .ok (g item)) : items.mapM f = .ok (items.map g) := by
  induction items with
  | nil => rfl
  | cons item items ih =>
    rw [List.mapM_cons,steps item (by simp),ih (fun other member => steps other (by simp [member]))]
    rfl

theorem mem_of_mapM {f : α → Except ε β} {items : List α} {results : List β}
    (mapped : items.mapM f = .ok results) : ∀ result ∈ results, ∃ item ∈ items, f item = .ok result := by
  induction items generalizing results with
  | nil =>
    simp only [List.mapM_nil,pure,Except.pure,Except.ok.injEq] at mapped
    subst mapped
    simp
  | cons item items ih =>
    simp only [List.mapM_cons,bind_success,pure,Except.pure,Except.ok.injEq] at mapped
    obtain ⟨first,made,rest,others,rfl⟩ := mapped
    intro result member
    rcases List.mem_cons.mp member with rfl | later
    · exact ⟨item,by simp,made⟩
    · obtain ⟨source,inside,same⟩ := ih others result later
      exact ⟨source,List.mem_cons_of_mem _ inside,same⟩

theorem mapM_covers {f : α → Except ε β} {items : List α} {results : List β}
    (mapped : items.mapM f = .ok results) : ∀ item ∈ items, ∃ result ∈ results, f item = .ok result := by
  induction items generalizing results with
  | nil => simp
  | cons item items ih =>
    simp only [List.mapM_cons,bind_success,pure,Except.pure,Except.ok.injEq] at mapped
    obtain ⟨first,made,rest,others,rfl⟩ := mapped
    intro other member
    rcases List.mem_cons.mp member with rfl | later
    · exact ⟨first,List.mem_cons_self,made⟩
    · obtain ⟨result,inside,same⟩ := ih others other later
      exact ⟨result,List.mem_cons_of_mem _ inside,same⟩

theorem ok_of_map {read : α → β} {run : Except ε α} {result : β}
    (done : run.map read = .ok result) : ∃ value, run = .ok value ∧ read value = result := by
  cases run with
  | error failure => cases done
  | ok value => exact ⟨value,rfl,Except.ok.inj done⟩

theorem ok_of_any (result : Except ε α) (test : α → Bool) (passes : result.toOption.any test = true) :
    ∃ value, result = .ok value ∧ test value = true := by
  cases result with
  | error error => cases passes
  | ok value => exact ⟨value,rfl,passes⟩

end Foundation.Checked
