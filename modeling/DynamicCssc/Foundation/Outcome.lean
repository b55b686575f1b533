import DynamicCssc.Foundation.Checked

/-! The outcomes of a program that may raise: a postcondition for what it returns and one for what it
raises. The rules follow the shape of the program, loops included. -/
namespace Foundation.Outcome

variable {ε α β σ : Type} {fails : ε → Prop}

/-- What the program returns satisfies `post`, and what it raises satisfies `fails`. -/
def Ends (post : α → Prop) (fails : ε → Prop) : Except ε α → Prop
  | .ok value => post value
  | .error error => fails error

theorem Ends.returned {post : α → Prop} {program : Except ε α} {value : α}
    (ends : Ends post fails program) (run : program = .ok value) : post value := by
  rw [run] at ends
  exact ends

theorem Ends.raised {post : α → Prop} {program : Except ε α} {error : ε}
    (ends : Ends post fails program) (run : program = .error error) : fails error := by
  rw [run] at ends
  exact ends

theorem Ends.mono {post wider : α → Prop} {program : Except ε α} (ends : Ends post fails program)
    (weaker : ∀ value, post value → wider value) : Ends wider fails program := by
  cases program with
  | error error => exact ends
  | ok value => exact weaker value ends

theorem Ends.bind {middle : α → Prop} {post : β → Prop} {first : Except ε α} {next : α → Except ε β}
    (ends : Ends middle fails first) (rest : ∀ value, middle value → Ends post fails (next value)) :
    Ends post fails (first >>= next) := by
  cases first with
  | error error => exact ends
  | ok value => exact rest value ends

theorem Ends.require {condition : Prop} [Decidable condition] {error : ε} {next : Unit → Except ε β}
    {post : β → Prop} (raises : ¬condition → fails error)
    (rest : condition → Ends post fails (next ())) :
    Ends post fails (Checked.require condition error >>= next) := by
  by_cases holds : condition
  · rw [Checked.require_true condition error holds]
    exact rest holds
  · rw [Checked.require,if_neg holds]
    exact raises holds

theorem Ends.foldlM {step : σ → α → Except ε σ} (holds : List α → σ → Prop) (items : List α)
    (steps : ∀ item rest state, item ∈ items → holds (item :: rest) state →
      Ends (holds rest) fails (step state item))
    (state : σ) (start : holds items state) : Ends (holds []) fails (items.foldlM step state) := by
  suffices suffix : ∀ rest state, rest ⊆ items → holds rest state →
      Ends (holds []) fails (rest.foldlM step state) from suffix items state (List.Subset.refl _) start
  intro rest
  induction rest with
  | nil =>
    intro state _ start
    exact start
  | cons item rest ih =>
    intro state within start
    rw [List.foldlM_cons]
    exact (steps item rest state (within List.mem_cons_self) start).bind fun next kept =>
      ih next (fun other member => within (List.mem_cons_of_mem _ member)) kept

theorem Ends.eachDistinct {κ : Type} [DecidableEq κ] (key : α → κ) (before : α → Except ε Unit)
    (duplicate : ε) (after : α → Except ε Unit) (first second : α → Prop) (seen : List κ) (items : List α)
    (ahead : ∀ item, Ends (fun _ => first item) fails (before item)) (raises : fails duplicate)
    (behind : ∀ item, Ends (fun _ => second item) fails (after item)) :
    Ends (fun _ => ∀ item ∈ items, first item ∧ second item) fails
      (Checked.eachDistinct key before duplicate after seen items) := by
  induction items generalizing seen with
  | nil => exact fun item member => absurd member List.not_mem_nil
  | cons item items ih =>
    refine (ahead item).bind fun _ passed => Ends.require (fun _ => raises) fun _ =>
      (behind item).bind fun _ held => (ih _).mono fun _ rest => ?_
    exact List.forall_mem_cons.mpr ⟨⟨passed,held⟩,rest⟩

end Foundation.Outcome
