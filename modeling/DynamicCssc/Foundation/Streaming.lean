import DynamicCssc.Foundation.Checked

/-! Machines that are fed a stream in fragments. Where the state after a prefix can be computed
from the prefix alone, and a fragment is taken exactly when the longer prefix is still admitted,
the outcome does not depend on how the stream was cut. -/
namespace Foundation.Streaming
open Foundation.Checked

variable {ε β σ : Type}

theorem foldlM_prefix (step : σ → List β → Except ε σ) (stateAt : List β → σ)
    (admitted : List β → Prop)
    (closed : ∀ seen fragment, admitted (seen ++ fragment) → admitted seen)
    (steps : ∀ seen fragment next, admitted seen → fragment ≠ [] →
      (step (stateAt seen) fragment = .ok next ↔
        admitted (seen ++ fragment) ∧ next = stateAt (seen ++ fragment)))
    (fragments : List (List β)) (nonempty : ∀ fragment ∈ fragments, fragment ≠ [])
    (seen : List β) (start : admitted seen) (final : σ) :
    fragments.foldlM step (stateAt seen) = .ok final ↔
      admitted (seen ++ fragments.flatten) ∧ final = stateAt (seen ++ fragments.flatten) := by
  induction fragments generalizing seen with
  | nil => simp [pure,Except.pure,start,eq_comm]
  | cons fragment fragments ih =>
    rw [List.foldlM_cons,bind_success,List.flatten_cons,← List.append_assoc]
    have rest : ∀ other ∈ fragments, other ≠ [] := fun other member => nonempty other (by simp [member])
    constructor
    · intro ⟨next,taken,run⟩
      obtain ⟨longer,rfl⟩ := (steps seen fragment next start (nonempty fragment (by simp))).mp taken
      exact (ih rest (seen ++ fragment) longer).mp run
    · intro ⟨whole,same⟩
      have longer := closed (seen ++ fragment) fragments.flatten whole
      exact ⟨_,(steps seen fragment _ start (nonempty fragment (by simp))).mpr ⟨longer,rfl⟩,
        (ih rest (seen ++ fragment) longer).mpr ⟨whole,same⟩⟩

end Foundation.Streaming
