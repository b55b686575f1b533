import DynamicCssc.CampaignSteps

/-! The campaign without its documents: the stage, the attempt by which each unit was committed, and the
attempt at hand. The documents show such a view, and an accepted transition moves both alike. -/
namespace DynamicCssc
open Foundation

structure CampaignView where
  stage : CampaignStateName
  attempts : List ℤ
  attempt : ℤ
deriving DecidableEq, Repr

namespace CampaignView

def opened : CampaignView := ⟨.campaignOpen,[],1⟩

/-- One unit in the campaign may be attempted a second time. -/
def retryUsed (view : CampaignView) : Bool := decide (2 ∈ view.attempts ∨ view.attempt = 2)

def ordinal (view : CampaignView) : ℤ :=
  if view.stage = .unitCommitted then (view.attempts.length : ℤ) - 1 else view.attempts.length

/-- The stages between a reservation and the end of its unit. -/
def active (stage : CampaignStateName) : Prop :=
  stage = .unitReserved ∨ stage = .runBound ∨ stage = .watchArmed ∨ stage = .unitProviderFailed

def Permits (view : CampaignView) : CampaignTransition → Prop
  | .reserve spec attempt =>
    (equalsInt 1 attempt = true ∧ (view.stage = .campaignOpen ∨ view.stage = .unitCommitted) ∧
      spec.ordinal = view.attempts.length ∧ view.attempts.length < 17) ∨
    (equalsInt 2 attempt = true ∧ view.stage = .unitProviderFailed ∧ view.retryUsed = false ∧
      spec.ordinal = view.attempts.length)
  | .bind _ => view.stage = .unitReserved
  | .arm _ => view.stage = .runBound
  | .commit _ => view.stage = .watchArmed
  | .recordProviderFailure _ _ _ => view.stage = .watchArmed ∧ view.retryUsed = false
  | .closeNoGo _ => view.stage ≠ .campaignNoGo

/-- The number of an attempt, of which `True` is the first. -/
def attemptNumber (attempt : Json) : ℤ := if equalsInt 2 attempt = true then 2 else 1

def after (view : CampaignView) : CampaignTransition → CampaignView
  | .reserve _ attempt => ⟨.unitReserved,view.attempts,attemptNumber attempt⟩
  | .commit _ => ⟨.unitCommitted,view.attempts ++ [view.attempt],view.attempt⟩
  | label => ⟨label.target,view.attempts,view.attempt⟩

theorem ordinal_active {view : CampaignView} (running : active view.stage) :
    view.ordinal = view.attempts.length := by
  rw [ordinal,if_neg]
  intro committed
  simp [active,committed] at running

private theorem attemptNumber_one {attempt : Json} (first : equalsInt 1 attempt = true) : attemptNumber attempt = 1 := by
  rw [attemptNumber,equalsInt_two first]
  rfl

theorem attemptNumber_two {attempt : Json} (second : equalsInt 2 attempt = true) :
    attemptNumber attempt = 2 := if_pos second

/-- What holds of every view that a campaign reaches. -/
structure Valid (view : CampaignView) : Prop where
  opened : view.stage = .campaignOpen → view.attempts = [] ∧ view.attempt = 1
  committed : view.stage = .unitCommitted → view.attempt ∈ view.attempts
  room : active view.stage → view.attempts.length < 17
  fresh : active view.stage → view.attempt = 2 → 2 ∉ view.attempts
  failed : view.stage = .unitProviderFailed → view.retryUsed = false
  bounded : view.attempts.length ≤ 17
  domain : view.attempt = 1 ∨ view.attempt = 2
  domains : ∀ attempt ∈ view.attempts, attempt = 1 ∨ attempt = 2
  once : view.attempts.count 2 ≤ 1

theorem opened_valid : opened.Valid := by
  refine ⟨fun _ => ⟨rfl,rfl⟩,fun stage => ?_,fun stage => ?_,fun _ second => ?_,fun stage => ?_,?_,.inl rfl,?_,?_⟩
  · cases stage
  · simp [opened]
  · simp [opened]
  · cases stage
  · simp [opened]
  · simp [opened]
  · simp [opened]

private theorem retryUsed_false {view : CampaignView} :
    view.retryUsed = false ↔ 2 ∉ view.attempts ∧ view.attempt ≠ 2 := by
  simp [retryUsed]

theorem Valid.after {view : CampaignView} (valid : view.Valid) {label : CampaignTransition}
    (permits : view.Permits label) : (view.after label).Valid := by
  cases label with
  | reserve spec attempt =>
    rcases permits with ⟨first,stage,_,room⟩ | ⟨second,stage,unused,_⟩
    · have number := attemptNumber_one first
      refine ⟨?_,?_,fun _ => room,?_,?_,valid.bounded,.inl number,valid.domains,valid.once⟩ <;>
        simp [CampaignView.after,number]
    · have before := valid.room (.inr (.inr (.inr stage)))
      have none := (retryUsed_false.mp unused).1
      refine ⟨?_,?_,fun _ => before,fun _ _ => none,?_,valid.bounded,.inr (attemptNumber_two second),
        valid.domains,valid.once⟩ <;> simp [CampaignView.after]
  | bind providerRunId =>
    have running : active view.stage := .inl permits
    refine ⟨?_,?_,fun _ => valid.room running,fun _ => valid.fresh running,?_,valid.bounded,valid.domain,
      valid.domains,valid.once⟩ <;> simp [CampaignView.after,CampaignTransition.target]
  | arm watcherSession =>
    have running : active view.stage := .inr (.inl permits)
    refine ⟨?_,?_,fun _ => valid.room running,fun _ => valid.fresh running,?_,valid.bounded,valid.domain,
      valid.domains,valid.once⟩ <;> simp [CampaignView.after,CampaignTransition.target]
  | commit output =>
    have running : active view.stage := .inr (.inr (.inl permits))
    have room := valid.room running
    refine ⟨?_,fun _ => by simp [CampaignView.after],?_,?_,?_,?_,valid.domain,?_,?_⟩
    · simp [CampaignView.after]
    · simp [CampaignView.after,active]
    · simp [CampaignView.after,active]
    · simp [CampaignView.after]
    · simp only [CampaignView.after,List.length_append,List.length_singleton]
      omega
    · intro attempt member
      rcases List.mem_append.mp member with old | new
      · exact valid.domains attempt old
      · rw [List.mem_singleton.mp new]
        exact valid.domain
    · simp only [CampaignView.after,List.count_append]
      by_cases second : view.attempt = 2
      · have none := valid.fresh running second
        rw [List.count_eq_zero_of_not_mem none,second]
        simp
      · have single : [view.attempt].count 2 = 0 :=
          List.count_eq_zero_of_not_mem fun member => second (List.mem_singleton.mp member).symm
        rw [single]
        exact valid.once
  | recordProviderFailure failureClass evidence receipt =>
    have running : active view.stage := .inr (.inr (.inl permits.1))
    refine ⟨?_,?_,fun _ => valid.room running,fun _ => valid.fresh running,fun _ => permits.2,valid.bounded,
      valid.domain,valid.domains,valid.once⟩ <;> simp [CampaignView.after,CampaignTransition.target]
  | closeNoGo reason =>
    refine ⟨?_,?_,?_,?_,?_,valid.bounded,valid.domain,valid.domains,valid.once⟩ <;>
      simp [CampaignView.after,CampaignTransition.target,active]

end CampaignView

/-- A document shows a view. -/
structure Shows (document : CampaignDocument) (view : CampaignView) : Prop where
  stage : document.stateName = some view.stage
  retryUsed : document .retryUsed = .bool view.retryUsed
  attempt : view.stage = .unitCommitted ∨ CampaignView.active view.stage →
    equalsInt view.attempt (document .unitAttemptOrdinal) = true
  ordinal : view.stage = .unitCommitted ∨ CampaignView.active view.stage →
    document .unitOrdinal = .int view.ordinal

namespace Shows

variable {sha : Sha256} {previous next : FollowupCampaignState} {view : CampaignView}
  {label : CampaignTransition} {sequence : ℤ}

theorem stage_eq (shows : Shows previous.document view) {state : CampaignStateName}
    (known : previous.state = some state) : view.stage = state :=
  Option.some.inj (shows.stage.symm.trans known)

theorem unused (shows : Shows previous.document view)
    (unused : isFalse (previous.document .retryUsed) = true) : view.retryUsed = false := by
  rw [shows.retryUsed] at unused
  simpa [isFalse,isBool] using unused

theorem permits (shows : Shows previous.document view) (valid : view.Valid)
    (allowed : label.Allowed previous) : view.Permits label := by
  cases label with
  | reserve spec attempt =>
    rcases allowed with nominal | replacement
    · obtain ⟨first,ordinal,room,_⟩ := nominal
      rw [nominalOrdinal] at ordinal
      split at ordinal
      · rename_i state
        have stage := shows.stage_eq state
        have none := (valid.opened stage).1
        have zero : spec.ordinal = 0 := (Except.ok.inj ordinal).symm
        exact .inl ⟨first,.inl stage,by simp [none,zero],by simp [none]⟩
      · split at ordinal
        · rename_i state
          have stage := shows.stage_eq state
          have named := shows.ordinal (.inl stage)
          rw [CampaignView.ordinal,if_pos stage] at named
          rw [named] at ordinal
          have next : (view.attempts.length : ℤ) - 1 + 1 = spec.ordinal := Except.ok.inj ordinal
          exact .inl ⟨first,.inr stage,by omega,by omega⟩
        · cases ordinal
    · obtain ⟨second,state,unused,same⟩ := replacement
      have stage := shows.stage_eq state
      have named := shows.ordinal (.inr (.inr (.inr (.inr stage))))
      rw [CampaignView.ordinal_active (.inr (.inr (.inr stage)))] at named
      rw [named,equalsInt,beq_iff_eq] at same
      exact .inr ⟨second,stage,shows.unused unused,same.symm⟩
  | bind providerRunId => exact shows.stage_eq allowed.1
  | arm watcherSession => exact shows.stage_eq allowed.1
  | commit output => exact shows.stage_eq allowed.1
  | recordProviderFailure failureClass evidence receipt =>
    exact ⟨shows.stage_eq allowed.1,shows.unused allowed.2.2.2.2⟩
  | closeNoGo reason =>
    intro stage
    exact allowed.1 (stage ▸ shows.stage)

theorem within {document other : CampaignDocument} (shows : Shows document view)
    (running : CampaignView.active view.stage) (stage : CampaignStateName)
    (named : other.stateName = some stage) (moving : CampaignView.active stage)
    (retry : other .retryUsed = document .retryUsed)
    (attempt : other .unitAttemptOrdinal = document .unitAttemptOrdinal)
    (ordinal : other .unitOrdinal = document .unitOrdinal) :
    Shows other ⟨stage,view.attempts,view.attempt⟩ := by
  refine ⟨named,retry.trans shows.retryUsed,fun _ => ?_,fun _ => ?_⟩
  · rw [attempt]
    exact shows.attempt (.inr running)
  have before := shows.ordinal (.inr running)
  rw [CampaignView.ordinal_active running] at before
  rw [CampaignView.ordinal_active moving]
  exact ordinal.trans before

theorem nominal_retry (valid : view.Valid) (spec : FollowupFormalUnitSpec) {attempt : Json}
    (nominal : equalsInt 1 attempt = true)
    (before : view.stage = .campaignOpen ∨ view.stage = .unitCommitted) :
    (view.after (.reserve spec attempt)).retryUsed = view.retryUsed := by
  have number := CampaignView.attemptNumber_one nominal
  rcases before with first | committed
  · simp [CampaignView.retryUsed,CampaignView.after,number,(valid.opened first).2]
  · have member := valid.committed committed
    rw [CampaignView.retryUsed,CampaignView.retryUsed,decide_eq_decide,CampaignView.after,number]
    constructor
    · intro used
      rcases used with earlier | last
      · exact .inl earlier
      · cases last
    · intro used
      rcases used with earlier | last
      · exact .inl earlier
      · exact .inl (last ▸ member)

/-- An accepted transition moves the document as it moves the view. -/
theorem after (shows : Shows previous.document view) (valid : view.Valid)
    (step : CampaignStep sha previous label next sequence) : Shows next.document (view.after label) := by
  have permits := shows.permits valid step.allowed
  have stage : next.document.stateName = some label.target := step.state
  have written := step.document
  cases label with
  | reserve spec attempt =>
    have retry : next.document .retryUsed = .bool (view.after (.reserve spec attempt)).retryUsed := by
      rw [written]
      rcases permits with nominal | replacement
      · obtain ⟨first,before,_⟩ := nominal
        rw [nominal_retry valid spec first before,← shows.retryUsed]
        exact if_pos first
      · obtain ⟨second,_⟩ := replacement
        rw [CampaignView.retryUsed,decide_eq_true (.inr (CampaignView.attemptNumber_two second))]
        refine if_neg fun first => ?_
        rw [equalsInt_two first] at second
        cases second
    have ordinal : spec.ordinal = view.attempts.length := by
      rcases permits with nominal | replacement
      · exact nominal.2.2.1
      · exact replacement.2.2.2
    refine ⟨stage,retry,fun _ => ?_,fun _ => ?_⟩
    · rw [written]
      show equalsInt (CampaignView.attemptNumber attempt) attempt = true
      rcases permits with nominal | replacement
      · rw [CampaignView.attemptNumber_one nominal.1]
        exact nominal.1
      · rw [CampaignView.attemptNumber_two replacement.1]
        exact replacement.1
    · rw [CampaignView.ordinal_active (.inl rfl),written]
      exact congrArg Json.int ordinal
  | bind providerRunId =>
    refine shows.within (.inl permits) .runBound stage (.inr (.inl rfl)) ?_ ?_ ?_ <;>
      (rw [written]; rfl)
  | arm watcherSession =>
    refine shows.within (.inr (.inl permits)) .watchArmed stage (.inr (.inr (.inl rfl))) ?_ ?_ ?_ <;>
      (rw [written]; rfl)
  | commit output =>
    have running : CampaignView.active view.stage := .inr (.inr (.inl permits))
    refine ⟨stage,?_,fun _ => ?_,fun _ => ?_⟩
    · have same : (view.after (.commit output)).retryUsed = view.retryUsed := by
        simp [CampaignView.retryUsed,CampaignView.after,eq_comm]
      rw [same,written]
      exact shows.retryUsed
    · rw [written]
      exact shows.attempt (.inr running)
    · have named := shows.ordinal (.inr running)
      rw [CampaignView.ordinal_active running] at named
      have counted : (view.after (.commit output)).ordinal = view.attempts.length := by
        simp [CampaignView.ordinal,CampaignView.after]
      rw [written,counted]
      exact named
  | recordProviderFailure failureClass evidence receipt =>
    refine shows.within (.inr (.inr (.inl permits.1))) .unitProviderFailed stage
      (.inr (.inr (.inr rfl))) ?_ ?_ ?_ <;> (rw [written]; rfl)
  | closeNoGo reason =>
    refine ⟨stage,?_,fun running => ?_,fun running => ?_⟩
    · rw [written]
      exact shows.retryUsed
    · simp [CampaignView.after,CampaignTransition.target,CampaignView.active] at running
    · simp [CampaignView.after,CampaignTransition.target,CampaignView.active] at running

end Shows

end DynamicCssc
