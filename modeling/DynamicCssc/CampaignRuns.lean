import DynamicCssc.CampaignView

/-! Whole campaigns: what holds in every state that accepted transitions reach from an open one. -/
namespace DynamicCssc
open Foundation Foundation.Runs

/-- A campaign: the labels taken and the states passed, from an open state. -/
abbrev CampaignRun (sha : Sha256) (opened : FollowupCampaignState) (labels : List CampaignTransition)
    (states : List FollowupCampaignState) (last : FollowupCampaignState) : Prop :=
  Run (CampaignTransition.apply sha) opened labels states last

def FollowupCampaignState.isCommitted (state : FollowupCampaignState) : Bool :=
  state.state = some .unitCommitted

/-- The committed states of a campaign in order. -/
def committedStates (states : List FollowupCampaignState) : List FollowupCampaignState :=
  states.filter FollowupCampaignState.isCommitted

def CampaignTransition.isReplacement : CampaignTransition → Bool
  | .reserve _ attempt => equalsInt 2 attempt
  | _ => false

theorem open_success {sha : Sha256} {lineage : CampaignLineage} {profile : RouteAScientificProfile}
    {opened : FollowupCampaignState} (made : openFollowupCampaignState sha lineage profile = .ok opened) :
    ∃ matrix campaignId, followupFormalMatrixSha256 sha profile = .ok matrix ∧
      opened.document = openDocument lineage campaignId matrix ∧ opened.document.Canonical ∧
      DocumentClosed sha opened.document ∧
      inspectFollowupCampaignState sha opened.documentBytes = .ok opened := by
  rw [openFollowupCampaignState,Checked.bind_success] at made
  obtain ⟨matrix,matrixOk,made⟩ := made
  rw [Checked.bind_success] at made
  obtain ⟨campaignId,_,made⟩ := made
  have canonical : (openDocument lineage campaignId matrix).Canonical := by
    refine CampaignDocument.update_canonical (fun _ => .null) ?_
    simp [Json.Canonical.bool,Json.Canonical.int,Json.Canonical.str]
  obtain ⟨closed,same⟩ := (newState_success sha _ [] canonical opened).mp made
  have document : opened.document = openDocument lineage campaignId matrix := by
    rw [same]
    rfl
  rw [← document] at canonical
  refine ⟨matrix,campaignId,matrixOk,document,canonical,?_,inspect_again made⟩
  rw [document]
  exact closed

/-- What a unit leaves in the state that commits it. -/
structure CommittedAs (document : CampaignDocument) (attempts : List ℤ) (place : ℕ) : Prop where
  ordinal : document .unitOrdinal = .int place
  attempt : ∃ attempt, attempts[place]? = some attempt ∧
    equalsInt attempt (document .unitAttemptOrdinal) = true
  retryUsed : document .retryUsed = .bool (decide (2 ∈ attempts.take (place + 1)))

/-- A campaign so far, with the view that its last state shows. -/
structure CampaignHistory (opened : FollowupCampaignState) (labels : List CampaignTransition)
    (states : List FollowupCampaignState) (last : FollowupCampaignState) (view : CampaignView) : Prop where
  canonical : last.document.Canonical
  shows : Shows last.document view
  valid : view.Valid
  sequence : last.document .sequence = .int labels.length
  lineage : ∀ field ∈ lineageFields, last.document field = opened.document field
  retry : view.retryUsed = labels.any CampaignTransition.isReplacement
  once : labels.countP CampaignTransition.isReplacement ≤ 1
  size : (committedStates states).length = view.attempts.length
  units : ∀ place state, (committedStates states)[place]? = some state →
    CommittedAs state.document view.attempts place

theorem CommittedAs.append {document : CampaignDocument} {attempts : List ℤ} {place : ℕ}
    (unit : CommittedAs document attempts place) (inside : place < attempts.length) (more : List ℤ) :
    CommittedAs document (attempts ++ more) place := by
  obtain ⟨ordinal,⟨attempt,known,shown⟩,retry⟩ := unit
  refine ⟨ordinal,⟨attempt,?_,shown⟩,?_⟩
  · rw [List.getElem?_append_left inside]
    exact known
  · rw [List.take_append_of_le_length inside]
    exact retry

private theorem committedStates_snoc (states : List FollowupCampaignState) (next : FollowupCampaignState) :
    committedStates (states ++ [next]) = committedStates states ++ if next.isCommitted then [next] else [] := by
  rw [committedStates,List.filter_append,List.filter_singleton]
  cases next.isCommitted <;> rfl

private theorem CampaignView.after_attempts (view : CampaignView) (label : CampaignTransition) :
    (view.after label).attempts =
      view.attempts ++ if label.target = .unitCommitted then [view.attempt] else [] := by
  cases label <;> simp [CampaignView.after,CampaignTransition.target]

namespace CampaignHistory

variable {sha : Sha256} {opened last next : FollowupCampaignState} {labels : List CampaignTransition}
  {states : List FollowupCampaignState} {view : CampaignView} {label : CampaignTransition} {sequence : ℤ}

theorem start (canonical : opened.document.Canonical) (shows : Shows opened.document CampaignView.opened)
    (sequence : opened.document .sequence = .int 0) :
    CampaignHistory opened [] [opened] opened CampaignView.opened := by
  have none : committedStates [opened] = [] := by
    have state : opened.state = some .campaignOpen := shows.stage
    simp [committedStates,FollowupCampaignState.isCommitted,state]
  refine ⟨canonical,shows,CampaignView.opened_valid,sequence,fun _ _ => rfl,by decide,by simp,?_,?_⟩
  · rw [none]
    rfl
  · intro place state here
    rw [none] at here
    cases here

private theorem retry_after (history : CampaignHistory opened labels states last view)
    (permits : view.Permits label) : (view.after label).retryUsed =
      (labels ++ [label]).any CampaignTransition.isReplacement ∧
      (labels ++ [label]).countP CampaignTransition.isReplacement ≤ 1 := by
  have used := history.retry
  rw [List.any_append,List.countP_append,← used]
  cases label with
  | reserve spec attempt =>
    rcases permits with nominal | replacement
    · obtain ⟨first,before,_⟩ := nominal
      rw [Shows.nominal_retry history.valid spec first before]
      simpa [CampaignTransition.isReplacement,equalsInt_two first] using history.once
    · obtain ⟨second,_,unused,_⟩ := replacement
      rw [used,List.any_eq_false] at unused
      have none : labels.countP CampaignTransition.isReplacement = 0 := by
        rw [List.countP_eq_zero]
        exact unused
      rw [none]
      simp [CampaignView.retryUsed,CampaignView.after,CampaignTransition.isReplacement,second,
        CampaignView.attemptNumber_two second]
  | commit output =>
    have same : (view.after (.commit output)).retryUsed = view.retryUsed := by
      simp [CampaignView.retryUsed,CampaignView.after,eq_comm]
    rw [same]
    simpa [CampaignTransition.isReplacement] using history.once
  | bind providerRunId => simpa [CampaignTransition.isReplacement] using ⟨rfl,history.once⟩
  | arm watcherSession => simpa [CampaignTransition.isReplacement] using ⟨rfl,history.once⟩
  | recordProviderFailure failureClass evidence receipt =>
    simpa [CampaignTransition.isReplacement] using ⟨rfl,history.once⟩
  | closeNoGo reason => simpa [CampaignTransition.isReplacement] using ⟨rfl,history.once⟩

private theorem unit_committed (shows : Shows next.document (view.after label)) (committed : label.target = .unitCommitted) :
    CommittedAs next.document (view.attempts ++ [view.attempt]) view.attempts.length := by
  cases label with
  | commit output =>
    have ordinal := shows.ordinal (.inl rfl)
    have attempt := shows.attempt (.inl rfl)
    have retry := shows.retryUsed
    refine ⟨?_,⟨view.attempt,by simp,attempt⟩,?_⟩
    · rw [ordinal]
      simp [CampaignView.ordinal,CampaignView.after]
    · rw [retry,List.take_of_length_le (by simp)]
      congr 1
      simp [CampaignView.retryUsed,CampaignView.after,eq_comm]
  | reserve spec attempt => cases committed
  | bind providerRunId => cases committed
  | arm watcherSession => cases committed
  | recordProviderFailure failureClass evidence receipt => cases committed
  | closeNoGo reason => cases committed

theorem step (history : CampaignHistory opened labels states last view)
    (step : CampaignStep sha last label next sequence) :
    CampaignHistory opened (labels ++ [label]) (states ++ [next]) next (view.after label) := by
  have permits := history.shows.permits history.valid step.allowed
  have shows := history.shows.after history.valid step
  have retry := history.retry_after permits
  have counted : sequence = labels.length := by
    have same := step.counted.symm.trans history.sequence
    exact Json.int.inj same
  have flag : next.isCommitted = decide (label.target = .unitCommitted) := by
    rw [FollowupCampaignState.isCommitted,step.state]
    simp
  refine ⟨step.canonical history.canonical,shows,history.valid.after permits,?_,?_,retry.1,retry.2,?_,?_⟩
  · rw [step.sequence_next,counted]
    simp
  · intro field member
    exact (step.lineage field member).trans (history.lineage field member)
  · rw [committedStates_snoc,CampaignView.after_attempts,flag,List.length_append,List.length_append,
      history.size]
    by_cases committed : label.target = .unitCommitted <;> simp [committed]
  · intro place state here
    rw [committedStates_snoc,flag] at here
    rw [CampaignView.after_attempts]
    by_cases committed : label.target = .unitCommitted
    · rw [decide_eq_true committed,if_pos rfl] at here
      rw [if_pos committed]
      by_cases old : place < (committedStates states).length
      · rw [List.getElem?_append_left old] at here
        exact (history.units place state here).append (history.size ▸ old) _
      · have bound := (List.getElem?_eq_some_iff.mp here).1
        rw [List.length_append,List.length_singleton] at bound
        have final : place = (committedStates states).length := by omega
        rw [List.getElem?_append_right (by omega),final,Nat.sub_self,List.getElem?_cons_zero,
          Option.some.injEq] at here
        rw [final,← here,history.size]
        exact unit_committed shows committed
    · rw [decide_eq_false committed,if_neg (by simp),List.append_nil] at here
      rw [if_neg committed,List.append_nil]
      exact history.units place state here

end CampaignHistory

theorem open_shows {sha : Sha256} {lineage : CampaignLineage} {profile : RouteAScientificProfile}
    {opened : FollowupCampaignState} (made : openFollowupCampaignState sha lineage profile = .ok opened) :
    CampaignHistory opened [] [opened] opened CampaignView.opened := by
  obtain ⟨matrix,campaignId,_,document,canonical,_⟩ := open_success made
  refine .start canonical ⟨?_,?_,?_,?_⟩ ?_
  · rw [document]
    exact CampaignStateName.ofName_name .campaignOpen
  · rw [document]
    rfl
  · simp [CampaignView.opened,CampaignView.active]
  · simp [CampaignView.opened,CampaignView.active]
  · rw [document]
    rfl

/-- Every campaign has its history. -/
theorem campaign_history {sha : Sha256} {lineage : CampaignLineage} {profile : RouteAScientificProfile}
    {opened last : FollowupCampaignState} {labels : List CampaignTransition}
    {states : List FollowupCampaignState} (made : openFollowupCampaignState sha lineage profile = .ok opened)
    (run : CampaignRun sha opened labels states last) :
    ∃ view, CampaignHistory opened labels states last view := by
  refine Run.invariant (fun labels states last => ∃ view, CampaignHistory opened labels states last view)
    ⟨_,open_shows made⟩ ?_ run
  intro labels states last label next _ before accepted
  obtain ⟨view,history⟩ := before
  obtain ⟨sequence,step⟩ := (apply_success sha history.canonical label next).mp accepted
  exact ⟨_,history.step step⟩

section
variable {sha : Sha256} {lineage : CampaignLineage} {profile : RouteAScientificProfile}
  {opened last : FollowupCampaignState} {labels : List CampaignTransition}
  {states : List FollowupCampaignState}

private theorem arrived (made : openFollowupCampaignState sha lineage profile = .ok opened)
    (run : CampaignRun sha opened labels states last) (place : ℕ) (state : FollowupCampaignState)
    (here : states[place]? = some state) (stage : CampaignStateName) (known : state.state = some stage)
    (later : stage ≠ .campaignOpen) : ∃ earlier before label sequence, place = earlier + 1 ∧
      states[earlier]? = some before ∧ labels[earlier]? = some label ∧ label.target = stage ∧
      CampaignStep sha before label state sequence := by
  have other : state ≠ opened := by
    intro same
    have first : opened.state = some .campaignOpen := (open_shows made).shows.stage
    rw [same,first] at known
    exact later (Option.some.inj known).symm
  obtain ⟨before,earlier,label,spot,found,taken,accepted⟩ := run.predecessor place state here (.inl other)
  obtain ⟨view,history⟩ := campaign_history made (run.upto earlier before found)
  obtain ⟨sequence,step⟩ := (apply_success sha history.canonical label state).mp accepted
  have target : some label.target = some stage := step.state.symm.trans known
  exact ⟨earlier,before,label,sequence,spot,found,taken,Option.some.inj target,step⟩

/-- The transitions that end with a committed unit, and what they leave in its state. -/
structure CommittedChain (labels : List CampaignTransition) (states : List FollowupCampaignState)
    (first : ℕ) (before state : FollowupCampaignState) (spec : FollowupFormalUnitSpec)
    (attempt : Json) (runId : ℤ) (session : String) (output : UnitOutput) : Prop where
  starts : states[first]? = some before
  idle : before.state = some .campaignOpen ∨ before.state = some .unitCommitted ∨
    before.state = some .unitProviderFailed
  reserved : labels[first]? = some (.reserve spec attempt)
  bound : labels[first + 1]? = some (.bind runId)
  armed : labels[first + 2]? = some (.arm session)
  committed : labels[first + 3]? = some (.commit output)
  ends : states[first + 4]? = some state
  unitOrdinal : state.document .unitOrdinal = .int spec.ordinal
  unitKind : state.document .unitKind = .str spec.unitKind
  unitAttempt : state.document .unitAttemptOrdinal = attempt
  providerRun : state.document .providerRunId = .int runId
  providerAttempt : state.document .providerRunAttempt = .int 1
  watcherSession : state.document .watcherSession = .str session
  artifactId : state.document .artifactId = .int output.artifactId
  artifactName : state.document .artifactName = .str output.artifactName
  artifactDigest : state.document .artifactProviderDigest = .str output.artifactProviderDigest
  envelope : state.document .unitOutputEnvelope = .str output.unitOutputEnvelope

private theorem reserve_idle {previous : FollowupCampaignState} {spec : FollowupFormalUnitSpec} {attempt : Json}
    (allowed : (CampaignTransition.reserve spec attempt).Allowed previous) :
    previous.state = some .campaignOpen ∨ previous.state = some .unitCommitted ∨
      previous.state = some .unitProviderFailed := by
  rcases allowed with nominal | replacement
  · have named := nominal.2.1
    rw [nominalOrdinal] at named
    split at named
    · rename_i state
      exact .inl state
    · split at named
      · rename_i state
        exact .inr (.inl state)
      · cases named
  · exact .inr (.inr replacement.2.1)

theorem committed_chain (made : openFollowupCampaignState sha lineage profile = .ok opened)
    (run : CampaignRun sha opened labels states last) (place : ℕ) (state : FollowupCampaignState)
    (here : states[place]? = some state) (known : state.state = some .unitCommitted) :
    ∃ first before spec attempt runId session output, place = first + 4 ∧
      CommittedChain labels states first before state spec attempt runId session output := by
  obtain ⟨third,armed,commit,_,rfl,armedAt,commitAt,commits,committed⟩ :=
    arrived made run place state here _ known (by decide)
  cases commit with
  | commit output =>
    obtain ⟨second,bound,arm,_,rfl,boundAt,armAt,arms,arming⟩ :=
      arrived made run third armed armedAt _ committed.allowed.1 (by decide)
    cases arm with
    | arm session =>
      obtain ⟨first,reserved,bind,_,rfl,reservedAt,bindAt,binds,binding⟩ :=
        arrived made run second bound boundAt _ arming.allowed.1 (by decide)
      cases bind with
      | bind runId =>
        obtain ⟨start,before,reserve,_,rfl,beforeAt,reserveAt,reserves,reserving⟩ :=
          arrived made run first reserved reservedAt _ binding.allowed.1 (by decide)
        cases reserve with
        | reserve spec attempt =>
          have written := committed.document
          rw [arming.document,binding.document,reserving.document] at written
          refine ⟨start,before,spec,attempt,runId,session,output,rfl,beforeAt,
            reserve_idle reserving.allowed,reserveAt,bindAt,armAt,commitAt,here,?_,?_,?_,?_,?_,?_,?_,?_,?_,?_⟩ <;>
            (rw [written]; rfl)
        | _ => cases reserves
      | _ => cases binds
    | _ => cases arms
  | _ => cases commits

theorem sequence_place (made : openFollowupCampaignState sha lineage profile = .ok opened)
    (run : CampaignRun sha opened labels states last) (place : ℕ) (state : FollowupCampaignState)
    (here : states[place]? = some state) : state.document .sequence = .int place := by
  obtain ⟨view,history⟩ := campaign_history made (run.upto place state here)
  have bound := (List.getElem?_eq_some_iff.mp here).1
  have size := run.length
  rw [history.sequence,List.length_take,Nat.min_eq_left (by omega)]

theorem closed_final (made : openFollowupCampaignState sha lineage profile = .ok opened)
    (run : CampaignRun sha opened labels states last) (place : ℕ) (state : FollowupCampaignState)
    (here : states[place]? = some state) (closed : state.state = some .campaignNoGo) :
    place = labels.length := by
  have bound := (List.getElem?_eq_some_iff.mp here).1
  have size := run.length
  by_contra more
  have next : states[place + 1]? = some states[place + 1] := List.getElem?_eq_getElem (by omega)
  obtain ⟨label,_,accepted⟩ := run.consecutive place _ _ here next
  obtain ⟨view,history⟩ := campaign_history made (run.upto place state here)
  obtain ⟨_,step⟩ := (apply_success sha history.canonical label _).mp accepted
  have permits := history.shows.permits history.valid step.allowed
  have stage := history.shows.stage_eq closed
  cases label with
  | reserve spec attempt =>
    rcases permits with nominal | replacement
    · rcases nominal.2.1 with first | committed
      · rw [stage] at first
        cases first
      · rw [stage] at committed
        cases committed
    · rw [stage] at replacement
      cases replacement.2.1
  | bind providerRunId => cases stage.symm.trans permits
  | arm watcherSession => cases stage.symm.trans permits
  | commit output => cases stage.symm.trans permits
  | recordProviderFailure failureClass evidence receipt => cases stage.symm.trans permits.1
  | closeNoGo reason => exact permits stage

end
end DynamicCssc
