import DynamicCssc.CampaignSelections

/-! A campaign can always go on: from an open or committed state the next unit is reserved, bound, watched
and committed, each of the four transitions passing the inspection of its document. -/
namespace DynamicCssc
open Foundation Foundation.Runs

/-- How far a unit is, with what each step brought. -/
inductive UnitStage
  | reserved
  | bound (runId : ℤ)
  | armed (runId : ℤ) (session : String)
  | committed (runId : ℤ) (session : String) (output : UnitOutput)

namespace UnitStage

def stateName : UnitStage → CampaignStateName
  | .reserved => .unitReserved
  | .bound _ => .runBound
  | .armed _ _ => .watchArmed
  | .committed _ _ _ => .unitCommitted

def runId : UnitStage → Option ℤ
  | .reserved => none
  | .bound runId | .armed runId _ | .committed runId _ _ => some runId

def session : UnitStage → Option String
  | .reserved | .bound _ => none
  | .armed _ session | .committed _ session _ => some session

def output : UnitStage → Option UnitOutput
  | .committed _ _ output => some output
  | _ => none

end UnitStage

/-- A unit that is attempted for the first time in a campaign that used no retry. -/
structure FirstAttempt where
  sequence : ℤ
  ordinal : ℤ
  unitKind : String
  attempt : Json
  stage : UnitStage

namespace FirstAttempt

def document (base : CampaignDocument) (unit : FirstAttempt) : CampaignDocument := base.update [
  (.sequence,.int unit.sequence),
  (.state,.str unit.stage.stateName.name),
  (.retryUsed,.bool false),
  (.terminalReasonCode,.null),
  (.unitOrdinal,.int unit.ordinal),
  (.unitKind,.str unit.unitKind),
  (.unitAttemptOrdinal,unit.attempt),
  (.providerRunId,orNull .int unit.stage.runId),
  (.providerRunAttempt,orNull (fun _ => .int 1) unit.stage.runId),
  (.watcherSession,orNull .str unit.stage.session),
  (.watcherReceipt,orNull (fun output => .str output.watcherReceipt) unit.stage.output),
  (.artifactId,orNull (fun output => .int output.artifactId) unit.stage.output),
  (.artifactName,orNull (fun output => .str output.artifactName) unit.stage.output),
  (.artifactProviderDigest,orNull (fun output => .str output.artifactProviderDigest) unit.stage.output),
  (.unitOutputEnvelope,orNull (fun output => .str output.unitOutputEnvelope) unit.stage.output),
  (.providerFailureClass,.null),
  (.providerFailureEvidence,.null)]

/-- What the arguments of the transitions of a unit must be. -/
structure Sound (unit : FirstAttempt) : Prop where
  sequence : 0 ≤ unit.sequence
  ordinal : 0 ≤ unit.ordinal ∧ unit.ordinal < 17
  unitKind : unit.unitKind ∈ campaignUnitKinds
  attempt : equalsInt 1 unit.attempt = true
  runId : ∀ runId, unit.stage.runId = some runId → 0 < runId
  session : ∀ session, unit.stage.session = some session → validSha256 session = true
  output : ∀ output, unit.stage.output = some output → validSha256 output.watcherReceipt = true ∧
    0 < output.artifactId ∧
    "followup-performance-v1-".toList.isPrefixOf output.artifactName.toList = true ∧
    validProviderDigest output.artifactProviderDigest = true ∧ validSha256 output.unitOutputEnvelope = true

private theorem nullable_orNull {α β : Type} (wrap : α → Json) (held : Option α) (check : Json → Checked β)
    (passes : ∀ value, held = some value → ∃ result, check (wrap value) = .ok result) :
    nullable (orNull wrap held) (check (orNull wrap held)) = .ok () := by
  cases held with
  | none => rfl
  | some value =>
    obtain ⟨result,passed⟩ := passes value rfl
    rw [orNull,nullable,passed]
    split <;> rfl

private theorem attempt_known {attempt : Json} (first : equalsInt 1 attempt = true) :
    nullOrOneOf [1,2] attempt = .ok true ∧ isNull attempt = false := by
  cases attempt with
  | int number =>
    have known : number = 1 := by simpa [equalsInt] using first
    rw [known]
    exact ⟨rfl,rfl⟩
  | bool value =>
    cases value with
    | true => exact ⟨rfl,rfl⟩
    | false => cases first
  | null => cases first
  | str text => cases first
  | arr items => cases first
  | obj fields => cases first

private theorem nullable_closed {base : CampaignDocument} {unit : FirstAttempt} (sound : unit.Sound) :
    validateNullable (unit.document base) = .ok () := by
  rw [validateNullable]
  refine Checked.pass _ _ _ ?_ ?_
  · rw [Checked.each_success]
    simp only [List.forall_mem_cons,List.not_mem_nil,false_imp_iff,implies_true,and_true]
    refine ⟨rfl,?_,?_,?_⟩
    · refine nullable_orNull _ unit.stage.output (fun value => requireSha value _) fun output held => ?_
      exact ⟨_,if_pos (sound.output output held).2.2.2.2⟩
    · refine nullable_orNull _ unit.stage.output (fun value => requireSha value _) fun output held => ?_
      exact ⟨_,if_pos (sound.output output held).1⟩
    · refine nullable_orNull _ unit.stage.session (fun value => requireSha value _) fun session held => ?_
      exact ⟨_,if_pos (sound.session session held)⟩
  refine Checked.pass _ _ _ ?_ ?_
  · refine nullable_orNull _ unit.stage.output (fun value => requireProviderDigest value _)
      fun output held => ?_
    exact ⟨_,if_pos (sound.output output held).2.2.2.1⟩
  refine Checked.pass _ _ _ ?_ ?_
  · rw [Checked.each_success]
    simp only [List.forall_mem_cons,List.not_mem_nil,false_imp_iff,implies_true,and_true]
    refine ⟨?_,?_⟩
    · refine nullable_orNull _ unit.stage.output (fun value => requirePositive value _) fun output held => ?_
      exact ⟨_,if_pos (sound.output output held).2.1⟩
    · refine nullable_orNull _ unit.stage.runId (fun value => requirePositive value _) fun runId held => ?_
      exact ⟨_,if_pos (sound.runId runId held)⟩
  have initial : nullOrOneOf [1] (unit.document base .providerRunAttempt) = .ok true := by
    show nullOrOneOf [1] (orNull (fun _ => .int 1) unit.stage.runId) = .ok true
    cases unit.stage.runId <;> rfl
  rw [initial,Checked.ok_bind]
  refine Checked.pass _ _ _ (Checked.require_true _ _ rfl) ?_
  have outer : nullOrOneOf [1,2] (unit.document base .unitAttemptOrdinal) = .ok true :=
    (attempt_known sound.attempt).1
  rw [outer,Checked.ok_bind]
  refine Checked.pass _ _ _ (Checked.require_true _ _ rfl) ?_
  refine Checked.pass _ _ _ (Checked.require_true _ _ sound.ordinal) rfl

private theorem projection_closed {base : CampaignDocument} {unit : FirstAttempt} (sound : unit.Sound) :
    validateStateProjection (unit.document base) unit.stage.stateName = .ok () := by
  have kind : memberOf campaignUnitKinds (unit.document base .unitKind) = .ok true := by
    show Except.ok (decide (unit.unitKind ∈ campaignUnitKinds)) = .ok true
    rw [decide_eq_true sound.unitKind]
  have opened : unit.stage.stateName ≠ .campaignOpen := by
    cases unit.stage <;> simp [UnitStage.stateName]
  have going : unit.stage.stateName ≠ .campaignNoGo := by
    cases unit.stage <;> simp [UnitStage.stateName]
  rw [validateStateProjection,if_neg opened,if_neg going]
  have shown : noneNull (unit.document base) unitFields = true := by
    show (!isNull (.int unit.ordinal) && (!isNull (.str unit.unitKind) && (!isNull unit.attempt && true))) = true
    rw [(attempt_known sound.attempt).2]
    rfl
  refine Checked.pass _ _ _ (Checked.require_true _ _ shown) ?_
  rw [kind,Checked.ok_bind]
  refine Checked.pass _ _ _ (Checked.require_true _ _ ⟨rfl,rfl⟩) ?_
  obtain ⟨sequence,ordinal,unitKind,attempt,stage⟩ := unit
  cases stage <;> rfl

theorem closed {sha : Sha256} {base : CampaignDocument} (before : DocumentClosed sha base)
    {unit : FirstAttempt} (sound : unit.Sound) : DocumentClosed sha (unit.document base) := by
  refine ⟨before.scalars,Checked.require_true _ _ sound.sequence,rfl,before.lineage,nullable_closed sound,
    unit.stage.stateName,?_,projection_closed sound⟩
  show requireStateName (.str unit.stage.stateName.name) = .ok unit.stage.stateName
  simp [requireStateName]

end FirstAttempt

section
variable {sha : Sha256} {opened previous : FollowupCampaignState} {labels : List CampaignTransition}
  {states : List FollowupCampaignState}

/-- A transition that leads to the document of a sound unit is taken. -/
private theorem take_label (run : CampaignRun sha opened labels states previous)
    (canonical : previous.document.Canonical) {sequence : ℤ}
    (counted : previous.document .sequence = .int sequence) (label : CampaignTransition)
    (allowed : label.Allowed previous) {base : CampaignDocument} (before : DocumentClosed sha base)
    (unit : FirstAttempt) (sound : unit.Sound)
    (same : previous.document.update ((.sequence,.int (sequence + 1)) :: label.changes previous.document) =
      unit.document base) :
    ∃ next, CampaignRun sha opened (labels ++ [label]) (states ++ [next]) next ∧
      next.document = unit.document base ∧ next.document.Canonical ∧ next.state = some label.target := by
  have document : (previous.changed sha
      ((.sequence,.int (sequence + 1)) :: label.changes previous.document)).document = unit.document base := same
  have step : CampaignStep sha previous label (previous.changed sha
      ((.sequence,.int (sequence + 1)) :: label.changes previous.document)) sequence := by
    refine ⟨allowed,counted,?_,rfl⟩
    rw [document]
    exact FirstAttempt.closed before sound
  exact ⟨_,.next labels states previous label _ run ((apply_success sha canonical label _).mpr ⟨_,step⟩),
    document,step.canonical canonical,step.state⟩

/-- The four transitions of a unit. -/
def unitLabels (spec : FollowupFormalUnitSpec) (attempt : Json) (runId : ℤ) (session : String)
    (output : UnitOutput) : List CampaignTransition := [.reserve spec attempt,.bind runId,.arm session,.commit output]

private theorem unit_run (run : CampaignRun sha opened labels states previous)
    (canonical : previous.document.Canonical) (before : DocumentClosed sha previous.document)
    {sequence : ℤ} (counted : previous.document .sequence = .int sequence)
    (unused : previous.document .retryUsed = .bool false) (spec : FollowupFormalUnitSpec)
    (nominal : nominalOrdinal previous = .ok spec.ordinal) (attempt : Json) (runId : ℤ) (session : String)
    (output : UnitOutput)
    (sound : (FirstAttempt.mk (sequence + 1) spec.ordinal spec.unitKind attempt
      (.committed runId session output)).Sound) :
    ∃ reserved bound armed committed,
      CampaignRun sha opened (labels ++ unitLabels spec attempt runId session output)
        (states ++ [reserved,bound,armed,committed]) committed ∧
      committed.document = FirstAttempt.document previous.document
        ⟨sequence + 4,spec.ordinal,spec.unitKind,attempt,.committed runId session output⟩ ∧
      committed.document.Canonical ∧ DocumentClosed sha committed.document ∧
      reserved.isCommitted = false ∧ bound.isCommitted = false ∧ armed.isCommitted = false ∧
      committed.isCommitted = true := by
  have start : 0 ≤ sequence + 1 := sound.sequence
  have sounds (number : ℤ) (stage : UnitStage) (later : 0 ≤ number)
      (runIds : ∀ held, stage.runId = some held → held = runId)
      (sessions : ∀ held, stage.session = some held → held = session)
      (outputs : ∀ held, stage.output = some held → held = output) :
      (FirstAttempt.mk number spec.ordinal spec.unitKind attempt stage).Sound :=
    ⟨later,sound.ordinal,sound.unitKind,sound.attempt,fun held known => runIds held known ▸ sound.runId runId rfl,
      fun held known => sessions held known ▸ sound.session session rfl,
      fun held known => outputs held known ▸ sound.output output rfl⟩
  obtain ⟨reserved,reserving,reservedIs,canonical,reservedState⟩ := take_label run canonical counted
    (.reserve spec attempt) (.inl ⟨sound.attempt,nominal,sound.ordinal.2,.inl (by rw [unused]; rfl)⟩) before
    ⟨sequence + 1,spec.ordinal,spec.unitKind,attempt,.reserved⟩
    (sounds _ _ start (by simp [UnitStage.runId]) (by simp [UnitStage.session]) (by simp [UnitStage.output]))
    (by
      funext field
      cases field
      case retryUsed => exact (if_pos sound.attempt).trans unused
      all_goals rfl)
  obtain ⟨bound,binding,boundIs,canonical,boundState⟩ := take_label reserving canonical
    (show reserved.document .sequence = .int (sequence + 1) by rw [reservedIs]; rfl)
    (.bind runId) ⟨reservedState,sound.runId runId rfl⟩ before
    ⟨sequence + 2,spec.ordinal,spec.unitKind,attempt,.bound runId⟩
    (sounds _ _ (by omega) (by simp [UnitStage.runId]) (by simp [UnitStage.session])
      (by simp [UnitStage.output]))
    (by
      rw [reservedIs]
      funext field
      cases field
      case sequence => exact congrArg Json.int (by ring)
      all_goals rfl)
  obtain ⟨armed,arming,armedIs,canonical,armedState⟩ := take_label binding canonical
    (show bound.document .sequence = .int (sequence + 2) by rw [boundIs]; rfl)
    (.arm session) ⟨boundState,sound.session session rfl⟩ before
    ⟨sequence + 3,spec.ordinal,spec.unitKind,attempt,.armed runId session⟩
    (sounds _ _ (by omega) (by simp [UnitStage.runId,eq_comm]) (by simp [UnitStage.session,eq_comm])
      (by simp [UnitStage.output]))
    (by
      rw [boundIs]
      funext field
      cases field
      case sequence => exact congrArg Json.int (by ring)
      all_goals rfl)
  have last := sounds (sequence + 4) (.committed runId session output) (by omega)
    (by simp [UnitStage.runId,eq_comm]) (by simp [UnitStage.session,eq_comm])
    (by simp [UnitStage.output,eq_comm])
  obtain ⟨committed,committing,committedIs,canonical,committedState⟩ := take_label arming canonical
    (show armed.document .sequence = .int (sequence + 3) by rw [armedIs]; rfl)
    (.commit output) ⟨armedState,sound.output output rfl⟩ before
    ⟨sequence + 4,spec.ordinal,spec.unitKind,attempt,.committed runId session output⟩ last
    (by
      rw [armedIs]
      funext field
      cases field
      case sequence => exact congrArg Json.int (by ring)
      all_goals rfl)
  have other (state : FollowupCampaignState) (label : CampaignTransition)
      (known : state.state = some label.target) :
      state.isCommitted = decide (label.target = .unitCommitted) := by
    rw [FollowupCampaignState.isCommitted,known]
    simp
  refine ⟨reserved,bound,armed,committed,?_,committedIs,canonical,?_,other _ _ reservedState,
    other _ _ boundState,other _ _ armedState,other _ _ committedState⟩
  · simpa [unitLabels] using committing
  · rw [committedIs]
    exact FirstAttempt.closed before last

end

/-- What the transitions of one unit are to bring. -/
structure PlannedUnit where
  unitKind : String
  attempt : Json
  runId : ℤ
  session : String
  output : UnitOutput

namespace PlannedUnit

/-- A unit is reserved by its ordinal and its kind; the rest of a specification plays no part. -/
def spec (planned : PlannedUnit) (place : ℕ) : FollowupFormalUnitSpec :=
  { plainUnit planned.unitKind "" 0 with ordinal := place }

def labels (planned : PlannedUnit) (place : ℕ) : List CampaignTransition :=
  unitLabels (planned.spec place) planned.attempt planned.runId planned.session planned.output

def identity (planned : PlannedUnit) : CampaignField → Json
  | .providerRunId => .int planned.runId
  | .artifactId => .int planned.output.artifactId
  | .artifactName => .str planned.output.artifactName
  | .artifactProviderDigest => .str planned.output.artifactProviderDigest
  | .unitAttemptOrdinal => planned.attempt
  | _ => .str planned.unitKind

structure Sound (planned : PlannedUnit) : Prop where
  unitKind : planned.unitKind ∈ campaignUnitKinds
  attempt : equalsInt 1 planned.attempt = true
  runId : 0 < planned.runId
  session : validSha256 planned.session = true
  output : validSha256 planned.output.watcherReceipt = true ∧ 0 < planned.output.artifactId ∧
    "followup-performance-v1-".toList.isPrefixOf planned.output.artifactName.toList = true ∧
    validProviderDigest planned.output.artifactProviderDigest = true ∧
    validSha256 planned.output.unitOutputEnvelope = true

end PlannedUnit

def identityFields : List CampaignField := [.providerRunId,.artifactId,.artifactName,.artifactProviderDigest,
  .unitAttemptOrdinal,.unitKind]

def planLabels (plan : ℕ → PlannedUnit) (size : ℕ) : List CampaignTransition :=
  (List.range size).flatMap fun place => (plan place).labels place

/-- A plan of up to seventeen units can be carried out. -/
theorem campaign_reaches {sha : Sha256} {lineage : CampaignLineage} {profile : RouteAScientificProfile}
    {opened : FollowupCampaignState} (made : openFollowupCampaignState sha lineage profile = .ok opened) (plan : ℕ → PlannedUnit)
    (size : ℕ) (small : size ≤ 17) (sound : ∀ place < size, (plan place).Sound) :
    ∃ states last, CampaignRun sha opened (planLabels plan size) states last ∧
      last.document.Canonical ∧ DocumentClosed sha last.document ∧
      last.document .sequence = .int (4 * size : ℕ) ∧ last.document .retryUsed = .bool false ∧
      nominalOrdinal last = .ok size ∧
      ∀ field ∈ identityFields, (committedStates states).map (fun state => state.document field) =
        (List.range size).map fun place => (plan place).identity field := by
  induction size with
  | zero =>
    obtain ⟨matrix,campaignId,_,document,canonical,closed,_⟩ := open_success made
    have history := open_shows made
    have state : opened.state = some .campaignOpen := history.shows.stage
    refine ⟨[opened],opened,.start,canonical,closed,history.sequence,history.shows.retryUsed,?_,?_⟩
    · rw [nominalOrdinal,if_pos state]
      rfl
    · intro field _
      have none : committedStates [opened] = [] := by
        simp [committedStates,FollowupCampaignState.isCommitted,state]
      rw [none]
      rfl
  | succ size ih =>
    obtain ⟨states,last,run,canonical,closed,counted,unused,nominal,identities⟩ :=
      ih (by omega) fun place below => sound place (by omega)
    obtain ⟨kind,first,positive,watched,delivered⟩ := sound size (by omega)
    obtain ⟨reserved,bound,armed,committed,longer,document,canonical,closed,one,two,three,done⟩ :=
      unit_run run canonical closed counted unused ((plan size).spec size) nominal (plan size).attempt
        (plan size).runId (plan size).session (plan size).output
        ⟨by show (0 : ℤ) ≤ (4 * size : ℕ) + 1; omega,⟨by simp [PlannedUnit.spec],by simp only [PlannedUnit.spec]; omega⟩,kind,
          first,fun held known => Option.some.inj known ▸ positive,
          fun held known => Option.some.inj known ▸ watched,
          fun held known => Option.some.inj known ▸ delivered⟩
    have labels : planLabels plan (size + 1) = planLabels plan size ++ unitLabels ((plan size).spec size)
        (plan size).attempt (plan size).runId (plan size).session (plan size).output := by
      rw [planLabels,List.range_succ,List.flatMap_append,List.flatMap_singleton]
      rfl
    have state : committed.state = some .unitCommitted := by
      simpa [FollowupCampaignState.isCommitted] using done
    refine ⟨states ++ [reserved,bound,armed,committed],committed,labels ▸ longer,canonical,closed,?_,?_,?_,?_⟩
    · rw [document]
      exact congrArg Json.int (by push_cast; ring)
    · rw [document]
      rfl
    · rw [nominalOrdinal,if_neg (by simp [state]),if_pos state,document]
      exact congrArg Except.ok (by simp [PlannedUnit.spec])
    · intro field member
      have kept : committedStates (states ++ [reserved,bound,armed,committed]) =
          committedStates states ++ [committed] := by
        simp [committedStates,one,two,three,done]
      rw [kept,List.map_append,identities field member,List.range_succ,List.map_append,List.map_singleton,
        List.map_singleton,document]
      congr 2
      revert field
      simp only [identityFields,List.forall_mem_cons,List.not_mem_nil,false_imp_iff,implies_true,and_true]
      exact ⟨rfl,rfl,rfl,rfl,rfl,rfl⟩

end DynamicCssc
