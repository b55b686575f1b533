import DynamicCssc.CampaignDocument
import DynamicCssc.Foundation.Decimal

/-! The transitions of a formal campaign, the matrix of its seventeen units, and the selection that
closes it. -/
namespace DynamicCssc
open Foundation

/-- The part of a scientific profile that the matrix of the units reads. -/
structure RouteAScientificProfile where
  formalSeeds : List ℤ
  three : formalSeeds.length = 3
  nonnegative : ∀ seed ∈ formalSeeds, 0 ≤ seed
  distinct : formalSeeds.Nodup

structure FollowupFormalUnitSpec where
  ordinal : ℤ
  unitKind : String
  segment : String
  reservationMinutes : ℤ
  scale : Option String
  formalSeed : Option ℤ
  formalSeedOrdinal : Option ℕ
  strategyCandidateId : Option String
  strategyOrdinal : Option ℕ
  partition : Option ℕ
  semantics : Option String
deriving DecidableEq, Repr

namespace FollowupFormalUnitSpec

def shown {α : Type} (text : α → String) : Option α → String
  | none => "None"
  | some value => text value

/-- `f"{ordinal:02d}"`. -/
def twoDigits (ordinal : ℤ) : String :=
  if ordinal < 0 then "-" ++ Decimal.padded 1 ordinal.natAbs else Decimal.padded 2 ordinal.toNat

def jobToken (spec : FollowupFormalUnitSpec) : String :=
  let suffix :=
    if spec.unitKind = "formal-acquisition" then "acquisition"
    else if spec.unitKind = "formal-native" then
      "native-strategy-" ++ shown Nat.repr spec.strategyOrdinal ++ "-" ++ shown id spec.scale
    else if spec.unitKind = "formal-synthetic" then
      "synthetic-" ++ shown id spec.scale ++ "-seed-" ++ shown Nat.repr spec.formalSeedOrdinal
    else "ordered-partition-" ++ shown Nat.repr spec.partition ++ "-" ++ shown id spec.semantics
  "formal-" ++ twoDigits spec.ordinal ++ "-" ++ suffix

end FollowupFormalUnitSpec

/-- A unit before it is numbered. -/
def plainUnit (unitKind segment : String) (reservationMinutes : ℤ) : FollowupFormalUnitSpec :=
  ⟨0,unitKind,segment,reservationMinutes,none,none,none,none,none,none,none⟩

def routeAStrategyCandidates : List String := ["periodic-repack/windows=1","padding-reuse",
  "packed-coo-cloud-segmented-delta/segment-width=128"]

def formalUnits (profile : RouteAScientificProfile) : List FollowupFormalUnitSpec :=
  [plainUnit "formal-acquisition" "acquisition-and-ordered" 20] ++
  (routeAStrategyCandidates.zipIdx.flatMap fun strategy => ["S","M"].map fun scale =>
    { plainUnit "formal-native" "native" 25 with
      scale := some scale
      formalSeed := profile.formalSeeds.head?
      formalSeedOrdinal := some 0
      strategyCandidateId := some strategy.1
      strategyOrdinal := some strategy.2 }) ++
  (["S","M"].flatMap fun scale => (Sorting.sortedBy id profile.formalSeeds).zipIdx.map fun seed =>
    { plainUnit "formal-synthetic" "synthetic" 50 with
      scale := some scale
      formalSeed := some seed.1
      formalSeedOrdinal := some seed.2 }) ++
  [0,1].flatMap fun partition => ["T1","T2"].map fun semantics =>
    { plainUnit "formal-ordered-event" "acquisition-and-ordered" 40 with
      partition := some partition
      semantics := some semantics }

def followupFormalUnitSpecs (profile : RouteAScientificProfile) : Checked (List FollowupFormalUnitSpec) := do
  let specs := (formalUnits profile).zipIdx.map fun unit => { unit.1 with ordinal := unit.2 }
  Checked.require (specs.length = 17 ∧
      specs.map FollowupFormalUnitSpec.ordinal = (List.range 17).map (fun ordinal : ℕ => (ordinal : ℤ)) ∧
      (specs.map FollowupFormalUnitSpec.reservationMinutes).sum = 630)
    ⟨.assertionError,"follow-up formal matrix changed"⟩
  return specs

def orNull {α : Type} (value : α → Json) : Option α → Json
  | none => .null
  | some held => value held

def followupFormalMatrixSha256 (sha : Sha256) (profile : RouteAScientificProfile) : Checked String := do
  let specs ← followupFormalUnitSpecs profile
  return sha256Bytes sha (canonicalJsonBytes (.arr (specs.map fun spec => .object [
    ("formal_seed_or_null",orNull .int spec.formalSeed),
    ("formal_seed_ordinal_or_null",orNull Json.nat spec.formalSeedOrdinal),
    ("job_token",.str spec.jobToken),
    ("ordinal",.int spec.ordinal),
    ("partition_or_null",orNull Json.nat spec.partition),
    ("reservation_minutes",.int spec.reservationMinutes),
    ("scale_or_null",orNull .str spec.scale),
    ("segment",.str spec.segment),
    ("semantics_or_null",orNull .str spec.semantics),
    ("strategy_candidate_id_or_null",orNull .str spec.strategyCandidateId),
    ("strategy_ordinal_or_null",orNull Json.nat spec.strategyOrdinal),
    ("unit_kind",.str spec.unitKind)])))

namespace FollowupCampaignState

def state (state : FollowupCampaignState) : Option CampaignStateName := state.document.stateName

/-- The property `sequence`. -/
def sequence (state : FollowupCampaignState) : Checked ℤ :=
  match state.document .sequence with
  | .int value => .ok value
  | _ => .error ⟨.assertionError,""⟩

end FollowupCampaignState

/-- What a campaign is opened with. -/
structure CampaignLineage where
  experimentSourceS1 : String
  evidenceFreezeS2 : String
  compatibilityReceipt : String
  qualificationRunId : ℤ
  qualificationQ6ArtifactId : ℤ
  qualificationQ6ArtifactDigest : String
deriving DecidableEq, Repr

def lineageFields : List CampaignField := [.authority,.campaignId,.compatibilityReceipt,.evidenceFreezeS2,
  .experimentSourceS1,.formalMatrix,.publicationEvidenceAdmitted,.qualificationQ6ArtifactDigest,
  .qualificationQ6ArtifactId,.qualificationRunId,.schemaVersion,.scientificPlan,.stage1Plan,.studyId]

def openDocument (lineage : CampaignLineage) (campaignId formalMatrix : String) : CampaignDocument :=
  CampaignDocument.update (fun _ => .null) [
    (.authority,.bool false),
    (.campaignId,.str campaignId),
    (.compatibilityReceipt,.str lineage.compatibilityReceipt),
    (.evidenceFreezeS2,.str lineage.evidenceFreezeS2),
    (.experimentSourceS1,.str lineage.experimentSourceS1),
    (.formalMatrix,.str formalMatrix),
    (.publicationEvidenceAdmitted,.bool false),
    (.qualificationQ6ArtifactDigest,.str lineage.qualificationQ6ArtifactDigest),
    (.qualificationQ6ArtifactId,.int lineage.qualificationQ6ArtifactId),
    (.qualificationRunId,.int lineage.qualificationRunId),
    (.retryUsed,.bool false),
    (.schemaVersion,.str campaignStateSchema),
    (.scientificPlan,.str followupBaselineSha256),
    (.sequence,.int 0),
    (.stage1Plan,.str followupStage1PlanSha256),
    (.state,.str CampaignStateName.campaignOpen.name),
    (.studyId,.str followupStudyId)]

def openFollowupCampaignState (sha : Sha256) (lineage : CampaignLineage)
    (profile : RouteAScientificProfile) : Checked FollowupCampaignState := do
  let matrix ← followupFormalMatrixSha256 sha profile
  let campaignId ← followupFormalCampaignId sha (.str lineage.experimentSourceS1)
    (.str lineage.evidenceFreezeS2) (.str lineage.compatibilityReceipt) (.int lineage.qualificationRunId)
    (.int lineage.qualificationQ6ArtifactId) (.str lineage.qualificationQ6ArtifactDigest) (.str matrix)
  newState sha (openDocument lineage campaignId matrix) []

/-- The ordinal that a nominal reservation must name. -/
def nominalOrdinal (previous : FollowupCampaignState) : Checked ℤ :=
  if previous.state = some .campaignOpen then .ok 0
  else if previous.state = some .unitCommitted then
    match previous.document .unitOrdinal with
    | .int prior => .ok (prior + 1)
    | _ => .error ⟨.assertionError,""⟩
  else .error (campaignError "nominal unit cannot follow this campaign state")

def reservation (sha : Sha256) (previous : FollowupCampaignState) (spec : FollowupFormalUnitSpec)
    (unitAttemptOrdinal retryUsed : Json) : Checked FollowupCampaignState := do
  let sequence ← previous.sequence
  newState sha previous.document [
    (.artifactId,.null),
    (.artifactName,.null),
    (.artifactProviderDigest,.null),
    (.providerFailureClass,.null),
    (.providerFailureEvidence,.null),
    (.providerRunAttempt,.null),
    (.providerRunId,.null),
    (.retryUsed,retryUsed),
    (.sequence,.int (sequence + 1)),
    (.state,.str CampaignStateName.unitReserved.name),
    (.terminalReasonCode,.null),
    (.unitAttemptOrdinal,unitAttemptOrdinal),
    (.unitKind,.str spec.unitKind),
    (.unitOrdinal,.int spec.ordinal),
    (.unitOutputEnvelope,.null),
    (.watcherReceipt,.null),
    (.watcherSession,.null)]

/-- `reserve_followup_campaign_unit`. The attempt is compared by `==` and written as it was given. -/
def reserveFollowupCampaignUnit (sha : Sha256) (previous : FollowupCampaignState)
    (spec : FollowupFormalUnitSpec) (unitAttemptOrdinal : Json) : Checked FollowupCampaignState :=
  -- a float that equals one or two is left out: the new state's bytes would not be parsed
  if equalsInt 1 unitAttemptOrdinal = true then do
    let expectedOrdinal ← nominalOrdinal previous
    Checked.require (isFalse (previous.document .retryUsed) = true ∨ previous.state ≠ some .campaignOpen)
      (campaignError "campaign opened with a consumed retry")
    Checked.require (spec.ordinal = expectedOrdinal ∧ spec.ordinal < 17)
      (campaignError "nominal unit order changed")
    reservation sha previous spec unitAttemptOrdinal (previous.document .retryUsed)
  else if equalsInt 2 unitAttemptOrdinal = true then do
    Checked.require (previous.state = some .unitProviderFailed ∧
      isFalse (previous.document .retryUsed) = true ∧
      equalsInt spec.ordinal (previous.document .unitOrdinal) = true)
      (campaignError "replacement lacks one eligible failed predecessor")
    reservation sha previous spec unitAttemptOrdinal (.bool true)
  else .error (campaignError "outer unit attempt is outside 1..2")

def bindFollowupCampaignRun (sha : Sha256) (previous : FollowupCampaignState) (providerRunId : ℤ) :
    Checked FollowupCampaignState := do
  Checked.require (previous.state = some .unitReserved)
    (campaignError "run binding does not follow a reservation")
  let _ ← requirePositive (.int providerRunId) "provider run ID"
  let sequence ← previous.sequence
  newState sha previous.document [
    (.providerRunAttempt,.int 1),
    (.providerRunId,.int providerRunId),
    (.sequence,.int (sequence + 1)),
    (.state,.str CampaignStateName.runBound.name)]

def armFollowupCampaignWatch (sha : Sha256) (previous : FollowupCampaignState)
    (watcherSession : String) : Checked FollowupCampaignState := do
  Checked.require (previous.state = some .runBound)
    (campaignError "watch arm does not follow one exact run binding")
  let _ ← requireSha (.str watcherSession) "watcher session"
  let sequence ← previous.sequence
  newState sha previous.document [
    (.sequence,.int (sequence + 1)),
    (.state,.str CampaignStateName.watchArmed.name),
    (.watcherSession,.str watcherSession)]

/-- What a committed unit delivers. -/
structure UnitOutput where
  watcherReceipt : String
  artifactId : ℤ
  artifactName : String
  artifactProviderDigest : String
  unitOutputEnvelope : String
deriving DecidableEq, Repr

def commitFollowupCampaignUnit (sha : Sha256) (previous : FollowupCampaignState) (output : UnitOutput) :
    Checked FollowupCampaignState := do
  Checked.require (previous.state = some .watchArmed)
    (campaignError "unit commit does not follow one armed watcher")
  let _ ← requireSha (.str output.watcherReceipt) "watcher receipt"
  let _ ← requirePositive (.int output.artifactId) "artifact ID"
  Checked.require ("followup-performance-v1-".toList.isPrefixOf output.artifactName.toList = true)
    (campaignError "artifact name is outside the follow-up namespace")
  let _ ← requireProviderDigest (.str output.artifactProviderDigest)
    "artifact digest is not a provider SHA-256"
  let _ ← requireSha (.str output.unitOutputEnvelope) "unit output envelope"
  let sequence ← previous.sequence
  newState sha previous.document [
    (.artifactId,.int output.artifactId),
    (.artifactName,.str output.artifactName),
    (.artifactProviderDigest,.str output.artifactProviderDigest),
    (.sequence,.int (sequence + 1)),
    (.state,.str CampaignStateName.unitCommitted.name),
    (.unitOutputEnvelope,.str output.unitOutputEnvelope),
    (.watcherReceipt,.str output.watcherReceipt)]

def recordFollowupProviderFailure (sha : Sha256) (previous : FollowupCampaignState)
    (providerFailureClass providerFailureEvidence watcherReceipt : String) :
    Checked FollowupCampaignState := do
  Checked.require (previous.state = some .watchArmed)
    (campaignError "provider failure does not follow one armed watcher")
  Checked.require (providerFailureClass ∈ followupProviderFailureClasses)
    (campaignError "provider failure is not replacement-eligible")
  let _ ← requireSha (.str providerFailureEvidence) "provider failure evidence"
  let _ ← requireSha (.str watcherReceipt) "watcher receipt"
  Checked.require (isFalse (previous.document .retryUsed) = true)
    (campaignError "the sole provider retry was already consumed")
  let sequence ← previous.sequence
  newState sha previous.document [
    (.providerFailureClass,.str providerFailureClass),
    (.providerFailureEvidence,.str providerFailureEvidence),
    (.sequence,.int (sequence + 1)),
    (.state,.str CampaignStateName.unitProviderFailed.name),
    (.watcherReceipt,.str watcherReceipt)]

def closeFollowupCampaignNoGo (sha : Sha256) (previous : FollowupCampaignState)
    (terminalReasonCode : String) : Checked FollowupCampaignState := do
  Checked.require (previous.state ≠ some .campaignNoGo) (campaignError "campaign cannot close twice")
  Checked.require (terminalReasonCode ∈ noGoReasons)
    (campaignError "campaign NO-GO reason is outside its closed domain")
  let sequence ← previous.sequence
  newState sha previous.document [
    (.sequence,.int (sequence + 1)),
    (.state,.str CampaignStateName.campaignNoGo.name),
    (.terminalReasonCode,.str terminalReasonCode)]

/-- The transitions with their arguments. -/
inductive CampaignTransition
  | reserve (spec : FollowupFormalUnitSpec) (unitAttemptOrdinal : Json)
  | bind (providerRunId : ℤ)
  | arm (watcherSession : String)
  | commit (output : UnitOutput)
  | recordProviderFailure (providerFailureClass providerFailureEvidence watcherReceipt : String)
  | closeNoGo (terminalReasonCode : String)

def CampaignTransition.apply (sha : Sha256) (previous : FollowupCampaignState) :
    CampaignTransition → Checked FollowupCampaignState
  | .reserve spec attempt => reserveFollowupCampaignUnit sha previous spec attempt
  | .bind providerRunId => bindFollowupCampaignRun sha previous providerRunId
  | .arm watcherSession => armFollowupCampaignWatch sha previous watcherSession
  | .commit output => commitFollowupCampaignUnit sha previous output
  | .recordProviderFailure failureClass evidence receipt =>
    recordFollowupProviderFailure sha previous failureClass evidence receipt
  | .closeNoGo reason => closeFollowupCampaignNoGo sha previous reason

/-! `build_followup_campaign_selection`. -/

structure FollowupCampaignSelection where
  document : Json
  documentBytes : List UInt8
  sha256 : String

/-- `common_fields`. -/
def selectionCommonFields : List CampaignField := [.campaignId,.compatibilityReceipt,.evidenceFreezeS2,
  .experimentSourceS1,.formalMatrix,.qualificationQ6ArtifactDigest,.qualificationQ6ArtifactId,
  .qualificationRunId]

/-- Whether two texts or two numbers are equal. -/
def sameScalar : Json → Json → Bool
  | .str left,.str right => left == right
  | .int left,.int right => left == right
  | _,_ => false

/-- The typed fields of a committed state. -/
structure CommittedUnit where
  attempt : ℤ
  runId : ℤ
  artifactId : ℤ
  artifactName : String
  artifactDigest : String
  envelope : String
deriving DecidableEq, Repr

def committedFields (document : CampaignDocument) : Option CommittedUnit :=
  match document .unitAttemptOrdinal,document .providerRunId,document .artifactId,document .artifactName,
    document .artifactProviderDigest,document .unitOutputEnvelope with
  | .int attempt,.int runId,.int artifactId,.str artifactName,.str artifactDigest,.str envelope =>
    some ⟨attempt,runId,artifactId,artifactName,artifactDigest,envelope⟩
  | _,_,_,_,_,_ => none

structure SelectionDraft where
  units : List Json
  replacementOrdinal : Option ℤ
  previousSequence : ℤ
  runIds : List ℤ
  artifactIds : List ℤ
  artifactNames : List String
  artifactDigests : List String
  admissions : List String

def selectionFailure : Failure := campaignError "campaign selection contains a nonfinal or mismatched unit"

def requireCommitted (first : CampaignDocument) (expectedMatrix : String) (previousSequence sequence : ℤ)
    (spec : FollowupFormalUnitSpec) (state : FollowupCampaignState) : Checked CommittedUnit :=
  match committedFields state.document with
  | none => .error selectionFailure
  | some unit =>
    if state.state = some .unitCommitted ∧ equalsInt spec.ordinal (state.document .unitOrdinal) = true ∧
        equalsText spec.unitKind (state.document .unitKind) = true ∧
        equalsInt 1 (state.document .providerRunAttempt) = true ∧
        equalsText expectedMatrix (state.document .formalMatrix) = true ∧
        (∀ field ∈ selectionCommonFields, sameScalar (state.document field) (first field) = true) ∧
        previousSequence < sequence ∧ unit.attempt ∈ [(1 : ℤ),2] then .ok unit
    else .error selectionFailure

/-- `replacement_ordinal` after a unit. -/
def replacementAfter (replacementOrdinal : Option ℤ) (attempt ordinal : ℤ) : Checked (Option ℤ) :=
  if attempt = 2 then
    if replacementOrdinal.isSome then .error (campaignError "campaign selection uses more than one retry")
    else .ok (some ordinal)
  else .ok replacementOrdinal

def selectedFields (spec : FollowupFormalUnitSpec) (state : FollowupCampaignState) (admission : String)
    (sequence : ℤ) (unit : CommittedUnit) : List (String × Json) := [
  ("artifact_id",.int unit.artifactId),
  ("artifact_name",.str unit.artifactName),
  ("artifact_provider_digest",.str unit.artifactDigest),
  ("campaign_run_admission_sha256",.str admission),
  ("committed_state_sequence",.int sequence),
  ("committed_state_sha256",.str state.sha256),
  ("formal_unit_ordinal",.int spec.ordinal),
  ("provider_run_attempt",.int 1),
  ("provider_run_id",.int unit.runId),
  ("unit_attempt_ordinal",.int unit.attempt),
  ("unit_kind",.str spec.unitKind),
  ("unit_output_envelope_sha256",.str unit.envelope)]

/-- The lists of the loop with one more unit. -/
def SelectionDraft.select (draft : SelectionDraft) (spec : FollowupFormalUnitSpec)
    (state : FollowupCampaignState) (admission : String) (sequence : ℤ) (unit : CommittedUnit)
    (replacementOrdinal : Option ℤ) : SelectionDraft where
  units := draft.units ++ [.object (selectedFields spec state admission sequence unit)]
  replacementOrdinal := replacementOrdinal
  previousSequence := sequence
  runIds := draft.runIds ++ [unit.runId]
  artifactIds := draft.artifactIds ++ [unit.artifactId]
  artifactNames := draft.artifactNames ++ [unit.artifactName]
  artifactDigests := draft.artifactDigests ++ [unit.artifactDigest]
  admissions := draft.admissions ++ [admission]

/-- The body of the loop over the units. -/
def selectUnit (first : CampaignDocument) (expectedMatrix : String) (draft : SelectionDraft)
    (entry : FollowupFormalUnitSpec × FollowupCampaignState × String) : Checked SelectionDraft := do
  let (spec,state,admission) := entry
  let _ ← requireSha (.str admission) "campaign run admission"
  let sequence ← state.sequence
  let unit ← requireCommitted first expectedMatrix draft.previousSequence sequence spec state
  let replacementOrdinal ← replacementAfter draft.replacementOrdinal unit.attempt spec.ordinal
  Checked.require (isBool replacementOrdinal.isSome (state.document .retryUsed) = true)
    (campaignError "campaign retry state is not monotonic")
  Checked.require (unit.runId ∉ draft.runIds ∧ unit.artifactId ∉ draft.artifactIds ∧
      unit.artifactName ∉ draft.artifactNames ∧ unit.artifactDigest ∉ draft.artifactDigests ∧
      admission ∉ draft.admissions)
    (campaignError "campaign selection reuses a run, artifact, or admission identity")
  return draft.select spec state admission sequence unit replacementOrdinal

def selectionSchema : String := "dynamic-cssc-followup-performance-campaign-selection-v1"

/-- The closing document. -/
def selectionFields (first : CampaignDocument) (expectedMatrix : String) (draft : SelectionDraft) :
    List (String × Json) := [
  ("authority",.bool false),
  ("campaign_id",first .campaignId),
  ("compatibility_receipt_sha256",first .compatibilityReceipt),
  ("evidence_freeze_S2_sha",first .evidenceFreezeS2),
  ("experiment_source_S1_sha",first .experimentSourceS1),
  ("formal_matrix_sha256",.str expectedMatrix),
  ("formal_unit_count",.int 17),
  ("publication_evidence_admitted",.bool false),
  ("replacement_attempt_used",.bool draft.replacementOrdinal.isSome),
  ("replacement_unit_ordinal_or_null",orNull .int draft.replacementOrdinal),
  ("schema_version",.str selectionSchema),
  ("study_id",.str followupStudyId),
  ("units",.arr draft.units)]

/-- `committed_states[0]` of seventeen states. -/
def firstDocument : List FollowupCampaignState → Checked CampaignDocument
  | [] => .error (campaignError "campaign selection requires exactly seventeen committed states")
  | state :: _ => .ok state.document

def buildFollowupCampaignSelection (sha : Sha256) (committedStates : List FollowupCampaignState)
    (admissions : List String) (profile : RouteAScientificProfile) : Checked FollowupCampaignSelection := do
  Checked.require (committedStates.length = 17 ∧ admissions.length = 17)
    (campaignError "campaign selection requires exactly seventeen committed states")
  let specs ← followupFormalUnitSpecs profile
  let expectedMatrix ← followupFormalMatrixSha256 sha profile
  let first ← firstDocument committedStates
  let entries ← zipStrict specs (committedStates.zip admissions)
  let draft ← entries.foldlM (selectUnit first expectedMatrix) ⟨[],none,-1,[],[],[],[],[]⟩
  let document := Json.object (selectionFields first expectedMatrix draft)
  return { document := document
           documentBytes := canonicalJsonBytes document
           sha256 := sha256Bytes sha (canonicalJsonBytes document) }

/-! `inspect_followup_campaign_selection`. -/

def requireUnit : Json → Checked (List (String × Json))
  | .obj held => .ok held
  | _ => .error (campaignError "campaign selection unit set changed")

/-- The units of a selection, each a dictionary. -/
def selectionUnits : Json → Checked (List (List (String × Json)))
  | .obj fields =>
    match fields.lookup "units" with
    | some (.arr units) => units.mapM requireUnit
    | _ => .error (campaignError "campaign selection unit set changed")
  | _ => .error (campaignError "campaign selection is not canonical JSON")

def selectionAdmission (unit : List (String × Json)) : Checked String :=
  match unit.lookup "campaign_run_admission_sha256" with
  | some (.str admission) => .ok admission
  | _ => .error (campaignError "campaign selection admission digest changed")

def isObject : Json → Bool
  | .obj _ => true
  | _ => false

def inspectFollowupCampaignSelection (sha : Sha256) (content : List UInt8)
    (committedStateBytes : List (List UInt8)) (profile : RouteAScientificProfile) :
    Checked FollowupCampaignSelection := do
  let states ← committedStateBytes.mapM (inspectFollowupCampaignState sha)
  let value ← parseAsciiJson "follow-up campaign selection" content
  Checked.require (isObject value = true ∧ canonicalJsonBytes value = content)
    (campaignError "campaign selection is not canonical JSON")
  let units ← selectionUnits value
  let admissions ← units.mapM selectionAdmission
  let expected ← buildFollowupCampaignSelection sha states admissions profile
  Checked.require (content = expected.documentBytes)
    (campaignError "campaign selection differs from committed states")
  return expected

end DynamicCssc
