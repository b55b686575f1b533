import DynamicCssc.Failure
import DynamicCssc.Foundation.JsonCanonical
import DynamicCssc.Foundation.Dict

/-! The state receipt of a formal campaign: one JSON object with a fixed set of fields, most of which
may be null, and the check that parses and closes it. -/
namespace DynamicCssc
open Foundation

/-- The keys of `_FIXED_FIELDS`. -/
inductive CampaignField
  | artifactId
  | artifactName
  | artifactProviderDigest
  | authority
  | campaignId
  | compatibilityReceipt
  | evidenceFreezeS2
  | experimentSourceS1
  | formalMatrix
  | providerFailureClass
  | providerFailureEvidence
  | providerRunAttempt
  | providerRunId
  | publicationEvidenceAdmitted
  | qualificationQ6ArtifactDigest
  | qualificationQ6ArtifactId
  | qualificationRunId
  | retryUsed
  | schemaVersion
  | scientificPlan
  | sequence
  | stage1Plan
  | state
  | studyId
  | terminalReasonCode
  | unitAttemptOrdinal
  | unitKind
  | unitOrdinal
  | unitOutputEnvelope
  | watcherReceipt
  | watcherSession
deriving DecidableEq, Repr

namespace CampaignField

def name : CampaignField → String
  | .artifactId => "artifact_id_or_null"
  | .artifactName => "artifact_name_or_null"
  | .artifactProviderDigest => "artifact_provider_digest_or_null"
  | .authority => "authority"
  | .campaignId => "campaign_id"
  | .compatibilityReceipt => "compatibility_receipt_sha256"
  | .evidenceFreezeS2 => "evidence_freeze_S2_sha"
  | .experimentSourceS1 => "experiment_source_S1_sha"
  | .formalMatrix => "formal_matrix_sha256"
  | .providerFailureClass => "provider_failure_class_or_null"
  | .providerFailureEvidence => "provider_failure_evidence_sha256_or_null"
  | .providerRunAttempt => "provider_run_attempt_or_null"
  | .providerRunId => "provider_run_id_or_null"
  | .publicationEvidenceAdmitted => "publication_evidence_admitted"
  | .qualificationQ6ArtifactDigest => "qualification_q6_artifact_digest"
  | .qualificationQ6ArtifactId => "qualification_q6_artifact_id"
  | .qualificationRunId => "qualification_run_id"
  | .retryUsed => "retry_used"
  | .schemaVersion => "schema_version"
  | .scientificPlan => "scientific_plan_sha256"
  | .sequence => "sequence"
  | .stage1Plan => "stage1_plan_sha256"
  | .state => "state"
  | .studyId => "study_id"
  | .terminalReasonCode => "terminal_reason_code_or_null"
  | .unitAttemptOrdinal => "unit_attempt_ordinal_or_null"
  | .unitKind => "unit_kind_or_null"
  | .unitOrdinal => "unit_ordinal_or_null"
  | .unitOutputEnvelope => "unit_output_envelope_sha256_or_null"
  | .watcherReceipt => "watcher_receipt_sha256_or_null"
  | .watcherSession => "watcher_session_sha256_or_null"

def all : List CampaignField := [.artifactId,.artifactName,.artifactProviderDigest,.authority,.campaignId,
  .compatibilityReceipt,.evidenceFreezeS2,.experimentSourceS1,.formalMatrix,.providerFailureClass,
  .providerFailureEvidence,.providerRunAttempt,.providerRunId,.publicationEvidenceAdmitted,
  .qualificationQ6ArtifactDigest,.qualificationQ6ArtifactId,.qualificationRunId,.retryUsed,.schemaVersion,
  .scientificPlan,.sequence,.stage1Plan,.state,.studyId,.terminalReasonCode,.unitAttemptOrdinal,.unitKind,
  .unitOrdinal,.unitOutputEnvelope,.watcherReceipt,.watcherSession]

theorem mem_all (field : CampaignField) : field ∈ all := by
  cases field <;> decide

theorem names_nodup : (all.map name).Nodup := by
  decide +kernel

end CampaignField

/-- The seven states. -/
inductive CampaignStateName
  | campaignOpen
  | unitReserved
  | runBound
  | watchArmed
  | unitCommitted
  | unitProviderFailed
  | campaignNoGo
deriving DecidableEq, Repr

namespace CampaignStateName

def name : CampaignStateName → String
  | .campaignOpen => "campaign-open"
  | .unitReserved => "unit-reserved"
  | .runBound => "run-bound"
  | .watchArmed => "watch-armed"
  | .unitCommitted => "unit-committed"
  | .unitProviderFailed => "unit-provider-failed"
  | .campaignNoGo => "campaign-no-go"

def all : List CampaignStateName := [.campaignOpen,.unitReserved,.runBound,.watchArmed,.unitCommitted,
  .unitProviderFailed,.campaignNoGo]

def ofName (text : String) : Option CampaignStateName := all.find? fun state => state.name = text

@[simp] theorem ofName_name (state : CampaignStateName) : ofName state.name = some state := by
  cases state <;> decide

end CampaignStateName

/-- A document whose key set is the fixed one. -/
abbrev CampaignDocument := CampaignField → Json

namespace CampaignDocument

def json (document : CampaignDocument) : Json :=
  .object (CampaignField.all.map fun field => (field.name,document field))

/-- `document.update(changes)`. -/
def update (document : CampaignDocument) (changes : List (CampaignField × Json)) : CampaignDocument :=
  changes.foldl (fun document change => Function.update document change.1 change.2) document

def ofFields (fields : List (String × Json)) : CampaignDocument := fun field =>
  (fields.lookup field.name).getD .null

def stateName (document : CampaignDocument) : Option CampaignStateName :=
  match document .state with
  | .str text => CampaignStateName.ofName text
  | _ => none

end CampaignDocument

structure FollowupCampaignState where
  document : CampaignDocument
  documentBytes : List UInt8
  sha256 : String

def campaignStateSchema : String := "dynamic-cssc-followup-performance-campaign-state-v1"
def followupStudyId : String := "dynamic-cssc-followup-performance-2026-08-30"
def followupStage1PlanSha256 : String := "a4600fbcbf630ab3a11e5004511f6b449645021ea2553243ddda80ed69f3484c"
def followupBaselineSha256 : String := "0d307169356a50cc75f6ad7ba1c018321c0693e185cde7f5f2e7fef472da8e0e"

def followupProviderFailureClasses : List String := ["actions-internal-service-error",
  "hosted-runner-assignment-failure","hosted-runner-loss-or-shutdown"]

def noGoReasons : List String := ["artifact-invalid","budget-exhausted","cas-failed-or-ambiguous",
  "dispatch-failed-or-ambiguous","identity-invalid","nonretryable-provider-failure",
  "provider-observation-failed","retry-budget-insufficient","scientific-or-guard-failure",
  "watcher-failed-or-incomplete"]

def campaignUnitKinds : List String := ["formal-acquisition","formal-native","formal-ordered-event",
  "formal-synthetic"]

def campaignError (message : String) : Failure := ⟨.followupCampaignError,message⟩

/-! The shared text helpers. -/

def lowerHex (length : ℕ) (text : List Char) : Bool :=
  text.length == length && text.all fun character =>
    ('0' ≤ character && character ≤ '9') || ('a' ≤ character && character ≤ 'f')

/-- `_LOWER_GIT_SHA`. -/
def validGitSha (value : String) : Bool := lowerHex 40 value.toList

/-- `_PROVIDER_DIGEST`. -/
def validProviderDigest (value : String) : Bool :=
  "sha256:".toList.isPrefixOf value.toList && lowerHex 64 (value.toList.drop 7)

def canonicalJsonBytes (value : Json) : List UInt8 :=
  Json.asciiEncode (Json.render true (Json.sortKeys value) ++ ['\n'])

/-- `_sha256`. -/
def sha256Bytes (sha : Sha256) (content : List UInt8) : String :=
  sha.hexdigest (String.ofList (content.map fun byte => Char.ofNat byte.toNat))

def parseAsciiJson (label : String) (content : List UInt8) : Checked Json :=
  match Json.asciiDecode content with
  | none => .error ⟨.followupContractError,label ++ " is not duplicate-free ASCII JSON"⟩
  | some text =>
    match Json.loads text with
    | .ok value => .ok value
    | .error .decode => .error ⟨.followupContractError,label ++ " is not duplicate-free ASCII JSON"⟩
    | .error .duplicate => .error ⟨.followupContractError,"JSON document contains duplicate key"⟩
    | .error .foreign => .error ⟨.followupContractError,label ++ " contains a JSON float"⟩

def requireSha (value : Json) (field : String) : Checked String :=
  match value with
  | .str text => if validSha256 text = true then .ok text
    else .error (campaignError (field ++ " is not one lowercase SHA-256"))
  | _ => .error (campaignError (field ++ " is not one lowercase SHA-256"))

def requireGitSha (value : Json) (field : String) : Checked String :=
  match value with
  | .str text => if validGitSha text = true then .ok text
    else .error (campaignError (field ++ " is not one lowercase Git SHA-1"))
  | _ => .error (campaignError (field ++ " is not one lowercase Git SHA-1"))

def requirePositive (value : Json) (field : String) : Checked ℤ :=
  match value with
  | .int number => if 0 < number then .ok number
    else .error (campaignError (field ++ " is not one positive integer"))
  | _ => .error (campaignError (field ++ " is not one positive integer"))

/-- A text that `_PROVIDER_DIGEST` matches. -/
def requireProviderDigest (value : Json) (message : String) : Checked String :=
  match value with
  | .str text => if validProviderDigest text = true then .ok text else .error (campaignError message)
  | _ => .error (campaignError message)

/-- `value in {...}` for a set of texts: lists and dictionaries can not be hashed. -/
def memberOf (texts : List String) : Json → Checked Bool
  | .str text => .ok (text ∈ texts)
  | .arr _ => .error ⟨.typeError,"unhashable type: 'list'"⟩
  | .obj _ => .error ⟨.typeError,"unhashable type: 'dict'"⟩
  | _ => .ok false

/-- `value in {None, ...}` for a set of numbers, of which `True` is one. -/
def nullOrOneOf (numbers : List ℤ) : Json → Checked Bool
  | .null => .ok true
  | .int number => .ok (number ∈ numbers)
  | .bool value => .ok ((if value then 1 else 0) ∈ numbers)
  | .str _ => .ok false
  | .arr _ => .error ⟨.typeError,"unhashable type: 'list'"⟩
  | .obj _ => .error ⟨.typeError,"unhashable type: 'dict'"⟩

def isNull : Json → Bool
  | .null => true
  | _ => false

/-- `value is expected`, for a truth value. -/
def isBool (expected : Bool) : Json → Bool
  | .bool value => value == expected
  | _ => false

def isFalse : Json → Bool := isBool false

def equalsText (expected : String) : Json → Bool
  | .str text => text == expected
  | _ => false

/-- `value == number`, which also holds of `True` and one. -/
def equalsInt (number : ℤ) : Json → Bool
  | .int value => value == number
  | .bool value => (if value then 1 else 0) == number
  | _ => false

/-! `inspect_followup_campaign_state`. -/

def followupFormalCampaignId (sha : Sha256) (experimentSourceS1 evidenceFreezeS2 compatibilityReceipt : Json)
    (qualificationRunId qualificationQ6ArtifactId qualificationQ6ArtifactDigest formalMatrix : Json) :
    Checked String := do
  let experimentSource ← requireGitSha experimentSourceS1 "experiment source S1"
  let evidenceFreeze ← requireGitSha evidenceFreezeS2 "evidence freeze S2"
  let compatibility ← requireSha compatibilityReceipt "compatibility receipt"
  let runId ← requirePositive qualificationRunId "qualification run ID"
  let artifactId ← requirePositive qualificationQ6ArtifactId "qualification q6 artifact ID"
  let artifactDigest ← requireProviderDigest qualificationQ6ArtifactDigest
    "qualification q6 digest is not a provider SHA-256"
  let matrix ← requireSha formalMatrix "formal matrix"
  return sha256Bytes sha (canonicalJsonBytes (.object [
    ("compatibility_receipt_sha256",.str compatibility),
    ("evidence_freeze_S2_sha",.str evidenceFreeze),
    ("experiment_source_S1_sha",.str experimentSource),
    ("formal_matrix_sha256",.str matrix),
    ("qualification_q6_artifact_digest",.str artifactDigest),
    ("qualification_q6_artifact_id",.int artifactId),
    ("qualification_run_id",.int runId),
    ("scientific_plan_sha256",.str followupBaselineSha256),
    ("stage1_plan_sha256",.str followupStage1PlanSha256),
    ("study_id",.str followupStudyId)]))

/-- The document of a parsed value, when its key set is the fixed one. -/
def documentFields : Json → Checked CampaignDocument
  | .obj fields =>
    if (∀ field ∈ fields, field.1 ∈ CampaignField.all.map CampaignField.name) ∧
        ∀ name ∈ CampaignField.all.map CampaignField.name, name ∈ fields.map Prod.fst then
      .ok (CampaignDocument.ofFields fields)
    else .error (campaignError "campaign state field set changed")
  | _ => .error (campaignError "campaign state field set changed")

def scalarFailure : Failure := campaignError "campaign state lineage or scalar domain changed"

/-- `value.get("state") not in _STATES`, and the state itself. -/
def requireStateName (value : Json) : Checked CampaignStateName :=
  match value with
  | .str text =>
    match CampaignStateName.ofName text with
    | some state => .ok state
    | none => .error scalarFailure
  | .arr _ => .error ⟨.typeError,"unhashable type: 'list'"⟩
  | .obj _ => .error ⟨.typeError,"unhashable type: 'dict'"⟩
  | _ => .error scalarFailure

def requireSequence (value : Json) : Checked Unit :=
  match value with
  | .int number => Checked.require (0 ≤ number) scalarFailure
  | _ => .error scalarFailure

def requireBool (value : Json) : Checked Unit :=
  match value with
  | .bool _ => .ok ()
  | _ => .error scalarFailure

/-- A field that is null or passes a check. -/
def nullable {α : Type} (value : Json) (check : Checked α) : Checked Unit :=
  if isNull value then .ok () else check >>= fun _ => .ok ()

def requireOrdinal (value : Json) : Checked Unit :=
  match value with
  | .null => .ok ()
  | .int number => Checked.require (0 ≤ number ∧ number < 17)
    (campaignError "unit ordinal is outside 0..16")
  | _ => .error (campaignError "unit ordinal is outside 0..16")

def validateLineage (sha : Sha256) (document : CampaignDocument) : Checked Unit := do
  let campaignId ← requireSha (document .campaignId) "campaign ID"
  let _ ← requireSha (document .compatibilityReceipt) "compatibility receipt"
  let _ ← requireGitSha (document .experimentSourceS1) "experiment source S1"
  let _ ← requireGitSha (document .evidenceFreezeS2) "evidence freeze S2"
  let _ ← requireSha (document .formalMatrix) "formal matrix"
  let _ ← requirePositive (document .qualificationRunId) "qualification run ID"
  let _ ← requirePositive (document .qualificationQ6ArtifactId) "qualification q6 artifact ID"
  let _ ← requireProviderDigest (document .qualificationQ6ArtifactDigest)
    "qualification q6 artifact digest changed"
  let expectedCampaignId ← followupFormalCampaignId sha (document .experimentSourceS1)
    (document .evidenceFreezeS2) (document .compatibilityReceipt) (document .qualificationRunId)
    (document .qualificationQ6ArtifactId) (document .qualificationQ6ArtifactDigest) (document .formalMatrix)
  Checked.require (campaignId = expectedCampaignId) (campaignError "campaign ID does not reproduce")

def providerFailureKnown (document : CampaignDocument) : Checked Bool :=
  if isNull (document .providerFailureClass) then .ok true
  else memberOf followupProviderFailureClasses (document .providerFailureClass)

def terminalReasonKnown (document : CampaignDocument) : Checked Bool :=
  if isNull (document .terminalReasonCode) then .ok true
  else memberOf noGoReasons (document .terminalReasonCode)

def validateNullable (document : CampaignDocument) : Checked Unit := do
  Checked.each (fun field : CampaignField => nullable (document field) (requireSha (document field) field.name))
    [.providerFailureEvidence,.unitOutputEnvelope,.watcherReceipt,.watcherSession]
  nullable (document .artifactProviderDigest)
    (requireProviderDigest (document .artifactProviderDigest) "artifact provider digest changed")
  Checked.each (fun field : CampaignField =>
      nullable (document field) (requirePositive (document field) field.name))
    [.artifactId,.providerRunId]
  let initialAttempt ← nullOrOneOf [1] (document .providerRunAttempt)
  Checked.require (initialAttempt = true) (campaignError "provider run attempt is not the initial attempt")
  let outerAttempt ← nullOrOneOf [1,2] (document .unitAttemptOrdinal)
  Checked.require (outerAttempt = true) (campaignError "outer unit attempt changed")
  requireOrdinal (document .unitOrdinal)
  let failureKnown ← providerFailureKnown document
  Checked.require (failureKnown = true) (campaignError "provider failure class changed")
  let reasonKnown ← terminalReasonKnown document
  Checked.require (reasonKnown = true) (campaignError "terminal reason code changed")

def unitFields : List CampaignField := [.unitOrdinal,.unitKind,.unitAttemptOrdinal]
def runFields : List CampaignField := [.providerRunId,.providerRunAttempt]
def artifactFields : List CampaignField := [.artifactId,.artifactName,.artifactProviderDigest,
  .unitOutputEnvelope]
def failureFields : List CampaignField := [.providerFailureClass,.providerFailureEvidence]

/-- `all(field is None for field in fields)`. -/
def allNull (document : CampaignDocument) (fields : List CampaignField) : Bool :=
  fields.all fun field => isNull (document field)

/-- `not any(field is None for field in fields)`. -/
def noneNull (document : CampaignDocument) (fields : List CampaignField) : Bool :=
  fields.all fun field => !isNull (document field)

/-- The states that bear a run, past their unit fields. -/
def validateRunProjection (document : CampaignDocument) (state : CampaignStateName) : Checked Unit := do
  Checked.require (noneNull document runFields = true)
    (campaignError "run-bearing campaign state lacks its provider run")
  if state = .runBound then
    Checked.require (allNull document (.watcherSession :: .watcherReceipt :: artifactFields ++ failureFields) =
      true) (campaignError "run binding projection changed")
  else do
    Checked.require (isNull (document .watcherSession) = false)
      (campaignError "watched campaign state lacks its watcher session")
    if state = .watchArmed then
      Checked.require (allNull document (.watcherReceipt :: artifactFields ++ failureFields) = true)
        (campaignError "watch-armed projection changed")
    else do
      Checked.require (isNull (document .watcherReceipt) = false)
        (campaignError "terminal unit state lacks its watcher receipt")
      if state = .unitCommitted then
        Checked.require (noneNull document artifactFields = true ∧ allNull document failureFields = true)
          (campaignError "committed unit projection changed")
      else
        Checked.require (allNull document artifactFields = true ∧ noneNull document failureFields = true)
          (campaignError "provider-failed unit projection changed")

def validateStateProjection (document : CampaignDocument) (state : CampaignStateName) : Checked Unit :=
  if state = .campaignOpen then
    Checked.require (equalsInt 0 (document .sequence) = true ∧ isFalse (document .retryUsed) = true ∧
      allNull document (unitFields ++ runFields ++ artifactFields ++ failureFields ++
        [.watcherSession,.watcherReceipt,.terminalReasonCode]) = true)
      (campaignError "campaign-open projection changed")
  else if state = .campaignNoGo then
    Checked.require (isNull (document .terminalReasonCode) = false)
      (campaignError "campaign NO-GO lacks its terminal reason")
  else do
    Checked.require (noneNull document unitFields = true) (campaignError "active unit projection changed")
    let kindKnown ← memberOf campaignUnitKinds (document .unitKind)
    Checked.require (kindKnown = true ∧ isNull (document .terminalReasonCode) = true)
      (campaignError "active unit projection changed")
    if state = .unitReserved then
      Checked.require (allNull document (runFields ++ artifactFields ++ failureFields ++
        [.watcherSession,.watcherReceipt]) = true) (campaignError "unit reservation projection changed")
    else validateRunProjection document state

def inspectFollowupCampaignState (sha : Sha256) (content : List UInt8) : Checked FollowupCampaignState := do
  let value ← parseAsciiJson "follow-up campaign state" content
  let document ← documentFields value
  Checked.require (canonicalJsonBytes value = content)
    (campaignError "campaign state is not canonical JSON")
  Checked.require (equalsText campaignStateSchema (document .schemaVersion) = true ∧
    equalsText followupStudyId (document .studyId) = true ∧
    equalsText followupStage1PlanSha256 (document .stage1Plan) = true ∧
    equalsText followupBaselineSha256 (document .scientificPlan) = true ∧
    isFalse (document .authority) = true ∧ isFalse (document .publicationEvidenceAdmitted) = true)
    scalarFailure
  let state ← requireStateName (document .state)
  requireSequence (document .sequence)
  requireBool (document .retryUsed)
  validateLineage sha document
  validateNullable document
  validateStateProjection document state
  return { document := document
           documentBytes := content
           sha256 := sha256Bytes sha content }

def newState (sha : Sha256) (base : CampaignDocument) (changes : List (CampaignField × Json)) :
    Checked FollowupCampaignState :=
  inspectFollowupCampaignState sha (canonicalJsonBytes (base.update changes).json)

end DynamicCssc
