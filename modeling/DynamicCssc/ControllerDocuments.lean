import DynamicCssc.CampaignDocument
import DynamicCssc.FractionText
import DynamicCssc.Foundation.PyJson

/-! The controller context and the route coverage of `publication_day1b_f1m_aggregation`: their documents
and the readers of these. A constructor checks the Python values it is given, so it is read here as the
function from those values to the typed record. -/
namespace DynamicCssc.ControllerDocuments
open Foundation Foundation.PyJson

inductive Phase
  | warmup
  | tuningPrefix
  | heldOut
deriving DecidableEq, Repr

def Phase.text : Phase → String
  | .warmup => "warmup"
  | .tuningPrefix => "tuning-prefix"
  | .heldOut => "held-out"

def phases : List Phase := [.warmup,.tuningPrefix,.heldOut]

inductive CandidateRole
  | reference
  | ablation
deriving DecidableEq, Repr

def CandidateRole.text : CandidateRole → String
  | .reference => "reference"
  | .ablation => "ablation"

def CandidateRole.retainedPhases : CandidateRole → List Phase
  | .reference => [.tuningPrefix,.heldOut]
  | .ablation => [.heldOut]

def controllerContextSchema : String := "dynamic-cssc-publication-day1b-f1m-controller-context-v2"
def routeCoverageSchema : String := "dynamic-cssc-publication-day1b-f1m-route-coverage-v2"
def publicationSourcePartitionCount : ℤ := 5
def day1BCellsPerUnit : ℤ := 18

def aggregationError (message : String) : Failure := ⟨.day1BF1MAggregationError,message⟩

/-! The readers of single values. -/

def requireText (accepts : String → Bool) (message : String) : PyJson → Checked String
  | .str text => if accepts text = true then .ok text else .error (aggregationError message)
  | _ => .error (aggregationError message)

def requireInteger (accepts : ℤ → Bool) (message : String) : PyJson → Checked ℤ
  | .int number => if accepts number = true then .ok number else .error (aggregationError message)
  | _ => .error (aggregationError message)

def requireSha256 (value : PyJson) (field : String) : Checked String :=
  requireText (fun text => lowerHex 64 text.toList) (field ++ " must be exact lowercase sha256") value

def requireGitSha (value : PyJson) (field : String) : Checked String :=
  requireText (fun text => lowerHex 40 text.toList) (field ++ " must be an exact lowercase Git SHA") value

def positive (value : PyJson) (field : String) : Checked ℤ :=
  requireInteger (fun number => decide (0 < number)) (field ++ " must be a positive strict integer") value

def nonnegative (value : PyJson) (field : String) : Checked ℤ :=
  requireInteger (fun number => decide (0 ≤ number)) (field ++ " must be a nonnegative strict integer") value

def nonempty (value : PyJson) (field : String) : Checked String :=
  requireText (fun text => text != "") (field ++ " must be a nonempty string") value

/-- `_canonical_fraction_text`. -/
def requireFraction (fraction : FractionText.FractionConstructor) (value : PyJson) (field : String) :
    Checked String :=
  match value with
  | .str text => FractionText.canonicalFractionText fraction text field
  | _ => .error (aggregationError (field ++ " must be an exact positive rational"))

/-- `candidate_role not in {"reference", "ablation"}`; a list or a dictionary cannot be looked up in a set. -/
def requireRole : PyJson → Checked CandidateRole
  | .str text =>
    if text = "reference" then .ok .reference
    else if text = "ablation" then .ok .ablation
    else .error (aggregationError "F1-M context candidate role is not frozen")
  | .arr _ => .error ⟨.typeError,"unhashable type: 'list'"⟩
  | .obj _ => .error ⟨.typeError,"unhashable type: 'dict'"⟩
  | _ => .error (aggregationError "F1-M context candidate role is not frozen")

def requirePhase (value : PyJson) : Checked Phase :=
  match phases.find? fun phase => equal (.str phase.text) value with
  | some phase => .ok phase
  | none => .error (aggregationError "F1-M context phase boundary is not frozen")

def phaseTuple (message : String) (values : List PyJson) : Checked (List ℤ) := do
  Checked.require (values.length = phases.length) (aggregationError message)
  values.mapM (requireInteger (fun number => decide (0 ≤ number)) message)

structure PhaseBoundary where
  phase : Phase
  acceptedGroupStart : ℤ
  acceptedGroupEnd : ℤ
  nonnegative : 0 ≤ acceptedGroupStart
  nonempty : acceptedGroupStart < acceptedGroupEnd
deriving DecidableEq, Repr

namespace PhaseBoundary

def postInit (phase acceptedGroupStart acceptedGroupEnd : PyJson) : Checked PhaseBoundary := do
  let name ← requirePhase phase
  match acceptedGroupStart with
  | .int start =>
    if low : 0 ≤ start then
      match acceptedGroupEnd with
      | .int stop =>
        if above : start < stop then .ok ⟨name,start,stop,low,above⟩
        else .error (aggregationError "F1-M context phase boundary is empty")
      | _ => .error (aggregationError "F1-M context phase boundary is empty")
    else .error (aggregationError "phase accepted-group start must be a nonnegative strict integer")
  | _ => .error (aggregationError "phase accepted-group start must be a nonnegative strict integer")

/-- `to_document`. -/
def document (boundary : PhaseBoundary) : List (String × PyJson) :=
  [("accepted_group_end",.int boundary.acceptedGroupEnd),
    ("accepted_group_start",.int boundary.acceptedGroupStart),
    ("phase",.str boundary.phase.text)]

end PhaseBoundary

/-- `set(value) == keys`. -/
def HasKeys (fields : List (String × PyJson)) (keys : List String) : Prop :=
  (∀ key ∈ fields.map Prod.fst, key ∈ keys) ∧ ∀ key ∈ keys, key ∈ fields.map Prod.fst

instance (fields : List (String × PyJson)) (keys : List String) : Decidable (HasKeys fields keys) := by
  unfold HasKeys
  infer_instance

/-- The fields of a dictionary with exactly these keys. -/
def exactFields (keys : List String) (value : PyJson) : Option (List (String × PyJson)) :=
  (fields value).filter fun fields => decide (HasKeys fields keys)

def phaseKeys : List String := phases.map Phase.text

/-- `dict(zip(_PHASES, counts))`. -/
def phaseDict (counts : List ℤ) : PyJson := .obj (phaseKeys.zip (counts.map PyJson.int))

/-- `tuple(counts[phase] for phase in _PHASES)`. -/
def phaseValues (counts : List (String × PyJson)) : List PyJson := phaseKeys.map (member counts)

structure ControllerContext where
  publicationSourceGitSha : String
  traceSourceGitSha : String
  publicationBehaviorSetSchemaVersion : String
  publicationBehaviorInventorySha256 : String
  terminalRegistrationSha256 : String
  day1RegistrationAnchorSha256 : String
  tracePostRunAnchorSha256 : String
  acquisitionBundleSha256 : String
  traceManifestSha256 : String
  candidateCatalogSha256 : String
  resourcePolicySha256 : String
  workerBuildIdentitySha256 : String
  workerRuntimeIdentitySha256 : String
  datasetId : String
  datasetRelease : String
  semantics : String
  sourcePartition : ℤ
  unitIdentitySha256 : String
  cellBindingSha256 : String
  cellOrdinal : ℤ
  freshness : String
  rho : String
  candidateId : String
  candidateRole : CandidateRole
  candidatePolicySha256 : String
  retainedPhases : List Phase
  phaseBoundaries : List PhaseBoundary
  eventScheduleSha256 : String
  queryVectorSha256 : String
  acceptedGroupCount : ℤ
  completeWindowCount : ℤ
  queryWindowCount : ℤ
  zeroQueryWindowCount : ℤ
  totalQueryCount : ℤ
  phaseWindowCounts : List ℤ
  phaseQueryCounts : List ℤ
  completeWindowStreamSha256 : String
  completePhaseAuditRootSha256 : String
  accountingSha256 : String
  queryWindowStreamSha256 : String
deriving DecidableEq, Repr

namespace ControllerContext

/-- `to_document`. -/
def document (context : ControllerContext) : List (String × PyJson) := [
  ("accepted_group_count",.int context.acceptedGroupCount),
  ("accounting_sha256",.str context.accountingSha256),
  ("acquisition_bundle_sha256",.str context.acquisitionBundleSha256),
  ("candidate_id",.str context.candidateId),
  ("candidate_catalog_sha256",.str context.candidateCatalogSha256),
  ("candidate_policy_sha256",.str context.candidatePolicySha256),
  ("candidate_role",.str context.candidateRole.text),
  ("cell_binding_sha256",.str context.cellBindingSha256),
  ("cell_ordinal",.int context.cellOrdinal),
  ("complete_phase_audit_root_sha256",.str context.completePhaseAuditRootSha256),
  ("complete_window_count",.int context.completeWindowCount),
  ("complete_window_stream_sha256",.str context.completeWindowStreamSha256),
  ("dataset_id",.str context.datasetId),
  ("dataset_release",.str context.datasetRelease),
  ("day1_registration_anchor_sha256",.str context.day1RegistrationAnchorSha256),
  ("event_schedule_sha256",.str context.eventScheduleSha256),
  ("first_query_ordinal",.int 0),
  ("first_window_ordinal",.int 0),
  ("freshness",.str context.freshness),
  ("last_query_ordinal_exclusive",.int context.totalQueryCount),
  ("last_window_ordinal",.int (context.completeWindowCount - 1)),
  ("phase_boundaries",.arr (context.phaseBoundaries.map fun boundary => .obj boundary.document)),
  ("phase_query_counts",phaseDict context.phaseQueryCounts),
  ("phase_window_counts",phaseDict context.phaseWindowCounts),
  ("publication_behavior_inventory_sha256",.str context.publicationBehaviorInventorySha256),
  ("publication_behavior_set_schema_version",.str context.publicationBehaviorSetSchemaVersion),
  ("publication_source_git_sha",.str context.publicationSourceGitSha),
  ("query_vector_sha256",.str context.queryVectorSha256),
  ("query_window_count",.int context.queryWindowCount),
  ("query_window_stream_sha256",.str context.queryWindowStreamSha256),
  ("retained_phases",.arr (context.retainedPhases.map fun phase => .str phase.text)),
  ("resource_policy_sha256",.str context.resourcePolicySha256),
  ("rho",.str context.rho),
  ("schema_version",.str controllerContextSchema),
  ("semantics",.str context.semantics),
  ("source_partition",.int context.sourcePartition),
  ("terminal_registration_sha256",.str context.terminalRegistrationSha256),
  ("total_query_count",.int context.totalQueryCount),
  ("trace_post_run_anchor_sha256",.str context.tracePostRunAnchorSha256),
  ("trace_manifest_sha256",.str context.traceManifestSha256),
  ("trace_source_git_sha",.str context.traceSourceGitSha),
  ("unit_identity_sha256",.str context.unitIdentitySha256),
  ("worker_build_identity_sha256",.str context.workerBuildIdentitySha256),
  ("worker_runtime_identity_sha256",.str context.workerRuntimeIdentitySha256),
  ("zero_query_window_count",.int context.zeroQueryWindowCount)]

def documentKeys : List String := ["accepted_group_count","accounting_sha256","acquisition_bundle_sha256",
  "candidate_id","candidate_catalog_sha256","candidate_policy_sha256","candidate_role",
  "cell_binding_sha256","cell_ordinal","complete_phase_audit_root_sha256","complete_window_count",
  "complete_window_stream_sha256","dataset_id","dataset_release","day1_registration_anchor_sha256",
  "event_schedule_sha256","first_query_ordinal","first_window_ordinal","freshness",
  "last_query_ordinal_exclusive","last_window_ordinal","phase_boundaries","phase_query_counts",
  "phase_window_counts","publication_behavior_inventory_sha256",
  "publication_behavior_set_schema_version","publication_source_git_sha","query_vector_sha256",
  "query_window_count","query_window_stream_sha256","retained_phases","resource_policy_sha256","rho",
  "schema_version","semantics","source_partition","terminal_registration_sha256","total_query_count",
  "trace_post_run_anchor_sha256","trace_manifest_sha256","trace_source_git_sha","unit_identity_sha256",
  "worker_build_identity_sha256","worker_runtime_identity_sha256","zero_query_window_count"]

/-- The phase boundaries start at zero and each starts where the one before ends. -/
def Contiguous (boundaries : List PhaseBoundary) : Prop :=
  (boundaries.head?.map PhaseBoundary.acceptedGroupStart) = some 0 ∧
    ∀ pair ∈ boundaries.zip boundaries.tail, pair.1.acceptedGroupEnd = pair.2.acceptedGroupStart

instance (boundaries : List PhaseBoundary) : Decidable (Contiguous boundaries) := by
  unfold Contiguous
  infer_instance

/-- What the windows and the queries of a context have to sum up to. -/
def Reconciles (complete query zero total : ℤ) : Prop := query + zero = complete ∧ query ≤ total

instance (complete query zero total : ℤ) : Decidable (Reconciles complete query zero total) := by
  unfold Reconciles
  infer_instance

/-- `__post_init__` and `_validate_counts`, given the attributes and the tuples. -/
def postInit (fraction : FractionText.FractionConstructor) (getattr : String → PyJson)
    (retainedPhases : List PyJson) (phaseBoundaries : List PhaseBoundary)
    (phaseWindowCounts phaseQueryCounts : List PyJson) : Checked ControllerContext := do
  let sha (field : String) := requireSha256 (getattr field) ("F1-M context " ++ field)
  let named (field : String) := nonempty (getattr field) ("F1-M context " ++ field)
  let count (field : String) := nonnegative (getattr field) ("F1-M context " ++ field)
  let publicationSourceGitSha ← requireGitSha (getattr "publication_source_git_sha")
    "F1-M context publication source Git SHA"
  let traceSourceGitSha ← requireGitSha (getattr "trace_source_git_sha")
    "F1-M context trace source Git SHA"
  let publicationBehaviorSetSchemaVersion ← nonempty
    (getattr "publication_behavior_set_schema_version") "F1-M context Behavior Set schema"
  let publicationBehaviorInventorySha256 ← sha "publication_behavior_inventory_sha256"
  let terminalRegistrationSha256 ← sha "terminal_registration_sha256"
  let day1RegistrationAnchorSha256 ← sha "day1_registration_anchor_sha256"
  let tracePostRunAnchorSha256 ← sha "trace_post_run_anchor_sha256"
  let acquisitionBundleSha256 ← sha "acquisition_bundle_sha256"
  let traceManifestSha256 ← sha "trace_manifest_sha256"
  let candidateCatalogSha256 ← sha "candidate_catalog_sha256"
  let resourcePolicySha256 ← sha "resource_policy_sha256"
  let workerBuildIdentitySha256 ← sha "worker_build_identity_sha256"
  let workerRuntimeIdentitySha256 ← sha "worker_runtime_identity_sha256"
  let unitIdentitySha256 ← sha "unit_identity_sha256"
  let cellBindingSha256 ← sha "cell_binding_sha256"
  let candidatePolicySha256 ← sha "candidate_policy_sha256"
  let eventScheduleSha256 ← sha "event_schedule_sha256"
  let queryVectorSha256 ← sha "query_vector_sha256"
  let completeWindowStreamSha256 ← sha "complete_window_stream_sha256"
  let completePhaseAuditRootSha256 ← sha "complete_phase_audit_root_sha256"
  let accountingSha256 ← sha "accounting_sha256"
  let queryWindowStreamSha256 ← sha "query_window_stream_sha256"
  let datasetId ← named "dataset_id"
  let datasetRelease ← named "dataset_release"
  let semantics ← named "semantics"
  let candidateId ← named "candidate_id"
  let sourcePartition ← requireInteger
    (fun number => decide (0 ≤ number ∧ number < publicationSourcePartitionCount))
    "F1-M context source partition is outside the frozen domain" (getattr "source_partition")
  let cellOrdinal ← requireInteger (fun number => decide (0 ≤ number ∧ number < day1BCellsPerUnit))
    "F1-M context cell ordinal is outside the frozen unit" (getattr "cell_ordinal")
  let freshness ← requireFraction fraction (getattr "freshness") "F1-M context freshness"
  let rho ← requireFraction fraction (getattr "rho") "F1-M context rho"
  let candidateRole ← requireRole (getattr "candidate_role")
  Checked.require (equalItems (candidateRole.retainedPhases.map fun phase => .str phase.text)
      retainedPhases = true)
    (aggregationError "F1-M context retained phases do not match the candidate role")
  Checked.require (phaseBoundaries.map PhaseBoundary.phase = phases)
    (aggregationError "F1-M context phase boundaries are not exact")
  Checked.require (Contiguous phaseBoundaries)
    (aggregationError "F1-M context phase boundaries are not contiguous from zero")
  let acceptedGroupCount ← positive (getattr "accepted_group_count") "F1-M context accepted-group count"
  let completeWindowCount ← count "complete_window_count"
  let queryWindowCount ← count "query_window_count"
  let zeroQueryWindowCount ← count "zero_query_window_count"
  let totalQueryCount ← count "total_query_count"
  let windowCounts ← phaseTuple "F1-M context phase_window_counts is not exact" phaseWindowCounts
  let queryCounts ← phaseTuple "F1-M context phase_query_counts is not exact" phaseQueryCounts
  Checked.require ((phaseBoundaries.getLast?.map PhaseBoundary.acceptedGroupEnd) = some acceptedGroupCount)
    (aggregationError "F1-M context phase boundaries do not cover all accepted groups")
  Checked.require (windowCounts.sum = completeWindowCount)
    (aggregationError "F1-M context phase window counts do not reconcile")
  Checked.require (queryCounts.sum = totalQueryCount)
    (aggregationError "F1-M context phase query counts do not reconcile")
  Checked.require (Reconciles completeWindowCount queryWindowCount zeroQueryWindowCount totalQueryCount)
    (aggregationError "F1-M context complete/query/zero-window counts do not reconcile")
  return {
    publicationSourceGitSha,traceSourceGitSha,publicationBehaviorSetSchemaVersion
    publicationBehaviorInventorySha256,terminalRegistrationSha256,day1RegistrationAnchorSha256
    tracePostRunAnchorSha256,acquisitionBundleSha256,traceManifestSha256,candidateCatalogSha256
    resourcePolicySha256,workerBuildIdentitySha256,workerRuntimeIdentitySha256,datasetId,datasetRelease
    semantics,sourcePartition,unitIdentitySha256,cellBindingSha256,cellOrdinal,freshness,rho,candidateId
    candidateRole,candidatePolicySha256,phaseBoundaries,eventScheduleSha256,queryVectorSha256
    acceptedGroupCount,completeWindowCount,queryWindowCount,zeroQueryWindowCount,totalQueryCount
    completeWindowStreamSha256,completePhaseAuditRootSha256,accountingSha256,queryWindowStreamSha256
    retainedPhases := candidateRole.retainedPhases
    phaseWindowCounts := windowCounts
    phaseQueryCounts := queryCounts }

def boundaryKeys : List String := ["accepted_group_end","accepted_group_start","phase"]

def readBoundary (raw : PyJson) : Checked PhaseBoundary :=
  match exactFields boundaryKeys raw with
  | none => .error (aggregationError "F1-M controller-context boundary keys are not exact")
  | some fields => PhaseBoundary.postInit (member fields "phase") (member fields "accepted_group_start")
      (member fields "accepted_group_end")

def fromDocument (fraction : FractionText.FractionConstructor) (value : PyJson) :
    Checked ControllerContext := do
  match exactFields documentKeys value with
  | none => .error (aggregationError "F1-M controller-context document keys are not exact")
  | some document => do
    Checked.require (equal (.str controllerContextSchema) (member document "schema_version") = true)
      (aggregationError "F1-M controller-context schema changed")
    match (items (member document "phase_boundaries")).filter fun raw => raw.length = phases.length with
    | none => .error (aggregationError "F1-M controller-context boundaries are not exact")
    | some rawBoundaries => do
      let phaseBoundaries ← rawBoundaries.mapM readBoundary
      match exactFields phaseKeys (member document "phase_query_counts"),
        exactFields phaseKeys (member document "phase_window_counts") with
      | some queryCounts, some windowCounts =>
        match items (member document "retained_phases") with
        | none => .error (aggregationError "F1-M controller-context retained phases are not exact")
        | some retainedPhases => do
          let context ← postInit fraction (member document) retainedPhases phaseBoundaries
            (phaseValues windowCounts) (phaseValues queryCounts)
          Checked.require (equal (.obj context.document) value = true)
            (aggregationError "F1-M controller-context document is not its exact typed projection")
          return context
      | _,_ => .error (aggregationError "F1-M controller-context phase counts are not exact")

def rebuilt (fraction : FractionText.FractionConstructor) (context : ControllerContext) :
    Checked ControllerContext :=
  postInit fraction (member context.document) (context.retainedPhases.map fun phase => .str phase.text)
    context.phaseBoundaries (context.phaseWindowCounts.map .int) (context.phaseQueryCounts.map .int)

end ControllerContext

/-- A record that its constructor accepts. -/
def Day1BF1MControllerContext (fraction : FractionText.FractionConstructor) : Type :=
  {context : ControllerContext // context.rebuilt fraction = .ok context}

structure RouteCoverage where
  controllerContextSha256 : String
  day2OuterArchiveSha256 : String
  elementCount : ℤ
  elementStreamSha256 : String
  phaseDummyRouteCounts : List ℤ
  phaseQueryCounts : List ℤ
  phaseQueryWindowCounts : List ℤ
  phaseRandomRouteCounts : List ℤ
  serializedObjectSizeProfileSha256 : String
deriving DecidableEq, Repr

namespace RouteCoverage

/-- `to_document`. -/
def document (coverage : RouteCoverage) : List (String × PyJson) := [
  ("controller_context_sha256",.str coverage.controllerContextSha256),
  ("day2_outer_archive_sha256",.str coverage.day2OuterArchiveSha256),
  ("element_count",.int coverage.elementCount),
  ("element_stream_sha256",.str coverage.elementStreamSha256),
  ("phase_dummy_route_counts",phaseDict coverage.phaseDummyRouteCounts),
  ("phase_query_counts",phaseDict coverage.phaseQueryCounts),
  ("phase_query_window_counts",phaseDict coverage.phaseQueryWindowCounts),
  ("phase_random_route_counts",phaseDict coverage.phaseRandomRouteCounts),
  ("schema_version",.str routeCoverageSchema),
  ("serialized_object_size_profile_sha256",.str coverage.serializedObjectSizeProfileSha256)]

def documentKeys : List String := ["controller_context_sha256","day2_outer_archive_sha256","element_count",
  "element_stream_sha256","phase_dummy_route_counts","phase_query_counts","phase_query_window_counts",
  "phase_random_route_counts","schema_version","serialized_object_size_profile_sha256"]

/-- No phase has more query windows than queries, and the windows are the elements. -/
def Reconciles (windows queries : List ℤ) (elementCount : ℤ) : Prop :=
  windows.sum = elementCount ∧ ∀ pair ∈ windows.zip queries, pair.1 ≤ pair.2

instance (windows queries : List ℤ) (elementCount : ℤ) : Decidable (Reconciles windows queries elementCount) := by
  unfold Reconciles
  infer_instance

/-- A phase without queries is not charged. -/
def Uncharged (queries random dummy : List ℤ) : Prop :=
  ∀ counts ∈ queries.zip (random.zip dummy), counts.1 = 0 → counts.2.1 = 0 ∧ counts.2.2 = 0

instance (queries random dummy : List ℤ) : Decidable (Uncharged queries random dummy) := by
  unfold Uncharged
  infer_instance

/-- `__post_init__`, given the attributes and the tuples. -/
def postInit (getattr : String → PyJson) (tuple : String → List PyJson) : Checked RouteCoverage := do
  let sha (field : String) := requireSha256 (getattr field) ("F1-M route coverage " ++ field)
  let counts (field : String) := phaseTuple
    ("F1-M route coverage " ++ field ++ " is not an exact phase tuple") (tuple field)
  let controllerContextSha256 ← sha "controller_context_sha256"
  let day2OuterArchiveSha256 ← sha "day2_outer_archive_sha256"
  let elementStreamSha256 ← sha "element_stream_sha256"
  let serializedObjectSizeProfileSha256 ← sha "serialized_object_size_profile_sha256"
  let elementCount ← nonnegative (getattr "element_count") "F1-M route coverage element count"
  let phaseDummyRouteCounts ← counts "phase_dummy_route_counts"
  let phaseQueryCounts ← counts "phase_query_counts"
  let phaseQueryWindowCounts ← counts "phase_query_window_counts"
  let phaseRandomRouteCounts ← counts "phase_random_route_counts"
  Checked.require (Reconciles phaseQueryWindowCounts phaseQueryCounts elementCount)
    (aggregationError "F1-M route coverage query-window counts do not reconcile")
  Checked.require (Uncharged phaseQueryCounts phaseRandomRouteCounts phaseDummyRouteCounts)
    (aggregationError "F1-M route coverage charges a phase with no queries")
  return {
    controllerContextSha256,day2OuterArchiveSha256,elementCount,elementStreamSha256
    phaseDummyRouteCounts,phaseQueryCounts,phaseQueryWindowCounts,phaseRandomRouteCounts
    serializedObjectSizeProfileSha256 }

def countFields : List String := ["phase_dummy_route_counts","phase_query_counts",
  "phase_query_window_counts","phase_random_route_counts"]

def countsOf (document : List (String × PyJson)) (field : String) : List PyJson :=
  phaseValues ((fields (member document field)).getD [])

def fromDocument (value : PyJson) : Checked RouteCoverage := do
  match exactFields documentKeys value with
  | none => .error (aggregationError "F1-M route-coverage document keys are not exact")
  | some document => do
    Checked.require (equal (.str routeCoverageSchema) (member document "schema_version") = true)
      (aggregationError "F1-M route-coverage schema changed")
    Checked.each (fun field => Checked.require ((exactFields phaseKeys (member document field)).isSome = true)
      (aggregationError ("F1-M route-coverage " ++ field ++ " keys are not exact"))) countFields
    let coverage ← postInit (member document) (countsOf document)
    Checked.require (equal (.obj coverage.document) value = true)
      (aggregationError "F1-M route-coverage document is not its exact typed projection")
    return coverage

def rebuilt (coverage : RouteCoverage) : Checked RouteCoverage :=
  postInit (member coverage.document) (countsOf coverage.document)

end RouteCoverage

def Day1BF1MRouteCoverage : Type := {coverage : RouteCoverage // coverage.rebuilt = .ok coverage}

/-! What the readers return. -/

private theorem requireInteger_success (accepts : ℤ → Bool) (message : String) (value : PyJson) (number : ℤ) :
    requireInteger accepts message value = .ok number ↔ value = .int number ∧ accepts number = true := by
  cases value with
  | int held =>
    rw [requireInteger]
    split
    · rename_i good
      constructor
      · intro same
        cases same
        exact ⟨rfl,good⟩
      · rintro ⟨same,_⟩
        cases same
        rfl
    · rename_i bad
      constructor
      · intro same
        cases same
      · rintro ⟨same,good⟩
        cases same
        exact absurd good bad
  | _ => simp [requireInteger]

private theorem phaseTuple_ints {message : String} {values : List PyJson} {counts : List ℤ}
    (read : phaseTuple message values = .ok counts) : values = counts.map .int ∧ counts.length = 3 := by
  obtain ⟨length,mapped⟩ := (Checked.then_success _ _ _).mp read
  rw [Checked.require_success] at length
  have same : values = counts.map .int := by
    clear read length
    induction values generalizing counts with
    | nil =>
      cases mapped
      rfl
    | cons value values ih =>
      rw [List.mapM_cons] at mapped
      obtain ⟨number,first,rest⟩ := (Checked.bind_success _ _ _).mp mapped
      obtain ⟨numbers,others,last⟩ := (Checked.bind_success _ _ _).mp rest
      cases last
      rw [((requireInteger_success _ _ _ _).mp first).1,ih others,List.map_cons]
  refine ⟨same,?_⟩
  rw [same,List.length_map] at length
  exact length

private theorem exactFields_success {keys : List String} {value : PyJson} {held : List (String × PyJson)}
    (read : exactFields keys value = some held) : value = .obj held ∧ HasKeys held keys := by
  rw [exactFields,Option.filter_eq_some_iff,decide_eq_true_eq] at read
  refine ⟨?_,read.2⟩
  cases value <;> simp_all [fields]

private theorem exactFields_obj {keys : List String} {held : List (String × PyJson)} (exact : HasKeys held keys) :
    exactFields keys (.obj held) = some held := by
  rw [exactFields,fields,Option.filter_eq_some_iff,decide_eq_true_eq]
  exact ⟨rfl,exact⟩

private theorem items_success {value : PyJson} {held : List PyJson} (read : items value = some held) :
    value = .arr held := by
  cases value <;> simp_all [items]

private theorem equal_int (number other : ℤ) : equal (.int number) (.int other) = true ↔ other = number := by
  simp [equal,PyJson.number]

private theorem equal_str {text : String} {value : PyJson} (same : equal (.str text) value = true) :
    value = .str text := by
  rw [equal,beq_iff_eq] at same
  cases value <;> simp_all [string]

private theorem phaseDict_strict {held : List (String × PyJson)} (keys : (held.map Prod.fst).Nodup)
    (exact : HasKeys held phaseKeys) {counts : List ℤ} (values : phaseValues held = counts.map .int) :
    Strict (.obj held) := by
  refine .obj held keys fun field inside => ?_
  have named := exact.1 field.1 (List.mem_map_of_mem inside)
  have found : member held field.1 = field.2 := member_of_mem keys inside
  have here : member held field.1 ∈ phaseValues held := List.mem_map_of_mem named
  rw [values,found] at here
  obtain ⟨count,_,same⟩ := List.mem_map.mp here
  rw [← same]
  exact .int count

private theorem phaseDict_read {counts : List ℤ} (three : counts.length = 3) :
    ∃ held, phaseDict counts = .obj held ∧ (held.map Prod.fst).Nodup ∧ HasKeys held phaseKeys ∧
      phaseValues held = counts.map .int := by
  match counts,three with
  | [first,second,third],_ =>
    refine ⟨_,rfl,?_,⟨?_,?_⟩,?_⟩ <;>
      simp [phaseValues,phaseKeys,phases,Phase.text,member,List.lookup]

private theorem phaseDict_counts {counts : List ℤ} (three : counts.length = 3) : Strict (phaseDict counts) := by
  obtain ⟨held,same,keys,exact,values⟩ := phaseDict_read three
  rw [same]
  exact phaseDict_strict keys exact values

namespace PhaseBoundary

theorem postInit_success {phase start stop : PyJson} {boundary : PhaseBoundary}
    (run : postInit phase start stop = .ok boundary) :
    phase = .str boundary.phase.text ∧ start = .int boundary.acceptedGroupStart ∧
      stop = .int boundary.acceptedGroupEnd := by
  obtain ⟨name,named,rest⟩ := (Checked.bind_success _ _ _).mp run
  have phased : phase = .str name.text := by
    unfold requirePhase at named
    split at named
    · rename_i found
      cases named
      exact equal_str (by simpa using List.find?_some found)
    · cases named
  cases start with
  | int first =>
    dsimp only at rest
    split at rest
    · cases stop with
      | int last =>
        dsimp only at rest
        split at rest
        · cases rest
          exact ⟨phased,rfl,rfl⟩
        · cases rest
      | _ => cases rest
    · cases rest
  | _ => cases rest

private theorem postInit_self (boundary : PhaseBoundary) :
    postInit (.str boundary.phase.text) (.int boundary.acceptedGroupStart)
      (.int boundary.acceptedGroupEnd) = .ok boundary := by
  have named : requirePhase (.str boundary.phase.text) = .ok boundary.phase := by
    cases boundary.phase <;> decide
  rw [postInit,named,Checked.ok_bind]
  dsimp only
  rw [dif_pos boundary.nonnegative,dif_pos boundary.nonempty]

end PhaseBoundary

namespace ControllerContext

private theorem readBoundary_success {raw : PyJson} {boundary : PhaseBoundary} (distinct : Distinct raw)
    (run : readBoundary raw = .ok boundary) : Strict raw := by
  unfold readBoundary at run
  split at run
  · cases run
  · rename_i held read
    obtain ⟨rfl,exact⟩ := exactFields_success read
    obtain ⟨phase,start,stop⟩ := PhaseBoundary.postInit_success run
    cases distinct with
    | obj _ keys each =>
      refine .obj held keys fun field inside => ?_
      have found : member held field.1 = field.2 := member_of_mem keys inside
      have named := exact.1 field.1 (List.mem_map_of_mem inside)
      simp only [boundaryKeys,List.mem_cons,List.not_mem_nil,or_false] at named
      rw [← found]
      rcases named with same | same | same
      · rw [same,stop]
        exact .int _
      · rw [same,start]
        exact .int _
      · rw [same,phase]
        exact .str _

private theorem readBoundary_document (boundary : PhaseBoundary) :
    readBoundary (.obj boundary.document) = .ok boundary := by
  have read : exactFields boundaryKeys (.obj boundary.document) = some boundary.document := by
    refine exactFields_obj ⟨?_,?_⟩ <;> simp [PhaseBoundary.document,boundaryKeys]
  rw [readBoundary,read]
  exact boundary.postInit_self

private theorem readBoundaries_document (boundaries : List PhaseBoundary) :
    (boundaries.map fun boundary => PyJson.obj boundary.document).mapM readBoundary = .ok boundaries := by
  induction boundaries with
  | nil => rfl
  | cons boundary boundaries ih =>
    rw [List.map_cons,List.mapM_cons,readBoundary_document,Checked.ok_bind,ih]
    rfl

private theorem readBoundaries_strict {raw : List PyJson} {boundaries : List PhaseBoundary}
    (distinct : ∀ item ∈ raw, Distinct item) (run : raw.mapM readBoundary = .ok boundaries) :
    ∀ item ∈ raw, Strict item := by
  induction raw generalizing boundaries with
  | nil => simp
  | cons item raw ih =>
    rw [List.mapM_cons] at run
    obtain ⟨first,read,rest⟩ := (Checked.bind_success _ _ _).mp run
    obtain ⟨others,more,_⟩ := (Checked.bind_success _ _ _).mp rest
    exact List.forall_mem_cons.mpr ⟨readBoundary_success (distinct item List.mem_cons_self) read,
      ih (fun other inside => distinct other (List.mem_cons_of_mem _ inside)) more⟩

/-- The integers that the constructor reads. -/
def integerFields : List String := ["source_partition","cell_ordinal","accepted_group_count",
  "complete_window_count","query_window_count","zero_query_window_count","total_query_count"]

/-- The integers of a document that the constructor does not read. -/
def derivedOrdinals : List String := ["first_query_ordinal","first_window_ordinal",
  "last_query_ordinal_exclusive","last_window_ordinal"]

def nestedFields : List String := ["phase_boundaries","phase_query_counts","phase_window_counts","retained_phases"]

/-- What an accepted constructor call says of its arguments. -/
structure Read (getattr : String → PyJson) (retainedPhases : List PyJson)
    (phaseBoundaries : List PhaseBoundary) (phaseWindowCounts phaseQueryCounts : List PyJson)
    (context : ControllerContext) : Prop where
  integers : ∀ name ∈ integerFields, ∃ number, getattr name = .int number
  retained : equalItems (context.retainedPhases.map fun phase => .str phase.text) retainedPhases = true
  boundaries : context.phaseBoundaries = phaseBoundaries
  phased : phaseBoundaries.map PhaseBoundary.phase = phases
  windows : phaseWindowCounts = context.phaseWindowCounts.map .int ∧ context.phaseWindowCounts.length = 3
  queries : phaseQueryCounts = context.phaseQueryCounts.map .int ∧ context.phaseQueryCounts.length = 3

private theorem postInit_read {fraction : FractionText.FractionConstructor} {getattr : String → PyJson}
    {retainedPhases : List PyJson} {phaseBoundaries : List PhaseBoundary}
    {phaseWindowCounts phaseQueryCounts : List PyJson} {context : ControllerContext}
    (run : postInit fraction getattr retainedPhases phaseBoundaries phaseWindowCounts phaseQueryCounts =
      .ok context) :
    Read getattr retainedPhases phaseBoundaries phaseWindowCounts phaseQueryCounts context := by
  unfold postInit at run
  -- the digests, labels and names in front of the numbers
  iterate 26 obtain ⟨_,_,run⟩ := (Checked.bind_success _ _ _).mp run
  obtain ⟨_,partition,run⟩ := (Checked.bind_success _ _ _).mp run
  obtain ⟨_,ordinal,run⟩ := (Checked.bind_success _ _ _).mp run
  iterate 3 obtain ⟨_,_,run⟩ := (Checked.bind_success _ _ _).mp run
  obtain ⟨retained,run⟩ := (Checked.then_success _ _ _).mp run
  obtain ⟨phased,run⟩ := (Checked.then_success _ _ _).mp run
  obtain ⟨_,run⟩ := (Checked.then_success _ _ _).mp run
  obtain ⟨_,accepted,run⟩ := (Checked.bind_success _ _ _).mp run
  obtain ⟨_,complete,run⟩ := (Checked.bind_success _ _ _).mp run
  obtain ⟨_,query,run⟩ := (Checked.bind_success _ _ _).mp run
  obtain ⟨_,zero,run⟩ := (Checked.bind_success _ _ _).mp run
  obtain ⟨_,total,run⟩ := (Checked.bind_success _ _ _).mp run
  obtain ⟨_,windows,run⟩ := (Checked.bind_success _ _ _).mp run
  obtain ⟨_,queries,run⟩ := (Checked.bind_success _ _ _).mp run
  iterate 4 obtain ⟨_,run⟩ := (Checked.then_success _ _ _).mp run
  cases Except.ok.inj run
  simp only [positive,nonnegative,requireInteger_success] at partition ordinal accepted complete query zero total
  refine ⟨?_,(Checked.require_success _ _ _).mp retained,rfl,(Checked.require_success _ _ _).mp phased,
    phaseTuple_ints windows,phaseTuple_ints queries⟩
  simp only [integerFields,List.forall_mem_cons,List.not_mem_nil,false_implies,implies_true,and_true]
  exact ⟨⟨_,partition.1⟩,⟨_,ordinal.1⟩,⟨_,accepted.1⟩,⟨_,complete.1⟩,⟨_,query.1⟩,⟨_,zero.1⟩,⟨_,total.1⟩⟩

private theorem document_entry (context : ControllerContext) : ∀ entry ∈ context.document,
    (∃ text, entry.2 = .str text) ∨
    ((entry.1 ∈ integerFields ∨ entry.1 ∈ derivedOrdinals) ∧ ∃ number, entry.2 = .int number) ∨
    (entry.1 ∈ nestedFields ∧ ∀ number, entry.2 ≠ .int number) := by
  simp only [document,List.forall_mem_cons,List.not_mem_nil,false_implies,implies_true,and_true]
  simp [integerFields,derivedOrdinals,nestedFields,phaseDict]

private theorem documentKeys_nodup : documentKeys.Nodup := by decide

private theorem document_keys (context : ControllerContext) : context.document.map Prod.fst = documentKeys := rfl

private theorem document_member (context : ControllerContext) (key : String) (value : PyJson)
    (inside : (key,value) ∈ context.document) : member context.document key = value :=
  member_of_mem (by rw [document_keys]; exact documentKeys_nodup) inside

private theorem document_derived (context : ControllerContext) : ∀ name ∈ derivedOrdinals,
    ∃ number, (name,PyJson.int number) ∈ context.document := by
  simp [derivedOrdinals,document]

private theorem boundary_strict (boundary : PhaseBoundary) : Strict (.obj boundary.document) := by
  refine .obj _ (by simp [PhaseBoundary.document]) fun field inside => ?_
  simp only [PhaseBoundary.document,List.mem_cons,List.not_mem_nil,or_false] at inside
  rcases inside with rfl | rfl | rfl
  · exact .int _
  · exact .int _
  · exact .str _

private theorem document_strict (context : ControllerContext) (windows : context.phaseWindowCounts.length = 3)
    (queries : context.phaseQueryCounts.length = 3) : ∀ entry ∈ context.document, Strict entry.2 := by
  have boundaries : Strict (.arr (context.phaseBoundaries.map fun boundary => .obj boundary.document)) :=
    .arr _ fun item inside => by
      obtain ⟨boundary,_,rfl⟩ := List.mem_map.mp inside
      exact boundary_strict boundary
  have retained : Strict (.arr (context.retainedPhases.map fun phase => .str phase.text)) :=
    .arr _ fun item inside => by
      obtain ⟨phase,_,rfl⟩ := List.mem_map.mp inside
      exact .str _
  simp only [document,List.forall_mem_cons,List.not_mem_nil,false_implies,implies_true,and_true]
  simp only [Strict.int,Strict.str,boundaries,retained,phaseDict_counts windows,phaseDict_counts queries,
    and_self]

private theorem fromDocument_document {fraction : FractionText.FractionConstructor} {context : ControllerContext}
    (valid : context.rebuilt fraction = .ok context) :
    fromDocument fraction (.obj context.document) = .ok context := by
  have read := postInit_read valid
  have keys : HasKeys context.document documentKeys := by
    rw [HasKeys,document_keys]
    exact ⟨fun _ inside => inside,fun _ inside => inside⟩
  have boundaries : member context.document "phase_boundaries" =
      .arr (context.phaseBoundaries.map fun boundary => .obj boundary.document) :=
    context.document_member _ _ (by simp [document])
  have windows : member context.document "phase_window_counts" = phaseDict context.phaseWindowCounts :=
    context.document_member _ _ (by simp [document])
  have queries : member context.document "phase_query_counts" = phaseDict context.phaseQueryCounts :=
    context.document_member _ _ (by simp [document])
  have retained : member context.document "retained_phases" =
      .arr (context.retainedPhases.map fun phase => .str phase.text) :=
    context.document_member _ _ (by simp [document])
  have schema : member context.document "schema_version" = .str controllerContextSchema :=
    context.document_member _ _ (by simp [document])
  have three : context.phaseBoundaries.length = phases.length := by
    rw [← read.phased,List.length_map]
  obtain ⟨heldWindows,sameWindows,_,exactWindows,valuesWindows⟩ := phaseDict_read read.windows.2
  obtain ⟨heldQueries,sameQueries,_,exactQueries,valuesQueries⟩ := phaseDict_read read.queries.2
  have whole : Strict (.obj context.document) :=
    .obj _ (by rw [document_keys]; exact documentKeys_nodup)
      (context.document_strict read.windows.2 read.queries.2)
  unfold fromDocument
  rw [exactFields_obj keys]
  dsimp only
  refine Checked.pass _ _ _ (Checked.require_true _ _ (by rw [schema]; simp [equal,string])) ?_
  rw [boundaries,items,Option.filter_some,if_pos (by simpa using three)]
  dsimp only
  rw [readBoundaries_document,Checked.ok_bind,queries,windows,sameQueries,sameWindows,
    exactFields_obj exactQueries,exactFields_obj exactWindows,retained,items]
  dsimp only
  rw [valuesWindows,valuesQueries,show postInit fraction (member context.document)
      (context.retainedPhases.map fun phase => .str phase.text) context.phaseBoundaries
      (context.phaseWindowCounts.map .int) (context.phaseQueryCounts.map .int) = .ok context from valid,
    Checked.ok_bind]
  exact Checked.pass _ _ _ (Checked.require_true _ _ whole.equal_self) rfl

/-- `value[name]`. -/
def entryOf (value : PyJson) (name : String) : PyJson := member ((fields value).getD []) name

structure Admitted (held : List (String × PyJson)) (context : ControllerContext) : Prop where
  same : equal (.obj context.document) (.obj held) = true
  integers : ∀ name ∈ integerFields, ∃ number, member held name = .int number
  boundaries : ∃ raw boundaries, member held "phase_boundaries" = .arr raw ∧
    raw.mapM readBoundary = .ok boundaries
  retained : ∃ raw, member held "retained_phases" = .arr raw ∧
    equalItems (context.retainedPhases.map fun phase => .str phase.text) raw = true
  windows : ∃ counts, exactFields phaseKeys (member held "phase_window_counts") = some counts ∧
    phaseValues counts = context.phaseWindowCounts.map .int ∧ context.phaseWindowCounts.length = 3
  queries : ∃ counts, exactFields phaseKeys (member held "phase_query_counts") = some counts ∧
    phaseValues counts = context.phaseQueryCounts.map .int ∧ context.phaseQueryCounts.length = 3

private theorem fromDocument_admitted {fraction : FractionText.FractionConstructor} {value : PyJson}
    {context : ControllerContext} (run : fromDocument fraction value = .ok context) :
    ∃ held, value = .obj held ∧ Admitted held context := by
  unfold fromDocument at run
  split at run
  · cases run
  rename_i held readHeld
  obtain ⟨_,run⟩ := (Checked.then_success _ _ _).mp run
  split at run
  · cases run
  rename_i raw readRaw
  obtain ⟨boundaries,mapped,run⟩ := (Checked.bind_success _ _ _).mp run
  split at run
  case h_2 => cases run
  rename_i queryCounts windowCounts readQueries readWindows
  split at run
  · cases run
  rename_i retained readRetained
  obtain ⟨made,init,run⟩ := (Checked.bind_success _ _ _).mp run
  obtain ⟨same,run⟩ := (Checked.then_success _ _ _).mp run
  obtain rfl := Except.ok.inj run
  obtain ⟨rfl,_⟩ := exactFields_success readHeld
  have read := postInit_read init
  exact ⟨held,rfl,{
    same := (Checked.require_success _ _ _).mp same
    integers := read.integers
    boundaries := ⟨raw,boundaries,items_success (Option.filter_eq_some_iff.mp readRaw).1,mapped⟩
    retained := ⟨retained,items_success readRetained,read.retained⟩
    windows := ⟨windowCounts,readWindows,read.windows⟩
    queries := ⟨queryCounts,readQueries,read.queries⟩ }⟩

theorem keys_nodup (context : ControllerContext) : (context.document.map Prod.fst).Nodup := by
  rw [document_keys]
  exact documentKeys_nodup

theorem Admitted.entered {held : List (String × PyJson)} {context : ControllerContext}
    (admitted : Admitted held context) {name : String} (inside : name ∈ documentKeys) :
    (name,member held name) ∈ held := by
  rw [← document_keys context] at inside
  obtain ⟨entry,inDocument,rfl⟩ := List.mem_map.mp inside
  exact (equal_obj context.keys_nodup admitted.same).1.mem_iff.mpr (List.mem_map.mpr ⟨entry,inDocument,rfl⟩)

private theorem counts_strict {value : PyJson} (distinct : Distinct value) {counts : List (String × PyJson)}
    (read : exactFields phaseKeys value = some counts) {numbers : List ℤ}
    (values : phaseValues counts = numbers.map .int) : Strict value := by
  obtain ⟨rfl,exact⟩ := exactFields_success read
  cases distinct with
  | obj _ keys _ => exact phaseDict_strict keys exact values

private theorem Admitted.nested {held : List (String × PyJson)} {context : ControllerContext}
    (admitted : Admitted held context) (distinct : ∀ field ∈ held, Distinct field.2) :
    ∀ name ∈ nestedFields, Strict (member held name) := by
  have deep {name : String} (inside : name ∈ documentKeys) : Distinct (member held name) :=
    distinct _ (admitted.entered inside)
  simp only [nestedFields,List.forall_mem_cons,List.not_mem_nil,false_implies,implies_true,and_true]
  refine ⟨?_,?_,?_,?_⟩
  · obtain ⟨raw,boundaries,found,mapped⟩ := admitted.boundaries
    have here := deep (by decide : "phase_boundaries" ∈ documentKeys)
    rw [found] at here ⊢
    cases here with
    | arr _ items => exact .arr _ (readBoundaries_strict items mapped)
  · obtain ⟨counts,read,values,_⟩ := admitted.queries
    exact counts_strict (deep (by decide)) read values
  · obtain ⟨counts,read,values,_⟩ := admitted.windows
    exact counts_strict (deep (by decide)) read values
  · obtain ⟨raw,found,same⟩ := admitted.retained
    rw [found]
    refine .arr _ fun item inside => ?_
    obtain ⟨length,related⟩ := List.forall₂_iff_get.mp ((equalItems_iff _ _).mp same)
    obtain ⟨place,low,rfl⟩ := List.mem_iff_getElem.mp inside
    have here := related place (by omega) low
    simp only [List.get_eq_getElem,List.getElem_map] at here
    rw [equal_str here]
    exact .str _

theorem Admitted.ordinals {held : List (String × PyJson)} {context : ControllerContext}
    (admitted : Admitted held context) :
    (∀ entry ∈ context.document, ∀ integer, entry.2 = .int integer → member held entry.1 = .int integer) ↔
      ∀ name ∈ derivedOrdinals, ∃ number, member held name = .int number := by
  constructor
  · intro integers name inside
    obtain ⟨number,entered⟩ := context.document_derived name inside
    exact ⟨number,integers _ entered number rfl⟩
  · intro ordinals entry inside number written
    have integer : ∃ other, member held entry.1 = .int other := by
      obtain ⟨text,other⟩ | ⟨named,_⟩ | ⟨_,other⟩ := context.document_entry entry inside
      · rw [written] at other
        cases other
      · exact named.elim (admitted.integers entry.1) (ordinals entry.1)
      · exact absurd written (other number)
    obtain ⟨other,found⟩ := integer
    have here := (equal_obj context.keys_nodup admitted.same).2 entry inside
    rw [written,found,equal_int] at here
    rw [found,here]

/-- An admitted document has the canonical bytes of the record exactly when the four ordinals that the
constructor does not read are written as integers. -/
private theorem fromDocument_bytes {fraction : FractionText.FractionConstructor} {value : PyJson}
    (distinct : Distinct value) {context : ControllerContext} (run : fromDocument fraction value = .ok context) :
    canonicalBytes (.obj context.document) = canonicalBytes value ↔
      ∀ name ∈ derivedOrdinals, ∃ number, entryOf value name = .int number := by
  obtain ⟨held,rfl,admitted⟩ := fromDocument_admitted run
  obtain ⟨_,_,_,windows⟩ := admitted.windows
  obtain ⟨_,_,_,queries⟩ := admitted.queries
  cases distinct with
  | obj _ _ each =>
    have nested := admitted.nested each
    rw [canonicalBytes_inj,text_obj_iff context.keys_nodup admitted.same,admitted.ordinals]
    · rfl
    · intro entry inside
      obtain ⟨text,written⟩ | ⟨_,number,written⟩ | inNested := context.document_entry entry inside
      · have here := (equal_obj context.keys_nodup admitted.same).2 entry inside
        rw [written] at here
        rw [written,equal_str here]
        exact .inl ⟨.str _,.str _⟩
      · exact .inr ⟨number,written⟩
      · exact .inl ⟨context.document_strict windows queries entry inside,nested _ inNested.1⟩

end ControllerContext

namespace RouteCoverage

private theorem documentKeys_nodup : documentKeys.Nodup := by decide

private theorem document_keys (coverage : RouteCoverage) : coverage.document.map Prod.fst = documentKeys := rfl

private theorem document_member (coverage : RouteCoverage) (key : String) (value : PyJson)
    (inside : (key,value) ∈ coverage.document) : member coverage.document key = value :=
  member_of_mem (by rw [document_keys]; exact documentKeys_nodup) inside

def tupleOf (coverage : RouteCoverage) : String → List ℤ
  | "phase_dummy_route_counts" => coverage.phaseDummyRouteCounts
  | "phase_query_counts" => coverage.phaseQueryCounts
  | "phase_query_window_counts" => coverage.phaseQueryWindowCounts
  | "phase_random_route_counts" => coverage.phaseRandomRouteCounts
  | _ => []

private theorem postInit_read {getattr : String → PyJson} {tuple : String → List PyJson} {coverage : RouteCoverage}
    (run : postInit getattr tuple = .ok coverage) :
    getattr "element_count" = .int coverage.elementCount ∧
      ∀ field ∈ countFields, tuple field = (coverage.tupleOf field).map .int ∧
        (coverage.tupleOf field).length = 3 := by
  unfold postInit at run
  simp only [Checked.bind_success,nonnegative,requireInteger_success] at run
  obtain ⟨_,_,_,_,_,_,_,_,count,counted,dummy,dummyRead,queries,queriesRead,windows,windowsRead,
    random,randomRead,_,_,_,_,same⟩ := run
  cases Except.ok.inj same
  refine ⟨counted.1,?_⟩
  simp only [countFields,List.forall_mem_cons,List.not_mem_nil,false_implies,implies_true,and_true,tupleOf]
  exact ⟨phaseTuple_ints dummyRead,phaseTuple_ints queriesRead,phaseTuple_ints windowsRead,
    phaseTuple_ints randomRead⟩

private theorem document_entry (coverage : RouteCoverage) : ∀ entry ∈ coverage.document,
    (∃ text, entry.2 = .str text) ∨ (entry.1 = "element_count" ∧ entry.2 = .int coverage.elementCount) ∨
    (entry.1 ∈ countFields ∧ entry.2 = phaseDict (coverage.tupleOf entry.1)) := by
  simp only [document,List.forall_mem_cons,List.not_mem_nil,false_implies,implies_true,and_true]
  simp [countFields,tupleOf]

private theorem document_counts (coverage : RouteCoverage) : ∀ field ∈ countFields,
    member coverage.document field = phaseDict (coverage.tupleOf field) := by
  intro field inside
  refine coverage.document_member _ _ ?_
  simp only [countFields,List.mem_cons,List.not_mem_nil,or_false] at inside
  rcases inside with rfl | rfl | rfl | rfl <;> simp [document,tupleOf]

private theorem document_strict (coverage : RouteCoverage)
    (three : ∀ field ∈ countFields, (coverage.tupleOf field).length = 3) : Strict (.obj coverage.document) := by
  refine .obj _ (by rw [document_keys]; exact documentKeys_nodup) fun entry inside => ?_
  obtain ⟨text,written⟩ | ⟨_,written⟩ | ⟨counted,written⟩ := coverage.document_entry entry inside
  · rw [written]
    exact .str text
  · rw [written]
    exact .int _
  · rw [written]
    exact phaseDict_counts (three _ counted)

private theorem fromDocument_document {coverage : RouteCoverage} (valid : coverage.rebuilt = .ok coverage) :
    fromDocument (.obj coverage.document) = .ok coverage := by
  obtain ⟨_,counts⟩ := postInit_read valid
  have three (field : String) (inside : field ∈ countFields) : (coverage.tupleOf field).length = 3 :=
    (counts field inside).2
  have keys : HasKeys coverage.document documentKeys := by
    rw [HasKeys,document_keys]
    exact ⟨fun _ inside => inside,fun _ inside => inside⟩
  have schema : member coverage.document "schema_version" = .str routeCoverageSchema :=
    coverage.document_member _ _ (by simp [document])
  unfold fromDocument
  rw [exactFields_obj keys]
  dsimp only
  refine Checked.pass _ _ _ (Checked.require_true _ _ (by rw [schema]; simp [equal,string])) ?_
  refine Checked.pass _ _ _ ((Checked.each_success _ _ _).mpr fun field inside => ?_) ?_
  · obtain ⟨held,same,_,exact,_⟩ := phaseDict_read (three field inside)
    rw [coverage.document_counts field inside,same,exactFields_obj exact]
    rfl
  · rw [show postInit (member coverage.document) (countsOf coverage.document) = .ok coverage from valid,
      Checked.ok_bind]
    exact Checked.pass _ _ _ (Checked.require_true _ _ (coverage.document_strict three).equal_self) rfl

private theorem fromDocument_bytes {value : PyJson} (distinct : Distinct value) {coverage : RouteCoverage}
    (run : fromDocument value = .ok coverage) :
    canonicalBytes (.obj coverage.document) = canonicalBytes value := by
  unfold fromDocument at run
  split at run
  · cases run
  rename_i held readHeld
  obtain ⟨rfl,_⟩ := exactFields_success readHeld
  obtain ⟨_,run⟩ := (Checked.then_success _ _ _).mp run
  obtain ⟨exact,run⟩ := (Checked.then_success _ _ _).mp run
  obtain ⟨made,init,run⟩ := (Checked.bind_success _ _ _).mp run
  obtain ⟨same,run⟩ := (Checked.then_success _ _ _).mp run
  obtain rfl := Except.ok.inj run
  rw [Checked.require_success] at same
  rw [Checked.each_success] at exact
  obtain ⟨counted,counts⟩ := postInit_read init
  have keys : (made.document.map Prod.fst).Nodup := by
    rw [document_keys]
    exact documentKeys_nodup
  obtain ⟨perm,equals⟩ := equal_obj keys same
  have strict : Strict (.obj held) := by
    cases distinct with
    | obj _ heldKeys each =>
      refine .obj held heldKeys fun field inside => ?_
      obtain ⟨entry,entered,rfl⟩ := List.mem_map.mp (perm.mem_iff.mp inside)
      dsimp only
      obtain ⟨text,written⟩ | ⟨named,_⟩ | ⟨named,_⟩ := made.document_entry entry entered
      · have here := equals entry entered
        rw [written] at here
        rw [equal_str here]
        exact .str text
      · rw [named,counted]
        exact .int _
      · have some := exact entry.1 named
        rw [Checked.require_success,Option.isSome_iff_exists] at some
        obtain ⟨phased,read⟩ := some
        obtain ⟨found,exact⟩ := exactFields_success read
        have values := (counts entry.1 named).1
        rw [countsOf,found] at values
        have deep := each _ inside
        dsimp only at deep
        rw [found] at deep ⊢
        cases deep with
        | obj _ phasedKeys _ => exact phaseDict_strict phasedKeys exact values
  rw [canonicalBytes_inj]
  exact (made.document_strict fun field inside => (counts field inside).2).text_eq strict same

end RouteCoverage

/-- Both documents read back to their records; an admitted route coverage has the bytes of its record, and an
admitted controller context has them exactly when its four unread ordinals are integers. -/
theorem controller_documents_exact (fraction : FractionText.FractionConstructor) :
    (∀ context : Day1BF1MControllerContext fraction,
      ControllerContext.fromDocument fraction (.obj context.1.document) = .ok context.1) ∧
    (∀ coverage : Day1BF1MRouteCoverage,
      RouteCoverage.fromDocument (.obj coverage.1.document) = .ok coverage.1) ∧
    (∀ value context, Distinct value → ControllerContext.fromDocument fraction value = .ok context →
      (canonicalBytes (.obj context.document) = canonicalBytes value ↔
        ∀ name ∈ ControllerContext.derivedOrdinals, ∃ number,
          ControllerContext.entryOf value name = .int number)) ∧
    ∀ value coverage, Distinct value → RouteCoverage.fromDocument value = .ok coverage →
      canonicalBytes (.obj coverage.document) = canonicalBytes value :=
  ⟨fun context => ControllerContext.fromDocument_document context.2,
    fun coverage => RouteCoverage.fromDocument_document coverage.2,
    fun _ _ distinct run => ControllerContext.fromDocument_bytes distinct run,
    fun _ _ distinct run => RouteCoverage.fromDocument_bytes distinct run⟩

def sampleDigest : String := String.ofList (List.replicate 64 'a')
def sampleCommit : String := String.ofList (List.replicate 40 'b')

def sampleContext : ControllerContext where
  publicationSourceGitSha := sampleCommit
  traceSourceGitSha := sampleCommit
  publicationBehaviorSetSchemaVersion := "v1"
  publicationBehaviorInventorySha256 := sampleDigest
  terminalRegistrationSha256 := sampleDigest
  day1RegistrationAnchorSha256 := sampleDigest
  tracePostRunAnchorSha256 := sampleDigest
  acquisitionBundleSha256 := sampleDigest
  traceManifestSha256 := sampleDigest
  candidateCatalogSha256 := sampleDigest
  resourcePolicySha256 := sampleDigest
  workerBuildIdentitySha256 := sampleDigest
  workerRuntimeIdentitySha256 := sampleDigest
  datasetId := "trace"
  datasetRelease := "1"
  semantics := "sum"
  sourcePartition := 0
  unitIdentitySha256 := sampleDigest
  cellBindingSha256 := sampleDigest
  cellOrdinal := 0
  freshness := "1"
  rho := "1"
  candidateId := "first"
  candidateRole := .reference
  candidatePolicySha256 := sampleDigest
  retainedPhases := [.tuningPrefix,.heldOut]
  phaseBoundaries := [⟨.warmup,0,1,by decide,by decide⟩,⟨.tuningPrefix,1,2,by decide,by decide⟩,
    ⟨.heldOut,2,3,by decide,by decide⟩]
  eventScheduleSha256 := sampleDigest
  queryVectorSha256 := sampleDigest
  acceptedGroupCount := 3
  completeWindowCount := 3
  queryWindowCount := 2
  zeroQueryWindowCount := 1
  totalQueryCount := 4
  phaseWindowCounts := [1,1,1]
  phaseQueryCounts := [0,2,2]
  completeWindowStreamSha256 := sampleDigest
  completePhaseAuditRootSha256 := sampleDigest
  accountingSha256 := sampleDigest
  queryWindowStreamSha256 := sampleDigest

private theorem sampleContext_distinct : ∀ entry ∈ sampleContext.document, Distinct entry.2 := fun entry inside =>
  (sampleContext.document_strict rfl rfl entry inside).distinct

theorem controller_documents_exact_reversed :
    ControllerContext.fromDocument FractionText.literals (.obj sampleContext.document.reverse) =
      .ok sampleContext ∧
    canonicalBytes (.obj sampleContext.document) = canonicalBytes (.obj sampleContext.document.reverse) := by
  have distinct : Distinct (.obj sampleContext.document.reverse) :=
    .obj _ (by decide +kernel) fun entry inside => sampleContext_distinct entry (List.mem_reverse.mp inside)
  have run : ControllerContext.fromDocument FractionText.literals (.obj sampleContext.document.reverse) =
      .ok sampleContext := by decide +kernel
  refine ⟨run,((controller_documents_exact FractionText.literals).2.2.1 _ _ distinct run).mpr ?_⟩
  simp only [ControllerContext.derivedOrdinals,List.forall_mem_cons,List.not_mem_nil,false_implies,
    implies_true,and_true]
  exact ⟨⟨0,rfl⟩,⟨0,rfl⟩,⟨4,rfl⟩,⟨2,rfl⟩⟩

/-- The document of the sample with `false` for the first query ordinal. -/
def falseOrdinal : PyJson := .obj (sampleContext.document.map fun entry =>
  if entry.1 = "first_query_ordinal" then (entry.1,.bool false) else entry)

/-- The reader admits `false` for an ordinal, and the record has other bytes. -/
theorem falseOrdinal_admitted :
    Distinct falseOrdinal ∧
    ControllerContext.fromDocument FractionText.literals falseOrdinal = .ok sampleContext ∧
    canonicalBytes (.obj sampleContext.document) ≠ canonicalBytes falseOrdinal := by
  have distinct : Distinct falseOrdinal := by
    refine .obj _ (by decide +kernel) fun entry inside => ?_
    obtain ⟨source,entered,rfl⟩ := List.mem_map.mp inside
    split
    · exact .bool false
    · exact sampleContext_distinct source entered
  have run : ControllerContext.fromDocument FractionText.literals falseOrdinal = .ok sampleContext := by
    decide +kernel
  refine ⟨distinct,run,fun same => ?_⟩
  obtain ⟨number,held⟩ := (ControllerContext.fromDocument_bytes distinct run).mp same "first_query_ordinal"
    (by decide)
  rw [show ControllerContext.entryOf falseOrdinal "first_query_ordinal" = .bool false from rfl] at held
  cases held

end DynamicCssc.ControllerDocuments
