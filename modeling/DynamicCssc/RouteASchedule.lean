import DynamicCssc.Failure
import DynamicCssc.Foundation.Dict
import DynamicCssc.Foundation.Json

/-! Route A publication windows: compiled once from an accepted trace, and resolved against it by
every strategy. -/
namespace DynamicCssc
open Foundation

inductive RouteACause
  | insert
  | modify
  | delete
deriving DecidableEq, Repr

/-- The values that a cause may go with. -/
def RouteACause.agrees (cause : RouteACause) (before after : ℤ) : Bool :=
  match cause with
  | .insert => before = 0 && after ≠ 0
  | .modify => before ≠ 0 && after ≠ 0
  | .delete => before ≠ 0 && after = 0

structure RouteASetTransition where
  row : ℤ
  column : ℤ
  before : ℤ
  after : ℤ
  cause : RouteACause
deriving DecidableEq, Repr

structure RouteAAcceptedGroup where
  acceptedOrdinal : ℤ
  logicalTimeNumerator : ℤ
  logicalTimeDenominator : ℤ
  transitions : List RouteASetTransition
deriving DecidableEq, Repr

inductive RouteACloseReason
  | oneSecondDeadline
  | preGroupMicrobatch
  | query
  | finiteTraceEnd
deriving DecidableEq, Repr

def RouteACloseReason.text : RouteACloseReason → String
  | .oneSecondDeadline => "one-second-deadline"
  | .preGroupMicrobatch => "pre-group-microbatch"
  | .query => "query"
  | .finiteTraceEnd => "finite-trace-end"

structure RouteASetTransitionReference where
  acceptedGroupOrdinal : ℕ
  transitionOrdinalWithinGroup : ℕ
deriving DecidableEq, Repr

structure RouteAPublicationWindow where
  windowOrdinal : ℕ
  versionBefore : ℕ
  versionAfter : ℕ
  closeReason : RouteACloseReason
  firstEventGroupOrdinalOrNull : Option ℕ
  lastEventGroupOrdinalOrNull : Option ℕ
  orderedSetTransitionReferences : List RouteASetTransitionReference
  firstGlobalQueryOrdinalOrNull : Option ℕ
  queryCount : ℕ
  closedAt : ℚ
deriving DecidableEq, Repr

structure RouteAWindowTrace where
  orderedWindows : List RouteAPublicationWindow
  document : String
  sha256 : String
deriving DecidableEq, Repr

structure RouteAResolvedWindow where
  startTime : ℚ
  orderedSetTransitions : List RouteASetTransition
deriving DecidableEq, Repr

def RouteASetTransitionReference.toDocument (reference : RouteASetTransitionReference) : Json :=
  Json.object [("accepted_group_ordinal",.nat reference.acceptedGroupOrdinal),
    ("transition_ordinal_within_group",.nat reference.transitionOrdinalWithinGroup)]

def jsonOrNull (value : Option ℕ) : Json := value.elim .null .nat

def RouteAPublicationWindow.toDocument (window : RouteAPublicationWindow) : Json :=
  Json.object [
    ("close_reason",.str window.closeReason.text),
    ("first_event_group_ordinal_or_null",jsonOrNull window.firstEventGroupOrdinalOrNull),
    ("first_global_query_ordinal_or_null",jsonOrNull window.firstGlobalQueryOrdinalOrNull),
    ("last_event_group_ordinal_or_null",jsonOrNull window.lastEventGroupOrdinalOrNull),
    ("ordered_set_transition_references",.arr (window.orderedSetTransitionReferences.map
      RouteASetTransitionReference.toDocument)),
    ("query_count",.nat window.queryCount),
    ("version_after",.nat window.versionAfter),
    ("version_before",.nat window.versionBefore),
    ("window_ordinal",.nat window.windowOrdinal)]

namespace RouteA

def routeAWindowTraceSchema : String := "dynamic-cssc-route-a-window-trace-v1"
def routeARhos : List ℚ := [1 / 100,1 / 10,1,10]
def freshness : ℚ := 1
def rowCount : ℤ := 1024
def columnCount : ℤ := 8193
def coefficientAbsBound : ℤ := 7

def scheduleError (message : String) : Failure := ⟨.valueError,message⟩
def scheduleAssertion (message : String) : Failure := ⟨.assertionError,message⟩

def validateTransition (transition : RouteASetTransition) : Checked Unit := do
  Checked.require ((0 ≤ transition.row ∧ transition.row < rowCount) ∧
      (0 ≤ transition.column ∧ transition.column < columnCount) ∧
      (-coefficientAbsBound ≤ transition.before ∧ transition.before ≤ coefficientAbsBound) ∧
      (-coefficientAbsBound ≤ transition.after ∧ transition.after ≤ coefficientAbsBound) ∧
      transition.before ≠ transition.after)
    (scheduleError "Route A SET transition is outside the frozen logical domain")
  Checked.require (transition.cause.agrees transition.before transition.after = true)
    (scheduleError "Route A SET transition cause does not match its values")

/-- `_validate_group`: its time and transitions. -/
def validateGroup (group : RouteAAcceptedGroup) (expectedOrdinal : ℕ) (previousTime : Option ℚ) :
    Checked (ℚ × List RouteASetTransition) := do
  Checked.require (group.acceptedOrdinal = expectedOrdinal ∧ 0 ≤ group.logicalTimeNumerator ∧
      0 < group.logicalTimeDenominator ∧ group.transitions.length ≤ 2)
    (scheduleError "Route A accepted group is outside the frozen schedule domain")
  let logicalTime : ℚ := (group.logicalTimeNumerator : ℚ) / group.logicalTimeDenominator
  Checked.require (previousTime.all fun previous => previous < logicalTime)
    (scheduleError "Route A accepted-group times must increase strictly")
  Checked.each validateTransition group.transitions
  return (logicalTime,group.transitions)

/-- The continuity of one transition with the values seen so far. -/
def observeTransition (observedAfter : List ((ℤ × ℤ) × ℤ)) (transition : RouteASetTransition) :
    Checked (List ((ℤ × ℤ) × ℤ)) := do
  Checked.require ((observedAfter.lookup (transition.row,transition.column)).all fun observed =>
      observed = transition.before)
    (scheduleError "Route A SET before value breaks trace continuity")
  return Dict.set (transition.row,transition.column) transition.after observedAfter

/-- The loop variables of `_validated_trace`. -/
structure TraceScan where
  times : List ℚ
  transitionsByGroup : List (List RouteASetTransition)
  observedAfter : List ((ℤ × ℤ) × ℤ)

def scanGroup (scan : TraceScan) (entry : RouteAAcceptedGroup × ℕ) : Checked TraceScan := do
  let accepted ← validateGroup entry.1 entry.2 scan.times.getLast?
  let observed ← accepted.2.foldlM observeTransition scan.observedAfter
  return ⟨scan.times ++ [accepted.1],scan.transitionsByGroup ++ [accepted.2],observed⟩

def validatedTrace (groups : List RouteAAcceptedGroup) :
    Checked (List ℚ × List (List RouteASetTransition)) := do
  Checked.require (groups ≠ [])
    (scheduleError "Route A schedule requires one nonempty accepted-group tuple")
  let scan ← groups.zipIdx.foldlM scanGroup ⟨[],[],[]⟩
  return (scan.times,scan.transitionsByGroup)

def microbatchClosesBeforeGroup (setCount groupSetCount : ℕ) : Checked Bool :=
  match groupSetCount with
  | 0 => .ok false
  | 1 => .ok (64 < setCount + 1)
  | 2 => .ok (65 < setCount + 2)
  | _ => .error (scheduleAssertion "accepted-group validation owns the closed g domain")

/-- `route_a_query_batch_counts`. -/
def queryBatchCounts (acceptedGroupCount : ℕ) (rho : ℚ) : Checked (List ℕ) := do
  Checked.require (0 < acceptedGroupCount)
    (scheduleError "accepted_group_count must be a positive strict integer")
  Checked.require (rho ∈ routeARhos)
    (scheduleError "rho must be one exact preregistered Route A ratio")
  return (List.range acceptedGroupCount).map fun ordinal =>
    (ordinal + 1) * rho.num.toNat / rho.den - ordinal * rho.num.toNat / rho.den

/-! `resolve_route_a_publication_window`. -/

abbrev ReferenceKey := ℕ ×ₗ ℕ

def referenceKey (reference : RouteASetTransitionReference) : ReferenceKey :=
  toLex (reference.acceptedGroupOrdinal,reference.transitionOrdinalWithinGroup)

/-- The body of the loop over the references. -/
def appendReferenceKey (firstGroup lastGroup : ℕ) (keys : List ReferenceKey)
    (reference : RouteASetTransitionReference) : Checked (List ReferenceKey) := do
  Checked.require (keys.getLast?.all fun last => last < referenceKey reference)
    (scheduleError "Route A SET references must be strictly ordered")
  Checked.require (firstGroup ≤ reference.acceptedGroupOrdinal ∧
      reference.acceptedGroupOrdinal ≤ lastGroup)
    (scheduleError "Route A SET reference escapes its inclusive group range")
  return keys ++ [referenceKey reference]

def timeAt (times : List ℚ) (group : ℕ) : ℚ := (times[group]?).getD 0

def transitionsAt (transitionsByGroup : List (List RouteASetTransition)) (group : ℕ) :
    List RouteASetTransition :=
  (transitionsByGroup[group]?).getD []

/-- The keys of the sets in the groups from `first` up to `stop`. -/
def keysBetween (transitionsByGroup : List (List RouteASetTransition)) (first stop : ℕ) :
    List ReferenceKey :=
  (List.range' first (stop - first)).flatMap fun group =>
    (List.range (transitionsAt transitionsByGroup group).length).map fun ordinal => toLex (group,ordinal)

def resolveKey (transitionsByGroup : List (List RouteASetTransition)) (key : ReferenceKey) :
    Option RouteASetTransition :=
  (transitionsAt transitionsByGroup (ofLex key).1)[(ofLex key).2]?

/-- The body of the loop over the further groups of an update window. -/
def resolveRunning (times : List ℚ) (transitionsByGroup : List (List RouteASetTransition))
    (deadline : ℚ) (runningSetCount group : ℕ) : Checked ℕ := do
  Checked.require (timeAt times group < deadline)
    (scheduleError "Route A update window crossed its freshness deadline")
  let closes ← microbatchClosesBeforeGroup runningSetCount (transitionsAt transitionsByGroup group).length
  Checked.require (closes = false)
    (scheduleError "Route A update window crossed a microbatch boundary")
  return runningSetCount + (transitionsAt transitionsByGroup group).length

/-- The close time that the reason of a window implies. -/
def expectedCloseTime (times : List ℚ) (transitionsByGroup : List (List RouteASetTransition))
    (groupCount : ℕ) (window : RouteAPublicationWindow) (startTime : ℚ) (lastGroup : ℕ) : Checked ℚ :=
  match window.closeReason with
  | .query => .ok (timeAt times lastGroup)
  | .finiteTraceEnd => do
    Checked.require (lastGroup = groupCount - 1)
      (scheduleError "Route A finite-trace window must end at the final group")
    return timeAt times lastGroup
  | .preGroupMicrobatch => do
    Checked.require (lastGroup + 1 < groupCount)
      (scheduleError "Route A pre-group close requires one following group")
    Checked.require (timeAt times (lastGroup + 1) < startTime + freshness)
      (scheduleError "Route A freshness deadline must precede the microbatch close")
    let closes ← microbatchClosesBeforeGroup window.orderedSetTransitionReferences.length
      (transitionsAt transitionsByGroup (lastGroup + 1)).length
    Checked.require (closes = true)
      (scheduleError "Route A pre-group close lacks its exact microbatch trigger")
    return timeAt times (lastGroup + 1)
  | .oneSecondDeadline => do
    Checked.require (lastGroup + 1 < groupCount)
      (scheduleError "Route A deadline close requires one following group")
    Checked.require (startTime + freshness ≤ timeAt times (lastGroup + 1))
      (scheduleError "Route A deadline close precedes its first eligible group")
    return startTime + freshness

/-- The checks between the references of a window and its version and query fields. -/
def validateWindowKind (window : RouteAPublicationWindow) (firstGroup lastGroup : ℕ) : Checked Unit :=
  if window.orderedSetTransitionReferences ≠ [] then do
    Checked.require (window.versionAfter = window.versionBefore + 1)
      (scheduleError "Route A SET-bearing window must advance exactly one version")
    Checked.require (¬(0 < window.queryCount ∧ window.closeReason ≠ .query))
      (scheduleError "Route A query-bearing window must use the query close reason")
    Checked.require (¬(window.queryCount = 0 ∧ window.closeReason = .query))
      (scheduleError "Route A nonquery window cannot use the query close reason")
  else do
    Checked.require (window.versionAfter = window.versionBefore)
      (scheduleError "Route A query-only window must retain its version")
    Checked.require (window.closeReason = .query ∧ 0 < window.queryCount ∧ firstGroup = lastGroup)
      (scheduleError "Route A query-only window must use the query reason on one group")

/-- `resolve_route_a_publication_window`, once the group range is there. -/
def resolveRange (times : List ℚ) (transitionsByGroup : List (List RouteASetTransition))
    (window : RouteAPublicationWindow) (firstGroup lastGroup : ℕ) : Checked RouteAResolvedWindow := do
  Checked.require (window.queryCount ≠ 0 → window.firstGlobalQueryOrdinalOrNull.isSome = true)
    (scheduleError "Route A query ordinal must be one nonnegative strict integer")
  Checked.require (window.queryCount = 0 → window.firstGlobalQueryOrdinalOrNull = none)
    (scheduleError "Route A nonquery window must not carry a query ordinal")
  let references := window.orderedSetTransitionReferences
  let referenceKeys ← references.foldlM (appendReferenceKey firstGroup lastGroup) []
  Checked.require ((references.head?.map RouteASetTransitionReference.acceptedGroupOrdinal).all fun group =>
      firstGroup = group)
    (scheduleError "Route A update range must start at its earliest referenced SET group")
  Checked.require (referenceKeys = keysBetween transitionsByGroup firstGroup (lastGroup + 1))
    (scheduleError "Route A window references must identify all and only SETs in its inclusive range")
  let resolved := referenceKeys.filterMap (resolveKey transitionsByGroup)
  validateWindowKind window firstGroup lastGroup
  let startTime := timeAt times firstGroup
  if references ≠ [] then
    let _ ← (List.range' (firstGroup + 1) (lastGroup - firstGroup)).foldlM
      (resolveRunning times transitionsByGroup (startTime + freshness))
      (transitionsAt transitionsByGroup firstGroup).length
    pure ()
  let expected ← expectedCloseTime times transitionsByGroup times.length window startTime lastGroup
  Checked.require (window.closedAt = expected)
    (scheduleError "Route A window close time does not match its exact reason")
  return ⟨startTime,resolved⟩

def resolveRouteAPublicationWindow (groups : List RouteAAcceptedGroup) (window : RouteAPublicationWindow) :
    Checked RouteAResolvedWindow := do
  let trace ← validatedTrace groups
  match window.firstEventGroupOrdinalOrNull, window.lastEventGroupOrdinalOrNull with
  | some firstGroup, some lastGroup => do
    Checked.require (firstGroup ≤ lastGroup ∧ lastGroup < groups.length)
      (scheduleError "Route A strategy window has malformed exact fields")
    resolveRange trace.1 trace.2 window firstGroup lastGroup
  | _, _ => .error (scheduleError "Route A strategy window has malformed exact fields")

/-! `compile_route_a_window_trace`. -/

/-- Its loop variables. -/
structure Compilation where
  windows : List RouteAPublicationWindow
  pendingReferences : List RouteASetTransitionReference
  pendingStartTime : Option ℚ
  version : ℕ
  nextQueryOrdinal : ℕ

def closeWindow (closeReason : RouteACloseReason) (lastGroupOrdinal : ℕ) (closedAt : ℚ)
    (queryCount : ℕ) (state : Compilation) : Checked Compilation := do
  let hasUpdates : Bool := state.pendingReferences ≠ []
  Checked.require (hasUpdates = true ∨ (closeReason = .query ∧ 0 < queryCount))
    (scheduleAssertion "Route A never emits an empty non-query window")
  let firstGroupOrdinal := (state.pendingReferences.head?.map
    RouteASetTransitionReference.acceptedGroupOrdinal).getD lastGroupOrdinal
  let versionAfter := if hasUpdates then state.version + 1 else state.version
  Checked.require (firstGroupOrdinal ≤ lastGroupOrdinal)
    (scheduleAssertion "Route A window range is not inclusive and ordered")
  return {
    windows := state.windows ++ [{
      windowOrdinal := state.windows.length
      versionBefore := state.version
      versionAfter := versionAfter
      closeReason := closeReason
      firstEventGroupOrdinalOrNull := some firstGroupOrdinal
      lastEventGroupOrdinalOrNull := some lastGroupOrdinal
      orderedSetTransitionReferences := state.pendingReferences
      firstGlobalQueryOrdinalOrNull := if queryCount ≠ 0 then some state.nextQueryOrdinal else none
      queryCount := queryCount
      closedAt := closedAt }]
    pendingReferences := []
    pendingStartTime := none
    version := versionAfter
    nextQueryOrdinal := state.nextQueryOrdinal + queryCount }

/-- The close at the freshness deadline, ahead of a group. -/
def closeDeadline (logicalTime : ℚ) (ordinal : ℕ) (state : Compilation) : Checked Compilation :=
  match state.pendingStartTime with
  | none => .ok state
  | some pendingStart =>
    if pendingStart + freshness ≤ logicalTime then
      closeWindow .oneSecondDeadline (ordinal - 1) (pendingStart + freshness) 0 state
    else .ok state

/-- The close of a full micro-batch, ahead of a group. -/
def closePreGroup (logicalTime : ℚ) (ordinal groupSetCount : ℕ) (state : Compilation) :
    Checked Compilation :=
  if state.pendingReferences = [] then .ok state
  else do
    let closes ← microbatchClosesBeforeGroup state.pendingReferences.length groupSetCount
    if closes then closeWindow .preGroupMicrobatch (ordinal - 1) logicalTime 0 state else return state

def groupReferences (ordinal setCount : ℕ) : List RouteASetTransitionReference :=
  (List.range setCount).map fun transitionOrdinal => ⟨ordinal,transitionOrdinal⟩

def appendGroup (logicalTime : ℚ) (ordinal setCount : ℕ) (state : Compilation) : Compilation :=
  { state with
    pendingReferences := state.pendingReferences ++ groupReferences ordinal setCount
    pendingStartTime := if setCount = 0 then state.pendingStartTime
      else some (state.pendingStartTime.getD logicalTime) }

def closeQueryBatch (logicalTime : ℚ) (ordinal queryCount : ℕ) (state : Compilation) :
    Checked Compilation :=
  if queryCount ≠ 0 then closeWindow .query ordinal logicalTime queryCount state else .ok state

/-- The body of the loop over the groups. -/
def compileGroup (times : List ℚ) (transitionsByGroup : List (List RouteASetTransition))
    (queryCounts : List ℕ) (state : Compilation) (ordinal : ℕ) : Checked Compilation := do
  let logicalTime := timeAt times ordinal
  let setCount := (transitionsAt transitionsByGroup ordinal).length
  let fresh ← closeDeadline logicalTime ordinal state
  let batched ← closePreGroup logicalTime ordinal setCount fresh
  closeQueryBatch logicalTime ordinal ((queryCounts[ordinal]?).getD 0)
    (appendGroup logicalTime ordinal setCount batched)

/-- `if pending_references` behind the loop. -/
def closeTrace (times : List ℚ) (groupCount : ℕ) (state : Compilation) : Checked Compilation :=
  if state.pendingReferences = [] then .ok state
  else closeWindow .finiteTraceEnd (groupCount - 1) (timeAt times (groupCount - 1)) 0 state

def windowTraceDocument (sourceEventTraceSha256 shardIdentitySha256 : String) (rho : ℚ)
    (windows : List RouteAPublicationWindow) : String :=
  Json.dumps true (Json.object [
    ("freshness_denominator",.nat freshness.den),
    ("freshness_numerator",.int freshness.num),
    ("ordered_windows",.arr (windows.map RouteAPublicationWindow.toDocument)),
    ("rho_denominator",.nat rho.den),
    ("rho_numerator",.int rho.num),
    ("schema_version",.str routeAWindowTraceSchema),
    ("shard_identity_sha256",.str shardIdentitySha256),
    ("source_event_trace_sha256",.str sourceEventTraceSha256)]) ++ "\n"

def compileRouteAWindowTrace (sha : Sha256) (groups : List RouteAAcceptedGroup)
    (sourceEventTraceSha256 shardIdentitySha256 : String) (rho freshnessArgument : ℚ) :
    Checked RouteAWindowTrace := do
  let trace ← validatedTrace groups
  Checked.require (validSha256 sourceEventTraceSha256 = true ∧ validSha256 shardIdentitySha256 = true)
    (scheduleError "Route A schedule identity requires lowercase SHA-256 values")
  Checked.require (rho ∈ routeARhos)
    (scheduleError "rho must be one exact preregistered Route A ratio")
  Checked.require (freshnessArgument = freshness)
    (scheduleError "freshness must be the exact preregistered one second")
  let queryCounts ← queryBatchCounts groups.length rho
  let final ← (List.range groups.length).foldlM (compileGroup trace.1 trace.2 queryCounts) ⟨[],[],none,0,0⟩
  let closed ← closeTrace trace.1 groups.length final
  let document := windowTraceDocument sourceEventTraceSha256 shardIdentitySha256 rho closed.windows
  return ⟨closed.windows,document,sha.hexdigest document⟩

end RouteA
end DynamicCssc
