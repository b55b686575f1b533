import DynamicCssc.Failure
import DynamicCssc.Foundation.Decimal
import DynamicCssc.Foundation.JsonLoads
import DynamicCssc.Foundation.Netting

/-! The publication trace transform: raw events of one source partition become capped cell
transitions, with (T2) or without (T1) a first-in first-out window of admissions. -/
namespace DynamicCssc
open Foundation

inductive TraceSemantics
  | t1
  | t2
deriving DecidableEq, Repr

inductive TransitionCause
  | expiry
  | admission
deriving DecidableEq, Repr

inductive TraceOperation
  | insert
  | modify
  | delete
  | clippedNoOp
deriving DecidableEq, Repr

/-- `CanonicalRawEvent`; the event store gives each the schema version of raw events. -/
structure CanonicalRawEvent where
  timestampUtc : String
  sourceFileOrdinal : ℤ
  withinFileOrdinal : ℤ
  canonicalSourceId : String
  canonicalTargetId : String
  sourceEventType : String
deriving DecidableEq, Repr

structure TransitionEventProvenance where
  canonicalRawEventOrdinal : ℕ
  sourceTimestampUtc : String
  sourceFileOrdinal : ℤ
  withinFileOrdinal : ℤ
  sourceEventType : String
deriving DecidableEq, Repr

structure PublicationTransition where
  schemaVersion : String
  datasetId : String
  datasetRelease : String
  semantics : TraceSemantics
  sourcePartition : ℕ
  repositoryProvenanceSha256 : String
  acceptedEventOrdinal : ℕ
  transitionOrdinal : ℕ
  transitionCause : TransitionCause
  triggerEvent : TransitionEventProvenance
  subjectEvent : TransitionEventProvenance
  logicalTimeNumerator : ℕ
  logicalTimeDenominator : ℕ
  rowIndex : ℕ
  columnIndex : ℕ
  operation : TraceOperation
  before : ℤ
  after : ℤ
deriving DecidableEq, Repr

abbrev Cell := ℕ ×ₗ ℕ

def PublicationTransition.cell (record : PublicationTransition) : Cell :=
  toLex (record.rowIndex,record.columnIndex)

/-- The arguments of `_transform_events` that it copies or compares, and its configuration. -/
structure TraceContext where
  datasetId : String
  datasetRelease : String
  semantics : TraceSemantics
  sourcePartitionId : ℕ
  repositoryProvenanceSha256 : String
  coefficientCap : ℕ
  eventWindowSize : ℕ
  acceptedEventsPerSecond : ℕ
deriving DecidableEq, Repr

def transitionSchema : String := "dynamic-cssc-publication-transition-v3"
def rawEventSchema : String := "dynamic-cssc-canonical-raw-event-v1"

/-- `Counter[key] += delta`. -/
def bump {κ : Type} [DecidableEq κ] (key : κ) (delta : ℤ) (table : List (κ × ℤ)) : List (κ × ℤ) :=
  Dict.set key ((table.lookup key).getD 0 + delta) table

/-- `int.from_bytes(digest, "big")`. -/
def digestNumber (digest : String) : ℕ :=
  digest.toList.foldl (fun number digit => number * 16 + (Json.hexValue digit).getD 0) 0

def sourcePartition (sha : Sha256) (datasetRelease canonicalSourceId : String) : Checked ℕ := do
  Checked.require (datasetRelease ≠ "") ⟨.valueError,"dataset_release must be a nonempty string"⟩
  Checked.require (canonicalSourceId ≠ "") ⟨.valueError,"canonical_source_id must be a nonempty string"⟩
  return digestNumber (sha.hexdigest (datasetRelease ++ canonicalSourceId)) % 5

/-- `_raw_event_payload`, and the loader's `_canonical_raw_event_payload`. -/
def rawEventPayload (timestampUtc : String) (sourceFileOrdinal withinFileOrdinal : ℤ)
    (canonicalSourceId canonicalTargetId sourceEventType : String) : Json :=
  .object [("schema_version",.str rawEventSchema),("timestamp_utc",.str timestampUtc),
    ("source_file_ordinal",.int sourceFileOrdinal),("within_file_ordinal",.int withinFileOrdinal),
    ("canonical_source_id",.str canonicalSourceId),("canonical_target_id",.str canonicalTargetId),
    ("source_event_type",.str sourceEventType)]

/-- `_canonical_json_bytes`, as text. -/
def canonicalLine (value : Json) : String := Json.dumps true value ++ "\n"

/-- The identities of a mapping, and the two dictionaries that index them. -/
structure TraceMapping where
  rowIds : List String
  columnIds : List String
  observedColumnCount : ℕ
  rowIndex : List (String × ℕ)
  columnIndex : List (String × ℕ)
deriving DecidableEq, Repr

/-- `{identity: index for index, identity in enumerate(ids)}`. -/
def indexed (ids : List String) : List (String × ℕ) :=
  ids.zipIdx.foldl (fun table entry => Dict.set entry.1 entry.2 table) []

/-- `_mapping_from_observed_ids`, without the payload that only the manifest holds. -/
def mappingFromObservedIds (datasetId : String) (sourcePartitionId cols : ℕ)
    (observedRowIds observedColumnIds : List String) : TraceMapping where
  rowIds := observedRowIds
  columnIds := observedColumnIds ++ (List.range (cols - observedColumnIds.length)).map fun index =>
    "reserved-empty-column:" ++ datasetId ++ ":partition-" ++ Nat.repr sourcePartitionId ++ ":" ++
      Decimal.padded 5 index
  observedColumnCount := observedColumnIds.length
  rowIndex := indexed observedRowIds
  columnIndex := indexed observedColumnIds

/-- `_operation`. -/
def traceOperation (before after : ℤ) : TraceOperation :=
  if before = after then .clippedNoOp
  else if before = 0 then .insert
  else if after = 0 then .delete
  else .modify

/-- An event with its ordinal among the raw events. -/
abbrev RawEvent := ℕ × CanonicalRawEvent

def RawEvent.provenance (source : RawEvent) : TransitionEventProvenance :=
  ⟨source.1,source.2.timestampUtc,source.2.sourceFileOrdinal,source.2.withinFileOrdinal,
    source.2.sourceEventType⟩

/-- An accepted event with its cell: an entry of the event window. -/
structure Accepted where
  source : RawEvent
  row : ℕ
  column : ℕ
deriving DecidableEq, Repr

def Accepted.cell (accepted : Accepted) : Cell := toLex (accepted.row,accepted.column)

def recordTransition (context : TraceContext) (trigger subject : RawEvent) (acceptedOrdinal row column : ℕ)
    (cause : TransitionCause) (transitionOrdinal : ℕ) (before after : ℤ) : PublicationTransition where
  schemaVersion := transitionSchema
  datasetId := context.datasetId
  datasetRelease := context.datasetRelease
  semantics := context.semantics
  sourcePartition := context.sourcePartitionId
  repositoryProvenanceSha256 := context.repositoryProvenanceSha256
  acceptedEventOrdinal := acceptedOrdinal
  transitionOrdinal := transitionOrdinal
  transitionCause := cause
  triggerEvent := trigger.provenance
  subjectEvent := subject.provenance
  logicalTimeNumerator := acceptedOrdinal
  logicalTimeDenominator := context.acceptedEventsPerSecond
  rowIndex := row
  columnIndex := column
  operation := traceOperation before after
  before := before
  after := after

/-- The variables of `_transform_events`. The records are those that reach the sink. -/
structure TransformState where
  filtered : List (String × ℤ)
  acceptedText : String
  sourceEventTypeCounts : List (String × ℤ)
  rawCounts : List (Cell × ℤ)
  activeNonzerosByRow : List (ℕ × ℤ)
  peakRowNonzeros : ℤ
  records : List PublicationTransition
  eventWindow : List Accepted
  acceptedEventCount : ℕ
  operationCounts : List (TraceOperation × ℤ)
  maximumTransitionGroupSizeObserved : ℕ
  eventWindowPeakGroups : ℕ
  peakLiveCoordinateCount : ℕ
  lastTransitionGroup : Option ℕ
  currentTransitionGroupSize : ℕ

def TransformState.initial : TransformState :=
  ⟨[],"",[],[],[],0,[],[],0,[],0,0,0,none,0⟩

/-- `apply`. -/
def applyTransition (context : TraceContext) (trigger : RawEvent) (subject : Accepted)
    (acceptedOrdinal : ℕ) (cause : TransitionCause) (transitionOrdinal : ℕ) (delta : ℤ)
    (state : TransformState) : Checked TransformState := do
  let rawBefore := Netting.read state.rawCounts subject.cell
  let before := min (context.coefficientCap : ℤ) rawBefore
  let rawAfter := rawBefore + delta
  Checked.require (0 ≤ rawAfter) ⟨.assertionError,"event-window count became negative"⟩
  let rawCounts := Netting.write subject.cell rawAfter state.rawCounts
  let after := min (context.coefficientCap : ℤ) rawAfter
  let active :=
    if before = 0 ∧ 0 < after then bump subject.row 1 state.activeNonzerosByRow
    else if 0 < before ∧ after = 0 then bump subject.row (-1) state.activeNonzerosByRow
    else state.activeNonzerosByRow
  let record := recordTransition context trigger subject.source acceptedOrdinal subject.row subject.column
    cause transitionOrdinal before after
  let groupSize := if state.lastTransitionGroup = some acceptedOrdinal
    then state.currentTransitionGroupSize + 1 else 1
  return { state with
    rawCounts := rawCounts
    activeNonzerosByRow := active
    peakLiveCoordinateCount := max state.peakLiveCoordinateCount rawCounts.length
    peakRowNonzeros := max state.peakRowNonzeros ((active.lookup subject.row).getD 0)
    records := state.records ++ [record]
    operationCounts := bump record.operation 1 state.operationCounts
    lastTransitionGroup := some acceptedOrdinal
    currentTransitionGroupSize := groupSize
    maximumTransitionGroupSizeObserved := max state.maximumTransitionGroupSizeObserved groupSize }

/-- The expiry of the oldest admission, where the window is full. -/
def expireOldest (context : TraceContext) (trigger : RawEvent) (acceptedOrdinal : ℕ)
    (state : TransformState) : Checked TransformState :=
  if context.semantics = .t2 ∧ state.eventWindow.length = context.eventWindowSize then
    match state.eventWindow with
    | [] => .error ⟨.indexError,"pop from an empty deque"⟩
    | expired :: rest => applyTransition context trigger expired acceptedOrdinal .expiry 0 (-1)
      { state with eventWindow := rest }
  else .ok state

/-- The loop body for an event that is accepted. -/
def acceptEvent (context : TraceContext) (accepted : Accepted) (state : TransformState) :
    Checked TransformState := do
  let event := accepted.source.2
  let acceptedOrdinal := state.acceptedEventCount
  let counted := { state with
    acceptedEventCount := state.acceptedEventCount + 1
    acceptedText := state.acceptedText ++ canonicalLine (rawEventPayload event.timestampUtc
      event.sourceFileOrdinal event.withinFileOrdinal event.canonicalSourceId event.canonicalTargetId
      event.sourceEventType)
    sourceEventTypeCounts := bump event.sourceEventType 1 state.sourceEventTypeCounts }
  let expired ← expireOldest context accepted.source acceptedOrdinal counted
  let admitted ← applyTransition context accepted.source accepted acceptedOrdinal .admission
    (if context.semantics = .t2 then 1 else 0) 1 expired
  if context.semantics = .t2 then
    let window := admitted.eventWindow ++ [accepted]
    return { admitted with
      eventWindow := window
      eventWindowPeakGroups := max admitted.eventWindowPeakGroups window.length }
  else return admitted

def TransformState.filter (reason : String) (state : TransformState) : TransformState :=
  { state with filtered := bump reason 1 state.filtered }

/-- The loop body. -/
def transformEvent (sha : Sha256) (context : TraceContext) (mapping : TraceMapping) (limit : Option ℕ)
    (state : TransformState) (source : RawEvent) : Checked TransformState := do
  let eventPartition ← sourcePartition sha context.datasetRelease source.2.canonicalSourceId
  if eventPartition ≠ context.sourcePartitionId then return state.filter "other-source-partition"
  else match mapping.rowIndex.lookup source.2.canonicalSourceId with
    | none => return state.filter "unselected-source"
    | some row =>
      match mapping.columnIndex.lookup source.2.canonicalTargetId with
      | none => return state.filter "unselected-target"
      | some column =>
        if limit = some state.acceptedEventCount then return state.filter "after-target"
        else acceptEvent context ⟨source,row,column⟩ state

structure TransformResult where
  records : List PublicationTransition
  filterCounts : List (String × ℤ)
  peakRowNonzeros : ℤ
  acceptedRawEventSha256 : String
  sourceEventTypeCounts : List (String × ℤ)
  acceptedEventCount : ℕ
  transitionRecordCount : ℕ
  operationCounts : List (TraceOperation × ℤ)
  maximumTransitionGroupSizeObserved : ℕ
  eventWindowPeakGroups : ℕ
  peakLiveCoordinateCount : ℕ
deriving DecidableEq, Repr

def traceOperations : List TraceOperation := [.insert,.modify,.delete,.clippedNoOp]

/-- `enumerate(events, start)`. -/
def enumerated (start : ℕ) (events : List CanonicalRawEvent) : List RawEvent :=
  (events.zipIdx start).map Prod.swap

def transformEvents (sha : Sha256) (context : TraceContext) (mapping : TraceMapping) (limit : Option ℕ)
    (orderedEvents : List RawEvent) : Checked TransformResult := do
  Checked.require (limit ≠ some 0)
    ⟨.valueError,"accepted_event_limit must be null or a positive exact integer"⟩
  let state ← orderedEvents.foldlM (transformEvent sha context mapping limit) .initial
  return {
    records := state.records
    filterCounts := Sorting.sortedBy Prod.fst state.filtered
    peakRowNonzeros := state.peakRowNonzeros
    acceptedRawEventSha256 := sha.hexdigest state.acceptedText
    sourceEventTypeCounts := Sorting.sortedBy Prod.fst state.sourceEventTypeCounts
    acceptedEventCount := state.acceptedEventCount
    transitionRecordCount := state.records.length
    operationCounts := traceOperations.map fun operation =>
      (operation,(state.operationCounts.lookup operation).getD 0)
    maximumTransitionGroupSizeObserved := state.maximumTransitionGroupSizeObserved
    eventWindowPeakGroups := state.eventWindowPeakGroups
    peakLiveCoordinateCount := state.peakLiveCoordinateCount }

end DynamicCssc
