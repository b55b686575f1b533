import DynamicCssc.Foundation.SlidingWindow
import DynamicCssc.PublicationTraces

/-! The loader of publication traces: it checks every line against the manifest, groups the transitions
by accepted event, replays the matrix and the raw counts on its own, and recomputes the summary of the
manifest. -/
namespace DynamicCssc
open Foundation

def traceError (message : String) : Failure := ⟨.valueError,message⟩

structure TraceTotals where
  acceptedRawEvents : ℕ
  clippedNoops : ℕ
  completePublicationWindowLowerBound : ℕ
  logicalChanges : ℕ
  targetReached : Bool
  transitionRecords : ℕ
deriving DecidableEq, Repr

structure RealizedBounds where
  coefficientMin : ℤ
  coefficientMax : ℤ
  peakRowNonzeros : ℤ
deriving DecidableEq, Repr

/-- The fields of a manifest that the lines are compared with and that the replay reads. -/
structure TraceManifest where
  datasetId : String
  datasetRelease : String
  semantics : TraceSemantics
  sourcePartition : ℕ
  repositoryProvenanceSha256 : String
  cols : ℕ
  rowIds : List String
  columnIds : List String
  observedColumnCount : ℕ
  coefficientCap : ℕ
  eventWindowSize : ℕ
  acceptedRawEventSha256 : String
  sourceEventTypeCounts : List (String × ℤ)
  trace : TraceTotals
  operationCounts : List (TraceOperation × ℤ)
  realizedBounds : RealizedBounds
  eligible : Bool
  targetAcceptedEvents : ℕ
  maximumTransitionsPerMicrobatchWindow : ℕ
  minimumLogicalChanges : ℕ
  minimumCompleteWindowLowerBound : ℕ
  maximumRowNonzeros : ℕ

/-! The lines. -/

/-- `_integer`. -/
def requireInteger (value : ℤ) (field : String) (minimum : ℤ) : Checked Unit :=
  Checked.require (minimum ≤ value)
    (traceError (field ++ " must be an exact integer >= " ++ toString minimum))

/-- `_string`. -/
def requireString (value field : String) : Checked Unit :=
  Checked.require (value ≠ "") (traceError (field ++ " must be a nonempty string"))

def eventProvenance (value : TransitionEventProvenance) (field : String) : Checked Unit := do
  requireInteger value.canonicalRawEventOrdinal (field ++ ".canonical_raw_event_ordinal") 0
  requireString value.sourceTimestampUtc (field ++ ".source_timestamp_utc")
  requireInteger value.sourceFileOrdinal (field ++ ".source_file_ordinal") 0
  requireInteger value.withinFileOrdinal (field ++ ".within_file_ordinal") 0
  requireString value.sourceEventType (field ++ ".source_event_type")

def expectedOperation (before after : ℤ) : TraceOperation :=
  if before = after then .clippedNoOp
  else if before = 0 then .insert
  else if after = 0 then .delete
  else .modify

/-- `_transition`, on a line whose keys and types are those of a transition. -/
def transition (manifest : TraceManifest) (lineNumber : ℕ) (payload : PublicationTransition) :
    Checked PublicationTransition := do
  let field := "publication-trace.jsonl line " ++ Nat.repr lineNumber
  Checked.require (payload.schemaVersion = transitionSchema)
    (traceError (field ++ " schema must be " ++ transitionSchema))
  Checked.require (payload.datasetId = manifest.datasetId)
    (traceError (field ++ ".dataset_id does not match the manifest"))
  Checked.require (payload.datasetRelease = manifest.datasetRelease)
    (traceError (field ++ ".dataset_release does not match the manifest"))
  Checked.require (payload.semantics = manifest.semantics)
    (traceError (field ++ ".semantics does not match the manifest"))
  Checked.require (payload.sourcePartition = manifest.sourcePartition)
    (traceError (field ++ ".source_partition does not match the manifest"))
  Checked.require (payload.repositoryProvenanceSha256 = manifest.repositoryProvenanceSha256)
    (traceError (field ++ " repository provenance does not match the manifest"))
  Checked.require (payload.rowIndex < manifest.rowIds.length)
    (traceError (field ++ ".row_index is outside the mapped rows"))
  Checked.require (payload.columnIndex < manifest.cols)
    (traceError (field ++ ".column_index is outside frozen cols"))
  requireInteger payload.before (field ++ ".before") 0
  requireInteger payload.after (field ++ ".after") 0
  Checked.require (max payload.before payload.after ≤ manifest.coefficientCap)
    (traceError (field ++ " coefficient exceeds the frozen cap"))
  Checked.require (payload.operation = expectedOperation payload.before payload.after)
    (traceError (field ++ ".operation does not match before/after"))
  eventProvenance payload.triggerEvent (field ++ ".trigger_event")
  eventProvenance payload.subjectEvent (field ++ ".subject_event")
  requireInteger payload.logicalTimeDenominator (field ++ ".logical_time_denominator") 1
  return payload

/-! The groups. -/

structure TraceGroup where
  acceptedOrdinal : ℕ
  logicalTime : ℚ
  transitions : List PublicationTransition

def validateGroup (group : List PublicationTransition) (expectedOrdinal : ℕ) : Checked TraceGroup :=
  match group,group.getLast? with
  | first :: _,some admission => do
    Checked.require (∀ record ∈ group, record.acceptedEventOrdinal = expectedOrdinal)
      (traceError "accepted-event ordinals must be contiguous from zero")
    Checked.require (∀ record ∈ group, record.logicalTimeNumerator = expectedOrdinal)
      (traceError "logical time numerator must equal accepted-event ordinal")
    Checked.require (∀ record ∈ group, record.logicalTimeDenominator = 128)
      (traceError "all transition records must use the exact 128 Hz clock")
    let order := group.map fun record => (record.transitionOrdinal,record.transitionCause)
    Checked.require (first.semantics = .t1 → order = [(0,.admission)])
      (traceError "T1 groups must contain exactly one admission transition")
    Checked.require (first.semantics = .t2 → order = [(1,.admission)] ∨ order = [(0,.expiry),(1,.admission)])
      (traceError "T2 groups must order an optional expiry before one admission")
    Checked.require (admission.subjectEvent = admission.triggerEvent)
      (traceError "admission subject provenance must equal its trigger provenance")
    Checked.require (group.length = 2 → first.triggerEvent = admission.triggerEvent)
      (traceError "T2 expiry and admission must bind the same incoming trigger event")
    return ⟨expectedOrdinal,(expectedOrdinal : ℚ) / 128,group⟩
  | _,_ => .error ⟨.assertionError,"trace group validator received an empty group"⟩

/-- The variables of `_parse_trace` between two lines. -/
structure TraceParsing where
  groups : List TraceGroup
  current : List PublicationTransition
  currentOrdinal : Option ℕ
  state : List (Cell × ℤ)

/-- The line starts a new group: the current one is closed. -/
def TraceParsing.turn (record : PublicationTransition) (parsing : TraceParsing) : Checked TraceParsing :=
  match parsing.currentOrdinal with
  | none => .ok { parsing with currentOrdinal := some record.acceptedEventOrdinal }
  | some ordinal =>
    if record.acceptedEventOrdinal ≠ ordinal then do
      let group ← validateGroup parsing.current parsing.groups.length
      return { parsing with
        groups := parsing.groups ++ [group]
        current := []
        currentOrdinal := some record.acceptedEventOrdinal }
    else .ok parsing

/-- The rest of the loop body of `_parse_trace`. -/
def parseRecord (parsing : TraceParsing) (record : PublicationTransition) : Checked TraceParsing := do
  let parsing ← parsing.turn record
  Checked.require (Netting.read parsing.state record.cell = record.before)
    (traceError "transition before value does not match replayed matrix state")
  return { parsing with
    state := Netting.write record.cell record.after parsing.state
    current := parsing.current ++ [record] }

/-- The loop body of `_parse_trace`. -/
def parseLine (manifest : TraceManifest) (parsing : TraceParsing) (line : PublicationTransition × ℕ) :
    Checked TraceParsing := do
  let record ← transition manifest line.2 line.1
  parseRecord parsing record

/-- `_parse_trace` on decoded lines. -/
def parseTrace (manifest : TraceManifest) (records : List PublicationTransition) :
    Checked (List TraceGroup) := do
  Checked.require (records ≠ []) (traceError "publication-trace.jsonl must not be empty")
  let parsing ← (records.zipIdx 1).foldlM (parseLine manifest) ⟨[],[],none,[]⟩
  let last ← validateGroup parsing.current parsing.groups.length
  return parsing.groups ++ [last]

def replayedMatrix (records : List PublicationTransition) : List (Cell × ℤ) :=
  records.foldl (fun state record => Netting.write record.cell record.after state) []

/-- The order of admissions: `(source_timestamp_utc, source_file_ordinal, within_file_ordinal)`. -/
def TransitionEventProvenance.key (event : TransitionEventProvenance) : String ×ₗ ℤ ×ₗ ℤ :=
  toLex (event.sourceTimestampUtc,toLex (event.sourceFileOrdinal,event.withinFileOrdinal))

/-- An entry of the loader's window: the admission and its cell. -/
abbrev FifoEntry := TransitionEventProvenance × ℕ × ℕ

/-- The variables of `_validate_transition_semantics`. -/
structure SemanticsReplay where
  rawCounts : List (Cell × ℤ)
  fifo : List FifoEntry
  acceptedText : String
  sourceEventTypeCounts : List (String × ℤ)
  previous : Option TransitionEventProvenance

def SemanticsReplay.initial : SemanticsReplay := ⟨[],[],"",[],none⟩

/-- `apply` of the loader. -/
def replayRecord (coefficientCap : ℕ) (record : PublicationTransition) (delta : ℤ)
    (replay : SemanticsReplay) : Checked SemanticsReplay := do
  let rawBefore := Netting.read replay.rawCounts record.cell
  let rawAfter := rawBefore + delta
  Checked.require (0 ≤ rawAfter) (traceError "raw-count replay became negative")
  Checked.require (record.before = min (coefficientCap : ℤ) rawBefore ∧
      record.after = min (coefficientCap : ℤ) rawAfter)
    (traceError "transition before/after does not equal the exact capped raw-count transform")
  return { replay with rawCounts := Netting.write record.cell rawAfter replay.rawCounts }

/-- The expiry of a T2 group: none before the window is full, the oldest admission from then on. -/
def replayExpiry (manifest : TraceManifest) (group : TraceGroup) (replay : SemanticsReplay) :
    Checked SemanticsReplay :=
  if group.acceptedOrdinal < manifest.eventWindowSize then do
    Checked.require (group.transitions.length = 1)
      (traceError "T2 groups before K must contain exactly one admission")
    return replay
  else do
    Checked.require (group.transitions.length = 2)
      (traceError "T2 groups at or after K must contain expiry then admission")
    match group.transitions,replay.fifo with
    | expiry :: _,(subject,row,column) :: rest => do
      Checked.require (expiry.subjectEvent = subject)
        (traceError "T2 expiry subject must equal the FIFO admission K groups earlier")
      Checked.require (expiry.rowIndex = row ∧ expiry.columnIndex = column)
        (traceError "T2 expiry coordinate must equal the FIFO admission coordinate")
      Checked.require (¬manifest.observedColumnCount ≤ expiry.columnIndex)
        (traceError "reserved-empty columns must never occur in a transition")
      replayRecord manifest.coefficientCap expiry (-1) { replay with fifo := rest }
    | _,_ => .error ⟨.indexError,"pop from an empty deque"⟩

def expireFifo (manifest : TraceManifest) (group : TraceGroup) (replay : SemanticsReplay) :
    Checked SemanticsReplay :=
  if manifest.semantics = .t2 then replayExpiry manifest group replay else .ok replay

/-- `ids[index]`. -/
def idAt (ids : List String) (index : ℕ) : Checked String :=
  match ids[index]? with
  | some id => .ok id
  | none => .error ⟨.indexError,"list index out of range"⟩

/-- The admission enters the window. -/
def enterFifo (manifest : TraceManifest) (admission : PublicationTransition) (replay : SemanticsReplay) :
    Checked SemanticsReplay :=
  if manifest.semantics = .t2 then do
    let fifo := replay.fifo ++ [(admission.triggerEvent,admission.rowIndex,admission.columnIndex)]
    Checked.require (¬manifest.eventWindowSize < fifo.length)
      ⟨.assertionError,"T2 FIFO exceeded the frozen event-window size"⟩
    return { replay with fifo := fifo }
  else .ok replay

/-- The loop body of `_validate_transition_semantics`. -/
def replayGroup (manifest : TraceManifest) (replay : SemanticsReplay) (group : TraceGroup) :
    Checked SemanticsReplay :=
  match group.transitions.getLast? with
  | none => .error ⟨.indexError,"tuple index out of range"⟩
  | some admission => do
    let trigger := admission.triggerEvent
    Checked.require (∀ previous ∈ replay.previous, previous.key < trigger.key)
      (traceError "accepted admission triggers must be strictly chronological and unique")
    Checked.require (∀ previous ∈ replay.previous,
        previous.canonicalRawEventOrdinal < trigger.canonicalRawEventOrdinal)
      (traceError "accepted canonical raw-event ordinals must be strictly increasing")
    Checked.require (¬manifest.observedColumnCount ≤ admission.columnIndex)
      (traceError "reserved-empty columns must never occur in a transition")
    let expired ← expireFifo manifest group { replay with previous := some trigger }
    let admitted ← replayRecord manifest.coefficientCap admission 1 expired
    let entered ← enterFifo manifest admission admitted
    let canonicalSourceId ← idAt manifest.rowIds admission.rowIndex
    let canonicalTargetId ← idAt manifest.columnIds admission.columnIndex
    return { entered with
      acceptedText := entered.acceptedText ++ canonicalLine (rawEventPayload trigger.sourceTimestampUtc
        trigger.sourceFileOrdinal trigger.withinFileOrdinal canonicalSourceId canonicalTargetId
        trigger.sourceEventType)
      sourceEventTypeCounts := bump trigger.sourceEventType 1 entered.sourceEventTypeCounts }

def validateTransitionSemantics (sha : Sha256) (manifest : TraceManifest) (groups : List TraceGroup) :
    Checked Unit := do
  let replay ← groups.foldlM (replayGroup manifest) .initial
  Checked.require (sha.hexdigest replay.acceptedText = manifest.acceptedRawEventSha256)
    (traceError "accepted_raw_event_sha256 does not bind the replayed admissions")
  Checked.require (Sorting.sortedBy Prod.fst replay.sourceEventTypeCounts = manifest.sourceEventTypeCounts)
    (traceError "source_event_type_counts do not match the replayed admissions")

/-- The variables of the bound replay. -/
structure BoundReplay where
  replayedState : List (Cell × ℤ)
  activeByRow : List (ℕ × ℤ)
  coefficientMax : ℤ
  peakRowNonzeros : ℤ

def BoundReplay.initial : BoundReplay := ⟨[],[],0,0⟩

def replayBounds (replay : BoundReplay) (record : PublicationTransition) : Checked BoundReplay := do
  Checked.require (Netting.read replay.replayedState record.cell = record.before)
    (traceError "realized-bound replay does not match transition before values")
  let active :=
    if record.before = 0 ∧ 0 < record.after then bump record.rowIndex 1 replay.activeByRow
    else if 0 < record.before ∧ record.after = 0 then bump record.rowIndex (-1) replay.activeByRow
    else replay.activeByRow
  return {
    replayedState := Netting.write record.cell record.after replay.replayedState
    activeByRow := active
    coefficientMax := max replay.coefficientMax record.after
    peakRowNonzeros := max replay.peakRowNonzeros ((active.lookup record.rowIndex).getD 0) }

def expectedOperationCounts (records : List PublicationTransition) : List (TraceOperation × ℤ) :=
  traceOperations.map fun operation =>
    (operation,((records.countP fun record => record.operation = operation : ℕ) : ℤ))

/-- `expected_trace`. -/
def expectedTotals (manifest : TraceManifest) (groups : List TraceGroup) : TraceTotals :=
  let records := groups.flatMap TraceGroup.transitions
  let logicalChanges := records.countP fun record => record.operation ≠ .clippedNoOp
  { acceptedRawEvents := groups.length
    clippedNoops := records.length - logicalChanges
    completePublicationWindowLowerBound := logicalChanges / manifest.maximumTransitionsPerMicrobatchWindow
    logicalChanges := logicalChanges
    targetReached := groups.length = manifest.targetAcceptedEvents
    transitionRecords := records.length }

/-- The numeric gates of an eligible trace. -/
def TraceManifest.meetsGates (manifest : TraceManifest) (totals : TraceTotals) (peakRowNonzeros : ℤ) : Bool :=
  totals.targetReached && decide (manifest.minimumLogicalChanges ≤ totals.logicalChanges) &&
    decide (manifest.minimumCompleteWindowLowerBound ≤ totals.completePublicationWindowLowerBound) &&
    decide (peakRowNonzeros ≤ manifest.maximumRowNonzeros)

def validateTraceSummary (manifest : TraceManifest) (groups : List TraceGroup) : Checked Unit := do
  let records := groups.flatMap TraceGroup.transitions
  let totals := expectedTotals manifest groups
  Checked.require (manifest.trace = totals)
    (traceError "trace summary does not match the replayed transition stream")
  Checked.require (manifest.operationCounts = expectedOperationCounts records)
    (traceError "operation_counts do not match the replayed transition stream")
  let bounds ← records.foldlM replayBounds .initial
  Checked.require (manifest.realizedBounds = ⟨0,bounds.coefficientMax,bounds.peakRowNonzeros⟩)
    (traceError "realized_bounds do not match the replayed transition stream")
  Checked.require (manifest.eligible = true → manifest.meetsGates totals bounds.peakRowNonzeros = true)
    (traceError "eligible trace does not satisfy its frozen numeric gates")

end DynamicCssc
