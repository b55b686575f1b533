import DynamicCssc.TraceReplay

/-! The transform and the loader agree on every stream, and the matrix they hold has a closed form. -/
namespace DynamicCssc
open Foundation Foundation.SlidingWindow

def CanonicalRawEvent.key (event : CanonicalRawEvent) : String ×ₗ ℤ ×ₗ ℤ :=
  toLex (event.timestampUtc,toLex (event.sourceFileOrdinal,event.withinFileOrdinal))

private theorem foldl_set_lookup (entries table : List (String × ℕ)) (key : String) (value : ℕ)
    (found : (entries.foldl (fun table entry => Dict.set entry.1 entry.2 table) table).lookup key = some value) :
    (key,value) ∈ entries ∨ table.lookup key = some value := by
  induction entries generalizing table with
  | nil => exact .inr found
  | cons entry entries ih =>
    rcases ih _ found with later | earlier
    · exact .inl (List.mem_cons_of_mem _ later)
    · rw [Dict.lookup_set] at earlier
      split at earlier
      · rename_i same
        rw [same,← Option.some.inj earlier]
        exact .inl List.mem_cons_self
      · exact .inr earlier

private theorem indexed_lookup (ids : List String) (id : String) (index : ℕ)
    (found : (indexed ids).lookup id = some index) : ids[index]? = some id := by
  rcases foldl_set_lookup _ _ _ _ found with member | none
  · exact List.mk_mem_zipIdx_iff_getElem?.mp member
  · cases none

section
variable {sha : Sha256} {context : TraceContext} {mapping : TraceMapping} {limit : Option ℕ}

private theorem selectedEvent_source (source : RawEvent) (accepted : Accepted)
    (selected : selectedEvent sha context mapping source = some accepted) : accepted.source = source ∧
      mapping.rowIndex.lookup source.2.canonicalSourceId = some accepted.row ∧
      mapping.columnIndex.lookup source.2.canonicalTargetId = some accepted.column := by
  rw [selectedEvent] at selected
  split at selected
  · simp only [Option.bind_eq_some_iff,Option.map_eq_some_iff] at selected
    obtain ⟨row,rowFound,column,columnFound,rfl⟩ := selected
    exact ⟨rfl,rowFound,columnFound⟩
  · cases selected

private theorem acceptedEvents_sublist (sources : List RawEvent) :
    (acceptedEvents sha context mapping limit sources).Sublist
      (sources.filterMap (selectedEvent sha context mapping)) := by
  unfold acceptedEvents
  cases limit with
  | none => exact List.Sublist.refl _
  | some count => exact List.take_sublist _ _

private theorem acceptedEvents_stand (datasetId : String) (partition cols : ℕ) (rowIds columnIds : List String)
    (sources : List RawEvent) (accepted : Accepted)
    (member : accepted ∈ acceptedEvents sha context
      (mappingFromObservedIds datasetId partition cols rowIds columnIds) limit sources) :
    accepted.Stands (mappingFromObservedIds datasetId partition cols rowIds columnIds) := by
  obtain ⟨source,_,selected⟩ := List.mem_filterMap.mp ((acceptedEvents_sublist sources).mem member)
  obtain ⟨same,row,column⟩ := selectedEvent_source source accepted selected
  have here := indexed_lookup rowIds _ _ row
  have there := indexed_lookup columnIds _ _ column
  have below : accepted.column < columnIds.length := (List.getElem?_eq_some_iff.mp there).1
  refine ⟨same ▸ here,?_,below⟩
  rw [mappingFromObservedIds,List.getElem?_append_left below,same]
  exact there

private theorem enumerated_chronological (start : ℕ) (events : List CanonicalRawEvent)
    (chronological : (events.map CanonicalRawEvent.key).Pairwise (· < ·)) :
    (enumerated start events).Pairwise fun earlier later =>
      earlier.2.key < later.2.key ∧ earlier.1 < later.1 := by
  rw [List.pairwise_map] at chronological
  rw [enumerated,List.pairwise_map,List.pairwise_iff_getElem]
  intro left right below inside ordered
  rw [List.length_zipIdx] at below inside
  simp only [List.getElem_zipIdx,Prod.fst_swap,Prod.snd_swap]
  exact ⟨List.pairwise_iff_getElem.mp chronological left right below inside ordered,by omega⟩

private theorem acceptedEvents_chronological (start : ℕ) (events : List CanonicalRawEvent)
    (chronological : (events.map CanonicalRawEvent.key).Pairwise (· < ·)) :
    (acceptedEvents sha context mapping limit (enumerated start events)).Pairwise Accepted.Follows := by
  refine List.Pairwise.sublist (acceptedEvents_sublist _) ?_
  rw [List.pairwise_filterMap]
  refine (enumerated_chronological start events chronological).imp fun ordered first here second there => ?_
  rw [Accepted.Follows,(selectedEvent_source _ _ here).1,(selectedEvent_source _ _ there).1]
  exact ordered

private theorem stream_produced (positive : 0 < context.eventWindowSize) (accepted : List Accepted) :
    ∃ state, Produced context accepted state := by
  induction accepted using List.reverseRecOn with
  | nil => exact ⟨_,Produced.initial context⟩
  | append_singleton before next ih =>
    obtain ⟨state,produced⟩ := ih
    obtain ⟨after,_,grown⟩ := produced.accept positive next
    exact ⟨after,grown⟩

private theorem replayBounds_matrix (records : List PublicationTransition) (replay next : BoundReplay)
    (ran : records.foldlM replayBounds replay = .ok next) : next.replayedState =
      records.foldl (fun state record => Netting.write record.cell record.after state) replay.replayedState := by
  induction records generalizing replay with
  | nil =>
    simp only [List.foldlM_nil,pure,Except.pure,Except.ok.injEq] at ran
    rw [← ran,List.foldl_nil]
  | cons record records ih =>
    rw [List.foldlM_cons,Checked.bind_success] at ran
    obtain ⟨middle,here,rest⟩ := ran
    rw [ih middle rest,(replayBounds_success _ _ _ here).2,List.foldl_cons]

private theorem replayedMatrix_held (positive : 0 < context.eventWindowSize) (accepted : List Accepted) (cell : Cell) :
    Netting.read (replayedMatrix (context.recordsOf accepted)) cell =
      context.capped (admissions cell (context.held accepted)) := by
  obtain ⟨state,produced⟩ := stream_produced positive accepted
  obtain ⟨bounds,tracks⟩ := produced.tracks
  have matrix := replayBounds_matrix _ _ _ tracks.replay
  rw [replayedMatrix,← tracks.matrix cell,matrix]
  rfl

private theorem loadedGroups_take (accepted : List Accepted) (count : ℕ) :
    ((loadedGroups context accepted).take count).flatMap TraceGroup.transitions =
      context.recordsOf (accepted.take count) := by
  have transitions : (loadedGroups context accepted).map TraceGroup.transitions =
      context.groupsFrom [] accepted := by
    rw [loadedGroups,List.map_map]
    conv_rhs => rw [← List.zipIdx_map_fst 0 (context.groupsFrom [] accepted)]
    rfl
  have grouped : (context.groupsFrom [] accepted).take count =
      context.groupsFrom [] (accepted.take count) := by
    conv_lhs => rw [← List.take_append_drop count accepted,TraceContext.groupsFrom_append]
    by_cases inside : count ≤ accepted.length
    · have length : (context.groupsFrom [] (accepted.take count)).length = count := by
        rw [groupsFrom_length,List.length_take,Nat.min_eq_left inside]
      exact List.take_left' length
    · rw [List.drop_of_length_le (by omega),TraceContext.groupsFrom,List.append_nil,List.take_of_length_le]
      rw [groupsFrom_length,List.length_take]
      exact min_le_left _ _
  rw [List.flatMap_def,List.map_take,transitions,grouped]
  rfl

end

/-- The loader accepts every line that the transform emits, recomputes what it reports, and replays the
capped numbers of the last admissions. -/
theorem trace_producer_loader_agree (sha : Sha256) (context : TraceContext) (cols : ℕ)
    (rowIds columnIds : List String) (limit : Option ℕ) (start : ℕ) (events : List CanonicalRawEvent)
    (chronological : (events.map CanonicalRawEvent.key).Pairwise (· < ·))
    (release : context.datasetRelease ≠ "") (formed : ∀ event ∈ events, event.Formed)
    (window : 1 ≤ context.eventWindowSize) (clock : context.acceptedEventsPerSecond = 128)
    (limited : limit ≠ some 0) :
    let mapping := mappingFromObservedIds context.datasetId context.sourcePartitionId cols rowIds columnIds
    let accepted := acceptedEvents sha context mapping limit (enumerated start events)
    ∃ result, transformEvents sha context mapping limit (enumerated start events) = .ok result ∧
      result.acceptedEventCount = accepted.length ∧
      (accepted ≠ [] → ∃ groups, (∀ manifest : TraceManifest, manifest.Binds context mapping →
          parseTrace manifest result.records = .ok groups) ∧
        groups.length = result.acceptedEventCount ∧
        groups.flatMap TraceGroup.transitions = result.records ∧
        (∀ manifest : TraceManifest, manifest.Binds context mapping →
          manifest.acceptedRawEventSha256 = result.acceptedRawEventSha256 →
          manifest.sourceEventTypeCounts = result.sourceEventTypeCounts →
          validateTransitionSemantics sha manifest groups = .ok ()) ∧
        (∃ coefficientMax, ∀ manifest, (validateTraceSummary manifest groups = .ok () ↔
          manifest.trace = expectedTotals manifest groups ∧ manifest.operationCounts = result.operationCounts ∧
          manifest.realizedBounds = ⟨0,coefficientMax,result.peakRowNonzeros⟩ ∧ (manifest.eligible = true →
            manifest.meetsGates (expectedTotals manifest groups) result.peakRowNonzeros = true)) ∧
          (expectedTotals manifest groups).acceptedRawEvents = result.acceptedEventCount ∧
          (expectedTotals manifest groups).transitionRecords = result.transitionRecordCount) ∧
        ∀ count ≤ accepted.length, ∀ cell,
          Netting.read (replayedMatrix ((groups.take count).flatMap TraceGroup.transitions)) cell =
            min (context.coefficientCap : ℤ) (match context.semantics with
              | .t1 => (accepted.take count).countP fun item => item.cell = cell
              | .t2 => ((accepted.take count).drop (count - context.eventWindowSize)).countP
                fun item => item.cell = cell : ℕ)) := by
  intro mapping accepted
  have sources : ∀ source ∈ enumerated start events, source.2.Formed := by
    intro source member
    obtain ⟨⟨event,ordinal⟩,inside,rfl⟩ := List.mem_map.mp member
    exact formed event (List.fst_mem_of_mem_zipIdx inside)
  obtain ⟨state,ran,produced⟩ := @transform_produced context sha mapping limit window release
    (enumerated start events) fun source member => (sources source member).sourceId
  obtain ⟨bounds,tracks⟩ := produced.tracks
  refine ⟨_,Checked.pass _ _ _ (Checked.require_true _ _ limited) ((Checked.bind_success _ _ _).mpr
    ⟨state,ran,rfl⟩),produced.count,?_⟩
  intro some
  have records : state.records = context.recordsOf accepted := tracks.emitted
  have flattened := @loadedGroups_records context accepted
  have stands : ∀ item ∈ accepted, item.Stands mapping := fun item member =>
    acceptedEvents_stand _ _ _ _ _ _ item member
  have origins : ∀ item ∈ accepted, item.source.2.Formed := by
    intro item member
    obtain ⟨source,inside,selected⟩ := List.mem_filterMap.mp ((acceptedEvents_sublist _).mem member)
    rw [(selectedEvent_source source item selected).1]
    exact sources source inside
  refine ⟨loadedGroups context accepted,?_,?_,?_,?_,⟨bounds.coefficientMax,fun manifest => ⟨?_,?_,?_⟩⟩,?_⟩
  · intro manifest binds
    dsimp only
    rw [records]
    exact parseTrace_stream binds window clock accepted some stands origins bounds tracks.replay
  · rw [loadedGroups_length]
    exact produced.count.symm
  · rw [flattened,records]
  · intro manifest binds digest types
    obtain ⟨replay,replays,replayed⟩ := replay_stream window binds accepted stands
      (acceptedEvents_chronological start events chronological)
    refine (Checked.bind_success _ _ _).mpr ⟨replay,replays,?_⟩
    refine Checked.pass _ _ _ (Checked.require_true _ _ ?_) (Checked.require_true _ _ ?_)
    · rw [digest,replayed.text,produced.text]
    · rw [types,replayed.types,produced.types]
  · have operations : expectedOperationCounts (context.recordsOf accepted) = traceOperations.map fun operation =>
        (operation,(state.operationCounts.lookup operation).getD 0) :=
      List.map_congr_left fun operation _ => by rw [tracks.operations]
    rw [validateTraceSummary,flattened,operations,tracks.replay]
    simp only [Checked.then_success,Checked.require_success,Checked.ok_bind,tracks.peak]
  · rw [expectedTotals,loadedGroups_length]
    exact produced.count.symm
  · rw [expectedTotals,flattened,records]
  · intro count inside cell
    rw [loadedGroups_take,replayedMatrix_held window,TraceContext.capped,TraceContext.held]
    cases context.semantics with
    | t1 => rfl
    | t2 => rw [recent,List.length_take,Nat.min_eq_left inside]; rfl

/-- Two cells of one row under a window of two. -/
def smallTrace : TraceContext := ⟨"fixture","release",.t2,0,zeroDigest,1,2,128⟩

def smallEvents : List CanonicalRawEvent :=
  [⟨"1",0,0,"a","x","answer"⟩,⟨"2",0,1,"a","x","answer"⟩,⟨"2",0,2,"b","x","answer"⟩,⟨"3",0,0,"a","y","comment"⟩,
    ⟨"4",1,0,"a","y","answer"⟩]

def smallManifest : TraceManifest where
  datasetId := "fixture"
  datasetRelease := "release"
  semantics := .t2
  sourcePartition := 0
  repositoryProvenanceSha256 := zeroDigest
  cols := 3
  rowIds := ["a"]
  columnIds := (mappingFromObservedIds "fixture" 0 3 ["a"] ["x","y"]).columnIds
  observedColumnCount := 2
  coefficientCap := 1
  eventWindowSize := 2
  acceptedRawEventSha256 := zeroDigest
  sourceEventTypeCounts := [("answer",3),("comment",1)]
  trace := ⟨4,3,1,3,true,6⟩
  operationCounts := [(.insert,2),(.modify,0),(.delete,1),(.clippedNoOp,3)]
  realizedBounds := ⟨0,1,2⟩
  eligible := false
  targetAcceptedEvents := 4
  maximumTransitionsPerMicrobatchWindow := 2
  minimumLogicalChanges := 1
  minimumCompleteWindowLowerBound := 1
  maximumRowNonzeros := 2

/-- The last two of four events are on the second cell. -/
theorem smallTrace_agrees : ∃ result groups,
    transformEvents constantSha smallTrace (mappingFromObservedIds "fixture" 0 3 ["a"] ["x","y"]) (some 9)
      (enumerated 5 smallEvents) = .ok result ∧
    result.records.map PublicationTransition.operation =
      [.insert,.clippedNoOp,.clippedNoOp,.insert,.delete,.clippedNoOp] ∧
    parseTrace smallManifest result.records = .ok groups ∧ groups.length = 4 ∧
    validateTransitionSemantics constantSha smallManifest groups = .ok () ∧
    validateTraceSummary smallManifest groups = .ok () ∧
    Netting.read (replayedMatrix (groups.flatMap TraceGroup.transitions)) (toLex (0,0)) = 0 ∧
    Netting.read (replayedMatrix (groups.flatMap TraceGroup.transitions)) (toLex (0,1)) = 1 := by
  obtain ⟨result,ran,count,agrees⟩ := trace_producer_loader_agree constantSha smallTrace 3 ["a"] ["x","y"] (some 9) 5
    smallEvents (by decide +kernel) (by decide) (by
      intro event member
      simp only [smallEvents,List.mem_cons,List.not_mem_nil,or_false] at member
      rcases member with rfl | rfl | rfl | rfl | rfl <;> exact ⟨by decide,by decide,by decide,by decide,by decide⟩)
    (by decide) rfl (by decide)
  have four : (acceptedEvents constantSha smallTrace (mappingFromObservedIds "fixture" 0 3 ["a"] ["x","y"]) (some 9)
      (enumerated 5 smallEvents)).length = 4 := by decide +kernel
  obtain ⟨groups,parsed,length,_,replayed,_,closed⟩ := agrees (by
    intro none
    have zero := (congrArg List.length none).symm.trans four
    cases zero)
  have whole : groups.take 4 = groups := List.take_of_length_le (by rw [length,count]; exact four.le)
  have binds : smallManifest.Binds smallTrace (mappingFromObservedIds "fixture" 0 3 ["a"] ["x","y"]) :=
    ⟨rfl,rfl,rfl,rfl,rfl,by decide,rfl,rfl,rfl,rfl,rfl⟩
  have parsed := parsed smallManifest binds
  have summary : (do
      let result ← transformEvents constantSha smallTrace (mappingFromObservedIds smallTrace.datasetId
        smallTrace.sourcePartitionId 3 ["a"] ["x","y"]) (some 9) (enumerated 5 smallEvents)
      let groups ← parseTrace smallManifest result.records
      validateTraceSummary smallManifest groups) = .ok () := by decide +kernel
  rw [ran,Checked.ok_bind,parsed,Checked.ok_bind] at summary
  have reported : (transformEvents constantSha smallTrace (mappingFromObservedIds smallTrace.datasetId
      smallTrace.sourcePartitionId 3 ["a"] ["x","y"]) (some 9) (enumerated 5 smallEvents)).map (fun result => (result.records.map PublicationTransition.operation,
        result.acceptedRawEventSha256,result.sourceEventTypeCounts)) =
      .ok ([.insert,.clippedNoOp,.clippedNoOp,.insert,.delete,.clippedNoOp],zeroDigest,
        [("answer",3),("comment",1)]) := by decide +kernel
  rw [ran] at reported
  obtain ⟨labels,others⟩ := Prod.mk.inj (Except.ok.inj reported)
  obtain ⟨digest,types⟩ := Prod.mk.inj others
  refine ⟨result,groups,ran,labels,parsed,length.trans (count.trans four),
    replayed smallManifest binds digest.symm types.symm,summary,?_,?_⟩
  · rw [← whole]
    exact (closed 4 four.ge _).trans (by decide +kernel)
  · rw [← whole]
    exact (closed 4 four.ge _).trans (by decide +kernel)

end DynamicCssc
