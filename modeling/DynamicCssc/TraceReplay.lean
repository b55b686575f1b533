import DynamicCssc.TraceAgreement

/-! The loader on what the transform emits: the groups, the replay of the raw counts, the summary. -/
namespace DynamicCssc
open Foundation Foundation.SlidingWindow

variable {context : TraceContext}

/-- The expiry of a group is there exactly when the window is full. -/
private theorem expiryOf_cases (before : List Accepted) (next : Accepted) (positive : 0 < context.eventWindowSize) :
    (¬(context.semantics = .t2 ∧ context.eventWindowSize ≤ before.length) ∧
      context.expiryOf before next = []) ∨
    (context.semantics = .t2 ∧ context.eventWindowSize ≤ before.length ∧ ∃ expired rest,
      recent context.eventWindowSize before = expired :: rest ∧ context.survivors before = rest ∧
      context.expiryOf before next = [recordTransition context next.source expired.source before.length
        expired.row expired.column .expiry 0 (context.capped (admissions expired.cell (expired :: rest)))
        (context.capped (admissions expired.cell rest))]) := by
  by_cases full : context.semantics = .t2 ∧ context.eventWindowSize ≤ before.length
  · obtain ⟨first,rest,split,_⟩ := recent_append_full context.eventWindowSize before next positive full.2
    refine .inr ⟨full.1,full.2,first,rest,split,?_,?_⟩
    · rw [TraceContext.survivors,full.1]
      dsimp only
      rw [if_pos full.2,split,List.tail_cons]
    · rw [TraceContext.expiryOf,if_pos full,split]
  · exact .inl ⟨full,by rw [TraceContext.expiryOf,if_neg full]⟩

private theorem groupOf_ordinal (before : List Accepted) (next : Accepted) (positive : 0 < context.eventWindowSize) :
    ∀ record ∈ context.groupOf before next, record.acceptedEventOrdinal = before.length ∧
      record.logicalTimeNumerator = before.length ∧
      record.logicalTimeDenominator = context.acceptedEventsPerSecond ∧
      record.triggerEvent = next.source.provenance := by
  intro record member
  rcases expiryOf_cases before next positive with ⟨_,none⟩ | ⟨_,_,expired,rest,_,_,some⟩
  · rw [TraceContext.groupOf,none,List.nil_append,List.mem_singleton] at member
    rw [member]
    exact ⟨rfl,rfl,rfl,rfl⟩
  · rw [TraceContext.groupOf,some,List.singleton_append,List.mem_cons,List.mem_singleton] at member
    rcases member with rfl | rfl <;> exact ⟨rfl,rfl,rfl,rfl⟩

private theorem groupOf_ne_nil (before : List Accepted) (next : Accepted) : context.groupOf before next ≠ [] := by
  simp [TraceContext.groupOf]

def loadedGroup (ordinal : ℕ) (transitions : List PublicationTransition) : TraceGroup :=
  ⟨ordinal,(ordinal : ℚ) / 128,transitions⟩

/-- The groups of a stream as the loader holds them. -/
def loadedGroups (context : TraceContext) (accepted : List Accepted) : List TraceGroup :=
  (context.groupsFrom [] accepted).zipIdx.map fun group => loadedGroup group.2 group.1

theorem groupsFrom_length (before accepted : List Accepted) :
    (context.groupsFrom before accepted).length = accepted.length := by
  induction accepted generalizing before with
  | nil => rfl
  | cons next rest ih => rw [TraceContext.groupsFrom,List.length_cons,ih,List.length_cons]

private theorem loadedGroups_append (before : List Accepted) (next : Accepted) :
    loadedGroups context (before ++ [next]) =
      loadedGroups context before ++ [loadedGroup before.length (context.groupOf before next)] := by
  rw [loadedGroups,loadedGroups,TraceContext.groupsFrom_append,List.zipIdx_append,List.map_append,
    List.nil_append,groupsFrom_length]
  simp [TraceContext.groupsFrom]

@[simp] theorem loadedGroups_length (accepted : List Accepted) :
    (loadedGroups context accepted).length = accepted.length := by
  simp [loadedGroups,groupsFrom_length]

theorem loadedGroups_records (accepted : List Accepted) :
    (loadedGroups context accepted).flatMap TraceGroup.transitions = context.recordsOf accepted := by
  rw [loadedGroups,List.flatMap_map,TraceContext.recordsOf]
  conv_rhs => rw [← List.zipIdx_map_fst 0 (context.groupsFrom [] accepted)]
  rfl

private theorem validateGroup_groupOf (before : List Accepted) (next : Accepted)
    (positive : 0 < context.eventWindowSize) (clock : context.acceptedEventsPerSecond = 128) :
    validateGroup (context.groupOf before next) before.length =
      .ok (loadedGroup before.length (context.groupOf before next)) := by
  have ordinals := @groupOf_ordinal context before next positive
  have last : (context.groupOf before next).getLast? = some (context.admissionOf before next) := by
    rw [TraceContext.groupOf,List.getLast?_concat]
  have admission : (context.admissionOf before next).subjectEvent =
      (context.admissionOf before next).triggerEvent := rfl
  have shape : ∃ first rest, context.groupOf before next = first :: rest ∧ first.semantics = context.semantics ∧
      first.triggerEvent = (context.admissionOf before next).triggerEvent := by
    rcases @expiryOf_cases context before next positive with ⟨_,none⟩ | ⟨_,_,_,_,_,_,some⟩
    · rw [TraceContext.groupOf,none]
      exact ⟨_,[],rfl,rfl,rfl⟩
    · rw [TraceContext.groupOf,some]
      exact ⟨_,[context.admissionOf before next],rfl,rfl,rfl⟩
  have order : (context.semantics = .t1 → (context.groupOf before next).map (fun record =>
        (record.transitionOrdinal,record.transitionCause)) = [(0,.admission)]) ∧
      (context.semantics = .t2 → (context.groupOf before next).map (fun record =>
        (record.transitionOrdinal,record.transitionCause)) = [(1,.admission)] ∨
        (context.groupOf before next).map (fun record =>
          (record.transitionOrdinal,record.transitionCause)) = [(0,.expiry),(1,.admission)]) := by
    rcases @expiryOf_cases context before next positive with ⟨_,none⟩ | ⟨windowed,_,_,_,_,_,some⟩
    · rw [TraceContext.groupOf,none]
      exact ⟨fun plain => by simp [TraceContext.admissionOf,recordTransition,plain],
        fun windowed => .inl (by simp [TraceContext.admissionOf,recordTransition,windowed])⟩
    · rw [TraceContext.groupOf,some]
      exact ⟨fun plain => absurd (plain.symm.trans windowed) (by decide),
        fun _ => .inr (by simp [TraceContext.admissionOf,recordTransition,windowed])⟩
  obtain ⟨first,rest,split,semantics,trigger⟩ := shape
  unfold validateGroup
  rw [last]
  rw [split] at ordinals order ⊢
  refine Checked.pass _ _ _ (Checked.require_true _ _ fun record member => (ordinals record member).1) ?_
  refine Checked.pass _ _ _ (Checked.require_true _ _ fun record member => (ordinals record member).2.1) ?_
  refine Checked.pass _ _ _ (Checked.require_true _ _ fun record member =>
    (ordinals record member).2.2.1.trans clock) ?_
  refine Checked.pass _ _ _ (Checked.require_true _ _ fun plain => order.1 (semantics ▸ plain)) ?_
  refine Checked.pass _ _ _ (Checked.require_true _ _ fun windowed => order.2 (semantics ▸ windowed)) ?_
  refine Checked.pass _ _ _ (Checked.require_true _ _ admission) ?_
  exact Checked.pass _ _ _ (Checked.require_true _ _ fun _ => trigger) rfl

/-! The grouping. -/

theorem replayBounds_success (replay next : BoundReplay) (record : PublicationTransition)
    (ran : replayBounds replay record = .ok next) :
    Netting.read replay.replayedState record.cell = record.before ∧
      next.replayedState = Netting.write record.cell record.after replay.replayedState := by
  rw [replayBounds,Checked.then_success,Checked.require_success] at ran
  simp only [pure,Except.pure,Except.ok.injEq] at ran
  exact ⟨ran.1,ran.2 ▸ rfl⟩

private theorem turn_same (parsing : TraceParsing) (record : PublicationTransition)
    (same : parsing.currentOrdinal = some record.acceptedEventOrdinal) : parsing.turn record = .ok parsing := by
  rw [TraceParsing.turn,same]
  dsimp only
  rw [if_neg (not_not_intro rfl)]

/-- The records of one group, once it has been opened. -/
private theorem parse_group (group : List PublicationTransition) (parsing : TraceParsing) (ordinal : ℕ)
    (opened : parsing.currentOrdinal = some ordinal)
    (ordinals : ∀ record ∈ group, record.acceptedEventOrdinal = ordinal) (replay next : BoundReplay)
    (matrix : parsing.state = replay.replayedState) (ran : group.foldlM replayBounds replay = .ok next) :
    group.foldlM parseRecord parsing = .ok { parsing with
      current := parsing.current ++ group
      state := next.replayedState } := by
  induction group generalizing parsing replay with
  | nil =>
    simp only [List.foldlM_nil,pure,Except.pure,Except.ok.injEq] at ran
    subst ran
    rw [List.append_nil,← matrix]
    rfl
  | cons record group ih =>
    rw [List.foldlM_cons,Checked.bind_success] at ran
    obtain ⟨middle,here,ran⟩ := ran
    obtain ⟨continuous,written⟩ := replayBounds_success _ _ _ here
    have stepped : parseRecord parsing record = .ok { parsing with
        state := middle.replayedState
        current := parsing.current ++ [record] } := by
      rw [parseRecord,turn_same parsing record (by rw [ordinals record (by simp)]; exact opened),Checked.ok_bind]
      refine Checked.pass _ _ _ (Checked.require_true _ _ (matrix ▸ continuous)) ?_
      rw [written,← matrix]
      rfl
    rw [List.foldlM_cons,stepped,Checked.ok_bind,ih { parsing with
      state := middle.replayedState
      current := parsing.current ++ [record] } opened (fun other member => ordinals other (by simp [member]))
      middle rfl ran]
    simp

/-- Opening a group does not change what its records do. -/
private theorem parse_opened (group : List PublicationTransition) (some : group ≠ []) (parsing opened : TraceParsing)
    (turned : ∀ record ∈ group, parsing.turn record = .ok opened)
    (stays : ∀ record ∈ group, opened.turn record = .ok opened) :
    group.foldlM parseRecord parsing = group.foldlM parseRecord opened := by
  cases group with
  | nil => exact absurd rfl some
  | cons record group =>
    rw [List.foldlM_cons,List.foldlM_cons,parseRecord,parseRecord,turned record (by simp),
      stays record (by simp)]

private theorem parse_next (positive : 0 < context.eventWindowSize) (before : List Accepted) (next : Accepted)
    (parsing : TraceParsing) (middle bounds : BoundReplay) (matrix : parsing.state = middle.replayedState)
    (turned : ∀ record, record.acceptedEventOrdinal = before.length → parsing.turn record =
      .ok ⟨loadedGroups context before,[],some before.length,parsing.state⟩)
    (ran : (context.groupOf before next).foldlM replayBounds middle = .ok bounds) :
    (context.groupOf before next).foldlM parseRecord parsing =
      .ok ⟨loadedGroups context before,context.groupOf before next,some before.length,bounds.replayedState⟩ := by
  have ordinals := @groupOf_ordinal context before next positive
  rw [parse_opened _ (groupOf_ne_nil before next) parsing
    ⟨loadedGroups context before,[],some before.length,parsing.state⟩
    (fun record member => turned record (ordinals record member).1)
    (fun record member => turn_same _ record (by rw [(ordinals record member).1]))]
  exact parse_group _ ⟨loadedGroups context before,[],some before.length,parsing.state⟩ before.length rfl
    (fun record member => (ordinals record member).1) middle bounds matrix ran

private theorem parse_stream (positive : 0 < context.eventWindowSize) (clock : context.acceptedEventsPerSecond = 128)
    (before : List Accepted) (next : Accepted) (bounds : BoundReplay)
    (ran : (context.recordsOf (before ++ [next])).foldlM replayBounds .initial = .ok bounds) :
    (context.recordsOf (before ++ [next])).foldlM parseRecord ⟨[],[],none,[]⟩ =
      .ok ⟨loadedGroups context before,context.groupOf before next,some before.length,bounds.replayedState⟩ := by
  induction before using List.reverseRecOn generalizing next bounds with
  | nil =>
    rw [TraceContext.recordsOf_append] at ran ⊢
    refine parse_next positive [] next ⟨[],[],none,[]⟩ .initial bounds rfl (fun record same => ?_) ran
    rw [TraceParsing.turn,same]
    rfl
  | append_singleton earlier last ih =>
    rw [TraceContext.recordsOf_append,List.foldlM_append,Checked.bind_success] at ran
    obtain ⟨middle,first,rest⟩ := ran
    rw [TraceContext.recordsOf_append,List.foldlM_append,ih last middle first,Checked.ok_bind]
    refine parse_next positive (earlier ++ [last]) next _ middle bounds rfl (fun record same => ?_) rest
    rw [TraceParsing.turn]
    dsimp only
    rw [same,if_pos (by simp),loadedGroups_length,validateGroup_groupOf earlier last positive clock,
      loadedGroups_append]
    rfl

/-! The lines. -/

/-- The manifest of a transform: its frozen columns are those of the mapping, reserved ones included. -/
structure TraceManifest.Binds (manifest : TraceManifest) (context : TraceContext) (mapping : TraceMapping) :
    Prop where
  datasetId : manifest.datasetId = context.datasetId
  datasetRelease : manifest.datasetRelease = context.datasetRelease
  semantics : manifest.semantics = context.semantics
  sourcePartition : manifest.sourcePartition = context.sourcePartitionId
  provenance : manifest.repositoryProvenanceSha256 = context.repositoryProvenanceSha256
  cols : manifest.cols = mapping.columnIds.length
  rowIds : manifest.rowIds = mapping.rowIds
  columnIds : manifest.columnIds = mapping.columnIds
  observed : manifest.observedColumnCount = mapping.observedColumnCount
  cap : manifest.coefficientCap = context.coefficientCap
  window : manifest.eventWindowSize = context.eventWindowSize

/-- What every parser of raw events gives: ordinals that count from zero, and texts that are not empty. -/
structure CanonicalRawEvent.Formed (event : CanonicalRawEvent) : Prop where
  timestamp : event.timestampUtc ≠ ""
  sourceFile : 0 ≤ event.sourceFileOrdinal
  withinFile : 0 ≤ event.withinFileOrdinal
  sourceId : event.canonicalSourceId ≠ ""
  eventType : event.sourceEventType ≠ ""

/-- An accepted event stands at its identities. -/
structure Accepted.Stands (mapping : TraceMapping) (accepted : Accepted) : Prop where
  row : mapping.rowIds[accepted.row]? = some accepted.source.2.canonicalSourceId
  column : mapping.columnIds[accepted.column]? = some accepted.source.2.canonicalTargetId
  observed : accepted.column < mapping.observedColumnCount

private theorem recordsOf_shape (positive : 0 < context.eventWindowSize) (accepted : List Accepted)
    (record : PublicationTransition) (member : record ∈ context.recordsOf accepted) :
    ∃ trigger ∈ accepted, ∃ subject ∈ accepted, ∃ ordinal cause transitionOrdinal before after,
      record = recordTransition context trigger.source subject.source ordinal subject.row subject.column cause
        transitionOrdinal (context.capped before) (context.capped after) := by
  induction accepted using List.reverseRecOn with
  | nil => cases member
  | append_singleton earlier next ih =>
    rw [TraceContext.recordsOf_append,List.mem_append] at member
    rcases member with old | new
    · obtain ⟨trigger,inTrigger,subject,inSubject,shape⟩ := ih old
      exact ⟨trigger,List.mem_append_left _ inTrigger,subject,List.mem_append_left _ inSubject,shape⟩
    rw [TraceContext.groupOf,List.mem_append,List.mem_singleton] at new
    have here : next ∈ earlier ++ [next] := by simp
    rcases new with expiry | admission
    · rcases @expiryOf_cases context earlier next positive with ⟨_,none⟩ | ⟨_,_,expired,rest,window,_,some⟩
      · rw [none] at expiry
        cases expiry
      · rw [some,List.mem_singleton] at expiry
        have inside : expired ∈ earlier := by
          have first : expired ∈ recent context.eventWindowSize earlier := by
            rw [window]
            exact List.mem_cons_self
          exact List.mem_of_mem_drop first
        exact ⟨next,here,expired,List.mem_append_left _ inside,_,_,_,_,_,expiry⟩
    · exact ⟨next,here,next,here,_,_,_,_,_,admission⟩

private theorem eventProvenance_ok (event : RawEvent) (formed : event.2.Formed) (field : String) :
    eventProvenance event.provenance field = .ok () := by
  refine Checked.pass _ _ _ (Checked.require_true _ _ (Int.natCast_nonneg _)) ?_
  refine Checked.pass _ _ _ (Checked.require_true _ _ formed.timestamp) ?_
  refine Checked.pass _ _ _ (Checked.require_true _ _ formed.sourceFile) ?_
  refine Checked.pass _ _ _ (Checked.require_true _ _ formed.withinFile) ?_
  exact Checked.require_true _ _ formed.eventType

private theorem transition_recorded {manifest : TraceManifest} {mapping : TraceMapping}
    (binds : manifest.Binds context mapping) (clock : context.acceptedEventsPerSecond = 128)
    {trigger subject : Accepted} (first : trigger.source.2.Formed) (second : subject.source.2.Formed)
    (stands : subject.Stands mapping) (lineNumber ordinal : ℕ) (cause : TransitionCause)
    (transitionOrdinal before after : ℕ) {record : PublicationTransition}
    (shape : record = recordTransition context trigger.source subject.source ordinal subject.row subject.column
      cause transitionOrdinal (context.capped before) (context.capped after)) :
    transition manifest lineNumber record = .ok record := by
  have row : subject.row < mapping.rowIds.length := (List.getElem?_eq_some_iff.mp stands.row).1
  have column : subject.column < mapping.columnIds.length := (List.getElem?_eq_some_iff.mp stands.column).1
  have capped (count : ℕ) : 0 ≤ context.capped count ∧ context.capped count ≤ context.coefficientCap := by
    rw [TraceContext.capped]
    omega
  subst shape
  refine Checked.pass _ _ _ (Checked.require_true _ _ rfl) ?_
  refine Checked.pass _ _ _ (Checked.require_true _ _ binds.datasetId.symm) ?_
  refine Checked.pass _ _ _ (Checked.require_true _ _ binds.datasetRelease.symm) ?_
  refine Checked.pass _ _ _ (Checked.require_true _ _ binds.semantics.symm) ?_
  refine Checked.pass _ _ _ (Checked.require_true _ _ binds.sourcePartition.symm) ?_
  refine Checked.pass _ _ _ (Checked.require_true _ _ binds.provenance.symm) ?_
  refine Checked.pass _ _ _ (Checked.require_true _ _ (binds.rowIds ▸ row)) ?_
  refine Checked.pass _ _ _ (Checked.require_true _ _ (binds.cols ▸ column)) ?_
  refine Checked.pass _ _ _ (Checked.require_true _ _ (capped before).1) ?_
  refine Checked.pass _ _ _ (Checked.require_true _ _ (capped after).1) ?_
  refine Checked.pass _ _ _ (Checked.require_true _ _ ?_) ?_
  · rw [binds.cap]
    exact max_le (capped before).2 (capped after).2
  refine Checked.pass _ _ _ (Checked.require_true _ _ rfl) ?_
  refine Checked.pass _ _ _ (eventProvenance_ok _ first _) ?_
  refine Checked.pass _ _ _ (eventProvenance_ok _ second _) ?_
  refine Checked.pass _ _ _ (Checked.require_true _ _ ?_) rfl
  show (1 : ℤ) ≤ (context.acceptedEventsPerSecond : ℕ)
  omega

/-- Where every line passes its checks, the loop only groups the records. -/
private theorem parse_lines (manifest : TraceManifest) (records : List PublicationTransition)
    (passes : ∀ record ∈ records, ∀ lineNumber, transition manifest lineNumber record = .ok record)
    (start : ℕ) (parsing : TraceParsing) :
    (records.zipIdx start).foldlM (parseLine manifest) parsing = records.foldlM parseRecord parsing := by
  induction records generalizing start parsing with
  | nil => rfl
  | cons record records ih =>
    rw [List.zipIdx_cons,List.foldlM_cons,List.foldlM_cons,parseLine,passes record (by simp),Checked.ok_bind]
    congr 1
    funext next
    exact ih (fun other member => passes other (by simp [member])) (start + 1) next

theorem parseTrace_stream {manifest : TraceManifest} {mapping : TraceMapping}
    (binds : manifest.Binds context mapping) (positive : 0 < context.eventWindowSize)
    (clock : context.acceptedEventsPerSecond = 128) (accepted : List Accepted) (some : accepted ≠ [])
    (stands : ∀ item ∈ accepted, item.Stands mapping) (formed : ∀ item ∈ accepted, item.source.2.Formed)
    (bounds : BoundReplay) (ran : (context.recordsOf accepted).foldlM replayBounds .initial = .ok bounds) :
    parseTrace manifest (context.recordsOf accepted) = .ok (loadedGroups context accepted) := by
  have passes : ∀ record ∈ context.recordsOf accepted, ∀ lineNumber,
      transition manifest lineNumber record = .ok record := by
    intro record member lineNumber
    obtain ⟨trigger,inTrigger,subject,inSubject,ordinal,cause,transitionOrdinal,before,after,shape⟩ :=
      recordsOf_shape positive accepted record member
    exact transition_recorded binds clock (formed trigger inTrigger) (formed subject inSubject)
      (stands subject inSubject) lineNumber ordinal cause transitionOrdinal before after shape
  obtain ⟨before,next,rfl⟩ : ∃ before next, accepted = before ++ [next] :=
    ⟨_,_,(List.dropLast_append_getLast some).symm⟩
  have records : context.recordsOf (before ++ [next]) ≠ [] := by
    simp [TraceContext.recordsOf_append,groupOf_ne_nil]
  refine Checked.pass _ _ _ (Checked.require_true _ _ records) ?_
  rw [parse_lines manifest _ passes,parse_stream positive clock before next bounds ran,Checked.ok_bind]
  dsimp only
  rw [loadedGroups_length,validateGroup_groupOf before next positive clock,loadedGroups_append]
  rfl

/-! The replay of the raw counts. -/

/-- One accepted event comes behind another. -/
def Accepted.Follows (earlier later : Accepted) : Prop :=
  earlier.source.provenance.key < later.source.provenance.key ∧
    earlier.source.provenance.canonicalRawEventOrdinal < later.source.provenance.canonicalRawEventOrdinal

def Accepted.fifoEntry (accepted : Accepted) : FifoEntry :=
  (accepted.source.provenance,accepted.row,accepted.column)

/-- The loader's tables behind some groups. -/
structure Replayed (context : TraceContext) (before : List Accepted) (replay : SemanticsReplay) : Prop where
  counts : ∀ cell, Netting.read replay.rawCounts cell = admissions cell (context.held before)
  fifo : context.semantics = .t2 →
    replay.fifo = (recent context.eventWindowSize before).map Accepted.fifoEntry
  text : replay.acceptedText = acceptedText before
  types : replay.sourceEventTypeCounts = typeCounts before
  previous : replay.previous = before.getLast?.map fun last => last.source.provenance

theorem Replayed.initial (context : TraceContext) : Replayed context [] .initial := by
  have none : context.held [] = [] := by
    unfold TraceContext.held
    cases context.semantics <;> simp
  refine ⟨fun cell => ?_,fun _ => by rw [recent_nil]; rfl,rfl,rfl,rfl⟩
  rw [none]
  rfl

private theorem replayRecord_ok (items next : List Accepted) (record : PublicationTransition) (delta : ℤ)
    (replay : SemanticsReplay)
    (counts : ∀ cell, Netting.read replay.rawCounts cell = admissions cell items)
    (moves : ∀ cell, (admissions cell next : ℤ) =
      admissions cell items + if cell = record.cell then delta else 0)
    (before : record.before = context.capped (admissions record.cell items))
    (after : record.after = context.capped (admissions record.cell next)) :
    ∃ table, replayRecord context.coefficientCap record delta replay = .ok { replay with rawCounts := table } ∧
      ∀ cell, Netting.read table cell = admissions cell next := by
  have here := moves record.cell
  rw [if_pos rfl] at here
  have raw : Netting.read replay.rawCounts record.cell + delta = admissions record.cell next := by
    rw [counts,here]
  refine ⟨_,Checked.pass _ _ _ (Checked.require_true _ _ (by rw [raw]; omega)) (Checked.pass _ _ _
    (Checked.require_true _ _ ⟨?_,?_⟩) rfl),fun cell => ?_⟩
  · rw [before,counts,TraceContext.capped]
  · rw [after,raw,TraceContext.capped]
  · rw [Netting.read_write,Function.update_apply,raw,moves cell]
    split
    · rename_i same
      rw [same,here]
    · rw [counts,add_zero]

variable {manifest : TraceManifest} {mapping : TraceMapping}

private theorem replayExpiry_ok (positive : 0 < context.eventWindowSize) (binds : manifest.Binds context mapping)
    (windowed : context.semantics = .t2) (before : List Accepted) (next : Accepted)
    (stands : ∀ item ∈ before, item.Stands mapping) (replay : SemanticsReplay)
    (counts : ∀ cell, Netting.read replay.rawCounts cell = admissions cell (context.held before))
    (fifo : replay.fifo = (recent context.eventWindowSize before).map Accepted.fifoEntry) :
    ∃ table, replayExpiry manifest (loadedGroup before.length (context.groupOf before next)) replay =
        .ok { replay with rawCounts := table, fifo := (context.survivors before).map Accepted.fifoEntry } ∧
      ∀ cell, Netting.read table cell = admissions cell (context.survivors before) := by
  have held : context.held before = recent context.eventWindowSize before := by
    rw [TraceContext.held,windowed]
  unfold replayExpiry
  rcases @expiryOf_cases context before next positive with
    ⟨short,none⟩ | ⟨_,full,expired,rest,split,survivors,some⟩
  · have below : before.length < context.eventWindowSize := by
      by_contra other
      exact short ⟨windowed,by omega⟩
    have survivors : context.survivors before = recent context.eventWindowSize before := by
      rw [TraceContext.survivors,windowed]
      dsimp only
      rw [if_neg (by omega),recent,Nat.sub_eq_zero_of_le (by omega),List.drop_zero]
    rw [if_pos (by rw [binds.window]; exact below)]
    refine ⟨replay.rawCounts,Checked.pass _ _ _ (Checked.require_true _ _ ?_) ?_,?_⟩
    · simp [loadedGroup,TraceContext.groupOf,none]
    · rw [survivors,← fifo]
      rfl
    · rw [survivors,← held]
      exact counts
  · rw [if_neg (by rw [binds.window]; exact Nat.not_lt.mpr full)]
    have inside : expired ∈ before := by
      have member : expired ∈ recent context.eventWindowSize before := by rw [split]; exact List.mem_cons_self
      exact List.mem_of_mem_drop member
    have transitions : (loadedGroup before.length (context.groupOf before next)).transitions =
        [recordTransition context next.source expired.source before.length expired.row expired.column .expiry 0
          (context.capped (admissions expired.cell (expired :: rest)))
          (context.capped (admissions expired.cell rest)),context.admissionOf before next] := by
      rw [loadedGroup,TraceContext.groupOf,some,List.singleton_append]
    rw [transitions,fifo,split,survivors,List.map_cons]
    obtain ⟨table,ran,left⟩ := @replayRecord_ok context (expired :: rest) rest
      (recordTransition context next.source expired.source before.length expired.row expired.column .expiry 0
          (context.capped (admissions expired.cell (expired :: rest)))
          (context.capped (admissions expired.cell rest))) (-1)
      { replay with fifo := rest.map Accepted.fifoEntry } (by rw [← split,← held]; exact counts)
      (fun cell => admissions_leave cell expired rest) rfl rfl
    refine ⟨table,Checked.pass _ _ _ (Checked.require_true _ _ rfl) ?_,left⟩
    refine Checked.pass _ _ _ (Checked.require_true _ _ rfl) ?_
    refine Checked.pass _ _ _ (Checked.require_true _ _ ⟨rfl,rfl⟩) ?_
    refine Checked.pass _ _ _ (Checked.require_true _ _ ?_) ?_
    · rw [binds.observed]
      exact Nat.not_le.mpr (stands expired inside).observed
    · rw [binds.cap]
      exact ran

theorem Replayed.step (positive : 0 < context.eventWindowSize) (binds : manifest.Binds context mapping)
    {before : List Accepted} {replay : SemanticsReplay} (replayed : Replayed context before replay)
    (next : Accepted) (stands : ∀ item ∈ before ++ [next], item.Stands mapping)
    (follows : ∀ last ∈ before.getLast?, last.Follows next) :
    ∃ after, replayGroup manifest replay (loadedGroup before.length (context.groupOf before next)) = .ok after ∧
      Replayed context (before ++ [next]) after := by
  have here := stands next (by simp)
  have earlier : ∀ item ∈ before, item.Stands mapping := fun item member => stands item (by simp [member])
  have last : (loadedGroup before.length (context.groupOf before next)).transitions.getLast? =
      some (context.admissionOf before next) := by
    rw [loadedGroup,TraceContext.groupOf,List.getLast?_concat]
  have previous : ∀ event ∈ replay.previous, event.key < next.source.provenance.key ∧
      event.canonicalRawEventOrdinal < next.source.provenance.canonicalRawEventOrdinal := by
    intro event member
    rw [replayed.previous] at member
    obtain ⟨item,found,rfl⟩ := Option.mem_map.mp member
    exact follows item found
  let fifo := if context.semantics = .t2 then (context.survivors before).map Accepted.fifoEntry else replay.fifo
  have expires : ∃ table, expireFifo manifest (loadedGroup before.length (context.groupOf before next))
      { replay with previous := some next.source.provenance } =
        .ok { replay with rawCounts := table, fifo := fifo, previous := some next.source.provenance } ∧
      ∀ cell, Netting.read table cell = admissions cell (context.survivors before) := by
    rw [expireFifo,binds.semantics]
    by_cases windowed : context.semantics = .t2
    · rw [if_pos windowed,show fifo = (context.survivors before).map Accepted.fifoEntry from if_pos windowed]
      exact replayExpiry_ok positive binds windowed before next earlier _ replayed.counts (replayed.fifo windowed)
    · rw [if_neg windowed,show fifo = replay.fifo from if_neg windowed]
      refine ⟨replay.rawCounts,rfl,?_⟩
      have plain : context.semantics = .t1 := by
        cases named : context.semantics with
        | t1 => rfl
        | t2 => exact absurd named windowed
      have same : context.held before = context.survivors before := by
        rw [TraceContext.held,TraceContext.survivors,plain]
      rw [← same]
      exact replayed.counts
  obtain ⟨table,ran,counts⟩ := expires
  obtain ⟨admitted,admits,after⟩ := @replayRecord_ok context (context.survivors before)
    (context.survivors before ++ [next]) (context.admissionOf before next) 1
    { replay with rawCounts := table, fifo := fifo, previous := some next.source.provenance } counts
    (fun cell => admissions_enter cell _ next) rfl rfl
  have enters : enterFifo manifest (context.admissionOf before next)
      { replay with rawCounts := admitted, fifo := fifo, previous := some next.source.provenance } =
        .ok { replay with
          rawCounts := admitted
          fifo := if context.semantics = .t2 then fifo ++ [next.fifoEntry] else fifo
          previous := some next.source.provenance } := by
    rw [enterFifo,binds.semantics]
    by_cases windowed : context.semantics = .t2
    · rw [if_pos windowed,if_pos windowed]
      refine Checked.pass _ _ _ (Checked.require_true _ _ ?_) rfl
      have grown : (context.survivors before ++ [next]).length ≤ context.eventWindowSize := by
        rw [← context.held_append before next positive,TraceContext.held,windowed]
        dsimp only
        rw [recent_length]
        exact min_le_right _ _
      rw [binds.window,show fifo = (context.survivors before).map Accepted.fifoEntry from if_pos windowed]
      simp only [List.length_append,List.length_map,List.length_singleton] at grown ⊢
      omega
    · rw [if_neg windowed,if_neg windowed]
  have source : idAt manifest.rowIds (context.admissionOf before next).rowIndex =
      .ok next.source.2.canonicalSourceId := by
    rw [idAt,binds.rowIds,show (context.admissionOf before next).rowIndex = next.row from rfl,here.row]
  have target : idAt manifest.columnIds (context.admissionOf before next).columnIndex =
      .ok next.source.2.canonicalTargetId := by
    rw [idAt,binds.columnIds,show (context.admissionOf before next).columnIndex = next.column from rfl,here.column]
  refine ⟨{
    rawCounts := admitted
    fifo := if context.semantics = .t2 then fifo ++ [next.fifoEntry] else fifo
    acceptedText := replay.acceptedText ++ next.line
    sourceEventTypeCounts := bump next.source.2.sourceEventType 1 replay.sourceEventTypeCounts
    previous := some next.source.provenance },?_,?_⟩
  · unfold replayGroup
    rw [last]
    refine Checked.pass _ _ _ (Checked.require_true _ _ fun event member => (previous event member).1) ?_
    refine Checked.pass _ _ _ (Checked.require_true _ _ fun event member => (previous event member).2) ?_
    refine Checked.pass _ _ _ (Checked.require_true _ _ ?_) ?_
    · rw [binds.observed]
      exact Nat.not_le.mpr here.observed
    refine (Checked.bind_success _ _ _).mpr ⟨_,ran,(Checked.bind_success _ _ _).mpr ⟨_,binds.cap ▸ admits,?_⟩⟩
    refine (Checked.bind_success _ _ _).mpr ⟨_,enters,(Checked.bind_success _ _ _).mpr ⟨_,source,?_⟩⟩
    exact (Checked.bind_success _ _ _).mpr ⟨_,target,rfl⟩
  · refine ⟨?_,?_,?_,?_,?_⟩
    · rw [context.held_append before next positive]
      exact after
    · intro windowed
      dsimp only
      rw [if_pos windowed,show fifo = (context.survivors before).map Accepted.fifoEntry from if_pos windowed]
      have held := context.held_append before next positive
      rw [TraceContext.held,windowed] at held
      dsimp only at held
      rw [held,List.map_append]
      rfl
    · rw [replayed.text,acceptedText,acceptedText,List.foldl_append]
      rfl
    · rw [replayed.types,typeCounts,typeCounts,List.foldl_append]
      rfl
    · rw [List.getLast?_concat]
      rfl

theorem replay_stream (positive : 0 < context.eventWindowSize) (binds : manifest.Binds context mapping)
    (accepted : List Accepted) (stands : ∀ item ∈ accepted, item.Stands mapping)
    (chronological : accepted.Pairwise Accepted.Follows) :
    ∃ replay, (loadedGroups context accepted).foldlM (replayGroup manifest) .initial = .ok replay ∧
      Replayed context accepted replay := by
  induction accepted using List.reverseRecOn with
  | nil => exact ⟨_,rfl,Replayed.initial context⟩
  | append_singleton before next ih =>
    rw [List.pairwise_append] at chronological
    obtain ⟨replay,ran,replayed⟩ := ih (fun item member => stands item (by simp [member])) chronological.1
    obtain ⟨after,stepped,grown⟩ := replayed.step positive binds next stands fun last member =>
      chronological.2.2 last (List.mem_of_getLast? member) next (by simp)
    refine ⟨after,?_,grown⟩
    rw [loadedGroups_append,List.foldlM_append,ran,Checked.ok_bind,List.foldlM_cons,stepped]
    rfl

end DynamicCssc
