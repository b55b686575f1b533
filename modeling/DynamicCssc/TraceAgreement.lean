import DynamicCssc.TraceLoader

/-! What the transform emits for a stream of accepted events, in closed form: the capped number of
admissions of a cell among those that are held. -/
namespace DynamicCssc
open Foundation Foundation.SlidingWindow

namespace TraceContext
variable (context : TraceContext)

/-- The admissions that count: all of them, or the last `event_window_size`. -/
def held (accepted : List Accepted) : List Accepted :=
  match context.semantics with
  | .t1 => accepted
  | .t2 => recent context.eventWindowSize accepted

def survivors (before : List Accepted) : List Accepted :=
  match context.semantics with
  | .t1 => before
  | .t2 => if context.eventWindowSize ≤ before.length then (recent context.eventWindowSize before).tail
    else before

def capped (count : ℕ) : ℤ := min (context.coefficientCap : ℤ) count

end TraceContext

def admissions (cell : Cell) (items : List Accepted) : ℕ := items.countP fun item => item.cell = cell

private theorem admissions_append (cell : Cell) (items : List Accepted) (next : Accepted) :
    admissions cell (items ++ [next]) = admissions cell items + if next.cell = cell then 1 else 0 := by
  simp [admissions,List.countP_append,List.countP_singleton]

private theorem admissions_cons (cell : Cell) (first : Accepted) (rest : List Accepted) :
    admissions cell (first :: rest) = admissions cell rest + if first.cell = cell then 1 else 0 := by
  simp [admissions,List.countP_cons]

theorem admissions_enter (cell : Cell) (items : List Accepted) (next : Accepted) :
    (admissions cell (items ++ [next]) : ℤ) = admissions cell items + if cell = next.cell then 1 else 0 := by
  rw [admissions_append]
  by_cases here : cell = next.cell
  · simp [here]
  · simp [here,Ne.symm here]

theorem admissions_leave (cell : Cell) (first : Accepted) (rest : List Accepted) :
    (admissions cell rest : ℤ) = admissions cell (first :: rest) + if cell = first.cell then -1 else 0 := by
  rw [admissions_cons]
  by_cases here : cell = first.cell
  · simp [here]
  · simp [here,Ne.symm here]

namespace TraceContext
variable (context : TraceContext)

theorem held_append (before : List Accepted) (next : Accepted) (positive : 0 < context.eventWindowSize) :
    context.held (before ++ [next]) = context.survivors before ++ [next] := by
  unfold held survivors
  cases context.semantics with
  | t1 => rfl
  | t2 =>
    dsimp only
    split
    · rename_i full
      obtain ⟨first,rest,window,next⟩ := recent_append_full context.eventWindowSize before next positive full
      rw [next,window]
      rfl
    · rename_i short
      rw [recent_append_short _ _ _ (by omega),recent,Nat.sub_eq_zero_of_le (by omega),List.drop_zero]

def expiryOf (before : List Accepted) (next : Accepted) : List PublicationTransition :=
  if context.semantics = .t2 ∧ context.eventWindowSize ≤ before.length then
    match recent context.eventWindowSize before with
    | [] => []
    | expired :: rest => [recordTransition context next.source expired.source before.length expired.row
      expired.column .expiry 0 (context.capped (admissions expired.cell (expired :: rest)))
      (context.capped (admissions expired.cell rest))]
  else []

def admissionOf (before : List Accepted) (next : Accepted) : PublicationTransition :=
  recordTransition context next.source next.source before.length next.row next.column .admission
    (if context.semantics = .t2 then 1 else 0)
    (context.capped (admissions next.cell (context.survivors before)))
    (context.capped (admissions next.cell (context.survivors before ++ [next])))

def groupOf (before : List Accepted) (next : Accepted) : List PublicationTransition :=
  context.expiryOf before next ++ [context.admissionOf before next]

def groupsFrom (before : List Accepted) : List Accepted → List (List PublicationTransition)
  | [] => []
  | next :: rest => context.groupOf before next :: groupsFrom (before ++ [next]) rest

theorem groupsFrom_append (before left right : List Accepted) :
    context.groupsFrom before (left ++ right) =
      context.groupsFrom before left ++ context.groupsFrom (before ++ left) right := by
  induction left generalizing before with
  | nil => simp [groupsFrom]
  | cons next left ih => rw [List.cons_append,groupsFrom,ih,groupsFrom,List.append_assoc,List.singleton_append,
      List.cons_append]

def recordsOf (accepted : List Accepted) : List PublicationTransition :=
  (context.groupsFrom [] accepted).flatten

theorem recordsOf_append (before : List Accepted) (next : Accepted) :
    context.recordsOf (before ++ [next]) = context.recordsOf before ++ context.groupOf before next := by
  rw [recordsOf,groupsFrom_append,List.flatten_append,List.nil_append]
  simp [recordsOf,groupsFrom]

end TraceContext

/-! The producer. -/

/-- The producer's tables behind some records, with the loader's bound replay of the same records. -/
structure Tracks (context : TraceContext) (items : List Accepted) (records : List PublicationTransition)
    (state : TransformState) (bounds : BoundReplay) : Prop where
  counts : ∀ cell, Netting.read state.rawCounts cell = admissions cell items
  emitted : state.records = records
  operations : ∀ operation, (state.operationCounts.lookup operation).getD 0 =
    ((records.countP fun record => record.operation = operation : ℕ) : ℤ)
  replay : records.foldlM replayBounds .initial = .ok bounds
  active : bounds.activeByRow = state.activeNonzerosByRow
  peak : bounds.peakRowNonzeros = state.peakRowNonzeros
  matrix : ∀ cell, Netting.read bounds.replayedState cell = context.capped (admissions cell items)

/-- What `apply` leaves alone. -/
structure SameStream (left right : TransformState) : Prop where
  acceptedText : right.acceptedText = left.acceptedText
  typeCounts : right.sourceEventTypeCounts = left.sourceEventTypeCounts
  window : right.eventWindow = left.eventWindow
  count : right.acceptedEventCount = left.acceptedEventCount

private theorem bump_lookup {κ : Type} [DecidableEq κ] (key other : κ) (delta : ℤ) (table : List (κ × ℤ)) :
    ((bump key delta table).lookup other).getD 0 =
      (table.lookup other).getD 0 + if other = key then delta else 0 := by
  rw [bump,Dict.lookup_set]
  by_cases same : other = key
  · simp [same]
  · simp [same]

variable {context : TraceContext}

/-- One transition of the producer, and the loader's replay of its record. -/
theorem Tracks.apply {items : List Accepted} (next : List Accepted) {records : List PublicationTransition}
    {state : TransformState} {bounds : BoundReplay} (tracks : Tracks context items records state bounds)
    (trigger : RawEvent) (subject : Accepted) (ordinal : ℕ) (cause : TransitionCause) (transitionOrdinal : ℕ)
    (delta : ℤ) (moves : ∀ cell, (admissions cell next : ℤ) =
      admissions cell items + if cell = subject.cell then delta else 0) :
    ∃ after bounds, applyTransition context trigger subject ordinal cause transitionOrdinal delta state =
        .ok after ∧
      Tracks context next (records ++ [recordTransition context trigger subject.source ordinal subject.row
        subject.column cause transitionOrdinal (context.capped (admissions subject.cell items))
        (context.capped (admissions subject.cell next))]) after bounds ∧ SameStream state after := by
  have here := moves subject.cell
  rw [if_pos rfl] at here
  have raw : Netting.read state.rawCounts subject.cell + delta = admissions subject.cell next := by
    rw [tracks.counts,here]
  have before : min (context.coefficientCap : ℤ) (Netting.read state.rawCounts subject.cell) =
      context.capped (admissions subject.cell items) := by rw [tracks.counts,TraceContext.capped]
  have after : min (context.coefficientCap : ℤ) (Netting.read state.rawCounts subject.cell + delta) =
      context.capped (admissions subject.cell next) := by rw [raw,TraceContext.capped]
  generalize made : recordTransition context trigger subject.source ordinal subject.row subject.column cause
    transitionOrdinal (context.capped (admissions subject.cell items))
    (context.capped (admissions subject.cell next)) = record
  have recordBefore : record.before = context.capped (admissions subject.cell items) := by rw [← made]; rfl
  have recordAfter : record.after = context.capped (admissions subject.cell next) := by rw [← made]; rfl
  have recordCell : record.cell = subject.cell := by rw [← made]; rfl
  have recordRow : record.rowIndex = subject.row := by rw [← made]; rfl
  have continuous : Netting.read bounds.replayedState record.cell = record.before := by
    rw [tracks.matrix,recordCell,recordBefore]
  let active :=
    if record.before = 0 ∧ 0 < record.after then bump record.rowIndex 1 bounds.activeByRow
    else if 0 < record.before ∧ record.after = 0 then bump record.rowIndex (-1) bounds.activeByRow
    else bounds.activeByRow
  have replayed : replayBounds bounds record = .ok ⟨Netting.write record.cell record.after bounds.replayedState,
      active,max bounds.coefficientMax record.after,
      max bounds.peakRowNonzeros ((active.lookup record.rowIndex).getD 0)⟩ :=
    Checked.pass _ _ _ (Checked.require_true _ _ continuous) rfl
  refine ⟨_,⟨Netting.write record.cell record.after bounds.replayedState,active,
    max bounds.coefficientMax record.after,max bounds.peakRowNonzeros ((active.lookup record.rowIndex).getD 0)⟩,
    Checked.pass _ _ _ (Checked.require_true _ _ (by rw [raw]; omega)) rfl,⟨?_,?_,?_,?_,?_,?_,?_⟩,
    ⟨rfl,rfl,rfl,rfl⟩⟩
  · intro cell
    dsimp only
    rw [Netting.read_write,Function.update_apply,raw,moves cell]
    split
    · rename_i same
      rw [same,here]
    · rw [tracks.counts,add_zero]
  · dsimp only
    rw [before,after,made,tracks.emitted]
  · intro operation
    dsimp only
    rw [before,after,made,bump_lookup,tracks.operations,List.countP_append,List.countP_singleton]
    by_cases same : operation = record.operation
    · simp [same]
    · simp [same,Ne.symm same]
  · rw [List.foldlM_append,tracks.replay,Checked.ok_bind,List.foldlM_cons,replayed]
    rfl
  · dsimp only [active]
    rw [before,after,← recordBefore,← recordAfter,recordRow,tracks.active]
  · dsimp only [active]
    rw [before,after,← recordBefore,← recordAfter,recordRow,tracks.active,tracks.peak]
  · intro cell
    dsimp only
    rw [Netting.read_write,Function.update_apply,recordCell,recordAfter,tracks.matrix]
    split
    · rename_i same
      rw [same]
    · rename_i other
      have still := moves cell
      rw [if_neg other,add_zero,Nat.cast_inj] at still
      rw [still]

theorem Tracks.congr {items : List Accepted} {records : List PublicationTransition}
    {left right : TransformState} {bounds : BoundReplay} (tracks : Tracks context items records left bounds)
    (counts : right.rawCounts = left.rawCounts) (emitted : right.records = left.records)
    (operations : right.operationCounts = left.operationCounts)
    (active : right.activeNonzerosByRow = left.activeNonzerosByRow)
    (peak : right.peakRowNonzeros = left.peakRowNonzeros) : Tracks context items records right bounds :=
  ⟨counts ▸ tracks.counts,emitted ▸ tracks.emitted,operations ▸ tracks.operations,tracks.replay,
    active ▸ tracks.active,peak ▸ tracks.peak,tracks.matrix⟩

def Accepted.line (accepted : Accepted) : String :=
  let event := accepted.source.2
  canonicalLine (rawEventPayload event.timestampUtc event.sourceFileOrdinal event.withinFileOrdinal
    event.canonicalSourceId event.canonicalTargetId event.sourceEventType)

def acceptedText (accepted : List Accepted) : String :=
  accepted.foldl (fun text item => text ++ item.line) ""

def typeCounts (accepted : List Accepted) : List (String × ℤ) :=
  accepted.foldl (fun table item => bump item.source.2.sourceEventType 1 table) []

/-- The producer behind some accepted events. -/
structure Produced (context : TraceContext) (before : List Accepted) (state : TransformState) : Prop where
  tracks : ∃ bounds, Tracks context (context.held before) (context.recordsOf before) state bounds
  window : context.semantics = .t2 → state.eventWindow = recent context.eventWindowSize before
  count : state.acceptedEventCount = before.length
  text : state.acceptedText = acceptedText before
  types : state.sourceEventTypeCounts = typeCounts before

theorem Produced.initial (context : TraceContext) : Produced context [] .initial := by
  have none : context.held [] = [] := by
    unfold TraceContext.held
    cases context.semantics <;> simp
  refine ⟨⟨.initial,?_⟩,fun _ => by rw [recent_nil]; rfl,rfl,rfl,rfl⟩
  rw [none]
  refine ⟨fun _ => rfl,rfl,fun _ => rfl,rfl,rfl,rfl,fun cell => ?_⟩
  simp [TraceContext.capped,admissions,Netting.read,BoundReplay.initial]

private theorem Tracks.expire {before : List Accepted} {records : List PublicationTransition} {state : TransformState}
    {bounds : BoundReplay} (positive : 0 < context.eventWindowSize)
    (tracks : Tracks context (context.held before) records state bounds)
    (window : context.semantics = .t2 → state.eventWindow = recent context.eventWindowSize before)
    (next : Accepted) :
    ∃ after bounds, expireOldest context next.source before.length state = .ok after ∧
      Tracks context (context.survivors before) (records ++ context.expiryOf before next) after bounds ∧
      (context.semantics = .t2 → after.eventWindow = context.survivors before) ∧
      after.acceptedText = state.acceptedText ∧ after.sourceEventTypeCounts = state.sourceEventTypeCounts ∧
      after.acceptedEventCount = state.acceptedEventCount := by
  unfold expireOldest TraceContext.expiryOf
  by_cases windowed : context.semantics = .t2
  · have held : context.held before = recent context.eventWindowSize before := by
      rw [TraceContext.held,windowed]
    have length := recent_length context.eventWindowSize before
    rw [window windowed]
    by_cases full : context.eventWindowSize ≤ before.length
    · obtain ⟨first,rest,split,_⟩ := recent_append_full context.eventWindowSize before next positive full
      have survivors : context.survivors before = rest := by
        rw [TraceContext.survivors,windowed]
        dsimp only
        rw [if_pos full,split,List.tail_cons]
      rw [if_pos ⟨windowed,by omega⟩,if_pos ⟨windowed,full⟩,split,survivors]
      dsimp only
      have kept : Tracks context (first :: rest) records { state with eventWindow := rest } bounds := by
        rw [← split,← held]
        exact tracks.congr rfl rfl rfl rfl rfl
      obtain ⟨after,bounds,ran,tracked,same⟩ := kept.apply rest next.source first before.length .expiry
        0 (-1) fun cell => admissions_leave cell first rest
      exact ⟨after,bounds,ran,tracked,fun _ => same.window,same.acceptedText,same.typeCounts,same.count⟩
    · have survivors : context.survivors before = recent context.eventWindowSize before := by
        rw [TraceContext.survivors,windowed]
        dsimp only
        rw [if_neg full,recent,Nat.sub_eq_zero_of_le (by omega),List.drop_zero]
      rw [if_neg (by omega),if_neg (by omega),survivors,← held,List.append_nil]
      exact ⟨state,bounds,rfl,tracks,fun _ => held ▸ window windowed,rfl,rfl,rfl⟩
  · have plain : context.semantics = .t1 := by
      cases named : context.semantics with
      | t1 => rfl
      | t2 => exact absurd named windowed
    have held : context.held before = context.survivors before := by
      rw [TraceContext.held,TraceContext.survivors,plain]
    rw [if_neg fun both => windowed both.1,if_neg fun both => windowed both.1,List.append_nil,← held]
    exact ⟨state,bounds,rfl,tracks,fun other => absurd other windowed,rfl,rfl,rfl⟩

theorem Produced.accept {before : List Accepted} {state : TransformState}
    (positive : 0 < context.eventWindowSize) (produced : Produced context before state) (next : Accepted) :
    ∃ after, acceptEvent context next state = .ok after ∧ Produced context (before ++ [next]) after := by
  obtain ⟨bounds,tracks⟩ := produced.tracks
  let counted := { state with
    acceptedEventCount := state.acceptedEventCount + 1
    acceptedText := state.acceptedText ++ next.line
    sourceEventTypeCounts := bump next.source.2.sourceEventType 1 state.sourceEventTypeCounts }
  have kept : Tracks context (context.held before) (context.recordsOf before) counted bounds :=
    tracks.congr rfl rfl rfl rfl rfl
  obtain ⟨expired,bounds,expires,tracks,window,text,types,count⟩ := kept.expire positive produced.window next
  obtain ⟨admitted,bounds,admits,tracks,same⟩ := tracks.apply (context.survivors before ++ [next]) next.source
    next before.length .admission (if context.semantics = .t2 then 1 else 0) 1 fun cell => admissions_enter cell _ next
  have records : context.recordsOf (before ++ [next]) = context.recordsOf before ++
      context.expiryOf before next ++ [context.admissionOf before next] := by
    rw [TraceContext.recordsOf_append,TraceContext.groupOf,List.append_assoc]
  have total : admitted.acceptedEventCount = (before ++ [next]).length := by
    rw [same.count,count,List.length_append,List.length_singleton,← produced.count]
  have allText : admitted.acceptedText = acceptedText (before ++ [next]) := by
    rw [same.acceptedText,text,acceptedText,List.foldl_append]
    change state.acceptedText ++ next.line = _
    rw [produced.text]
    rfl
  have allTypes : admitted.sourceEventTypeCounts = typeCounts (before ++ [next]) := by
    rw [same.typeCounts,types,typeCounts,List.foldl_append]
    change bump next.source.2.sourceEventType 1 state.sourceEventTypeCounts = _
    rw [produced.types]
    rfl
  have whole : Tracks context (context.held (before ++ [next])) (context.recordsOf (before ++ [next])) admitted
      bounds := by
    rw [context.held_append before next positive,records]
    exact tracks
  have held : context.semantics = .t2 → recent context.eventWindowSize (before ++ [next]) =
      context.survivors before ++ [next] := by
    intro windowed
    rw [← context.held_append before next positive,TraceContext.held,windowed]
  have run : (if context.semantics = .t2 then (.ok { admitted with
        eventWindow := admitted.eventWindow ++ [next]
        eventWindowPeakGroups := max admitted.eventWindowPeakGroups (admitted.eventWindow ++ [next]).length } :
        Checked TransformState) else .ok admitted) = acceptEvent context next state := by
    rw [← produced.count] at expires admits
    unfold acceptEvent
    change _ = expireOldest context next.source state.acceptedEventCount counted >>= _
    rw [expires,Checked.ok_bind,admits,Checked.ok_bind]
    rfl
  rw [← run]
  by_cases windowed : context.semantics = .t2
  · rw [if_pos windowed]
    refine ⟨_,rfl,⟨⟨bounds,whole.congr rfl rfl rfl rfl rfl⟩,fun _ => ?_,total,allText,allTypes⟩⟩
    dsimp only
    rw [same.window,window windowed,held windowed]
  · rw [if_neg windowed]
    exact ⟨admitted,rfl,⟨⟨bounds,whole⟩,fun other => absurd other windowed,total,allText,allTypes⟩⟩

/-! The events that are accepted. -/

def selectedEvent (sha : Sha256) (context : TraceContext) (mapping : TraceMapping) (source : RawEvent) :
    Option Accepted :=
  if digestNumber (sha.hexdigest (context.datasetRelease ++ source.2.canonicalSourceId)) % 5 =
      context.sourcePartitionId then
    (mapping.rowIndex.lookup source.2.canonicalSourceId).bind fun row =>
      (mapping.columnIndex.lookup source.2.canonicalTargetId).map fun column => ⟨source,row,column⟩
  else none

def acceptedEvents (sha : Sha256) (context : TraceContext) (mapping : TraceMapping) (limit : Option ℕ)
    (sources : List RawEvent) : List Accepted :=
  let selected := sources.filterMap (selectedEvent sha context mapping)
  match limit with
  | none => selected
  | some count => selected.take count

variable {sha : Sha256} {mapping : TraceMapping} {limit : Option ℕ}

private theorem acceptedEvents_skip (sources : List RawEvent) (source : RawEvent)
    (skipped : selectedEvent sha context mapping source = none ∨
      limit = some (acceptedEvents sha context mapping limit sources).length) :
    acceptedEvents sha context mapping limit (sources ++ [source]) =
      acceptedEvents sha context mapping limit sources := by
  unfold acceptedEvents at skipped ⊢
  rw [List.filterMap_append]
  rcases skipped with none | full
  · rw [List.filterMap_cons_none none,List.filterMap_nil,List.append_nil]
  · cases limit with
    | none => cases full
    | some count =>
      simp only [Option.some.injEq,List.length_take] at full
      dsimp only
      rw [List.take_append_of_le_length (by omega)]

private theorem acceptedEvents_take (sources : List RawEvent) (source : RawEvent) (accepted : Accepted)
    (selected : selectedEvent sha context mapping source = some accepted)
    (room : limit ≠ some (acceptedEvents sha context mapping limit sources).length) :
    acceptedEvents sha context mapping limit (sources ++ [source]) =
      acceptedEvents sha context mapping limit sources ++ [accepted] := by
  unfold acceptedEvents at room ⊢
  rw [List.filterMap_append,List.filterMap_cons_some selected,List.filterMap_nil]
  cases limit with
  | none => rfl
  | some count =>
    simp only [ne_eq,Option.some.injEq,List.length_take] at room
    dsimp only
    rw [List.take_of_length_le (by rw [List.length_append,List.length_singleton]; omega),
      List.take_of_length_le (by omega)]

theorem Produced.filter {before : List Accepted} {state : TransformState}
    (produced : Produced context before state) (reason : String) : Produced context before (state.filter reason) := by
  obtain ⟨bounds,tracks⟩ := produced.tracks
  exact ⟨⟨bounds,tracks.congr rfl rfl rfl rfl rfl⟩,produced.window,produced.count,produced.text,produced.types⟩

theorem Produced.step {sources : List RawEvent} {state : TransformState}
    (positive : 0 < context.eventWindowSize) (release : context.datasetRelease ≠ "")
    (produced : Produced context (acceptedEvents sha context mapping limit sources) state) (source : RawEvent)
    (named : source.2.canonicalSourceId ≠ "") :
    ∃ after, transformEvent sha context mapping limit state source = .ok after ∧
      Produced context (acceptedEvents sha context mapping limit (sources ++ [source])) after := by
  have partition : sourcePartition sha context.datasetRelease source.2.canonicalSourceId =
      .ok (digestNumber (sha.hexdigest (context.datasetRelease ++ source.2.canonicalSourceId)) % 5) :=
    Checked.pass _ _ _ (Checked.require_true _ _ release)
      (Checked.pass _ _ _ (Checked.require_true _ _ named) rfl)
  rw [transformEvent,partition,Checked.ok_bind]
  by_cases inside : digestNumber (sha.hexdigest (context.datasetRelease ++ source.2.canonicalSourceId)) % 5 =
      context.sourcePartitionId
  · rw [if_neg (not_not_intro inside)]
    cases rowFound : mapping.rowIndex.lookup source.2.canonicalSourceId with
    | none =>
      refine ⟨_,rfl,?_⟩
      rw [acceptedEvents_skip sources source (.inl (by rw [selectedEvent,if_pos inside,rowFound]; rfl))]
      exact produced.filter _
    | some row =>
      cases columnFound : mapping.columnIndex.lookup source.2.canonicalTargetId with
      | none =>
        refine ⟨_,rfl,?_⟩
        rw [acceptedEvents_skip sources source
          (.inl (by rw [selectedEvent,if_pos inside,rowFound,columnFound]; rfl))]
        exact produced.filter _
      | some column =>
        have selected : selectedEvent sha context mapping source = some ⟨source,row,column⟩ := by
          rw [selectedEvent,if_pos inside,rowFound,columnFound]
          rfl
        dsimp only
        rw [produced.count]
        by_cases full : limit = some (acceptedEvents sha context mapping limit sources).length
        · rw [if_pos full,acceptedEvents_skip sources source (.inr full)]
          exact ⟨_,rfl,produced.filter _⟩
        · rw [if_neg full,acceptedEvents_take sources source _ selected full]
          exact produced.accept positive _
  · rw [if_pos inside]
    refine ⟨_,rfl,?_⟩
    rw [acceptedEvents_skip sources source (.inl (by rw [selectedEvent,if_neg inside]))]
    exact produced.filter _

theorem transform_produced (positive : 0 < context.eventWindowSize) (release : context.datasetRelease ≠ "")
    (sources : List RawEvent) (named : ∀ source ∈ sources, source.2.canonicalSourceId ≠ "") :
    ∃ state, sources.foldlM (transformEvent sha context mapping limit) .initial = .ok state ∧
      Produced context (acceptedEvents sha context mapping limit sources) state := by
  induction sources using List.reverseRecOn with
  | nil =>
    refine ⟨_,rfl,?_⟩
    have none : acceptedEvents sha context mapping limit [] = [] := by
      unfold acceptedEvents
      cases limit with
      | none => rfl
      | some count => exact List.take_nil
    rw [none]
    exact Produced.initial context
  | append_singleton sources source ih =>
    obtain ⟨state,ran,produced⟩ := ih fun other member => named other (by simp [member])
    obtain ⟨after,stepped,next⟩ := produced.step positive release source (named source (by simp))
    refine ⟨after,?_,next⟩
    rw [List.foldlM_append,ran,Checked.ok_bind,List.foldlM_cons,stepped]
    rfl

end DynamicCssc
