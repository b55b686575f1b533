import DynamicCssc.PublicationWindows

/-! The times of the publication windows. The run is repeated with the sets and the queries that each
window holds, so that a window's times can be compared with theirs. -/
namespace DynamicCssc
open Foundation

/-- The windows so far with their sets and queries, and those of the open window. -/
structure Timeline where
  opened : OpenWindow ℚ
  current : List (Event ℚ)
  closed : List (PublicationWindow ℚ × List (Event ℚ))

def Event.inWindow (event : Event ℚ) : Bool := event.kind = .set || event.kind = .query

namespace Timeline

def start (initialState : List (Coordinate × ℤ)) : Timeline := ⟨.start initialState,[],[]⟩

/-- The windows that a step emits hold what the open window held. -/
def close (timeline : Timeline) (result : OpenWindow ℚ × List (PublicationWindow ℚ)) : Timeline where
  opened := result.1
  current := if result.2 = [] then timeline.current else []
  closed := timeline.closed ++ result.2.map fun window => (window,timeline.current)

def hold (timeline : Timeline) (event : Event ℚ) : Timeline :=
  if event.inWindow = true then { timeline with current := timeline.current ++ [event] } else timeline

/-- `last_time = event.timestamp`. -/
def clock (time : ℚ) (timeline : Timeline) : Timeline :=
  { timeline with opened := { timeline.opened with lastTime := some time } }

/-- `OpenWindow.closeBefore`, one closing after another. -/
def closeBefore (maxSeconds : ℚ) (queryRequiresLatest : Bool) (event : Event ℚ) (timeline : Timeline) :
    Timeline :=
  let timed := timeline.clock event.timestamp
  let queried := timed.close (timed.opened.closeQuery queryRequiresLatest event)
  let batched := queried.close (queried.opened.closeMicrobatch timeline.opened.lastTime event)
  batched.close (batched.opened.closeFreshness maxSeconds event)

def advance (maxSeconds : ℚ) (microbatchMaxUpdates : ℕ) (queryRequiresLatest : Bool) (timeline : Timeline)
    (event : Event ℚ) : Checked Timeline := do
  Checked.require (timeline.opened.lastTime.all fun last => last ≤ event.timestamp)
    ⟨.valueError,"events must be nondecreasing in timestamp"⟩
  let closed := timeline.closeBefore maxSeconds queryRequiresLatest event
  let received ← closed.opened.receive microbatchMaxUpdates event
  return (closed.hold event).close received

def plain (timeline : Timeline) : OpenWindow ℚ × List (PublicationWindow ℚ) :=
  (timeline.opened,timeline.closed.map Prod.fst)

private theorem close_plain (timeline : Timeline) (result : OpenWindow ℚ × List (PublicationWindow ℚ)) :
    (timeline.close result).plain = (result.1,timeline.plain.2 ++ result.2) := by
  simp [plain,close,List.map_append,List.map_map,Function.comp_def]

private theorem hold_plain (timeline : Timeline) (event : Event ℚ) : (timeline.hold event).plain = timeline.plain := by
  rw [hold]
  split <;> rfl

private theorem closeBefore_plain (maxSeconds : ℚ) (queryRequiresLatest : Bool) (event : Event ℚ)
    (timeline : Timeline) : (timeline.closeBefore maxSeconds queryRequiresLatest event).plain =
      ((timeline.opened.closeBefore maxSeconds queryRequiresLatest event).1,
        timeline.plain.2 ++ (timeline.opened.closeBefore maxSeconds queryRequiresLatest event).2) := by
  rw [closeBefore]
  rw [close_plain,close_plain,close_plain,OpenWindow.closeBefore,List.append_assoc,List.append_assoc,
    List.append_assoc]
  rfl

theorem advance_success (maxSeconds : ℚ) (microbatchMaxUpdates : ℕ) (queryRequiresLatest : Bool)
    (timeline next : Timeline) (event : Event ℚ) :
    timeline.advance maxSeconds microbatchMaxUpdates queryRequiresLatest event = .ok next ↔
      (timeline.opened.lastTime.all fun last => last ≤ event.timestamp) = true ∧
      ∃ received, (timeline.closeBefore maxSeconds queryRequiresLatest event).opened.receive
          microbatchMaxUpdates event = .ok received ∧
        next = ((timeline.closeBefore maxSeconds queryRequiresLatest event).hold event).close received := by
  simp only [advance,Checked.then_success,Checked.require_success]
  rw [Checked.bind_success]
  simp only [pure,Except.pure,Except.ok.injEq,eq_comm]

private theorem advance_plain (maxSeconds : ℚ) (microbatchMaxUpdates : ℕ) (queryRequiresLatest : Bool)
    (timeline next : Timeline) (event : Event ℚ)
    (made : timeline.advance maxSeconds microbatchMaxUpdates queryRequiresLatest event = .ok next) :
    emitWindows maxSeconds microbatchMaxUpdates queryRequiresLatest timeline.plain event = .ok next.plain := by
  obtain ⟨ordered,received,receives,rfl⟩ := (advance_success _ _ _ _ _ _).mp made
  have closed := closeBefore_plain maxSeconds queryRequiresLatest event timeline
  have opened : (timeline.closeBefore maxSeconds queryRequiresLatest event).opened =
      (timeline.opened.closeBefore maxSeconds queryRequiresLatest event).1 := by
    have first := congrArg Prod.fst closed
    exact first
  rw [opened] at receives
  rw [close_plain,hold_plain]
  rw [closed,emitWindows,Checked.bind_success]
  refine ⟨(received.1,(timeline.opened.closeBefore maxSeconds queryRequiresLatest event).2 ++ received.2),
    ?_,?_⟩
  · refine Checked.pass _ _ _ (Checked.require_true _ _ ordered) ?_
    exact (Checked.bind_success _ _ _).mpr ⟨received,receives,rfl⟩
  · rw [List.append_assoc]
    rfl

end Timeline

/-- What a window must be, beside what it holds. -/
structure InTime (maxSeconds : ℚ) (entry : PublicationWindow ℚ × List (Event ℚ)) : Prop where
  starts : ∀ event ∈ entry.2, entry.1.startTime ≤ event.timestamp
  ends : ∀ event ∈ entry.2, event.timestamp ≤ entry.1.endTime
  short : entry.1.endTime - entry.1.startTime ≤ maxSeconds

/-- The fields of an open window that belong together. -/
structure Timeline.Shaped (timeline : Timeline) : Prop where
  idle : timeline.opened.startTime = none →
    timeline.current = [] ∧ timeline.opened.pending.touched = [] ∧ timeline.opened.pendingQueries = 0
  content : ∀ start, timeline.opened.startTime = some start →
    timeline.opened.pending.touched ≠ [] ∨ timeline.opened.pendingQueries ≠ 0
  batch : timeline.opened.pendingMicrobatch = true → timeline.opened.pending.touched ≠ []

namespace Timeline

variable {timeline next : Timeline} {maxSeconds : ℚ} {microbatchMaxUpdates : ℕ}
  {queryRequiresLatest : Bool} {event : Event ℚ}

/-- Nothing is open. -/
structure Emptied (timeline : Timeline) : Prop where
  startTime : timeline.opened.startTime = none
  current : timeline.current = []
  touched : timeline.opened.pending.touched = []
  queries : timeline.opened.pendingQueries = 0
  batch : timeline.opened.pendingMicrobatch = false

theorem Emptied.shaped (emptied : timeline.Emptied) : timeline.Shaped := by
  refine ⟨fun _ => ⟨emptied.current,emptied.touched,emptied.queries⟩,?_,?_⟩
  · intro start known
    rw [emptied.startTime] at known
    cases known
  · intro batch
    rw [emptied.batch] at batch
    cases batch

def flush (endTime : ℚ) (reason : String) (timeline : Timeline) : Timeline :=
  timeline.close (timeline.opened.flush endTime reason)

theorem Shaped.full (shaped : timeline.Shaped) {start : ℚ} (known : timeline.opened.startTime = some start) :
    ¬(timeline.opened.pending.touched = [] ∧ timeline.opened.pendingQueries = 0) := by
  intro empty
  rcases shaped.content start known with touched | asked
  · exact touched empty.1
  · exact asked empty.2

private theorem flush_emptied (shaped : timeline.Shaped) (endTime : ℚ) (reason : String) :
    (timeline.flush endTime reason).Emptied := by
  rw [flush,OpenWindow.flush]
  cases known : timeline.opened.startTime with
  | none =>
    obtain ⟨held,untouched,unasked⟩ := shaped.idle known
    rw [if_pos ⟨untouched,unasked⟩]
    exact ⟨rfl,by simpa [close] using held,untouched,unasked,rfl⟩
  | some start =>
    rw [if_neg (shaped.full known)]
    exact ⟨rfl,rfl,rfl,rfl,rfl⟩

private theorem flush_closed (shaped : timeline.Shaped) (endTime : ℚ) (reason : String) {start : ℚ}
    (known : timeline.opened.startTime = some start) :
    ∃ window, window.startTime = start ∧ window.endTime = endTime ∧
      (timeline.flush endTime reason).closed = timeline.closed ++ [(window,timeline.current)] := by
  refine ⟨⟨timeline.opened.index,start,endTime,netUpdates timeline.opened.pending,
    timeline.opened.pendingQueries,reason⟩,rfl,rfl,?_⟩
  rw [flush,OpenWindow.flush,if_neg (shaped.full known),known]
  rfl

private theorem flush_silent (shaped : timeline.Shaped) (endTime : ℚ) (reason : String)
    (known : timeline.opened.startTime = none) : (timeline.flush endTime reason).closed = timeline.closed := by
  obtain ⟨_,untouched,unasked⟩ := shaped.idle known
  rw [flush,OpenWindow.flush,if_pos ⟨untouched,unasked⟩]
  simp [close]

private theorem close_none : timeline.close (timeline.opened,[]) = timeline := by
  simp [close]

private theorem closeQuery_eq : timeline.close (timeline.opened.closeQuery queryRequiresLatest event) =
    if queryRequiresLatest = true ∧ timeline.opened.pendingQueries ≠ 0 ∧
        (event.kind ≠ .query ∨ some event.timestamp ≠ timeline.opened.pendingQueryTime) then
      timeline.flush (timeline.opened.pendingQueryTime.getD event.timestamp) "query"
    else timeline := by
  rw [OpenWindow.closeQuery]
  split
  · rfl
  · exact close_none

private theorem closeMicrobatch_eq (previous : ℚ) :
    timeline.close (timeline.opened.closeMicrobatch (some previous) event) =
      if timeline.opened.pendingMicrobatch = true ∧ event.timestamp ≠ previous then
        timeline.flush previous "microbatch"
      else timeline := by
  rw [OpenWindow.closeMicrobatch]
  split
  · rfl
  · exact close_none

private theorem closeFreshness_eq {start : ℚ} (known : timeline.opened.startTime = some start) :
    timeline.close (timeline.opened.closeFreshness maxSeconds event) =
      if maxSeconds ≤ event.timestamp - start ∧ timeline.opened.pending.touched ≠ [] then
        timeline.flush (start + maxSeconds) "freshness"
      else timeline := by
  rw [OpenWindow.closeFreshness,known]
  dsimp only
  split
  · rfl
  · exact close_none

private theorem closeFreshness_none (known : timeline.opened.startTime = none) :
    timeline.close (timeline.opened.closeFreshness maxSeconds event) = timeline := by
  rw [OpenWindow.closeFreshness,known]
  exact close_none

end Timeline

/-- An event that finds a window which only queries opened, longer ago than the freshness allows. -/
def OpenWindow.Stale (maxSeconds : ℚ) (queryRequiresLatest : Bool) (event : Event ℚ)
    (opened : OpenWindow ℚ) : Prop :=
  queryRequiresLatest = false ∧ opened.pending.touched = [] ∧
    ∃ start, opened.startTime = some start ∧ maxSeconds < event.timestamp - start

/-- Everything up to a time is in order. -/
structure Timely (maxSeconds : ℚ) (queryRequiresLatest : Bool) (now : ℚ) (timeline : Timeline) : Prop where
  shaped : timeline.Shaped
  inTime : ∀ entry ∈ timeline.closed, InTime maxSeconds entry
  ordered : (timeline.closed.map Prod.fst).Pairwise fun earlier later => earlier.endTime ≤ later.startTime
  ended : ∀ entry ∈ timeline.closed, entry.1.endTime ≤ now
  begun : ∀ start, timeline.opened.startTime = some start → start ≤ now
  running : ∀ start, timeline.opened.startTime = some start → now - start ≤ maxSeconds ∧
    (∀ entry ∈ timeline.closed, entry.1.endTime ≤ start) ∧
    ∀ event ∈ timeline.current, start ≤ event.timestamp ∧ event.timestamp ≤ now
  -- a query that asks for the latest state waits no longer than its own time
  waiting : queryRequiresLatest = true → timeline.opened.pendingQueries ≠ 0 →
    timeline.opened.pendingQueryTime = some now ∧
    (timeline.opened.pending.touched = [] → timeline.opened.startTime = some now)

namespace Timely

variable {timeline : Timeline} {maxSeconds now : ℚ} {queryRequiresLatest : Bool} {event : Event ℚ}

private theorem emptied {other : Timeline} (emptied : other.Emptied)
    (inTime : ∀ entry ∈ other.closed, InTime maxSeconds entry)
    (ordered : (other.closed.map Prod.fst).Pairwise fun earlier later => earlier.endTime ≤ later.startTime)
    (ended : ∀ entry ∈ other.closed, entry.1.endTime ≤ now) :
    Timely maxSeconds queryRequiresLatest now other := by
  refine ⟨emptied.shaped,inTime,ordered,ended,?_,?_,?_⟩
  · intro start known
    rw [emptied.startTime] at known
    cases known
  · intro start known
    rw [emptied.startTime] at known
    cases known
  · intro _ asked
    exact absurd emptied.queries asked

theorem held (timely : Timely maxSeconds queryRequiresLatest now timeline) :
    ∀ event ∈ timeline.current, event.timestamp ≤ now := by
  intro event member
  cases known : timeline.opened.startTime with
  | none =>
    rw [(timely.shaped.idle known).1] at member
    cases member
  | some start => exact ((timely.running start known).2.2 event member).2

theorem flush (timely : Timely maxSeconds queryRequiresLatest now timeline) (endTime later : ℚ)
    (reason : String) (since : now ≤ later) (before : endTime ≤ later)
    (short : ∀ start, timeline.opened.startTime = some start → endTime - start ≤ maxSeconds)
    (ends : ∀ event ∈ timeline.current, event.timestamp ≤ endTime) :
    Timely maxSeconds queryRequiresLatest later (timeline.flush endTime reason) := by
  have gone := Timeline.flush_emptied timely.shaped endTime reason
  cases known : timeline.opened.startTime with
  | none =>
    have same := Timeline.flush_silent timely.shaped endTime reason known
    refine .emptied gone ?_ ?_ ?_
    · rw [same]
      exact timely.inTime
    · rw [same]
      exact timely.ordered
    · rw [same]
      exact fun entry member => (timely.ended entry member).trans since
  | some start =>
    obtain ⟨window,starts,stops,closed⟩ := Timeline.flush_closed timely.shaped endTime reason known
    obtain ⟨_,past,held⟩ := timely.running start known
    refine .emptied gone ?_ ?_ ?_
    · rw [closed]
      intro entry member
      rcases List.mem_append.mp member with old | new
      · exact timely.inTime entry old
      · rw [List.mem_singleton.mp new]
        refine ⟨fun event inside => ?_,fun event inside => ?_,?_⟩
        · rw [starts]
          exact (held event inside).1
        · rw [stops]
          exact ends event inside
        · rw [starts,stops]
          exact short start known
    · rw [closed,List.map_append,List.pairwise_append]
      refine ⟨timely.ordered,List.pairwise_singleton _ _,?_⟩
      intro earlier inside last final
      obtain ⟨entry,member,rfl⟩ := List.mem_map.mp inside
      rw [List.mem_singleton.mp final,starts]
      exact past entry member
    · rw [closed]
      intro entry member
      rcases List.mem_append.mp member with old | new
      · exact (timely.ended entry old).trans since
      · rw [List.mem_singleton.mp new,stops]
        exact before

theorem later (timely : Timely maxSeconds queryRequiresLatest now timeline) (later : ℚ) (since : now ≤ later)
    (short : ∀ start, timeline.opened.startTime = some start → later - start ≤ maxSeconds)
    (prompt : queryRequiresLatest = true → timeline.opened.pendingQueries ≠ 0 → later = now) :
    Timely maxSeconds queryRequiresLatest later timeline := by
  refine ⟨timely.shaped,timely.inTime,timely.ordered,
    fun entry member => (timely.ended entry member).trans since,
    fun start known => (timely.begun start known).trans since,?_,?_⟩
  · intro start known
    obtain ⟨_,past,held⟩ := timely.running start known
    exact ⟨short start known,past,fun event inside => ⟨(held event inside).1,(held event inside).2.trans since⟩⟩
  · intro latest asked
    rw [prompt latest asked]
    exact timely.waiting latest asked

theorem clock (timely : Timely maxSeconds queryRequiresLatest now timeline) (time : ℚ) :
    Timely maxSeconds queryRequiresLatest now (timeline.clock time) :=
  ⟨⟨timely.shaped.idle,timely.shaped.content,timely.shaped.batch⟩,timely.inTime,timely.ordered,timely.ended,
    timely.begun,timely.running,timely.waiting⟩

end Timely

namespace Timeline

variable {timeline : Timeline} {maxSeconds now : ℚ} {queryRequiresLatest : Bool} {event : Event ℚ}

theorem Emptied.microbatch (emptied : timeline.Emptied) (previous : Option ℚ) :
    timeline.close (timeline.opened.closeMicrobatch previous event) = timeline := by
  cases previous with
  | none => exact close_none
  | some previous =>
    rw [closeMicrobatch_eq,if_neg]
    rw [emptied.batch]
    simp

theorem Emptied.freshness (emptied : timeline.Emptied) :
    timeline.close (timeline.opened.closeFreshness maxSeconds event) = timeline :=
  closeFreshness_none emptied.startTime

end Timeline

namespace Timely

variable {timeline : Timeline} {maxSeconds now : ℚ} {queryRequiresLatest : Bool} {event : Event ℚ}

theorem closeFreshness (timely : Timely maxSeconds queryRequiresLatest now timeline)
    (since : now ≤ event.timestamp) (fresh : ¬timeline.opened.Stale maxSeconds queryRequiresLatest event)
    (prompt : queryRequiresLatest = true → timeline.opened.pendingQueries ≠ 0 → event.timestamp = now) :
    Timely maxSeconds queryRequiresLatest event.timestamp
      (timeline.close (timeline.opened.closeFreshness maxSeconds event)) := by
  cases known : timeline.opened.startTime with
  | none =>
    rw [Timeline.closeFreshness_none known]
    refine timely.later _ since (fun start other => ?_) prompt
    rw [known] at other
    cases other
  | some start =>
    have running := (timely.running start known).1
    rw [Timeline.closeFreshness_eq known]
    split
    · rename_i expired
      refine timely.flush _ _ _ since (by linarith [expired.1]) ?_ ?_
      · intro other same
        rw [known,Option.some.injEq] at same
        rw [← same]
        linarith
      · intro inside member
        linarith [timely.held inside member]
    · rename_i going
      refine timely.later _ since (fun other same => ?_) prompt
      rw [known,Option.some.injEq] at same
      rw [← same]
      by_cases touched : timeline.opened.pending.touched = []
      · cases setting : queryRequiresLatest with
        | false =>
          by_contra long
          exact fresh ⟨setting,touched,start,known,not_le.mp long⟩
        | true =>
          rcases timely.shaped.content start known with set | asked
          · exact absurd touched set
          · rw [prompt setting asked]
            exact running
      · by_contra long
        exact going ⟨(not_le.mp long).le,touched⟩

theorem closeBefore (timely : Timely maxSeconds queryRequiresLatest now timeline)
    (clock : timeline.opened.lastTime = some now ∨
      (timeline.opened.lastTime = none ∧ timeline.opened.startTime = none))
    (since : now ≤ event.timestamp) (fresh : ¬timeline.opened.Stale maxSeconds queryRequiresLatest event) :
    Timely maxSeconds queryRequiresLatest event.timestamp
      (timeline.closeBefore maxSeconds queryRequiresLatest event) := by
  have timed := timely.clock event.timestamp
  have short (start : ℚ) (known : (timeline.clock event.timestamp).opened.startTime = some start) :
      now - start ≤ maxSeconds := (timed.running start known).1
  rw [Timeline.closeBefore,Timeline.closeQuery_eq]
  split
  · rename_i asked
    have waits := timed.waiting asked.1 asked.2.1
    have flushed := timed.flush now event.timestamp "query" since since short timed.held
    have gone := Timeline.flush_emptied timed.shaped now "query"
    rw [waits.1,Option.getD_some,gone.microbatch,gone.freshness]
    exact flushed
  · rename_i stays
    have prompt : queryRequiresLatest = true → timeline.opened.pendingQueries ≠ 0 → event.timestamp = now := by
      intro latest asked
      by_contra other
      refine stays ⟨latest,asked,.inr ?_⟩
      intro same
      have waits := (timed.waiting latest asked).1
      rw [waits,Option.some.injEq] at same
      exact other same
    rcases clock with time | idle
    · rw [time,Timeline.closeMicrobatch_eq]
      split
      · have flushed := timed.flush now event.timestamp "microbatch" since since short timed.held
        have gone := Timeline.flush_emptied timed.shaped now "microbatch"
        rw [gone.freshness]
        exact flushed
      · exact timed.closeFreshness since fresh prompt
    · have none : Timeline.close (timeline.clock event.timestamp)
          ((timeline.clock event.timestamp).opened.closeMicrobatch timeline.opened.lastTime event) =
          timeline.clock event.timestamp := by
        rw [idle.1]
        exact Timeline.close_none
      rw [none]
      exact timed.closeFreshness since fresh prompt

private theorem hold (timely : Timely maxSeconds queryRequiresLatest event.timestamp timeline)
    (positive : 0 < maxSeconds) (joins : event.inWindow = true) (other : OpenWindow ℚ)
    (start : other.startTime = some (timeline.opened.startTime.getD event.timestamp))
    (content : other.pending.touched ≠ [] ∨ other.pendingQueries ≠ 0)
    (batch : other.pendingMicrobatch = true → other.pending.touched ≠ [])
    (waiting : queryRequiresLatest = true → other.pendingQueries ≠ 0 →
      other.pendingQueryTime = some event.timestamp ∧
      (other.pending.touched = [] → other.startTime = some event.timestamp)) :
    Timely maxSeconds queryRequiresLatest event.timestamp
      ((timeline.hold event).close (other,[])) := by
  have closed : ((timeline.hold event).close (other,[])).closed = timeline.closed := by
    rw [Timeline.hold,if_pos joins]
    simp [Timeline.close]
  have current : ((timeline.hold event).close (other,[])).current = timeline.current ++ [event] := by
    rw [Timeline.hold,if_pos joins]
    simp [Timeline.close]
  have begins : timeline.opened.startTime.getD event.timestamp ≤ event.timestamp := by
    cases before : timeline.opened.startTime with
    | none => exact le_refl _
    | some since => exact timely.begun since before
  refine ⟨⟨?_,fun _ _ => content,batch⟩,?_,?_,?_,?_,?_,waiting⟩
  · intro none
    cases start.symm.trans none
  · rw [closed]
    exact timely.inTime
  · rw [closed]
    exact timely.ordered
  · rw [closed]
    exact timely.ended
  · intro first known
    rw [← Option.some.inj (start.symm.trans known)]
    exact begins
  · rw [closed,current]
    intro first known
    rw [← Option.some.inj (start.symm.trans known)]
    cases before : timeline.opened.startTime with
    | none =>
      rw [(timely.shaped.idle before).1]
      refine ⟨?_,timely.ended,?_⟩
      · simpa using positive.le
      · intro inside member
        rw [List.nil_append,List.mem_singleton] at member
        rw [member]
        exact ⟨le_refl _,le_refl _⟩
    | some since =>
      obtain ⟨short,past,held⟩ := timely.running since before
      refine ⟨short,past,?_⟩
      intro inside member
      rcases List.mem_append.mp member with old | new
      · exact held inside old
      · rw [List.mem_singleton.mp new]
        exact ⟨timely.begun since before,le_refl _⟩

private theorem closed_asks_nothing (other : event.kind ≠ .query) (latest : queryRequiresLatest = true) :
    (timeline.closeBefore maxSeconds queryRequiresLatest event).opened.pendingQueries = 0 := by
  have opened : (timeline.closeBefore maxSeconds queryRequiresLatest event).opened =
      (timeline.opened.closeBefore maxSeconds queryRequiresLatest event).1 := by
    have first := congrArg Prod.fst (Timeline.closeBefore_plain maxSeconds queryRequiresLatest event timeline)
    exact first
  rw [opened]
  exact closed_idle maxSeconds event other latest

theorem receive (timely : Timely maxSeconds queryRequiresLatest event.timestamp timeline)
    (positive : 0 < maxSeconds) {microbatchMaxUpdates : ℕ}
    (idle : event.kind ≠ .query → queryRequiresLatest = true → timeline.opened.pendingQueries = 0)
    {received : OpenWindow ℚ × List (PublicationWindow ℚ)}
    (receives : timeline.opened.receive microbatchMaxUpdates event = .ok received) :
    Timely maxSeconds queryRequiresLatest event.timestamp ((timeline.hold event).close received) := by
  rw [OpenWindow.receive] at receives
  split at receives
  · rename_i kind
    split at receives
    · rename_i row col value _ _ _
      rw [← Except.ok.inj receives]
      refine timely.hold positive (by simp [Event.inWindow,kind]) _ rfl
        (.inl (Netting.Pending.record_touched_ne _ _ _)) (fun _ => Netting.Pending.record_touched_ne _ _ _)
        fun latest asked => absurd (idle (by simp [kind]) latest) asked
    · cases receives
  · rename_i kind
    rw [Checked.then_success] at receives
    rw [← Except.ok.inj receives.2,Timeline.hold,if_neg (by simp [Event.inWindow,kind]),Timeline.close_none]
    exact timely
  · rename_i kind
    rw [← Except.ok.inj receives]
    refine timely.hold positive (by simp [Event.inWindow,kind]) _ rfl (.inr (Nat.succ_ne_zero _))
      timely.shaped.batch fun latest _ => ⟨rfl,fun untouched => ?_⟩
    cases before : timeline.opened.startTime with
    | none => rfl
    | some start =>
      rcases timely.shaped.content start before with touched | asked
      · exact absurd untouched touched
      · have same := (timely.waiting latest asked).2 untouched
        rw [before] at same
        exact same
  · rename_i kind
    rw [← Except.ok.inj receives,Timeline.hold,if_neg (by simp [Event.inWindow,kind])]
    exact timely.flush _ _ _ (le_refl _) (le_refl _) (fun start known => (timely.running start known).1)
      timely.held

end Timely

/-- The open window is older than the freshness allows, and so is every set in it. -/
structure Overdue (maxSeconds time : ℚ) (timeline : Timeline) : Prop where
  shaped : timeline.Shaped
  started : ∃ start, timeline.opened.startTime = some start ∧ maxSeconds < time - start ∧
    (timeline.opened.pending.touched ≠ [] →
      ∃ event ∈ timeline.current, maxSeconds < event.timestamp - start)

/-- A window is out of time, or will be however it is closed. -/
def Doomed (maxSeconds : ℚ) (timeline : Timeline) : Prop :=
  (∃ entry ∈ timeline.closed, ¬InTime maxSeconds entry) ∨
    ∃ last, timeline.opened.lastTime = some last ∧ Overdue maxSeconds last timeline

namespace Overdue

variable {timeline : Timeline} {maxSeconds time : ℚ} {event : Event ℚ}

theorem flush (overdue : Overdue maxSeconds time timeline) (endTime : ℚ) (reason : String)
    (when_ : time ≤ endTime ∨ (timeline.opened.pending.touched ≠ [] ∧
      ∀ start, timeline.opened.startTime = some start → endTime = start + maxSeconds)) :
    ∃ entry ∈ (timeline.flush endTime reason).closed, ¬InTime maxSeconds entry := by
  obtain ⟨start,known,long,late⟩ := overdue.started
  obtain ⟨window,starts,stops,closed⟩ := Timeline.flush_closed overdue.shaped endTime reason known
  refine ⟨(window,timeline.current),by rw [closed]; simp,fun inTime => ?_⟩
  rcases when_ with after | expired
  · have short := inTime.short
    rw [starts,stops] at short
    linarith
  · obtain ⟨set,member,beyond⟩ := late expired.1
    have ends := inTime.ends set member
    rw [stops,expired.2 start known] at ends
    linarith

private theorem closed_grows (timeline : Timeline) (result : OpenWindow ℚ × List (PublicationWindow ℚ))
    (violated : ∃ entry ∈ timeline.closed, ¬InTime maxSeconds entry) :
    ∃ entry ∈ (timeline.close result).closed, ¬InTime maxSeconds entry := by
  obtain ⟨entry,member,bad⟩ := violated
  exact ⟨entry,List.mem_append_left _ member,bad⟩

private theorem hold_grows (timeline : Timeline)
    (violated : ∃ entry ∈ timeline.closed, ¬InTime maxSeconds entry) :
    ∃ entry ∈ (timeline.hold event).closed, ¬InTime maxSeconds entry := by
  rw [Timeline.hold]
  split
  · exact violated
  · exact violated

theorem joined (overdue : Overdue maxSeconds event.timestamp timeline) (joins : event.inWindow = true)
    (other : OpenWindow ℚ) (start : other.startTime = some (timeline.opened.startTime.getD event.timestamp))
    (time : other.lastTime = some event.timestamp)
    (content : other.pending.touched ≠ [] ∨ other.pendingQueries ≠ 0)
    (batch : other.pendingMicrobatch = true → other.pending.touched ≠ []) :
    Doomed maxSeconds ((timeline.hold event).close (other,[])) := by
  obtain ⟨first,known,long,_⟩ := overdue.started
  have current : ((timeline.hold event).close (other,[])).current = timeline.current ++ [event] := by
    rw [Timeline.hold,if_pos joins]
    simp [Timeline.close]
  have begins : other.startTime = some first := by
    rw [start,known]
    rfl
  refine .inr ⟨event.timestamp,time,⟨?_,fun _ _ => content,batch⟩,first,begins,long,fun _ => ?_⟩
  · intro none
    cases begins.symm.trans none
  · refine ⟨event,?_,long⟩
    rw [current]
    simp

theorem receive (overdue : Overdue maxSeconds event.timestamp timeline)
    (time : timeline.opened.lastTime = some event.timestamp) {microbatchMaxUpdates : ℕ}
    {received : OpenWindow ℚ × List (PublicationWindow ℚ)}
    (receives : timeline.opened.receive microbatchMaxUpdates event = .ok received) :
    Doomed maxSeconds ((timeline.hold event).close received) := by
  rw [OpenWindow.receive] at receives
  split at receives
  · rename_i kind
    split at receives
    · rw [← Except.ok.inj receives]
      exact overdue.joined (by simp [Event.inWindow,kind]) _ rfl time
        (.inl (Netting.Pending.record_touched_ne _ _ _)) fun _ => Netting.Pending.record_touched_ne _ _ _
    · cases receives
  · rename_i kind
    rw [Checked.then_success] at receives
    rw [← Except.ok.inj receives.2,Timeline.hold,if_neg (by simp [Event.inWindow,kind]),Timeline.close_none]
    exact .inr ⟨_,time,overdue⟩
  · rename_i kind
    rw [← Except.ok.inj receives]
    exact overdue.joined (by simp [Event.inWindow,kind]) _ rfl time (.inr (Nat.succ_ne_zero _))
      overdue.shaped.batch
  · rename_i kind
    rw [← Except.ok.inj receives,Timeline.hold,if_neg (by simp [Event.inWindow,kind])]
    exact .inl (overdue.flush _ _ (.inl (le_refl _)))

theorem later (overdue : Overdue maxSeconds time timeline) {after : ℚ} (since : time ≤ after) :
    Overdue maxSeconds after timeline := by
  obtain ⟨start,known,long,sets⟩ := overdue.started
  exact ⟨overdue.shaped,start,known,by linarith,sets⟩

theorem clock (overdue : Overdue maxSeconds time timeline) (last : ℚ) :
    Overdue maxSeconds time (timeline.clock last) :=
  ⟨⟨overdue.shaped.idle,overdue.shaped.content,overdue.shaped.batch⟩,overdue.started⟩

theorem closeBefore (overdue : Overdue maxSeconds event.timestamp timeline)
    (batch : timeline.opened.pendingMicrobatch = true →
      ∃ last, timeline.opened.lastTime = some last ∧ Overdue maxSeconds last timeline) :
    (∃ entry ∈ (timeline.closeBefore maxSeconds false event).closed, ¬InTime maxSeconds entry) ∨
      (Overdue maxSeconds event.timestamp (timeline.closeBefore maxSeconds false event) ∧
        (timeline.closeBefore maxSeconds false event).opened.lastTime = some event.timestamp) := by
  obtain ⟨start,known,_⟩ := overdue.started
  rw [Timeline.closeBefore]
  rw [Timeline.closeQuery_eq,if_neg (by simp)]
  have timed := overdue.clock event.timestamp
  by_cases flushes : timeline.opened.pendingMicrobatch = true ∧
      ∃ last, timeline.opened.lastTime = some last ∧ event.timestamp ≠ last
  · obtain ⟨pending,last,time,other⟩ := flushes
    obtain ⟨_,same,before⟩ := batch pending
    rw [time,Option.some.injEq] at same
    rw [time,Timeline.closeMicrobatch_eq,if_pos ⟨pending,other⟩]
    refine .inl (closed_grows _ _ ?_)
    exact (before.clock event.timestamp).flush _ _ (.inl same.ge)
  · have still : Timeline.close
        (timeline.clock event.timestamp)
        ((timeline.clock event.timestamp).opened.closeMicrobatch timeline.opened.lastTime event) =
        timeline.clock event.timestamp := by
      cases time : timeline.opened.lastTime with
      | none => exact Timeline.close_none
      | some last =>
        rw [Timeline.closeMicrobatch_eq,if_neg]
        exact fun both => flushes ⟨both.1,last,time,both.2⟩
    have since : (timeline.clock event.timestamp).opened.startTime = some start := known
    rw [still,Timeline.closeFreshness_eq since]
    split
    · rename_i expired
      refine .inl (timed.flush _ _ (.inr ⟨expired.2,fun other same => ?_⟩))
      rw [← Option.some.inj (known.symm.trans same)]
    · exact .inr ⟨timed,rfl⟩

end Overdue

namespace Doomed

variable {timeline next : Timeline} {maxSeconds : ℚ} {microbatchMaxUpdates : ℕ} {event : Event ℚ}

theorem advance (doomed : Doomed maxSeconds timeline)
    (made : timeline.advance maxSeconds microbatchMaxUpdates false event = .ok next) :
    Doomed maxSeconds next := by
  obtain ⟨ordered,received,receives,rfl⟩ := (Timeline.advance_success _ _ _ _ _ _).mp made
  rcases doomed with violated | late
  · refine .inl (Overdue.closed_grows _ _ (Overdue.hold_grows _ ?_))
    exact Overdue.closed_grows _ _ (Overdue.closed_grows _ _ (Overdue.closed_grows _ _ violated))
  · obtain ⟨last,time,overdue⟩ := late
    have since : last ≤ event.timestamp := by
      rw [time] at ordered
      simpa using ordered
    rcases (overdue.later since).closeBefore fun _ => ⟨last,time,overdue⟩ with violated | going
    · exact .inl (Overdue.closed_grows _ _ (Overdue.hold_grows _ violated))
    · exact going.1.receive going.2 receives

/-- A stale window is doomed by the event that finds it. -/
private theorem stale (shaped : timeline.Shaped) {queryRequiresLatest : Bool}
    (found : timeline.opened.Stale maxSeconds queryRequiresLatest event)
    (made : timeline.advance maxSeconds microbatchMaxUpdates queryRequiresLatest event = .ok next) :
    Doomed maxSeconds next := by
  obtain ⟨setting,untouched,start,known,long⟩ := found
  rw [setting] at made
  obtain ⟨_,received,receives,rfl⟩ := (Timeline.advance_success _ _ _ _ _ _).mp made
  have overdue : Overdue maxSeconds event.timestamp timeline :=
    ⟨shaped,start,known,long,fun touched => absurd untouched touched⟩
  rcases overdue.closeBefore fun pending => absurd untouched (shaped.batch pending) with violated | going
  · exact .inl (Overdue.closed_grows _ _ (Overdue.hold_grows _ violated))
  · exact going.1.receive going.2 receives

theorem finish (doomed : Doomed maxSeconds timeline) (reason : String) :
    ∃ entry ∈ (timeline.flush (timeline.opened.lastTime.getD 0) reason).closed, ¬InTime maxSeconds entry := by
  rcases doomed with violated | late
  · exact Overdue.closed_grows _ _ violated
  · obtain ⟨last,time,overdue⟩ := late
    rw [time]
    exact overdue.flush last reason (.inl (le_refl _))

end Doomed

/-! Whole streams. -/

/-- `publication_windows`, with the sets and queries of each window. -/
def publicationTimeline (initialState : List (Coordinate × ℤ)) (maxSeconds : ℚ) (microbatchMaxUpdates : ℕ)
    (queryRequiresLatest : Bool) (events : List (Event ℚ)) :
    Checked (List (PublicationWindow ℚ × List (Event ℚ))) := do
  Checked.require (0 < maxSeconds) ⟨.valueError,"max_seconds must be positive"⟩
  Checked.require (0 < microbatchMaxUpdates) ⟨.valueError,"microbatch_max_updates must be positive"⟩
  let final ← events.foldlM (Timeline.advance maxSeconds microbatchMaxUpdates queryRequiresLatest)
    (.start initialState)
  return final.closed ++ (final.opened.finish queryRequiresLatest).map fun window => (window,final.current)

/-- The state of `publication_windows` behind some events. -/
def openAfter (initialState : List (Coordinate × ℤ)) (maxSeconds : ℚ) (microbatchMaxUpdates : ℕ)
    (queryRequiresLatest : Bool) (events : List (Event ℚ)) :
    Checked (OpenWindow ℚ × List (PublicationWindow ℚ)) :=
  events.foldlM (emitWindows maxSeconds microbatchMaxUpdates queryRequiresLatest) (.start initialState,[])

section
variable {maxSeconds : ℚ} {microbatchMaxUpdates : ℕ} {queryRequiresLatest : Bool}

private theorem timeline_plain (events : List (Event ℚ)) (timeline final : Timeline)
    (run : events.foldlM (Timeline.advance maxSeconds microbatchMaxUpdates queryRequiresLatest) timeline =
      .ok final) :
    events.foldlM (emitWindows maxSeconds microbatchMaxUpdates queryRequiresLatest) timeline.plain =
      .ok final.plain := by
  induction events generalizing timeline with
  | nil =>
    simp only [List.foldlM_nil,pure,Except.pure,Except.ok.injEq] at run
    rw [run]
    rfl
  | cons event events ih =>
    rw [List.foldlM_cons,Checked.bind_success] at run
    obtain ⟨next,made,rest⟩ := run
    rw [List.foldlM_cons,Timeline.advance_plain _ _ _ _ _ _ made]
    exact ih next rest

private theorem receive_ok (microbatchMaxUpdates : ℕ) (opened : OpenWindow ℚ) (event : Event ℚ) (formed : event.WellFormed) :
    ∃ received, opened.receive microbatchMaxUpdates event = .ok received ∧
      received.1.lastTime = opened.lastTime := by
  rw [OpenWindow.receive]
  cases kind : event.kind with
  | set =>
    rw [Event.WellFormed,kind] at formed
    obtain ⟨row,rowIs⟩ := Option.isSome_iff_exists.mp formed.1
    obtain ⟨col,colIs⟩ := Option.isSome_iff_exists.mp formed.2.1
    obtain ⟨value,valueIs⟩ := Option.isSome_iff_exists.mp formed.2.2
    rw [rowIs,colIs,valueIs]
    exact ⟨_,rfl,rfl⟩
  | tick =>
    rw [Event.WellFormed,kind] at formed
    exact ⟨(opened,[]),Checked.pass _ _ _ (Checked.require_true _ _ formed) rfl,rfl⟩
  | query => exact ⟨_,rfl,rfl⟩
  | version => exact ⟨_,rfl,flush_keeps_time _ _ _⟩

private theorem advance_ok (timeline : Timeline) (event : Event ℚ) (formed : event.WellFormed)
    (ordered : ∀ last, timeline.opened.lastTime = some last → last ≤ event.timestamp) :
    ∃ next, timeline.advance maxSeconds microbatchMaxUpdates queryRequiresLatest event = .ok next ∧
      next.opened.lastTime = some event.timestamp := by
  have opened : (timeline.closeBefore maxSeconds queryRequiresLatest event).opened =
      (timeline.opened.closeBefore maxSeconds queryRequiresLatest event).1 := by
    have first := congrArg Prod.fst (Timeline.closeBefore_plain maxSeconds queryRequiresLatest event timeline)
    exact first
  have time : (timeline.closeBefore maxSeconds queryRequiresLatest event).opened.lastTime =
      some event.timestamp := by
    rw [opened]
    exact closes_set_time maxSeconds event
  obtain ⟨received,receives,kept⟩ := receive_ok microbatchMaxUpdates
    (timeline.closeBefore maxSeconds queryRequiresLatest event).opened event formed
  refine ⟨_,(Timeline.advance_success _ _ _ _ _ _).mpr ⟨?_,received,receives,rfl⟩,kept.trans time⟩
  cases known : timeline.opened.lastTime with
  | none => rfl
  | some last => simpa using ordered last known

/-- No event of a stream finds a stale window. -/
def NeverStale (initialState : List (Coordinate × ℤ)) (maxSeconds : ℚ) (microbatchMaxUpdates : ℕ)
    (queryRequiresLatest : Bool) (events : List (Event ℚ)) : Prop :=
  ∀ before event after state, events = before ++ event :: after →
    openAfter initialState maxSeconds microbatchMaxUpdates queryRequiresLatest before = .ok state →
    ¬state.1.Stale maxSeconds queryRequiresLatest event

/-- The clock of a timeline: the last event, or nothing yet. -/
def ClockAt (now : ℚ) (timeline : Timeline) : Prop :=
  timeline.opened.lastTime = some now ∨
    (timeline.opened.lastTime = none ∧ timeline.opened.startTime = none)

private theorem doomed_run (events : List (Event ℚ)) (formed : ∀ event ∈ events, event.WellFormed)
    (ordered : (events.map Event.timestamp).Pairwise (· ≤ ·)) (timeline : Timeline)
    (doomed : Doomed maxSeconds timeline)
    (reached : ∀ last, timeline.opened.lastTime = some last → ∀ event ∈ events, last ≤ event.timestamp) :
    ∃ final, events.foldlM (Timeline.advance maxSeconds microbatchMaxUpdates false) timeline = .ok final ∧
      Doomed maxSeconds final := by
  induction events generalizing timeline with
  | nil => exact ⟨timeline,rfl,doomed⟩
  | cons event events ih =>
    rw [List.map_cons,List.pairwise_cons] at ordered
    obtain ⟨next,made,time⟩ := advance_ok timeline event (formed event List.mem_cons_self)
      fun last known => reached last known event List.mem_cons_self
    obtain ⟨final,run,ends⟩ := ih (fun other member => formed other (List.mem_cons_of_mem _ member)) ordered.2
      next (doomed.advance made) (by
        intro last known other member
        rw [← Option.some.inj (time.symm.trans known)]
        exact ordered.1 _ (List.mem_map_of_mem member))
    refine ⟨final,?_,ends⟩
    rw [List.foldlM_cons,made]
    exact run

/-- A run all of whose events find a fresh window keeps the times; one that does not is doomed. -/
private theorem run_times (microbatchMaxUpdates : ℕ) (positive : 0 < maxSeconds) (events : List (Event ℚ))
    (formed : ∀ event ∈ events, event.WellFormed)
    (ordered : (events.map Event.timestamp).Pairwise (· ≤ ·)) (timeline : Timeline) (now : ℚ)
    (timely : Timely maxSeconds queryRequiresLatest now timeline) (clock : ClockAt now timeline)
    (reached : ∀ event ∈ events, now ≤ event.timestamp) :
    ∃ final, events.foldlM (Timeline.advance maxSeconds microbatchMaxUpdates queryRequiresLatest) timeline =
        .ok final ∧
      ((∃ last, Timely maxSeconds queryRequiresLatest last final ∧ ClockAt last final ∧
        ∀ before event after state, events = before ++ event :: after →
          before.foldlM (emitWindows maxSeconds microbatchMaxUpdates queryRequiresLatest) timeline.plain =
            .ok state → ¬state.1.Stale maxSeconds queryRequiresLatest event) ∨
      (Doomed maxSeconds final ∧ ∃ before event after state, events = before ++ event :: after ∧
          before.foldlM (emitWindows maxSeconds microbatchMaxUpdates queryRequiresLatest) timeline.plain =
            .ok state ∧ state.1.Stale maxSeconds queryRequiresLatest event)) := by
  induction events generalizing timeline now with
  | nil =>
    refine ⟨timeline,rfl,.inl ⟨now,timely,clock,?_⟩⟩
    intro before event after state same
    simp at same
  | cons event events ih =>
    rw [List.map_cons,List.pairwise_cons] at ordered
    have since := reached event List.mem_cons_self
    have later (other : Event ℚ) (member : other ∈ events) : event.timestamp ≤ other.timestamp :=
      ordered.1 _ (List.mem_map_of_mem member)
    have rest (other : Event ℚ) (member : other ∈ events) : other.WellFormed :=
      formed other (List.mem_cons_of_mem _ member)
    obtain ⟨next,made,time⟩ : ∃ next,
        timeline.advance maxSeconds microbatchMaxUpdates queryRequiresLatest event = .ok next ∧
        next.opened.lastTime = some event.timestamp := advance_ok timeline event
      (formed event List.mem_cons_self) (by
        intro last known
        rcases clock with at_ | idle
        · rw [← Option.some.inj (at_.symm.trans known)]
          exact since
        · rw [idle.1] at known
          cases known)
    have plain := Timeline.advance_plain _ _ _ _ _ _ made
    by_cases stale : timeline.opened.Stale maxSeconds queryRequiresLatest event
    · obtain rfl := stale.1
      obtain ⟨final,run,doomed⟩ := doomed_run events rest ordered.2 next (.stale timely.shaped stale made) (by
        intro last known other member
        rw [← Option.some.inj (time.symm.trans known)]
        exact later other member)
      refine ⟨final,?_,.inr ⟨doomed,[],event,events,timeline.plain,rfl,rfl,stale⟩⟩
      rw [List.foldlM_cons,made]
      exact run
    · have kept : Timely maxSeconds queryRequiresLatest event.timestamp next := by
        obtain ⟨_,received,receives,rfl⟩ := (Timeline.advance_success _ _ _ _ _ _).mp made
        exact (timely.closeBefore clock since stale).receive positive
          (fun other latest => Timely.closed_asks_nothing other latest) receives
      obtain ⟨final,run,outcome⟩ := ih rest ordered.2 next event.timestamp kept (.inl time) later
      refine ⟨final,?_,?_⟩
      · rw [List.foldlM_cons,made]
        exact run
      · rcases outcome with good | bad
        · obtain ⟨last,ends,stopped,fresh⟩ := good
          refine .inl ⟨last,ends,stopped,?_⟩
          intro before other after state same reaches
          cases before with
          | nil =>
            obtain ⟨rfl,_⟩ := List.cons.inj same
            simp only [List.foldlM_nil,pure,Except.pure,Except.ok.injEq] at reaches
            rw [← reaches]
            exact stale
          | cons first before =>
            obtain ⟨rfl,split⟩ := List.cons.inj same
            rw [List.foldlM_cons,plain] at reaches
            exact fresh before other after state split reaches
        · obtain ⟨doomed,before,other,after,state,split,reaches,found⟩ := bad
          refine .inr ⟨doomed,event :: before,other,after,state,by rw [split]; rfl,?_,found⟩
          rw [List.foldlM_cons,plain]
          exact reaches

/-! Every set and query is in one window. -/

private theorem flush_few (endTime : ℚ) (reason : String) (opened : OpenWindow ℚ) :
    (opened.flush endTime reason).2.length ≤ 1 := by
  rw [OpenWindow.flush]
  split <;> simp

private theorem close_contents (timeline : Timeline) (result : OpenWindow ℚ × List (PublicationWindow ℚ))
    (few : result.2.length ≤ 1) : (timeline.close result).closed.flatMap Prod.snd ++
      (timeline.close result).current = timeline.closed.flatMap Prod.snd ++ timeline.current := by
  obtain ⟨opened,windows⟩ := result
  cases windows with
  | nil => simp [Timeline.close]
  | cons window windows =>
    have last : windows = [] := by
      simpa using few
    simp [Timeline.close,last]

private theorem receive_few {opened : OpenWindow ℚ} {event : Event ℚ}
    {received : OpenWindow ℚ × List (PublicationWindow ℚ)}
    (receives : opened.receive microbatchMaxUpdates event = .ok received) : received.2.length ≤ 1 := by
  rw [OpenWindow.receive] at receives
  split at receives
  · split at receives
    · rw [← Except.ok.inj receives]
      exact Nat.zero_le _
    · cases receives
  · rw [Checked.then_success] at receives
    rw [← Except.ok.inj receives.2]
    exact Nat.zero_le _
  · rw [← Except.ok.inj receives]
    exact Nat.zero_le _
  · rw [← Except.ok.inj receives]
    exact flush_few _ _ _

private theorem hold_contents (timeline : Timeline) (event : Event ℚ) :
    (timeline.hold event).closed.flatMap Prod.snd ++ (timeline.hold event).current =
      timeline.closed.flatMap Prod.snd ++ timeline.current ++ [event].filter Event.inWindow := by
  rw [Timeline.hold]
  by_cases joins : event.inWindow = true
  · rw [if_pos joins]
    simp [joins]
  · rw [if_neg joins]
    simp [joins]

private theorem advance_contents {timeline next : Timeline} {event : Event ℚ}
    (made : timeline.advance maxSeconds microbatchMaxUpdates queryRequiresLatest event = .ok next) :
    next.closed.flatMap Prod.snd ++ next.current =
      timeline.closed.flatMap Prod.snd ++ timeline.current ++ [event].filter Event.inWindow := by
  obtain ⟨_,received,receives,rfl⟩ := (Timeline.advance_success _ _ _ _ _ _).mp made
  have query (opened : OpenWindow ℚ) : (opened.closeQuery queryRequiresLatest event).2.length ≤ 1 := by
    rw [OpenWindow.closeQuery]
    split
    · exact flush_few _ _ _
    · exact Nat.zero_le _
  have batch (opened : OpenWindow ℚ) (previous : Option ℚ) :
      (opened.closeMicrobatch previous event).2.length ≤ 1 := by
    rw [OpenWindow.closeMicrobatch.eq_def]
    split
    · exact Nat.zero_le _
    · split
      · exact flush_few _ _ _
      · exact Nat.zero_le _
  have fresh (opened : OpenWindow ℚ) : (opened.closeFreshness maxSeconds event).2.length ≤ 1 := by
    rw [OpenWindow.closeFreshness]
    split
    · exact Nat.zero_le _
    · split
      · exact flush_few _ _ _
      · exact Nat.zero_le _
  rw [close_contents _ _ (receive_few receives),hold_contents,Timeline.closeBefore,
    close_contents _ _ (fresh _),close_contents _ _ (batch _ _),close_contents _ _ (query _)]
  rfl

private theorem run_contents (events : List (Event ℚ)) (timeline final : Timeline)
    (run : events.foldlM (Timeline.advance maxSeconds microbatchMaxUpdates queryRequiresLatest) timeline =
      .ok final) : final.closed.flatMap Prod.snd ++ final.current =
      timeline.closed.flatMap Prod.snd ++ timeline.current ++ events.filter Event.inWindow := by
  induction events generalizing timeline with
  | nil =>
    simp only [List.foldlM_nil,pure,Except.pure,Except.ok.injEq] at run
    simp [run]
  | cons event events ih =>
    rw [List.foldlM_cons,Checked.bind_success] at run
    obtain ⟨next,made,rest⟩ := run
    rw [ih next rest,advance_contents made,List.append_assoc,← List.filter_append]
    rfl

/-- An open window that would not be emitted holds nothing. -/
def Kept (timeline : Timeline) : Prop :=
  timeline.opened.pending.touched = [] ∧ timeline.opened.pendingQueries = 0 → timeline.current = []

theorem Kept.flush {timeline : Timeline} (kept : Kept timeline) (endTime : ℚ) (reason : String) :
    Kept (timeline.flush endTime reason) ∧ (timeline.flush endTime reason).current = [] := by
  rw [Timeline.flush,OpenWindow.flush]
  split
  · rename_i empty
    exact ⟨fun _ => kept empty,kept empty⟩
  · exact ⟨fun _ => rfl,rfl⟩

theorem Kept.closeBefore {timeline : Timeline} (kept : Kept timeline) (event : Event ℚ) :
    Kept (timeline.closeBefore maxSeconds queryRequiresLatest event) := by
  have clocked : Kept (timeline.clock event.timestamp) := kept
  rw [Timeline.closeBefore,Timeline.closeQuery_eq]
  have query : Kept (if queryRequiresLatest = true ∧
      (timeline.clock event.timestamp).opened.pendingQueries ≠ 0 ∧ (event.kind ≠ .query ∨
        some event.timestamp ≠ (timeline.clock event.timestamp).opened.pendingQueryTime) then
      (timeline.clock event.timestamp).flush
        ((timeline.clock event.timestamp).opened.pendingQueryTime.getD event.timestamp) "query"
      else timeline.clock event.timestamp) := by
    split
    · exact (clocked.flush _ _).1
    · exact clocked
  generalize (if queryRequiresLatest = true ∧
      (timeline.clock event.timestamp).opened.pendingQueries ≠ 0 ∧ (event.kind ≠ .query ∨
        some event.timestamp ≠ (timeline.clock event.timestamp).opened.pendingQueryTime) then
      (timeline.clock event.timestamp).flush
        ((timeline.clock event.timestamp).opened.pendingQueryTime.getD event.timestamp) "query"
      else timeline.clock event.timestamp) = queried at query ⊢
  have batch : Kept (queried.close (queried.opened.closeMicrobatch timeline.opened.lastTime event)) := by
    cases timeline.opened.lastTime with
    | none => rwa [show queried.opened.closeMicrobatch none event = (queried.opened,[]) from rfl,
        Timeline.close_none]
    | some previous =>
      rw [Timeline.closeMicrobatch_eq]
      split
      · exact (query.flush _ _).1
      · exact query
  generalize queried.close (queried.opened.closeMicrobatch timeline.opened.lastTime event) = batched at batch ⊢
  cases known : batched.opened.startTime with
  | none => rwa [Timeline.closeFreshness_none known]
  | some start =>
    rw [Timeline.closeFreshness_eq known]
    split
    · exact (batch.flush _ _).1
    · exact batch

theorem Kept.advance {timeline next : Timeline} (kept : Kept timeline) {event : Event ℚ}
    (made : timeline.advance maxSeconds microbatchMaxUpdates queryRequiresLatest event = .ok next) :
    Kept next := by
  obtain ⟨_,received,receives,rfl⟩ := (Timeline.advance_success _ _ _ _ _ _).mp made
  have before : Kept (timeline.closeBefore maxSeconds queryRequiresLatest event) := kept.closeBefore event
  generalize timeline.closeBefore maxSeconds queryRequiresLatest event = closed at before receives ⊢
  rw [OpenWindow.receive] at receives
  split at receives
  · split at receives
    · rw [← Except.ok.inj receives]
      intro empty
      exact absurd empty.1 (Netting.Pending.record_touched_ne _ _ _)
    · cases receives
  · rename_i kind
    rw [Checked.then_success] at receives
    rw [← Except.ok.inj receives.2,Timeline.hold,if_neg (by simp [Event.inWindow,kind]),Timeline.close_none]
    exact before
  · rw [← Except.ok.inj receives]
    intro empty
    exact absurd empty.2 (Nat.succ_ne_zero _)
  · rename_i kind
    rw [← Except.ok.inj receives,Timeline.hold,if_neg (by simp [Event.inWindow,kind])]
    exact (before.flush _ _).1

theorem Kept.run (events : List (Event ℚ)) {timeline final : Timeline} (kept : Kept timeline)
    (run : events.foldlM (Timeline.advance maxSeconds microbatchMaxUpdates queryRequiresLatest) timeline =
      .ok final) : Kept final :=
  Checked.foldlM_invariant _ Kept events (fun _ _ _ _ before made => before.advance made) timeline final kept
    run

private theorem finish_flush (queryRequiresLatest : Bool) (timeline : Timeline) : ∃ reason,
    timeline.closed ++ (timeline.opened.finish queryRequiresLatest).map (fun window =>
      (window,timeline.current)) = (timeline.flush (timeline.opened.lastTime.getD 0) reason).closed := by
  rw [OpenWindow.finish]
  split
  · rename_i empty
    refine ⟨"",?_⟩
    rw [Timeline.flush,OpenWindow.flush,if_pos empty]
    rfl
  · exact ⟨_,rfl⟩

end

/-- The times of a stream's windows: each ends what it holds and is short, and they come in order. -/
structure TimeLaw (maxSeconds : ℚ) (timeline : List (PublicationWindow ℚ × List (Event ℚ))) : Prop where
  inTime : ∀ entry ∈ timeline, InTime maxSeconds entry
  ordered : (timeline.map Prod.fst).Pairwise fun earlier later => earlier.endTime ≤ later.startTime

/-- The windows of a well formed, ordered stream keep the law of times exactly when no event finds a window
that queries alone opened, with `query_requires_latest` off, longer ago than `max_seconds`. -/
theorem publicationWindows_timed (initialState : List (Coordinate × ℤ)) (maxSeconds : ℚ)
    (microbatchMaxUpdates : ℕ) (queryRequiresLatest : Bool) (events : List (Event ℚ))
    (formed : ∀ event ∈ events, event.WellFormed)
    (ordered : (events.map Event.timestamp).Pairwise (· ≤ ·)) (freshness : 0 < maxSeconds)
    (microbatch : 0 < microbatchMaxUpdates) :
    ∃ timeline, publicationTimeline initialState maxSeconds microbatchMaxUpdates queryRequiresLatest events =
        .ok timeline ∧
      publicationWindows initialState maxSeconds microbatchMaxUpdates queryRequiresLatest events =
        .ok (timeline.map Prod.fst) ∧
      timeline.flatMap Prod.snd = events.filter Event.inWindow ∧
      (TimeLaw maxSeconds timeline ↔
        NeverStale initialState maxSeconds microbatchMaxUpdates queryRequiresLatest events) := by
  have initial (now : ℚ) : Timely maxSeconds queryRequiresLatest now (Timeline.start initialState) :=
    .emptied ⟨rfl,rfl,rfl,rfl,rfl⟩ (by simp [Timeline.start]) (by simp [Timeline.start])
      (by simp [Timeline.start])
  obtain ⟨now,reached⟩ : ∃ now, ∀ event ∈ events, now ≤ event.timestamp := by
    cases events with
    | nil => exact ⟨0,by simp⟩
    | cons event events =>
      rw [List.map_cons,List.pairwise_cons] at ordered
      refine ⟨event.timestamp,fun other member => ?_⟩
      rcases List.mem_cons.mp member with here | later
      · rw [here]
      · exact ordered.1 _ (List.mem_map_of_mem later)
  obtain ⟨final,run,outcome⟩ := run_times microbatchMaxUpdates freshness events formed ordered _ now
    (initial now) (.inr ⟨rfl,rfl⟩) reached
  obtain ⟨reason,finished⟩ := finish_flush queryRequiresLatest final
  have plain := timeline_plain events _ _ run
  refine ⟨final.closed ++ (final.opened.finish queryRequiresLatest).map fun window => (window,final.current),
    ?_,?_,?_,?_⟩
  · refine Checked.pass _ _ _ (Checked.require_true _ _ freshness) ?_
    refine Checked.pass _ _ _ (Checked.require_true _ _ microbatch) ?_
    rw [run]
    rfl
  · refine Checked.pass _ _ _ (Checked.require_true _ _ freshness) ?_
    refine Checked.pass _ _ _ (Checked.require_true _ _ microbatch) ?_
    rw [show ((.start initialState,[]) : OpenWindow ℚ × List (PublicationWindow ℚ)) =
      (Timeline.start initialState).plain from rfl,plain,List.map_append,List.map_map]
    simp [Timeline.plain,pure,Except.pure,Checked.ok_bind,Function.comp_def]
  · have contents := run_contents events _ _ run
    rw [show (Timeline.start initialState).closed = [] from rfl,
      show (Timeline.start initialState).current = [] from rfl,List.flatMap_nil,List.nil_append,
      List.nil_append] at contents
    have kept : Kept final := Kept.run events (fun _ => rfl) run
    have moved := close_contents final (final.opened.flush (final.opened.lastTime.getD 0) reason)
      (flush_few _ _ _)
    have emptied := (kept.flush (final.opened.lastTime.getD 0) reason).2
    rw [Timeline.flush] at emptied
    rw [emptied,List.append_nil] at moved
    rw [← contents,finished,Timeline.flush]
    exact moved
  · rw [finished]
    rcases outcome with good | bad
    · obtain ⟨last,timely,clock,fresh⟩ := good
      refine ⟨fun _ => fresh,fun _ => ?_⟩
      have flushed : Timely maxSeconds queryRequiresLatest last
          (final.flush (final.opened.lastTime.getD 0) reason) := by
        rcases clock with time | idle
        · rw [time]
          exact timely.flush last last reason (le_refl _) (le_refl _)
            (fun start known => (timely.running start known).1) timely.held
        · have same := Timeline.flush_silent timely.shaped (final.opened.lastTime.getD 0) reason idle.2
          exact .emptied (Timeline.flush_emptied timely.shaped _ _) (same ▸ timely.inTime)
            (same ▸ timely.ordered) (same ▸ timely.ended)
      exact ⟨flushed.inTime,flushed.ordered⟩
    · obtain ⟨doomed,before,event,after,state,split,reaches,stale⟩ := bad
      constructor
      · intro law
        obtain ⟨entry,member,violates⟩ := doomed.finish reason
        exact absurd (law.inTime entry member) violates
      · intro fresh
        exact absurd stale (fresh before event after state split reaches)

private theorem neverStale_latest (initialState : List (Coordinate × ℤ)) (maxSeconds : ℚ)
    (microbatchMaxUpdates : ℕ) (events : List (Event ℚ)) :
    NeverStale initialState maxSeconds microbatchMaxUpdates true events := by
  intro before event after state _ _ stale
  cases stale.1

/-- A query, and long after it a set. -/
def lateSet : List (Event ℚ) := [⟨0,.query,none,none,none⟩,⟨100,.set,some 0,some 0,some 1⟩,
  ⟨101,.tick,none,none,none⟩]

theorem lateSet_timed : ∃ timeline, publicationTimeline [] 10 5 true lateSet = .ok timeline ∧
    timeline.flatMap Prod.snd = lateSet.take 2 ∧ TimeLaw 10 timeline := by
  obtain ⟨timeline,made,_,contents,law⟩ := publicationWindows_timed [] 10 5 true lateSet
    (by simp [lateSet,Event.WellFormed]) (by simp [lateSet]; norm_num) (by norm_num) (by norm_num)
  exact ⟨timeline,made,contents.trans (by decide),law.mpr (neverStale_latest _ _ _ _)⟩

/-- With `query_requires_latest` off, the window that the query opened ends before the set it publishes. -/
theorem lateSet_out_of_time : ¬ ∀ (initialState : List (Coordinate × ℤ)) (maxSeconds : ℚ)
    (microbatchMaxUpdates : ℕ) (queryRequiresLatest : Bool) (events : List (Event ℚ)),
    (∀ event ∈ events, event.WellFormed) → (events.map Event.timestamp).Pairwise (· ≤ ·) →
    0 < maxSeconds → 0 < microbatchMaxUpdates →
    ∀ timeline, publicationTimeline initialState maxSeconds microbatchMaxUpdates queryRequiresLatest events =
      .ok timeline → TimeLaw maxSeconds timeline := by
  intro claimed
  have late : (publicationTimeline [] 10 5 false lateSet).toOption.any (fun timeline =>
      timeline.any fun entry => entry.2.any fun event => entry.1.endTime < event.timestamp) = true := by
    decide +kernel
  obtain ⟨timeline,made,found⟩ := Checked.ok_of_any _ _ late
  have law := claimed [] 10 5 false lateSet (by simp [lateSet,Event.WellFormed])
    (by simp [lateSet]; norm_num) (by norm_num) (by norm_num) timeline made
  obtain ⟨entry,member,inside⟩ := List.any_eq_true.mp found
  obtain ⟨event,held,after⟩ := List.any_eq_true.mp inside
  have ends := (law.inTime entry member).ends event held
  exact absurd (of_decide_eq_true after) (not_lt.mpr ends)

end DynamicCssc
