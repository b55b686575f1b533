import DynamicCssc.Events

/-! What the windows of an event stream publish: replayed in order they give the matrix, and a
query sees the sets that precede it. -/
namespace DynamicCssc
open Foundation

private theorem update_instance {α β : Type} (left right : DecidableEq α) (f : α → β) (place : α) (value : β) :
    @Function.update α (fun _ => β) left f place value = @Function.update α (fun _ => β) right f place value := by
  rw [Subsingleton.elim left right]

section
variable {T : Type}

def Event.WellFormed (event : Event T) : Prop :=
  match event.kind with
  | .set => event.row.isSome = true ∧ event.col.isSome = true ∧ event.value.isSome = true
  | .tick => event.row = none ∧ event.col = none ∧ event.value = none
  | .query | .version => True

def Event.applySet (cells : Coordinate → ℤ) (event : Event T) : Coordinate → ℤ :=
  match event.kind, event.row, event.col, event.value with
  | .set, some row, some col, some value => Function.update cells ⟨row,col⟩ value
  | _, _, _, _ => cells

def applySets (cells : Coordinate → ℤ) (events : List (Event T)) : Coordinate → ℤ :=
  events.foldl Event.applySet cells

def queryTotal (events : List (Event T)) : ℕ := events.countP fun event => event.kind = .query

def replayUpdates (cells : Coordinate → ℤ) (updates : List NetUpdate) : Coordinate → ℤ :=
  updates.foldl (fun cells update => Function.update cells update.coordinate update.after) cells

def replayWindows (cells : Coordinate → ℤ) (windows : List (PublicationWindow T)) : Coordinate → ℤ :=
  windows.foldl (fun cells window => replayUpdates cells window.updates) cells

def countedQueries (windows : List (PublicationWindow T)) : ℕ :=
  (windows.map PublicationWindow.queryCount).sum

/-- The updates of a window, against the matrix before it. -/
structure NetsFrom (base : Coordinate → ℤ) (updates : List NetUpdate) : Prop where
  sorted : updates.Pairwise fun left right => left.coordinate < right.coordinate
  changes : ∀ update ∈ updates, update.isNoop = false
  before : ∀ update ∈ updates, update.before = base update.coordinate

private theorem netUpdates_nets (base : Coordinate → ℤ) (pending : Netting.Pending Coordinate)
    (began : Netting.Over base pending) : NetsFrom base (netUpdates pending) := by
  refine ⟨?_,?_,?_⟩
  · exact List.pairwise_map.mpr began.net_sorted
  · intro update member
    obtain ⟨entry,inside,rfl⟩ := List.mem_map.mp member
    simpa [NetUpdate.isNoop] using ((Netting.Over.mem_net entry).mp inside).2.2.2
  · intro update member
    obtain ⟨entry,inside,rfl⟩ := List.mem_map.mp member
    exact began.net_before entry inside

private theorem netUpdates_replay (base : Coordinate → ℤ) (pending : Netting.Pending Coordinate)
    (began : Netting.Over base pending) :
    replayUpdates base (netUpdates pending) = Netting.read pending.state := by
  rw [← began.replay_net,replayUpdates,netUpdates,List.foldl_map,Netting.replay]
  congr 1
  funext cells update
  exact update_instance _ _ _ _ _

@[simp] theorem applySets_concat (cells : Coordinate → ℤ) (events : List (Event T)) (event : Event T) :
    applySets cells (events ++ [event]) = event.applySet (applySets cells events) := by
  simp [applySets]

@[simp] theorem replayWindows_concat (cells : Coordinate → ℤ) (windows : List (PublicationWindow T))
    (window : PublicationWindow T) : replayWindows cells (windows ++ [window]) =
      replayUpdates (replayWindows cells windows) window.updates := by
  simp [replayWindows]

@[simp] theorem countedQueries_concat (windows : List (PublicationWindow T))
    (window : PublicationWindow T) :
    countedQueries (windows ++ [window]) = countedQueries windows + window.queryCount := by
  simp [countedQueries]

@[simp] theorem queryTotal_concat (events : List (Event T)) (event : Event T) :
    queryTotal (events ++ [event]) = queryTotal events + if event.kind = .query then 1 else 0 := by
  simp [queryTotal,List.countP_singleton]

private theorem queryTotal_split (before after : List (Event T)) (query : Event T) (asks : query.kind = .query) :
    queryTotal before < queryTotal (before ++ query :: after) := by
  rw [queryTotal,queryTotal,List.countP_append,List.countP_cons_of_pos (by simpa using asks)]
  omega

private theorem concat_split {α : Type} {items before after : List α} {last item : α}
    (same : items ++ [last] = before ++ item :: after) :
    (after = [] ∧ before = items ∧ item = last) ∨
      ∃ rest, after = rest ++ [last] ∧ items = before ++ item :: rest := by
  rcases List.eq_nil_or_concat after with rfl | ⟨rest,other,rfl⟩
  · have parts := List.append_inj' same rfl
    exact .inl ⟨rfl,parts.1.symm,(List.singleton_inj.mp parts.2).symm⟩
  · rw [List.concat_eq_append,← List.cons_append,← List.append_assoc] at same
    have parts := List.append_inj' same rfl
    refine .inr ⟨rest,?_,parts.1⟩
    rw [List.concat_eq_append,List.singleton_inj.mp parts.2]

/-- Some window counts the query after these events, and is replayed to the matrix they leave. -/
def Answered (initial : Coordinate → ℤ) (windows : List (PublicationWindow T))
    (before : List (Event T)) : Prop :=
  ∃ earlier window later, windows = earlier ++ window :: later ∧
    countedQueries earlier ≤ queryTotal before ∧
    queryTotal before < countedQueries (earlier ++ [window]) ∧
    replayWindows initial (earlier ++ [window]) = applySets initial before

theorem Answered.more {initial : Coordinate → ℤ} {windows : List (PublicationWindow T)}
    {before : List (Event T)} (answered : Answered initial windows before)
    (more : List (PublicationWindow T)) : Answered initial (windows ++ more) before := by
  obtain ⟨earlier,window,later,rfl,facts⟩ := answered
  exact ⟨earlier,window,later ++ more,by simp,facts⟩

/-- The windows so far publish the matrix up to the open batch. -/
structure Netted (initial : Coordinate → ℤ) (queryRequiresLatest : Bool) (events : List (Event T))
    (windows : List (PublicationWindow T)) (opened : OpenWindow T) : Prop where
  began : Netting.Over (replayWindows initial windows) opened.pending
  state : Netting.read opened.pending.state = applySets initial events
  queries : countedQueries windows + opened.pendingQueries = queryTotal events
  nets : ∀ earlier window later, windows = earlier ++ window :: later →
    NetsFrom (replayWindows initial earlier) window.updates
  answered : queryRequiresLatest = true → ∀ before query after, events = before ++ query :: after →
    query.kind = .query → queryTotal before < countedQueries windows → Answered initial windows before
  -- nothing is set while a query waits
  waiting : queryRequiresLatest = true → ∀ before query after, events = before ++ query :: after →
    query.kind = .query → countedQueries windows ≤ queryTotal before →
    applySets initial before = applySets initial events

namespace Netted

variable {initial : Coordinate → ℤ} {queryRequiresLatest : Bool} {events : List (Event T)}
  {windows : List (PublicationWindow T)} {opened : OpenWindow T}

theorem start (initialState : List (Coordinate × ℤ)) :
    Netted (Netting.read initialState) queryRequiresLatest ([] : List (Event T)) []
      (OpenWindow.start initialState) := by
  refine ⟨Netting.Over.start _,rfl,rfl,?_,?_,?_⟩
  · intro earlier window later same
    simp at same
  · intro _ before query after same
    simp at same
  · intro _ before query after same
    simp at same

theorem congr (netted : Netted initial queryRequiresLatest events windows opened)
    (other : OpenWindow T) (pending : other.pending = opened.pending)
    (queries : other.pendingQueries = opened.pendingQueries) :
    Netted initial queryRequiresLatest events windows other := by
  obtain ⟨began,state,total,nets,answered,waiting⟩ := netted
  refine ⟨?_,?_,?_,nets,answered,waiting⟩
  · rw [pending]
    exact began
  · rw [pending]
    exact state
  · rw [queries]
    exact total

theorem flush (netted : Netted initial queryRequiresLatest events windows opened) (endTime : T)
    (reason : String) : Netted initial queryRequiresLatest events
      (windows ++ (opened.flush endTime reason).2) (opened.flush endTime reason).1 := by
  rw [OpenWindow.flush]
  split
  · rw [List.append_nil]
    exact netted.congr _ rfl rfl
  · obtain ⟨began,state,queries,nets,answered,waiting⟩ := netted
    have replayed : replayUpdates (replayWindows initial windows) (netUpdates opened.pending) =
        Netting.read opened.pending.state := netUpdates_replay _ _ began
    have counted : countedQueries windows + opened.pendingQueries = queryTotal events := queries
    refine ⟨?_,state,?_,?_,?_,?_⟩
    · rw [replayWindows_concat,replayed]
      exact Netting.Over.clear _
    · simpa using counted
    · intro earlier window later same
      rcases concat_split same with ⟨_,rfl,rfl⟩ | ⟨rest,_,old⟩
      · exact netUpdates_nets _ _ began
      · exact nets earlier window rest old
    · intro latest before query after same asks below
      by_cases old : queryTotal before < countedQueries windows
      · exact (answered latest before query after same asks old).more _
      · refine ⟨windows,_,[],rfl,not_lt.mp old,below,?_⟩
        rw [replayWindows_concat,replayed,state]
        exact (waiting latest before query after same asks (by omega)).symm
    · intro latest before query after same asks above
      have total := queryTotal_split before after query asks
      have above : countedQueries windows + opened.pendingQueries ≤ queryTotal before := by
        simpa using above
      rw [← same] at total
      omega

theorem pass (netted : Netted initial queryRequiresLatest events windows opened) (event : Event T)
    (calm : event.kind = .tick ∨ event.kind = .version) :
    Netted initial queryRequiresLatest (events ++ [event]) windows opened := by
  obtain ⟨began,state,queries,nets,answered,waiting⟩ := netted
  have keeps : event.applySet (applySets initial events) = applySets initial events := by
    rcases calm with kind | kind <;> simp [Event.applySet,kind]
  have silent : event.kind ≠ .query := by
    rcases calm with kind | kind <;> simp [kind]
  refine ⟨began,?_,?_,nets,?_,?_⟩
  · rw [applySets_concat,keeps]
    exact state
  · rw [queryTotal_concat,if_neg silent]
    exact queries
  · intro latest before query after same asks below
    rcases concat_split same with ⟨_,_,rfl⟩ | ⟨rest,_,old⟩
    · exact absurd asks silent
    · exact answered latest before query rest old asks below
  · intro latest before query after same asks above
    rw [applySets_concat,keeps]
    rcases concat_split same with ⟨_,_,rfl⟩ | ⟨rest,_,old⟩
    · exact absurd asks silent
    · exact waiting latest before query rest old asks above

theorem set (netted : Netted initial queryRequiresLatest events windows opened) (event : Event T)
    (kind : event.kind = .set) (row col value : ℤ) (hasRow : event.row = some row)
    (hasCol : event.col = some col) (hasValue : event.value = some value)
    (idle : queryRequiresLatest = true → opened.pendingQueries = 0) (other : OpenWindow T)
    (pending : other.pending = opened.pending.record ⟨row,col⟩ value)
    (same : other.pendingQueries = opened.pendingQueries) :
    Netted initial queryRequiresLatest (events ++ [event]) windows other := by
  obtain ⟨began,state,queries,nets,answered,waiting⟩ := netted
  have silent : event.kind ≠ .query := by simp [kind]
  refine ⟨?_,?_,?_,nets,?_,?_⟩
  · rw [pending]
    exact began.record _ _
  · rw [pending,Netting.Pending.record_state,state,applySets_concat,Event.applySet,kind,hasRow,hasCol,
      hasValue]
    exact update_instance _ _ _ _ _
  · rw [queryTotal_concat,if_neg silent,same]
    exact queries
  · intro latest before query after split asks below
    rcases concat_split split with ⟨_,_,rfl⟩ | ⟨rest,_,old⟩
    · exact absurd asks silent
    · exact answered latest before query rest old asks below
  · intro latest before query after split asks above
    rcases concat_split split with ⟨_,_,rfl⟩ | ⟨rest,_,old⟩
    · exact absurd asks silent
    · have total := queryTotal_split before rest query asks
      have none := idle latest
      rw [← old] at total
      omega

theorem query (netted : Netted initial queryRequiresLatest events windows opened) (event : Event T)
    (kind : event.kind = .query) (other : OpenWindow T) (pending : other.pending = opened.pending)
    (more : other.pendingQueries = opened.pendingQueries + 1) :
    Netted initial queryRequiresLatest (events ++ [event]) windows other := by
  obtain ⟨began,state,queries,nets,answered,waiting⟩ := netted
  have keeps : event.applySet (applySets initial events) = applySets initial events := by
    simp [Event.applySet,kind]
  refine ⟨?_,?_,?_,nets,?_,?_⟩
  · rw [pending]
    exact began
  · rw [applySets_concat,keeps,pending]
    exact state
  · rw [queryTotal_concat,if_pos kind,more]
    omega
  · intro latest before query after same asks below
    rcases concat_split same with ⟨_,rfl,_⟩ | ⟨rest,_,old⟩
    · omega
    · exact answered latest before query rest old asks below
  · intro latest before query after same asks above
    rw [applySets_concat,keeps]
    rcases concat_split same with ⟨_,rfl,_⟩ | ⟨rest,_,old⟩
    · rfl
    · exact waiting latest before query rest old asks above

end Netted
end

section
variable {T : Type} {initial : Coordinate → ℤ}
  {queryRequiresLatest : Bool} {events : List (Event T)} {windows : List (PublicationWindow T)}
  {opened : OpenWindow T}

namespace Netted

theorem closeQuery [LinearOrder T] (netted : Netted initial queryRequiresLatest events windows opened) (event : Event T) :
    Netted initial queryRequiresLatest events
      (windows ++ (opened.closeQuery queryRequiresLatest event).2)
      (opened.closeQuery queryRequiresLatest event).1 := by
  rw [OpenWindow.closeQuery]
  split
  · exact netted.flush _ _
  · simpa using netted

theorem closeMicrobatch [LinearOrder T] (netted : Netted initial queryRequiresLatest events windows opened)
    (previous : Option T) (event : Event T) :
    Netted initial queryRequiresLatest events (windows ++ (opened.closeMicrobatch previous event).2)
      (opened.closeMicrobatch previous event).1 := by
  rw [OpenWindow.closeMicrobatch.eq_def]
  split
  · simpa using netted
  · split
    · exact netted.flush _ _
    · simpa using netted

theorem closeFreshness [LinearOrder T] [Add T] [Sub T] (netted : Netted initial queryRequiresLatest events windows opened)
    (maxSeconds : T) (event : Event T) :
    Netted initial queryRequiresLatest events (windows ++ (opened.closeFreshness maxSeconds event).2)
      (opened.closeFreshness maxSeconds event).1 := by
  rw [OpenWindow.closeFreshness]
  split
  · simpa using netted
  · split
    · exact netted.flush _ _
    · simpa using netted

theorem closeBefore [LinearOrder T] [Add T] [Sub T]
    (netted : Netted initial queryRequiresLatest events windows opened) (maxSeconds : T) (event : Event T) :
    Netted initial queryRequiresLatest events
      (windows ++ (opened.closeBefore maxSeconds queryRequiresLatest event).2)
      (opened.closeBefore maxSeconds queryRequiresLatest event).1 := by
  have timed : Netted initial queryRequiresLatest events windows
      { opened with lastTime := some event.timestamp } := netted.congr _ rfl rfl
  have closed := ((timed.closeQuery event).closeMicrobatch opened.lastTime event).closeFreshness maxSeconds event
  rw [List.append_assoc,List.append_assoc,← List.append_assoc (OpenWindow.closeQuery _ _ _).2] at closed
  exact closed

end Netted

private theorem flush_idle (endTime : T) (reason : String) (opened : OpenWindow T)
    (idle : opened.pendingQueries = 0) : (opened.flush endTime reason).1.pendingQueries = 0 := by
  rw [OpenWindow.flush]
  split
  · exact idle
  · rfl

theorem closed_idle [LinearOrder T] [Add T] [Sub T] (maxSeconds : T) (event : Event T)
    (other : event.kind ≠ .query) (latest : queryRequiresLatest = true) :
    (opened.closeBefore maxSeconds queryRequiresLatest event).1.pendingQueries = 0 := by
  have first (timed : OpenWindow T) :
      (timed.closeQuery queryRequiresLatest event).1.pendingQueries = 0 := by
    rw [OpenWindow.closeQuery]
    split
    · rename_i closes
      rw [OpenWindow.flush,if_neg fun empty => closes.2.1 empty.2]
    · rename_i stays
      by_contra waits
      exact stays ⟨latest,waits,.inl other⟩
  have second (queried : OpenWindow T) (idle : queried.pendingQueries = 0) :
      (queried.closeMicrobatch opened.lastTime event).1.pendingQueries = 0 := by
    rw [OpenWindow.closeMicrobatch.eq_def]
    split
    · exact idle
    · split
      · exact flush_idle _ _ _ idle
      · exact idle
  have third (batched : OpenWindow T) (idle : batched.pendingQueries = 0) :
      (batched.closeFreshness maxSeconds event).1.pendingQueries = 0 := by
    rw [OpenWindow.closeFreshness]
    split
    · exact idle
    · split
      · exact flush_idle _ _ _ idle
      · exact idle
  exact third _ (second _ (first _))

theorem flush_keeps_time (endTime : T) (reason : String) (opened : OpenWindow T) :
    (opened.flush endTime reason).1.lastTime = opened.lastTime := by
  rw [OpenWindow.flush]
  split <;> rfl

theorem closes_set_time [LinearOrder T] [Add T] [Sub T] (maxSeconds : T) (event : Event T) :
    (opened.closeBefore maxSeconds queryRequiresLatest event).1.lastTime = some event.timestamp := by
  have first (timed : OpenWindow T) :
      (timed.closeQuery queryRequiresLatest event).1.lastTime = timed.lastTime := by
    rw [OpenWindow.closeQuery]
    split
    · exact flush_keeps_time _ _ _
    · rfl
  have second (queried : OpenWindow T) :
      (queried.closeMicrobatch opened.lastTime event).1.lastTime = queried.lastTime := by
    rw [OpenWindow.closeMicrobatch.eq_def]
    split
    · rfl
    · split
      · exact flush_keeps_time _ _ _
      · rfl
  have third (batched : OpenWindow T) :
      (batched.closeFreshness maxSeconds event).1.lastTime = batched.lastTime := by
    rw [OpenWindow.closeFreshness]
    split
    · rfl
    · split
      · exact flush_keeps_time _ _ _
      · rfl
  exact ((third _).trans (second _)).trans (first _)

private theorem receive_netted (microbatchMaxUpdates : ℕ) (event : Event T) (formed : event.WellFormed)
    (netted : Netted initial queryRequiresLatest events windows opened)
    (idle : event.kind ≠ .query → queryRequiresLatest = true → opened.pendingQueries = 0) :
    ∃ next, opened.receive microbatchMaxUpdates event = .ok next ∧ next.1.lastTime = opened.lastTime ∧
      Netted initial queryRequiresLatest (events ++ [event]) (windows ++ next.2) next.1 := by
  rw [OpenWindow.receive]
  cases kind : event.kind with
  | set =>
    rw [Event.WellFormed,kind] at formed
    obtain ⟨hasRow,hasCol,hasValue⟩ := formed
    obtain ⟨row,rowIs⟩ := Option.isSome_iff_exists.mp hasRow
    obtain ⟨col,colIs⟩ := Option.isSome_iff_exists.mp hasCol
    obtain ⟨value,valueIs⟩ := Option.isSome_iff_exists.mp hasValue
    rw [rowIs,colIs,valueIs]
    refine ⟨_,rfl,rfl,?_⟩
    rw [List.append_nil]
    exact netted.set event kind row col value rowIs colIs valueIs (idle (by simp [kind])) _ rfl rfl
  | tick =>
    rw [Event.WellFormed,kind] at formed
    refine ⟨(opened,[]),?_,rfl,?_⟩
    · exact Checked.pass _ _ _ (Checked.require_true _ _ formed) rfl
    · rw [List.append_nil]
      exact netted.pass event (.inl kind)
  | query =>
    refine ⟨_,rfl,rfl,?_⟩
    rw [List.append_nil]
    exact netted.query event kind _ rfl rfl
  | version =>
    exact ⟨_,rfl,flush_keeps_time _ _ _,(netted.pass event (.inr kind)).flush _ _⟩

private theorem advance_netted [LinearOrder T] [Add T] [Sub T] (maxSeconds : T) (microbatchMaxUpdates : ℕ)
    (event : Event T) (formed : event.WellFormed)
    (ordered : ∀ last, opened.lastTime = some last → last ≤ event.timestamp)
    (netted : Netted initial queryRequiresLatest events windows opened) :
    ∃ next, opened.advance maxSeconds microbatchMaxUpdates queryRequiresLatest event = .ok next ∧
      next.1.lastTime = some event.timestamp ∧
      Netted initial queryRequiresLatest (events ++ [event]) (windows ++ next.2) next.1 := by
  have passes : (opened.lastTime.all fun last => last ≤ event.timestamp) = true := by
    cases known : opened.lastTime with
    | none => rfl
    | some last => simpa using ordered last known
  obtain ⟨received,runs,time,done⟩ := receive_netted microbatchMaxUpdates event formed
    (netted.closeBefore maxSeconds event) (fun other latest => closed_idle maxSeconds event other latest)
  refine ⟨(received.1,(opened.closeBefore maxSeconds queryRequiresLatest event).2 ++ received.2),?_,?_,?_⟩
  · refine Checked.pass _ _ _ (Checked.require_true _ _ passes) ?_
    dsimp only
    rw [runs]
    rfl
  · exact time.trans (closes_set_time maxSeconds event)
  · rw [← List.append_assoc]
    exact done

private theorem emitWindows_netted [LinearOrder T] [Add T] [Sub T] (maxSeconds : T) (microbatchMaxUpdates : ℕ)
    (later : List (Event T)) (formed : ∀ event ∈ later, event.WellFormed)
    (ordered : (later.map Event.timestamp).Pairwise (· ≤ ·)) (events : List (Event T))
    (windows : List (PublicationWindow T)) (opened : OpenWindow T)
    (reached : ∀ last, opened.lastTime = some last → ∀ event ∈ later, last ≤ event.timestamp)
    (netted : Netted initial queryRequiresLatest events windows opened) :
    ∃ final, later.foldlM (emitWindows maxSeconds microbatchMaxUpdates queryRequiresLatest)
        (opened,windows) = .ok final ∧
      Netted initial queryRequiresLatest (events ++ later) final.2 final.1 := by
  induction later generalizing events windows opened with
  | nil => exact ⟨_,rfl,by simpa using netted⟩
  | cons event later ih =>
    simp only [List.map_cons,List.pairwise_cons,List.mem_map,forall_exists_index,and_imp,
      forall_apply_eq_imp_iff₂] at ordered
    obtain ⟨next,steps,time,after⟩ := advance_netted maxSeconds microbatchMaxUpdates event
      (formed event (by simp)) (fun last known => reached last known event (by simp)) netted
    obtain ⟨final,runs,done⟩ := ih (fun other member => formed other (by simp [member])) ordered.2
      (events ++ [event]) (windows ++ next.2) next.1 (by
        intro last known other member
        rw [time] at known
        rw [← Option.some.inj known]
        exact ordered.1 other member) after
    refine ⟨final,?_,by simpa using done⟩
    rw [List.foldlM_cons,Checked.bind_success]
    refine ⟨(next.1,windows ++ next.2),?_,runs⟩
    rw [emitWindows,Checked.bind_success]
    exact ⟨next,steps,rfl⟩

private theorem finish_netted [LinearOrder T] [Zero T]
    (netted : Netted initial queryRequiresLatest events windows opened) :
    ∃ final, Netted initial queryRequiresLatest events (windows ++ opened.finish queryRequiresLatest) final ∧
      final.pending.touched = [] ∧ final.pendingQueries = 0 := by
  rw [OpenWindow.finish]
  split
  · rename_i empty
    exact ⟨opened,by simpa using netted,empty⟩
  · rename_i content
    refine ⟨_,netted.flush _ _,?_⟩
    rw [OpenWindow.flush,if_neg content]
    exact ⟨rfl,rfl⟩

/-- The windows of a well formed, ordered stream net its sets, replay to its matrix, count its queries
and answer each of them with the sets before it. -/
theorem publicationWindows_net_replay_answer [LinearOrder T] [Add T] [Sub T] [Zero T]
    (initialState : List (Coordinate × ℤ)) (maxSeconds : T) (microbatchMaxUpdates : ℕ)
    (queryRequiresLatest : Bool) (events : List (Event T))
    (formed : ∀ event ∈ events, event.WellFormed)
    (ordered : (events.map Event.timestamp).Pairwise (· ≤ ·)) (freshness : 0 < maxSeconds)
    (microbatch : 0 < microbatchMaxUpdates) :
    ∃ windows, publicationWindows initialState maxSeconds microbatchMaxUpdates queryRequiresLatest events =
        .ok windows ∧
      (∀ earlier window later, windows = earlier ++ window :: later →
        NetsFrom (replayWindows (Netting.read initialState) earlier) window.updates) ∧
      replayWindows (Netting.read initialState) windows = applySets (Netting.read initialState) events ∧
      countedQueries windows = queryTotal events ∧
      (queryRequiresLatest = true → ∀ before query after, events = before ++ query :: after →
        query.kind = .query → Answered (Netting.read initialState) windows before) := by
  obtain ⟨closed,runs,netted⟩ := emitWindows_netted maxSeconds microbatchMaxUpdates events formed ordered
    [] [] (OpenWindow.start initialState) (fun last known => by cases known) (Netted.start initialState)
  obtain ⟨final,done,untouched,idle⟩ := finish_netted netted
  rw [List.nil_append] at done
  have total : countedQueries (closed.2 ++ closed.1.finish queryRequiresLatest) = queryTotal events := by
    rw [← done.queries,idle,add_zero]
  refine ⟨_,?_,done.nets,?_,total,?_⟩
  · refine Checked.pass _ _ _ (Checked.require_true _ _ freshness) ?_
    refine Checked.pass _ _ _ (Checked.require_true _ _ microbatch) ?_
    rw [runs]
    rfl
  · rw [← done.state]
    funext place
    exact (done.began.rest place (by simp [untouched])).symm
  · intro latest before query after same asks
    refine done.answered latest before query after same asks ?_
    rw [total,same]
    exact queryTotal_split before after query asks

/-- Two sets of one cell that cancel, around a query. -/
def revertedCell : List (Event ℤ) :=
  [⟨0,.set,some 0,some 1,some 5⟩,⟨0,.query,none,none,none⟩,⟨1,.set,some 0,some 1,some 0⟩,
    ⟨1,.tick,none,none,none⟩,⟨4,.query,none,none,none⟩,⟨4,.version,none,none,none⟩]

theorem revertedCell_answered : ∃ windows, publicationWindows [] 3 2 true revertedCell = .ok windows ∧
    countedQueries windows = 2 ∧
    replayWindows (fun _ => 0) windows = applySets (fun _ => 0) revertedCell := by
  obtain ⟨windows,runs,_,replayed,counted,_⟩ := publicationWindows_net_replay_answer [] 3 2 true revertedCell
    (by simp [revertedCell,Event.WellFormed]) (by simp [revertedCell]) (by norm_num) (by norm_num)
  exact ⟨windows,runs,counted.trans rfl,replayed⟩

end
end DynamicCssc
