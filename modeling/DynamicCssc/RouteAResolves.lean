import DynamicCssc.RouteAWindows

/-! The resolver accepts every window of the compiler, and what the windows of a trace say together. -/
namespace DynamicCssc.RouteA
open Foundation

section
variable {times : List ℚ} {transitionsByGroup : List (List RouteASetTransition)} {queryCounts : List ℕ}

private theorem appendReferenceKeys_ok (first last : ℕ) (references : List RouteASetTransitionReference)
    (keys : List ReferenceKey) (ordered : (keys ++ references.map referenceKey).IsChain (· < ·))
    (inside : ∀ reference ∈ references, first ≤ reference.acceptedGroupOrdinal ∧
      reference.acceptedGroupOrdinal ≤ last) :
    references.foldlM (appendReferenceKey first last) keys = .ok (keys ++ references.map referenceKey) := by
  induction references generalizing keys with
  | nil => simp [pure,Except.pure]
  | cons reference references ih =>
    have later : (keys.getLast?.all fun previous => previous < referenceKey reference) = true := by
      rw [List.isChain_append] at ordered
      cases known : keys.getLast? with
      | none => rfl
      | some previous => simpa using ordered.2.2 previous known (referenceKey reference) (by simp)
    have step : appendReferenceKey first last keys reference = .ok (keys ++ [referenceKey reference]) :=
      Checked.pass _ _ _ (Checked.require_true _ _ later)
        (Checked.pass _ _ _ (Checked.require_true _ _ (inside reference (by simp))) rfl)
    rw [List.foldlM_cons,step,Checked.ok_bind,ih]
    · simp
    · simpa using ordered
    · exact fun other member => inside other (by simp [member])

private theorem resolveRunning_ok (first count : ℕ) (small : ∀ group, setCountAt transitionsByGroup group ≤ 2)
    (fresh : ∀ group, first < group → group ≤ first + count →
      timeAt times group < timeAt times first + freshness)
    (batched : ∀ group, first < group → group ≤ first + count →
      microbatchCloses (referencesBetween transitionsByGroup first group).length
        (setCountAt transitionsByGroup group) = false) :
    (List.range' (first + 1) count).foldlM
        (resolveRunning times transitionsByGroup (timeAt times first + freshness))
        (transitionsAt transitionsByGroup first).length =
      .ok (referencesBetween transitionsByGroup first (first + 1 + count)).length := by
  induction count with
  | zero =>
    rw [Nat.add_zero,referencesBetween_one,groupReferences_length]
    rfl
  | succ count ih =>
    have before := ih (fun group later below => fresh group later (by omega))
      (fun group later below => batched group later (by omega))
    have early := fresh (first + 1 + count) (by omega) (by omega)
    have room := batched (first + 1 + count) (by omega) (by omega)
    have step : resolveRunning times transitionsByGroup (timeAt times first + freshness)
        (referencesBetween transitionsByGroup first (first + 1 + count)).length (first + 1 + count) =
        .ok (referencesBetween transitionsByGroup first (first + 1 + (count + 1))).length := by
      rw [← Nat.add_assoc,referencesBetween_succ _ _ _ (by omega),List.length_append,
        groupReferences_length,resolveRunning,Checked.require_true _ _ early,Checked.ok_bind]
      rw [show microbatchClosesBeforeGroup _ (transitionsAt transitionsByGroup _).length = _
        from microbatch_ok _ _ (small _),Checked.ok_bind]
      exact Checked.pass _ _ _ (Checked.require_true _ _ room) rfl
    rw [List.range'_1_concat,List.foldlM_append,before,Checked.ok_bind,List.foldlM_cons,step]
    rfl

private theorem expectedCloseTime_ok {first last version nextQuery ordinal : ℕ} {window : RouteAPublicationWindow}
    (small : ∀ group, setCountAt transitionsByGroup group ≤ 2)
    (fits : Fits times transitionsByGroup queryCounts first last version nextQuery ordinal window) :
    expectedCloseTime times transitionsByGroup times.length window (timeAt times first) last =
      .ok window.closedAt := by
  have closed := fits.closed
  rw [expectedCloseTime]
  cases reason : window.closeReason with
  | query =>
    rw [reason] at closed
    exact congrArg Except.ok closed.2.1.symm
  | finiteTraceEnd =>
    rw [reason] at closed
    obtain ⟨_,_,final,time⟩ := closed
    refine Checked.pass _ _ _ (Checked.require_true _ _ ?_) (congrArg Except.ok time.symm)
    omega
  | preGroupMicrobatch =>
    rw [reason] at closed
    obtain ⟨_,_,inside,early,closes,time⟩ := closed
    refine Checked.pass _ _ _ (Checked.require_true _ _ inside) ?_
    refine Checked.pass _ _ _ (Checked.require_true _ _ early) ?_
    rw [show microbatchClosesBeforeGroup _ (transitionsAt transitionsByGroup _).length = _
      from microbatch_ok _ _ (small _),Checked.ok_bind]
    exact Checked.pass _ _ _ (Checked.require_true _ _ closes) (congrArg Except.ok time.symm)
  | oneSecondDeadline =>
    rw [reason] at closed
    obtain ⟨_,_,inside,late,time⟩ := closed
    refine Checked.pass _ _ _ (Checked.require_true _ _ inside) ?_
    exact Checked.pass _ _ _ (Checked.require_true _ _ late) (congrArg Except.ok time.symm)

private theorem validateWindowKind_ok {first last version nextQuery ordinal : ℕ} {window : RouteAPublicationWindow}
    (fits : Fits times transitionsByGroup queryCounts first last version nextQuery ordinal window) :
    validateWindowKind window first last = .ok () := by
  have closed := fits.closed
  have after := fits.versionAfter
  have asked : window.closeReason = .query ↔ window.queryCount ≠ 0 := by
    rw [fits.queries]
    cases reason : window.closeReason with
    | query =>
      rw [reason] at closed
      simpa using closed.1
    | oneSecondDeadline =>
      rw [reason] at closed
      simpa using closed.2.1
    | preGroupMicrobatch =>
      rw [reason] at closed
      simpa using closed.2.1
    | finiteTraceEnd =>
      rw [reason] at closed
      simpa using closed.2.1
  rw [validateWindowKind,← fits.versionBefore] at *
  split
  · rename_i sets
    rw [if_neg sets] at after
    refine Checked.pass _ _ _ (Checked.require_true _ _ after) ?_
    refine Checked.pass _ _ _ (Checked.require_true _ _ ?_) (Checked.require_true _ _ ?_)
    · intro both
      exact both.2 (asked.mpr (by omega))
    · intro both
      exact asked.mp both.2 both.1
  · rename_i empty
    have empty := not_not.mp empty
    rw [if_pos empty] at after
    refine Checked.pass _ _ _ (Checked.require_true _ _ after) (Checked.require_true _ _ ?_)
    cases reason : window.closeReason with
    | query =>
      rw [reason] at closed
      exact ⟨rfl,Nat.pos_of_ne_zero (asked.mp reason),closed.2.2 empty⟩
    | oneSecondDeadline =>
      rw [reason] at closed
      exact absurd empty closed.1
    | preGroupMicrobatch =>
      rw [reason] at closed
      exact absurd empty closed.1
    | finiteTraceEnd =>
      rw [reason] at closed
      exact absurd empty closed.1

private theorem resolveRange_ok {first last version nextQuery ordinal : ℕ} {window : RouteAPublicationWindow}
    (small : ∀ group, setCountAt transitionsByGroup group ≤ 2)
    (fits : Fits times transitionsByGroup queryCounts first last version nextQuery ordinal window) :
    resolveRange times transitionsByGroup window first last = .ok ⟨timeAt times first,
      (window.orderedSetTransitionReferences.map referenceKey).filterMap (resolveKey transitionsByGroup)⟩ := by
  have order := fits.order
  have references := fits.references
  have firstQuery := fits.firstQuery
  rw [← fits.queries] at firstQuery
  have keys : window.orderedSetTransitionReferences.foldlM (appendReferenceKey first last) [] =
      .ok (window.orderedSetTransitionReferences.map referenceKey) := by
    refine appendReferenceKeys_ok first last _ [] ?_ ?_
    · rw [List.nil_append,references]
      exact List.isChain_iff_pairwise.mpr (references_ordered transitionsByGroup first (last + 1))
    · intro reference member
      rw [references,mem_referencesBetween] at member
      exact ⟨member.1.1,by omega⟩
  have head : ((window.orderedSetTransitionReferences.head?.map
      RouteASetTransitionReference.acceptedGroupOrdinal).all fun group => first = group) = true := by
    by_cases empty : window.orderedSetTransitionReferences = []
    · rw [empty]
      rfl
    · obtain ⟨rest,shape⟩ := references_head first (last + 1) (by omega) (fits.starts empty)
      rw [references,shape]
      simp
  rw [resolveRange]
  refine Checked.pass _ _ _ (Checked.require_true _ _ ?_) ?_
  · intro asks
    rw [firstQuery,if_neg asks]
    rfl
  refine Checked.pass _ _ _ (Checked.require_true _ _ ?_) ?_
  · intro silent
    rw [firstQuery,if_pos silent]
  dsimp only
  rw [keys,Checked.ok_bind]
  refine Checked.pass _ _ _ (Checked.require_true _ _ head) ?_
  refine Checked.pass _ _ _ (Checked.require_true _ _ ?_) ?_
  · rw [keysBetween_eq,references]
  refine Checked.pass _ _ _ (validateWindowKind_ok fits) ?_
  have close : (do
      let expected ← expectedCloseTime times transitionsByGroup times.length window (timeAt times first) last
      Checked.require (window.closedAt = expected)
        (scheduleError "Route A window close time does not match its exact reason")
      return (⟨timeAt times first,(window.orderedSetTransitionReferences.map referenceKey).filterMap
        (resolveKey transitionsByGroup)⟩ : RouteAResolvedWindow)) =
      .ok ⟨timeAt times first,(window.orderedSetTransitionReferences.map referenceKey).filterMap
        (resolveKey transitionsByGroup)⟩ := by
    rw [expectedCloseTime_ok small fits,Checked.ok_bind]
    exact Checked.pass _ _ _ (Checked.require_true _ _ rfl) rfl
  split
  · have running := @resolveRunning_ok times transitionsByGroup first (last - first) small
      (fun group later below => fits.fresh group later (by omega))
      (fun group later below => fits.batched group later (by omega))
    rw [running,Checked.ok_bind]
    exact close
  · exact close

/-! What covering windows say together. -/

theorem Covered.references {stop version nextQuery : ℕ} {windows : List RouteAPublicationWindow}
    (covered : Covered times transitionsByGroup queryCounts stop version nextQuery windows) :
    windows.flatMap RouteAPublicationWindow.orderedSetTransitionReferences =
      referencesBetween transitionsByGroup 0 stop := by
  induction covered with
  | start => simp
  | skip _ empty _ ih => rw [ih,referencesBetween_succ _ _ _ (by omega),empty,groupReferences,
      List.range_zero,List.map_nil,List.append_nil]
  | window window _ fits ih =>
    have order := fits.order
    rw [List.flatMap_append,ih,List.flatMap_singleton,fits.references,
      referencesBetween_append _ _ _ _ (by omega) (by omega)]

def queriesBefore (queryCounts : List ℕ) (group : ℕ) : ℕ :=
  ((List.range group).map (queryCountAt queryCounts)).sum

private theorem queriesBefore_succ (group : ℕ) :
    queriesBefore queryCounts (group + 1) = queriesBefore queryCounts group + queryCountAt queryCounts group := by
  simp [queriesBefore,List.range_succ]

/-- The query batches of the groups below `stop`, with their first ordinals. -/
def queryBatches (queryCounts : List ℕ) (stop : ℕ) : List (Option ℕ × Option ℕ × ℕ) :=
  ((List.range stop).filter fun group => queryCountAt queryCounts group ≠ 0).map fun group =>
    (some group,some (queriesBefore queryCounts group),queryCountAt queryCounts group)

def carriedBatches (windows : List RouteAPublicationWindow) : List (Option ℕ × Option ℕ × ℕ) :=
  (windows.filter fun window => window.queryCount ≠ 0).map fun window =>
    (window.lastEventGroupOrdinalOrNull,window.firstGlobalQueryOrdinalOrNull,window.queryCount)

/-- Groups that do not ask change nothing. -/
private theorem queries_silent (first last : ℕ) (order : first ≤ last)
    (silent : ∀ group, first ≤ group → group < last → queryCountAt queryCounts group = 0) :
    queriesBefore queryCounts last = queriesBefore queryCounts first ∧
      queryBatches queryCounts last = queryBatches queryCounts first := by
  induction last, order using Nat.le_induction with
  | base => exact ⟨rfl,rfl⟩
  | succ last order ih =>
    obtain ⟨before,batches⟩ := ih fun group later below => silent group later (by omega)
    have here := silent last order (by omega)
    refine ⟨?_,?_⟩
    · rw [queriesBefore_succ,here,before,Nat.add_zero]
    · rw [← batches,queryBatches,List.range_succ,List.filter_append]
      simp [here,queryBatches]

theorem Covered.queries {stop version nextQuery : ℕ} {windows : List RouteAPublicationWindow}
    (covered : Covered times transitionsByGroup queryCounts stop version nextQuery windows) :
    nextQuery = queriesBefore queryCounts stop ∧ carriedBatches windows = queryBatches queryCounts stop := by
  induction covered with
  | start => exact ⟨rfl,rfl⟩
  | skip _ _ silent ih =>
    obtain ⟨next,batches⟩ := ih
    obtain ⟨before,same⟩ := @queries_silent queryCounts _ _ (Nat.le_succ _)
      (fun group later below => by rw [show group = _ from le_antisymm (Nat.le_of_lt_succ below) later,silent])
    exact ⟨next.trans before.symm,batches.trans same.symm⟩
  | @window first last _ asked windows window _ fits ih =>
    obtain ⟨next,batches⟩ := ih
    obtain ⟨before,same⟩ := queries_silent first last fits.order fits.silent
    refine ⟨by rw [queriesBefore_succ,before,next,fits.queries],?_⟩
    have split : queryBatches queryCounts (last + 1) = queryBatches queryCounts last ++
        if queryCountAt queryCounts last = 0 then []
        else [(some last,some (queriesBefore queryCounts last),queryCountAt queryCounts last)] := by
      rw [queryBatches,List.range_succ,List.filter_append,List.map_append]
      by_cases none : queryCountAt queryCounts last = 0 <;> simp [none,queryBatches]
    have carried : carriedBatches (windows ++ [window]) = carriedBatches windows ++
        if queryCountAt queryCounts last = 0 then []
        else [(some last,some asked,queryCountAt queryCounts last)] := by
      rw [carriedBatches,List.filter_append,List.map_append,carriedBatches]
      congr 1
      by_cases none : queryCountAt queryCounts last = 0
      · simp [fits.queries,none]
      · simp [fits.queries,none,fits.range.2,fits.firstQuery]
    rw [split,carried,batches,same,before,next]

theorem Covered.split {stop version nextQuery : ℕ} {windows : List RouteAPublicationWindow}
    (covered : Covered times transitionsByGroup queryCounts stop version nextQuery windows)
    (earlier later : List RouteAPublicationWindow) (window : RouteAPublicationWindow)
    (same : windows = earlier ++ window :: later) : ∃ first last version nextQuery,
      Covered times transitionsByGroup queryCounts first version nextQuery earlier ∧
        Fits times transitionsByGroup queryCounts first last version nextQuery earlier.length window := by
  induction covered generalizing later with
  | start => simp at same
  | skip _ _ _ ih => exact ih later same
  | window last covered fits ih =>
    rcases List.eq_nil_or_concat later with rfl | ⟨rest,final,rfl⟩
    · obtain ⟨rfl,one⟩ := List.append_inj' same rfl
      rw [List.singleton_inj.mp one] at fits
      exact ⟨_,_,_,_,covered,fits⟩
    · rw [List.concat_eq_append,← List.cons_append,← List.append_assoc] at same
      exact ih rest (List.append_inj' same rfl).1

theorem Covered.version {stop version nextQuery : ℕ} {windows : List RouteAPublicationWindow}
    (covered : Covered times transitionsByGroup queryCounts stop version nextQuery windows) :
    version = windows.countP fun window => window.orderedSetTransitionReferences ≠ [] := by
  induction covered with
  | start => rfl
  | skip _ _ _ ih => exact ih
  | window window _ fits ih =>
    rw [fits.versionAfter,List.countP_append,List.countP_singleton,ih]
    by_cases empty : window.orderedSetTransitionReferences = [] <;> simp [empty]

theorem Covered.range {stop version nextQuery : ℕ} {windows : List RouteAPublicationWindow}
    (covered : Covered times transitionsByGroup queryCounts stop version nextQuery windows) :
    (∀ window ∈ windows, ∀ last ∈ window.lastEventGroupOrdinalOrNull, last < stop) ∧
      windows.Pairwise fun left right => ∀ last ∈ left.lastEventGroupOrdinalOrNull,
        ∀ first ∈ right.firstEventGroupOrdinalOrNull, last < first := by
  induction covered with
  | start => simp
  | skip _ _ _ ih => exact ⟨fun window member last known => (ih.1 window member last known).trans (by omega),ih.2⟩
  | window window _ fits ih =>
    obtain ⟨below,apart⟩ := ih
    have order := fits.order
    refine ⟨?_,List.pairwise_append.mpr ⟨apart,List.pairwise_singleton _ _,?_⟩⟩
    · intro other member last known
      rcases List.mem_append.mp member with old | new
      · have := below other old last known
        omega
      · rw [List.mem_singleton.mp new,fits.range.2] at known
        cases known
        omega
    · intro left inLeft right inRight last known first starts
      rw [List.mem_singleton.mp inRight,fits.range.1] at starts
      cases starts
      exact below left inLeft last known

private theorem references_bounded {first last version nextQuery ordinal : ℕ} {window : RouteAPublicationWindow}
    (small : ∀ group, setCountAt transitionsByGroup group ≤ 2)
    (fits : Fits times transitionsByGroup queryCounts first last version nextQuery ordinal window) :
    window.orderedSetTransitionReferences.length ≤ 65 := by
  have upto : ∀ stop, first ≤ stop → stop ≤ last →
      (referencesBetween transitionsByGroup first (stop + 1)).length ≤ 65 := by
    intro stop order
    induction stop, order using Nat.le_induction with
    | base =>
      intro _
      rw [referencesBetween_one,groupReferences_length]
      exact (small first).trans (by omega)
    | succ stop order ih =>
      intro below
      have before := ih (by omega)
      have room := fits.batched (stop + 1) (by omega) below
      have few := small (stop + 1)
      rw [referencesBetween_succ _ _ _ (by omega),List.length_append,groupReferences_length]
      generalize setCountAt transitionsByGroup (stop + 1) = count at *
      interval_cases count
      · omega
      · simp only [microbatchCloses,decide_eq_false_iff_not] at room
        omega
      · simp only [microbatchCloses,decide_eq_false_iff_not] at room
        omega
  rw [fits.references]
  exact upto last fits.order le_rfl

private theorem timeAt_mono (increasing : times.Pairwise (· < ·)) (left right : ℕ) (order : left ≤ right)
    (inside : right < times.length) : timeAt times left ≤ timeAt times right := by
  rw [timeAt,timeAt,List.getElem?_eq_getElem inside,List.getElem?_eq_getElem (by omega)]
  rcases Nat.lt_or_eq_of_le order with before | rfl
  · exact (List.pairwise_iff_getElem.mp increasing left right _ _ before).le
  · exact le_rfl

private theorem references_fresh {first last version nextQuery ordinal : ℕ} {window : RouteAPublicationWindow}
    (increasing : times.Pairwise (· < ·))
    (fits : Fits times transitionsByGroup queryCounts first last version nextQuery ordinal window)
    (left right : RouteASetTransitionReference)
    (inLeft : left ∈ window.orderedSetTransitionReferences)
    (inRight : right ∈ window.orderedSetTransitionReferences) :
    timeAt times right.acceptedGroupOrdinal - timeAt times left.acceptedGroupOrdinal < freshness := by
  have inside := fits.inside
  rw [fits.references,mem_referencesBetween] at inLeft inRight
  have early := timeAt_mono increasing first left.acceptedGroupOrdinal inLeft.1.1 (by omega)
  have late : timeAt times right.acceptedGroupOrdinal < timeAt times first + freshness := by
    rcases Nat.lt_or_eq_of_le inRight.1.1 with after | same
    · exact fits.fresh _ after (by omega)
    · rw [← same,freshness]
      linarith
  linarith

end

def referencedSet (groups : List RouteAAcceptedGroup) (reference : RouteASetTransitionReference) :
    Option RouteASetTransition :=
  (groups[reference.acceptedGroupOrdinal]?).bind fun group =>
    group.transitions[reference.transitionOrdinalWithinGroup]?

def groupTimeAt (groups : List RouteAAcceptedGroup) (group : ℕ) : ℚ := timeAt (groups.map groupTime) group

/-- What the windows of a trace say together. -/
structure TraceWindows (groups : List RouteAAcceptedGroup) (queryCounts : List ℕ)
    (windows : List RouteAPublicationWindow) : Prop where
  resolved : ∀ window ∈ windows, ∃ resolved, resolveRouteAPublicationWindow groups window = .ok resolved ∧
    resolved.orderedSetTransitions.map some =
      window.orderedSetTransitionReferences.map (referencedSet groups)
  references : windows.flatMap RouteAPublicationWindow.orderedSetTransitionReferences =
    referencesBetween (groups.map RouteAAcceptedGroup.transitions) 0 groups.length
  queries : carriedBatches windows = queryBatches queryCounts groups.length
  ordinals : ∀ earlier window later, windows = earlier ++ window :: later →
    window.windowOrdinal = earlier.length
  versions : ∀ earlier window later, windows = earlier ++ window :: later →
    window.versionBefore = (earlier.countP fun other => other.orderedSetTransitionReferences ≠ []) ∧
      window.versionAfter = window.versionBefore +
        if window.orderedSetTransitionReferences = [] then 0 else 1
  ranges : windows.Pairwise fun left right => ∀ last ∈ left.lastEventGroupOrdinalOrNull,
    ∀ first ∈ right.firstEventGroupOrdinalOrNull, last < first
  seen : ∀ earlier window later, windows = earlier ++ window :: later →
    ∃ last, window.lastEventGroupOrdinalOrNull = some last ∧
      (earlier ++ [window]).flatMap RouteAPublicationWindow.orderedSetTransitionReferences =
        referencesBetween (groups.map RouteAAcceptedGroup.transitions) 0 (last + 1)
  bounded : ∀ window ∈ windows, window.orderedSetTransitionReferences.length ≤ 65
  fresh : ∀ window ∈ windows, ∀ left ∈ window.orderedSetTransitionReferences,
    ∀ right ∈ window.orderedSetTransitionReferences,
      groupTimeAt groups right.acceptedGroupOrdinal - groupTimeAt groups left.acceptedGroupOrdinal < freshness

private theorem Accepted.setCountAt_small {groups : List RouteAAcceptedGroup} {times : List ℚ}
    {transitionsByGroup : List (List RouteASetTransition)} (accepted : Accepted groups times transitionsByGroup)
    (group : ℕ) : setCountAt transitionsByGroup group ≤ 2 := by
  rw [setCountAt,transitionsAt,accepted.transitions,List.getElem?_map]
  cases found : groups[group]? with
  | none => simp
  | some held => exact accepted.small held (List.mem_of_getElem? found)

private theorem resolved_references (groups : List RouteAAcceptedGroup) (stop first : ℕ)
    (references : List RouteASetTransitionReference)
    (same : references = referencesBetween (groups.map RouteAAcceptedGroup.transitions) first stop) :
    ((references.map referenceKey).filterMap
        (resolveKey (groups.map RouteAAcceptedGroup.transitions))).map some =
      references.map (referencedSet groups) := by
  have reads (reference : RouteASetTransitionReference) : resolveKey (groups.map
      RouteAAcceptedGroup.transitions) (referenceKey reference) = referencedSet groups reference := by
    show (transitionsAt _ reference.acceptedGroupOrdinal)[reference.transitionOrdinalWithinGroup]? = _
    rw [transitionsAt,List.getElem?_map,referencedSet]
    cases groups[reference.acceptedGroupOrdinal]? <;> simp
  have present : ∀ reference ∈ references, (referencedSet groups reference).isSome = true := by
    intro reference member
    rw [same,mem_referencesBetween] at member
    rw [← reads]
    show ((transitionsAt _ reference.acceptedGroupOrdinal)[reference.transitionOrdinalWithinGroup]?).isSome = _
    rw [List.getElem?_eq_getElem member.2]
    rfl
  clear same
  induction references with
  | nil => rfl
  | cons reference references ih =>
    obtain ⟨set,found⟩ := Option.isSome_iff_exists.mp (present reference (by simp))
    have rest := ih fun other member => present other (by simp [member])
    rw [List.map_cons,List.filterMap_cons_some ((reads reference).trans found),List.map_cons,rest,
      List.map_cons,found]

/-- The compiler and the resolver agree on every accepted trace. -/
theorem compileRouteAWindowTrace_resolves (sha : Sha256) (groups : List RouteAAcceptedGroup)
    (trace : List ℚ × List (List RouteASetTransition)) (accepts : validatedTrace groups = .ok trace)
    (source shard : String) (identities : validSha256 source = true ∧ validSha256 shard = true) (rho : ℚ)
    (registered : rho ∈ routeARhos) :
    ∃ compiled queryCounts, compileRouteAWindowTrace sha groups source shard rho freshness = .ok compiled ∧
      queryBatchCounts groups.length rho = .ok queryCounts ∧
      TraceWindows groups queryCounts compiled.orderedWindows := by
  have accepted := validatedTrace_read groups trace accepts
  have count : trace.1.length = groups.length := by rw [accepted.logical,List.length_map]
  have positive : 0 < groups.length := List.length_pos_iff.mpr accepted.nonempty
  obtain ⟨queryCounts,counted⟩ : ∃ queryCounts, queryBatchCounts groups.length rho = .ok queryCounts :=
    ⟨_,Checked.pass _ _ _ (Checked.require_true _ _ positive)
      (Checked.pass _ _ _ (Checked.require_true _ _ registered) rfl)⟩
  obtain ⟨opened,state,runs,standing⟩ := @compileGroups_open trace.1 _ queryCounts
    accepted.setCountAt_small groups.length count.ge
  rw [← count] at standing positive
  obtain ⟨closed,closes,covered⟩ := closeTrace_covers positive standing
  rw [count] at closes covered
  refine ⟨⟨closed.windows,windowTraceDocument source shard rho closed.windows,
    sha.hexdigest (windowTraceDocument source shard rho closed.windows)⟩,queryCounts,?_,counted,?_⟩
  · rw [compileRouteAWindowTrace,accepts,Checked.ok_bind]
    refine Checked.pass _ _ _ (Checked.require_true _ _ identities) ?_
    refine Checked.pass _ _ _ (Checked.require_true _ _ registered) ?_
    refine Checked.pass _ _ _ (Checked.require_true _ _ rfl) ?_
    rw [counted,Checked.ok_bind,runs,Checked.ok_bind,closes]
    rfl
  · have everyFits : ∀ window ∈ closed.windows, ∃ first last version nextQuery ordinal,
        Fits trace.1 trace.2 queryCounts first last version nextQuery ordinal window := by
      intro window member
      obtain ⟨earlier,later,same⟩ := List.append_of_mem member
      obtain ⟨first,last,version,nextQuery,_,fits⟩ := covered.split earlier later window same
      exact ⟨first,last,version,nextQuery,_,fits⟩
    refine ⟨?_,?_,covered.queries.2,?_,?_,covered.range.2,?_,?_,?_⟩
    · intro window member
      obtain ⟨first,last,version,nextQuery,ordinal,fits⟩ := everyFits window member
      refine ⟨⟨timeAt trace.1 first,(window.orderedSetTransitionReferences.map referenceKey).filterMap
        (resolveKey trace.2)⟩,?_,?_⟩
      · rw [resolveRouteAPublicationWindow,accepts,Checked.ok_bind,fits.range.1,fits.range.2]
        refine Checked.pass _ _ _ (Checked.require_true _ _ ⟨fits.order,count ▸ fits.inside⟩) ?_
        exact resolveRange_ok accepted.setCountAt_small fits
      · rw [accepted.transitions]
        exact resolved_references groups (last + 1) first _ (by rw [fits.references,accepted.transitions])
    · rw [covered.references,accepted.transitions]
    · intro earlier window later same
      obtain ⟨_,_,_,_,_,fits⟩ := covered.split earlier later window same
      exact fits.ordinal
    · intro earlier window later same
      obtain ⟨_,_,_,_,before,fits⟩ := covered.split earlier later window same
      exact ⟨fits.versionBefore.trans before.version,fits.versionBefore ▸ fits.versionAfter⟩
    · intro earlier window later same
      obtain ⟨_,last,_,_,before,fits⟩ := covered.split earlier later window same
      refine ⟨last,fits.range.2,?_⟩
      rw [(Covered.window window before fits).references,accepted.transitions]
    · intro window member
      obtain ⟨_,_,_,_,_,fits⟩ := everyFits window member
      exact references_bounded accepted.setCountAt_small fits
    · intro window member left inLeft right inRight
      obtain ⟨_,_,_,_,_,fits⟩ := everyFits window member
      rw [groupTimeAt,groupTimeAt,← accepted.logical]
      exact references_fresh accepted.increasing fits left right inLeft inRight

def briefCell : List RouteAAcceptedGroup :=
  [⟨0,0,1,[⟨3,4,0,5,.insert⟩]⟩,⟨1,1,2,[⟨3,4,5,0,.delete⟩]⟩]

theorem briefCell_resolves : ∃ compiled queryCounts, compileRouteAWindowTrace constantSha briefCell zeroDigest
    zeroDigest 1 freshness = .ok compiled ∧ queryBatchCounts 2 1 = .ok queryCounts ∧
      TraceWindows briefCell queryCounts compiled.orderedWindows :=
  compileRouteAWindowTrace_resolves constantSha briefCell ([0,1 / 2],briefCell.map
    RouteAAcceptedGroup.transitions) (by decide +kernel) zeroDigest zeroDigest (by decide +kernel) 1
    (by decide +kernel)

end DynamicCssc.RouteA
