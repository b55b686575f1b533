import DynamicCssc.RouteASchedule

/-! The windows that the Route A compiler emits: each covers a range of groups with all their sets,
and the resolver accepts it. -/
namespace DynamicCssc.RouteA
open Foundation

def groupTime (group : RouteAAcceptedGroup) : ℚ :=
  (group.logicalTimeNumerator : ℚ) / group.logicalTimeDenominator

/-- What `_validated_trace` returns. -/
structure Accepted (groups : List RouteAAcceptedGroup) (times : List ℚ)
    (transitionsByGroup : List (List RouteASetTransition)) : Prop where
  nonempty : groups ≠ []
  logical : times = groups.map groupTime
  increasing : times.Pairwise (· < ·)
  transitions : transitionsByGroup = groups.map RouteAAcceptedGroup.transitions
  small : ∀ group ∈ groups, group.transitions.length ≤ 2

private theorem validateGroup_read (group : RouteAAcceptedGroup) (expectedOrdinal : ℕ) (previousTime : Option ℚ)
    (accepted : ℚ × List RouteASetTransition)
    (passed : validateGroup group expectedOrdinal previousTime = .ok accepted) :
    (∀ previous ∈ previousTime, previous < accepted.1) ∧ accepted = (groupTime group,group.transitions) ∧
      group.transitions.length ≤ 2 := by
  simp only [validateGroup,Checked.then_success,Checked.require_success,pure,Except.pure,
    Except.ok.injEq] at passed
  obtain ⟨⟨_,_,_,small⟩,later,_,rfl⟩ := passed
  refine ⟨?_,rfl,small⟩
  intro previous known
  rw [Option.mem_def.mp known] at later
  simpa using later

private theorem scanGroups_read (groups : List RouteAAcceptedGroup) (start : ℕ) (scan final : TraceScan)
    (ordered : scan.times.IsChain (· < ·)) (run : (groups.zipIdx start).foldlM scanGroup scan = .ok final) :
    final.times = scan.times ++ groups.map groupTime ∧ final.times.IsChain (· < ·) ∧
      final.transitionsByGroup = scan.transitionsByGroup ++ groups.map RouteAAcceptedGroup.transitions ∧
      ∀ group ∈ groups, group.transitions.length ≤ 2 := by
  induction groups generalizing start scan with
  | nil =>
    simp only [List.zipIdx_nil,List.foldlM_nil,pure,Except.pure,Except.ok.injEq] at run
    subst run
    exact ⟨by simp,ordered,by simp,by simp⟩
  | cons group groups ih =>
    rw [List.zipIdx_cons,List.foldlM_cons,Checked.bind_success] at run
    obtain ⟨next,first,rest⟩ := run
    rw [scanGroup,Checked.bind_success] at first
    obtain ⟨accepted,passed,first⟩ := first
    obtain ⟨later,same,small⟩ := validateGroup_read _ _ _ _ passed
    rw [Checked.bind_success] at first
    obtain ⟨observed,_,built⟩ := first
    simp only [pure,Except.pure,Except.ok.injEq] at built
    subst built
    obtain ⟨times,chain,transitions,all⟩ := ih (start + 1) _ (by
      rw [List.isChain_append]
      exact ⟨ordered,List.isChain_singleton _,fun previous known time here => by
        rw [List.head?_singleton,Option.mem_some_iff] at here
        exact here ▸ later previous known⟩) rest
    refine ⟨?_,chain,?_,?_⟩
    · rw [times,same]
      simp
    · rw [transitions,same]
      simp
    · intro other member
      rcases List.mem_cons.mp member with rfl | old
      · exact small
      · exact all other old

theorem validatedTrace_read (groups : List RouteAAcceptedGroup)
    (trace : List ℚ × List (List RouteASetTransition)) (passed : validatedTrace groups = .ok trace) :
    Accepted groups trace.1 trace.2 := by
  rw [validatedTrace,Checked.then_success,Checked.require_success,Checked.bind_success] at passed
  obtain ⟨nonempty,scan,run,built⟩ := passed
  simp only [pure,Except.pure,Except.ok.injEq] at built
  subst built
  obtain ⟨times,chain,transitions,small⟩ := scanGroups_read groups 0 _ scan List.isChain_nil run
  exact ⟨nonempty,by simpa using times,List.isChain_iff_pairwise.mp chain,by simpa using transitions,small⟩

section
variable (times : List ℚ) (transitionsByGroup : List (List RouteASetTransition)) (queryCounts : List ℕ)

def setCountAt (group : ℕ) : ℕ := (transitionsAt transitionsByGroup group).length

def queryCountAt (group : ℕ) : ℕ := (queryCounts[group]?).getD 0

/-- The references of the sets in the groups from `first` up to `stop`. -/
def referencesBetween (first stop : ℕ) : List RouteASetTransitionReference :=
  (List.range' first (stop - first)).flatMap fun group =>
    groupReferences group (setCountAt transitionsByGroup group)

/-- `_microbatch_closes_before_group` on groups of at most two sets. -/
def microbatchCloses (setCount groupSetCount : ℕ) : Bool :=
  match groupSetCount with
  | 0 => false
  | 1 => 64 < setCount + 1
  | _ => 65 < setCount + 2

theorem microbatch_ok (setCount groupSetCount : ℕ) (small : groupSetCount ≤ 2) :
    microbatchClosesBeforeGroup setCount groupSetCount = .ok (microbatchCloses setCount groupSetCount) := by
  interval_cases groupSetCount <;> rfl

@[simp] theorem groupReferences_length (ordinal setCount : ℕ) :
    (groupReferences ordinal setCount).length = setCount := by
  simp [groupReferences]

@[simp] theorem referencesBetween_self (first : ℕ) :
    referencesBetween transitionsByGroup first first = [] := by
  simp [referencesBetween]

theorem referencesBetween_append (first middle stop : ℕ) (before : first ≤ middle) (after : middle ≤ stop) :
    referencesBetween transitionsByGroup first middle ++ referencesBetween transitionsByGroup middle stop =
      referencesBetween transitionsByGroup first stop := by
  have split : List.range' first (stop - first) =
      List.range' first (middle - first) ++ List.range' middle (stop - middle) := by
    rw [show stop - first = (middle - first) + (stop - middle) by omega,
      ← List.range'_append_1,show first + (middle - first) = middle by omega]
  rw [referencesBetween,referencesBetween,referencesBetween,split,List.flatMap_append]

theorem referencesBetween_one (group : ℕ) : referencesBetween transitionsByGroup group (group + 1) =
    groupReferences group (setCountAt transitionsByGroup group) := by
  simp [referencesBetween]

theorem referencesBetween_succ (first stop : ℕ) (before : first ≤ stop) :
    referencesBetween transitionsByGroup first (stop + 1) =
      referencesBetween transitionsByGroup first stop ++
        groupReferences stop (setCountAt transitionsByGroup stop) := by
  rw [← referencesBetween_append transitionsByGroup first stop (stop + 1) before (by omega),
    referencesBetween_one]

theorem mem_referencesBetween (first stop : ℕ) (reference : RouteASetTransitionReference) :
    reference ∈ referencesBetween transitionsByGroup first stop ↔
      (first ≤ reference.acceptedGroupOrdinal ∧ reference.acceptedGroupOrdinal < stop) ∧
        reference.transitionOrdinalWithinGroup <
          setCountAt transitionsByGroup reference.acceptedGroupOrdinal := by
  obtain ⟨group,ordinal⟩ := reference
  simp only [referencesBetween,groupReferences,List.mem_flatMap,List.mem_range'_1,List.mem_map,
    List.mem_range,RouteASetTransitionReference.mk.injEq]
  constructor
  · intro ⟨_,inside,_,below,rfl,rfl⟩
    exact ⟨⟨inside.1,by omega⟩,below⟩
  · intro ⟨inside,below⟩
    exact ⟨group,⟨inside.1,by omega⟩,ordinal,below,rfl,rfl⟩

theorem keysBetween_eq (first stop : ℕ) : keysBetween transitionsByGroup first stop =
    (referencesBetween transitionsByGroup first stop).map referenceKey := by
  rw [keysBetween,referencesBetween,List.map_flatMap]
  simp [groupReferences,setCountAt,referenceKey,Function.comp_def]

theorem references_ordered (first stop : ℕ) :
    ((referencesBetween transitionsByGroup first stop).map referenceKey).Pairwise (· < ·) := by
  rw [List.pairwise_map,referencesBetween,List.pairwise_flatMap]
  constructor
  · intro group _
    rw [groupReferences,List.pairwise_map]
    refine List.pairwise_lt_range.imp ?_
    intro left right below
    exact Prod.Lex.toLex_lt_toLex.mpr (.inr ⟨rfl,below⟩)
  · refine (List.pairwise_lt_range' (s := first) (n := stop - first)).imp ?_
    intro left right below first inFirst second inSecond
    obtain ⟨_,_,rfl⟩ := List.mem_map.mp inFirst
    obtain ⟨_,_,rfl⟩ := List.mem_map.mp inSecond
    exact Prod.Lex.toLex_lt_toLex.mpr (.inl below)

/-- What the compiler makes of a range of groups, for each reason to close it. -/
def Closed (first last : ℕ) (references : List RouteASetTransitionReference)
    (closeReason : RouteACloseReason) (closedAt : ℚ) : Prop :=
  match closeReason with
  | .query => queryCountAt queryCounts last ≠ 0 ∧ closedAt = timeAt times last ∧
      (references = [] → first = last)
  | .finiteTraceEnd => references ≠ [] ∧ queryCountAt queryCounts last = 0 ∧ last + 1 = times.length ∧
      closedAt = timeAt times last
  | .preGroupMicrobatch => references ≠ [] ∧ queryCountAt queryCounts last = 0 ∧
      last + 1 < times.length ∧ timeAt times (last + 1) < timeAt times first + freshness ∧
      microbatchCloses references.length (setCountAt transitionsByGroup (last + 1)) = true ∧
      closedAt = timeAt times (last + 1)
  | .oneSecondDeadline => references ≠ [] ∧ queryCountAt queryCounts last = 0 ∧
      last + 1 < times.length ∧ timeAt times first + freshness ≤ timeAt times (last + 1) ∧
      closedAt = timeAt times first + freshness

/-- A window over the groups from `first` to `last`, after so many versions, queries and windows. -/
structure Fits (first last version nextQuery ordinal : ℕ) (window : RouteAPublicationWindow) : Prop where
  ordinal : window.windowOrdinal = ordinal
  range : window.firstEventGroupOrdinalOrNull = some first ∧
    window.lastEventGroupOrdinalOrNull = some last
  order : first ≤ last
  inside : last < times.length
  references : window.orderedSetTransitionReferences =
    referencesBetween transitionsByGroup first (last + 1)
  starts : window.orderedSetTransitionReferences ≠ [] → 0 < setCountAt transitionsByGroup first
  versionBefore : window.versionBefore = version
  versionAfter : window.versionAfter =
    version + if window.orderedSetTransitionReferences = [] then 0 else 1
  fresh : ∀ group, first < group → group ≤ last → timeAt times group < timeAt times first + freshness
  batched : ∀ group, first < group → group ≤ last →
    microbatchCloses (referencesBetween transitionsByGroup first group).length
      (setCountAt transitionsByGroup group) = false
  silent : ∀ group, first ≤ group → group < last → queryCountAt queryCounts group = 0
  queries : window.queryCount = queryCountAt queryCounts last
  firstQuery : window.firstGlobalQueryOrdinalOrNull =
    if queryCountAt queryCounts last = 0 then none else some nextQuery
  closed : Closed times transitionsByGroup queryCounts first last window.orderedSetTransitionReferences
    window.closeReason window.closedAt

/-- The windows cover the groups up to `stop`, but for groups that neither set nor ask. -/
inductive Covered : ℕ → ℕ → ℕ → List RouteAPublicationWindow → Prop
  | start : Covered 0 0 0 []
  | skip {stop version nextQuery : ℕ} {windows : List RouteAPublicationWindow}
      (covered : Covered stop version nextQuery windows)
      (empty : setCountAt transitionsByGroup stop = 0) (silent : queryCountAt queryCounts stop = 0) :
      Covered (stop + 1) version nextQuery windows
  | window {first last version nextQuery : ℕ} {windows : List RouteAPublicationWindow}
      (window : RouteAPublicationWindow) (covered : Covered first version nextQuery windows)
      (fits : Fits times transitionsByGroup queryCounts first last version nextQuery windows.length window) :
      Covered (last + 1) window.versionAfter (nextQuery + window.queryCount) (windows ++ [window])

/-- The state of the compiler when the groups from `opened` up to `stop` are pending. -/
structure Open (opened stop : ℕ) (state : Compilation) : Prop where
  covered : Covered times transitionsByGroup queryCounts opened state.version state.nextQueryOrdinal
    state.windows
  order : opened ≤ stop
  references : state.pendingReferences = referencesBetween transitionsByGroup opened stop
  start : state.pendingStartTime = if opened = stop then none else some (timeAt times opened)
  nonempty : opened < stop → 0 < setCountAt transitionsByGroup opened
  fresh : ∀ group, opened < group → group < stop → timeAt times group < timeAt times opened + freshness
  batched : ∀ group, opened < group → group < stop →
    microbatchCloses (referencesBetween transitionsByGroup opened group).length
      (setCountAt transitionsByGroup group) = false
  silent : ∀ group, opened ≤ group → group < stop → queryCountAt queryCounts group = 0

variable {times transitionsByGroup queryCounts}

theorem Open.begin : Open times transitionsByGroup queryCounts 0 0 ⟨[],[],none,0,0⟩ :=
  ⟨.start,le_rfl,by simp,rfl,by omega,by omega,by omega,by omega⟩

private theorem Open.cleared {stop : ℕ} {state : Compilation} (covered : Covered times transitionsByGroup
    queryCounts stop state.version state.nextQueryOrdinal state.windows)
    (empty : state.pendingReferences = []) (idle : state.pendingStartTime = none) :
    Open times transitionsByGroup queryCounts stop stop state :=
  ⟨covered,le_rfl,by simpa using empty,by simpa using idle,by omega,by omega,by omega,by omega⟩

theorem references_head (first stop : ℕ) (before : first < stop)
    (sets : 0 < setCountAt transitionsByGroup first) : ∃ rest,
    referencesBetween transitionsByGroup first stop = ⟨first,0⟩ :: rest := by
  rw [← referencesBetween_append transitionsByGroup first (first + 1) stop (by omega) (by omega),
    referencesBetween_one,groupReferences]
  obtain ⟨count,more⟩ := Nat.exists_eq_succ_of_ne_zero (by omega : setCountAt transitionsByGroup first ≠ 0)
  rw [more,List.range_succ_eq_map]
  exact ⟨_,rfl⟩

/-- Closing a window over the groups up to `last`. -/
private theorem closeWindow_covers {opened last : ℕ} {state : Compilation} (closeReason : RouteACloseReason)
    (closedAt : ℚ) (covered : Covered times transitionsByGroup queryCounts opened state.version
      state.nextQueryOrdinal state.windows) (order : opened ≤ last) (inside : last < times.length)
    (references : state.pendingReferences = referencesBetween transitionsByGroup opened (last + 1))
    (starts : state.pendingReferences ≠ [] → 0 < setCountAt transitionsByGroup opened)
    (fresh : ∀ group, opened < group → group ≤ last → timeAt times group < timeAt times opened + freshness)
    (batched : ∀ group, opened < group → group ≤ last →
      microbatchCloses (referencesBetween transitionsByGroup opened group).length
        (setCountAt transitionsByGroup group) = false)
    (silent : ∀ group, opened ≤ group → group < last → queryCountAt queryCounts group = 0)
    (closed : Closed times transitionsByGroup queryCounts opened last state.pendingReferences closeReason
      closedAt) :
    ∃ next, closeWindow closeReason last closedAt (queryCountAt queryCounts last) state = .ok next ∧
      Open times transitionsByGroup queryCounts (last + 1) (last + 1) next := by
  have content : decide (state.pendingReferences ≠ []) = true ∨
      (closeReason = .query ∧ 0 < queryCountAt queryCounts last) := by
    cases closeReason with
    | query => exact .inr ⟨rfl,Nat.pos_of_ne_zero closed.1⟩
    | oneSecondDeadline => exact .inl (decide_eq_true closed.1)
    | preGroupMicrobatch => exact .inl (decide_eq_true closed.1)
    | finiteTraceEnd => exact .inl (decide_eq_true closed.1)
  have first : (state.pendingReferences.head?.map
      RouteASetTransitionReference.acceptedGroupOrdinal).getD last = opened := by
    by_cases empty : state.pendingReferences = []
    · rw [empty]
      cases closeReason with
      | query => exact (closed.2.2 empty).symm
      | oneSecondDeadline => exact absurd empty closed.1
      | preGroupMicrobatch => exact absurd empty closed.1
      | finiteTraceEnd => exact absurd empty closed.1
    · obtain ⟨rest,head⟩ := references_head opened (last + 1) (by omega) (starts empty)
      rw [references,head]
      rfl
  refine ⟨_,Checked.pass _ _ _ (Checked.require_true _ _ content)
    (Checked.pass _ _ _ (Checked.require_true _ _ (first.le.trans order)) rfl),?_⟩
  refine Open.cleared (Covered.window ⟨_,_,_,closeReason,_,_,state.pendingReferences,_,_,closedAt⟩ covered ?_)
    rfl rfl
  refine ⟨rfl,⟨congrArg some first,rfl⟩,order,inside,references,starts,rfl,?_,fresh,batched,silent,rfl,?_,
    closed⟩
  · by_cases empty : state.pendingReferences = [] <;> simp [empty]
  · by_cases none : queryCountAt queryCounts last = 0 <;> simp [none]

private theorem closeDeadline_open {opened stop : ℕ} {state : Compilation} (inside : stop < times.length)
    (standing : Open times transitionsByGroup queryCounts opened stop state) :
    ∃ after next, closeDeadline (timeAt times stop) stop state = .ok next ∧
      Open times transitionsByGroup queryCounts after stop next ∧
      (after < stop → timeAt times stop < timeAt times after + freshness) := by
  have start := standing.start
  have order := standing.order
  rw [closeDeadline.eq_def]
  by_cases idle : opened = stop
  · rw [if_pos idle] at start
    rw [start]
    exact ⟨opened,state,rfl,standing,by omega⟩
  · rw [if_neg idle] at start
    rw [start]
    dsimp only
    split
    · rename_i late
      obtain ⟨last,rfl⟩ : ∃ last, stop = last + 1 := ⟨stop - 1,by omega⟩
      have sets : state.pendingReferences ≠ [] := by
        obtain ⟨rest,head⟩ := references_head opened (last + 1) (by omega) (standing.nonempty (by omega))
        rw [standing.references,head]
        simp
      have silent := standing.silent last (by omega) (by omega)
      obtain ⟨next,closes,cleared⟩ := closeWindow_covers .oneSecondDeadline
        (timeAt times opened + freshness) standing.covered (by omega : opened ≤ last) (by omega)
        standing.references (fun _ => standing.nonempty (by omega))
        (fun group later below => standing.fresh group later (by omega))
        (fun group later below => standing.batched group later (by omega))
        (fun group later below => standing.silent group later (by omega))
        ⟨sets,silent,inside,late,rfl⟩
      rw [silent] at closes
      exact ⟨last + 1,next,closes,cleared,by omega⟩
    · rename_i early
      exact ⟨opened,state,rfl,standing,fun _ => not_le.mp early⟩

private theorem closePreGroup_open {opened stop : ℕ} {state : Compilation} (inside : stop < times.length)
    (small : setCountAt transitionsByGroup stop ≤ 2)
    (standing : Open times transitionsByGroup queryCounts opened stop state)
    (early : opened < stop → timeAt times stop < timeAt times opened + freshness) :
    ∃ after next, closePreGroup (timeAt times stop) stop (setCountAt transitionsByGroup stop) state = .ok next ∧
      Open times transitionsByGroup queryCounts after stop next ∧
      (after < stop → timeAt times stop < timeAt times after + freshness) ∧
      (after < stop → microbatchCloses (referencesBetween transitionsByGroup after stop).length
        (setCountAt transitionsByGroup stop) = false) := by
  have order := standing.order
  have references := standing.references
  rw [closePreGroup]
  split
  · rename_i empty
    have idle : opened = stop := by
      by_contra differ
      obtain ⟨rest,head⟩ := references_head opened stop (by omega) (standing.nonempty (by omega))
      rw [references,head] at empty
      cases empty
    exact ⟨opened,state,rfl,standing,early,by omega⟩
  · rename_i sets
    have before : opened < stop := by
      rcases Nat.lt_or_ge opened stop with below | above
      · exact below
      · rw [references,show opened = stop by omega,referencesBetween_self] at sets
        exact absurd rfl sets
    rw [microbatch_ok _ _ small,Checked.ok_bind]
    split
    · rename_i closes
      obtain ⟨last,rfl⟩ : ∃ last, stop = last + 1 := ⟨stop - 1,by omega⟩
      have silent := standing.silent last (by omega) (by omega)
      obtain ⟨next,done,cleared⟩ := closeWindow_covers .preGroupMicrobatch
        (timeAt times (last + 1)) standing.covered (by omega : opened ≤ last) (by omega)
        references (fun _ => standing.nonempty (by omega))
        (fun group later below => standing.fresh group later (by omega))
        (fun group later below => standing.batched group later (by omega))
        (fun group later below => standing.silent group later (by omega))
        ⟨sets,silent,inside,early (by omega),closes,rfl⟩
      rw [silent] at done
      exact ⟨last + 1,next,done,cleared,by omega,by omega⟩
    · rename_i fits
      exact ⟨opened,state,rfl,standing,early,fun _ => by
        rw [← references]
        exact Bool.eq_false_iff.mpr fits⟩

private theorem closeQueryBatch_open {opened stop : ℕ} {state : Compilation} (inside : stop < times.length)
    (standing : Open times transitionsByGroup queryCounts opened stop state)
    (early : opened < stop → timeAt times stop < timeAt times opened + freshness)
    (room : opened < stop → microbatchCloses (referencesBetween transitionsByGroup opened stop).length
      (setCountAt transitionsByGroup stop) = false) :
    ∃ after next, closeQueryBatch (timeAt times stop) stop (queryCountAt queryCounts stop)
        (appendGroup (timeAt times stop) stop (setCountAt transitionsByGroup stop) state) = .ok next ∧
      Open times transitionsByGroup queryCounts after (stop + 1) next := by
  have order := standing.order
  have references : state.pendingReferences ++
      groupReferences stop (setCountAt transitionsByGroup stop) =
        referencesBetween transitionsByGroup opened (stop + 1) := by
    rw [standing.references,referencesBetween_succ _ _ _ order]
  have fresh : ∀ group, opened < group → group ≤ stop →
      timeAt times group < timeAt times opened + freshness := by
    intro group later below
    rcases Nat.lt_or_eq_of_le below with before | rfl
    · exact standing.fresh group later before
    · exact early (by omega)
  have batched : ∀ group, opened < group → group ≤ stop →
      microbatchCloses (referencesBetween transitionsByGroup opened group).length
        (setCountAt transitionsByGroup group) = false := by
    intro group later below
    rcases Nat.lt_or_eq_of_le below with before | rfl
    · exact standing.batched group later before
    · exact room (by omega)
  have starts : opened < stop ∨ 0 < setCountAt transitionsByGroup stop →
      0 < setCountAt transitionsByGroup opened := by
    intro either
    rcases Nat.lt_or_eq_of_le order with before | rfl
    · exact standing.nonempty before
    · exact either.resolve_left (by omega)
  rw [closeQueryBatch]
  split
  · rename_i asks
    refine ⟨stop + 1,@closeWindow_covers times transitionsByGroup queryCounts opened stop
      (appendGroup (timeAt times stop) stop (setCountAt transitionsByGroup stop) state) .query
      (timeAt times stop) standing.covered order inside references ?_ fresh batched
      (fun group later below => standing.silent group later below) ⟨asks,rfl,?_⟩⟩
    · intro sets
      apply starts
      rcases Nat.lt_or_eq_of_le order with before | same
      · exact .inl before
      · refine .inr (Nat.pos_of_ne_zero fun none => sets ?_)
        show state.pendingReferences ++ groupReferences stop (setCountAt transitionsByGroup stop) = []
        rw [standing.references,same,referencesBetween_self,none]
        rfl
    · intro empty
      rcases Nat.lt_or_eq_of_le order with before | same
      · obtain ⟨rest,head⟩ := references_head opened (stop + 1) (by omega) (standing.nonempty before)
        rw [show (appendGroup _ _ _ state).pendingReferences = _ from references,head] at empty
        cases empty
      · exact same
  · rename_i silentHere
    have silentHere : queryCountAt queryCounts stop = 0 := not_not.mp silentHere
    by_cases idle : opened = stop ∧ setCountAt transitionsByGroup stop = 0
    · obtain ⟨rfl,empty⟩ := idle
      have start := standing.start
      rw [if_pos rfl] at start
      refine ⟨opened + 1,_,rfl,Open.cleared (Covered.skip standing.covered empty silentHere) ?_ ?_⟩
      · show state.pendingReferences ++ groupReferences opened (setCountAt transitionsByGroup opened) = []
        rw [standing.references,referencesBetween_self,empty]
        rfl
      · show (if setCountAt transitionsByGroup opened = 0 then state.pendingStartTime else _) = none
        rw [if_pos empty,start]
    · refine ⟨opened,_,rfl,standing.covered,by omega,references,?_,fun _ => starts (by omega),
        fun group later below => fresh group later (by omega),
        fun group later below => batched group later (by omega),?_⟩
      · show (if setCountAt transitionsByGroup stop = 0 then state.pendingStartTime else
          some (state.pendingStartTime.getD (timeAt times stop))) = _
        rw [standing.start,if_neg (by omega : opened ≠ stop + 1)]
        by_cases same : opened = stop
        · rw [if_pos same,if_neg (by omega),same]
          rfl
        · rw [if_neg same]
          split <;> rfl
      · intro group later below
        rcases Nat.lt_or_eq_of_le (Nat.le_of_lt_succ below) with before | rfl
        · exact standing.silent group later before
        · exact silentHere

private theorem compileGroup_open {opened stop : ℕ} {state : Compilation} (inside : stop < times.length)
    (small : setCountAt transitionsByGroup stop ≤ 2)
    (standing : Open times transitionsByGroup queryCounts opened stop state) :
    ∃ after next, compileGroup times transitionsByGroup queryCounts state stop = .ok next ∧
      Open times transitionsByGroup queryCounts after (stop + 1) next := by
  obtain ⟨first,fresh,deadline,freshOpen,early⟩ := closeDeadline_open inside standing
  obtain ⟨second,batched,micro,batchedOpen,still,room⟩ := closePreGroup_open inside small freshOpen early
  obtain ⟨after,next,asked,done⟩ := closeQueryBatch_open inside batchedOpen still room
  refine ⟨after,next,?_,done⟩
  rw [compileGroup,deadline,Checked.ok_bind,show closePreGroup _ _ (transitionsAt transitionsByGroup stop).length _ = _
    from micro,Checked.ok_bind]
  exact asked

theorem compileGroups_open (small : ∀ group, setCountAt transitionsByGroup group ≤ 2) (count : ℕ)
    (inside : count ≤ times.length) :
    ∃ opened state, (List.range count).foldlM (compileGroup times transitionsByGroup queryCounts)
        ⟨[],[],none,0,0⟩ = .ok state ∧ Open times transitionsByGroup queryCounts opened count state := by
  induction count with
  | zero => exact ⟨0,_,rfl,Open.begin⟩
  | succ count ih =>
    obtain ⟨opened,state,runs,standing⟩ := ih (by omega)
    obtain ⟨after,next,steps,done⟩ := compileGroup_open (by omega) (small count) standing
    refine ⟨after,next,?_,done⟩
    rw [List.range_succ,List.foldlM_append,runs,Checked.ok_bind,List.foldlM_cons,steps]
    rfl

/-- The compiler does not raise, and its windows cover the trace. -/
theorem closeTrace_covers {opened : ℕ} {state : Compilation} (nonempty : 0 < times.length)
    (standing : Open times transitionsByGroup queryCounts opened times.length state) :
    ∃ closed, closeTrace times times.length state = .ok closed ∧
      Covered times transitionsByGroup queryCounts times.length closed.version closed.nextQueryOrdinal
        closed.windows := by
  have order := standing.order
  have references := standing.references
  rw [closeTrace]
  split
  · rename_i empty
    have idle : opened = times.length := by
      by_contra differ
      obtain ⟨rest,head⟩ := references_head opened times.length (by omega) (standing.nonempty (by omega))
      rw [references,head] at empty
      cases empty
    exact ⟨state,rfl,idle ▸ standing.covered⟩
  · rename_i sets
    have before : opened < times.length := by
      rcases Nat.lt_or_ge opened times.length with below | above
      · exact below
      · rw [references,show opened = times.length by omega,referencesBetween_self] at sets
        exact absurd rfl sets
    obtain ⟨last,size⟩ : ∃ last, times.length = last + 1 := ⟨times.length - 1,by omega⟩
    rw [size] at standing references ⊢
    have silent := standing.silent last (by omega) (by omega)
    obtain ⟨next,done,cleared⟩ := closeWindow_covers .finiteTraceEnd (timeAt times last) standing.covered
      (by omega : opened ≤ last) (by omega) references (fun _ => standing.nonempty (by omega))
      (fun group later below => standing.fresh group later (by omega))
      (fun group later below => standing.batched group later (by omega))
      (fun group later below => standing.silent group later (by omega))
      ⟨sets,silent,size.symm,rfl⟩
    rw [silent] at done
    exact ⟨next,done,cleared.covered⟩

end
end DynamicCssc.RouteA
