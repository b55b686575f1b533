import DynamicCssc.F1mMasks

/-! What the prepared masks do: they cancel in every overlapping coordinate, and the draws
are in bijection with the zero-sum assignments, so the masked lanes of two share families
with equal coordinate sums are equally distributed. -/
namespace DynamicCssc.OutputPlan
open Foundation Std

/-- What the masks add on a lane of a share: nothing where the share has no mask. -/
def maskValue (masks : List PreparedMask) (lane : ShareLane) : ℤ :=
  ((masks.find? fun mask => mask.shareId = lane.1).bind fun mask => mask.values[lane.2]?).getD 0

/-- The lane holds a part of a coordinate that several lanes map. -/
def OverlapLane (plan : OutputPlan) (lane : ShareLane) : Prop :=
  ∃ logical, 1 < multiplicity plan logical ∧ lane ∈ contributors plan logical

/-- A family of mask vectors, one for each masked share, that is zero off the overlapping
lanes and sums to zero modulo `t` over the lanes of every overlapping coordinate. -/
structure ZeroSumMasks (plan : OutputPlan) (digest queryId versionId : String) (t : ℤ)
    (masks : List PreparedMask) : Prop where
  shares : masks.map PreparedMask.shareId = maskedShareIds plan
  bound : ∀ mask ∈ masks,
    mask.queryId = queryId ∧ mask.versionId = versionId ∧ mask.outputPlanDigest = digest
  width : ∀ mask ∈ masks, mask.values.length = plan.slotCount
  range : ∀ mask ∈ masks, ∀ value ∈ mask.values, 0 ≤ value ∧ value < t
  idle : ∀ lane, ¬OverlapLane plan lane → maskValue masks lane = 0
  cancels : ∀ logical, 1 < multiplicity plan logical →
    ((contributors plan logical).map (maskValue masks)).sum % t = 0

/-- The masks whose overlapping lanes hold the values of an assignment. -/
def masksOf (plan : OutputPlan) (digest queryId versionId : String) (f : ShareLane → ℤ) :
    List PreparedMask :=
  (maskedShareIds plan).map fun identity =>
    ⟨queryId,versionId,digest,(ofLex identity).1,(ofLex identity).2,
      Tables.rowOf plan.slotCount (laneGroups plan).flatten f identity⟩

private theorem overlapLane_iff (plan : OutputPlan) (lane : ShareLane) :
    OverlapLane plan lane ↔ lane ∈ (laneGroups plan).flatten :=
  (mem_laneGroups_flatten plan lane).symm

instance (plan : OutputPlan) (lane : ShareLane) : Decidable (OverlapLane plan lane) :=
  decidable_of_iff _ (overlapLane_iff plan lane).symm

theorem OverlapLane.slot_lt {plan : OutputPlan} {lane : ShareLane} (valid : Valid plan)
    (overlap : OverlapLane plan lane) : lane.2 < plan.slotCount := by
  obtain ⟨logical,_,member⟩ := overlap
  obtain ⟨share,inPlan,_,entry⟩ := (mem_contributors plan lane logical).mp member
  exact valid.slot_lt share inPlan _ entry

theorem OverlapLane.masked {plan : OutputPlan} {lane : ShareLane}
    (overlap : OverlapLane plan lane) : lane.1 ∈ maskedShareIds plan := by
  obtain ⟨logical,several,member⟩ := overlap
  obtain ⟨share,inPlan,same,entry⟩ := (mem_contributors plan lane logical).mp member
  exact (mem_maskedShareIds plan lane.1).mpr ⟨share,inPlan,same,_,entry,several⟩

private theorem maskedShareIds_eq (plan : OutputPlan) :
    maskedShareIds plan = Sorting.sortedSet id ((laneGroups plan).flatten.map Prod.fst) := by
  rw [maskedShareIds]
  apply Sorting.sortedSet_congr id Function.injective_id
  intro identity
  simp only [List.mem_flatMap,List.mem_filter,List.mem_dedup,decide_eq_true_eq,
    contributors_length,List.mem_map,← overlapLane_iff,OverlapLane]
  constructor
  · rintro ⟨logical,⟨_,several⟩,lane,member,same⟩
    exact ⟨lane,⟨logical,several,member⟩,same⟩
  · rintro ⟨lane,⟨logical,several,member⟩,same⟩
    exact ⟨logical,⟨List.count_pos_iff.mp (Nat.zero_lt_one.trans several),several⟩,lane,member,same⟩

private theorem find_masksOf (plan : OutputPlan) (digest queryId versionId : String) (f : ShareLane → ℤ)
    (identity : ShareIdentity) :
    (masksOf plan digest queryId versionId f).find? (fun mask => mask.shareId = identity) =
      if identity ∈ maskedShareIds plan then
        some ⟨queryId,versionId,digest,(ofLex identity).1,(ofLex identity).2,
          Tables.rowOf plan.slotCount (laneGroups plan).flatten f identity⟩ else none := by
  rw [masksOf]
  generalize maskedShareIds plan = identities
  induction identities with
  | nil => rfl
  | cons first identities ih =>
    rw [List.map_cons]
    by_cases same : first = identity
    · subst same
      rw [List.find?_cons_of_pos (by simp [PreparedMask.shareId])]
      simp
    · rw [List.find?_cons_of_neg (by simpa [PreparedMask.shareId] using same),ih]
      simp [Ne.symm same]

private theorem maskValue_masksOf (plan : OutputPlan) (valid : Valid plan)
    (digest queryId versionId : String) (f : ShareLane → ℤ) (lane : ShareLane) :
    maskValue (masksOf plan digest queryId versionId f) lane =
      if OverlapLane plan lane then f lane else 0 := by
  rw [maskValue,find_masksOf]
  by_cases overlap : OverlapLane plan lane
  · have inside := (overlapLane_iff plan lane).mp overlap
    rw [if_pos overlap.masked,if_pos overlap,Option.bind_some,
      Tables.rowOf_entry _ _ _ _ _ (overlap.slot_lt valid),if_pos inside]
    rfl
  · have outside := mt (overlapLane_iff plan lane).mpr overlap
    rw [if_neg overlap]
    split
    · rw [Option.bind_some]
      by_cases slot : lane.2 < plan.slotCount
      · rw [Tables.rowOf_entry _ _ _ _ _ slot,if_neg outside]
        rfl
      · simp [Tables.rowOf,slot]
    · rfl

private theorem masksOf_congr (plan : OutputPlan) (digest queryId versionId : String)
    (f g : ShareLane → ℤ) (same : ∀ lane, OverlapLane plan lane → f lane = g lane) :
    masksOf plan digest queryId versionId f = masksOf plan digest queryId versionId g := by
  apply List.map_congr_left
  intro identity _
  congr 1
  apply List.map_congr_left
  intro slot _
  split
  · rename_i member
    exact same _ ((overlapLane_iff plan _).mpr member)
  · rfl

private theorem group_sum (plan : OutputPlan) (logical : ℤ) (f : ShareLane → ℤ) :
    ((sortedLanes plan logical).map f).sum = ((contributors plan logical).map f).sum :=
  ((Sorting.sortedBy_perm _ _).map f).sum_eq

private theorem masksOf_zeroSum (plan : OutputPlan) (valid : Valid plan)
    (digest queryId versionId : String) (t : ℤ) (positive : 0 < t) (f : ShareLane → ℤ)
    (balanced : ZeroSum.Balanced t (laneGroups plan) f) :
    ZeroSumMasks plan digest queryId versionId t (masksOf plan digest queryId versionId f) where
  shares := by
    rw [masksOf,List.map_map]
    exact List.map_id _
  bound := by
    intro mask member
    obtain ⟨_,_,rfl⟩ := List.mem_map.mp member
    exact ⟨rfl,rfl,rfl⟩
  width := by
    intro mask member
    obtain ⟨_,_,rfl⟩ := List.mem_map.mp member
    simp [Tables.rowOf]
  range := by
    intro mask member value inside
    obtain ⟨identity,_,rfl⟩ := List.mem_map.mp member
    obtain ⟨slot,_,rfl⟩ := List.mem_map.mp inside
    split
    · rename_i dealt
      obtain ⟨group,hg,hp⟩ := List.mem_flatten.mp dealt
      exact balanced.range group hg _ hp
    · exact ⟨le_rfl,positive⟩
  idle lane outside := by rw [maskValue_masksOf plan valid,if_neg outside]
  cancels logical several := by
    have member := (mem_laneGroups plan _).mpr ⟨logical,several,rfl⟩
    rw [← balanced.sum _ member,group_sum]
    congr 2
    apply List.map_congr_left
    intro lane inside
    rw [maskValue_masksOf plan valid,if_pos ⟨logical,several,inside⟩]

namespace ZeroSumMasks
variable {plan : OutputPlan} {digest queryId versionId : String} {t : ℤ} {masks : List PreparedMask}

private theorem distinct (zero : ZeroSumMasks plan digest queryId versionId t masks) :
    (masks.map PreparedMask.shareId).Nodup := by
  rw [zero.shares]
  exact Sorting.sortedSet_nodup id _

private theorem value_of_mem (zero : ZeroSumMasks plan digest queryId versionId t masks)
    (mask : PreparedMask) (member : mask ∈ masks) (slot : ℕ) :
    maskValue masks (mask.shareId,slot) = mask.values[slot]?.getD 0 := by
  have found : masks.find? (fun other => other.shareId = mask.shareId) = some mask := by
    cases search : masks.find? (fun other => other.shareId = mask.shareId) with
    | none =>
      have never := List.find?_eq_none.mp search mask member
      simp at never
    | some other =>
      have same : other.shareId = mask.shareId := by simpa using List.find?_some search
      rw [List.inj_on_of_nodup_map zero.distinct (List.mem_of_find?_eq_some search) member same]
  simp [maskValue,found]

theorem balanced (zero : ZeroSumMasks plan digest queryId versionId t masks) (positive : 0 < t) :
    ZeroSum.Balanced t (laneGroups plan) (maskValue masks) where
  range := by
    intro _ _ lane _
    rw [maskValue]
    cases search : masks.find? (fun mask => mask.shareId = lane.1) with
    | none => exact ⟨le_rfl,positive⟩
    | some mask =>
      cases entry : mask.values[lane.2]? with
      | none => simpa [entry] using positive
      | some value =>
        simpa [entry] using zero.range mask (List.mem_of_find?_eq_some search) value
          (List.mem_of_getElem? entry)
  sum := by
    intro group member
    obtain ⟨logical,several,rfl⟩ := (mem_laneGroups plan group).mp member
    rw [group_sum,zero.cancels logical several]

private theorem eq_masksOf (zero : ZeroSumMasks plan digest queryId versionId t masks) :
    masks = masksOf plan digest queryId versionId (maskValue masks) := by
  rw [masksOf,← zero.shares,List.map_map]
  conv_lhs => rw [← List.map_id masks]
  apply List.map_congr_left
  intro mask member
  obtain ⟨query,version,plain⟩ := zero.bound mask member
  have row : mask.values = Tables.rowOf plan.slotCount (laneGroups plan).flatten
      (maskValue masks) mask.shareId := by
    apply List.ext_getElem (by simp [Tables.rowOf,zero.width mask member])
    intro slot left right
    have value : maskValue masks (mask.shareId,slot) = mask.values[slot] := by
      simp [zero.value_of_mem mask member slot,left]
    simp only [Tables.rowOf,List.getElem_map,List.getElem_range,← overlapLane_iff]
    split
    · exact value.symm
    · rename_i outside
      rw [← value,zero.idle _ outside]
  cases mask
  simp_all [PreparedMask.shareId]

end ZeroSumMasks

/-- Runs of `n` samples from `Z_t`. -/
def Samples (t : ℤ) (n : ℕ) := {drawn : Fin n → ℤ // ∀ k, 0 ≤ drawn k ∧ drawn k < t}

/-- What the `k`-th call of `secrets.randbelow` returns in such a run. -/
def Samples.randbelow {t : ℤ} {n : ℕ} (samples : Samples t n) (k : ℕ) : ℤ :=
  if inside : k < n then samples.1 ⟨k,inside⟩ else 0

theorem Samples.inRange {t : ℤ} {n : ℕ} (samples : Samples t n) :
    ZeroSum.InRange t n samples.randbelow := by
  intro k inside
  simpa [Samples.randbelow,inside] using samples.2 ⟨k,inside⟩

theorem Samples.ext {t : ℤ} {n : ℕ} {left right : Samples t n}
    (same : ∀ k < n, left.randbelow k = right.randbelow k) : left = right := by
  apply Subtype.ext
  funext k
  simpa [Samples.randbelow] using same k k.2

section Preparation
variable {Ledger : Type} (sha : Sha256) (reserveAll : Ledger → List MaskBinding → Checked Ledger)
  (ledger reserved : Ledger) (plan : OutputPlan) (queryId versionId : String) (t : ℤ)

/-- With a valid plan and a granted reservation, any samples from `Z_t` are dealt and returned. -/
private theorem prepareF1mMasks_run (valid : Valid plan) (query : validId queryId = true)
    (version : validId versionId = true) (modulus : 2 ≤ t)
    (granted : reserveAll ledger (maskBindings (outputPlanDigest sha plan) plan queryId versionId) =
      .ok reserved) (randbelow : ℕ → ℤ)
    (inside : ZeroSum.InRange t (ZeroSum.drawCount (laneGroups plan)) randbelow) :
    ∃ f, ZeroSum.deal t randbelow (laneGroups plan) =
        (laneGroups plan).flatten.map (fun lane => (lane,f lane)) ∧
      ZeroSum.Balanced t (laneGroups plan) f ∧
      prepareF1mMasks sha reserveAll randbelow ledger plan queryId versionId t =
        .ok (reserved,masksOf plan (outputPlanDigest sha plan) queryId versionId f) := by
  obtain ⟨f,graph,balanced,_⟩ := ZeroSum.deal_balanced t randbelow (laneGroups plan) (by omega)
    (laneGroups_nonempty plan) (laneGroups_nodup plan valid) inside
  refine ⟨f,graph,balanced,?_⟩
  obtain ⟨analysis,analyzed⟩ := analyze_of_valid sha plan valid
  have digest := analyzed_digest sha plan analysis analyzed
  have dealt := dealCoordinates plan t randbelow (Sorting.sortedSet id (mappedCoordinates plan))
    (fun logical member => List.count_pos_iff.mpr (by simpa using member)) ⟨0,∅⟩ (laneGroups plan)
    rfl (by simpa using inside)
  simp only [Nat.zero_add,graph] at dealt
  have rows := Tables.toList_eq_map _ _ (Tables.rowOf plan.slotCount (laneGroups plan).flatten f)
    (Tables.write_graph plan.slotCount (laneGroups plan).flatten f)
  have first := (requireId_success .outputPlanError queryId "query_id" ()).mpr query
  have second := (requireId_success .outputPlanError versionId "version_id" ()).mpr version
  simp only [prepareF1mMasks,first,second,Checked.require,if_pos modulus,analyzed,digest,granted,
    dealt,bind,Except.bind,pure,Except.pure,rows,← maskedShareIds_eq,List.map_map]
  rfl

private theorem dealt_bijOn (valid : Valid plan) (positive : 0 < t)
    (f : Samples t (ZeroSum.drawCount (laneGroups plan)) → ShareLane → ℤ)
    (graph : ∀ r, ZeroSum.deal t r.randbelow (laneGroups plan) =
      (laneGroups plan).flatten.map fun lane => (lane,f r lane))
    (balanced : ∀ r, ZeroSum.Balanced t (laneGroups plan) (f r)) :
    Set.BijOn (fun r => masksOf plan (outputPlanDigest sha plan) queryId versionId (f r)) Set.univ
      {masks | ZeroSumMasks plan (outputPlanDigest sha plan) queryId versionId t masks} := by
  refine ⟨fun r _ => masksOf_zeroSum plan valid _ _ _ t positive (f r) (balanced r),?_,?_⟩
  · intro left _ right _ same
    apply Samples.ext
    apply ZeroSum.deal_injective t left.randbelow right.randbelow _ (laneGroups_nonempty plan)
    rw [graph,graph]
    apply List.map_congr_left
    intro lane member
    have overlap := (overlapLane_iff plan lane).mpr member
    have values := congrArg (fun masks => maskValue masks lane) same
    simp only [maskValue_masksOf plan valid,if_pos overlap] at values
    rw [values]
  · intro masks zero
    have all := zero.balanced positive
    let drawn := ZeroSum.drawsOf (laneGroups plan) (maskValue masks)
    have size : drawn.length = ZeroSum.drawCount (laneGroups plan) :=
      ZeroSum.drawsOf_length (laneGroups plan) (maskValue masks)
    have within : ∀ k : Fin (ZeroSum.drawCount (laneGroups plan)),
        0 ≤ drawn.getD k 0 ∧ drawn.getD k 0 < t := by
      intro k
      have bound : k.1 < drawn.length := by rw [size]; exact k.2
      rw [List.getD_eq_getElem?_getD,List.getElem?_eq_getElem bound,Option.getD_some]
      exact ZeroSum.drawsOf_range t _ _ all _ (List.getElem_mem bound)
    let samples : Samples t (ZeroSum.drawCount (laneGroups plan)) :=
      ⟨fun k => drawn.getD k 0,within⟩
    have returned : ∀ k, samples.randbelow k = (drawn ++ []).getD k 0 := by
      intro k
      rw [List.append_nil,Samples.randbelow]
      split
      · rfl
      · rw [List.getD_eq_getElem?_getD,List.getElem?_eq_none (by omega),Option.getD_none]
    have dealt := ZeroSum.deal_surjective t (laneGroups plan) (maskValue masks)
      (laneGroups_nonempty plan) all samples.randbelow [] returned
    rw [graph] at dealt
    refine ⟨samples,Set.mem_univ _,?_⟩
    rw [zero.eq_masksOf]
    apply masksOf_congr
    intro lane overlap
    have entry := List.map_inj_left.mp dealt lane ((overlapLane_iff plan lane).mp overlap)
    exact (Prod.mk.inj entry).2

end Preparation

/-- Move an assignment so that it masks `v` to what it masked `u` to. -/
def shifted (t : ℤ) (u v f : ShareLane → ℤ) (lane : ShareLane) : ℤ := (f lane + (u lane - v lane)) % t

private theorem shifted_back (t : ℤ) (u v f : ShareLane → ℤ) (lane : ShareLane)
    (inside : 0 ≤ f lane ∧ f lane < t) : shifted t v u (shifted t u v f) lane = f lane := by
  rw [shifted,shifted,Int.emod_add_emod]
  rw [show f lane + (u lane - v lane) + (v lane - u lane) = f lane by ring]
  exact Int.emod_eq_of_lt inside.1 inside.2

private theorem shifted_masks (t : ℤ) (u v f : ShareLane → ℤ) (lane : ShareLane) :
    (u lane + f lane) % t = (v lane + shifted t u v f lane) % t := by
  rw [shifted,Int.add_emod_emod]
  ring_nf

private theorem maskValue_range {plan : OutputPlan} {digest queryId versionId : String} {t : ℤ}
    {masks : List PreparedMask} (zero : ZeroSumMasks plan digest queryId versionId t masks)
    (positive : 0 < t) (lane : ShareLane) (overlap : OverlapLane plan lane) :
    0 ≤ maskValue masks lane ∧ maskValue masks lane < t := by
  obtain ⟨group,member,inside⟩ := List.mem_flatten.mp ((overlapLane_iff plan lane).mp overlap)
  exact (zero.balanced positive).range group member lane inside

/-- The masks that turn `v` into what the given masks turn `u` into. -/
def shiftMasks (plan : OutputPlan) (digest queryId versionId : String) (t : ℤ)
    (u v : ShareLane → ℤ) (masks : List PreparedMask) : List PreparedMask :=
  masksOf plan digest queryId versionId (shifted t u v (maskValue masks))

section Shift
variable {plan : OutputPlan} {digest queryId versionId : String} {t : ℤ} {u v : ShareLane → ℤ}
  {masks : List PreparedMask}

/-- Two families of lane values with equal sums modulo `t` over every overlapping coordinate. -/
def SameSums (plan : OutputPlan) (t : ℤ) (u v : ShareLane → ℤ) : Prop :=
  ∀ logical, 1 < multiplicity plan logical →
    ((contributors plan logical).map u).sum % t = ((contributors plan logical).map v).sum % t

private theorem difference_sum (lanes : List ShareLane) (u v : ShareLane → ℤ) :
    (lanes.map fun lane => u lane - v lane).sum = (lanes.map u).sum - (lanes.map v).sum := by
  induction lanes with
  | nil => simp
  | cons lane lanes ih =>
    simp only [List.map_cons,List.sum_cons,ih]
    ring

private theorem shiftMasks_zeroSum (valid : Valid plan) (positive : 0 < t) (same : SameSums plan t u v)
    (zero : ZeroSumMasks plan digest queryId versionId t masks) :
    ZeroSumMasks plan digest queryId versionId t
      (shiftMasks plan digest queryId versionId t u v masks) := by
  apply masksOf_zeroSum plan valid digest queryId versionId t positive
  apply (zero.balanced positive).shift positive (fun lane => u lane - v lane)
  intro group member
  obtain ⟨logical,several,rfl⟩ := (mem_laneGroups plan group).mp member
  rw [group_sum,difference_sum,Int.sub_emod,same logical several]
  simp

private theorem shiftMasks_back (valid : Valid plan) (positive : 0 < t)
    (zero : ZeroSumMasks plan digest queryId versionId t masks) :
    shiftMasks plan digest queryId versionId t v u
      (shiftMasks plan digest queryId versionId t u v masks) = masks := by
  conv_rhs => rw [zero.eq_masksOf]
  apply masksOf_congr
  intro lane overlap
  rw [← shifted_back t u v (maskValue masks) lane (maskValue_range zero positive lane overlap)]
  unfold shifted
  rw [shiftMasks,maskValue_masksOf plan valid,if_pos overlap]
  rfl

private theorem shiftMasks_masks (valid : Valid plan) (lane : ShareLane) (overlap : OverlapLane plan lane) :
    (u lane + maskValue masks lane) % t =
      (v lane + maskValue (shiftMasks plan digest queryId versionId t u v masks) lane) % t := by
  rw [shiftMasks,maskValue_masksOf plan valid,if_pos overlap]
  exact shifted_masks t u v (maskValue masks) lane

/-- A bijection onto the zero-sum masks carries the shift back to the samples. -/
private theorem samples_hide (valid : Valid plan) (positive : 0 < t) {R : Type} (run : R → List PreparedMask)
    (onto : Set.BijOn run Set.univ {masks | ZeroSumMasks plan digest queryId versionId t masks})
    (same : SameSums plan t u v) :
    ∃ e : Equiv.Perm R, ∀ r lane, OverlapLane plan lane →
      (u lane + maskValue (run r) lane) % t = (v lane + maskValue (run (e r)) lane) % t := by
  have back : SameSums plan t v u := fun logical several => (same logical several).symm
  have zero : ∀ r, ZeroSumMasks plan digest queryId versionId t (run r) :=
    fun r => onto.mapsTo (Set.mem_univ r)
  have answer : ∀ left right, SameSums plan t left right → ∀ r, ∃ other,
      run other = shiftMasks plan digest queryId versionId t left right (run r) := by
    intro left right equal r
    obtain ⟨other,_,found⟩ := onto.surjOn (shiftMasks_zeroSum valid positive equal (zero r))
    exact ⟨other,found⟩
  choose forth hf using answer u v same
  choose return' hb using answer v u back
  have injective : Function.Injective run := Set.injOn_univ.mp onto.injOn
  refine ⟨⟨forth,return',fun r => injective ?_,fun r => injective ?_⟩,fun r lane overlap => ?_⟩
  · rw [hb,hf,shiftMasks_back valid positive (zero r)]
  · rw [hf,hb,shiftMasks_back valid positive (zero r)]
  · rw [Equiv.coe_fn_mk,hf]
    exact shiftMasks_masks valid lane overlap

end Shift

/-- The prepared masks are zero off the overlapping lanes and cancel in every overlapping
coordinate; there is one for every share that maps such a coordinate, the shares on which the
plan analysis, the compiler and the simulator agree. The samples are in bijection with the
zero-sum masks, so share families with equal coordinate sums are masked alike. -/
theorem prepareF1mMasks_cancel_and_hide {Ledger : Type} (sha : Sha256)
    (reserveAll : Ledger → List MaskBinding → Checked Ledger) (ledger reserved : Ledger)
    (plan : OutputPlan) (queryId versionId : String) (t : ℤ) (valid : Valid plan)
    (query : validId queryId = true) (version : validId versionId = true) (modulus : 2 ≤ t)
    (granted : reserveAll ledger (maskBindings (outputPlanDigest sha plan) plan queryId versionId) =
      .ok reserved) :
    ∃ analysis, analyzeOutputPlan sha plan = .ok analysis ∧
    ∃ masks : Samples t analysis.maskRandomElements → List PreparedMask,
      (∀ r, prepareF1mMasks sha reserveAll r.randbelow ledger plan queryId versionId t =
        .ok (reserved,masks r)) ∧
      (∀ r lane, ¬OverlapLane plan lane → maskValue (masks r) lane = 0) ∧
      (∀ r logical, 1 < multiplicity plan logical →
        ((contributors plan logical).map (maskValue (masks r))).sum % t = 0) ∧
      (∀ r, ((masks r).map PreparedMask.shareId).Nodup ∧
        ∀ identity, identity ∈ (masks r).map PreparedMask.shareId ↔ MapsOverlap plan identity) ∧
      (∀ identity, identity ∈ analyzedShareIds plan ↔ MapsOverlap plan identity) ∧
      (∀ identity, identity ∈ maskedOutputShareIds plan ↔ MapsOverlap plan identity) ∧
      (∀ routes resultId, resultId ∈ requiredOverlapMaskResultIds plan routes ↔
        ∃ route ∈ routes, route.resultId = resultId ∧ MapsOverlap plan route.outputShareId) ∧
      Set.BijOn masks Set.univ
        {family | ZeroSumMasks plan analysis.outputPlanDigest queryId versionId t family} ∧
      ∀ u v, SameSums plan t u v → ∃ e : Equiv.Perm (Samples t analysis.maskRandomElements),
        ∀ r lane, OverlapLane plan lane →
          (u lane + maskValue (masks r) lane) % t = (v lane + maskValue (masks (e r)) lane) % t := by
  obtain ⟨analysis,analyzed⟩ := analyze_of_valid sha plan valid
  have positive : 0 < t := by omega
  have digest := analyzed_digest sha plan analysis analyzed
  refine ⟨analysis,analyzed,?_⟩
  rw [← drawCount_laneGroups sha plan analysis analyzed,digest]
  choose f graph balanced run using fun r : Samples t (ZeroSum.drawCount (laneGroups plan)) =>
    prepareF1mMasks_run sha reserveAll ledger reserved plan queryId versionId t valid query version
      modulus granted r.randbelow r.inRange
  have onto := dealt_bijOn sha plan queryId versionId t valid positive f graph balanced
  have zero : ∀ r, ZeroSumMasks plan _ queryId versionId t (masksOf plan _ queryId versionId (f r)) :=
    fun r => onto.mapsTo (Set.mem_univ r)
  refine ⟨_,run,fun r lane => (zero r).idle lane,fun r logical => (zero r).cancels logical,
    fun r => ?_,mem_analyzedShareIds plan,mem_maskedOutputShareIds plan,
    mem_requiredOverlapMaskResultIds plan,onto,
    fun u v same => samples_hide valid positive _ onto same⟩
  rw [(zero r).shares]
  exact ⟨Sorting.sortedSet_nodup id _,mem_maskedShareIds plan⟩

/-- Coordinate 0 lies twice in share `a` and once in share `b`. -/
def repeatedPlan : OutputPlan :=
  ⟨3,2,[⟨"a","x",[(0,0),(1,0)]⟩,⟨"b","x",[(0,2),(1,0)]⟩]⟩

/-- SHA-256 at the canonical text of `repeatedPlan`. -/
def repeatedPlanSha : Sha256 :=
  ⟨fun _ => "7e5ff8bf8482e3cdefe77c0f0be274d7c94e30d5c4a42874f1ae1393daa8090e",fun _ => by decide⟩

theorem repeatedPlan_masks : ∃ n, ∃ masks : Samples 5 n → List PreparedMask,
    (∀ r, prepareF1mMasks repeatedPlanSha (fun ledger bindings => .ok (ledger ++ bindings))
      r.randbelow [] repeatedPlan "query" "version" 5 =
        .ok (maskBindings (outputPlanDigest repeatedPlanSha repeatedPlan) repeatedPlan
          "query" "version",masks r)) ∧
    ∀ r, (maskValue (masks r) (toLex ("a","x"),0) + maskValue (masks r) (toLex ("a","x"),1) +
      maskValue (masks r) (toLex ("b","x"),1)) % 5 = 0 := by
  have valid : Valid repeatedPlan := ((validate_success repeatedPlan _).mp rfl).1
  obtain ⟨analysis,_,masks,run,_,sums,_⟩ := prepareF1mMasks_cancel_and_hide repeatedPlanSha
    (fun ledger bindings => .ok (ledger ++ bindings)) [] _ repeatedPlan "query" "version" 5 valid
    (by decide) (by decide) (by decide) rfl
  refine ⟨analysis.maskRandomElements,masks,run,fun r => ?_⟩
  have balanced := sums r 0 (by decide)
  rw [show contributors repeatedPlan 0 =
    [(toLex ("a","x"),0),(toLex ("a","x"),1),(toLex ("b","x"),1)] by decide] at balanced
  simpa [add_assoc] using balanced

end DynamicCssc.OutputPlan
