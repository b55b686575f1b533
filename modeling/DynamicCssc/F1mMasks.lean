import DynamicCssc.MaskedShares
import DynamicCssc.Foundation.Tables
import DynamicCssc.Foundation.ZeroSum

/-! Preparation of the F1M masks: the lanes of every overlapping coordinate receive an
additive sharing of zero, scattered into one mask vector for each masked share. -/
namespace DynamicCssc
open Foundation Std

structure MaskBinding where
  queryId : String
  versionId : String
  outputPlanDigest : String
  componentId : String
  outputBlockId : String
deriving DecidableEq, Repr

structure PreparedMask where
  queryId : String
  versionId : String
  outputPlanDigest : String
  componentId : String
  outputBlockId : String
  values : List ℤ
deriving DecidableEq, Repr

def PreparedMask.binding (mask : PreparedMask) : MaskBinding :=
  ⟨mask.queryId,mask.versionId,mask.outputPlanDigest,mask.componentId,mask.outputBlockId⟩

def PreparedMask.shareId (mask : PreparedMask) : ShareIdentity :=
  toLex (mask.componentId,mask.outputBlockId)

namespace OutputPlan

/-- `sorted(contributors[logical_coordinate])`, by `(component_id, output_block_id, slot)`. -/
def sortedLanes (plan : OutputPlan) (logical : ℤ) : List ShareLane :=
  Sorting.sortedBy (fun lane : ShareLane => toLex lane) (contributors plan logical)

/-- One call of `secrets.randbelow` and the range check on what it returned. -/
def sampleBelow (modulus sample : ℤ) : Checked ℤ :=
  if 0 ≤ sample ∧ sample < modulus then .ok sample
  else .error (planError "randbelow returned a value outside Z_t")

/-- The loop state: how many samples were drawn, and `values_by_share`. -/
structure Dealing where
  drawn : ℕ
  valuesByShare : Tables.Table ShareIdentity

/-- The loop body for one coordinate; `randbelow k` is what the `k`-th call returns. -/
def dealCoordinate (plan : OutputPlan) (modulus : ℤ) (randbelow : ℕ → ℤ) (dealing : Dealing)
    (logical : ℤ) : Checked Dealing := do
  let lanes := sortedLanes plan logical
  if lanes.length = 1 then return dealing
  let samples ← (List.range (lanes.length - 1)).mapM fun k =>
    sampleBelow modulus (randbelow (dealing.drawn + k))
  let laneValues := samples ++ [(-samples.sum) % modulus]
  return ⟨dealing.drawn + (lanes.length - 1),
    (lanes.zip laneValues).foldl (Tables.write plan.slotCount) dealing.valuesByShare⟩

/-- The digest `analyze_output_plan` returns. -/
def outputPlanDigest (sha : Sha256) (plan : OutputPlan) : String :=
  sha.hexdigest (Json.dumps false (canonicalOutputPlanPayload plan))

theorem analyzed_digest (sha : Sha256) (plan : OutputPlan) (analysis : OutputPlanAnalysis)
    (analyzed : analyzeOutputPlan sha plan = .ok analysis) :
    analysis.outputPlanDigest = outputPlanDigest sha plan := by
  obtain ⟨counted,_,rest⟩ := (Checked.bind_success _ _ _).mp analyzed
  rw [← Except.ok.inj rest]
  rfl

def maskBindings (digest : String) (plan : OutputPlan) (queryId versionId : String) :
    List MaskBinding :=
  (maskedShareIds plan).map fun identity =>
    ⟨queryId,versionId,digest,(ofLex identity).1,(ofLex identity).2⟩

/-- `prepare_f1m_masks`, over any ledger. -/
def prepareF1mMasks {Ledger : Type} (sha : Sha256)
    (reserveAll : Ledger → List MaskBinding → Checked Ledger) (randbelow : ℕ → ℤ)
    (ledger : Ledger) (plan : OutputPlan) (queryId versionId : String) (modulus : ℤ) :
    Checked (Ledger × List PreparedMask) := do
  requireId .outputPlanError queryId "query_id"
  requireId .outputPlanError versionId "version_id"
  Checked.require (2 ≤ modulus) (planError "modulus must be an integer of at least two")
  let analysis ← analyzeOutputPlan sha plan
  let ledger ← reserveAll ledger (maskBindings analysis.outputPlanDigest plan queryId versionId)
  let dealing ← (Sorting.sortedSet id (mappedCoordinates plan)).foldlM
    (dealCoordinate plan modulus randbelow) ⟨0,∅⟩
  return (ledger,dealing.valuesByShare.toList.map fun entry =>
    ⟨queryId,versionId,analysis.outputPlanDigest,(ofLex entry.1).1,(ofLex entry.1).2,entry.2⟩)

/-! The lanes that are dealt, and what the loop does to them. -/

/-- The sorted lanes of every overlapping coordinate, in coordinate order. -/
def laneGroups (plan : OutputPlan) : List (List ShareLane) :=
  ((Sorting.sortedSet id (mappedCoordinates plan)).filter fun logical =>
    1 < multiplicity plan logical).map (sortedLanes plan)

@[simp] theorem sortedLanes_length (plan : OutputPlan) (logical : ℤ) :
    (sortedLanes plan logical).length = multiplicity plan logical := by
  simp [sortedLanes]

private theorem mem_sortedLanes (plan : OutputPlan) (lane : ShareLane) (logical : ℤ) :
    lane ∈ sortedLanes plan logical ↔ lane ∈ contributors plan logical := by
  simp [sortedLanes]

theorem mem_laneGroups (plan : OutputPlan) (group : List ShareLane) :
    group ∈ laneGroups plan ↔
      ∃ logical, 1 < multiplicity plan logical ∧ sortedLanes plan logical = group := by
  simp only [laneGroups,List.mem_map,List.mem_filter,Sorting.mem_sortedSet,decide_eq_true_eq]
  constructor
  · rintro ⟨logical,⟨_,several⟩,same⟩
    exact ⟨logical,several,same⟩
  · rintro ⟨logical,several,same⟩
    exact ⟨logical,⟨List.count_pos_iff.mp (Nat.zero_lt_one.trans several),several⟩,same⟩

theorem laneGroups_nonempty (plan : OutputPlan) : ∀ group ∈ laneGroups plan, group ≠ [] := by
  intro group member
  obtain ⟨logical,several,rfl⟩ := (mem_laneGroups plan group).mp member
  intro empty
  have size := sortedLanes_length plan logical
  rw [empty,List.length_nil] at size
  omega

theorem mem_laneGroups_flatten (plan : OutputPlan) (lane : ShareLane) :
    lane ∈ (laneGroups plan).flatten ↔
      ∃ logical, 1 < multiplicity plan logical ∧ lane ∈ contributors plan logical := by
  simp only [List.mem_flatten,mem_laneGroups]
  constructor
  · rintro ⟨_,⟨logical,several,rfl⟩,member⟩
    exact ⟨logical,several,(mem_sortedLanes plan lane logical).mp member⟩
  · rintro ⟨logical,several,member⟩
    exact ⟨_,⟨logical,several,rfl⟩,(mem_sortedLanes plan lane logical).mpr member⟩

theorem laneGroups_nodup (plan : OutputPlan) (valid : Valid plan) :
    (laneGroups plan).flatten.Nodup := by
  rw [List.nodup_flatten]
  refine ⟨?_,?_⟩
  · intro group member
    obtain ⟨logical,_,rfl⟩ := (mem_laneGroups plan group).mp member
    exact Sorting.sortedBy_nodup _ (contributors_nodup plan valid logical)
  · have distinct := (Sorting.sortedSet_nodup id (mappedCoordinates plan)).filter
      (fun logical => decide (1 < multiplicity plan logical))
    refine List.pairwise_map.mpr (distinct.imp ?_)
    intro left right differ lane inLeft inRight
    exact differ (contributors_unique plan valid lane left right
      ((mem_sortedLanes plan lane left).mp inLeft) ((mem_sortedLanes plan lane right).mp inRight))

/-- The source's count of random elements is the number of samples drawn. -/
theorem drawCount_laneGroups (sha : Sha256) (plan : OutputPlan) (analysis : OutputPlanAnalysis)
    (analyzed : analyzeOutputPlan sha plan = .ok analysis) :
    ZeroSum.drawCount (laneGroups plan) = analysis.maskRandomElements := by
  obtain ⟨counted,_,rest⟩ := (Checked.bind_success _ _ _).mp analyzed
  have same : analysis.maskRandomElements =
      ((overlapCoordinates plan).map fun logical => multiplicity plan logical - 1).sum := by
    rw [← Except.ok.inj rest]
  have perm : ((Sorting.sortedSet id (mappedCoordinates plan)).filter fun logical =>
      1 < multiplicity plan logical).Perm (overlapCoordinates plan) :=
    (Sorting.sortedBy_perm id _).filter _
  rw [same,ZeroSum.drawCount,laneGroups,List.map_map,← (perm.map _).sum_eq]
  simp [Function.comp_def]

private theorem sampleBelow_ok (modulus sample : ℤ) (inside : 0 ≤ sample ∧ sample < modulus) :
    sampleBelow modulus sample = .ok sample := if_pos inside

theorem dealCoordinates (plan : OutputPlan) (modulus : ℤ) (randbelow : ℕ → ℤ)
    (coordinates : List ℤ) (mapped : ∀ logical ∈ coordinates, 0 < multiplicity plan logical)
    (dealing : Dealing) (groups : List (List ShareLane))
    (overlapping : groups = (coordinates.filter fun logical =>
      1 < multiplicity plan logical).map (sortedLanes plan))
    (inside : ZeroSum.InRange modulus (ZeroSum.drawCount groups)
      fun k => randbelow (dealing.drawn + k)) :
    coordinates.foldlM (dealCoordinate plan modulus randbelow) dealing =
      .ok ⟨dealing.drawn + ZeroSum.drawCount groups,
        (ZeroSum.deal modulus (fun k => randbelow (dealing.drawn + k)) groups).foldl
          (Tables.write plan.slotCount) dealing.valuesByShare⟩ := by
  induction coordinates generalizing dealing groups with
  | nil =>
    subst overlapping
    simp [ZeroSum.drawCount,ZeroSum.deal,pure,Except.pure]
  | cons logical coordinates ih =>
    have here := mapped logical (by simp)
    have later : ∀ other ∈ coordinates, 0 < multiplicity plan other :=
      fun other member => mapped other (by simp [member])
    rw [List.foldlM_cons]
    by_cases single : multiplicity plan logical = 1
    · have skipped : dealCoordinate plan modulus randbelow dealing logical = .ok dealing := by
        simp [dealCoordinate,single,pure,Except.pure]
      rw [List.filter_cons_of_neg (by simp [single])] at overlapping
      rw [skipped]
      exact ih later dealing groups overlapping inside
    · have several : 1 < multiplicity plan logical := by omega
      rw [List.filter_cons_of_pos (by simp [several]),List.map_cons] at overlapping
      subst overlapping
      rw [ZeroSum.drawCount_cons,sortedLanes_length] at inside ⊢
      have drawn : (List.range (multiplicity plan logical - 1)).mapM (fun k =>
          sampleBelow modulus (randbelow (dealing.drawn + k))) =
          .ok (ZeroSum.draws (fun k => randbelow (dealing.drawn + k)) (sortedLanes plan logical)) := by
        rw [ZeroSum.draws,sortedLanes_length]
        exact Checked.mapM_total _ _ _ fun k member =>
          sampleBelow_ok _ _ (inside k (by rw [List.mem_range] at member; omega))
      have dealt : dealCoordinate plan modulus randbelow dealing logical =
          .ok ⟨dealing.drawn + (multiplicity plan logical - 1),
            ((sortedLanes plan logical).zip (ZeroSum.values modulus
              (fun k => randbelow (dealing.drawn + k)) (sortedLanes plan logical))).foldl
              (Tables.write plan.slotCount) dealing.valuesByShare⟩ := by
        simp only [dealCoordinate,sortedLanes_length,if_neg single,drawn]
        rfl
      rw [dealt]
      simp only [bind,Except.bind]
      rw [ih later _ _ rfl (fun k hk => by
        have := inside (multiplicity plan logical - 1 + k) (by omega)
        simpa [Nat.add_assoc] using this)]
      simp only [ZeroSum.deal,List.foldl_append,sortedLanes_length,Nat.add_assoc,
        Nat.add_comm (multiplicity plan logical - 1)]

end OutputPlan
end DynamicCssc
