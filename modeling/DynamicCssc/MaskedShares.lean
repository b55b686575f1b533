import DynamicCssc.OutputPlan

/-! The shares that need an F1M mask. Four places of the source compute them, each with its
own loop: the plan analysis, the mask preparation, the query compiler and the simulator. -/
namespace DynamicCssc
open Foundation

structure ResultRoute where
  resultId : String
  f1mCiphertextId : Option String
  componentId : String
  outputBlockId : String
deriving DecidableEq, Repr

def ResultRoute.outputShareId (route : ResultRoute) : ShareIdentity :=
  toLex (route.componentId,route.outputBlockId)

/-- One physical lane of a returned share: `(component_id, output_block_id, physical_slot)`. -/
abbrev ShareLane := ShareIdentity × ℕ

namespace OutputPlan

def mappedLanes (plan : OutputPlan) : List (ShareLane × ℤ) :=
  plan.shares.flatMap fun share =>
    share.slotToLogical.map fun entry => ((share.identity,entry.1),entry.2)

/-- `contributors[logical_coordinate]`: its lanes, in plan order. -/
def contributors (plan : OutputPlan) (logical : ℤ) : List ShareLane :=
  ((mappedLanes plan).filter fun mapped => mapped.2 = logical).map Prod.fst

/-- `masked_share_ids` of `prepare_f1m_masks`. -/
def maskedShareIds (plan : OutputPlan) : List ShareIdentity :=
  Sorting.sortedSet id
    (((mappedCoordinates plan).dedup.filter fun logical => 1 < (contributors plan logical).length).flatMap
      fun logical => (contributors plan logical).map Prod.fst)

/-- `_required_overlap_mask_result_ids` of the query compiler, as the list of the set. -/
def requiredOverlapMaskResultIds (plan : OutputPlan) (routes : List ResultRoute) : List String :=
  let required := (plan.shares.filter fun share => share.slotToLogical.any fun entry =>
    1 < multiplicity plan entry.2).map OutputShare.identity
  ((routes.filter fun route => route.outputShareId ∈ required).map ResultRoute.resultId).dedup

/-- `_masked_output_share_ids` of the simulator, as the list of the set. -/
def maskedOutputShareIds (plan : OutputPlan) : List ShareIdentity :=
  ((plan.shares.filter fun share => share.slotToLogical.any fun entry =>
    1 < multiplicity plan entry.2).map OutputShare.identity).dedup

/-- Some share of this identity maps a coordinate that several lanes map. -/
def MapsOverlap (plan : OutputPlan) (identity : ShareIdentity) : Prop :=
  ∃ share ∈ plan.shares, share.identity = identity ∧
    ∃ entry ∈ share.slotToLogical, 1 < multiplicity plan entry.2

private theorem mem_mappedLanes (plan : OutputPlan) (lane : ShareLane) (logical : ℤ) :
    (lane,logical) ∈ mappedLanes plan ↔ ∃ share ∈ plan.shares,
      share.identity = lane.1 ∧ (lane.2,logical) ∈ share.slotToLogical := by
  obtain ⟨identity,slot⟩ := lane
  simp only [mappedLanes,List.mem_flatMap,List.mem_map,Prod.mk.injEq,Prod.exists]
  constructor
  · rintro ⟨share,member,_,_,entry,⟨rfl,rfl⟩,rfl⟩
    exact ⟨share,member,rfl,entry⟩
  · rintro ⟨share,member,rfl,entry⟩
    exact ⟨share,member,slot,logical,entry,⟨rfl,rfl⟩,rfl⟩

theorem mem_contributors (plan : OutputPlan) (lane : ShareLane) (logical : ℤ) :
    lane ∈ contributors plan logical ↔ ∃ share ∈ plan.shares,
      share.identity = lane.1 ∧ (lane.2,logical) ∈ share.slotToLogical := by
  rw [← mem_mappedLanes]
  simp [contributors]

private theorem mappedLanes_coordinates (plan : OutputPlan) :
    (mappedLanes plan).map Prod.snd = mappedCoordinates plan := by
  simp [mappedLanes,mappedCoordinates,List.map_flatMap,Function.comp_def]

@[simp] theorem contributors_length (plan : OutputPlan) (logical : ℤ) :
    (contributors plan logical).length = multiplicity plan logical := by
  rw [contributors,List.length_map,multiplicity,← mappedLanes_coordinates,List.count_eq_countP,
    List.countP_map,List.countP_eq_length_filter]
  congr 1

private theorem mappedLanes_nodup (plan : OutputPlan) (valid : Valid plan) :
    ((mappedLanes plan).map Prod.fst).Nodup := by
  rw [mappedLanes,List.map_flatMap]
  simp only [List.map_map,Function.comp_def]
  rw [List.nodup_flatMap]
  refine ⟨fun share member => ?_,?_⟩
  · have slots := valid.slots_nodup share member
    rw [show (share.slotToLogical.map fun entry => (share.identity,entry.1)) =
      (share.slotToLogical.map Prod.fst).map (fun slot => (share.identity,slot)) by simp]
    exact slots.map fun _ _ same => (Prod.mk.inj same).2
  · have apart := List.pairwise_map.mp valid.identities
    refine apart.imp ?_
    intro left right differ lane inLeft inRight
    obtain ⟨_,_,rfl⟩ := List.mem_map.mp inLeft
    obtain ⟨_,_,same⟩ := List.mem_map.mp inRight
    exact differ (Prod.mk.inj same).1.symm

theorem contributors_nodup (plan : OutputPlan) (valid : Valid plan) (logical : ℤ) :
    (contributors plan logical).Nodup :=
  (mappedLanes_nodup plan valid).sublist (List.filter_sublist.map Prod.fst)

theorem contributors_unique (plan : OutputPlan) (valid : Valid plan) (lane : ShareLane)
    (left right : ℤ) (inLeft : lane ∈ contributors plan left)
    (inRight : lane ∈ contributors plan right) : left = right := by
  rw [mem_contributors,← mem_mappedLanes] at inLeft inRight
  have same := List.inj_on_of_nodup_map (mappedLanes_nodup plan valid) inLeft inRight rfl
  exact (Prod.mk.inj same).2

theorem mem_maskedShareIds (plan : OutputPlan) (identity : ShareIdentity) :
    identity ∈ maskedShareIds plan ↔ MapsOverlap plan identity := by
  simp only [maskedShareIds,Sorting.mem_sortedSet,List.mem_flatMap,List.mem_filter,
    List.mem_dedup,decide_eq_true_eq,contributors_length,List.mem_map,MapsOverlap]
  constructor
  · rintro ⟨logical,⟨_,several⟩,lane,member,rfl⟩
    obtain ⟨share,inPlan,same,entry⟩ := (mem_contributors plan lane logical).mp member
    exact ⟨share,inPlan,same,_,entry,several⟩
  · rintro ⟨share,inPlan,rfl,⟨slot,logical⟩,entry,several⟩
    refine ⟨logical,⟨?_,several⟩,(share.identity,slot),
      (mem_contributors plan _ logical).mpr ⟨share,inPlan,rfl,entry⟩,rfl⟩
    exact List.count_pos_iff.mp (Nat.zero_lt_one.trans several)

theorem mem_analyzedShareIds (plan : OutputPlan) (identity : ShareIdentity) :
    identity ∈ analyzedShareIds plan ↔ MapsOverlap plan identity := by
  simp only [analyzedShareIds,List.mem_dedup,List.mem_map,List.mem_filter,List.any_eq_true,
    decide_eq_true_eq,mem_overlapCoordinates,MapsOverlap]
  constructor
  · rintro ⟨share,⟨member,overlap⟩,same⟩
    exact ⟨share,member,same,overlap⟩
  · rintro ⟨share,member,same,overlap⟩
    exact ⟨share,⟨member,overlap⟩,same⟩

theorem mem_maskedOutputShareIds (plan : OutputPlan) (identity : ShareIdentity) :
    identity ∈ maskedOutputShareIds plan ↔ MapsOverlap plan identity := by
  simp only [maskedOutputShareIds,List.mem_dedup,List.mem_map,List.mem_filter,List.any_eq_true,
    decide_eq_true_eq,MapsOverlap]
  constructor
  · rintro ⟨share,⟨member,overlap⟩,same⟩
    exact ⟨share,member,same,overlap⟩
  · rintro ⟨share,member,same,overlap⟩
    exact ⟨share,⟨member,overlap⟩,same⟩

/-- The compiler requires a mask on a result exactly when its route leads to a masked share. -/
theorem mem_requiredOverlapMaskResultIds (plan : OutputPlan) (routes : List ResultRoute)
    (resultId : String) : resultId ∈ requiredOverlapMaskResultIds plan routes ↔
      ∃ route ∈ routes, route.resultId = resultId ∧ MapsOverlap plan route.outputShareId := by
  simp only [requiredOverlapMaskResultIds,List.mem_dedup,List.mem_map,List.mem_filter,
    List.any_eq_true,decide_eq_true_eq,MapsOverlap]
  constructor
  · rintro ⟨route,⟨member,share,⟨inPlan,overlap⟩,same⟩,rfl⟩
    exact ⟨route,member,rfl,share,inPlan,same,overlap⟩
  · rintro ⟨route,member,rfl,share,inPlan,same,overlap⟩
    exact ⟨route,⟨member,share,⟨inPlan,overlap⟩,same⟩,rfl⟩

end OutputPlan
end DynamicCssc
