import DynamicCssc.Failure
import DynamicCssc.Foundation.Json

/-! Output plans: which physical lane of which returned share holds a part of which
logical coordinate. A coordinate held by several lanes is an overlap. -/
namespace DynamicCssc
open Foundation

structure OutputShare where
  componentId : String
  outputBlockId : String
  slotToLogical : List (ℕ × ℤ)
deriving DecidableEq, Repr

structure OutputPlan where
  logicalOutputSize : ℕ
  slotCount : ℕ
  shares : List OutputShare
deriving DecidableEq, Repr

inductive ReconstructionMode
  | concatenate
  | coordinateSum
deriving DecidableEq, Repr

structure OutputPlanAnalysis where
  outputPlanDigest : String
  reconstructionMode : ReconstructionMode
  resultCiphertexts : ℕ
  maskedResultCiphertexts : ℕ
  implicitZeroCoordinates : ℕ
  overlapCoordinates : ℕ
  maskRandomElements : ℕ
  maskMappedElements : ℕ
  clientReorderElements : ℕ
  clientModularAdditions : ℕ
deriving DecidableEq, Repr

/-- The pair `(component_id, output_block_id)`, ordered as a tuple. -/
abbrev ShareIdentity := String ×ₗ String

instance ShareIdentity.lawfulBEq : LawfulBEq ShareIdentity := inferInstance

def OutputShare.identity (share : OutputShare) : ShareIdentity :=
  toLex (share.componentId,share.outputBlockId)

namespace OutputPlan

def outputPlanFormat : String := "dynamic-cssc-output-plan-v1"

def planError (message : String) : Failure := ⟨.outputPlanError,message⟩

/-- Every logical coordinate, once for each lane that maps it, in plan order:
the source's `logical_multiplicity` counts this list. -/
def mappedCoordinates (plan : OutputPlan) : List ℤ :=
  plan.shares.flatMap fun share => share.slotToLogical.map Prod.snd

def multiplicity (plan : OutputPlan) (logical : ℤ) : ℕ := (mappedCoordinates plan).count logical

/-- The body of the loop over `slot_to_logical`. -/
def validateMapping (plan : OutputPlan) (share : OutputShare) : Checked Unit :=
  Checked.eachDistinct (Prod.fst : ℕ × ℤ → ℕ)
    (fun entry => Checked.require (entry.1 < plan.slotCount)
      (planError "physical slot is outside the output share"))
    (planError "physical slots must be unique within an output share")
    (fun entry => Checked.require (0 ≤ entry.2 ∧ entry.2 < plan.logicalOutputSize)
      (planError "logical coordinate is outside the output vector"))
    [] share.slotToLogical

/-- `_validate`: returns the counted coordinates. -/
def validate (plan : OutputPlan) : Checked (List ℤ) := do
  Checked.require (0 < plan.logicalOutputSize)
    (planError "logical_output_size must be a positive integer")
  Checked.require (0 < plan.slotCount) (planError "slot_count must be a positive integer")
  Checked.eachDistinct OutputShare.identity
    (fun share => do
      requireId .outputPlanError share.componentId "component_id"
      requireId .outputPlanError share.outputBlockId "output_block_id")
    (planError "component_id/output_block_id pairs must be unique")
    (fun share => do
      Checked.require (share.slotToLogical ≠ [])
        (planError "each output share must map at least one physical slot")
      validateMapping plan share)
    [] plan.shares
  return mappedCoordinates plan

/-- `canonical_output_plan_payload`, after its call of `_validate`. -/
def canonicalOutputPlanPayload (plan : OutputPlan) : Json :=
  Json.object [
    ("format",.str outputPlanFormat),
    ("logical_output_size",.nat plan.logicalOutputSize),
    ("slot_count",.nat plan.slotCount),
    ("shares",.arr ((Sorting.sortedBy OutputShare.identity plan.shares).map fun share =>
      Json.object [
        ("component_id",.str share.componentId),
        ("output_block_id",.str share.outputBlockId),
        ("slot_to_logical",.arr ((Sorting.sortedBy toLex share.slotToLogical).map fun entry =>
          .ints [entry.1,entry.2]))]))]

def overlapCoordinates (plan : OutputPlan) : List ℤ :=
  (mappedCoordinates plan).dedup.filter fun logical => 1 < multiplicity plan logical

/-- `masked_share_ids` of `analyze_output_plan`. -/
def analyzedShareIds (plan : OutputPlan) : List ShareIdentity :=
  ((plan.shares.filter fun share => share.slotToLogical.any fun entry =>
    entry.2 ∈ overlapCoordinates plan).map OutputShare.identity).dedup

def analyzeOutputPlan (sha : Sha256) (plan : OutputPlan) : Checked OutputPlanAnalysis := do
  let counted ← validate plan
  let overlaps := overlapCoordinates plan
  return {
    outputPlanDigest := sha.hexdigest (Json.dumps false (canonicalOutputPlanPayload plan))
    reconstructionMode := if overlaps = [] then .concatenate else .coordinateSum
    resultCiphertexts := plan.shares.length
    maskedResultCiphertexts := (analyzedShareIds plan).length
    implicitZeroCoordinates := plan.logicalOutputSize - counted.dedup.length
    overlapCoordinates := overlaps.length
    maskRandomElements := (overlaps.map fun logical => multiplicity plan logical - 1).sum
    maskMappedElements := (overlaps.map fun logical => multiplicity plan logical).sum
    clientReorderElements := counted.length
    clientModularAdditions := (counted.dedup.map fun logical => multiplicity plan logical - 1).sum }

/-- What `_validate` accepts. -/
structure Valid (plan : OutputPlan) : Prop where
  size_pos : 0 < plan.logicalOutputSize
  slots_pos : 0 < plan.slotCount
  identities : (plan.shares.map OutputShare.identity).Nodup
  ids : ∀ share ∈ plan.shares, validId share.componentId = true ∧ validId share.outputBlockId = true
  nonempty : ∀ share ∈ plan.shares, share.slotToLogical ≠ []
  slots_nodup : ∀ share ∈ plan.shares, (share.slotToLogical.map Prod.fst).Nodup
  slot_lt : ∀ share ∈ plan.shares, ∀ entry ∈ share.slotToLogical, entry.1 < plan.slotCount
  logical_range : ∀ share ∈ plan.shares, ∀ entry ∈ share.slotToLogical,
    0 ≤ entry.2 ∧ entry.2 < plan.logicalOutputSize

private theorem validateMapping_success (plan : OutputPlan) (share : OutputShare) (done : Unit) :
    validateMapping plan share = .ok done ↔ (share.slotToLogical.map Prod.fst).Nodup ∧
      ∀ entry ∈ share.slotToLogical,
        entry.1 < plan.slotCount ∧ 0 ≤ entry.2 ∧ entry.2 < plan.logicalOutputSize := by
  simp [validateMapping]

theorem validate_success (plan : OutputPlan) (counted : List ℤ) :
    validate plan = .ok counted ↔ Valid plan ∧ counted = mappedCoordinates plan := by
  simp only [validate,Checked.then_success,Checked.require_success,Checked.eachDistinct_success,
    requireId_success,validateMapping_success,pure,Except.pure,Except.ok.injEq]
  constructor
  · rintro ⟨size,slots,⟨identities,shares⟩,rfl⟩
    exact ⟨⟨size,slots,identities,fun share member => (shares share member).1,
      fun share member => (shares share member).2.1,
      fun share member => (shares share member).2.2.1,
      fun share member entry inside => ((shares share member).2.2.2 entry inside).1,
      fun share member entry inside => ((shares share member).2.2.2 entry inside).2⟩,rfl⟩
  · rintro ⟨valid,rfl⟩
    exact ⟨valid.size_pos,valid.slots_pos,⟨valid.identities,fun share member =>
      ⟨valid.ids share member,valid.nonempty share member,valid.slots_nodup share member,
        fun entry inside => ⟨valid.slot_lt share member entry inside,
          valid.logical_range share member entry inside⟩⟩⟩,rfl⟩

theorem analyze_of_valid (sha : Sha256) (plan : OutputPlan) (valid : Valid plan) :
    ∃ analysis, analyzeOutputPlan sha plan = .ok analysis := by
  have passes := (validate_success plan _).mpr ⟨valid,rfl⟩
  simp [analyzeOutputPlan,passes,pure,Except.pure,bind,Except.bind]

theorem mem_overlapCoordinates (plan : OutputPlan) (logical : ℤ) :
    logical ∈ overlapCoordinates plan ↔ 1 < multiplicity plan logical := by
  simp only [overlapCoordinates,List.mem_filter,List.mem_dedup,decide_eq_true_eq,
    and_iff_right_iff_imp]
  intro several
  exact List.count_pos_iff.mp (by unfold multiplicity at several; omega)

end OutputPlan
end DynamicCssc
