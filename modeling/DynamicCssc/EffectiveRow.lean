import DynamicCssc.QueryEmission
import DynamicCssc.Foundation.Strided

/-! What a cloud program says about the lanes of one effective row, for any machine that runs it:
the equation of each node, and where the lanes beyond the row stay zero. -/
namespace DynamicCssc
open Foundation CloudProgram

variable {R : Type} [CommRing R]

abbrev Lanes (R : Type) := String → ℕ → R

/-- No lane beyond the row holds anything. -/
def Quiet (width : ℕ) (lanes : Lanes R) (id : String) : Prop :=
  ∀ lane, width ≤ lane → lanes id lane = 0

/-- The equation of a node on the lanes of the row. A rotation is pinned down only where it does
not wrap around. -/
def RowHolds (width : ℕ) (masks : List PlaintextMask) (lanes : Lanes R) : CloudNode → Prop
  | .multiplyCiphertexts resultId leftId rightId =>
      ∀ lane < width, lanes resultId lane = lanes leftId lane * lanes rightId lane
  | .relinearize resultId ciphertextId =>
      ∀ lane < width, lanes resultId lane = lanes ciphertextId lane
  | .rotate resultId ciphertextId _ openfheIndex => ∀ shift : ℕ, openfheIndex = shift →
      ∀ lane, lane + shift < width → lanes resultId lane = lanes ciphertextId (lane + shift)
  | .multiplyPlaintextMask resultId ciphertextId maskId => ∀ mask ∈ masks, mask.maskId = maskId →
      ∀ lane < width, lanes resultId lane =
        lanes ciphertextId lane * (((mask.values[lane]?).getD 0 : ℤ) : R)
  | .addCiphertexts resultId leftId rightId | .addF1MMask resultId leftId rightId _ =>
      ∀ lane < width, lanes resultId lane = lanes leftId lane + lanes rightId lane
  | .returnResult _ _ => True

/-- Where a node cannot carry anything beyond the row. -/
def QuietHolds (width : ℕ) (lanes : Lanes R) : CloudNode → Prop
  | .multiplyCiphertexts resultId leftId rightId | .addCiphertexts resultId leftId rightId
  | .addF1MMask resultId leftId rightId _ =>
      Quiet width lanes leftId → Quiet width lanes rightId → Quiet width lanes resultId
  | .relinearize resultId ciphertextId => Quiet width lanes ciphertextId → Quiet width lanes resultId
  | .multiplyPlaintextMask resultId _ _ => Quiet width lanes resultId
  | .rotate _ _ _ _ | .returnResult _ _ => True

structure Solves (width : ℕ) (masks : List PlaintextMask) (lanes : Lanes R) (nodes : List CloudNode) :
    Prop where
  rows : ∀ node ∈ nodes, RowHolds width masks lanes node
  quiet : ∀ node ∈ nodes, QuietHolds width lanes node

theorem Solves.mono {width : ℕ} {masks more : List PlaintextMask} {lanes : Lanes R}
    {nodes later : List CloudNode} (fewer : masks ⊆ more) (subset : nodes ⊆ later)
    (solves : Solves width more lanes later) : Solves width masks lanes nodes := by
  refine ⟨?_,fun node member => solves.quiet node (subset member)⟩
  intro node member
  have holds := solves.rows node (subset member)
  cases node with
  | multiplyPlaintextMask resultId ciphertextId maskId =>
    exact fun mask inMasks => holds mask (fewer inMasks)
  | _ => exact holds

/-- What the compilation leaves alone while it appends the nodes of one operand or result. -/
structure Extends (before after : Emission) : Prop where
  nodes : before.nodes ⊆ after.nodes
  masks : before.plaintextMasks ⊆ after.plaintextMasks
  inputs : after.ciphertextInputs = before.ciphertextInputs
  specs : after.operandSpecs = before.operandSpecs
  routes : after.routes = before.routes
  operands : after.operandOrdinal = before.operandOrdinal
  results : after.resultOrdinal = before.resultOrdinal

theorem Extends.refl (emission : Emission) : Extends emission emission :=
  ⟨List.Subset.refl _,List.Subset.refl _,rfl,rfl,rfl,rfl,rfl⟩

theorem Extends.trans {first second third : Emission} (early : Extends first second)
    (late : Extends second third) : Extends first third :=
  ⟨List.Subset.trans early.nodes late.nodes,List.Subset.trans early.masks late.masks,
    late.inputs.trans early.inputs,late.specs.trans early.specs,late.routes.trans early.routes,
    late.operands.trans early.operands,late.results.trans early.results⟩

theorem rotateAdd_extends (rotated sum : Name) (source accumulated : String) (shift : ℕ)
    (emission : Emission) : Extends emission (emission.rotateAdd rotated sum source accumulated shift) :=
  ⟨List.subset_append_left _ _,List.Subset.refl _,rfl,rfl,rfl,rfl,rfl⟩

theorem select_extends (slotCount ordinal : ℕ) (selected : ℕ → Bool) (accumulated : String)
    (emission : Emission) : Extends emission (emission.select slotCount ordinal selected accumulated).1 :=
  ⟨List.subset_append_left _ _,List.subset_append_left _ _,rfl,rfl,rfl,rfl,rfl⟩

theorem addSelected_extends (state : Emission × String) (entry : String × ℕ) :
    Extends state.1 (addSelected state entry).1 :=
  ⟨List.subset_append_left _ _,List.Subset.refl _,rfl,rfl,rfl,rfl,rfl⟩

theorem Solves.before {width : ℕ} {lanes : Lanes R} {before after : Emission}
    (extend : Extends before after) (solves : Solves width after.plaintextMasks lanes after.nodes) :
    Solves width before.plaintextMasks lanes before.nodes :=
  Solves.mono extend.masks extend.nodes solves

/-- A ciphertext holds the strided sums of another, as far as rotations do not wrap around. -/
def Sums (R : Type) [CommRing R] (width : ℕ) (emission : Emission) (source : String)
    (stride terms : ℕ) (id : String) : Prop :=
  ∀ lanes : Lanes R, Solves width emission.plaintextMasks lanes emission.nodes →
    Strided.Partial width (lanes source) stride terms (lanes id)

theorem Sums.later {width : ℕ} {before after : Emission} {source : String} {stride terms : ℕ}
    {id : String} (extend : Extends before after) (sums : Sums R width before source stride terms id) :
    Sums R width after source stride terms id :=
  fun lanes solves => sums lanes (solves.before extend)

theorem Sums.single (width : ℕ) (emission : Emission) (source : String) (stride : ℕ) :
    Sums R width emission source stride 1 source :=
  fun _ _ => Strided.Partial.single _ _ _ _ fun _ _ => rfl

theorem Sums.rotateAdd {width : ℕ} {emission : Emission} {origin : String} {stride first second : ℕ}
    {source accumulated : String} (left : Sums R width emission origin stride first accumulated)
    (right : Sums R width emission origin stride second source) (positive : 0 < second)
    (nonempty : 0 < first) (rotated sum : Name) :
    Sums R width (emission.rotateAdd rotated sum source accumulated (first * stride)) origin stride
      (first + second) sum.text := by
  intro lanes solves
  have extend := rotateAdd_extends rotated sum source accumulated (first * stride) emission
  have rotates := solves.rows (.rotate rotated.text source _ _)
    (List.mem_append_right _ List.mem_cons_self) (first * stride) rfl
  have adds := solves.rows (.addCiphertexts sum.text accumulated rotated.text)
    (List.mem_append_right _ (List.mem_cons_of_mem _ (List.mem_singleton.mpr rfl)))
  exact (left lanes (solves.before extend)).append (right lanes (solves.before extend)) positive nonempty
    rotates adds

end DynamicCssc
