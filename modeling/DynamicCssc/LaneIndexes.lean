import DynamicCssc.LanePatches
import DynamicCssc.Foundation.Outcome

/-! The search of `_patch_lanes` in `_available_slots`: as long as the index lists the free lanes in the
order of its key, the search finds the lane of every patch and the index stays so. -/
namespace DynamicCssc
open Foundation Foundation.Outcome

namespace LanePatches

variable {componentId : String}

def shelf (chunk : ValueChunk) : String × List Lane := (chunk.chunkId,chunk.lanes)

/-- A lane stands at a slot of the chunk with an id. -/
def Stored (shelves : List (String × List Lane)) (chunkId : String) (slot : ℕ) (lane : Lane) : Prop :=
  ∃ lanes, (chunkId,lanes) ∈ shelves ∧ lanes[slot]? = some lane

/-- `_available_slots` lists the free lanes of the chunks in the order of its key. -/
structure Lists (componentId : String) (shelves : List (String × List Lane))
    (slots : List (ℤ × LaneKind × SlotLocation)) : Prop where
  distinct : (shelves.map Prod.fst).Nodup
  ordered : Bisect.Ordered availableSlotKey slots
  members : ∀ item, item ∈ slots ↔ ∃ chunkId slot lane, Stored shelves chunkId slot lane ∧
    lane.free ⟨componentId,chunkId,slot⟩ = some item

theorem free_some {lane : Lane} {location : SlotLocation} {item : ℤ × LaneKind × SlotLocation} :
    lane.free location = some item ↔
      lane.kind.available = true ∧ ∃ owner, lane.owner = some owner ∧ item = (owner,lane.kind,location) := by
  unfold Lane.free
  split
  · rename_i available
    rw [Option.map_eq_some_iff]
    constructor
    · rintro ⟨owner,held,rfl⟩
      exact ⟨available,owner,held,rfl⟩
    · rintro ⟨_,owner,held,rfl⟩
      exact ⟨owner,held,rfl⟩
  · rename_i occupied
    simp [occupied]

theorem free_key {lane : Lane} {chunkId : String} {slot : ℕ} {item : ℤ × LaneKind × SlotLocation}
    (free : lane.free ⟨componentId,chunkId,slot⟩ = some item) :
    availableSlotKey item = toLex (chunkId,slot) := by
  obtain ⟨_,_,_,rfl⟩ := free_some.mp free
  rfl

private theorem stored_unique {shelves : List (String × List Lane)} (distinct : (shelves.map Prod.fst).Nodup)
    {chunkId : String} {slot : ℕ} {left right : Lane} (first : Stored shelves chunkId slot left)
    (second : Stored shelves chunkId slot right) : left = right := by
  obtain ⟨lanes,inFirst,here⟩ := first
  obtain ⟨others,inSecond,there⟩ := second
  have same := List.inj_on_of_nodup_map distinct inFirst inSecond rfl
  rw [Prod.mk.injEq] at same
  rw [same.2,there,Option.some.injEq] at here
  exact here.symm

section Patch
variable {before after : List (String × List Lane)} {chunkId : String} {lanes : List Lane} {slot : ℕ}

private theorem stored_set (lane : Lane) (inside : slot < lanes.length)
    (distinct : ((before ++ (chunkId,lanes) :: after).map Prod.fst).Nodup) (id : String) (place : ℕ)
    (other : Lane) : Stored (before ++ (chunkId,lanes.set slot lane) :: after) id place other ↔
      (id = chunkId ∧ place = slot ∧ other = lane) ∨
      (¬(id = chunkId ∧ place = slot) ∧ Stored (before ++ (chunkId,lanes) :: after) id place other) := by
  have apart : ∀ held, (chunkId,held) ∉ before ∧ (chunkId,held) ∉ after := by
    intro held
    simp only [List.map_append,List.map_cons,List.nodup_append,List.nodup_cons,List.mem_map] at distinct
    refine ⟨fun member => ?_,fun member => ?_⟩
    · exact distinct.2.2 chunkId ⟨_,member,rfl⟩ chunkId (by simp) rfl
    · exact distinct.2.1.1 ⟨_,member,rfl⟩
  have written (place : ℕ) (other : Lane) : (lanes.set slot lane)[place]? = some other ↔
      (place = slot ∧ other = lane) ∨ (place ≠ slot ∧ lanes[place]? = some other) := by
    by_cases same : place = slot
    · subst same
      simp [List.getElem?_set_self inside,eq_comm]
    · simp [List.getElem?_set_ne (Ne.symm same),same]
  have here (held : List Lane) : Stored (before ++ (chunkId,held) :: after) chunkId place other ↔
      held[place]? = some other := by
    constructor
    · intro ⟨found,member,stands⟩
      obtain member | member := List.mem_append.mp member
      · exact absurd member (apart found).1
      · obtain same | member := List.mem_cons.mp member
        · rw [Prod.mk.injEq] at same
          rwa [same.2] at stands
        · exact absurd member (apart found).2
    · intro stands
      exact ⟨held,by simp,stands⟩
  have elsewhere (held : List Lane) (differs : id ≠ chunkId) :
      Stored (before ++ (chunkId,held) :: after) id place other ↔ Stored (before ++ after) id place other := by
    simp [Stored,differs]
  by_cases same : id = chunkId
  · subst same
    rw [here,here,written]
    tauto
  · rw [elsewhere _ same,elsewhere _ same]
    tauto

private theorem patchAvailable_ends {slots : List (ℤ × LaneKind × SlotLocation)} {patch : LanePatch}
    {lane : Lane} (next : Lane) (lists : Lists componentId (before ++ (chunkId,lanes) :: after) slots)
    (location : patch.location = ⟨componentId,chunkId,slot⟩) (found : lanes[slot]? = some lane)
    (held : lane.kind = patch.originalKind ∧ lane.owner = some patch.ownerRow)
    (left : next.kind = patch.kind ∧ next.owner = some patch.ownerRow) :
    Ends (Lists componentId (before ++ (chunkId,lanes.set slot next) :: after)) (· ≠ lookupFailure)
      (patchAvailable patch slots) := by
  have inside : slot < lanes.length := (List.getElem?_eq_some_iff.mp found).1
  have stands : Stored (before ++ (chunkId,lanes) :: after) chunkId slot lane := ⟨lanes,by simp,found⟩
  have removed : Ends (fun rest => Bisect.Ordered availableSlotKey rest ∧
        ∀ item, item ∈ rest ↔ item ∈ slots ∧ availableSlotKey item ≠ toLex (chunkId,slot))
      (· ≠ lookupFailure)
      (takeAvailable patch slots) := by
    unfold takeAvailable
    dsimp only
    by_cases available : patch.originalKind.available = true
    · have member : (patch.ownerRow,patch.originalKind,patch.location) ∈ slots :=
        (lists.members _).mpr ⟨chunkId,slot,lane,stands,free_some.mpr
          ⟨held.1 ▸ available,patch.ownerRow,held.2,by rw [held.1,location]⟩⟩
      obtain ⟨names,ordered,rest⟩ := lists.ordered.erase availableSlotKey member
      rw [if_pos available,if_pos (by rw [availableIndex,names]; rfl)]
      refine ⟨ordered,fun item => (rest item).trans ?_⟩
      rw [show availableSlotKey (patch.ownerRow,patch.originalKind,patch.location) =
        toLex (chunkId,slot) by rw [availableSlotKey,location]]
    · rw [if_neg available]
      refine ⟨lists.ordered,fun item => ⟨fun member => ⟨member,fun same => ?_⟩,And.left⟩⟩
      obtain ⟨id,place,other,there,free⟩ := (lists.members item).mp member
      have key := (free_key free).symm.trans same
      rw [EmbeddingLike.apply_eq_iff_eq,Prod.mk.injEq] at key
      obtain ⟨rfl,rfl⟩ := key
      rw [stored_unique lists.distinct there stands] at free
      exact available (held.1 ▸ (free_some.mp free).1)
  refine removed.bind fun rest ⟨ordered,members⟩ => ?_
  have distinct : ((before ++ (chunkId,lanes.set slot next) :: after).map Prod.fst).Nodup := by
    simpa using lists.distinct
  have listed (item : ℤ × LaneKind × SlotLocation) :
      (∃ id place other, Stored (before ++ (chunkId,lanes.set slot next) :: after) id place other ∧
        other.free ⟨componentId,id,place⟩ = some item) ↔
      next.free ⟨componentId,chunkId,slot⟩ = some item ∨ item ∈ rest := by
    simp only [stored_set next inside lists.distinct,members,lists.members]
    constructor
    · rintro ⟨id,place,other,⟨rfl,rfl,rfl⟩ | ⟨differs,there⟩,free⟩
      · exact .inl free
      · refine .inr ⟨⟨id,place,other,there,free⟩,fun same => differs ?_⟩
        have key := (free_key free).symm.trans same
        rwa [EmbeddingLike.apply_eq_iff_eq,Prod.mk.injEq] at key
    · rintro (free | ⟨⟨id,place,other,there,free⟩,differs⟩)
      · exact ⟨chunkId,slot,next,.inl ⟨rfl,rfl,rfl⟩,free⟩
      · refine ⟨id,place,other,.inr ⟨?_,there⟩,free⟩
        rintro ⟨rfl,rfl⟩
        exact differs (free_key free)
  have key : availableSlotKey (patch.ownerRow,patch.kind,patch.location) = toLex (chunkId,slot) := by
    rw [availableSlotKey,location]
  refine (?_ : Lists _ _ (putAvailable patch rest))
  unfold putAvailable
  dsimp only
  by_cases available : patch.kind.available = true
  · rw [if_pos available]
    have fresh : ∀ other ∈ rest,
        availableSlotKey other ≠ availableSlotKey (patch.ownerRow,patch.kind,patch.location) := by
      intro other member
      rw [key]
      exact ((members other).mp member).2
    obtain ⟨sorted,inserted⟩ := Bisect.Ordered.insert availableSlotKey ordered fresh
    refine ⟨distinct,sorted,fun item => (inserted item).trans ((listed item).trans ?_).symm⟩
    rw [free_some,left.1,left.2]
    simp [available,location,eq_comm]
  · rw [if_neg available]
    refine ⟨distinct,ordered,fun item => ((listed item).trans ?_).symm⟩
    rw [free_some,left.1]
    simp [available]

end Patch

private theorem assertion_other {message : String} (differs : message ≠ "available-lane index does not name the patched lane") :
    assertion message ≠ lookupFailure := fun same => differs (congrArg Failure.message same)

private theorem kind_other {kind : ExceptionKind} {message : String} (differs : kind ≠ .assertionError) :
    (⟨kind,message⟩ : Failure) ≠ lookupFailure := fun same => differs (congrArg Failure.kind same)

private theorem patchCoordinates_ends (patch : LanePatch) (slots : List (Coordinate × SlotLocation)) :
    Ends (fun _ => True) (· ≠ lookupFailure) (patchCoordinates patch slots) := by
  have taken : Ends (fun _ => True) (· ≠ lookupFailure) (takeCoordinate patch slots) := by
    unfold takeCoordinate
    split
    · trivial
    · split
      · trivial
      · exact assertion_other (by decide)
  unfold patchCoordinates
  split
  · trivial
  · refine taken.bind fun rest _ => ?_
    unfold putCoordinate
    split
    · trivial
    · split
      · exact assertion_other (by decide)
      · trivial

/-- One patch keeps the index of a component, whose other chunks stand around the patched one. -/
private theorem patchLane_ends {before after : List (String × List Lane)} {chunkId : String} (effectiveSlots : ℕ)
    (patch : LanePatch) (located : patch.location.componentId = componentId)
    (named : patch.location.chunkId = chunkId) (state : List Lane × List ℤ × PatchState)
    (lists : Lists componentId (before ++ (chunkId,state.1) :: after) state.2.2.availableSlots) :
    Ends (fun next : List Lane × List ℤ × PatchState =>
        Lists componentId (before ++ (chunkId,next.1) :: after) next.2.2.availableSlots)
      (· ≠ lookupFailure) (patchLane effectiveSlots state patch) := by
  obtain ⟨lanes,increments,indexes⟩ := state
  refine Ends.require (fun _ => assertion_other (by decide)) fun _ => ?_
  cases found : lanes[patch.location.slot]? with
  | none => exact kind_other (by decide)
  | some lane =>
    refine Ends.require (fun _ => assertion_other (by decide)) fun ⟨kind,_,owner⟩ => ?_
    refine (patchCoordinates_ends patch _).bind fun coordinateSlots _ => ?_
    have location : patch.location = ⟨componentId,chunkId,patch.location.slot⟩ := by
      rw [← located,← named]
    exact (patchAvailable_ends ⟨patch.value,patch.columnIndex,patch.coordinate,lane.owner,patch.kind⟩
      lists location found ⟨kind,owner⟩ ⟨rfl,owner⟩).bind fun availableSlots kept => kept

/-- The chunks of a block, patched up to some chunk, with the chunks of the other blocks around them. -/
private theorem patchChunks_ends {before after : List (String × List Lane)} (effectiveSlots : ℕ)
    (patches : List LanePatch) (located : ∀ patch ∈ patches, patch.location.componentId = componentId)
    (chunks : List ValueChunk) (state : List ValueChunk × List ℤ × PatchState)
    (lists : Lists componentId (before ++ state.1.map shelf ++ (chunks.map shelf ++ after))
      state.2.2.availableSlots) :
    Ends (fun next : List ValueChunk × List ℤ × PatchState =>
        Lists componentId (before ++ next.1.map shelf ++ after) next.2.2.availableSlots)
      (· ≠ lookupFailure) (chunks.foldlM (patchChunk effectiveSlots patches) state) := by
  refine Ends.foldlM (fun rest next => Lists componentId (before ++ next.1.map shelf ++
    (rest.map shelf ++ after)) next.2.2.availableSlots) chunks ?_ state lists
  intro chunk rest state _ lists
  obtain ⟨done,increments,indexes⟩ := state
  unfold patchChunk
  dsimp only at lists ⊢
  split
  · refine (?_ : Lists _ _ _)
    simpa using lists
  · have around : Lists componentId ((before ++ done.map shelf) ++ (chunk.chunkId,chunk.lanes) ::
        (rest.map shelf ++ after)) indexes.availableSlots := by
      simpa [shelf] using lists
    refine Ends.bind (Ends.foldlM (fun _ next => Lists componentId ((before ++ done.map shelf) ++
      (chunk.chunkId,next.1) :: (rest.map shelf ++ after)) next.2.2.availableSlots) _ ?_ _ around) ?_
    · intro patch _ state member lists
      have inside := List.mem_filter.mp ((Sorting.mem_sortedBy _ _ _).mp member)
      exact patchLane_ends effectiveSlots patch (located patch inside.1) (by simpa using inside.2) state lists
    · intro ⟨lanes,increments,indexes⟩ lists
      refine (?_ : Lists _ _ _)
      simpa [shelf] using lists

private theorem growCapacity_ends (rowMap : List ℤ) (capacities : List ℕ) (row : ℤ) :
    Ends (fun _ => True) (· ≠ lookupFailure) (growCapacity rowMap capacities row) := by
  unfold growCapacity
  split
  · exact kind_other (by decide)
  · split
    · exact kind_other (by decide)
    · trivial

private theorem patchBlocks_ends (effectiveSlots : ℕ) (patches : List LanePatch)
    (located : ∀ patch ∈ patches, patch.location.componentId = componentId)
    (blocks : List OutputBlockLayout) (state : List OutputBlockLayout × PatchState)
    (lists : Lists componentId (state.1.flatMap (fun block => block.chunks.map shelf) ++
      blocks.flatMap fun block => block.chunks.map shelf) state.2.availableSlots) :
    Ends (fun next : List OutputBlockLayout × PatchState =>
        Lists componentId (next.1.flatMap fun block => block.chunks.map shelf) next.2.availableSlots)
      (· ≠ lookupFailure) (blocks.foldlM (patchBlock effectiveSlots patches) state) := by
  refine (Ends.foldlM (fun (rest : List OutputBlockLayout) (next : List OutputBlockLayout × PatchState) =>
    Lists componentId (next.1.flatMap (fun block => block.chunks.map shelf) ++ rest.flatMap fun block =>
      block.chunks.map shelf) next.2.availableSlots) blocks ?_ state lists).mono
    fun next lists => by simpa using lists
  intro block rest state _ lists
  obtain ⟨done,indexes⟩ := state
  have around : Lists componentId (done.flatMap (fun block => block.chunks.map shelf) ++
      ([] : List ValueChunk).map shelf ++ (block.chunks.map shelf ++ rest.flatMap fun block =>
        block.chunks.map shelf)) indexes.availableSlots := by
    simpa using lists
  refine (patchChunks_ends effectiveSlots patches located block.chunks ([],[],indexes) around).bind
    fun ⟨chunks,increments,indexes⟩ lists => ?_
  have grown : Ends (fun _ => True) (· ≠ lookupFailure)
      (increments.foldlM (growCapacity block.rowMap) block.physicalRowCapacities) :=
    Ends.foldlM (fun _ _ => True) _ (fun row _ capacities _ _ => growCapacity_ends _ capacities row) _ trivial
  refine grown.bind fun capacities _ => ?_
  refine (?_ : Lists _ _ _)
  simpa using lists

/-- A window of patches keeps the index of a component, and no search in it fails. -/
theorem patchLanes_ends (component : PublishedComponent) (patches : List LanePatch)
    (lists : Lists component.componentId (component.chunks.map shelf) component.availableSlots) :
    Ends (fun next => Lists next.componentId (next.chunks.map shelf) next.availableSlots)
      (· ≠ lookupFailure) (patchLanes component patches) := by
  unfold patchLanes
  split
  · exact lists
  have owned (patch : LanePatch) : Ends (fun _ => patch.location.componentId = component.componentId)
      (· ≠ lookupFailure) (Checked.require (patch.location.componentId = component.componentId)
        (assertion "slot location belongs to another component")) := by
    rw [Checked.require]
    split
    · assumption
    · exact assertion_other (by decide)
  have twice : assertion "one lane may have only one final patch per window" ≠ lookupFailure :=
    assertion_other (by decide)
  refine (Ends.eachDistinct _ _ _ (fun _ => .ok ()) _ (fun _ => True) [] patches owned twice
    fun _ => trivial).bind fun _ located => ?_
  have start : Lists component.componentId (([] : List OutputBlockLayout).flatMap
      (fun block => block.chunks.map shelf) ++ component.blocks.flatMap fun block =>
        block.chunks.map shelf) component.availableSlots := by
    simpa [PublishedComponent.chunks,List.map_flatMap] using lists
  refine (patchBlocks_ends component.layoutSpec.effectiveSlots patches
    (fun patch member => (located patch member).1) component.blocks _ start).bind
    fun state lists => ?_
  obtain ⟨blocks,indexes⟩ := state
  refine Ends.require (fun _ => assertion_other (by decide)) fun _ => ?_
  refine (?_ : Lists _ _ _)
  simpa [PublishedComponent.chunks,List.map_flatMap] using lists

end LanePatches

end DynamicCssc
