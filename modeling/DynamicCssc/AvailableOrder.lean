import DynamicCssc.LaneIndexes
import DynamicCssc.PublishReturned
import DynamicCssc.Foundation.DecimalOrder

/-! When the lanes that `publish_component` lists in `_available_slots` stand in the order of their key.
The list is built block by block and chunk by chunk, and searched in the order of the chunk ids, which
number both with six digits. -/
namespace DynamicCssc
open Foundation

namespace LanePatches

def chunkStart (table : RowTable) (slots : ℕ) (rowMap : List ℕ) (index : ℕ) : ℕ :=
  (fun column => column + table.chunkWidth slots rowMap column)^[index] 0

/-- Some row that a chunk holds has fewer entries than the ranks up to the end of the chunk. -/
def LeavesFree (table : RowTable) (slots : ℕ) (rowMap : List ℕ) (index : ℕ) : Prop :=
  ∃ row ∈ rowMap, chunkStart table slots rowMap index < table.capacity row ∧
    (table.entries row).length < chunkStart table slots rowMap (index + 1)

/-- The chunks with a free lane come in the text order of their numbers. -/
def FreeInTextOrder (table : RowTable) (spec : LayoutSpec) : Prop :=
  ∀ first ∈ (blockRanges spec).zipIdx, ∀ second ∈ (blockRanges spec).zipIdx, ∀ left right : ℕ,
    LeavesFree table spec.effectiveSlots (sortedRows table first.1) left →
    LeavesFree table spec.effectiveSlots (sortedRows table second.1) right →
    (first.2 < second.2 → Decimal.Precedes 6 first.2 second.2) ∧
    (first.2 = second.2 → left < right → Decimal.Precedes 6 left right)

inductive Patched (published : PublishedComponent) : PublishedComponent → Prop
  | start : Patched published published
  | window {component next : PublishedComponent} (patches : List LanePatch)
    (reached : Patched published component) (run : patchLanes component patches = .ok next) :
    Patched published next

/-- In every component that patches make, the index is strictly increasing and no search in it fails. -/
def SearchesSucceed (published : PublishedComponent) : Prop :=
  ∀ component, Patched published component → Bisect.Ordered availableSlotKey component.availableSlots ∧
    ∀ patches, patchLanes component patches ≠ .error lookupFailure

theorem Lists.patched {published component : PublishedComponent}
    (lists : Lists published.componentId (published.chunks.map shelf) published.availableSlots)
    (reached : Patched published component) :
    Lists component.componentId (component.chunks.map shelf) component.availableSlots := by
  induction reached with
  | start => exact lists
  | window patches _ run ih => exact (patchLanes_ends _ patches ih).returned run

private theorem searchesSucceed_iff (component : PublishedComponent)
    (distinct : (component.chunks.map ValueChunk.chunkId).Nodup)
    (scanned : component.availableSlots = component.scannedAvailable) :
    SearchesSucceed component ↔ Bisect.Ordered availableSlotKey component.availableSlots := by
  constructor
  · intro succeed
    exact (succeed component .start).1
  · intro ordered next reached
    have lists : Lists component.componentId (component.chunks.map shelf) component.availableSlots := by
      refine ⟨by rwa [List.map_map,show Prod.fst ∘ shelf = ValueChunk.chunkId from rfl],ordered,
        fun item => ?_⟩
      rw [scanned,scannedAvailable_eq]
      simp only [List.mem_flatMap,ValueChunk.free,List.mem_filterMap,Stored,List.mem_map]
      constructor
      · rintro ⟨chunk,member,⟨lane,slot⟩,here,free⟩
        exact ⟨chunk.chunkId,slot,lane,⟨chunk.lanes,⟨chunk,member,rfl⟩,
          List.mk_mem_zipIdx_iff_getElem?.mp here⟩,free⟩
      · rintro ⟨_,slot,lane,⟨_,⟨chunk,member,same⟩,stands⟩,free⟩
        obtain ⟨rfl,rfl⟩ := Prod.mk.inj same
        exact ⟨chunk,member,(lane,slot),List.mk_mem_zipIdx_iff_getElem?.mpr stands,free⟩
    have kept := lists.patched reached
    exact ⟨kept.ordered,fun patches failed => (patchLanes_ends next patches kept).raised failed rfl⟩

/-! The order of the listed lanes. -/

private theorem free_ordered (componentId : String) (chunk : ValueChunk) :
    Bisect.Ordered availableSlotKey (chunk.free componentId) := by
  have slots : chunk.lanes.zipIdx.Pairwise fun first second => first.2 < second.2 := by
    rw [← List.pairwise_map (f := Prod.snd),List.zipIdx_map_snd]
    exact List.pairwise_lt_range'
  rw [Bisect.Ordered,ValueChunk.free,List.pairwise_filterMap]
  refine slots.imp fun {first second} less one firstFree other secondFree => ?_
  rw [free_key firstFree,free_key secondFree]
  exact Prod.Lex.toLex_lt_toLex.mpr (.inr ⟨rfl,less⟩)

/-- The chunks that hold a free lane come in the order of their ids. -/
def FreeInOrder (componentId : String) (first second : ValueChunk) : Prop :=
  first.free componentId ≠ [] → second.free componentId ≠ [] → first.chunkId < second.chunkId

private theorem mem_free_key {componentId : String} {chunk : ValueChunk} {item : ℤ × LaneKind × SlotLocation}
    (member : item ∈ chunk.free componentId) : ∃ slot, availableSlotKey item = toLex (chunk.chunkId,slot) := by
  obtain ⟨entry,_,free⟩ := List.mem_filterMap.mp member
  exact ⟨entry.2,free_key free⟩

private theorem flatMap_free_ordered (componentId : String) (chunks : List ValueChunk)
    (distinct : (chunks.map ValueChunk.chunkId).Nodup) :
    Bisect.Ordered availableSlotKey (chunks.flatMap (ValueChunk.free componentId)) ↔
      chunks.Pairwise (FreeInOrder componentId) := by
  rw [Bisect.Ordered,List.pairwise_flatMap]
  refine (and_iff_right fun chunk _ => free_ordered componentId chunk).trans ?_
  constructor
  · intro ordered
    refine (ordered.and (List.pairwise_map.mp distinct)).imp
      fun {first second} ⟨less,apart⟩ someFirst someSecond => ?_
    obtain ⟨one,inFirst⟩ := List.exists_mem_of_ne_nil _ someFirst
    obtain ⟨other,inSecond⟩ := List.exists_mem_of_ne_nil _ someSecond
    have keys := less one inFirst other inSecond
    obtain ⟨slot,firstKey⟩ := mem_free_key inFirst
    obtain ⟨place,secondKey⟩ := mem_free_key inSecond
    rw [firstKey,secondKey] at keys
    exact (Prod.Lex.toLex_lt_toLex.mp keys).resolve_right fun same => apart same.1
  · intro ordered
    refine ordered.imp fun {first second} less one inFirst other inSecond => ?_
    obtain ⟨slot,firstKey⟩ := mem_free_key inFirst
    obtain ⟨place,secondKey⟩ := mem_free_key inSecond
    rw [firstKey,secondKey]
    exact Prod.Lex.toLex_lt_toLex.mpr (.inl (less (List.ne_nil_of_mem inFirst) (List.ne_nil_of_mem inSecond)))

/-! The chunks of a published block. -/

private theorem chunkStart_succ (table : RowTable) (slots : ℕ) (rowMap : List ℕ) (index : ℕ) :
    chunkStart table slots rowMap (index + 1) = chunkStart table slots rowMap index +
      table.chunkWidth slots rowMap (chunkStart table slots rowMap index) :=
  Function.iterate_succ_apply' _ _ _

section Block
variable {table : RowTable} {spec : LayoutSpec} {componentId : String} {block : (ℕ × ℕ) × ℕ}
  {chunks : List ValueChunk}

theorem Laid.starts {slots : ℕ} {blockId : String} {rowMap : List ℕ} {column index stop : ℕ}
    (laid : Laid table slots blockId rowMap column index chunks stop) (place : ℕ) (chunk : ValueChunk)
    (here : chunks[place]? = some chunk) :
    chunk.startColumn = (fun column => column + table.chunkWidth slots rowMap column)^[place] column := by
  induction chunks generalizing column index place with
  | nil => simp at here
  | cons head chunks ih =>
    obtain ⟨first,_,rest⟩ := laid
    cases place with
    | zero =>
      rw [List.getElem?_cons_zero,Option.some.injEq] at here
      rw [← here,first]
      rfl
    | succ place => exact ih rest place here

theorem Laid.reached {slots : ℕ} {blockId : String} {rowMap : List ℕ} {column index stop : ℕ}
    (laid : Laid table slots blockId rowMap column index chunks stop) (place : ℕ)
    (before : (fun column => column + table.chunkWidth slots rowMap column)^[place] column < stop) :
    place < chunks.length := by
  induction chunks generalizing column index place with
  | nil =>
    have start : column = stop := laid
    have later := Function.id_le_iterate_of_id_le
      (f := fun column => column + table.chunkWidth slots rowMap column) (fun column => Nat.le_add_right _ _)
      place column
    simp only [id] at later
    omega
  | cons head chunks ih =>
    obtain ⟨_,_,rest⟩ := laid
    cases place with
    | zero => simp
    | succ place => simpa using ih rest place before

private theorem blockLaid_start (laid : BlockLaid table spec componentId block chunks) (place : ℕ) (chunk : ValueChunk)
    (here : chunks[place]? = some chunk) :
    chunk = blockChunk table spec componentId block
      (chunkStart table spec.effectiveSlots (sortedRows table block.1) place) place := by
  have start := Laid.starts laid place chunk here
  have same := (laid.chunk place chunk here).1
  rw [start] at same
  exact same

private theorem blockChunk_free (fits : table.Fits spec) (index : ℕ)
    (short : (sortedRows table block.1).length ≤ spec.effectiveSlots) :
    (blockChunk table spec componentId block
      (chunkStart table spec.effectiveSlots (sortedRows table block.1) index) index).free componentId ≠ [] ↔
      LeavesFree table spec.effectiveSlots (sortedRows table block.1) index := by
  rw [LeavesFree,chunkStart_succ]
  generalize chunkStart table spec.effectiveSlots (sortedRows table block.1) index = start
  have ordered := sortedRows_descending table block.1
  constructor
  · intro some
    obtain ⟨item,member⟩ := List.exists_mem_of_ne_nil _ some
    obtain ⟨⟨lane,slot⟩,inLanes,free⟩ := List.mem_filterMap.mp member
    obtain ⟨available,owner,owned,_⟩ := free_some.mp free
    obtain ⟨inside,row,_,here,stored⟩ := blockChunk_owned _ _ slot lane owner
      (List.mk_mem_zipIdx_iff_getElem?.mp inLanes) owned
    have tall : 0 < table.reaching (sortedRows table block.1) start := Nat.pos_of_ne_zero fun flat => by
      rw [flat,Nat.mul_zero] at inside
      omega
    have column : slot / table.reaching (sortedRows table block.1) start <
        table.chunkWidth spec.effectiveSlots (sortedRows table block.1) start :=
      Nat.div_lt_of_lt_mul (by rwa [Nat.mul_comm])
    refine ⟨row,List.mem_of_getElem? here,(lt_reaching ordered _ _ row here).mp (Nat.mod_lt _ tall),?_⟩
    have beyond : (table.entries row).length ≤
        start + slot / table.reaching (sortedRows table block.1) start := by
      by_contra within
      have held : ∃ entry, (table.entries row)[start +
          slot / table.reaching (sortedRows table block.1) start]? = .some entry :=
        ⟨_,List.getElem?_eq_getElem (by omega)⟩
      obtain ⟨entry,held⟩ := held
      have used := fits.used row
      have rank : (blockChunk table spec componentId block start index).rank slot =
          start + slot / table.reaching (sortedRows table block.1) start := rfl
      rw [stored,rank,laneAt,if_neg (by omega),held] at available
      cases available
    omega
  · rintro ⟨row,member,reach,used⟩
    obtain ⟨place,here⟩ := List.mem_iff_getElem?.mp member
    have low := (lt_reaching ordered start place row here).mpr reach
    have wide := chunkWidth_pos short ((lt_widest start).mpr ⟨row,member,reach⟩)
    have inside : (table.chunkWidth spec.effectiveSlots (sortedRows table block.1) start - 1) *
          table.reaching (sortedRows table block.1) start + place <
        table.chunkWidth spec.effectiveSlots (sortedRows table block.1) start *
          table.reaching (sortedRows table block.1) start := by
      obtain ⟨last,same⟩ := Nat.exists_eq_add_of_lt wide
      rw [same,Nat.zero_add,Nat.add_sub_cancel,Nat.succ_mul]
      omega
    have lane := @laidChunk_inside table spec.effectiveSlots
      (componentId ++ "-h" ++ sixDigits block.2) (sortedRows table block.1) start index _ inside
    have modulus : ((table.chunkWidth spec.effectiveSlots (sortedRows table block.1) start - 1) *
          table.reaching (sortedRows table block.1) start + place) %
        table.reaching (sortedRows table block.1) start = place := by
      rw [Nat.mul_comm,Nat.mul_add_mod,Nat.mod_eq_of_lt low]
    have division : ((table.chunkWidth spec.effectiveSlots (sortedRows table block.1) start - 1) *
          table.reaching (sortedRows table block.1) start + place) /
        table.reaching (sortedRows table block.1) start =
        table.chunkWidth spec.effectiveSlots (sortedRows table block.1) start - 1 := by
      rw [Nat.mul_comm,Nat.mul_add_div (by omega),Nat.div_eq_of_lt low,Nat.add_zero]
    rw [rectangleLane,modulus,division,here,Option.getD_some] at lane
    refine List.ne_nil_of_mem (List.mem_filterMap.mpr
      ⟨(_,_),List.mk_mem_zipIdx_iff_getElem?.mpr lane,
        free_some.mpr ⟨?_,(row : ℤ),laneAt_owner table row _,rfl⟩⟩)
    unfold laneAt
    split
    · rfl
    · rw [List.getElem?_eq_none (by omega)]
      rfl

end Block

private theorem index_le_chunkStart (table : RowTable) {slots : ℕ} {rowMap : List ℕ} (short : rowMap.length ≤ slots)
    (index : ℕ) (before : chunkStart table slots rowMap index < table.widest rowMap) :
    index ≤ chunkStart table slots rowMap index := by
  induction index with
  | zero => exact Nat.zero_le _
  | succ index ih =>
    rw [chunkStart_succ] at before ⊢
    have beyond : chunkStart table slots rowMap index < table.widest rowMap := by omega
    have wide := chunkWidth_pos short beyond
    have earlier := ih beyond
    omega

private theorem freeInTextOrder_of_small {table : RowTable} {spec : LayoutSpec} (fits : table.Fits spec)
    (partition : spec.partitionRows ≤ spec.effectiveSlots) (blocks : (blockRanges spec).length ≤ 10 ^ 6)
    (columns : spec.cols ≤ 10 ^ 6) : FreeInTextOrder table spec := by
  have index (block : (ℕ × ℕ) × ℕ) (member : block ∈ (blockRanges spec).zipIdx) : block.2 < 10 ^ 6 := by
    have inside := List.snd_lt_of_mem_zipIdx member
    omega
  have chunk (block : (ℕ × ℕ) × ℕ) (member : block ∈ (blockRanges spec).zipIdx) (place : ℕ)
      (some : LeavesFree table spec.effectiveSlots (sortedRows table block.1) place) : place < 10 ^ 6 := by
    obtain ⟨row,inRows,reach,_⟩ := some
    have short : (sortedRows table block.1).length ≤ spec.effectiveSlots := by
      rw [sortedRows_length]
      exact (blockRanges_bounds (List.fst_mem_of_mem_zipIdx member)).2.trans partition
    have early := index_le_chunkStart table short place ((lt_widest _).mpr ⟨row,inRows,reach⟩)
    have bound := fits.capacity row
    omega
  intro first inFirst second inSecond left right _ someRight
  exact ⟨fun less => Decimal.precedes_of_lt 6 _ _ (by decide) less (index second inSecond),
    fun _ less => Decimal.precedes_of_lt 6 _ _ (by decide) less (chunk second inSecond right someRight)⟩

/-! The order of the chunk ids. -/

private theorem blockChunk_id_lt (table : RowTable) (spec : LayoutSpec) (componentId : String)
    (first second : (ℕ × ℕ) × ℕ) (start other left right : ℕ) :
    (first.2 < second.2 → ((blockChunk table spec componentId first start left).chunkId <
      (blockChunk table spec componentId second other right).chunkId ↔
        Decimal.Precedes 6 first.2 second.2)) ∧
    (first.2 = second.2 → left < right → ((blockChunk table spec componentId first start left).chunkId <
      (blockChunk table spec componentId second other right).chunkId ↔ Decimal.Precedes 6 left right)) := by
  have split (block : (ℕ × ℕ) × ℕ) (start index : ℕ) :
      (blockChunk table spec componentId block start index).chunkId.toList =
        (componentId ++ "-h").toList ++ ((sixDigits block.2).toList ++
          ("-c".toList ++ ((sixDigits index).toList ++ []))) := by
    simp only [blockChunk,laidChunk,String.toList_append,List.append_assoc,List.append_nil]
  have cancel (stem : List Char) (one other : List Char) : stem ++ one < stem ++ other ↔ one < other := by
    rw [Decimal.append_lt_append_iff stem stem one other rfl]
    simp
  constructor
  · intro less
    rw [String.lt_iff_toList_lt,split,split,cancel]
    exact Decimal.padded_precedes 6 first.2 second.2 _ _ less (by
      rw [show "-c".toList = ['-','c'] from rfl]
      intro char here
      cases here
      decide)
  · intro same less
    rw [String.lt_iff_toList_lt,split,split,same,cancel,cancel,cancel]
    exact Decimal.padded_precedes 6 left right [] [] less (by simp)

private theorem laidComponent_ordered {table : RowTable} {spec : LayoutSpec} {versionId componentId : String}
    {chunksOf : (ℕ × ℕ) × ℕ → List ValueChunk} (fits : table.Fits spec)
    (partition : spec.partitionRows ≤ spec.effectiveSlots)
    (laid : ∀ block ∈ (blockRanges spec).zipIdx, BlockLaid table spec componentId block (chunksOf block)) :
    Bisect.Ordered availableSlotKey (laidComponent table spec versionId componentId chunksOf).availableSlots ↔
      FreeInTextOrder table spec := by
  have distinct := @laidComponent_chunkIds table spec versionId componentId chunksOf laid
  rw [laidComponent_chunks] at distinct
  have numbered : Bisect.Ordered Prod.snd (blockRanges spec).zipIdx := by
    rw [Bisect.Ordered,← List.pairwise_map (f := Prod.snd),List.zipIdx_map_snd]
    exact List.pairwise_lt_range'
  have short (block : (ℕ × ℕ) × ℕ) (member : block ∈ (blockRanges spec).zipIdx) :
      (sortedRows table block.1).length ≤ spec.effectiveSlots := by
    rw [sortedRows_length]
    exact (blockRanges_bounds (List.fst_mem_of_mem_zipIdx member)).2.trans partition
  have leaves (block : (ℕ × ℕ) × ℕ) (member : block ∈ (blockRanges spec).zipIdx) (index : ℕ)
      (chunk : ValueChunk) (here : (chunksOf block)[index]? = some chunk) :
      chunk.free componentId ≠ [] ↔
        LeavesFree table spec.effectiveSlots (sortedRows table block.1) index := by
    rw [blockLaid_start (laid block member) index chunk here]
    exact blockChunk_free fits index (short block member)
  have exist (block : (ℕ × ℕ) × ℕ) (member : block ∈ (blockRanges spec).zipIdx) (index : ℕ)
      (some : LeavesFree table spec.effectiveSlots (sortedRows table block.1) index) :
      ∃ chunk, (chunksOf block)[index]? = .some chunk := by
    obtain ⟨row,inRows,reach,_⟩ := some
    exact ⟨_,List.getElem?_eq_getElem (Laid.reached (laid block member) index
      ((lt_widest _).mpr ⟨row,inRows,reach⟩))⟩
  have text (first second : (ℕ × ℕ) × ℕ) (inFirst : first ∈ (blockRanges spec).zipIdx)
      (inSecond : second ∈ (blockRanges spec).zipIdx) (left right : ℕ) (one other : ValueChunk)
      (here : (chunksOf first)[left]? = some one) (there : (chunksOf second)[right]? = some other) :
      (first.2 < second.2 → (one.chunkId < other.chunkId ↔ Decimal.Precedes 6 first.2 second.2)) ∧
      (first.2 = second.2 → left < right →
        (one.chunkId < other.chunkId ↔ Decimal.Precedes 6 left right)) := by
    rw [blockLaid_start (laid first inFirst) left one here,
      blockLaid_start (laid second inSecond) right other there]
    exact blockChunk_id_lt table spec componentId first second _ _ left right
  refine (flatMap_free_ordered componentId _ distinct).trans ?_
  rw [List.pairwise_flatMap,numbered.pairwise_iff]
  constructor
  · intro ⟨within,across⟩ first inFirst second inSecond left right someLeft someRight
    obtain ⟨one,here⟩ := exist first inFirst left someLeft
    obtain ⟨other,there⟩ := exist second inSecond right someRight
    have freeLeft := (leaves first inFirst left one here).mpr someLeft
    have freeRight := (leaves second inSecond right other there).mpr someRight
    obtain ⟨apart,together⟩ := text first second inFirst inSecond left right one other here there
    refine ⟨fun less => (apart less).mp ?_,fun same less => (together same less).mp ?_⟩
    · exact across first inFirst second inSecond less one (List.mem_of_getElem? here) other
        (List.mem_of_getElem? there) freeLeft freeRight
    · obtain rfl := numbered.inj Prod.snd inFirst inSecond same
      obtain ⟨inside,rfl⟩ := List.getElem?_eq_some_iff.mp here
      obtain ⟨within',rfl⟩ := List.getElem?_eq_some_iff.mp there
      exact List.pairwise_iff_getElem.mp (within first inFirst) left right inside within' less freeLeft freeRight
  · intro ordered
    constructor
    · intro block member
      refine List.pairwise_iff_getElem.mpr fun left right inLeft inRight less freeLeft freeRight => ?_
      have here := List.getElem?_eq_getElem inLeft
      have there := List.getElem?_eq_getElem inRight
      exact ((text block block member member left right _ _ here there).2 rfl less).mpr
        ((ordered block member block member left right ((leaves block member left _ here).mp freeLeft)
          ((leaves block member right _ there).mp freeRight)).2 rfl less)
    · intro first inFirst second inSecond less one inOne other inOther freeLeft freeRight
      obtain ⟨left,here⟩ := List.mem_iff_getElem?.mp inOne
      obtain ⟨right,there⟩ := List.mem_iff_getElem?.mp inOther
      exact ((text first second inFirst inSecond left right _ _ here there).1 less).mpr
        ((ordered first inFirst second inSecond left right ((leaves first inFirst left _ here).mp freeLeft)
          ((leaves second inSecond right _ there).mp freeRight)).1 less)

end LanePatches

section Request
variable {state : SparseState} {rows cols effectiveSlots : ℤ} {versionId componentPrefix : String}
  {partitionRows : Option ℤ} {physicalCapacities : Option (List ℤ)}

/-- Whatever `publish_component` returns, its index and the indexes that windows of patches make of it
are searchable exactly when the chunks with a free lane come in the text order of their numbers. -/
theorem availableSlots_searchable (rounds : ℕ) (validated : Bool) (component : PublishedComponent)
    (distinct : (state.map Prod.fst).Nodup) (promised : validated = true → state.InRange rows cols)
    (run : publishComponent rounds validated state rows cols effectiveSlots versionId componentPrefix
      partitionRows physicalCapacities = .ok component) :
    LanePatches.SearchesSucceed component ↔
      LanePatches.FreeInTextOrder (requestTable state rows physicalCapacities)
        (requestSpec rows cols effectiveSlots partitionRows) := by
  have request := PublishRequest.of_published rounds validated component distinct promised run
  obtain ⟨chunksOf,laid,ends⟩ := request.blocks_end
  have later := publishComponent_mono rounds (max rounds cols.toNat) (le_max_left _ _) validated component run
  rw [ends (max rounds cols.toNat) validated (by omega)] at later
  obtain rfl := Except.ok.inj later
  rw [LanePatches.searchesSucceed_iff _ (laidComponent_chunkIds laid)
    (by rw [scannedAvailable_eq,laidComponent_chunks]; rfl)]
  exact LanePatches.laidComponent_ordered request.fits request.spec_fits laid

end Request

theorem smallState_searchable : ∃ component : PublishedComponent,
    publishComponent 3 false smallState 5 3 4 "v1" "base" (some 3) (some [2,1,3,1,0]) = .ok component ∧
      LanePatches.SearchesSucceed component := by
  obtain ⟨component,run,_⟩ := smallState_published
  refine ⟨component,run,(availableSlots_searchable 3 false component (by decide) nofun run).mpr ?_⟩
  exact LanePatches.freeInTextOrder_of_small smallState_request.fits smallState_request.spec_fits
    (by decide) (by decide)

private theorem manyBlocks_request :
    PublishRequest [] 1000001 1 1 "v1" "base" (some 1) (some (List.replicate 1000001 1)) := by
  refine ⟨by decide,by decide,by decide,by decide,by decide,by decide,
    ⟨by simp,by simp,by simp,by simp⟩,?_,?_⟩
  · intro capacities given
    cases given
    rw [List.length_replicate]
    rfl
  · intro capacities given row capacity found
    cases given
    rw [List.getElem?_replicate] at found
    split at found
    · rw [← Option.some.inj found]
      exact ⟨by simp [SparseState.rowCount],le_rfl⟩
    · cases found

/-- The millionth block and the next one are numbered out of order. -/
theorem manyBlocks_unordered : ∃ component : PublishedComponent,
    publishComponent 1 false [] 1000001 1 1 "v1" "base" (some 1) (some (List.replicate 1000001 1)) =
      .ok component ∧ ¬Bisect.Ordered availableSlotKey component.availableSlots := by
  have request := manyBlocks_request
  obtain ⟨chunksOf,laid,ends⟩ := request.blocks_end
  refine ⟨_,ends 1 false (by decide),fun ordered => ?_⟩
  have text := (LanePatches.laidComponent_ordered request.fits request.spec_fits laid).mp ordered
  have ranges (index : ℕ) (inside : index < 1000001) :
      ((index,index + 1),index) ∈ (blockRanges (requestSpec 1000001 1 1 (some 1))).zipIdx := by
    refine List.mk_mem_zipIdx_iff_getElem?.mpr ?_
    rw [blockRanges,List.getElem?_map,List.getElem?_range (by simpa [requestSpec] using inside),
      Option.map_some]
    simp only [requestSpec,Option.getD_some,Int.toNat_one,Nat.mul_one,Option.some.injEq,Prod.mk.injEq,
      true_and]
    omega
  have leaves (index : ℕ) (inside : index < 1000001) :
      LanePatches.LeavesFree (requestTable [] 1000001 (some (List.replicate 1000001 1))) 1
        (sortedRows (requestTable [] 1000001 (some (List.replicate 1000001 1))) (index,index + 1)) 0 := by
    have member := (mem_sortedRows (requestTable [] 1000001 (some (List.replicate 1000001 1)))
      (index,index + 1) index).mpr ⟨le_rfl,Nat.lt_succ_self index⟩
    have capacity : (requestTable [] 1000001 (some (List.replicate 1000001 1))).capacity index = 1 := by
      rw [requestTable_capacity,if_pos (by simpa using inside),requestedCapacity,List.getElem?_replicate,
        if_pos inside]
      rfl
    have reach : LanePatches.chunkStart (requestTable [] 1000001 (some (List.replicate 1000001 1))) 1
        (sortedRows (requestTable [] 1000001 (some (List.replicate 1000001 1))) (index,index + 1)) 0 <
        (requestTable [] 1000001 (some (List.replicate 1000001 1))).capacity index := by
      rw [capacity]
      exact Nat.one_pos
    refine ⟨index,member,reach,?_⟩
    have wide := @chunkWidth_pos _ 1 _ _ (by rw [sortedRows_length]; omega)
      ((lt_widest _).mpr ⟨index,member,reach⟩)
    have used : (requestTable [] 1000001 (some (List.replicate 1000001 1))).entries index = [] := by
      rw [requestTable_entries]
      split <;> rfl
    rw [used,LanePatches.chunkStart_succ,List.length_nil]
    omega
  have before := (text _ (ranges 999999 (by decide)) _ (ranges 1000000 (by decide)) 0 0
    (leaves 999999 (by decide)) (leaves 1000000 (by decide))).1 (by decide)
  revert before
  decide

end DynamicCssc
