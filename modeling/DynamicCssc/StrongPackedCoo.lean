import DynamicCssc.Cssc
import DynamicCssc.QueryNames
import DynamicCssc.Foundation.Grid

/-! The segmented server delta: fixed-width segments, each owned by one row, packed in order
into pages of one ciphertext each. -/
namespace DynamicCssc
open Foundation

structure StrongEntry where
  row : ℤ
  col : ℤ
  value : ℤ
deriving DecidableEq, Repr

def StrongEntry.coordinate (entry : StrongEntry) : Coordinate := ⟨entry.row,entry.col⟩

structure StrongSegment where
  segmentId : String
  segmentOrdinal : ℕ
  pageOrdinal : ℕ
  slotStart : ℕ
  ownerRow : ℤ
  entries : List (Option StrongEntry)
deriving DecidableEq, Repr

structure SegmentedDeltaState where
  rows : ℕ
  cols : ℕ
  effectiveSlots : ℕ
  segmentWidth : ℕ
  matrixValueBound : ℕ
  versionId : String
  segments : List StrongSegment
deriving DecidableEq, Repr

structure ClientBPageMetadata where
  pageId : String
  versionId : String
  globalColumnIndices : List ℤ
deriving DecidableEq, Repr

def strongComponentId : String := "strong-packed-coo-delta"
def strongPageId (pageOrdinal : ℕ) : String := "page-" ++ sixDigits pageOrdinal
def strongSegmentId (segmentOrdinal : ℕ) : String := "segment-" ++ sixDigits segmentOrdinal

namespace SegmentedDeltaState

def segmentsPerPage (state : SegmentedDeltaState) : ℕ := state.effectiveSlots / state.segmentWidth

def deltaError (message : String) : Failure := ⟨.assertionError,message⟩

def activeEntries (segments : List StrongSegment) : List StrongEntry :=
  segments.flatMap fun segment => segment.entries.filterMap fun entry =>
    entry.filter fun resident => resident.value ≠ 0

/-- The checks of `_assert_state_invariants` on one entry. -/
def assertEntry (state : SegmentedDeltaState) (segment : StrongSegment) (entry : StrongEntry) :
    Checked Unit := do
  Checked.require ((0 ≤ entry.row ∧ entry.row < state.rows) ∧ (0 ≤ entry.col ∧ entry.col < state.cols) ∧
      entry.value.natAbs ≤ state.matrixValueBound)
    (deltaError "segment entry is outside the state bounds")
  Checked.require (entry.row = segment.ownerRow)
    (deltaError "one segment must belong to one logical row")

def assertSegment (state : SegmentedDeltaState) (place : StrongSegment × ℕ) : Checked Unit := do
  let segment := place.1
  let ordinal := place.2
  Checked.require (segment.segmentOrdinal = ordinal ∧ segment.segmentId = strongSegmentId ordinal)
    (deltaError "segment IDs must encode only the physical ordinal")
  Checked.require (segment.pageOrdinal = ordinal / state.segmentsPerPage)
    (deltaError "segment page must match its physical ordinal")
  Checked.require (segment.slotStart = (ordinal % state.segmentsPerPage) * state.segmentWidth)
    (deltaError "segment leader lane must match its physical ordinal")
  Checked.require (segment.entries.length = state.segmentWidth)
    (deltaError "segments must have the frozen fixed width")
  Checked.require (0 ≤ segment.ownerRow ∧ segment.ownerRow < state.rows)
    (deltaError "segment owner is outside the matrix")
  Checked.each (assertEntry state segment) (segment.entries.filterMap id)

def assertStateInvariants (state : SegmentedDeltaState) : Checked Unit := do
  Checked.require (0 < state.rows ∧ 0 < state.cols ∧ 0 < state.effectiveSlots ∧
      0 < state.matrixValueBound)
    (deltaError "state dimensions and value bound must be positive integers")
  Checked.require (2 ≤ state.segmentWidth ∧ state.segmentWidth ≤ state.effectiveSlots ∧
      state.segmentWidth &&& (state.segmentWidth - 1) = 0)
    (deltaError "state segment width must be a fitting power of two")
  Checked.require (validId state.versionId = true) (deltaError "state version ID is invalid")
  Checked.each (assertSegment state) state.segments.zipIdx
  Checked.require ((activeEntries state.segments).map StrongEntry.coordinate).Nodup
    (deltaError "active delta coordinates must be unique")

/-- `decode_segmented_delta`. -/
def decode (state : SegmentedDeltaState) : Checked (List (Coordinate × ℤ)) := do
  assertStateInvariants state
  Checked.require ((activeEntries state.segments).map StrongEntry.coordinate).Nodup
    (deltaError "active delta coordinates must be unique")
  return (activeEntries state.segments).map fun entry => (entry.coordinate,entry.value)

/-- The length of `cloud_page_shapes`. -/
def pageCount (state : SegmentedDeltaState) : ℕ :=
  (state.segments.length + state.segmentsPerPage - 1) / state.segmentsPerPage

def residents (state : SegmentedDeltaState) : List ((ℕ × ℕ) × StrongEntry) :=
  state.segments.flatMap fun segment => segment.entries.zipIdx.filterMap fun place =>
    place.1.map fun entry => ((segment.pageOrdinal,segment.slotStart + place.2),entry)

/-- One row of `effective_slots` lanes for each page, blank but for the residents. -/
def pageTable (state : SegmentedDeltaState) (blank : ℤ) (field : StrongEntry → ℤ) : List (List ℤ) :=
  Grid.fill (List.replicate state.pageCount (List.replicate state.effectiveSlots blank))
    (state.residents.map fun resident => (resident.1,field resident.2))

def clientBPageMetadata (state : SegmentedDeltaState) : Checked (List ClientBPageMetadata) := do
  assertStateInvariants state
  return (state.pageTable (-1) StrongEntry.col).zipIdx.map fun page =>
    ⟨strongPageId page.2,state.versionId,page.1⟩

def postAggregationOutputShares (state : SegmentedDeltaState) : Checked (List OutputShare) := do
  assertStateInvariants state
  return (Sorting.sortedSet id (state.segments.map StrongSegment.pageOrdinal)).map fun page =>
    { componentId := strongComponentId
      outputBlockId := strongPageId page
      slotToLogical := (state.segments.filter fun segment => segment.pageOrdinal = page).map
        fun segment => (segment.slotStart,segment.ownerRow) }

/-- What `_assert_state_invariants` accepts of the segment at an ordinal. -/
structure SegmentValid (state : SegmentedDeltaState) (ordinal : ℕ) (segment : StrongSegment) : Prop where
  place : segment.segmentOrdinal = ordinal
  id : segment.segmentId = strongSegmentId ordinal
  page : segment.pageOrdinal = ordinal / state.segmentsPerPage
  start : segment.slotStart = (ordinal % state.segmentsPerPage) * state.segmentWidth
  width : segment.entries.length = state.segmentWidth
  owner : 0 ≤ segment.ownerRow ∧ segment.ownerRow < state.rows
  bounds : ∀ entry, some entry ∈ segment.entries → (0 ≤ entry.row ∧ entry.row < state.rows) ∧
    (0 ≤ entry.col ∧ entry.col < state.cols) ∧ entry.value.natAbs ≤ state.matrixValueBound
  row : ∀ entry, some entry ∈ segment.entries → entry.row = segment.ownerRow

structure Valid (state : SegmentedDeltaState) : Prop where
  rows_pos : 0 < state.rows
  cols_pos : 0 < state.cols
  slots_pos : 0 < state.effectiveSlots
  bound_pos : 0 < state.matrixValueBound
  width_two : 2 ≤ state.segmentWidth
  width_fits : state.segmentWidth ≤ state.effectiveSlots
  width_power : state.segmentWidth &&& (state.segmentWidth - 1) = 0
  version : validId state.versionId = true
  segments : ∀ place ∈ state.segments.zipIdx, SegmentValid state place.2 place.1
  distinct : ((activeEntries state.segments).map StrongEntry.coordinate).Nodup

private theorem assertSegment_success (state : SegmentedDeltaState) (place : StrongSegment × ℕ) :
    assertSegment state place = .ok () ↔ SegmentValid state place.2 place.1 := by
  obtain ⟨segment,ordinal⟩ := place
  simp only [assertSegment,assertEntry,Checked.then_success,Checked.require_success,
    Checked.each_success,List.mem_filterMap,id_eq,exists_eq_right]
  constructor
  · intro checks
    obtain ⟨⟨ordinal,id⟩,page,start,width,owner,entries⟩ := checks
    exact ⟨ordinal,id,page,start,width,owner,fun entry member => (entries entry member).1,
      fun entry member => (entries entry member).2⟩
  · intro valid
    exact ⟨⟨valid.place,valid.id⟩,valid.page,valid.start,valid.width,valid.owner,
      fun entry member => ⟨valid.bounds entry member,valid.row entry member⟩⟩

@[simp] theorem assertStateInvariants_success (state : SegmentedDeltaState) (done : Unit) :
    assertStateInvariants state = .ok done ↔ Valid state := by
  simp only [assertStateInvariants,Checked.then_success,Checked.require_success,
    Checked.each_success,assertSegment_success]
  constructor
  · intro checks
    obtain ⟨⟨rows,cols,slots,bound⟩,⟨two,fits,power⟩,version,segments,distinct⟩ := checks
    exact ⟨rows,cols,slots,bound,two,fits,power,version,segments,distinct⟩
  · intro valid
    exact ⟨⟨valid.rows_pos,valid.cols_pos,valid.slots_pos,valid.bound_pos⟩,
      ⟨valid.width_two,valid.width_fits,valid.width_power⟩,valid.version,valid.segments,valid.distinct⟩

@[simp] theorem decode_success (state : SegmentedDeltaState) (decoded : List (Coordinate × ℤ)) :
    decode state = .ok decoded ↔ Valid state ∧
      decoded = (activeEntries state.segments).map fun entry => (entry.coordinate,entry.value) := by
  simp only [decode,Checked.then_success,assertStateInvariants_success,Checked.require_success,pure,
    Except.pure,Except.ok.injEq]
  constructor
  · intro ⟨valid,_,same⟩
    exact ⟨valid,same.symm⟩
  · intro ⟨valid,same⟩
    exact ⟨valid,valid.distinct,same.symm⟩

theorem page_fits (state : SegmentedDeltaState) :
    state.segmentsPerPage * state.segmentWidth ≤ state.effectiveSlots :=
  Nat.div_mul_le_self _ _

@[simp] theorem pageTable_length (state : SegmentedDeltaState) (blank : ℤ) (field : StrongEntry → ℤ) :
    (state.pageTable blank field).length = state.pageCount := by
  simp [pageTable]

theorem pageTable_row_length (state : SegmentedDeltaState) (blank : ℤ) (field : StrongEntry → ℤ) :
    ∀ row ∈ state.pageTable blank field, row.length = state.effectiveSlots :=
  Grid.fill_row_length _ _ (fun row member => by rw [(List.mem_replicate.mp member).2]; simp) _

namespace Valid

variable {state : SegmentedDeltaState} (valid : Valid state)
include valid

private theorem perPage_pos : 0 < state.segmentsPerPage :=
  Nat.div_pos valid.width_fits (by have := valid.width_two; omega)

theorem power : ∃ rounds, state.segmentWidth = 2 ^ rounds := by
  have two := valid.width_two
  exact (Nat.and_sub_one_eq_zero_iff_isPowerOfTwo (by omega)).mp valid.width_power

theorem segment (segment : StrongSegment) (member : segment ∈ state.segments) :
    ∃ ordinal, state.segments[ordinal]? = some segment ∧ SegmentValid state ordinal segment := by
  obtain ⟨ordinal,found⟩ := List.mem_iff_getElem?.mp member
  exact ⟨ordinal,found,valid.segments _ (List.mk_mem_zipIdx_iff_getElem?.mpr found)⟩

theorem segment_end (ordinal : ℕ) (segment : StrongSegment) (here : SegmentValid state ordinal segment) :
    segment.slotStart + state.segmentWidth ≤ state.segmentsPerPage * state.segmentWidth := by
  have below := Nat.mod_lt ordinal valid.perPage_pos
  rw [here.start]
  nlinarith

theorem page_lt (ordinal : ℕ) (below : ordinal < state.segments.length) :
    ordinal / state.segmentsPerPage < state.pageCount := by
  have positive := valid.perPage_pos
  rw [pageCount,Nat.div_lt_iff_lt_mul positive]
  have enough : state.segments.length ≤
      (state.segments.length + state.segmentsPerPage - 1) / state.segmentsPerPage * state.segmentsPerPage := by
    have rest := Nat.div_add_mod (state.segments.length + state.segmentsPerPage - 1) state.segmentsPerPage
    have small := Nat.mod_lt (state.segments.length + state.segmentsPerPage - 1) positive
    rw [mul_comm]
    omega
  omega

theorem segment_at (ordinal : ℕ) (segment : StrongSegment)
    (found : state.segments[ordinal]? = some segment) : SegmentValid state ordinal segment :=
  valid.segments _ (List.mk_mem_zipIdx_iff_getElem?.mpr found)

/-- The page and lane of a segment's entry determine both. -/
theorem place_injective (left right : ℕ) (leftSegment rightSegment : StrongSegment)
    (foundLeft : state.segments[left]? = some leftSegment)
    (foundRight : state.segments[right]? = some rightSegment) (i j : ℕ)
    (hi : i < state.segmentWidth) (hj : j < state.segmentWidth)
    (pages : leftSegment.pageOrdinal = rightSegment.pageOrdinal)
    (lanes : leftSegment.slotStart + i = rightSegment.slotStart + j) : left = right ∧ i = j := by
  have hl := valid.segment_at left leftSegment foundLeft
  have hr := valid.segment_at right rightSegment foundRight
  rw [hl.page,hr.page] at pages
  rw [hl.start,hr.start] at lanes
  have width := valid.width_two
  have blocks : left % state.segmentsPerPage = right % state.segmentsPerPage := by
    have a : (left % state.segmentsPerPage * state.segmentWidth + i) / state.segmentWidth =
        left % state.segmentsPerPage := by
      rw [mul_comm,Nat.mul_add_div (by omega),Nat.div_eq_of_lt hi,add_zero]
    have b : (right % state.segmentsPerPage * state.segmentWidth + j) / state.segmentWidth =
        right % state.segmentsPerPage := by
      rw [mul_comm,Nat.mul_add_div (by omega),Nat.div_eq_of_lt hj,add_zero]
    rw [← a,← b,lanes]
  rw [blocks] at lanes
  refine ⟨?_,by omega⟩
  rw [← Nat.div_add_mod left state.segmentsPerPage,← Nat.div_add_mod right state.segmentsPerPage,
    pages,blocks]

private theorem residents_nodup : (state.residents.map Prod.fst).Nodup := by
  have places : state.residents.map Prod.fst = state.segments.zipIdx.flatMap fun place =>
      place.1.entries.zipIdx.filterMap fun entry => entry.1.map fun _ =>
        (place.1.pageOrdinal,place.1.slotStart + entry.2) := by
    rw [residents,List.map_flatMap]
    conv_lhs => rw [← List.zipIdx_map_fst 0 state.segments,List.flatMap_map]
    simp [List.map_filterMap,Function.comp_def]
  rw [places,List.nodup_flatMap]
  constructor
  · intro place member
    rw [List.Nodup,List.pairwise_filterMap]
    refine (Grid.zipIdx_apart _).imp ?_
    intro left right apart first inLeft second inRight same
    obtain ⟨_,_,rfl⟩ := Option.map_eq_some_iff.mp inLeft
    obtain ⟨_,_,rfl⟩ := Option.map_eq_some_iff.mp inRight
    exact apart (by simpa using same)
  · refine (Grid.zipIdx_apart state.segments).imp_of_mem ?_
    intro left right memberLeft memberRight apart lane inLeft inRight
    simp only [List.mem_filterMap,Option.map_eq_some_iff] at inLeft inRight
    obtain ⟨⟨_,i⟩,hi,_,_,rfl⟩ := inLeft
    obtain ⟨⟨_,j⟩,hj,_,_,same⟩ := inRight
    have foundLeft := List.mk_mem_zipIdx_iff_getElem?.mp memberLeft
    have foundRight := List.mk_mem_zipIdx_iff_getElem?.mp memberRight
    have boundLeft := (valid.segment_at _ _ foundLeft).width ▸ List.snd_lt_of_mem_zipIdx hi
    have boundRight := (valid.segment_at _ _ foundRight).width ▸ List.snd_lt_of_mem_zipIdx hj
    obtain ⟨pages,lanes⟩ := Prod.mk.inj same
    exact apart (valid.place_injective _ _ _ _ foundLeft foundRight i j
      (by simpa using boundLeft) (by simpa using boundRight) pages.symm lanes.symm).1

private theorem mem_residents (ordinal : ℕ) (segment : StrongSegment)
    (found : state.segments[ordinal]? = some segment) (offset : ℕ) (inside : offset < state.segmentWidth)
    (entry : StrongEntry) :
    ((segment.pageOrdinal,segment.slotStart + offset),entry) ∈ state.residents ↔
      segment.entries[offset]? = some (some entry) := by
  simp only [residents,List.mem_flatMap,List.mem_filterMap,Option.map_eq_some_iff,Prod.mk.injEq]
  constructor
  · intro ⟨other,member,⟨_,place⟩,here,_,present,⟨pages,lanes⟩,same⟩
    obtain ⟨index,foundOther⟩ := List.mem_iff_getElem?.mp member
    have read := List.mk_mem_zipIdx_iff_getElem?.mp here
    have bound := List.snd_lt_of_mem_zipIdx here
    rw [(valid.segment_at _ _ foundOther).width] at bound
    obtain ⟨ordinals,offsets⟩ := valid.place_injective _ _ _ _ foundOther found place offset
      (by simpa using bound) inside pages lanes
    subst ordinals offsets
    rw [found] at foundOther
    rw [Option.some.inj foundOther,read,← same]
    simpa using present
  · intro read
    exact ⟨segment,List.mem_iff_getElem?.mpr ⟨ordinal,found⟩,(some entry,offset),
      List.mk_mem_zipIdx_iff_getElem?.mpr read,entry,rfl,⟨rfl,rfl⟩,rfl⟩

theorem pageTable_lane (blank : ℤ) (field : StrongEntry → ℤ) (ordinal : ℕ) (segment : StrongSegment)
    (found : state.segments[ordinal]? = some segment) (offset : ℕ)
    (inside : offset < state.segmentWidth) :
    Grid.cell (state.pageTable blank field) (segment.pageOrdinal,segment.slotStart + offset) =
      some (((segment.entries[offset]?).bind id).elim blank field) := by
  have here := valid.segment_at ordinal segment found
  have lane := valid.segment_end ordinal segment here
  have fits := state.page_fits
  have below := valid.page_lt ordinal (List.getElem?_eq_some_iff.mp found).1
  have empty : Grid.cell (List.replicate state.pageCount (List.replicate state.effectiveSlots blank))
      (segment.pageOrdinal,segment.slotStart + offset) = some blank := by
    rw [Grid.cell,List.getElem?_replicate,here.page,if_pos below,Option.bind_some,
      List.getElem?_replicate,if_pos (by omega)]
  have bound : offset < segment.entries.length := by rw [here.width]; exact inside
  have keys : (state.residents.map fun resident => (resident.1,field resident.2)).map Prod.fst =
      state.residents.map Prod.fst := by simp [Function.comp_def]
  rw [pageTable,List.getElem?_eq_getElem bound]
  cases read : segment.entries[offset] with
  | none =>
    rw [Grid.cell_fill_absent,empty]
    · rfl
    · rw [keys]
      intro written
      obtain ⟨⟨place,entry⟩,member,same⟩ := List.mem_map.mp written
      rw [show place = _ from same,valid.mem_residents ordinal segment found offset inside] at member
      rw [List.getElem?_eq_getElem bound,read] at member
      simp at member
  | some entry =>
    refine Grid.cell_fill_written _ _ (by rw [keys]; exact valid.residents_nodup) _ _ ?_ (by simp [empty])
    refine List.mem_map.mpr ⟨_,(valid.mem_residents ordinal segment found offset inside entry).mpr ?_,rfl⟩
    rw [List.getElem?_eq_getElem bound,read]

theorem pages : Sorting.sortedSet id (state.segments.map StrongSegment.pageOrdinal) =
    List.range state.pageCount := by
  have positive := valid.perPage_pos
  have members : ∀ page, page ∈ state.segments.map StrongSegment.pageOrdinal ↔
      page ∈ List.range state.pageCount := by
    intro page
    rw [List.mem_map,List.mem_range]
    constructor
    · intro ⟨segment,member,same⟩
      obtain ⟨ordinal,found,here⟩ := valid.segment segment member
      rw [← same,here.page]
      exact valid.page_lt ordinal (List.getElem?_eq_some_iff.mp found).1
    · intro below
      have first : page * state.segmentsPerPage < state.segments.length := by
        rw [pageCount,Nat.lt_div_iff_mul_lt positive] at below
        omega
      have found := List.getElem?_eq_getElem first
      refine ⟨_,List.getElem_mem first,?_⟩
      rw [(valid.segment_at _ _ found).page,Nat.mul_div_cancel _ positive]
  rw [Sorting.sortedSet_congr id Function.injective_id members,Sorting.sortedSet,
    List.dedup_eq_self.mpr List.nodup_range]
  exact Sorting.sortedBy_eq_self id (by simpa using List.pairwise_le_range)

end Valid

end SegmentedDeltaState
end DynamicCssc
