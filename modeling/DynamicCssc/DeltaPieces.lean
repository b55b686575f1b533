import DynamicCssc.QueryPieces

/-! The pieces of a segmented delta, one for each page, and of the client segments. -/
namespace DynamicCssc
open Foundation

section
variable {R : Type} [CommRing R]

def StrongSegment.active (segment : StrongSegment) : List (Coordinate × ℤ) :=
  (segment.entries.filterMap fun entry => entry.filter fun resident => resident.value ≠ 0).map
    fun entry => (entry.coordinate,entry.value)

namespace SegmentedDeltaState

/-- What `decode_segmented_delta` returns. -/
def decoded (delta : SegmentedDeltaState) : List (Coordinate × ℤ) :=
  (activeEntries delta.segments).map fun entry => (entry.coordinate,entry.value)

theorem decoded_eq (delta : SegmentedDeltaState) :
    delta.decoded = delta.segments.flatMap StrongSegment.active := by
  rw [decoded,activeEntries,List.map_flatMap]
  rfl

def onPage (delta : SegmentedDeltaState) (page : ℕ) : List StrongSegment :=
  delta.segments.filter fun segment => segment.pageOrdinal = page

def pageShare (delta : SegmentedDeltaState) (page : ℕ) : OutputShare :=
  { componentId := strongComponentId
    outputBlockId := strongPageId page
    slotToLogical := (delta.onPage page).map fun segment => (segment.slotStart,segment.ownerRow) }

theorem Valid.shares {delta : SegmentedDeltaState} (valid : delta.Valid) :
    delta.postAggregationOutputShares = .ok ((List.range delta.pageCount).map delta.pageShare) := by
  rw [postAggregationOutputShares,(assertStateInvariants_success delta ()).mpr valid,Checked.ok_bind,
    valid.pages]
  rfl

/-- The values and columns of a page. -/
def page (delta : SegmentedDeltaState) (page : ℕ) : (List ℤ × ClientBPageMetadata) × ℕ :=
  ((((delta.pageTable 0 StrongEntry.value)[page]?).getD [],⟨strongPageId page,delta.versionId,
    ((delta.pageTable (-1) StrongEntry.col)[page]?).getD []⟩),page)

theorem Valid.deltaPages {delta : SegmentedDeltaState} (valid : delta.Valid) :
    DynamicCssc.deltaPages delta = .ok ((List.range delta.pageCount).map delta.page) := by
  rw [DynamicCssc.deltaPages,clientBPageMetadata,(assertStateInvariants_success delta ()).mpr valid]
  simp only [Checked.ok_bind,pure,Except.pure,Except.ok.injEq]
  refine List.ext_getElem (by simp) ?_
  intro index below _
  have inside : index < delta.pageCount := by simpa using below
  simp [SegmentedDeltaState.page,inside]

end SegmentedDeltaState

private theorem rowSum_active (weight : ℤ → R) (row : ℤ) (segment : StrongSegment)
    (owned : ∀ entry, some entry ∈ segment.entries → entry.row = segment.ownerRow) :
    rowSum weight row segment.active = if segment.ownerRow = row then
      (segment.entries.map fun entry => ((entry.elim 0 StrongEntry.value : ℤ) : R) *
        weight (entry.elim (-1) StrongEntry.col)).sum else 0 := by
  rw [rowSum,StrongSegment.active]
  generalize segment.entries = entries at owned ⊢
  induction entries with
  | nil => simp
  | cons entry entries ih =>
    have rest := ih fun other member => owned other (List.mem_cons_of_mem _ member)
    cases entry with
    | none => simpa using rest
    | some entry =>
      have same := owned entry List.mem_cons_self
      by_cases zero : entry.value = 0
      · simpa [zero,Option.filter] using rest
      · by_cases here : segment.ownerRow = row
        · rw [if_pos here] at rest
          simp_all [Option.filter,StrongEntry.coordinate]
        · rw [if_neg here] at rest
          simp_all [Option.filter,StrongEntry.coordinate]

private theorem segment_weighted (delta : SegmentedDeltaState) (valid : delta.Valid) (segment : StrongSegment)
    (member : segment ∈ delta.segments) (weight : ℤ → R) :
    (pagePart 0 delta (delta.page segment.pageOrdinal).1).weighted weight segment.slotStart =
      (segment.entries.map fun entry => ((entry.elim 0 StrongEntry.value : ℤ) : R) *
        weight (entry.elim (-1) StrongEntry.col)).sum := by
  obtain ⟨ordinal,found,here⟩ := valid.segment segment member
  have wide := valid.width_two
  have ends := valid.segment_end ordinal segment here
  have leads : (pagePart 0 delta (delta.page segment.pageOrdinal).1).selected segment.slotStart = true := by
    simp only [pagePart,segmentLeader,Bool.and_eq_true,decide_eq_true_eq,beq_iff_eq]
    exact ⟨by omega,by rw [here.start,Nat.mul_mod_left]⟩
  have lane : ∀ offset entry, segment.entries[offset]? = some entry →
      (pagePart 0 delta (delta.page segment.pageOrdinal).1).product weight (segment.slotStart + offset) =
        ((entry.elim 0 StrongEntry.value : ℤ) : R) * weight (entry.elim (-1) StrongEntry.col) := by
    intro offset entry read
    have inside : offset < delta.segmentWidth := here.width ▸ (List.getElem?_eq_some_iff.mp read).1
    have cells (blank : ℤ) (field : StrongEntry → ℤ) :
        ((((delta.pageTable blank field)[segment.pageOrdinal]?).getD [])[segment.slotStart + offset]?).getD blank =
          entry.elim blank field := by
      have cell := valid.pageTable_lane blank field ordinal segment found offset inside
      rw [read,Option.bind_some,id_eq,Grid.cell] at cell
      cases there : (delta.pageTable blank field)[segment.pageOrdinal]? with
      | none => simp [there] at cell
      | some line =>
        rw [there,Option.bind_some] at cell
        rw [Option.getD_some,cell,Option.getD_some]
    rw [← cells 0 StrongEntry.value,← cells (-1) StrongEntry.col]
    rfl
  rw [Part.weighted,if_pos leads,Strided.sum_map_eq_range _ _ _ lane,here.width]
  exact Finset.sum_congr rfl fun offset _ => by
    rw [show (pagePart 0 delta (delta.page segment.pageOrdinal).1).stride = 1 from rfl,Nat.mul_one]

def pagePiece (delta : SegmentedDeltaState) (page : ℕ) : Piece :=
  ⟨delta.pageShare page,pageOutcome delta (delta.page page),
    (delta.onPage page).flatMap StrongSegment.active⟩

private theorem pagePiece_sums (delta : SegmentedDeltaState) (valid : delta.Valid) (page : ℕ) (weight : ℤ → R)
    (row : ℤ) : (pagePiece delta page).share.rowTotal row ((pagePiece delta page).outcome.weighted weight) =
      rowSum weight row (pagePiece delta page).entries := by
  rw [OutputShare.rowTotal,show (pagePiece delta page).share.slotToLogical =
      (delta.onPage page).map fun segment => (segment.slotStart,segment.ownerRow) from rfl,
    show (pagePiece delta page).entries = (delta.onPage page).flatMap StrongSegment.active from rfl,
    rowSum_flatMap,List.map_map]
  congr 1
  refine List.map_congr_left fun segment member => ?_
  obtain ⟨inDelta,onPage⟩ := List.mem_filter.mp member
  obtain ⟨ordinal,_,here⟩ := valid.segment segment inDelta
  rw [decide_eq_true_eq] at onPage
  rw [rowSum_active weight row segment here.row,← segment_weighted delta valid segment inDelta weight,onPage]
  simp only [Function.comp_apply,Outcome.weighted,pagePiece,pageOutcome,List.map_cons,List.map_nil,
    List.sum_cons,List.sum_nil,add_zero]

private theorem strongComponentId_valid : validId strongComponentId = true := by decide

private theorem clientLaneComponentId_valid : validId clientLaneComponentId = true := by decide

private theorem strongPageId_valid (page : ℕ) : validId (strongPageId page) = true := by
  have digits := sixDigits_printable page
  simp only [validId,strongPageId,String.toList_append,List.all_append,digits,Bool.and_true,
    Bool.and_eq_true]
  exact ⟨by simp,by decide⟩

theorem strongPageId_injective : Function.Injective strongPageId := by
  intro left right same
  have digits := congrArg String.toList same
  simp only [strongPageId,String.toList_append,List.append_cancel_left_eq] at digits
  exact Decimal.padded_injective 6 (String.toList_injective digits)

private theorem SegmentedDeltaState.page_line (delta : SegmentedDeltaState) (blank : ℤ) (field : StrongEntry → ℤ)
    (page : ℕ) (below : page < delta.pageCount) :
    (((delta.pageTable blank field)[page]?).getD []).length = delta.effectiveSlots := by
  rw [List.getElem?_eq_getElem (by simpa using below),Option.getD_some]
  exact delta.pageTable_row_length blank field _ (List.getElem_mem _)

theorem pagePiece_sound (delta : SegmentedDeltaState) (valid : delta.Valid) (page : ℕ)
    (below : page < delta.pageCount) : (pagePiece delta page).Sound delta.rows delta.cols delta.effectiveSlots := by
  have inDelta : ∀ segment ∈ delta.onPage page, segment ∈ delta.segments ∧ segment.pageOrdinal = page :=
    fun segment member => by simpa [SegmentedDeltaState.onPage] using member
  have distinct : (delta.onPage page).Nodup := by
    refine List.Nodup.filter _ (List.Nodup.of_map StrongSegment.segmentOrdinal ?_)
    have ordinals : delta.segments.map StrongSegment.segmentOrdinal = List.range delta.segments.length := by
      refine List.ext_getElem (by simp) fun index inside _ => ?_
      rw [List.length_map] at inside
      rw [List.getElem_map,List.getElem_range]
      exact (valid.segment_at index _ (List.getElem?_eq_getElem inside)).place
    exact ordinals ▸ List.nodup_range
  refine ⟨rfl,⟨⟨strongComponentId_valid,strongPageId_valid page⟩,?_,?_,?_,?_⟩,?_,?_,fun R _ weight row =>
    pagePiece_sums delta valid page weight row⟩
  · have used : page ∈ Sorting.sortedSet id (delta.segments.map StrongSegment.pageOrdinal) := by
      rw [valid.pages,List.mem_range]
      exact below
    rw [Sorting.mem_sortedSet,List.mem_map] at used
    obtain ⟨segment,member,same⟩ := used
    have there : segment ∈ delta.onPage page := List.mem_filter.mpr ⟨member,by simpa using same⟩
    exact List.ne_nil_of_mem (List.mem_map_of_mem there)
  · show (((delta.onPage page).map fun segment => (segment.slotStart,segment.ownerRow)).map Prod.fst).Nodup
    rw [List.map_map]
    refine List.Nodup.map_on ?_ distinct
    intro left inLeft right inRight same
    obtain ⟨memberLeft,pageLeft⟩ := inDelta left inLeft
    obtain ⟨memberRight,pageRight⟩ := inDelta right inRight
    obtain ⟨i,foundLeft,_⟩ := valid.segment left memberLeft
    obtain ⟨j,foundRight,_⟩ := valid.segment right memberRight
    have two := valid.width_two
    obtain ⟨equal,_⟩ := valid.place_injective i j left right foundLeft foundRight 0 0 (by omega) (by omega)
      (pageLeft.trans pageRight.symm) same
    rw [equal,foundRight] at foundLeft
    exact (Option.some.inj foundLeft).symm
  · intro entry member
    obtain ⟨segment,inside,rfl⟩ := List.mem_map.mp member
    obtain ⟨ordinal,_,here⟩ := valid.segment segment (inDelta segment inside).1
    have ends := valid.segment_end ordinal segment here
    have fits := delta.page_fits
    have two := valid.width_two
    show segment.slotStart < delta.effectiveSlots
    omega
  · intro entry member
    obtain ⟨segment,inside,rfl⟩ := List.mem_map.mp member
    obtain ⟨ordinal,_,here⟩ := valid.segment segment (inDelta segment inside).1
    exact here.owner
  · intro part inParts
    rw [List.mem_singleton.mp inParts]
    exact ⟨delta.page_line 0 StrongEntry.value page below,delta.page_line (-1) StrongEntry.col page below⟩
  · intro part inParts column inColumns
    rw [List.mem_singleton.mp inParts] at inColumns
    have line : ((delta.pageTable (-1) StrongEntry.col)[page]?).getD [] ∈ delta.pageTable (-1) StrongEntry.col := by
      rw [List.getElem?_eq_getElem (by simpa using below),Option.getD_some]
      exact List.getElem_mem _
    rcases Grid.mem_fill _ _ _ line column inColumns with ⟨start,inStart,inLine⟩ | written
    · rw [List.mem_replicate] at inStart
      rw [inStart.2,List.mem_replicate] at inLine
      rw [inLine.2]
      omega
    · rw [List.map_map] at written
      obtain ⟨resident,member,rfl⟩ := List.mem_map.mp written
      obtain ⟨segment,inSegments,there⟩ := List.mem_flatMap.mp member
      obtain ⟨place,inEntries,held⟩ := List.mem_filterMap.mp there
      obtain ⟨entry,present,rfl⟩ := Option.map_eq_some_iff.mp held
      obtain ⟨ordinal,_,here⟩ := valid.segment segment inSegments
      have inside : some entry ∈ segment.entries := present ▸ List.fst_mem_of_mem_zipIdx inEntries
      exact (here.bounds entry inside).2.1.2

/-- Items sorted into numbered groups, summed group by group. -/
private theorem sum_groups {α : Type} (groups : ℕ) (group : α → ℕ) (items : List α)
    (bounded : ∀ item ∈ items, group item < groups) (f : α → R) :
    ((List.range groups).map fun index => ((items.filter fun item => group item = index).map f).sum).sum =
      (items.map f).sum := by
  induction items with
  | nil => simp
  | cons item items ih =>
    have rest := ih fun other member => bounded other (List.mem_cons_of_mem _ member)
    have here := bounded item List.mem_cons_self
    have split : (fun index => (((item :: items).filter fun other => group other = index).map f).sum) =
        fun index => (if group item = index then f item else 0) +
          ((items.filter fun other => group other = index).map f).sum := by
      funext index
      by_cases same : group item = index <;> simp [same]
    rw [split,List.sum_map_add,rest,List.map_cons,List.sum_cons]
    congr 1
    rw [← List.sum_toFinset _ List.nodup_range,Finset.sum_ite_eq,if_pos (by simpa using here)]

theorem pages_rowSum (delta : SegmentedDeltaState) (valid : delta.Valid) (weight : ℤ → R) (row : ℤ) :
    (((List.range delta.pageCount).map (pagePiece delta)).map fun piece => rowSum weight row piece.entries).sum =
      rowSum weight row delta.decoded := by
  rw [delta.decoded_eq,rowSum_flatMap,List.map_map,
    ← sum_groups delta.pageCount StrongSegment.pageOrdinal delta.segments ?_ fun segment =>
      rowSum weight row segment.active]
  · congr 1
    refine List.map_congr_left fun page _ => ?_
    exact rowSum_flatMap weight row (delta.onPage page) StrongSegment.active
  · intro segment member
    obtain ⟨ordinal,found,here⟩ := valid.segment segment member
    rw [here.page]
    exact valid.page_lt ordinal (List.getElem?_eq_some_iff.mp found).1

/-! Client segments. -/

namespace PackedCOOSegment

def decoded (segment : PackedCOOSegment) : List (Coordinate × ℤ) :=
  (segment.entries.filterMap fun entry => entry.filter fun held => held.value ≠ 0).map
    fun entry => (entry.coordinate,entry.value)

theorem active_decoded (segment : PackedCOOSegment) :
    segment.active.map (fun place => (place.2.coordinate,place.2.value)) = segment.decoded := by
  rw [active,decoded,List.map_filterMap]
  conv_rhs => rw [← List.zipIdx_map_fst 0 segment.entries,List.filterMap_map,List.map_filterMap]
  refine List.filterMap_congr fun place _ => ?_
  rw [Option.map_map]
  rfl

private theorem mem_active (segment : PackedCOOSegment) (lane : ℕ) (entry : PackedCOOEntry) :
    (lane,entry) ∈ segment.active ↔ segment.entries[lane]? = some (some entry) ∧ entry.value ≠ 0 := by
  simp only [active,List.mem_filterMap,Prod.exists,List.mk_mem_zipIdx_iff_getElem?,Option.map_eq_some_iff,
    Option.filter_eq_some_iff,decide_eq_true_eq,Prod.mk.injEq]
  constructor
  · intro ⟨held,place,found,_,⟨present,nonzero⟩,slot,same⟩
    rw [← slot,← same]
    exact ⟨present ▸ found,nonzero⟩
  · intro ⟨found,nonzero⟩
    exact ⟨_,lane,found,entry,⟨rfl,nonzero⟩,rfl,rfl⟩

private theorem active_slots_nodup (segment : PackedCOOSegment) : (segment.active.map Prod.fst).Nodup := by
  rw [active,List.map_filterMap,List.Nodup,List.pairwise_filterMap]
  refine (Grid.zipIdx_apart segment.entries).imp ?_
  intro left right apart first inLeft second inRight same
  simp only [Option.map_map,Option.map_eq_some_iff] at inLeft inRight
  obtain ⟨_,_,rfl⟩ := inLeft
  obtain ⟨_,_,rfl⟩ := inRight
  exact apart same

end PackedCOOSegment

def segmentPiece (slotCount : ℕ) (segment : PackedCOOSegment) : Piece :=
  ⟨segment.outputShare,segmentOutcome slotCount segment,segment.decoded⟩

private theorem segment_lane {reference : PublishedComponent} (segment : PackedCOOSegment)
    (accepted : SegmentAccepted reference segment) (weight : ℤ → R) (lane : ℕ) (entry : PackedCOOEntry)
    (member : (lane,entry) ∈ segment.active) :
    (segmentPiece reference.layoutSpec.effectiveSlots segment).outcome.weighted weight lane =
      (entry.value : R) * weight entry.coordinate.col := by
  obtain ⟨found,_⟩ := (segment.mem_active lane entry).mp member
  have below := (List.getElem?_eq_some_iff.mp found).1
  have inside : lane < segment.capacity := accepted.length ▸ below
  have fits : lane < reference.layoutSpec.effectiveSlots := lt_of_lt_of_le inside accepted.capacity.2
  have held : segment.laneEntry lane = some entry := by
    rw [PackedCOOSegment.laneEntry,if_pos inside,found]
    rfl
  simp only [Outcome.weighted,segmentPiece,segmentOutcome,segmentPart,List.map_cons,List.map_nil,
    List.sum_cons,List.sum_nil,add_zero,Part.weighted,if_true,Strided.total_one,Part.product,
    PackedCOOSegment.values,PackedCOOSegment.columns,List.getElem?_map,List.getElem?_range fits,
    Option.map_some,Option.getD_some,held]

theorem segmentPiece_sound {reference : PublishedComponent} (segment : PackedCOOSegment)
    (accepted : SegmentAccepted reference segment) (nonempty : segment.active ≠ []) :
    (segmentPiece reference.layoutSpec.effectiveSlots segment).Sound reference.layoutSpec.rows
      reference.layoutSpec.cols reference.layoutSpec.effectiveSlots := by
  refine ⟨rfl,⟨⟨clientLaneComponentId_valid,accepted.id⟩,?_,?_,?_,?_⟩,?_,?_,?_⟩
  · exact fun empty => nonempty (List.map_eq_nil_iff.mp empty)
  · show ((segment.active.map fun entry => (entry.1,entry.2.coordinate.row)).map Prod.fst).Nodup
    rw [List.map_map]
    exact segment.active_slots_nodup
  · intro place member
    obtain ⟨⟨lane,entry⟩,inside,rfl⟩ := List.mem_map.mp member
    obtain ⟨found,_⟩ := (segment.mem_active lane entry).mp inside
    have below := (List.getElem?_eq_some_iff.mp found).1
    rw [accepted.length] at below
    exact lt_of_lt_of_le below accepted.capacity.2
  · intro place member
    obtain ⟨⟨lane,entry⟩,inside,rfl⟩ := List.mem_map.mp member
    obtain ⟨found,_⟩ := (segment.mem_active lane entry).mp inside
    exact (accepted.bounds entry (List.mem_iff_getElem?.mpr ⟨lane,found⟩)).1
  · intro part inParts
    rw [List.mem_singleton.mp inParts]
    simp [segmentPart,PackedCOOSegment.values,PackedCOOSegment.columns]
  · intro part inParts column inColumns
    rw [List.mem_singleton.mp inParts] at inColumns
    obtain ⟨lane,_,rfl⟩ := List.mem_map.mp inColumns
    rw [PackedCOOSegment.laneEntry]
    split
    · cases found : segment.entries[lane]? with
      | none =>
        show (-1 : ℤ) < _
        omega
      | some held =>
        cases held with
        | none =>
          show (-1 : ℤ) < _
          omega
        | some entry => exact (accepted.bounds entry (List.mem_iff_getElem?.mpr ⟨lane,found⟩)).2.2
    · show (-1 : ℤ) < _
      omega
  · intro R _ weight row
    rw [OutputShare.rowTotal,rowSum,show (segmentPiece reference.layoutSpec.effectiveSlots
      segment).entries = segment.decoded from rfl,← segment.active_decoded,
      show (segmentPiece reference.layoutSpec.effectiveSlots segment).share.slotToLogical =
        segment.active.map fun entry => (entry.1,entry.2.coordinate.row) from rfl,List.map_map,List.map_map]
    congr 1
    refine List.map_congr_left fun place member => ?_
    obtain ⟨lane,entry⟩ := place
    simp only [Function.comp_apply]
    rw [segment_lane segment accepted weight lane entry member]

end
end DynamicCssc
