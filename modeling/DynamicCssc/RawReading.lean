import DynamicCssc.PlanPieces
import DynamicCssc.RawCompile

/-! Sources that are accepted with their numbers are accepted by the values of their numbers, where the
owners of the delta's segments are integers. -/
namespace DynamicCssc.Raw
open Foundation

/-! The delta. -/
namespace SegmentedDeltaState

private theorem segment_read (state : SegmentedDeltaState) (segment : StrongSegment) (ordinal : ℕ)
    (owned : segment.ownerRow.isStrictInt = true) (passed : assertSegment state (segment,ordinal) = .ok ()) :
    DynamicCssc.SegmentedDeltaState.SegmentValid state.read ordinal segment.read := by
  simp only [assertSegment,assertEntry,Checked.then_success,Checked.require_success,Checked.each_success,
    List.mem_filterMap,id_eq,exists_eq_right] at passed
  obtain ⟨⟨place,id⟩,page,start,width,owner,entries⟩ := passed
  have row := PyNumber.value_whole owned
  rw [row] at owner
  refine ⟨PyNumber.whole_toNat place,id,PyNumber.whole_toNat page,PyNumber.whole_toNat start,width,
    ⟨by exact_mod_cast owner.1,by exact_mod_cast owner.2⟩,fun entry member => (entries entry member).1,?_⟩
  intro entry member
  have same := (entries entry member).2
  rw [row] at same
  exact_mod_cast same

theorem read_valid (state : SegmentedDeltaState)
    (owned : ∀ segment ∈ state.segments, segment.ownerRow.isStrictInt = true)
    (passed : assertStateInvariants state = .ok ()) : state.read.Valid := by
  simp only [assertStateInvariants,Checked.then_success,Checked.require_success,Checked.each_success] at passed
  obtain ⟨⟨rows,cols,slots,bound⟩,⟨two,fits,power⟩,version,segments,distinct⟩ := passed
  refine ⟨rows,cols,slots,bound,two,fits,power,version,?_,distinct⟩
  intro place member
  obtain ⟨segment,ordinal⟩ := place
  have found := List.mk_mem_zipIdx_iff_getElem?.mp member
  rw [show state.read.segments = state.segments.map StrongSegment.read from rfl,List.getElem?_map] at found
  obtain ⟨raw,there,rfl⟩ := Option.map_eq_some_iff.mp found
  exact segment_read state raw ordinal (owned raw (List.mem_of_getElem? there))
    (segments (raw,ordinal) (List.mk_mem_zipIdx_iff_getElem?.mpr there))

private theorem decode_read (state : SegmentedDeltaState) (decoded : List (Coordinate × ℤ))
    (owned : ∀ segment ∈ state.segments, segment.ownerRow.isStrictInt = true)
    (passed : state.decode = .ok decoded) : state.read.decode = .ok decoded := by
  rw [decode,Checked.then_success,Checked.then_success] at passed
  obtain ⟨invariants,_,same⟩ := passed
  exact (DynamicCssc.SegmentedDeltaState.decode_success _ _).mpr
    ⟨read_valid state owned invariants,(Except.ok.inj same).symm⟩

end SegmentedDeltaState

theorem validateDeltaSource_read (reference : PublishedComponent) (components : List PublishedComponent)
    (coordinates : List Coordinate) (source : Option SegmentedDeltaState)
    (owned : ∀ delta ∈ source, ∀ segment ∈ delta.segments, segment.ownerRow.isStrictInt = true)
    (passed : validateDeltaSource reference components coordinates source = .ok ()) :
    DynamicCssc.validateDeltaSource reference.read (components.map PublishedComponent.read) coordinates
      (source.map SegmentedDeltaState.read) = .ok () := by
  cases source with
  | none => rfl
  | some delta =>
    rw [validateDeltaSource,validateDelta] at passed
    split at passed
    · cases passed
    · rename_i decoded read
      have typed := delta.decode_read decoded (owned delta rfl) read
      simp only [Checked.then_success,Checked.require_success] at passed
      obtain ⟨version,dimensions,apart,fresh⟩ := passed
      rw [Option.map_some,DynamicCssc.validateDeltaSource,DynamicCssc.validateDelta,typed]
      simp only [Checked.then_success,Checked.require_success,List.forall_mem_map]
      exact ⟨version,dimensions,apart,fresh⟩

/-! All sources. -/

private theorem sorted_read (components : List PublishedComponent) :
    Sorting.sortedBy DynamicCssc.PublishedComponent.componentId (components.map PublishedComponent.read) =
      (Sorting.sortedBy PublishedComponent.componentId components).map PublishedComponent.read :=
  Sorting.sortedBy_map DynamicCssc.PublishedComponent.componentId PublishedComponent.read components

private theorem coordinates_read (components : List PublishedComponent) (start : List Coordinate) :
    (components.map PublishedComponent.read).foldlM (fun coordinates component =>
        addCoordinates coordinates component.coordinates) start =
      components.foldlM (fun coordinates component =>
        addCoordinates coordinates component.read.coordinates) start := by
  rw [List.foldlM_map]

theorem validatedSources_read (arguments sources : QuerySources)
    (owned : ∀ delta ∈ arguments.segmentedDelta, ∀ segment ∈ delta.segments,
      segment.ownerRow.isStrictInt = true)
    (passed : validatedSources arguments = .ok sources) :
    DynamicCssc.validatedSources arguments.read = .ok sources.read := by
  rw [validatedSources,Checked.then_success,Checked.then_success] at passed
  obtain ⟨present,exclusive,passed⟩ := passed
  rw [Checked.then_success,Checked.then_success] at passed
  obtain ⟨ids,each,passed⟩ := passed
  rw [Checked.require_success] at present exclusive ids
  rw [Checked.each_success] at each
  have listed := sorted_read arguments.components
  generalize Sorting.sortedBy PublishedComponent.componentId arguments.components = components
    at ids each passed listed
  have typed : (components.map PublishedComponent.read).map DynamicCssc.PublishedComponent.componentId =
      components.map PublishedComponent.componentId := by
    rw [List.map_map]
    rfl
  cases components with
  | nil => cases passed
  | cons reference others =>
    rw [Checked.then_success,Checked.then_success,Checked.bind_success] at passed
    obtain ⟨version,dimensions,coordinates,added,passed⟩ := passed
    rw [Checked.then_success,Checked.then_success,Checked.then_success,Checked.bind_success] at passed
    obtain ⟨delta,segmentIds,segmentApart,_,scanned,built⟩ := passed
    rw [Checked.require_success] at version dimensions segmentApart
    rw [← Except.ok.inj built]
    rw [DynamicCssc.validatedSources]
    refine Checked.pass _ _ _ (Checked.require_true _ _ (by simpa [QuerySources.read] using present)) ?_
    refine Checked.pass _ _ _ (Checked.require_true _ _ (by simpa [QuerySources.read] using exclusive)) ?_
    dsimp only
    rw [show arguments.read.components = arguments.components.map PublishedComponent.read from rfl,listed]
    refine Checked.pass _ _ _ (Checked.require_true _ _ (typed ▸ ids)) ?_
    refine Checked.pass _ _ _ ?_ ?_
    · rw [Checked.each_success,List.forall_mem_map]
      intro component member
      exact Checked.require_true _ _ ((Checked.require_success _ _ ()).mp (each component member)).2
    · rw [← coordinates_read] at added
      refine Checked.pass _ _ _ (Checked.require_true _ _ (List.forall_mem_map.mpr version)) ?_
      refine Checked.pass _ _ _ (Checked.require_true _ _ (List.forall_mem_map.mpr dimensions)) ?_
      refine (Checked.bind_success _ _ _).mpr ⟨coordinates,added,?_⟩
      refine Checked.pass _ _ _ (validateDeltaSource_read _ _ _ _ owned delta) ?_
      refine Checked.pass _ _ _ segmentIds ?_
      refine Checked.pass _ _ _ (Checked.require_true _ _ fun some => List.forall_mem_map.mpr (segmentApart some)) ?_
      exact (Checked.bind_success _ _ _).mpr ⟨_,scanned,rfl⟩

end DynamicCssc.Raw
