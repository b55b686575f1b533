import DynamicCssc.QueryCompiler

/-! What `_validated_sources` accepts: valid components, deltas and segments of one version and one
shape, with pairwise disjoint coordinates. -/
namespace DynamicCssc
open Foundation

def SegmentedDeltaState.coordinates (delta : SegmentedDeltaState) : List Coordinate :=
  (activeEntries delta.segments).map StrongEntry.coordinate

def PackedCOOSegment.coordinates (segment : PackedCOOSegment) : List Coordinate :=
  (segment.entries.filterMap fun entry => entry.filter fun held => held.value ≠ 0).map
    PackedCOOEntry.coordinate

structure DeltaAccepted (reference : PublishedComponent) (components : List PublishedComponent)
    (delta : SegmentedDeltaState) : Prop where
  valid : delta.Valid
  version : delta.versionId = reference.versionId
  dimensions : (delta.rows,delta.cols,delta.effectiveSlots) = reference.layoutSpec.dimensions
  apart : ∀ component ∈ components, component.componentId ≠ strongComponentId

structure SegmentAccepted (reference : PublishedComponent) (segment : PackedCOOSegment) : Prop where
  id : validId segment.segmentId = true
  version : segment.versionId = reference.versionId
  capacity : 0 < segment.capacity ∧ segment.capacity ≤ reference.layoutSpec.effectiveSlots
  length : segment.entries.length = segment.capacity
  bounds : ∀ entry, some entry ∈ segment.entries →
    (0 ≤ entry.coordinate.row ∧ entry.coordinate.row < reference.layoutSpec.rows) ∧
      0 ≤ entry.coordinate.col ∧ entry.coordinate.col < reference.layoutSpec.cols

structure SourcesAccepted (arguments sources : QuerySources) (reference : PublishedComponent) : Prop where
  components : sources.components = Sorting.sortedBy PublishedComponent.componentId arguments.components
  segments : sources.clientLaneSegments =
    Sorting.sortedBy PackedCOOSegment.segmentId arguments.clientLaneSegments
  delta : sources.segmentedDelta = arguments.segmentedDelta
  policy : sources.f1mPolicy = arguments.f1mPolicy
  first : sources.components.head? = some reference
  exclusive : sources.segmentedDelta = none ∨ sources.clientLaneSegments = []
  component_ids : (sources.components.map PublishedComponent.componentId).Nodup
  component_valid : ∀ component ∈ sources.components, ComponentValid component
  version : ∀ component ∈ sources.components, component.versionId = reference.versionId
  dimensions : ∀ component ∈ sources.components,
    component.layoutSpec.dimensions = reference.layoutSpec.dimensions
  delta_accepted : ∀ delta ∈ sources.segmentedDelta, DeltaAccepted reference sources.components delta
  segment_ids : (sources.clientLaneSegments.map PackedCOOSegment.segmentId).Nodup
  segment_apart : sources.clientLaneSegments ≠ [] →
    ∀ component ∈ sources.components, component.componentId ≠ clientLaneComponentId
  segment_accepted : ∀ segment ∈ sources.clientLaneSegments, SegmentAccepted reference segment
  coordinates : (sources.components.flatMap PublishedComponent.coordinates ++
    sources.segmentedDelta.toList.flatMap SegmentedDeltaState.coordinates ++
      sources.clientLaneSegments.flatMap PackedCOOSegment.coordinates).Nodup

private theorem addCoordinates_read (components : List PublishedComponent) (start final : List Coordinate)
    (distinct : start.Nodup) (each : ∀ component ∈ components, component.coordinates.Nodup)
    (run : components.foldlM (fun coordinates component =>
      addCoordinates coordinates component.coordinates) start = .ok final) :
    final = start ++ components.flatMap PublishedComponent.coordinates ∧ final.Nodup := by
  induction components generalizing start with
  | nil =>
    simp only [List.foldlM_nil,pure,Except.pure,Except.ok.injEq] at run
    exact ⟨by simpa using run.symm,run ▸ distinct⟩
  | cons component components ih =>
    rw [List.foldlM_cons,Checked.bind_success] at run
    obtain ⟨next,step,rest⟩ := run
    simp only [addCoordinates,Checked.then_success,Checked.require_success,pure,Except.pure,
      Except.ok.injEq] at step
    obtain ⟨fresh,rfl⟩ := step
    have apart : (start ++ component.coordinates).Nodup := List.nodup_append.mpr
      ⟨distinct,each component (by simp),fun left inLeft right inRight same =>
        fresh right inRight (same ▸ inLeft)⟩
    obtain ⟨shape,nodup⟩ := ih _ apart (fun other member => each other (by simp [member])) rest
    exact ⟨by simpa using shape,nodup⟩

private theorem validateLaneEntries_read (spec : LayoutSpec) (entries : List (Option PackedCOOEntry))
    (start final : List Coordinate) (distinct : start.Nodup)
    (run : entries.foldlM (validateLaneEntry spec) start = .ok final) :
    final = start ++ (entries.filterMap fun entry => entry.filter fun held => held.value ≠ 0).map
        PackedCOOEntry.coordinate ∧ final.Nodup ∧
      ∀ entry, some entry ∈ entries → (0 ≤ entry.coordinate.row ∧ entry.coordinate.row < spec.rows) ∧
        0 ≤ entry.coordinate.col ∧ entry.coordinate.col < spec.cols := by
  induction entries generalizing start with
  | nil =>
    simp only [List.foldlM_nil,pure,Except.pure,Except.ok.injEq] at run
    exact ⟨by simpa using run.symm,run ▸ distinct,by simp⟩
  | cons entry entries ih =>
    rw [List.foldlM_cons,Checked.bind_success] at run
    obtain ⟨next,step,rest⟩ := run
    cases entry with
    | none =>
      simp only [validateLaneEntry,Except.ok.injEq] at step
      subst step
      obtain ⟨shape,nodup,bounds⟩ := ih _ distinct rest
      exact ⟨by simpa using shape,nodup,by simpa using bounds⟩
    | some entry =>
      rw [validateLaneEntry,Checked.then_success,Checked.require_success] at step
      obtain ⟨inside,step⟩ := step
      split at step
      · rename_i zero
        simp only [pure,Except.pure,Except.ok.injEq] at step
        subst step
        obtain ⟨shape,nodup,bounds⟩ := ih _ distinct rest
        refine ⟨by simpa [zero] using shape,nodup,?_⟩
        intro other member
        rcases List.mem_cons.mp member with same | later
        · cases same
          exact inside
        · exact bounds other later
      · rename_i nonzero
        simp only [Checked.then_success,Checked.require_success,pure,Except.pure,Except.ok.injEq] at step
        obtain ⟨fresh,rfl⟩ := step
        have apart : (start ++ [entry.coordinate]).Nodup := List.nodup_append.mpr
          ⟨distinct,List.nodup_singleton _,fun left inLeft right inRight same =>
            fresh (List.mem_singleton.mp inRight ▸ same ▸ inLeft)⟩
        obtain ⟨shape,nodup,bounds⟩ := ih _ apart rest
        refine ⟨by simpa [nonzero,Option.filter] using shape,nodup,?_⟩
        intro other member
        rcases List.mem_cons.mp member with same | later
        · cases same
          exact inside
        · exact bounds other later

private theorem validateLaneSegments_read (reference : PublishedComponent) (segments : List PackedCOOSegment)
    (start final : List Coordinate) (distinct : start.Nodup)
    (run : segments.foldlM (validateLaneSegment reference) start = .ok final) :
    final = start ++ segments.flatMap PackedCOOSegment.coordinates ∧ final.Nodup ∧
      ∀ segment ∈ segments, SegmentAccepted reference segment := by
  induction segments generalizing start with
  | nil =>
    simp only [List.foldlM_nil,pure,Except.pure,Except.ok.injEq] at run
    exact ⟨by simpa using run.symm,run ▸ distinct,by simp⟩
  | cons segment segments ih =>
    rw [List.foldlM_cons,Checked.bind_success] at run
    obtain ⟨next,step,rest⟩ := run
    rw [validateLaneSegment,Checked.then_success,Checked.require_success] at step
    obtain ⟨⟨id,version,capacity,length⟩,entries⟩ := step
    obtain ⟨shape,nodup,bounds⟩ := validateLaneEntries_read _ _ _ _ distinct entries
    obtain ⟨whole,apart,others⟩ := ih _ nodup rest
    refine ⟨?_,apart,?_⟩
    · rw [whole,shape,List.flatMap_cons,List.append_assoc]
      rfl
    · intro other member
      rcases List.mem_cons.mp member with rfl | later
      · exact ⟨id,version,capacity,length,bounds⟩
      · exact others other later

theorem validateDeltaSource_read (reference : PublishedComponent) (components : List PublishedComponent)
    (coordinates : List Coordinate) (distinct : coordinates.Nodup) (source : Option SegmentedDeltaState)
    (passed : validateDeltaSource reference components coordinates source = .ok ()) :
    (∀ delta ∈ source, DeltaAccepted reference components delta) ∧
      (coordinates ++ source.toList.flatMap SegmentedDeltaState.coordinates).Nodup := by
  cases source with
  | none => exact ⟨by simp,by simpa using distinct⟩
  | some delta =>
    rw [validateDeltaSource,validateDelta] at passed
    split at passed
    · cases passed
    · rename_i decoded read
      obtain ⟨valid,rfl⟩ := (SegmentedDeltaState.decode_success delta decoded).mp read
      simp only [Checked.then_success,Checked.require_success] at passed
      obtain ⟨version,dimensions,apart,fresh⟩ := passed
      constructor
      · intro other same
        rw [Option.mem_some_iff] at same
        exact same ▸ ⟨valid,version,dimensions,apart⟩
      · rw [Option.toList_some,List.flatMap_singleton,List.nodup_append]
        refine ⟨distinct,valid.distinct,?_⟩
        intro left inLeft right inRight same
        obtain ⟨entry,member,rfl⟩ := List.mem_map.mp inRight
        exact fresh (entry.coordinate,entry.value) (List.mem_map.mpr ⟨entry,member,rfl⟩) (same ▸ inLeft)

private theorem ComponentValid.coordinates_nodup {component : PublishedComponent} (valid : ComponentValid component) :
    component.coordinates.Nodup := by
  rw [PublishedComponent.coordinates,valid.placed]
  exact ((Sorting.sortedBy_perm _ _).map _).nodup_iff.mpr valid.coordinates

theorem validatedSources_read (arguments sources : QuerySources)
    (passed : validatedSources arguments = .ok sources) :
    ∃ reference, SourcesAccepted arguments sources reference := by
  rw [validatedSources,Checked.then_success,Checked.then_success] at passed
  obtain ⟨_,exclusive,passed⟩ := passed
  rw [Checked.then_success,Checked.then_success] at passed
  obtain ⟨ids,each,passed⟩ := passed
  rw [Checked.require_success] at exclusive ids
  rw [Checked.each_success] at each
  generalize listed : Sorting.sortedBy PublishedComponent.componentId arguments.components = components
    at ids each passed
  cases components with
  | nil => cases passed
  | cons reference others =>
    rw [Checked.then_success,Checked.then_success,Checked.bind_success] at passed
    obtain ⟨version,dimensions,coordinates,added,passed⟩ := passed
    rw [Checked.then_success,Checked.then_success,Checked.then_success,Checked.bind_success] at passed
    obtain ⟨delta,segmentIds,segmentApart,_,scanned,built⟩ := passed
    rw [Checked.require_success] at version dimensions segmentIds segmentApart
    simp only [pure,Except.pure,Except.ok.injEq] at built
    subst built
    have valid : ∀ component ∈ reference :: others, ComponentValid component := by
      intro component member
      exact (Checked.require_success _ _ ()).mp (each component member)
    obtain ⟨whole,distinct⟩ := addCoordinates_read _ _ _ List.nodup_nil
      (fun component member => (valid component member).coordinates_nodup) added
    rw [List.nil_append] at whole
    obtain ⟨accepted,apart⟩ := validateDeltaSource_read _ _ _ distinct _ delta
    -- the segments are only tested against the components, but a delta excludes them
    obtain ⟨shape,nodup,segmentsAccepted⟩ := validateLaneSegments_read _ _ _ _ distinct scanned
    refine ⟨reference,listed.symm ▸ rfl,rfl,rfl,rfl,rfl,?_,ids,valid,version,dimensions,accepted,segmentIds,
      segmentApart,segmentsAccepted,?_⟩
    · rcases exclusive with none | empty
      · exact .inl none
      · right
        show Sorting.sortedBy PackedCOOSegment.segmentId arguments.clientLaneSegments = []
        rw [empty]
        rfl
    · show ((reference :: others).flatMap PublishedComponent.coordinates ++ _ ++ _).Nodup
      rw [← whole]
      rcases exclusive with none | empty
      · show (coordinates ++ arguments.segmentedDelta.toList.flatMap _ ++ _).Nodup
        rw [none,Option.toList_none,List.flatMap_nil,List.append_nil]
        rw [shape] at nodup
        exact nodup
      · show (coordinates ++ _ ++ (Sorting.sortedBy PackedCOOSegment.segmentId
          arguments.clientLaneSegments).flatMap _).Nodup
        rw [empty,show Sorting.sortedBy PackedCOOSegment.segmentId ([] : List PackedCOOSegment) = [] from rfl,
          List.flatMap_nil,List.append_nil]
        exact apart

end DynamicCssc
