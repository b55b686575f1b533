import DynamicCssc.PublishedComponents

/-! What a returned component says about the call: the arguments made a request, and any larger number
of rounds returns the same component. -/
namespace DynamicCssc
open Foundation

section Returned
variable {state : SparseState} {rows cols effectiveSlots : ℤ} {versionId componentPrefix : String}
  {partitionRows : Option ℤ} {physicalCapacities : Option (List ℤ)}

private theorem requirePositiveInt_success (value : ℤ) (field : String) (result : ℕ) :
    requirePositiveInt value field = .ok result ↔ 0 < value ∧ result = value.toNat := by
  rw [requirePositiveInt,Checked.then_success,Checked.require_success]
  exact and_congr_right fun _ => ⟨fun same => (Except.ok.inj same).symm,fun same => congrArg Except.ok same.symm⟩

private theorem publishBlock_mono (rounds more : ℕ) (enough : rounds ≤ more) (table : RowTable) (slots : ℕ)
    (componentId : String) (draft next : ComponentDraft) (block : (ℕ × ℕ) × ℕ)
    (run : publishBlock rounds table slots componentId draft block = .ok next) :
    publishBlock more table slots componentId draft block = .ok next := by
  obtain ⟨laid,ended,rest⟩ := (Checked.bind_success _ _ _).mp run
  exact (Checked.bind_success _ _ _).mpr ⟨laid,Loop.run_mono _ _ _ rounds more enough _ _ ended,rest⟩

theorem publishComponent_mono (rounds more : ℕ) (enough : rounds ≤ more) (validated : Bool)
    (component : PublishedComponent)
    (run : publishComponent rounds validated state rows cols effectiveSlots versionId componentPrefix
      partitionRows physicalCapacities = .ok component) :
    publishComponent more validated state rows cols effectiveSlots versionId componentPrefix
      partitionRows physicalCapacities = .ok component := by
  unfold publishComponent at run ⊢
  simp only [Checked.bind_success] at run ⊢
  obtain ⟨a,ha,b,hb,c,hc,d,hd,e,he,f,hf,g,hg,h,hh,laid,run,same⟩ := run
  exact ⟨a,ha,b,hb,c,hc,d,hd,e,he,f,hf,g,hg,h,hh,laid,
    Loop.foldlM_mono _ _ _ (fun draft block next =>
      publishBlock_mono rounds more enough _ _ _ draft next block) _ _ run,same⟩

theorem PublishRequest.of_published (rounds : ℕ) (validated : Bool) (component : PublishedComponent)
    (distinct : (state.map Prod.fst).Nodup) (promised : validated = true → state.InRange rows cols)
    (run : publishComponent rounds validated state rows cols effectiveSlots versionId componentPrefix
      partitionRows physicalCapacities = .ok component) :
    PublishRequest state rows cols effectiveSlots versionId componentPrefix partitionRows
      physicalCapacities := by
  unfold publishComponent at run
  simp only [Checked.bind_success,requirePositiveInt_success,requireId_success,Checked.require_success] at run
  obtain ⟨rowCount,⟨rowsPos,rfl⟩,colCount,⟨colsPos,rfl⟩,slotCount,⟨slotsPos,rfl⟩,_,version,_,named,_,
    partition,entries,checked,capacities,sized,_⟩ := run
  have inRange : state.InRange rows cols := by
    cases validated with
    | true => exact promised rfl
    | false =>
      obtain ⟨_,each,_⟩ := (Checked.bind_success _ _ _).mp checked
      have good := (Checked.each_success _ _ _).mp each
      simp only [Checked.bind_success,Checked.require_success,exists_const] at good
      refine ⟨distinct,fun entry member => ?_,fun entry member => ?_,fun entry member => (good entry member).2.2⟩
      · have row := (good entry member).1
        omega
      · have col := (good entry member).2.1
        omega
  have sorted : entries = Sorting.sortedBy Prod.fst state := by
    cases validated with
    | true => exact (Except.ok.inj checked).symm
    | false =>
      obtain ⟨_,_,same⟩ := (Checked.bind_success _ _ _).mp checked
      exact (Except.ok.inj same).symm
  subst sorted
  have given : ∀ asked ∈ physicalCapacities, (asked.length : ℤ) = rows ∧
      ∀ (row : ℕ) (capacity : ℤ), asked[row]? = some capacity →
        state.rowCount row ≤ capacity ∧ capacity ≤ cols := by
    intro asked named
    rw [Option.mem_def.mp named] at sized
    unfold checkedCapacities at sized
    obtain ⟨length,rest⟩ := (Checked.then_success _ _ _).mp sized
    rw [Checked.require_success] at length
    obtain ⟨each,_⟩ := (Checked.then_success _ _ _).mp rest
    rw [Checked.each_success] at each
    refine ⟨by omega,fun row capacity found => ?_⟩
    have inside : row < rows.toNat := length ▸ (List.getElem?_eq_some_iff.mp found).1
    have used : ((bucketEntries (Sorting.sortedBy Prod.fst state) rows.toNat).map List.length)[row]? =
        some (state.rowCount row) := by
      rw [List.getElem?_map,bucketEntries,List.getElem?_map,List.getElem?_range inside,Option.map_some,
        Option.map_some,List.length_map,bucket_length]
    have bounds := each ((capacity,state.rowCount row),row)
      (List.mk_mem_zipIdx_iff_getElem?.mpr (List.getElem?_zip_eq_some.mpr ⟨found,used⟩))
    rw [Checked.require_success] at bounds
    dsimp only at bounds
    omega
  exact ⟨rowsPos,colsPos,version,named,partition.1,partition.2,inRange,fun asked named => (given asked named).1,
    fun asked named => (given asked named).2⟩

end Returned

end DynamicCssc
