import DynamicCssc.QueryOperands

/-! What the client reconstructs from a compiled query is the direct product of the decoded matrix and
the vector. -/
namespace DynamicCssc
open Foundation CloudProgram PlaintextOracle

section Plan
variable {R : Type} [CommRing R] {plan : OutputPlan}

private theorem rowTotals_contributors (lanes : ShareIdentity → ℕ → R) (row : ℤ) :
    (plan.shares.map fun share => share.rowTotal row (lanes share.identity)).sum =
      ((plan.contributors row).map fun place => lanes place.1 place.2).sum := by
  rw [OutputPlan.contributors,OutputPlan.mappedLanes]
  induction plan.shares with
  | nil => rfl
  | cons share shares ih =>
    rw [List.map_cons,List.sum_cons,ih,List.flatMap_cons,List.filter_append,List.map_append,List.map_append,
      List.sum_append]
    congr 1
    rw [OutputShare.rowTotal]
    induction share.slotToLogical with
    | nil => rfl
    | cons entry entries rest =>
      by_cases here : entry.2 = row
      · simp_all
      · simp_all

private theorem rowTotal_add (share : OutputShare) (row : ℤ) (left right : ℕ → R) :
    share.rowTotal row (fun lane => left lane + right lane) =
      share.rowTotal row left + share.rowTotal row right := by
  rw [OutputShare.rowTotal,OutputShare.rowTotal,OutputShare.rowTotal,← List.sum_map_add]
  congr 1
  refine List.map_congr_left fun entry _ => ?_
  split
  · rfl
  · rw [add_zero]

private theorem rowTotal_congr (share : OutputShare) (row : ℤ) (left right : ℕ → R)
    (same : ∀ entry ∈ share.slotToLogical, left entry.1 = right entry.1) :
    share.rowTotal row left = share.rowTotal row right := by
  rw [OutputShare.rowTotal,OutputShare.rowTotal]
  congr 1
  exact List.map_congr_left fun entry member => by rw [same entry member]

end Plan

section
variable {sha : Sha256} {arguments : QuerySources} {compiled : CompiledQuery}
  {reference : PublishedComponent} {emission : Emission} {outcomes : List Outcome} {modulus : ℕ}
  {dense : List ℤ} {masks : ShareIdentity → List ℤ}

private theorem needsMask_of_overlap (compiled : CompiledQuery) (shareId : ShareIdentity)
    (overlaps : compiled.outputPlan.MapsOverlap shareId) : compiled.needsMask shareId = true := by
  rw [CompiledQuery.needsMask,decide_eq_true_eq]
  exact .inr ((OutputPlan.mem_maskedOutputShareIds _ _).mpr overlaps)

/-- The masks of a row cancel. -/
private theorem Delivery.masks_cancel {R : Type} [CommRing R]
    (delivery : Delivery R sha arguments compiled reference emission outcomes)
    (family : MaskFamily compiled modulus masks) (row : ℤ) :
    (compiled.outputPlan.shares.map fun share => share.rowTotal row
      (maskLane modulus compiled.needsMask masks share.identity)).sum = 0 := by
  have valid := delivery.plan_valid
  rw [rowTotals_contributors]
  by_cases several : 1 < compiled.outputPlan.multiplicity row
  · have all : ∀ place ∈ compiled.outputPlan.contributors row,
        maskLane modulus compiled.needsMask masks place.1 place.2 =
          (((masks place.1).getD place.2 0 : ℤ) : ZMod modulus) := by
      intro place member
      obtain ⟨share,inPlan,named,entry⟩ := (OutputPlan.mem_contributors _ _ _).mp member
      exact if_pos (needsMask_of_overlap compiled place.1 ⟨share,inPlan,named,_,entry,several⟩)
    rw [List.map_congr_left all]
    have zero : ((((compiled.outputPlan.contributors row).map fun place =>
        (masks place.1).getD place.2 0).sum : ℤ) : ZMod modulus) = 0 := by
      rw [← cast_emod,family.cancels row several,Int.cast_zero]
    rw [Int.cast_list_sum,List.map_map] at zero
    exact zero
  · refine List.sum_eq_zero fun value member => ?_
    obtain ⟨place,inside,rfl⟩ := List.mem_map.mp member
    rw [maskLane]
    split
    · rename_i masked
      obtain ⟨share,inPlan,named,_⟩ := (OutputPlan.mem_contributors _ _ _).mp inside
      -- every share has its route
      have listed : share.identity ∈ compiled.resultRoutes.map ResultRoute.outputShareId := by
        rw [delivery.routes,route_shares,outcome_shares delivery.compilation.accepted.sound delivery.shapes]
        rw [delivery.compilation.plan] at inPlan
        exact List.mem_map_of_mem inPlan
      obtain ⟨route,inRoutes,same⟩ := List.mem_map.mp listed
      have equal : route.outputShareId = place.1 := same.trans named
      obtain ⟨ordinal,outcome,found,rfl⟩ := delivery.outcome_of_route route inRoutes
      have isMasked : (Outcome.route compiled.needsMask (outcome,ordinal)).f1mCiphertextId.isSome := by
        have share' : outcome.share = place.1 := equal
        simp [Outcome.route,share',masked]
      have zero := family.confined _ inRoutes isMasked place.2 (by
        intro logical there
        rw [equal] at there
        rw [OutputPlan.contributors_unique _ valid _ _ _ there inside]
        omega)
      rw [equal] at zero
      rw [zero,Int.cast_zero]
    · rfl

/-! The client's side. -/

private theorem routeShares_ok (routes : List ResultRoute) (returned : Vectors) (values : ResultRoute → List ℤ)
    (distinct : (routes.map ResultRoute.outputShareId).Nodup)
    (found : ∀ route ∈ routes, returned.lookup route.resultId = some (values route)) :
    routeShares routes returned = .ok (routes.map fun route => (route.outputShareId,values route)) := by
  rw [routeShares,Checked.foldlM_ok _ (fun table route => Dict.set route.outputShareId (values route) table)]
  · rw [Dict.foldl_set _ _ _ _ distinct (by simp),List.nil_append]
  · intro table route member
    rw [read_ok (found route member)]
    rfl

def OutputShare.contributions (share : OutputShare) (lanes : List ℤ) : List (ℕ × ℤ) :=
  share.slotToLogical.map fun entry => (entry.2.toNat,lanes.getD entry.1 0)

private theorem reconstructOutput_ok (sha : Sha256) (plan : OutputPlan) (valid : plan.Valid)
    (returned : List (ShareIdentity × List ℤ)) (values : ShareIdentity → List ℤ) (modulus : ℕ)
    (two : 2 ≤ modulus)
    (keys : returned.map Prod.fst = plan.shares.map OutputShare.identity)
    (found : ∀ share ∈ plan.shares, returned.lookup share.identity = some (values share.identity))
    (lengths : ∀ share ∈ plan.shares, (values share.identity).length = plan.slotCount) :
    reconstructOutput sha plan returned modulus = .ok ((List.range plan.logicalOutputSize).map fun row =>
      Residues.amount (plan.shares.flatMap fun share => share.contributions (values share.identity)) row %
        modulus) := by
  obtain ⟨analysis,analyzed⟩ := OutputPlan.analyze_of_valid sha plan valid
  rw [reconstructOutput,requireModulus,Checked.require_true _ _ two,Checked.ok_bind,analyzed,Checked.ok_bind]
  refine Checked.pass _ _ _ (Checked.require_true _ _ (by rw [keys]; exact ⟨fun _ member => member,fun _ member => member⟩)) ?_
  rw [Checked.foldlM_ok _ (fun result share => Residues.addAll modulus result
    (share.contributions (values share.identity)))]
  · rw [← Residues.addAll_zero,Residues.addAll,List.foldl_flatMap]
    rfl
  · intro result share member
    dsimp only
    rw [found share member,Option.getD_some,vector,Checked.require_true _ _ (lengths share member)]
    rfl

private theorem rowTotal_amount (shares : List OutputShare) (values : ShareIdentity → List ℤ) (row : ℕ)
    (positive : ∀ share ∈ shares, ∀ entry ∈ share.slotToLogical, 0 ≤ entry.2) :
    ((Residues.amount (shares.flatMap fun share => share.contributions (values share.identity)) row : ℤ) :
      ZMod modulus) = (shares.map fun share => share.rowTotal row fun lane =>
        ((((values share.identity)[lane]?).getD 0 : ℤ) : ZMod modulus)).sum := by
  induction shares with
  | nil => simp [Residues.amount]
  | cons share shares ih =>
    rw [List.flatMap_cons,Residues.amount_append,Int.cast_add,
      ih fun other member => positive other (List.mem_cons_of_mem _ member),List.map_cons,List.sum_cons]
    congr 1
    rw [Residues.amount,OutputShare.contributions,OutputShare.rowTotal,List.map_map,Int.cast_list_sum,
      List.map_map]
    congr 1
    refine List.map_congr_left fun entry member => ?_
    have above := positive share List.mem_cons_self entry member
    have same : entry.2.toNat = row ↔ entry.2 = row := by omega
    simp only [Function.comp_apply,same,List.getD_eq_getElem?_getD]
    split <;> simp

private theorem LaneContent.active_bounds {spec : LayoutSpec} {lane : Lane} (content : LaneContent spec lane)
    (active : lane.kind = .actual) (coordinate : Coordinate) (held : lane.coordinate = some coordinate) :
    ((0 ≤ coordinate.row ∧ coordinate.row < spec.rows) ∧ 0 ≤ coordinate.col ∧ coordinate.col < spec.cols) ∧
      lane.value ≠ 0 := by
  unfold LaneContent at content
  split at content
  · obtain ⟨same,nonzero,rows,cols⟩ := content
    rw [same,Option.some.injEq] at held
    subst held
    exact ⟨⟨rows,cols⟩,nonzero⟩
  all_goals simp_all

private theorem SourcesAccepted.decoded_bounds {sources : QuerySources}
    (accepted : SourcesAccepted arguments sources reference) (entry : Coordinate × ℤ)
    (member : entry ∈ sources.decoded) :
    ((0 ≤ entry.1.row ∧ entry.1.row < reference.layoutSpec.rows) ∧
      0 ≤ entry.1.col ∧ entry.1.col < reference.layoutSpec.cols) ∧ entry.2 ≠ 0 := by
  rw [QuerySources.decoded,List.mem_append,List.mem_append] at member
  rcases member with (inComponents | inDelta) | inSegments
  · obtain ⟨component,inSources,there⟩ := List.mem_flatMap.mp inComponents
    obtain ⟨rows,cols,_⟩ := accepted.sizes component inSources
    obtain ⟨chunk,inChunks,inChunk⟩ := List.mem_flatMap.mp there
    obtain ⟨block,inBlocks,inBlock⟩ := List.mem_flatMap.mp inChunks
    obtain ⟨range,_,good⟩ := (accepted.component_valid component inSources).block block inBlocks
    obtain ⟨lane,inLanes,decoded⟩ := List.mem_filterMap.mp inChunk
    split at decoded
    · rename_i active
      obtain ⟨coordinate,held,rfl⟩ := Option.map_eq_some_iff.mp decoded
      rw [← rows,← cols]
      exact LaneContent.active_bounds ((good.chunks chunk inBlock).contents lane inLanes) active coordinate held
    · cases decoded
  · obtain ⟨delta,present,there⟩ := List.mem_flatMap.mp inDelta
    rw [Option.mem_toList] at present
    obtain ⟨rows,cols,_⟩ := accepted.slots_of_delta delta present
    rw [delta.decoded_eq] at there
    obtain ⟨segment,inDelta',active⟩ := List.mem_flatMap.mp there
    obtain ⟨held,inActive,rfl⟩ := List.mem_map.mp active
    obtain ⟨place,inEntries,kept⟩ := List.mem_filterMap.mp inActive
    obtain ⟨same,nonzero⟩ := Option.filter_eq_some_iff.mp kept
    obtain ⟨ordinal,_,here⟩ := (accepted.delta_accepted delta present).valid.segment segment inDelta'
    obtain ⟨inRows,inCols,_⟩ := here.bounds held (same ▸ inEntries)
    rw [← rows,← cols]
    exact ⟨⟨inRows,inCols⟩,by simpa using nonzero⟩
  · obtain ⟨segment,inSources,there⟩ := List.mem_flatMap.mp inSegments
    obtain ⟨held,inActive,rfl⟩ := List.mem_map.mp there
    obtain ⟨place,inEntries,kept⟩ := List.mem_filterMap.mp inActive
    obtain ⟨same,nonzero⟩ := Option.filter_eq_some_iff.mp kept
    exact ⟨(accepted.segment_accepted segment inSources).bounds held (same ▸ inEntries),by simpa using nonzero⟩

def product (modulus rows : ℕ) (matrix : List (Coordinate × ℤ)) (dense : List ℤ) : List ℤ :=
  (List.range rows).map fun row : ℕ => (matrix.map fun entry =>
    if entry.1.row = (row : ℤ) then entry.2 * dense.getD entry.1.col.toNat 0 else 0).sum % modulus

private theorem amount_rows (matrix : List (Coordinate × ℤ)) (dense : List ℤ) (row : ℕ)
    (positive : ∀ entry ∈ matrix, 0 ≤ entry.1.row) :
    Residues.amount (matrix.map fun entry => (entry.1.row.toNat,entry.2 * dense.getD entry.1.col.toNat 0)) row =
      (matrix.map fun entry =>
        if entry.1.row = (row : ℤ) then entry.2 * dense.getD entry.1.col.toNat 0 else 0).sum := by
  rw [Residues.amount,List.map_map]
  congr 1
  refine List.map_congr_left fun entry member => ?_
  have above := positive entry member
  have same : entry.1.row.toNat = row ↔ entry.1.row = row := by omega
  simp only [Function.comp_apply,same]

private theorem directSpmv_decoded {sources : QuerySources} (accepted : SourcesAccepted arguments sources reference)
    (modulus : ℕ) (two : 2 ≤ modulus) (dense : List ℤ) (long : dense.length = reference.layoutSpec.cols) :
    directSpmv sources.decoded dense reference.layoutSpec.rows reference.layoutSpec.cols modulus =
      .ok (product modulus reference.layoutSpec.rows sources.decoded dense) := by
  have valid := accepted.component_valid reference accepted.mem_reference
  rw [directSpmv,Checked.require_true _ _ valid.rows_pos,Checked.ok_bind,
    Checked.require_true _ _ valid.cols_pos,Checked.ok_bind,requireModulus,Checked.require_true _ _ two,
    Checked.ok_bind,vector,Checked.require_true _ _ long,Checked.ok_bind]
  refine Eq.trans (Checked.foldlM_ok _ (fun result entry => Residues.addAt modulus result
    (entry.1.row.toNat,entry.2 * dense.getD entry.1.col.toNat 0)) _ _ ?_) ?_
  · intro result entry member
    obtain ⟨bounds,nonzero⟩ := accepted.decoded_bounds entry member
    rw [validateEntry,Checked.require_true _ _ bounds,Checked.ok_bind,Checked.require_true _ _ nonzero]
    rfl
  · rw [← List.foldl_map (f := fun entry : Coordinate × ℤ => (entry.1.row.toNat,entry.2 * dense.getD
      entry.1.col.toNat 0)) (g := Residues.addAt modulus),← Residues.addAll,Residues.addAll_zero,product]
    congr 1
    refine List.map_congr_left fun row _ => ?_
    rw [amount_rows _ _ _ fun entry member => (accepted.decoded_bounds entry member).1.1.1]

private theorem rowSum_cast (matrix : List (Coordinate × ℤ)) (dense : List ℤ) (row : ℤ)
    (positive : ∀ entry ∈ matrix, 0 ≤ entry.1.col) :
    rowSum (denseWeight modulus dense) row matrix = (((matrix.map fun entry =>
      if entry.1.row = row then entry.2 * dense.getD entry.1.col.toNat 0 else 0).sum : ℤ) : ZMod modulus) := by
  rw [rowSum,Int.cast_list_sum,List.map_map]
  congr 1
  refine List.map_congr_left fun entry member => ?_
  simp only [Function.comp_apply,denseWeight,if_pos (positive entry member)]
  split <;> simp

/-- What the returned share of a piece holds. -/
structure Returned (modulus slotCount : ℕ) (needsMask : ShareIdentity → Bool) (dense : List ℤ)
    (masks : ShareIdentity → List ℤ) (piece : Piece) (values : List ℤ) : Prop where
  length : values.length = slotCount
  lanes : ∀ lane < slotCount, (((values[lane]?).getD 0 : ℤ) : ZMod modulus) =
    piece.outcome.weighted (denseWeight modulus dense) lane +
      maskLane modulus needsMask masks piece.share.identity lane

/-- A compiled query runs, its results are routed, and every share comes back. -/
private theorem Delivery.returned_shares {inputs : Vectors}
    (delivery : Delivery (ZMod modulus) sha arguments compiled reference emission outcomes)
    (operands : Operands compiled dense masks inputs) (family : MaskFamily compiled modulus masks) :
    ∃ results shares, executeValidatedCloudPlan compiled.cloudPlan inputs
        (committedMasks compiled.cloudPlan.program) modulus = .ok results ∧
      routeShares compiled.resultRoutes results = .ok shares ∧
      shares.map Prod.fst = compiled.outputPlan.shares.map OutputShare.identity ∧
      ∀ piece ∈ sourcePieces reference.layoutSpec.effectiveSlots compiled.sources, ∃ values,
        shares.lookup piece.share.identity = some values ∧
        Returned modulus reference.layoutSpec.effectiveSlots compiled.needsMask dense masks piece values := by
  obtain ⟨results,runs,holds⟩ := delivery.returns operands family
  have sound := delivery.compilation.accepted.sound
  have keys : compiled.resultRoutes.map ResultRoute.outputShareId =
      compiled.outputPlan.shares.map OutputShare.identity := by
    rw [delivery.routes,route_shares,outcome_shares sound delivery.shapes,delivery.compilation.plan]
  have distinct : (compiled.resultRoutes.map ResultRoute.outputShareId).Nodup :=
    keys ▸ delivery.plan_valid.identities
  have routed := routeShares_ok compiled.resultRoutes results
    (fun route => (results.lookup route.resultId).getD []) distinct (by
      intro route member
      obtain ⟨ordinal,outcome,found,rfl⟩ := delivery.outcome_of_route route member
      obtain ⟨values,there,_⟩ := holds ordinal outcome found
      have same : results.lookup (Outcome.route compiled.needsMask (outcome,ordinal)).resultId = some values := there
      rw [same]
      rfl)
  refine ⟨results,_,runs,routed,by rw [← keys]; simp [Function.comp_def],?_⟩
  intro piece member
  obtain ⟨ordinal,found⟩ := List.mem_iff_getElem?.mp member
  have shapes := congrArg (fun items => items[ordinal]?) delivery.shapes
  simp only [List.getElem?_map,found,Option.map_some] at shapes
  obtain ⟨outcome,there,same⟩ := Option.map_eq_some_iff.mp shapes
  obtain ⟨values,held,long,lanes⟩ := holds ordinal outcome there
  have share : outcome.share = piece.share.identity := by
    rw [← (sound piece member).identity,← same]
    rfl
  refine ⟨values,?_,long,?_⟩
  · have apart : ((compiled.resultRoutes.map fun route => (route.outputShareId,
        (results.lookup route.resultId).getD [])).map Prod.fst).Nodup := by
      rw [List.map_map]
      exact distinct
    rw [Dict.lookup_lawful]
    refine (Dict.lookup_eq_some_iff _ apart _ _).mpr (List.mem_map.mpr ⟨_,delivery.route_at ordinal outcome there,?_⟩)
    have id : (Outcome.route compiled.needsMask (outcome,ordinal)).outputShareId = piece.share.identity := share
    rw [id,show (Outcome.route compiled.needsMask (outcome,ordinal)).resultId = resultName ordinal from rfl,held]
    rfl
  · intro lane inside
    rw [lanes lane inside,share,← same]
    congr 1
    rw [Outcome.weighted,Outcome.weighted,Outcome.erase,List.map_map]
    rfl

private theorem Delivery.reconstructs {inputs : Vectors} (two : 2 ≤ modulus)
    (delivery : Delivery (ZMod modulus) sha arguments compiled reference emission outcomes)
    (operands : Operands compiled dense masks inputs) (family : MaskFamily compiled modulus masks) :
    ∃ results shares, executeValidatedCloudPlan compiled.cloudPlan inputs
        (committedMasks compiled.cloudPlan.program) modulus = .ok results ∧
      routeShares compiled.resultRoutes results = .ok shares ∧
      reconstructOutput sha compiled.outputPlan shares modulus =
        .ok (product modulus reference.layoutSpec.rows compiled.sources.decoded dense) := by
  obtain ⟨results,shares,runs,routed,keys,back⟩ := delivery.returned_shares operands family
  have accepted := delivery.compilation.accepted
  have plan := delivery.compilation.plan
  have valid := delivery.plan_valid
  have shareOf : ∀ share ∈ compiled.outputPlan.shares, ∃ piece ∈ sourcePieces
      reference.layoutSpec.effectiveSlots compiled.sources, piece.share = share := by
    intro share member
    rw [plan] at member
    exact List.mem_map.mp member
  refine ⟨results,shares,runs,routed,?_⟩
  rw [reconstructOutput_ok sha _ valid shares (fun shareId => (shares.lookup shareId).getD []) modulus two keys]
  · rw [show compiled.outputPlan.logicalOutputSize = reference.layoutSpec.rows by rw [plan],product]
    congr 1
    refine List.map_congr_left fun row _ => ?_
    rw [← Int.ModEq,← ZMod.intCast_eq_intCast_iff,rowTotal_amount _
        (fun shareId => (shares.lookup shareId).getD []) row
        fun share member entry inside => (valid.logical_range share member entry inside).1,
      ← rowSum_cast _ _ _ fun entry member => (accepted.decoded_bounds entry member).1.2.1,
      ← sourcePieces_rowSum accepted,← add_zero (piecesRowSum _ _ _),← delivery.masks_cancel family row,plan,
      piecesRowSum,List.map_map,List.map_map,← List.sum_map_add]
    congr 1
    refine List.map_congr_left fun piece member => ?_
    obtain ⟨values,held,returned⟩ := back piece member
    have sound := accepted.sound piece member
    simp only [Function.comp_apply,held,Option.getD_some]
    rw [← sound.sums (ZMod modulus) (denseWeight modulus dense) row,← rowTotal_add]
    exact rowTotal_congr _ _ _ _ fun entry inside => returned.lanes entry.1 (sound.valid.slot_lt entry inside)
  · intro share member
    obtain ⟨piece,inPieces,rfl⟩ := shareOf share member
    obtain ⟨values,held,_⟩ := back piece inPieces
    rw [held]
    rfl
  · intro share member
    obtain ⟨piece,inPieces,rfl⟩ := shareOf share member
    obtain ⟨values,held,returned⟩ := back piece inPieces
    rw [held,Option.getD_some,returned.length,plan]

end

/-- Accepted sources compile, and whoever runs the compiled plan on the stored lanes, the gathered vector
and cancelling masks reconstructs the direct product of all decoded entries with the vector. -/
theorem compiled_query_computes_spmv (sha : Sha256) (arguments sources : QuerySources)
    (passed : validatedSources arguments = .ok sources) :
    ∃ compiled reference, compileQuery sha arguments = .ok compiled ∧
      sources.components.head? = some reference ∧ (sources.decoded.map Prod.fst).Nodup ∧
      ∀ (modulus : ℕ) (dense : List ℤ) (masks : ShareIdentity → List ℤ) (inputs : Vectors),
        2 ≤ modulus → dense.length = reference.layoutSpec.cols → MaskFamily compiled modulus masks →
        Operands compiled dense masks inputs →
        ∃ results shares output, executeValidatedCloudPlan compiled.cloudPlan inputs
            (committedMasks compiled.cloudPlan.program) modulus = .ok results ∧
          routeShares compiled.resultRoutes results = .ok shares ∧
          reconstructOutput sha compiled.outputPlan shares modulus = .ok output ∧
          directSpmv sources.decoded dense reference.layoutSpec.rows reference.layoutSpec.cols modulus =
            .ok output ∧
          output = (List.range reference.layoutSpec.rows).map fun row : ℕ => (sources.decoded.map fun entry =>
            if entry.1.row = (row : ℤ) then entry.2 * dense.getD entry.1.col.toNat 0 else 0).sum % modulus := by
  obtain ⟨compiled,run⟩ := compileQuery_ok sha arguments sources passed
  obtain ⟨reference,emission,compilation⟩ := compileQuery_compilation sha arguments compiled run
  have same := compilation.valid
  rw [passed,Except.ok.injEq] at same
  subst same
  refine ⟨compiled,reference,run,compilation.accepted.first,compilation.accepted.decoded_nodup,?_⟩
  intro modulus dense masks inputs two long family operands
  obtain ⟨outcomes,delivery⟩ := compilation.delivery (ZMod modulus)
  obtain ⟨results,shares,runs,routed,back⟩ := delivery.reconstructs two operands family
  exact ⟨results,shares,_,runs,routed,back,directSpmv_decoded compilation.accepted modulus two dense long,rfl⟩

def oneEntry (componentId : String) (column value : ℤ) : PublishedComponent :=
  ⟨componentId,"v0",⟨1,2,2,1⟩,[⟨"h0",0,1,[0],[1],[⟨"c0",0,1,1,1,0,1,
    [⟨value,column,some ⟨0,column⟩,some 0,.actual⟩,⟨0,-1,none,none,.tail⟩]⟩]⟩],
    [(⟨0,column⟩,⟨componentId,"c0",0⟩)],[]⟩

def meeting : QuerySources := ⟨[oneEntry "a" 0 2,oneEntry "b" 1 3],none,[],.overlapOnly⟩

end DynamicCssc
