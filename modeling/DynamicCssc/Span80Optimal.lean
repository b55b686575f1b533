import DynamicCssc.Span80Sparse
import DynamicCssc.Span80Dense

/-! Both searches return the least number of rows for every interval limit. So they agree, and more
intervals than there are positive rows gain nothing. -/
namespace DynamicCssc.Span80
open Foundation Foundation.Intervals Foundation.Frontier

variable {rowCount maxIntervals : ℕ} {target : ℤ}

/-- `best_so_far` when `best_by_limit[limit]` is written. -/
def bestSoFar (rowCount : ℕ) (bestExact : ℕ → ℕ) : ℕ → ℕ
  | 0 => rowCount
  | limit + 1 => min (bestSoFar rowCount bestExact limit) (bestExact (limit + 1))

private theorem bestByLimit_entries (rowCount maxIntervals : ℕ) (bestExact : ℕ → ℕ) :
    (bestByLimit rowCount maxIntervals bestExact).length = maxIntervals + 1 ∧
    ∀ limit ≤ maxIntervals, (bestByLimit rowCount maxIntervals bestExact)[limit]? =
      some (bestSoFar rowCount bestExact limit) := by
  have loop : ∀ done ≤ maxIntervals, ∃ best : List ℕ,
      (List.range' 1 done).foldl (fun (best : ℕ × List ℕ) intervalCount =>
          let bestSoFar := min best.1 (bestExact intervalCount)
          (bestSoFar,best.2.set intervalCount bestSoFar))
        (rowCount,List.replicate (maxIntervals + 1) rowCount) =
          (bestSoFar rowCount bestExact done,best) ∧ best.length = maxIntervals + 1 ∧
      ∀ limit ≤ done, best[limit]? = some (bestSoFar rowCount bestExact limit) := by
    intro done
    induction done with
    | zero =>
      intro _
      refine ⟨_,rfl,List.length_replicate,?_⟩
      intro limit low
      rw [Nat.le_zero.mp low,List.getElem?_replicate,if_pos (Nat.succ_pos _)]
      rfl
    | succ done ih =>
      intro within
      obtain ⟨best,run,length,entries⟩ := ih (by omega)
      refine ⟨best.set (done + 1) (bestSoFar rowCount bestExact (done + 1)),?_,?_,?_⟩
      · rw [List.range'_concat,List.foldl_append,run,Nat.one_mul,Nat.add_comm 1 done]
        rfl
      · rw [List.length_set,length]
      · intro limit low
        rw [List.getElem?_set]
        split
        · rename_i here
          rw [if_pos (by omega),here]
        · exact entries limit (by omega)
  obtain ⟨best,run,length,entries⟩ := loop maxIntervals le_rfl
  have same : bestByLimit rowCount maxIntervals bestExact = best := by
    rw [bestByLimit,run]
  rw [same]
  exact ⟨length,entries⟩

private theorem bestSoFar_le (rowCount : ℕ) (bestExact : ℕ → ℕ) (limit count : ℕ) (first : 1 ≤ count) (within : count ≤ limit) :
    bestSoFar rowCount bestExact limit ≤ bestExact count := by
  induction limit with
  | zero => omega
  | succ limit ih =>
    rcases Nat.lt_or_eq_of_le within with earlier | here
    · exact (min_le_left _ _).trans (ih (by omega))
    · rw [here]
      exact min_le_right _ _

private theorem bestSoFar_found (rowCount : ℕ) (bestExact : ℕ → ℕ) (limit : ℕ) : bestSoFar rowCount bestExact limit = rowCount ∨
    ∃ count ≤ limit, bestSoFar rowCount bestExact limit = bestExact count := by
  induction limit with
  | zero => exact Or.inl rfl
  | succ limit ih =>
    rcases min_choice (bestSoFar rowCount bestExact limit) (bestExact (limit + 1)) with old | new
    · rcases ih with all | ⟨count,within,found⟩
      · exact Or.inl (old.trans all)
      · exact Or.inr ⟨count,by omega,old.trans found⟩
    · exact Or.inr ⟨limit + 1,le_rfl,new⟩

/-- `best_exact` of an interval count: the fewest rows of an entry that covers the target. -/
structure BestExact (held : Entry → Prop) (target : ℤ) (rowCount : ℕ) (bestExact : ℕ → ℕ) : Prop where
  least : ∀ entry, held entry → target ≤ entry.weight → bestExact entry.intervals ≤ entry.selected
  found : ∀ count, bestExact count = rowCount ∨ ∃ entry, held entry ∧ target ≤ entry.weight ∧
    entry.intervals = count ∧ entry.selected = bestExact count

private theorem unionOfAtMost_mono {few limit : ℕ} {rows : Finset ℕ} (union : UnionOfAtMost few rows)
    (within : few ≤ limit) : UnionOfAtMost limit rows :=
  (unionOfAtMost_iff _ _).mpr (((unionOfAtMost_iff _ _).mp union).trans within)

private theorem range_union (rowCount : ℕ) : UnionOfAtMost 1 (Finset.range rowCount) := by
  rw [unionOfAtMost_iff]
  have first : starts (Finset.range rowCount) ⊆ {0} := by
    intro row found
    rw [mem_starts,Finset.mem_range,Finset.mem_range] at found
    rw [Finset.mem_singleton]
    omega
  simpa using Finset.card_le_card first

private theorem bestByLimit_minimum {weight : ℕ → ℤ} {bound : ℕ} {held : Entry → Prop} {bestExact : ℕ → ℕ}
    (correct : Correct weight target maxIntervals bound held) (inside : bound ≤ rowCount)
    (rest : ∀ row, bound ≤ row → weight row = 0) (exact : BestExact held target rowCount bestExact)
    (positive : 0 < target) (reachable : target ≤ covered weight (Finset.range rowCount))
    (limit : ℕ) (first : 1 ≤ limit) (within : limit ≤ maxIntervals) :
    ∃ length, (bestByLimit rowCount maxIntervals bestExact)[limit]? = some length ∧
      IsMinimum weight rowCount target limit length := by
  refine ⟨_,(bestByLimit_entries rowCount maxIntervals bestExact).2 limit within,?_,?_⟩
  · have whole : bestSoFar rowCount bestExact limit = rowCount → ∃ rows : Finset ℕ,
        (∀ row ∈ rows, row < rowCount) ∧ UnionOfAtMost limit rows ∧ target ≤ covered weight rows ∧
        rows.card = bestSoFar rowCount bestExact limit := by
      intro all
      refine ⟨Finset.range rowCount,fun row => Finset.mem_range.mp,?_,reachable,?_⟩
      · exact unionOfAtMost_mono (range_union rowCount) first
      · rw [all,Finset.card_range]
    rcases bestSoFar_found rowCount bestExact limit with all | ⟨count,few,found⟩
    · exact whole all
    · rcases exact.found count with all | ⟨entry,here,enough,counts,selected⟩
      · exact whole (found.trans all)
      · obtain ⟨rows,below,union,covers,size⟩ := correct.achieved inside entry here enough
        exact ⟨rows,below,unionOfAtMost_mono union (counts ▸ few),covers,
          size.trans (selected.trans found.symm)⟩
  · intro size possible
    obtain ⟨rows,_,union,covers,size⟩ := possible
    obtain ⟨entry,here,few,fewer,enough⟩ := correct.matched rest within rows union covers
    obtain ⟨_,_,some,good,_⟩ := correct.achieved inside entry here enough
    have least := bestSoFar_le rowCount bestExact limit entry.intervals
      (positive_intervals positive some good) few
    exact least.trans ((exact.least entry here enough).trans (fewer.trans size.le))

private theorem sparseBestExact_exact (tables : SparseTables) (rowCount : ℕ) (target : ℤ) :
    BestExact tables.Held target rowCount (sparseBestExact tables rowCount target) := by
  have listed : ∀ count selected, selected ∈ (((tables.outside.states count ++
      tables.inside.states count).filter fun state => target ≤ state.2).map Prod.fst) ↔
      ∃ entry, tables.Held entry ∧ target ≤ entry.weight ∧ entry.intervals = count ∧
        entry.selected = selected := by
    intro count selected
    simp only [List.mem_map,List.mem_filter,List.mem_append,decide_eq_true_eq]
    constructor
    · intro found
      obtain ⟨state,⟨side,enough⟩,rows⟩ := found
      rcases side with outside | inside
      · exact ⟨⟨false,count,state.1,state.2⟩,outside,enough,rfl,rows⟩
      · exact ⟨⟨true,count,state.1,state.2⟩,inside,enough,rfl,rows⟩
    · intro found
      obtain ⟨⟨inside,intervals,rows,weight⟩,held,enough,counts,same⟩ := found
      change intervals = count at counts
      subst counts
      refine ⟨(rows,weight),⟨?_,enough⟩,same⟩
      cases inside
      · exact Or.inl held
      · exact Or.inr held
  refine ⟨?_,?_⟩
  · intro entry held enough
    have member := (listed _ _).mpr ⟨entry,held,enough,rfl,rfl⟩
    rw [sparseBestExact]
    cases least : (((tables.outside.states entry.intervals ++ tables.inside.states entry.intervals).filter
        fun state => target ≤ state.2).map Prod.fst).min? with
    | none =>
      rw [List.min?_eq_none_iff.mp least] at member
      exact absurd member List.not_mem_nil
    | some first => exact (List.min?_eq_some_iff.mp least).2 _ member
  · intro count
    rw [sparseBestExact]
    cases least : (((tables.outside.states count ++ tables.inside.states count).filter
        fun state => target ≤ state.2).map Prod.fst).min? with
    | none => exact Or.inl rfl
    | some first => exact Or.inr ((listed _ _).mp (List.min?_eq_some_iff.mp least).1)

private theorem denseBestExact_exact {tables : DenseTables} (shaped : tables.Shaped rowCount maxIntervals)
    (positive : 0 < target) :
    BestExact tables.Held target rowCount (denseBestExact tables rowCount target) := by
  have low := negative_lt
  refine ⟨?_,?_⟩
  · intro entry held enough
    have short := (shaped.fits held).2
    have covers : target ≤ max (tables.outside.cell entry.intervals entry.selected)
        (tables.inside.cell entry.intervals entry.selected) := by
      obtain ⟨inside,intervals,selected,weight⟩ := entry
      have cell := held.1
      cases inside with
      | false => exact (enough.trans cell.ge).trans (le_max_left _ _)
      | true => exact (enough.trans cell.ge).trans (le_max_right _ _)
    rw [denseBestExact]
    cases found : (List.range (rowCount + 1)).find? fun selected =>
        target ≤ max (tables.outside.cell entry.intervals selected)
          (tables.inside.cell entry.intervals selected) with
    | none =>
      have missed := List.find?_range_eq_none.mp found entry.selected (by omega)
      simp [covers] at missed
    | some first =>
      by_contra more
      have missed := (List.find?_range_eq_some.mp found).2.2 entry.selected (not_le.mp more)
      simp [covers] at missed
  · intro count
    rw [denseBestExact]
    cases found : (List.range (rowCount + 1)).find? fun selected =>
        target ≤ max (tables.outside.cell count selected) (tables.inside.cell count selected) with
    | none => exact Or.inl rfl
    | some first =>
      right
      have covers := of_decide_eq_true (List.find?_range_eq_some.mp found).1
      rcases max_choice (tables.outside.cell count first) (tables.inside.cell count first) with out | inner
      · rw [out] at covers
        refine ⟨⟨false,count,first,tables.outside.cell count first⟩,⟨rfl,?_⟩,covers,rfl,rfl⟩
        change tables.outside.cell count first ≠ negative
        omega
      · rw [inner] at covers
        refine ⟨⟨true,count,first,tables.inside.cell count first⟩,⟨rfl,?_⟩,covers,rfl,rfl⟩
        change tables.inside.cell count first ≠ negative
        omega

def weightOf (weights : List ℤ) (row : ℕ) : ℤ := weights.getD row 0

private theorem weightOf_nonnegative {weights : List ℤ} (nonnegative : ∀ weight ∈ weights, 0 ≤ weight) (row : ℕ) :
    0 ≤ weightOf weights row := by
  rw [weightOf,List.getD_eq_getElem?_getD]
  cases found : weights[row]? with
  | none => exact le_rfl
  | some weight => exact nonnegative weight (List.mem_of_getElem? found)

private theorem enumerated_scan_from (weight : ℕ → ℤ) (weights : List ℤ) (offset : ℕ)
    (same : ∀ row, weight (offset + row) = weights.getD row 0) :
    Scan weight (FollowsNext (offset + weights.length)) offset ((weights.zipIdx offset).map Prod.swap) := by
  induction weights generalizing offset with
  | nil =>
    intro row above
    have zero := same (row - offset)
    rw [Nat.add_sub_cancel' above] at zero
    exact zero
  | cons head weights ih =>
    have rest := ih (offset + 1) fun row => by
      have there := same (row + 1)
      rw [show offset + 1 + row = offset + (row + 1) from by omega,there]
      rfl
    rw [show offset + 1 + weights.length = offset + (head :: weights).length from by
      rw [List.length_cons]; omega] at rest
    refine ⟨⟨rfl,?_⟩,(same 0).symm,fun row low high => absurd high (not_lt.mpr low),rest⟩
    change offset < _
    rw [List.length_cons]
    omega

private theorem enumerated_scan (weights : List ℤ) :
    Scan (weightOf weights) (FollowsNext weights.length) 0 (enumerated weights) := by
  have scan := enumerated_scan_from (weightOf weights) weights 0 fun row => by rw [Nat.zero_add]; rfl
  rw [Nat.zero_add] at scan
  exact scan

private theorem scan_positive {weight : ℕ → ℤ} (rows : List (ℕ × ℤ)) (bound : ℕ)
    (scan : Scan weight (FollowsNext rowCount) bound rows) :
    Scan weight (FollowsAny rowCount) bound (rows.filter fun row => row.2 ≠ 0) := by
  induction rows generalizing bound with
  | nil => exact scan
  | cons row rows ih =>
    obtain ⟨next,weighs,skipped,rest⟩ := scan
    have later := ih _ rest
    obtain ⟨here,inside⟩ := next
    by_cases zero : row.2 = 0
    · rw [List.filter_cons_of_neg (by simp [zero])]
      rw [here] at later
      refine Scan.skip later ?_ ?_
      · rw [← here,← weighs,zero]
      · exact fun other follows => ⟨(Nat.le_succ bound).trans follows.1,follows.2⟩
    · rw [List.filter_cons_of_pos (by simp [zero])]
      exact ⟨⟨here.ge,inside⟩,weighs,skipped,later⟩

private theorem positiveRows_scan (weights : List ℤ) :
    Scan (weightOf weights) (FollowsAny weights.length) 0 (positiveRows weights) :=
  scan_positive _ _ (enumerated_scan weights)

private theorem covered_all (weights : List ℤ) :
    covered (weightOf weights) (Finset.range weights.length) = weights.sum := by
  rw [covered,Finset.sum_range,← Fin.sum_univ_getElem weights]
  apply Finset.sum_congr rfl
  intro row _
  simp [weightOf]

private theorem mem_positiveRows {weights : List ℤ} {row : ℕ} (weighs : weightOf weights row ≠ 0) :
    (row,weightOf weights row) ∈ positiveRows weights := by
  rw [weightOf,List.getD_eq_getElem?_getD] at weighs
  cases found : weights[row]? with
  | none => simp [found] at weighs
  | some weight =>
    have same : weightOf weights row = weight := by
      rw [weightOf,List.getD_eq_getElem?_getD,found]
      rfl
    rw [found] at weighs
    rw [same,positiveRows,enumerated,List.mem_filter,List.mem_map]
    refine ⟨⟨(weight,row),List.mk_mem_zipIdx_iff_getElem?.mpr found,rfl⟩,?_⟩
    exact decide_eq_true weighs

/-- The rows of a union that have weight are as good, and there are no more runs than positive rows. -/
private theorem minimum_clips {weights : List ℤ} {limit length : ℕ} (many : (positiveRows weights).length ≤ limit)
    (minimum : IsMinimum (weightOf weights) weights.length target (positiveRows weights).length length) :
    IsMinimum (weightOf weights) weights.length target limit length := by
  obtain ⟨possible,least⟩ := minimum
  refine ⟨?_,?_⟩
  · obtain ⟨rows,below,union,covers,size⟩ := possible
    exact ⟨rows,below,unionOfAtMost_mono union many,covers,size⟩
  · intro size other
    obtain ⟨rows,below,_,covers,rfl⟩ := other
    let heavy := rows.filter fun row => weightOf weights row ≠ 0
    have listed : heavy ⊆ ((positiveRows weights).map Prod.fst).toFinset := by
      intro row member
      rw [List.mem_toFinset,List.mem_map]
      exact ⟨_,mem_positiveRows (Finset.mem_filter.mp member).2,rfl⟩
    have few : (starts heavy).card ≤ (positiveRows weights).length := by
      calc (starts heavy).card ≤ heavy.card := Finset.card_filter_le _ _
        _ ≤ ((positiveRows weights).map Prod.fst).toFinset.card := Finset.card_le_card listed
        _ ≤ ((positiveRows weights).map Prod.fst).length := List.toFinset_card_le _
        _ = (positiveRows weights).length := List.length_map _
    have same : covered (weightOf weights) heavy = covered (weightOf weights) rows :=
      Finset.sum_filter_ne_zero rows
    have lower := least ⟨heavy,fun row member => below row (Finset.mem_filter.mp member).1,
      (unionOfAtMost_iff _ _).mpr few,same ▸ covers,rfl⟩
    exact lower.trans (Finset.card_filter_le _ _)

private theorem positiveRows_ne_nil {weights : List ℤ} (positive : 0 < target) (reachable : target ≤ weights.sum) :
    positiveRows weights ≠ [] := by
  intro none
  have zero : covered (weightOf weights) (Finset.range weights.length) = 0 := by
    apply Finset.sum_eq_zero
    intro row _
    by_contra weighs
    have member := mem_positiveRows weighs
    rw [none] at member
    exact absurd member List.not_mem_nil
  rw [covered_all] at zero
  omega

/-- A list of the least numbers of rows, by the interval limit. -/
structure Minima (weights : List ℤ) (target : ℤ) (maxIntervals : ℕ) (best : List ℕ) : Prop where
  length : best.length = maxIntervals + 1
  first : best[0]? = some weights.length
  minimum : ∀ limit, 1 ≤ limit → limit ≤ maxIntervals → ∃ length, best[limit]? = some length ∧
    IsMinimum (weightOf weights) weights.length target limit length

theorem Minima.unique {weights : List ℤ} {left right : List ℕ}
    (hl : Minima weights target maxIntervals left) (hr : Minima weights target maxIntervals right) :
    left = right := by
  apply List.ext_getElem?
  intro limit
  by_cases inside : limit ≤ maxIntervals
  · rcases Nat.eq_zero_or_pos limit with zero | first
    · rw [zero,hl.first,hr.first]
    · obtain ⟨length,found,least⟩ := hl.minimum limit first inside
      obtain ⟨length',found',least'⟩ := hr.minimum limit first inside
      rw [found,found',least.unique least']
  · rw [List.getElem?_eq_none (by rw [hl.length]; omega),List.getElem?_eq_none (by rw [hr.length]; omega)]

section
variable {weights : List ℤ} (nonnegative : ∀ weight ∈ weights, 0 ≤ weight) (positive : 0 < target)
  (reachable : target ≤ weights.sum)
include nonnegative positive reachable

private theorem dense_minima (maxIntervals : ℕ) :
    Minima weights target maxIntervals (denseMinimumSelectedRows weights maxIntervals target) := by
  obtain ⟨bound,inside,rest,shaped,correct⟩ := dense_pass maxIntervals positive.le
    (weightOf_nonnegative nonnegative) _ (enumerated_scan weights)
  have entries := bestByLimit_entries weights.length maxIntervals (denseBestExact
    ((enumerated weights).foldl (denseRow weights.length maxIntervals target)
      (denseStart weights.length maxIntervals)) weights.length target)
  refine ⟨entries.1,entries.2 0 (Nat.zero_le _),?_⟩
  exact bestByLimit_minimum correct inside rest (denseBestExact_exact shaped positive) positive
    (by rw [covered_all]; exact reachable)

private theorem sparse_minima (maxIntervals : ℕ) : ∃ best,
    sparseMinimumSelectedRows (positiveRows weights) weights.length maxIntervals target = .ok best ∧
    Minima weights target maxIntervals best := by
  obtain ⟨first,others,some⟩ := List.exists_cons_of_ne_nil (positiveRows_ne_nil positive reachable)
  obtain ⟨bound,inside,rest,_,correct⟩ := sparse_pass maxIntervals positive.le
    (weightOf_nonnegative nonnegative) _ (positiveRows_scan weights) first.1
  refine ⟨bestByLimit weights.length maxIntervals (sparseBestExact ((positiveRows weights).foldl
    (sparseRow maxIntervals target) (sparseStart maxIntervals first.1)).tables weights.length target),?_,?_⟩
  · rw [some]
    rfl
  · have entries := bestByLimit_entries weights.length maxIntervals (sparseBestExact
      ((positiveRows weights).foldl (sparseRow maxIntervals target)
        (sparseStart maxIntervals first.1)).tables weights.length target)
    refine ⟨entries.1,entries.2 0 (Nat.zero_le _),?_⟩
    exact bestByLimit_minimum correct inside rest (sparseBestExact_exact _ _ _) positive
      (by rw [covered_all]; exact reachable)

private theorem sparse_eq_dense (maxIntervals : ℕ) :
    sparseMinimumSelectedRows (positiveRows weights) weights.length maxIntervals target =
      .ok (denseMinimumSelectedRows weights maxIntervals target) := by
  obtain ⟨best,returned,minima⟩ := sparse_minima nonnegative positive reachable maxIntervals
  rw [returned,minima.unique (dense_minima nonnegative positive reachable maxIntervals)]

private theorem switch_eq_dense (maxIntervals : ℕ) : minimumSelectedRowsByIntervalLimit weights maxIntervals target =
    .ok (denseMinimumSelectedRows weights (min maxIntervals (positiveRows weights).length) target,
      min maxIntervals (positiveRows weights).length) := by
  rw [minimumSelectedRowsByIntervalLimit]
  simp only [sparse_eq_dense nonnegative positive reachable,ite_self]
  rfl

private theorem clipped_eq (maxIntervals limit : ℕ) (first : 1 ≤ limit) (within : limit ≤ maxIntervals) :
    (denseMinimumSelectedRows weights (min maxIntervals (positiveRows weights).length) target)[min limit
      (min maxIntervals (positiveRows weights).length)]? =
        (denseMinimumSelectedRows weights maxIntervals target)[limit]? := by
  have some := List.length_pos_iff.mpr (positiveRows_ne_nil positive reachable)
  obtain ⟨length,found,least⟩ :=
    (dense_minima nonnegative positive reachable maxIntervals).minimum limit first within
  obtain ⟨length',found',least'⟩ := (dense_minima nonnegative positive reachable
    (min maxIntervals (positiveRows weights).length)).minimum
      (min limit (min maxIntervals (positiveRows weights).length)) (by omega) (by omega)
  have same : IsMinimum (weightOf weights) weights.length target limit length' := by
    rcases Nat.lt_or_ge limit (positiveRows weights).length with below | many
    · rw [show min limit (min maxIntervals (positiveRows weights).length) = limit by omega] at least'
      exact least'
    · rw [show min limit (min maxIntervals (positiveRows weights).length) =
        (positiveRows weights).length by omega] at least'
      exact minimum_clips many least'
  rw [found,found',least.unique same]

end

/-- Span budgets are optimal. The sparse and the dense search return one list, whose entry for every
limit from one interval on is the least number of rows of a union of at most so many disjoint
intervals that covers the target; the density switch returns what either search does, and the
entry at a clipped limit is the entry at the limit itself. -/
theorem span_optimal (weights : List ℤ) (maxIntervals : ℕ) (target : ℤ)
    (nonnegative : ∀ weight ∈ weights, 0 ≤ weight) (positive : 0 < target)
    (reachable : target ≤ weights.sum) :
    ∃ best clipped effective,
      sparseMinimumSelectedRows (positiveRows weights) weights.length maxIntervals target = .ok best ∧
      denseMinimumSelectedRows weights maxIntervals target = best ∧
      best.length = maxIntervals + 1 ∧
      (∀ limit, 1 ≤ limit → limit ≤ maxIntervals → ∃ length, best[limit]? = some length ∧
        IsMinimum (weightOf weights) weights.length target limit length) ∧
      minimumSelectedRowsByIntervalLimit weights maxIntervals target = .ok (clipped,effective) ∧
      effective = min maxIntervals (positiveRows weights).length ∧
      sparseMinimumSelectedRows (positiveRows weights) weights.length effective target = .ok clipped ∧
      denseMinimumSelectedRows weights effective target = clipped ∧
      (∀ limit, 1 ≤ limit → limit ≤ maxIntervals → clipped[min limit effective]? = best[limit]?) := by
  have minima := dense_minima nonnegative positive reachable maxIntervals
  refine ⟨_,_,_,sparse_eq_dense nonnegative positive reachable maxIntervals,rfl,minima.length,
    minima.minimum,switch_eq_dense nonnegative positive reachable maxIntervals,rfl,
    sparse_eq_dense nonnegative positive reachable _,rfl,?_⟩
  intro limit first within
  exact clipped_eq nonnegative positive reachable maxIntervals limit first within

/-- Five rows, one of them without weight. -/
theorem fiveRows_span : ∃ best clipped effective,
    sparseMinimumSelectedRows (positiveRows [3,0,2,1,0]) 5 2 4 = .ok best ∧
    denseMinimumSelectedRows [3,0,2,1,0] 2 4 = best ∧
    best.length = 3 ∧
    (∀ limit, 1 ≤ limit → limit ≤ 2 → ∃ length, best[limit]? = some length ∧
      IsMinimum (weightOf [3,0,2,1,0]) 5 4 limit length) ∧
    minimumSelectedRowsByIntervalLimit [3,0,2,1,0] 2 4 = .ok (clipped,effective) ∧
    effective = min 2 (positiveRows [3,0,2,1,0]).length ∧
    sparseMinimumSelectedRows (positiveRows [3,0,2,1,0]) 5 effective 4 = .ok clipped ∧
    denseMinimumSelectedRows [3,0,2,1,0] effective 4 = clipped ∧
    (∀ limit, 1 ≤ limit → limit ≤ 2 → clipped[min limit effective]? = best[limit]?) :=
  span_optimal [3,0,2,1,0] 2 4 (by decide) (by decide) (by decide)

end DynamicCssc.Span80
