import DynamicCssc.Failure
import DynamicCssc.Foundation.Dict
import DynamicCssc.Foundation.Sorting

/-! The least number of rows that covers a target weight with a given number of intervals: a pass over
all rows with tables, and one over the rows that have weight with dictionaries. -/
namespace DynamicCssc.Span80
open Foundation Foundation.Checked

/-- A dictionary from a number of selected rows to the weight they cover. -/
abbrev States := List (ℕ × ℤ)

/-- The loop of `_prune_dominated`, from a best weight on. -/
def pruneFrom (bestWeight : ℤ) : States → States
  | [] => []
  | (selected,coveredWeight) :: states =>
    if coveredWeight > bestWeight then (selected,coveredWeight) :: pruneFrom coveredWeight states
    else pruneFrom bestWeight states

def pruneDominated (states : States) : States := pruneFrom (-1) (Sorting.sortedBy Prod.fst states)

/-- `max_intervals + 1` dictionaries, by the interval count. -/
abbrev Frontiers := List States

/-- `states[count]`. -/
def Frontiers.states (frontiers : Frontiers) (count : ℕ) : States := frontiers.getD count []

/-- `states[count][selected] = max(states[count].get(selected, -1), value)`. -/
def Frontiers.put (frontiers : Frontiers) (count selected : ℕ) (value : ℤ) : Frontiers :=
  frontiers.modify count fun states =>
    Dict.set selected (max ((states.lookup selected).getD (-1)) value) states

structure SparseTables where
  outside : Frontiers
  inside : Frontiers

/-- The rows of the two inner loops: one state of `outside`. -/
def sparseOutside (maxIntervals : ℕ) (target weight : ℤ) (intervalCount : ℕ) (next : SparseTables)
    (state : ℕ × ℤ) : SparseTables :=
  let next := { next with outside := next.outside.put intervalCount state.1 state.2 }
  if intervalCount < maxIntervals then
    { next with inside := next.inside.put (intervalCount + 1) (state.1 + 1) (min target (state.2 + weight)) }
  else next

/-- One state of `inside`. -/
def sparseInside (maxIntervals : ℕ) (target weight : ℤ) (distance intervalCount : ℕ)
    (next : SparseTables) (state : ℕ × ℤ) : SparseTables :=
  let next := { next with outside := next.outside.put intervalCount state.1 state.2 }
  let next := { next with
    inside := next.inside.put intervalCount (state.1 + distance) (min target (state.2 + weight)) }
  if intervalCount < maxIntervals then
    { next with inside := next.inside.put (intervalCount + 1) (state.1 + 1) (min target (state.2 + weight)) }
  else next

def sparseCount (maxIntervals : ℕ) (target weight : ℤ) (distance : ℕ) (held next : SparseTables)
    (intervalCount : ℕ) : SparseTables :=
  (held.inside.states intervalCount).foldl (sparseInside maxIntervals target weight distance intervalCount)
    ((held.outside.states intervalCount).foldl (sparseOutside maxIntervals target weight intervalCount) next)

structure SparsePass where
  tables : SparseTables
  previousPosition : ℕ

/-- One positive row. -/
def sparseRow (maxIntervals : ℕ) (target : ℤ) (pass : SparsePass) (row : ℕ × ℤ) : SparsePass :=
  let distance := row.1 - pass.previousPosition
  let empty := List.replicate (maxIntervals + 1) []
  let next := (List.range (maxIntervals + 1)).foldl
    (sparseCount maxIntervals target row.2 distance pass.tables) ⟨empty,empty⟩
  ⟨⟨next.outside.map pruneDominated,next.inside.map pruneDominated⟩,row.1⟩

/-- `best_by_limit`, the loop both searches end with. -/
def bestByLimit (rowCount maxIntervals : ℕ) (bestExact : ℕ → ℕ) : List ℕ :=
  ((List.range' 1 maxIntervals).foldl (fun (best : ℕ × List ℕ) intervalCount =>
      let bestSoFar := min best.1 (bestExact intervalCount)
      (bestSoFar,best.2.set intervalCount bestSoFar))
    (rowCount,List.replicate (maxIntervals + 1) rowCount)).2

/-- The first of the dictionaries holds the empty selection. -/
def sparseStart (maxIntervals position : ℕ) : SparsePass :=
  let empty := List.replicate (maxIntervals + 1) []
  ⟨⟨empty.modify 0 (Dict.set 0 0),empty⟩,position⟩

/-- `min((selected ... if covered_weight >= target), default=row_count)`. -/
def sparseBestExact (tables : SparseTables) (rowCount : ℕ) (target : ℤ) (intervalCount : ℕ) : ℕ :=
  ((((tables.outside.states intervalCount ++ tables.inside.states intervalCount).filter
    fun state => target ≤ state.2).map Prod.fst).min?).getD rowCount

def sparseMinimumSelectedRows (positiveRows : List (ℕ × ℤ)) (rowCount maxIntervals : ℕ) (target : ℤ) :
    Checked (List ℕ) :=
  match positiveRows with
  | [] => .error ⟨.indexError,"list index out of range"⟩
  | first :: _ =>
    let pass := positiveRows.foldl (sparseRow maxIntervals target) (sparseStart maxIntervals first.1)
    .ok (bestByLimit rowCount maxIntervals (sparseBestExact pass.tables rowCount target))

def negative : ℤ := -10 ^ 30

/-- A row for each interval count, a column for each number of selected rows. -/
abbrev Cells := List (List ℤ)

/-- `cells[count][selected]`. -/
def Cells.cell (cells : Cells) (count selected : ℕ) : ℤ := (cells.getD count []).getD selected negative

/-- `if value > cells[count][selected]: cells[count][selected] = value`. -/
def Cells.raise (cells : Cells) (count selected : ℕ) (value : ℤ) : Cells :=
  if value > cells.cell count selected then cells.modify count fun row => row.set selected value
  else cells

def blank (rowCount maxIntervals : ℕ) : Cells :=
  List.replicate (maxIntervals + 1) (List.replicate (rowCount + 1) negative)

structure DenseTables where
  outside : Cells
  inside : Cells

/-- The body of the loop over `selected`. -/
def denseCell (maxIntervals : ℕ) (target weight : ℤ) (held : DenseTables) (intervalCount : ℕ)
    (next : DenseTables) (selected : ℕ) : DenseTables :=
  let bestOut := max (held.outside.cell intervalCount selected) (held.inside.cell intervalCount selected)
  let next := { next with outside := next.outside.raise intervalCount selected bestOut }
  let next :=
    if held.inside.cell intervalCount selected ≠ negative then
      let value := min target (held.inside.cell intervalCount selected + weight)
      { next with inside := next.inside.raise intervalCount (selected + 1) value }
    else next
  if intervalCount < maxIntervals ∧ held.outside.cell intervalCount selected ≠ negative then
    let value := min target (held.outside.cell intervalCount selected + weight)
    { next with inside := next.inside.raise (intervalCount + 1) (selected + 1) value }
  else next

def denseCount (maxIntervals : ℕ) (target weight : ℤ) (held : DenseTables) (position : ℕ)
    (next : DenseTables) (intervalCount : ℕ) : DenseTables :=
  (List.range (position + 1)).foldl (denseCell maxIntervals target weight held intervalCount) next

/-- One row. -/
def denseRow (rowCount maxIntervals : ℕ) (target : ℤ) (held : DenseTables) (row : ℕ × ℤ) : DenseTables :=
  let reachableIntervals := min maxIntervals (row.1 + 1)
  (List.range (reachableIntervals + 1)).foldl (denseCount maxIntervals target row.2 held row.1)
    ⟨blank rowCount maxIntervals,blank rowCount maxIntervals⟩

def denseStart (rowCount maxIntervals : ℕ) : DenseTables :=
  ⟨(blank rowCount maxIntervals).modify 0 fun row => row.set 0 0,blank rowCount maxIntervals⟩

/-- `next((selected ... if max(...) >= target), row_count)`. -/
def denseBestExact (tables : DenseTables) (rowCount : ℕ) (target : ℤ) (intervalCount : ℕ) : ℕ :=
  ((List.range (rowCount + 1)).find? fun selected =>
    target ≤ max (tables.outside.cell intervalCount selected) (tables.inside.cell intervalCount selected)).getD rowCount

/-- `enumerate(weights)`. -/
def enumerated (weights : List ℤ) : List (ℕ × ℤ) := weights.zipIdx.map Prod.swap

def denseMinimumSelectedRows (weights : List ℤ) (maxIntervals : ℕ) (target : ℤ) : List ℕ :=
  let tables := (enumerated weights).foldl (denseRow weights.length maxIntervals target)
    (denseStart weights.length maxIntervals)
  bestByLimit weights.length maxIntervals (denseBestExact tables weights.length target)

/-- `[(index, weight) for index, weight in enumerate(weights) if weight]`. -/
def positiveRows (weights : List ℤ) : List (ℕ × ℤ) := (enumerated weights).filter fun row => row.2 ≠ 0

def minimumSelectedRowsByIntervalLimit (weights : List ℤ) (maxIntervals : ℕ) (target : ℤ) :
    Checked (List ℕ × ℕ) := do
  let positiveRows := positiveRows weights
  let effectiveIntervals := min maxIntervals positiveRows.length
  let bestByLimit ←
    if positiveRows.length * 2 ≤ weights.length then
      sparseMinimumSelectedRows positiveRows weights.length effectiveIntervals target
    else .ok (denseMinimumSelectedRows weights effectiveIntervals target)
  .ok (bestByLimit,effectiveIntervals)

end DynamicCssc.Span80
