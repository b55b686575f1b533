import DynamicCssc.Span80
import DynamicCssc.Foundation.Frontier

/-! The dense search: a cell is the weight of the best entry with its counts, or `negative`. -/
namespace DynamicCssc.Span80
open Foundation Foundation.Frontier

variable {rowCount maxIntervals : ℕ} {cells : Cells} {tables : DenseTables}

/-- Every cell of the table is there. -/
structure Cells.Shaped (rowCount maxIntervals : ℕ) (cells : Cells) : Prop where
  counts : cells.length = maxIntervals + 1
  columns : ∀ row ∈ cells, row.length = rowCount + 1

theorem Cells.Shaped.modify (shaped : cells.Shaped rowCount maxIntervals) (count selected : ℕ) (value : ℤ) :
    Cells.Shaped rowCount maxIntervals (cells.modify count fun row => row.set selected value) where
  counts := (List.length_modify _ _ _).trans shaped.counts
  columns := by
    intro row member
    obtain ⟨place,found⟩ := List.getElem?_of_mem member
    rw [List.getElem?_modify] at found
    split at found
    · obtain ⟨old,here,rfl⟩ := Option.map_eq_some_iff.mp found
      rw [List.length_set]
      exact shaped.columns old (List.mem_of_getElem? here)
    · rw [Option.map_eq_map,Option.map_id'] at found
      exact shaped.columns row (List.mem_of_getElem? found)

theorem Cells.Shaped.raise (shaped : cells.Shaped rowCount maxIntervals) (count selected : ℕ) (value : ℤ) :
    (cells.raise count selected value).Shaped rowCount maxIntervals := by
  rw [Cells.raise]
  split
  · exact shaped.modify count selected value
  · exact shaped

private theorem Cells.cell_modify (shaped : cells.Shaped rowCount maxIntervals) {count selected : ℕ}
    (few : count ≤ maxIntervals) (short : selected ≤ rowCount) (value : ℤ) (other place : ℕ) :
    Cells.cell (cells.modify count fun row => row.set selected value) other place =
      if other = count ∧ place = selected then value else cells.cell other place := by
  simp only [Cells.cell,List.getD_eq_getElem?_getD,List.getElem?_modify]
  by_cases counts : other = count
  · subst counts
    have inside : other < cells.length := by rw [shaped.counts]; omega
    have wide := shaped.columns cells[other] (List.getElem_mem inside)
    by_cases here : place = selected
    · subst here
      simp [inside,wide,Nat.lt_succ_of_le short]
    · simp [inside,here,Ne.symm here]
  · simp [counts,Ne.symm counts]

private theorem Cells.cell_raise (shaped : cells.Shaped rowCount maxIntervals) {count selected : ℕ}
    (few : count ≤ maxIntervals) (short : selected ≤ rowCount) (value : ℤ) (other place : ℕ) :
    (cells.raise count selected value).cell other place =
      if other = count ∧ place = selected then max (cells.cell count selected) value
      else cells.cell other place := by
  rw [Cells.raise]
  by_cases higher : value > cells.cell count selected
  · rw [if_pos higher,Cells.cell_modify shaped few short,max_eq_right higher.le]
  · rw [if_neg higher,max_eq_left (not_lt.mp higher)]
    split
    · rename_i here
      rw [here.1,here.2]
    · rfl

theorem Cells.Shaped.inside (shaped : cells.Shaped rowCount maxIntervals) {count selected : ℕ}
    (present : cells.cell count selected ≠ negative) : count ≤ maxIntervals ∧ selected ≤ rowCount := by
  have counts := shaped.counts
  rw [Cells.cell,List.getD_eq_getElem?_getD,List.getD_eq_getElem?_getD (l := cells)] at present
  by_cases few : count < cells.length
  · refine ⟨by omega,?_⟩
    have wide := shaped.columns _ (List.getElem_mem few)
    rw [List.getElem?_eq_getElem few,Option.getD_some] at present
    by_contra long
    exact present (by rw [List.getElem?_eq_none (by omega)]; rfl)
  · have beyond : cells[count]? = none := List.getElem?_eq_none (by omega)
    rw [beyond] at present
    exact absurd rfl present

def DenseTables.side (tables : DenseTables) : Bool → Cells
  | true => tables.inside
  | false => tables.outside

def DenseTables.cell (tables : DenseTables) (entry : Entry) : ℤ :=
  (tables.side entry.inside).cell entry.intervals entry.selected

def DenseTables.Held (tables : DenseTables) (entry : Entry) : Prop :=
  tables.cell entry = entry.weight ∧ entry.weight ≠ negative

def DenseTables.Shaped (rowCount maxIntervals : ℕ) (tables : DenseTables) : Prop :=
  ∀ inside, (tables.side inside).Shaped rowCount maxIntervals

/-- Every write of the search: one entry, unless there is a heavier one. -/
def DenseTables.put (tables : DenseTables) (entry : Entry) : DenseTables :=
  match entry.inside with
  | true => { tables with inside := tables.inside.raise entry.intervals entry.selected entry.weight }
  | false => { tables with outside := tables.outside.raise entry.intervals entry.selected entry.weight }

theorem DenseTables.side_put (tables : DenseTables) (entry : Entry) (inside : Bool) :
    (tables.put entry).side inside = if inside = entry.inside then
      (tables.side inside).raise entry.intervals entry.selected entry.weight else tables.side inside := by
  obtain ⟨here,intervals,selected,weight⟩ := entry
  cases here <;> cases inside <;> rfl

theorem DenseTables.Shaped.put (shaped : tables.Shaped rowCount maxIntervals) (entry : Entry) :
    (tables.put entry).Shaped rowCount maxIntervals := by
  intro inside
  rw [DenseTables.side_put]
  split
  · exact (shaped inside).raise _ _ _
  · exact shaped inside

/-- An entry that has a cell of its own. -/
def Fits (rowCount maxIntervals : ℕ) (entry : Entry) : Prop :=
  entry.intervals ≤ maxIntervals ∧ entry.selected ≤ rowCount

def SameCell (left right : Entry) : Prop :=
  left.inside = right.inside ∧ left.intervals = right.intervals ∧ left.selected = right.selected

theorem DenseTables.Shaped.fits (shaped : tables.Shaped rowCount maxIntervals) {entry : Entry}
    (held : tables.Held entry) : Fits rowCount maxIntervals entry := by
  obtain ⟨cell,present⟩ := held
  rw [← cell] at present
  exact (shaped entry.inside).inside present

theorem DenseTables.cell_put (shaped : tables.Shaped rowCount maxIntervals) {entry : Entry}
    (fits : Fits rowCount maxIntervals entry) (other : Entry) :
    (SameCell other entry ∧ (tables.put entry).cell other = max (tables.cell other) entry.weight) ∨
    (¬SameCell other entry ∧ (tables.put entry).cell other = tables.cell other) := by
  rw [DenseTables.cell,DenseTables.cell,DenseTables.side_put]
  by_cases side : other.inside = entry.inside
  · rw [if_pos side,Cells.cell_raise (shaped _) fits.1 fits.2]
    by_cases here : other.intervals = entry.intervals ∧ other.selected = entry.selected
    · exact Or.inl ⟨⟨side,here⟩,by rw [if_pos here,here.1,here.2]⟩
    · exact Or.inr ⟨fun same => here same.2,by rw [if_neg here]⟩
  · exact Or.inr ⟨fun same => side same.1,by rw [if_neg side]⟩

theorem DenseTables.held_put (shaped : tables.Shaped rowCount maxIntervals) {entry other : Entry}
    (fits : Fits rowCount maxIntervals entry) (held : (tables.put entry).Held other) :
    tables.Held other ∨ other = entry := by
  obtain ⟨here,present⟩ := held
  rcases DenseTables.cell_put shaped fits other with ⟨same,raised⟩ | ⟨_,kept⟩
  · rw [raised] at here
    rcases max_choice (tables.cell other) entry.weight with old | new
    · exact Or.inl ⟨old ▸ here,present⟩
    · right
      obtain ⟨side,intervals,selected⟩ := same
      rw [new] at here
      obtain ⟨inside,count,rows,weight⟩ := other
      obtain ⟨inside',count',rows',weight'⟩ := entry
      simp only at side intervals selected here
      subst side intervals selected here
      rfl
  · exact Or.inl ⟨kept ▸ here,present⟩

theorem negative_lt : negative < 0 := by decide

theorem DenseTables.put_served (shaped : tables.Shaped rowCount maxIntervals) {entry : Entry}
    (fits : Fits rowCount maxIntervals entry) (nonnegative : 0 ≤ entry.weight) :
    Served (tables.put entry).Held entry := by
  have low := negative_lt
  have weight : entry.weight ≤ (tables.put entry).cell entry := by
    rcases DenseTables.cell_put shaped fits entry with ⟨_,raised⟩ | ⟨other,_⟩
    · rw [raised]
      exact le_max_right _ _
    · exact absurd ⟨rfl,rfl,rfl⟩ other
  refine ⟨{ entry with weight := (tables.put entry).cell entry },⟨rfl,?_⟩,rfl,rfl,le_rfl,weight⟩
  change (tables.put entry).cell entry ≠ negative
  omega

theorem DenseTables.served_put (shaped : tables.Shaped rowCount maxIntervals) {entry other : Entry}
    (fits : Fits rowCount maxIntervals other) (nonnegative : 0 ≤ entry.weight)
    (served : Served tables.Held entry) : Served (tables.put other).Held entry := by
  have low := negative_lt
  obtain ⟨new,held,serves⟩ := served
  have weight : new.weight ≤ (tables.put other).cell new := by
    rw [← held.1]
    rcases DenseTables.cell_put shaped fits new with ⟨_,raised⟩ | ⟨_,kept⟩
    · rw [raised]
      exact le_max_left _ _
    · exact kept.ge
  have heavier := serves.weight.trans weight
  refine ⟨{ new with weight := (tables.put other).cell new },⟨rfl,?_⟩,serves.inside,serves.intervals,
    serves.selected,heavier⟩
  change (tables.put other).cell new ≠ negative
  omega

theorem DenseTables.foldl_put (entries : List Entry) (shaped : tables.Shaped rowCount maxIntervals)
    (fit : ∀ entry ∈ entries, Fits rowCount maxIntervals entry) :
    (entries.foldl DenseTables.put tables).Shaped rowCount maxIntervals ∧
    (∀ entry, (entries.foldl DenseTables.put tables).Held entry → tables.Held entry ∨ entry ∈ entries) ∧
    (∀ entry, 0 ≤ entry.weight → Served tables.Held entry ∨ entry ∈ entries →
      Served (entries.foldl DenseTables.put tables).Held entry) :=
  foldl_writes DenseTables.put DenseTables.Held (DenseTables.Shaped rowCount maxIntervals) _
    (fun _ entry shaped => shaped.put entry)
    (fun _ _ _ shaped fits => DenseTables.held_put shaped fits)
    (fun _ _ shaped fits => DenseTables.put_served shaped fits)
    (fun _ _ _ shaped fits => DenseTables.served_put shaped fits) entries fit tables shaped

variable {target weight : ℤ}

def cellMoves (maxIntervals : ℕ) (target weight : ℤ) (held : DenseTables) (intervalCount selected : ℕ) :
    List Entry :=
  let out := held.outside.cell intervalCount selected
  let inner := held.inside.cell intervalCount selected
  ⟨false,intervalCount,selected,max out inner⟩ ::
    ((if inner ≠ negative then [⟨true,intervalCount,selected + 1,min target (inner + weight)⟩] else []) ++
      if intervalCount < maxIntervals ∧ out ≠ negative then
        [⟨true,intervalCount + 1,selected + 1,min target (out + weight)⟩] else [])

def denseMoves (maxIntervals : ℕ) (target weight : ℤ) (held : DenseTables) (position : ℕ) : List Entry :=
  (List.range (min maxIntervals (position + 1) + 1)).flatMap fun intervalCount =>
    (List.range (position + 1)).flatMap (cellMoves maxIntervals target weight held intervalCount)

private theorem denseRow_moves (held : DenseTables) (row : ℕ × ℤ) :
    denseRow rowCount maxIntervals target held row =
      (denseMoves maxIntervals target row.2 held row.1).foldl DenseTables.put
        ⟨blank rowCount maxIntervals,blank rowCount maxIntervals⟩ := by
  have cell : ∀ intervalCount, denseCell maxIntervals target row.2 held intervalCount = fun next selected =>
      (cellMoves maxIntervals target row.2 held intervalCount selected).foldl DenseTables.put next := by
    intro intervalCount
    funext next selected
    unfold denseCell cellMoves
    by_cases inner : held.inside.cell intervalCount selected ≠ negative
    · by_cases out : intervalCount < maxIntervals ∧ held.outside.cell intervalCount selected ≠ negative
      · simp only [if_pos inner,if_pos out]
        rfl
      · simp only [if_pos inner,if_neg out]
        rfl
    · by_cases out : intervalCount < maxIntervals ∧ held.outside.cell intervalCount selected ≠ negative
      · simp only [if_neg inner,if_pos out]
        rfl
      · simp only [if_neg inner,if_neg out]
        rfl
  have count : denseCount maxIntervals target row.2 held row.1 = fun next intervalCount =>
      ((List.range (row.1 + 1)).flatMap (cellMoves maxIntervals target row.2 held intervalCount)).foldl
        DenseTables.put next := by
    funext next intervalCount
    rw [denseCount,cell,List.foldl_flatMap]
  rw [denseRow,denseMoves,List.foldl_flatMap,count]

/-- What is written comes from a move, or is no entry. -/
private theorem move_of_mem_denseMoves (held : DenseTables) (position : ℕ) (entry : Entry)
    (member : entry ∈ denseMoves maxIntervals target weight held position) :
    (entry.intervals ≤ maxIntervals ∧ entry.selected ≤ position + 1) ∧
    (entry.weight ≠ negative → ∃ old, held.Held old ∧ Move target weight maxIntervals 1 old entry) := by
  simp only [denseMoves,List.mem_flatMap,List.mem_range] at member
  obtain ⟨count,few,selected,short,written⟩ := member
  simp only [cellMoves,List.mem_cons,List.mem_append] at written
  rcases written with left | longer | opened
  · refine ⟨by rw [left]; exact ⟨by change count ≤ _; omega,by change selected ≤ _; omega⟩,?_⟩
    intro present
    rcases max_choice (held.outside.cell count selected) (held.inside.cell count selected) with out | inner
    · rw [out] at left
      rw [left] at present
      exact ⟨⟨false,count,selected,held.outside.cell count selected⟩,⟨rfl,present⟩,by rw [left]; exact Move.leave⟩
    · rw [inner] at left
      rw [left] at present
      exact ⟨⟨true,count,selected,held.inside.cell count selected⟩,⟨rfl,present⟩,by rw [left]; exact Move.leave⟩
  · split at longer
    · rename_i present
      have here := List.mem_singleton.mp longer
      refine ⟨by rw [here]; exact ⟨by change count ≤ _; omega,by change selected + 1 ≤ _; omega⟩,?_⟩
      intro _
      exact ⟨⟨true,count,selected,held.inside.cell count selected⟩,⟨rfl,present⟩,here ▸ Move.extend rfl⟩
    · exact absurd longer List.not_mem_nil
  · split at opened
    · rename_i present
      have here := List.mem_singleton.mp opened
      refine ⟨by rw [here]; exact ⟨by change count + 1 ≤ _; omega,by change selected + 1 ≤ _; omega⟩,?_⟩
      intro _
      exact ⟨⟨false,count,selected,held.outside.cell count selected⟩,⟨rfl,present.2⟩,
        here ▸ Move.open present.1⟩
    · exact absurd opened List.not_mem_nil

/-- Every move is written, at its weight or a higher one, except a new interval right behind the last. -/
private theorem denseMoves_serves (held : DenseTables) (position : ℕ) (old entry : Entry) (here : held.Held old)
    (few : old.intervals ≤ maxIntervals) (reached : old.intervals ≤ position) (short : old.selected ≤ position)
    (move : Move target weight maxIntervals 1 old entry)
    (apart : entry.intervals = old.intervals + 1 → old.inside = false) :
    ∃ written ∈ denseMoves maxIntervals target weight held position, Serves written entry := by
  have place : ∀ written ∈ cellMoves maxIntervals target weight held old.intervals old.selected,
      written ∈ denseMoves maxIntervals target weight held position := by
    intro written member
    simp only [denseMoves,List.mem_flatMap,List.mem_range]
    exact ⟨old.intervals,by omega,old.selected,by omega,member⟩
  obtain ⟨inside,count,selected,covered⟩ := old
  obtain ⟨cell,present⟩ := here
  cases move with
  | leave =>
    refine ⟨_,place _ List.mem_cons_self,rfl,rfl,le_rfl,?_⟩
    change covered ≤ max _ _
    cases inside with
    | false => exact cell.ge.trans (le_max_left _ _)
    | true => exact cell.ge.trans (le_max_right _ _)
  | extend inner =>
    change inside = true at inner
    subst inner
    change held.inside.cell count selected = covered at cell
    refine ⟨Entry.extend target weight 1 ⟨true,count,selected,covered⟩,place _ ?_,rfl,rfl,le_rfl,le_rfl⟩
    simp only [cellMoves,List.mem_cons,List.mem_append,cell]
    rw [if_pos present]
    exact Or.inr (Or.inl (List.mem_singleton.mpr rfl))
  | «open» more =>
    have outer : inside = false := apart rfl
    subst outer
    change held.outside.cell count selected = covered at cell
    refine ⟨Entry.open target weight ⟨false,count,selected,covered⟩,place _ ?_,rfl,rfl,le_rfl,le_rfl⟩
    simp only [cellMoves,List.mem_cons,List.mem_append,cell]
    rw [if_pos (show count < maxIntervals ∧ covered ≠ negative from ⟨more,present⟩)]
    exact Or.inr (Or.inr (List.mem_singleton.mpr rfl))

private theorem blank_shaped (rowCount maxIntervals : ℕ) : (blank rowCount maxIntervals).Shaped rowCount maxIntervals where
  counts := List.length_replicate
  columns := by
    intro row member
    rw [List.eq_of_mem_replicate member]
    exact List.length_replicate

private theorem blank_cell (rowCount maxIntervals count selected : ℕ) :
    (blank rowCount maxIntervals).cell count selected = negative := by
  simp only [blank,Cells.cell,List.getD_eq_getElem?_getD,List.getElem?_replicate]
  split
  · rw [Option.getD_some,List.getElem?_replicate]
    split <;> rfl
  · rfl

private theorem denseRow_correct {weight : ℕ → ℤ} {bound row : ℕ} {held : DenseTables} (positive : 0 ≤ target)
    (nonnegative : ∀ row, 0 ≤ weight row) (shaped : held.Shaped rowCount maxIntervals)
    (correct : Correct weight target maxIntervals bound held.Held) (here : bound = row) (inside : row < rowCount) :
    (denseRow rowCount maxIntervals target held (row,weight row)).Shaped rowCount maxIntervals ∧
    Correct weight target maxIntervals (row + 1)
      (denseRow rowCount maxIntervals target held (row,weight row)).Held := by
  subst here
  rw [denseRow_moves]
  have one : bound + 1 - bound = 1 := by omega
  have blankShaped : DenseTables.Shaped rowCount maxIntervals
      ⟨blank rowCount maxIntervals,blank rowCount maxIntervals⟩ := by
    intro side
    cases side <;> exact blank_shaped rowCount maxIntervals
  obtain ⟨shape,sound,complete⟩ := DenseTables.foldl_put
    (denseMoves maxIntervals target (weight bound) held bound) blankShaped fun entry member => by
      have fits := (move_of_mem_denseMoves held bound entry member).1
      exact ⟨fits.1,by have := fits.2; omega⟩
  refine ⟨shape,correct.step positive nonnegative le_rfl (fun _ low high => by omega) ?_ ?_⟩
  · intro entry found
    rcases sound entry found with old | written
    · obtain ⟨cell,present⟩ := old
      refine absurd (cell.symm.trans ?_) present
      rw [DenseTables.cell]
      cases entry.inside <;> exact blank_cell _ _ _ _
    · rw [one]
      exact (move_of_mem_denseMoves held bound entry written).2 found.2
  · intro old entry was reached short move apart
    rw [one] at move
    have few := (shaped.fits was).1
    have separate : entry.intervals = old.intervals + 1 → old.inside = false := by
      intro more
      by_contra inner
      exact absurd (apart more (Bool.eq_true_of_not_eq_false inner)) (lt_irrefl _)
    obtain ⟨written,member,serves⟩ := denseMoves_serves held bound old entry was few reached short move separate
    have kept : 0 ≤ entry.weight :=
      move.nonnegative positive (nonnegative bound) (correct.sound old was).1
    obtain ⟨new,found,good⟩ := complete written (kept.trans serves.weight) (Or.inr member)
    exact ⟨new,found,good.inside.trans serves.inside,good.intervals.trans serves.intervals,
      good.selected.trans serves.selected,serves.weight.trans good.weight⟩

private theorem denseStart_cell (rowCount maxIntervals count selected : ℕ) :
    (denseStart rowCount maxIntervals).outside.cell count selected =
      if count = 0 ∧ selected = 0 then 0 else negative := by
  rw [denseStart,Cells.cell_modify (blank_shaped _ _) (Nat.zero_le _) (Nat.zero_le _),blank_cell]

private theorem denseStart_held (rowCount maxIntervals : ℕ) (entry : Entry) :
    (denseStart rowCount maxIntervals).Held entry ↔ entry = ⟨false,0,0,0⟩ := by
  obtain ⟨inside,intervals,selected,weight⟩ := entry
  constructor
  · intro held
    obtain ⟨cell,present⟩ := held
    cases inside with
    | true => exact absurd (cell.symm.trans (blank_cell _ _ _ _)) present
    | false =>
      change (denseStart rowCount maxIntervals).outside.cell intervals selected = weight at cell
      rw [denseStart_cell] at cell
      split at cell
      · rename_i here
        rw [here.1,here.2,← cell]
      · exact absurd cell.symm present
  · intro same
    rw [same]
    refine ⟨?_,by change (0 : ℤ) ≠ negative; exact ne_of_gt negative_lt⟩
    change (denseStart rowCount maxIntervals).outside.cell 0 0 = 0
    rw [denseStart_cell,if_pos ⟨rfl,rfl⟩]

/-- The next row is the one behind. -/
def FollowsNext (rowCount bound row : ℕ) : Prop := row = bound ∧ row < rowCount

theorem dense_pass {weight : ℕ → ℤ} (maxIntervals : ℕ) (positive : 0 ≤ target) (nonnegative : ∀ row, 0 ≤ weight row)
    (rows : List (ℕ × ℤ)) (scan : Scan weight (FollowsNext rowCount) 0 rows) :
    ∃ final ≤ rowCount, (∀ row, final ≤ row → weight row = 0) ∧
      (rows.foldl (denseRow rowCount maxIntervals target) (denseStart rowCount maxIntervals)).Shaped
        rowCount maxIntervals ∧
      Correct weight target maxIntervals final
        (rows.foldl (denseRow rowCount maxIntervals target) (denseStart rowCount maxIntervals)).Held := by
  have start : (denseStart rowCount maxIntervals).Shaped rowCount maxIntervals := by
    intro inside
    cases inside with
    | true => exact blank_shaped _ _
    | false => exact (blank_shaped _ _).modify 0 0 0
  exact scan_correct (denseRow rowCount maxIntervals target) DenseTables.Held
    (fun _ => DenseTables.Shaped rowCount maxIntervals) (fun _ _ next => next.2)
    (fun _ _ _ shaped correct next _ =>
      denseRow_correct positive nonnegative shaped correct next.1.symm next.2)
    rows _ scan (Nat.zero_le _) start (Correct.initial (denseStart_held _ _))

end DynamicCssc.Span80
