import DynamicCssc.PublishLayout

/-! The chunks of a published block tile the ranks up to the widest row, and the block is what the
query compiler takes for a valid one. -/
namespace DynamicCssc
open Foundation

/-- What the check of the state and of the capacities leaves to the layout. -/
structure RowTable.Fits (table : RowTable) (spec : LayoutSpec) : Prop where
  entry : ∀ row, ∀ entry ∈ table.entries row, entry.2 ≠ 0 ∧ 0 ≤ entry.1 ∧ entry.1 < spec.cols
  used : ∀ row, (table.entries row).length ≤ table.capacity row
  capacity : ∀ row, table.capacity row ≤ spec.cols

/-- The chunks from a column on, each starting where the one before stopped. -/
def Laid (table : RowTable) (slots : ℕ) (blockId : String) (rowMap : List ℕ) :
    ℕ → ℕ → List ValueChunk → ℕ → Prop
  | column, _, [], stop => column = stop
  | column, index, chunk :: chunks, stop =>
    chunk = laidChunk table slots blockId rowMap column index ∧ column < table.widest rowMap ∧
      Laid table slots blockId rowMap (column + table.chunkWidth slots rowMap column) (index + 1) chunks stop

section Rows
variable {table : RowTable} {slots : ℕ} {blockId : String} {rowMap : List ℕ}

theorem lt_widest (column : ℕ) : column < table.widest rowMap ↔
    ∃ row ∈ rowMap, column < table.capacity row := by
  constructor
  · intro beyond
    by_contra none
    push Not at none
    have bound : table.widest rowMap ≤ column := by
      refine List.max_le_of_forall_le _ _ fun capacity member => ?_
      obtain ⟨row,inside,rfl⟩ := List.mem_map.mp member
      exact none row inside
    omega
  · intro ⟨row,inside,beyond⟩
    exact List.le_max_of_le (List.mem_map_of_mem inside) (show column + 1 ≤ _ from beyond)

theorem reaching_pos {column : ℕ} (beyond : column < table.widest rowMap) :
    0 < table.reaching rowMap column := by
  obtain ⟨row,inside,reach⟩ := (lt_widest column).mp beyond
  exact List.countP_pos_iff.mpr ⟨_,List.mem_map_of_mem inside,by simpa using reach⟩

theorem reaching_le (column : ℕ) : table.reaching rowMap column ≤ rowMap.length := by
  exact List.countP_le_length.trans (List.length_map _).le

theorem chunkWidth_pos {column : ℕ} (fits : rowMap.length ≤ slots)
    (beyond : column < table.widest rowMap) : 0 < table.chunkWidth slots rowMap column := by
  have tall := reaching_pos beyond
  have short := (@reaching_le table rowMap column).trans fits
  exact lt_min (by omega) (Nat.div_pos short tall)

/-- The rows of a block stand in the order of their capacities. -/
def Descending (table : RowTable) (rowMap : List ℕ) : Prop :=
  rowMap.Pairwise fun left right => table.capacity right ≤ table.capacity left

theorem lt_reaching (ordered : Descending table rowMap) (column place row : ℕ)
    (here : rowMap[place]? = some row) :
    place < table.reaching rowMap column ↔ column < table.capacity row := by
  have prefixed := Sorting.lt_countP_iff (fun capacity => decide (column < capacity))
    (rowMap.map table.capacity)
    (List.pairwise_map.mpr (ordered.imp fun {left right} below beyond => by
      simp only [decide_eq_true_eq] at beyond ⊢
      omega))
    place (table.capacity row) (by rw [List.getElem?_map,here]; rfl)
  rw [RowTable.reaching,prefixed,decide_eq_true_eq]

theorem Laid.snoc {column index stop : ℕ} {chunks : List ValueChunk}
    (laid : Laid table slots blockId rowMap column index chunks stop)
    (beyond : stop < table.widest rowMap) :
    Laid table slots blockId rowMap column index
      (chunks ++ [laidChunk table slots blockId rowMap stop (index + chunks.length)])
      (stop + table.chunkWidth slots rowMap stop) := by
  induction chunks generalizing column index with
  | nil =>
    have start : column = stop := laid
    subst start
    exact ⟨rfl,beyond,rfl⟩
  | cons chunk chunks ih =>
    obtain ⟨first,inside,rest⟩ := laid
    refine ⟨first,inside,?_⟩
    have next := ih rest
    rwa [show index + 1 + chunks.length = index + (chunk :: chunks).length by
      rw [List.length_cons]; omega] at next

theorem Laid.chunk {column index stop : ℕ} {chunks : List ValueChunk}
    (laid : Laid table slots blockId rowMap column index chunks stop) (place : ℕ) (chunk : ValueChunk)
    (here : chunks[place]? = some chunk) :
    chunk = laidChunk table slots blockId rowMap chunk.startColumn (index + place) ∧
      column ≤ chunk.startColumn ∧ chunk.startColumn < table.widest rowMap := by
  induction chunks generalizing column index place with
  | nil => simp at here
  | cons head chunks ih =>
    obtain ⟨first,inside,rest⟩ := laid
    cases place with
    | zero =>
      rw [List.getElem?_cons_zero,Option.some.injEq] at here
      subst here
      have start : head.startColumn = column := by rw [first]; rfl
      rw [start]
      exact ⟨first,le_rfl,inside⟩
    | succ place =>
      obtain ⟨same,after,before⟩ := ih rest place here
      refine ⟨?_,by omega,before⟩
      rwa [show index + (place + 1) = index + 1 + place by omega]

/-- Every rank between the ends lies in exactly one chunk. -/
theorem Laid.covers {column index stop : ℕ} {chunks : List ValueChunk}
    (laid : Laid table slots blockId rowMap column index chunks stop) (rank : ℕ)
    (after : column ≤ rank) (before : rank < stop) :
    ∃! place : ℕ, ∃ chunk : ValueChunk, chunks[place]? = some chunk ∧ chunk.startColumn ≤ rank ∧
      rank < chunk.startColumn + chunk.width := by
  induction chunks generalizing column index with
  | nil =>
    have start : column = stop := laid
    omega
  | cons head chunks ih =>
    obtain ⟨first,_,rest⟩ := laid
    have start : head.startColumn = column := by rw [first]; rfl
    have wide : head.width = table.chunkWidth slots rowMap column := by rw [first]; rfl
    by_cases early : rank < column + table.chunkWidth slots rowMap column
    · refine ⟨0,⟨head,rfl,by omega,by omega⟩,?_⟩
      intro place ⟨chunk,here,low,_⟩
      cases place with
      | zero => rfl
      | succ place =>
        have later := (rest.chunk place chunk here).2.1
        omega
    · obtain ⟨place,found,unique⟩ := ih rest (by omega)
      refine ⟨place + 1,found,?_⟩
      intro other ⟨chunk,here,low,high⟩
      cases other with
      | zero =>
        rw [List.getElem?_cons_zero,Option.some.injEq] at here
        subst here
        omega
      | succ other => rw [unique other ⟨chunk,here,low,high⟩]

theorem Laid.ids {column index stop : ℕ} {chunks : List ValueChunk}
    (laid : Laid table slots blockId rowMap column index chunks stop) :
    chunks.map ValueChunk.chunkId =
      (List.range' index chunks.length).map fun number => blockId ++ "-c" ++ sixDigits number := by
  induction chunks generalizing column index with
  | nil => rfl
  | cons head chunks ih =>
    obtain ⟨first,_,rest⟩ := laid
    rw [List.map_cons,ih rest,List.length_cons,List.range'_succ,List.map_cons,first]
    rfl

/-- The chunks up to the widest row are determined. -/
theorem Laid.unique {column index stop : ℕ} {left right : List ValueChunk}
    (first : Laid table slots blockId rowMap column index left stop)
    (second : Laid table slots blockId rowMap column index right stop)
    (closed : table.widest rowMap ≤ stop) : left = right := by
  induction left generalizing column index right with
  | nil =>
    have start : column = stop := first
    cases right with
    | nil => rfl
    | cons chunk chunks =>
      have inside := second.2.1
      omega
  | cons head left ih =>
    cases right with
    | nil =>
      have start : column = stop := second
      have inside := first.2.1
      omega
    | cons other right =>
      rw [first.1,second.1,ih first.2.2 second.2.2]

private theorem chunks_end (componentId : String) (fits : rowMap.length ≤ slots)
    (placements : List (Coordinate × SlotLocation))
    (availableSlots : List (ℤ × LaneKind × SlotLocation)) :
    ∃ final : BlockDraft, (Laid table slots blockId rowMap 0 0 final.chunks (table.widest rowMap) ∧
      final.placements = placements ++ final.chunks.flatMap (ValueChunk.placed componentId) ∧
      final.availableSlots = availableSlots ++ final.chunks.flatMap (ValueChunk.free componentId)) ∧
      ∀ rounds, table.widest rowMap ≤ rounds →
        Loop.run (fun draft : BlockDraft => draft.column < (rowMap.map table.capacity).foldr max 0)
          (publishChunk table slots componentId blockId rowMap (rowMap.map table.capacity))
          ⟨.nonTermination,"the chunks of a block do not end"⟩ rounds ⟨0,0,[],placements,availableSlots⟩ =
          .ok final := by
  obtain ⟨final,⟨low,laid,index,placed,free⟩,stopped,ends⟩ := Loop.run_ends
    (fun draft : BlockDraft => decide (draft.column < (rowMap.map table.capacity).foldr max 0))
    (publishChunk table slots componentId blockId rowMap (rowMap.map table.capacity))
    ⟨.nonTermination,"the chunks of a block do not end"⟩
    (fun draft => draft.column ≤ table.widest rowMap ∧
      Laid table slots blockId rowMap 0 0 draft.chunks draft.column ∧
      draft.chunkIndex = draft.chunks.length ∧
      draft.placements = placements ++ draft.chunks.flatMap (ValueChunk.placed componentId) ∧
      draft.availableSlots = availableSlots ++ draft.chunks.flatMap (ValueChunk.free componentId))
    (fun draft => table.widest rowMap - draft.column)
    (by
      intro draft ⟨_,laid,index,placed,free⟩ going
      have beyond : draft.column < table.widest rowMap := of_decide_eq_true going
      have positive := chunkWidth_pos fits beyond
      have short : table.chunkWidth slots rowMap draft.column ≤ table.widest rowMap - draft.column :=
        Nat.min_le_left _ _
      refine ⟨_,publishChunk_eq table slots blockId rowMap componentId draft (reaching_pos beyond),
        ⟨?_,?_,?_,?_,?_⟩,?_⟩
      · dsimp only
        omega
      · have next := laid.snoc beyond
        rwa [Nat.zero_add,← index] at next
      · simp [index]
      · simp [placed]
      · simp [free]
      · dsimp only
        omega)
    ⟨0,0,[],placements,availableSlots⟩ ⟨Nat.zero_le _,rfl,rfl,by simp,by simp⟩
  have closed : final.column = table.widest rowMap := by
    have done : table.widest rowMap ≤ final.column :=
      not_lt.mp (of_decide_eq_false stopped)
    omega
  exact ⟨final,⟨closed ▸ laid,placed,free⟩,fun rounds enough => ends rounds enough⟩

end Rows

def laidBlock (table : RowTable) (componentId : String) (block : (ℕ × ℕ) × ℕ)
    (chunks : List ValueChunk) : OutputBlockLayout :=
  { outputBlockId := componentId ++ "-h" ++ sixDigits block.2
    logicalRowStart := block.1.1
    logicalRowStop := block.1.2
    rowMap := (sortedRows table block.1).map fun row : ℕ => (row : ℤ)
    physicalRowCapacities := (sortedRows table block.1).map table.capacity
    chunks := chunks }

theorem sortedRows_perm (table : RowTable) (range : ℕ × ℕ) :
    (sortedRows table range).Perm (List.range' range.1 (range.2 - range.1)) :=
  Sorting.sortedBy_perm _ _

theorem sortedRows_length (table : RowTable) (range : ℕ × ℕ) :
    (sortedRows table range).length = range.2 - range.1 :=
  (sortedRows_perm table range).length_eq.trans List.length_range'

theorem mem_sortedRows (table : RowTable) (range : ℕ × ℕ) (row : ℕ) :
    row ∈ sortedRows table range ↔ range.1 ≤ row ∧ row < range.2 := by
  rw [(sortedRows_perm table range).mem_iff,List.mem_range'_1]
  omega

theorem sortedRows_nodup (table : RowTable) (range : ℕ × ℕ) : (sortedRows table range).Nodup :=
  (sortedRows_perm table range).nodup_iff.mpr List.nodup_range'

theorem sortedRows_descending (table : RowTable) (range : ℕ × ℕ) :
    Descending table (sortedRows table range) := by
  refine (Sorting.sortedBy_ordered _ _).imp fun {left right} order => ?_
  rcases Prod.Lex.toLex_le_toLex.mp order with less | same
  · have := less
    omega
  · have := same.1
    omega

/-- The block holds the laid chunks, and its lanes are listed behind those before. -/
theorem publishBlock_ok (table : RowTable) (slots : ℕ) (componentId : String) (block : (ℕ × ℕ) × ℕ)
    (fits : block.1.2 - block.1.1 ≤ slots) : ∃ chunks : List ValueChunk,
    Laid table slots (componentId ++ "-h" ++ sixDigits block.2) (sortedRows table block.1) 0 0 chunks
      (table.widest (sortedRows table block.1)) ∧
    ∀ rounds, table.widest (sortedRows table block.1) ≤ rounds → ∀ draft,
      publishBlock rounds table slots componentId draft block =
        .ok ⟨draft.blocks ++ [laidBlock table componentId block chunks],
          draft.placements ++ chunks.flatMap (ValueChunk.placed componentId),
          draft.availableSlots ++ chunks.flatMap (ValueChunk.free componentId)⟩ := by
  have short : (sortedRows table block.1).length ≤ slots := by rwa [sortedRows_length]
  obtain ⟨first,⟨laid,_,_⟩,_⟩ := @chunks_end table slots
    (componentId ++ "-h" ++ sixDigits block.2) _ componentId short [] []
  refine ⟨first.chunks,laid,?_⟩
  intro rounds enough draft
  obtain ⟨final,⟨again,placed,free⟩,ends⟩ := @chunks_end table slots
    (componentId ++ "-h" ++ sixDigits block.2) _ componentId short draft.placements
    draft.availableSlots
  have same := again.unique laid le_rfl
  rw [same] at placed free
  unfold publishBlock
  dsimp only
  rw [ends rounds enough,Checked.ok_bind,placed,free,same]
  rfl

end DynamicCssc
