import DynamicCssc.MaskLedgerSteps

/-! The ledger is the record of its own history: in every run the tables are the projections
of the successful calls, and the single-use properties follow from that. -/
namespace DynamicCssc.MaskLedger
open Foundation Foundation.Transaction

def reservedBy (event : Event) : List MaskBinding :=
  match event.call with
  | .reserveAll bindings => if event.succeeded then bindings else []
  | _ => []

structure Committed where
  commitments : List PreparedF1MCommitment
  fields : BatchFields
  token : String

def committedBy (event : Event) : List Committed :=
  match event.call with
  | .commit commitments fields issued => if event.succeeded then [⟨commitments,fields,issued⟩] else []
  | _ => []

def consumedBy (event : Event) : List String :=
  match event.call with
  | .consume _ token _ => if event.succeeded then [token] else []
  | _ => []

def Committed.key (batch : Committed) : String × String × String :=
  (batch.fields.queryId,batch.fields.versionId,batch.fields.outputPlanDigest)

def Committed.rows (sha : String → String) (batch : Committed) : List CommitmentRow :=
  batch.commitments.map (commitmentRow sha batch.token batch.fields.modulus)

/-- The row of a batch, given the tokens consumed so far. -/
def Committed.row (consumed : List String) (batch : Committed) : BatchRow :=
  { batchRow batch.token batch.fields with consumed := decide (batch.token ∈ consumed) }

/-- The tables hold what the events so far wrote, and nothing was written twice. -/
structure Mirrors (sha : String → String) (events : List Event) (ledger : Ledger) : Prop where
  reservations : ledger.reservations = events.flatMap reservedBy
  batches : ledger.batches =
    (events.flatMap committedBy).map (Committed.row (events.flatMap consumedBy))
  commitments : ledger.commitments = (events.flatMap committedBy).flatMap (Committed.rows sha)
  reserved_nodup : (events.flatMap reservedBy).Nodup
  tokens_nodup : ((events.flatMap committedBy).map Committed.token).Nodup
  keys_nodup : ((events.flatMap committedBy).map Committed.key).Nodup
  consumed_nodup : (events.flatMap consumedBy).Nodup
  consumed_committed : ∀ token ∈ events.flatMap consumedBy,
    token ∈ (events.flatMap committedBy).map Committed.token
  valid : ∀ batch ∈ events.flatMap committedBy, ValidCommitments batch.fields batch.commitments ∧
    validSha256 batch.token = true

theorem Mirrors.init (sha : String → String) : Mirrors sha [] empty :=
  ⟨rfl,rfl,rfl,.nil,.nil,.nil,.nil,by simp,by simp⟩

theorem Mirrors.idle {sha : String → String} {events : List Event} {ledger : Ledger} {event : Event}
    (mirrors : Mirrors sha events ledger) (reserved : reservedBy event = [])
    (committed : committedBy event = []) (consumed : consumedBy event = []) :
    Mirrors sha (events ++ [event]) ledger := by
  have same : ∀ {α : Type} (f : Event → List α), f event = [] →
      (events ++ [event]).flatMap f = events.flatMap f := by
    intro α f none'
    simp [none']
  refine ⟨?_,?_,?_,?_,?_,?_,?_,?_,?_⟩
  all_goals simp only [same _ reserved,same _ committed,same _ consumed]
  exacts [mirrors.reservations,mirrors.batches,mirrors.commitments,mirrors.reserved_nodup,
    mirrors.tokens_nodup,mirrors.keys_nodup,mirrors.consumed_nodup,mirrors.consumed_committed,
    mirrors.valid]

section Lookup
variable {sha : String → String} {events : List Event} {ledger : Ledger}

private theorem Mirrors.findBatch_iff (mirrors : Mirrors sha events ledger) (token : String) (row : BatchRow) :
    findBatch token ledger = some row ↔ ∃ batch ∈ events.flatMap committedBy,
      batch.token = token ∧ row = batch.row (events.flatMap consumedBy) := by
  rw [findBatch,mirrors.batches]
  have distinct := mirrors.tokens_nodup
  generalize events.flatMap consumedBy = consumed
  generalize events.flatMap committedBy = all at distinct ⊢
  induction all with
  | nil => simp
  | cons batch batches ih =>
    rw [List.map_cons,List.nodup_cons] at distinct
    rw [List.map_cons]
    by_cases here : batch.token = token
    · have hit : decide ((batch.row consumed).commitmentToken = token) = true := decide_eq_true here
      rw [List.find?_cons,hit]
      constructor
      · rintro ⟨⟩
        exact ⟨batch,by simp,here,rfl⟩
      · rintro ⟨other,member,same,rfl⟩
        rcases List.mem_cons.mp member with rfl | later
        · rfl
        · exact absurd (List.mem_map.mpr ⟨other,later,same.trans here.symm⟩) distinct.1
    · have miss : decide ((batch.row consumed).commitmentToken = token) = false :=
        decide_eq_false here
      rw [List.find?_cons,miss]
      refine (ih distinct.2).trans ?_
      constructor
      · rintro ⟨other,member,rest⟩
        exact ⟨other,by simp [member],rest⟩
      · rintro ⟨other,member,same,shape⟩
        rcases List.mem_cons.mp member with rfl | later
        · exact absurd same here
        · exact ⟨other,later,same,shape⟩

private theorem Mirrors.filter_rows (mirrors : Mirrors sha events ledger) (batch : Committed)
    (member : batch ∈ events.flatMap committedBy) :
    (ledger.commitments.filter fun row => row.commitmentToken = batch.token) = batch.rows sha := by
  rw [mirrors.commitments]
  have distinct := mirrors.tokens_nodup
  generalize events.flatMap committedBy = all at distinct member ⊢
  induction all with
  | nil => simp at member
  | cons first batches ih =>
    rw [List.map_cons,List.nodup_cons] at distinct
    rw [List.flatMap_cons,List.filter_append]
    rcases List.mem_cons.mp member with rfl | later
    · have rest : (batches.flatMap (Committed.rows sha)).filter
          (fun row => row.commitmentToken = batch.token) = [] := by
        rw [List.filter_eq_nil_iff]
        intro row inside
        obtain ⟨other,hother,inRows⟩ := List.mem_flatMap.mp inside
        obtain ⟨commitment,_,rfl⟩ := List.mem_map.mp inRows
        have apart : other.token ≠ batch.token := fun same =>
          distinct.1 (List.mem_map.mpr ⟨other,hother,same⟩)
        exact fun chosen => apart (of_decide_eq_true chosen)
      rw [rest,List.append_nil,List.filter_eq_self]
      intro row inside
      obtain ⟨commitment,_,rfl⟩ := List.mem_map.mp inside
      simp [commitmentRow]
    · have apart : first.token ≠ batch.token := fun same =>
        distinct.1 (List.mem_map.mpr ⟨batch,later,same.symm⟩)
      have none' : (Committed.rows sha first).filter
          (fun row => row.commitmentToken = batch.token) = [] := by
        rw [List.filter_eq_nil_iff]
        intro row inside
        obtain ⟨commitment,_,rfl⟩ := List.mem_map.mp inside
        exact fun chosen => apart (of_decide_eq_true chosen)
      rw [none',List.nil_append]
      exact ih distinct.2 later

end Lookup

/-! The stored rows determine the operands. -/

private theorem valuesPayload_injective (modulus : ℤ) (left right : PreparedF1MCommitment)
    (same : valuesPayload modulus left = valuesPayload modulus right) : left = right := by
  have sorted : ∀ commitment, valuesPayload modulus commitment = .obj [
      ("binding",.arr [.str commitment.queryId,.str commitment.versionId,
        .str commitment.outputPlanDigest,.str commitment.componentId,.str commitment.outputBlockId]),
      ("format",.str "dynamic-cssc-prepared-f1m-commitment-v1"),
      ("kind",.str commitment.kind.text),
      ("modulus",.int modulus),
      ("values",.ints commitment.values)] := by
    intro commitment
    rw [valuesPayload,Json.object,Sorting.sortedBy_eq_self]
    simp only [List.pairwise_cons,List.mem_cons,forall_eq_or_imp]
    decide
  rw [sorted left,sorted right] at same
  simp only [Json.obj.injEq,List.cons.injEq,Prod.mk.injEq,true_and,and_true,Json.arr.injEq,
    Json.str.injEq] at same
  obtain ⟨⟨query,version,plan,component,block⟩,kind,values⟩ := same
  have kinds : left.kind = right.kind := by
    cases hl : left.kind <;> cases hr : right.kind <;> simp_all [PreparedF1MKind.text]
  have lists : left.values = right.values := by
    rw [Json.ints,Json.ints,Json.arr.injEq] at values
    exact List.map_injective_iff.mpr (fun _ _ => Json.int.inj) values
  cases left
  cases right
  simp_all

private theorem commitmentRow_injective (sha : String → String) (injective : Function.Injective sha)
    (token : String) (modulus : ℤ) : Function.Injective (commitmentRow sha token modulus) := by
  intro left right same
  have digests := congrArg CommitmentRow.valuesDigest same
  exact valuesPayload_injective modulus left right
    (Json.dumps_injective true (injective digests))

private theorem sorted_rows (rows : List CommitmentRow) (distinct : (rows.map rowShare).Nodup) :
    Sorting.sortedBy rowKey rows = Sorting.sortedBy rowShare rows := by
  have perm : (Sorting.sortedBy rowKey rows).Perm (Sorting.sortedBy rowShare rows) :=
    (Sorting.sortedBy_perm _ _).trans (Sorting.sortedBy_perm _ _).symm
  apply Sorting.eq_of_perm_of_ordered rowShare perm
  · exact ((Sorting.sortedBy_perm rowKey rows).map rowShare).nodup_iff.mpr distinct
  · refine (Sorting.sortedBy_ordered rowKey rows).imp ?_
    intro left right below
    simp only [rowKey,rowShare,Prod.Lex.toLex_le_toLex] at below ⊢
    rcases below with first | ⟨first,second⟩
    · exact Or.inl first
    · rcases second with less | ⟨equal,_⟩
      · exact Or.inr ⟨first,less.le⟩
      · exact Or.inr ⟨first,equal.le⟩
  · exact Sorting.sortedBy_ordered rowShare rows

private theorem rows_share (sha : String → String) (token : String) (modulus : ℤ)
    (commitments : List PreparedF1MCommitment) :
    (commitments.map (commitmentRow sha token modulus)).map rowShare =
      commitments.map PreparedF1MCommitment.shareId := by
  simp [Function.comp_def,rowShare,commitmentRow,PreparedF1MCommitment.shareId]

/-- The stored rows are the expected ones exactly when the operands are the committed ones,
in some order. -/
private theorem storedRows_iff {sha : String → String} (injective : Function.Injective sha)
    {events : List Event} {ledger : Ledger} (mirrors : Mirrors sha events ledger)
    (batch : Committed) (member : batch ∈ events.flatMap committedBy)
    (commitments : List PreparedF1MCommitment)
    (distinct : (commitments.map PreparedF1MCommitment.shareId).Nodup) :
    storedRows batch.token ledger =
        expectedRows sha batch.token batch.fields.modulus commitments ↔
      commitments.Perm batch.commitments := by
  have own := (mirrors.valid batch member).1.shares
  rw [storedRows,mirrors.filter_rows batch member,expectedRows,
    sorted_rows _ (by rw [rows_share]; exact distinct),Committed.rows]
  have rows_inj := commitmentRow_injective sha injective batch.token batch.fields.modulus
  constructor
  · intro same
    have perm : (batch.commitments.map (commitmentRow sha batch.token batch.fields.modulus)).Perm
        (commitments.map (commitmentRow sha batch.token batch.fields.modulus)) :=
      (Sorting.sortedBy_perm rowShare _).symm.trans
        ((List.Perm.of_eq same).trans (Sorting.sortedBy_perm rowShare _))
    exact ((List.map_perm_map_iff rows_inj).mp perm).symm
  · intro perm
    exact Sorting.sortedBy_eq_of_perm rowShare (perm.symm.map _) (by rw [rows_share]; exact own)

/-! One step. -/

section Step
variable {sha : String → String} {events : List Event} {ledger next : Ledger}

private theorem flatMap_snoc {α : Type} (f : Event → List α) (event : Event) :
    (events ++ [event]).flatMap f = events.flatMap f ++ f event := by
  simp

theorem Mirrors.reserve (mirrors : Mirrors sha events ledger) (bindings : List MaskBinding)
    (run : reserveAll bindings ledger = (.ok (),next)) :
    Mirrors sha (events ++ [⟨.reserveAll bindings,.ok ()⟩]) next := by
  obtain ⟨⟨nodup,fresh⟩,rfl⟩ := (reserveAll_ok bindings ledger next ()).mp run
  have reserved : reservedBy ⟨.reserveAll bindings,.ok ()⟩ = bindings := rfl
  have committed : committedBy ⟨.reserveAll bindings,.ok ()⟩ = [] := rfl
  have consumed : consumedBy ⟨.reserveAll bindings,.ok ()⟩ = [] := rfl
  refine ⟨?_,?_,?_,?_,?_,?_,?_,?_,?_⟩
  all_goals simp only [flatMap_snoc,reserved,committed,consumed,List.append_nil]
  · rw [mirrors.reservations]
  · exact mirrors.batches
  · exact mirrors.commitments
  · refine List.nodup_append.mpr ⟨mirrors.reserved_nodup,nodup,?_⟩
    rintro old member new inside rfl
    exact fresh old inside (by rw [mirrors.reservations]; exact member)
  · exact mirrors.tokens_nodup
  · exact mirrors.keys_nodup
  · exact mirrors.consumed_nodup
  · exact mirrors.consumed_committed
  · exact mirrors.valid

theorem Mirrors.commit (mirrors : Mirrors sha events ledger)
    (commitments : List PreparedF1MCommitment) (fields : BatchFields) (issued token : String)
    (run : commitPreparedF1m sha commitments fields issued ledger = (.ok token,next)) :
    Mirrors sha (events ++ [⟨.commit commitments fields issued,.ok ()⟩]) next := by
  obtain ⟨valid,shape,rfl,_,admitted,rfl⟩ := commitPreparedF1m_ok sha commitments fields issued _ _ _ run
  have reserved : reservedBy ⟨.commit commitments fields token,.ok ()⟩ = [] := rfl
  have committed : committedBy ⟨.commit commitments fields token,.ok ()⟩ =
    [⟨commitments,fields,token⟩] := rfl
  have consumed : consumedBy ⟨.commit commitments fields token,.ok ()⟩ = [] := rfl
  have apart : ∀ batch ∈ events.flatMap committedBy, batch.token ≠ token ∧
      batch.key ≠ (fields.queryId,fields.versionId,fields.outputPlanDigest) := by
    intro batch member
    have inTable : batch.row (events.flatMap consumedBy) ∈ ledger.batches := by
      rw [mirrors.batches]
      exact List.mem_map_of_mem member
    exact admitted _ inTable
  have unspent : token ∉ events.flatMap consumedBy := by
    intro member
    obtain ⟨batch,inside,same⟩ := List.mem_map.mp (mirrors.consumed_committed token member)
    exact (apart batch inside).1 same
  refine ⟨?_,?_,?_,?_,?_,?_,?_,?_,?_⟩
  all_goals simp only [flatMap_snoc,reserved,committed,consumed,List.append_nil,List.map_append,
    List.map_cons,List.map_nil]
  · exact mirrors.reservations
  · rw [mirrors.batches]
    congr 2
    simp [Committed.row,batchRow,unspent]
  · rw [mirrors.commitments,List.flatMap_append]
    simp [Committed.rows]
  · exact mirrors.reserved_nodup
  · refine List.nodup_append.mpr ⟨mirrors.tokens_nodup,by simp,?_⟩
    intro old member new inside
    obtain ⟨batch,hb,rfl⟩ := List.mem_map.mp member
    rw [List.mem_singleton.mp inside]
    exact (apart batch hb).1
  · refine List.nodup_append.mpr ⟨mirrors.keys_nodup,by simp,?_⟩
    intro old member new inside
    obtain ⟨batch,hb,rfl⟩ := List.mem_map.mp member
    rw [List.mem_singleton.mp inside]
    exact (apart batch hb).2
  · exact mirrors.consumed_nodup
  · intro spent member
    exact List.mem_append_left _ (mirrors.consumed_committed spent member)
  · intro batch member
    rcases List.mem_append.mp member with old | new
    · exact mirrors.valid batch old
    · rw [List.mem_singleton.mp new]
      exact ⟨valid,shape⟩

/-- The batch and the operands of a token, read in turn, are what was submitted exactly when the
token was committed with these fields, has been consumed as often as it must be, and the
operands are the committed ones. Calls between the two reads make no difference. -/
private theorem Mirrors.accepts_iff (mirrors : Mirrors sha events ledger) (injective : Function.Injective sha)
    {later : List Event} {second : Ledger} (after : Mirrors sha (events ++ later) second)
    (commitments : List PreparedF1MCommitment) (token : String) (fields : BatchFields)
    (consumed : Bool) :
    (ValidCommitments fields commitments ∧ validSha256 token = true ∧
      (∃ row, findBatch token ledger = some row ∧ batchHas fields consumed row) ∧
      storedRows token second = expectedRows sha token fields.modulus commitments) ↔
    ∃ batch ∈ events.flatMap committedBy, batch.token = token ∧ batch.fields = fields ∧
      decide (token ∈ events.flatMap consumedBy) = consumed ∧
      commitments.Perm batch.commitments := by
  have kept : ∀ batch ∈ events.flatMap committedBy, batch ∈ (events ++ later).flatMap committedBy := by
    intro batch member
    rw [List.flatMap_append]
    exact List.mem_append_left _ member
  constructor
  · rintro ⟨valid,_,⟨row,found,has⟩,rows⟩
    obtain ⟨batch,member,rfl,rfl⟩ := (mirrors.findBatch_iff token row).mp found
    simp only [batchHas,Committed.row,batchRow,BatchRow.mk.injEq,true_and] at has
    obtain ⟨query,version,output,privatePlan,execution,modulus,state⟩ := has
    have same : batch.fields = fields := by
      have number := Json.intText_injective modulus
      cases hb : batch.fields
      cases fields
      simp_all
    subst same
    exact ⟨batch,member,rfl,rfl,state,
      (storedRows_iff injective after batch (kept batch member) commitments valid.shares).mp rows⟩
  · rintro ⟨batch,member,rfl,rfl,state,perm⟩
    obtain ⟨valid,shape⟩ := mirrors.valid batch member
    have own := valid.perm perm
    refine ⟨own,shape,⟨_,(mirrors.findBatch_iff _ _).mpr ⟨batch,member,rfl,rfl⟩,?_⟩,
      (storedRows_iff injective after batch (kept batch member) commitments own.shares).mpr perm⟩
    rw [← state]
    rfl

private theorem Mirrors.one_unconsumed (mirrors : Mirrors sha events ledger) (batch : Committed)
    (member : batch ∈ events.flatMap committedBy)
    (unspent : batch.token ∉ events.flatMap consumedBy) :
    (ledger.batches.countP fun row => row.commitmentToken == batch.token && !row.consumed) = 1 := by
  have once : ((events.flatMap committedBy).map Committed.token).count batch.token = 1 :=
    List.count_eq_one_of_mem mirrors.tokens_nodup (List.mem_map_of_mem member)
  rw [mirrors.batches,List.countP_map,← once,List.count_eq_countP,List.countP_map]
  apply List.countP_congr
  intro other _
  by_cases same : other.token = batch.token
  · simp [Committed.row,batchRow,same,unspent]
  · simp [Committed.row,batchRow,same]

private theorem consume_iff (mirrors : Mirrors sha events ledger) (injective : Function.Injective sha)
    (commitments : List PreparedF1MCommitment) (token : String) (fields : BatchFields) :
    verifyAndConsumePreparedF1m sha commitments token fields ledger = (.ok (),next) ↔
      (∃ batch ∈ events.flatMap committedBy, batch.token = token ∧ batch.fields = fields ∧
        token ∉ events.flatMap consumedBy ∧ commitments.Perm batch.commitments) ∧
      next = markConsumed token ledger := by
  rw [verifyAndConsume_ok]
  have accepts := mirrors.accepts_iff injective
    (show Mirrors sha (events ++ []) ledger by simpa using mirrors) commitments token fields false
  simp only [decide_eq_false_iff_not] at accepts
  constructor
  · rintro ⟨valid,shape,row,rows,_,rfl⟩
    exact ⟨accepts.mp ⟨valid,shape,row,rows⟩,rfl⟩
  · rintro ⟨found,rfl⟩
    obtain ⟨valid,shape,row,rows⟩ := accepts.mpr found
    obtain ⟨batch,member,rfl,_,unspent,_⟩ := found
    exact ⟨valid,shape,row,rows,mirrors.one_unconsumed batch member unspent,rfl⟩

private theorem verify_iff (mirrors : Mirrors sha events ledger) (injective : Function.Injective sha)
    {later : List Event} {second : Ledger} (after : Mirrors sha (events ++ later) second)
    (commitments : List PreparedF1MCommitment) (token : String) (fields : BatchFields) :
    ((verifyConsumedBatch commitments token fields ledger).1 = .ok () ∧
      (verifyConsumedOperands sha commitments token fields second).1 = .ok ()) ↔
      ∃ batch ∈ events.flatMap committedBy, batch.token = token ∧ batch.fields = fields ∧
        token ∈ events.flatMap consumedBy ∧ commitments.Perm batch.commitments := by
  have accepts := mirrors.accepts_iff injective after commitments token fields true
  simp only [decide_eq_true_eq] at accepts
  rw [← accepts]
  have batch := verifyConsumedBatch_ok commitments token fields ledger
  have rows := require_ok (fun ledger => storedRows token ledger =
    expectedRows sha token fields.modulus commitments)
    (mismatch "prepared F1-M replay operands differ from the consumed ledger") () second
  constructor
  · rintro ⟨first,operands⟩
    obtain ⟨⟨valid,shape,found⟩,_⟩ := (batch _ ()).mp (Prod.ext first rfl)
    exact ⟨valid,shape,found,((rows _).mp (Prod.ext operands rfl)).1⟩
  · rintro ⟨valid,shape,found,stored⟩
    exact ⟨congrArg Prod.fst ((batch ledger ()).mpr ⟨⟨valid,shape,found⟩,rfl⟩),
      congrArg Prod.fst ((rows second).mpr ⟨stored,rfl⟩)⟩

theorem Mirrors.consume (mirrors : Mirrors sha events ledger) (injective : Function.Injective sha)
    (commitments : List PreparedF1MCommitment) (token : String) (fields : BatchFields)
    (run : verifyAndConsumePreparedF1m sha commitments token fields ledger = (.ok (),next)) :
    Mirrors sha (events ++ [⟨.consume commitments token fields,.ok ()⟩]) next := by
  obtain ⟨⟨batch,member,rfl,_,unspent,_⟩,rfl⟩ :=
    (consume_iff mirrors injective commitments token fields).mp run
  have reserved : reservedBy ⟨.consume commitments batch.token fields,.ok ()⟩ = [] := rfl
  have committed : committedBy ⟨.consume commitments batch.token fields,.ok ()⟩ = [] := rfl
  have consumed : consumedBy ⟨.consume commitments batch.token fields,.ok ()⟩ = [batch.token] := rfl
  refine ⟨?_,?_,?_,?_,?_,?_,?_,?_,?_⟩
  all_goals simp only [flatMap_snoc,reserved,committed,consumed,List.append_nil]
  · exact mirrors.reservations
  · rw [markConsumed,mirrors.batches,List.map_map]
    apply List.map_congr_left
    intro other _
    by_cases same : other.token = batch.token
    · simp [Committed.row,batchRow,same]
    · simp [Committed.row,batchRow,same]
  · exact mirrors.commitments
  · exact mirrors.reserved_nodup
  · exact mirrors.tokens_nodup
  · exact mirrors.keys_nodup
  · refine List.nodup_append.mpr ⟨mirrors.consumed_nodup,by simp,?_⟩
    rintro old inside new here rfl
    rw [List.mem_singleton.mp here] at inside
    exact unspent inside
  · intro spent inside
    rcases List.mem_append.mp inside with old | new
    · exact mirrors.consumed_committed spent old
    · rw [List.mem_singleton.mp new]
      exact List.mem_map_of_mem member
  · exact mirrors.valid

/-- One transaction, whatever its outcome, keeps the mirror. -/
theorem Mirrors.step (mirrors : Mirrors sha events ledger) (injective : Function.Injective sha)
    (call : Call) : Mirrors sha (events ++ [⟨call,(perform sha call ledger).1⟩])
      (perform sha call ledger).2 := by
  cases run : perform sha call ledger with
  | mk outcome next =>
    cases outcome with
    | error failure =>
      obtain rfl := perform_error sha call failure ledger next run
      apply mirrors.idle <;> cases call <;> rfl
    | ok done =>
      cases call with
      | reserveAll bindings => exact mirrors.reserve bindings run
      | commit commitments fields issued =>
        obtain ⟨token,middle,committed,rest⟩ := (bind_ok _ _ _ _ _).mp run
        obtain ⟨_,rfl⟩ := (pure_ok _ _ _ _).mp rest
        exact mirrors.commit commitments fields issued token committed
      | consume commitments token fields => exact mirrors.consume injective commitments token fields run
      | verify commitments token fields =>
        obtain ⟨_,_,rfl⟩ := (verifyConsumed_ok sha commitments token fields ledger next done).mp run
        exact mirrors.idle rfl rfl rfl

end Step

private theorem runFrom_append (sha : String → String) (ledger : Ledger) (before after : List Call) :
    runFrom sha ledger (before ++ after) =
      ((runFrom sha ledger before).1 ++ (runFrom sha (runFrom sha ledger before).2 after).1,
        (runFrom sha (runFrom sha ledger before).2 after).2) := by
  induction before generalizing ledger with
  | nil => rfl
  | cons call before ih => simp only [List.cons_append,runFrom,ih]

private theorem history_snoc (sha : String → String) (calls : List Call) (call : Call) :
    history sha (calls ++ [call]) =
      history sha calls ++ [⟨call,(perform sha call (ledgerAfter sha calls)).1⟩] := by
  rw [history,runFrom_append]
  rfl

private theorem history_append (sha : String → String) (calls between : List Call) :
    history sha (calls ++ between) =
      history sha calls ++ (runFrom sha (ledgerAfter sha calls) between).1 := by
  rw [history,runFrom_append]
  rfl

private theorem ledgerAfter_snoc (sha : String → String) (calls : List Call) (call : Call) :
    ledgerAfter sha (calls ++ [call]) = (perform sha call (ledgerAfter sha calls)).2 := by
  rw [ledgerAfter,runFrom_append]
  rfl

/-- In every run the tables mirror the history. -/
private theorem run_mirrors (sha : String → String) (injective : Function.Injective sha)
    (calls : List Call) : Mirrors sha (history sha calls) (ledgerAfter sha calls) := by
  induction calls using List.reverseRecOn with
  | nil => exact Mirrors.init sha
  | append_singleton calls call ih =>
    rw [history_snoc,ledgerAfter_snoc]
    exact ih.step injective call

def committedBatches (events : List Event) : List Committed := events.flatMap committedBy

private theorem pairwise_disjoint {α β : Type} (f : α → List β) (items : List α)
    (nodup : (items.flatMap f).Nodup) :
    items.Pairwise fun left right => ∀ x ∈ f left, x ∉ f right :=
  (List.nodup_flatMap.mp nodup).2.imp fun apart _ left right => apart left right

/-- Single use, over every serialized interleaving of the clients' transactions. The read-only
verification makes two reads; other transactions may run between them. -/
theorem mask_ledger_single_use (sha : String → String) (injective : Function.Injective sha)
    (calls : List Call) :
    ((history sha calls).Pairwise fun earlier later =>
      ∀ binding ∈ reservedBy earlier, binding ∉ reservedBy later) ∧
    (∀ bindings, ⟨.reserveAll bindings,.ok ()⟩ ∈ history sha calls → bindings.Nodup) ∧
    ((history sha calls).Pairwise fun earlier later =>
      ∀ first ∈ committedBy earlier, ∀ second ∈ committedBy later, first.key ≠ second.key) ∧
    ((history sha calls).Pairwise fun earlier later =>
      ∀ token ∈ consumedBy earlier, token ∉ consumedBy later) ∧
    (∀ commitments token fields,
      (perform sha (.consume commitments token fields) (ledgerAfter sha calls)).1 = .ok () ↔
        ∃ batch ∈ committedBatches (history sha calls), batch.token = token ∧ batch.fields = fields ∧
          token ∉ (history sha calls).flatMap consumedBy ∧ commitments.Perm batch.commitments) ∧
    (∀ commitments token fields,
      (perform sha (.verify commitments token fields) (ledgerAfter sha calls)).1 = .ok () ↔
        ∃ batch ∈ committedBatches (history sha calls), batch.token = token ∧ batch.fields = fields ∧
          token ∈ (history sha calls).flatMap consumedBy ∧ commitments.Perm batch.commitments) ∧
    (∀ between commitments token fields,
      ((verifyConsumedBatch commitments token fields (ledgerAfter sha calls)).1 = .ok () ∧
        (verifyConsumedOperands sha commitments token fields
          (ledgerAfter sha (calls ++ between))).1 = .ok ()) ↔
        ∃ batch ∈ committedBatches (history sha calls), batch.token = token ∧ batch.fields = fields ∧
          token ∈ (history sha calls).flatMap consumedBy ∧ commitments.Perm batch.commitments) ∧
    (∀ commitments fields issued,
      (perform sha (.commit commitments fields issued) (ledgerAfter sha calls)).1 = .ok () →
        ∀ commitment ∈ commitments, commitment.kind = .randomZeroSum →
          ∃ event ∈ history sha calls, commitment.binding ∈ reservedBy event) ∧
    ∀ call failure, (perform sha call (ledgerAfter sha calls)).1 = .error failure →
      ledgerAfter sha (calls ++ [call]) = ledgerAfter sha calls := by
  have mirrors := run_mirrors sha injective calls
  refine ⟨pairwise_disjoint _ _ mirrors.reserved_nodup,?_,?_,
    pairwise_disjoint _ _ mirrors.consumed_nodup,?_,?_,?_,?_,?_⟩
  · intro bindings member
    exact (List.nodup_flatMap.mp mirrors.reserved_nodup).1 _ member
  · have keys := mirrors.keys_nodup
    rw [List.map_flatMap] at keys
    refine (pairwise_disjoint _ _ keys).imp ?_
    intro earlier later apart first inFirst second inSecond same
    exact apart _ (List.mem_map_of_mem inFirst) (same ▸ List.mem_map_of_mem inSecond)
  · intro commitments token fields
    constructor
    · intro succeeded
      exact ((consume_iff mirrors injective commitments token fields).mp (Prod.ext succeeded rfl)).1
    · intro found
      exact congrArg Prod.fst ((consume_iff mirrors injective commitments token fields).mpr ⟨found,rfl⟩)
  · intro commitments token fields
    have same : Mirrors sha (history sha calls ++ []) (ledgerAfter sha calls) := by simpa using mirrors
    rw [committedBatches,← verify_iff mirrors injective same commitments token fields]
    have call := verifyConsumed_ok sha commitments token fields (ledgerAfter sha calls)
    constructor
    · intro succeeded
      obtain ⟨first,second,_⟩ := (call _ ()).mp (Prod.ext succeeded rfl)
      exact ⟨first,second⟩
    · rintro ⟨first,second⟩
      exact congrArg Prod.fst ((call _ ()).mpr ⟨first,second,rfl⟩)
  · intro between commitments token fields
    have after := run_mirrors sha injective (calls ++ between)
    rw [history_append] at after
    exact verify_iff mirrors injective after commitments token fields
  · intro commitments fields issued succeeded commitment member random
    obtain ⟨token,middle,committed,_⟩ := (bind_ok _ _ _ _ _).mp
      (show perform sha (.commit commitments fields issued) (ledgerAfter sha calls) = (.ok (),_)
        from Prod.ext succeeded rfl)
    obtain ⟨_,_,_,backed,_⟩ := commitPreparedF1m_ok sha commitments fields issued _ _ _ committed
    have reserved := backed commitment member random
    rw [mirrors.reservations] at reserved
    exact List.mem_flatMap.mp reserved
  · intro call failure failed
    rw [ledgerAfter_snoc]
    exact perform_error sha call failure _ _ (Prod.ext failed rfl)

def sampleDigest : String := "7e5ff8bf8482e3cdefe77c0f0be274d7c94e30d5c4a42874f1ae1393daa8090e"

def sampleFields : BatchFields :=
  ⟨"query","version",sampleDigest,sampleDigest,sampleDigest,5⟩

def sampleCommitment : PreparedF1MCommitment :=
  ⟨"query","version",sampleDigest,"a","x",.randomZeroSum,[2,3]⟩

def sampleCalls : List Call :=
  [.reserveAll [sampleCommitment.binding],.commit [sampleCommitment] sampleFields sampleDigest]

/-- An injective function that is SHA-256 on the one text the sample run hashes. -/
def sampleSha : Equiv.Perm String :=
  Equiv.swap (Json.dumps true (valuesPayload 5 sampleCommitment)) 
    "11964d1b2313ee411f26047de3253716c48d7b22e0e2c0ea2391bcd77270c934"

theorem sampleCalls_consume :
    (perform sampleSha (.consume [sampleCommitment] sampleDigest sampleFields)
      (ledgerAfter sampleSha sampleCalls)).1 = .ok () := by
  obtain ⟨_,_,_,_,consume,_⟩ := mask_ledger_single_use sampleSha sampleSha.injective sampleCalls
  have committed : committedBatches (history sampleSha sampleCalls) =
    [⟨[sampleCommitment],sampleFields,sampleDigest⟩] := rfl
  have consumed : (history sampleSha sampleCalls).flatMap consumedBy = [] := rfl
  rw [consume,committed,consumed]
  exact ⟨_,List.mem_cons_self,rfl,rfl,List.not_mem_nil,List.Perm.refl _⟩

end DynamicCssc.MaskLedger
