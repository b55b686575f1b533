import DynamicCssc.MaskLedger

/-! What each ledger transaction does when it succeeds, and that it does nothing when it fails. -/
namespace DynamicCssc.MaskLedger
open Foundation Foundation.Transaction

/-- What `_validate_commitments` accepts. -/
structure ValidCommitments (fields : BatchFields) (commitments : List PreparedF1MCommitment) : Prop where
  query : validId fields.queryId = true
  version : validId fields.versionId = true
  outputPlan : validSha256 fields.outputPlanDigest = true
  privatePlan : validSha256 fields.privatePlanDigest = true
  executionBinding : validSha256 fields.executionBindingDigest = true
  modulus : 2 ≤ fields.modulus
  shares : (commitments.map PreparedF1MCommitment.shareId).Nodup
  each : ∀ commitment ∈ commitments, commitmentValid fields commitment = true
  dummies : ∀ commitment ∈ commitments, commitment.kind = .encryptedZeroDummy →
    ∀ value ∈ commitment.values, value = 0

private theorem validateCommitments_success (fields : BatchFields)
    (commitments : List PreparedF1MCommitment) (done : Unit) :
    validateCommitments fields commitments = .ok done ↔ ValidCommitments fields commitments := by
  simp only [validateCommitments,Checked.then_success,Checked.require_success,
    Checked.eachDistinct_success]
  constructor
  · rintro ⟨⟨query,version,outputPlan,privatePlan,executionBinding,modulus⟩,shares,rest⟩
    exact ⟨query,version,outputPlan,privatePlan,executionBinding,modulus,shares,
      fun commitment member => (rest commitment member).1,
      fun commitment member => (rest commitment member).2⟩
  · intro valid
    exact ⟨⟨valid.query,valid.version,valid.outputPlan,valid.privatePlan,valid.executionBinding,
      valid.modulus⟩,valid.shares,
      fun commitment member => ⟨valid.each commitment member,valid.dummies commitment member⟩⟩

theorem ValidCommitments.perm {fields : BatchFields} {left right : List PreparedF1MCommitment}
    (valid : ValidCommitments fields left) (perm : right.Perm left) : ValidCommitments fields right :=
  ⟨valid.query,valid.version,valid.outputPlan,valid.privatePlan,valid.executionBinding,valid.modulus,
    (perm.map _).nodup_iff.mpr valid.shares,
    fun commitment member => valid.each commitment (perm.mem_iff.mp member),
    fun commitment member => valid.dummies commitment (perm.mem_iff.mp member)⟩

private theorem split_fresh {α : Type} (old rows : List α) :
    (∀ earlier row later, rows = earlier ++ row :: later → row ∉ old ++ earlier) ↔
      rows.Nodup ∧ ∀ row ∈ rows, row ∉ old := by
  constructor
  · intro fresh
    refine ⟨?_,?_⟩
    · rw [List.Nodup,List.pairwise_iff_forall_sublist]
      intro a b sub same
      subst same
      obtain ⟨first,second,rfl,later⟩ : ∃ first second, rows = first ++ second ∧
          [a].Sublist first ∧ [a].Sublist second := by
        obtain ⟨first,second,rfl,hf,hs⟩ := List.append_sublist_iff.mp (show ([a] ++ [a]).Sublist rows from sub)
        exact ⟨first,second,rfl,hf,hs⟩
      obtain ⟨before,after,rfl⟩ := List.append_of_mem (List.singleton_sublist.mp later.2)
      refine fresh (first ++ before) a after (by simp) ?_
      have member := List.singleton_sublist.mp later.1
      simp [member]
    · intro row member
      obtain ⟨earlier,later,rfl⟩ := List.append_of_mem member
      exact fun old' => fresh earlier row later rfl (List.mem_append_left _ old')
  · rintro ⟨nodup,fresh⟩ earlier row later rfl member
    rcases List.mem_append.mp member with old' | before
    · exact fresh row (by simp) old'
    · exact (List.nodup_append.mp nodup).2.2 row before row (by simp) rfl

private theorem insertReservation_ok (binding : MaskBinding) (before after : Ledger) (done : Unit) :
    insertReservation binding before = (.ok done,after) ↔ binding ∉ before.reservations ∧
      after = { before with reservations := before.reservations ++ [binding] } := by
  simp only [insertReservation,bind_ok,require_ok,modify_ok]
  constructor
  · rintro ⟨_,_,⟨fresh,rfl⟩,rfl⟩
    exact ⟨fresh,rfl⟩
  · rintro ⟨fresh,rfl⟩
    exact ⟨(),before,⟨fresh,rfl⟩,rfl⟩

theorem reserveAll_ok (bindings : List MaskBinding) (before after : Ledger) (done : Unit) :
    reserveAll bindings before = (.ok done,after) ↔
      (bindings.Nodup ∧ ∀ binding ∈ bindings, binding ∉ before.reservations) ∧
        after = { before with reservations := before.reservations ++ bindings } := by
  unfold reserveAll
  split
  · rename_i none'
    subst none'
    rw [pure_ok]
    simp
  · rw [bind_ok]
    simp only [check_ok,Checked.require_success,transaction_ok]
    have inserted := each_ok insertReservation
      (fun ledger rows => { ledger with reservations := ledger.reservations ++ rows })
      (fun ledger row => row ∉ ledger.reservations) bindings before after done
      (fun row state next => insertReservation_ok row state next ())
      (fun state => by simp) (fun state row rest => by simp)
    simp only [split_fresh] at inserted
    constructor
    · rintro ⟨_,_,⟨nodup,rfl⟩,run⟩
      exact inserted.mp run
    · rintro ⟨admitted,same⟩
      exact ⟨(),before,⟨admitted.1,rfl⟩,inserted.mpr ⟨admitted,same⟩⟩

private theorem insertBatch_ok (row : BatchRow) (before after : Ledger) (done : Unit) :
    insertBatch row before = (.ok done,after) ↔ batchAdmitted row before ∧
      after = { before with batches := before.batches ++ [row] } := by
  simp only [insertBatch,bind_ok,require_ok,modify_ok]
  constructor
  · rintro ⟨_,_,⟨admitted,rfl⟩,rfl⟩
    exact ⟨admitted,rfl⟩
  · rintro ⟨admitted,rfl⟩
    exact ⟨(),before,⟨admitted,rfl⟩,rfl⟩

private theorem insertCommitment_ok (row : CommitmentRow) (before after : Ledger) (done : Unit) :
    insertCommitment row before = (.ok done,after) ↔ rowAdmitted row before ∧
      after = { before with commitments := before.commitments ++ [row] } := by
  simp only [insertCommitment,bind_ok,require_ok,modify_ok]
  constructor
  · rintro ⟨_,_,⟨admitted,rfl⟩,rfl⟩
    exact ⟨admitted,rfl⟩
  · rintro ⟨admitted,rfl⟩
    exact ⟨(),before,⟨admitted,rfl⟩,rfl⟩

theorem commitPreparedF1m_ok (sha : String → String) (commitments : List PreparedF1MCommitment)
    (fields : BatchFields) (issued token : String) (before after : Ledger)
    (committed : commitPreparedF1m sha commitments fields issued before = (.ok token,after)) :
    ValidCommitments fields commitments ∧ validSha256 issued = true ∧ token = issued ∧
      (∀ commitment ∈ commitments, commitment.kind = .randomZeroSum →
        commitment.binding ∈ before.reservations) ∧
      batchAdmitted (batchRow issued fields) before ∧
      after = ⟨before.reservations,before.batches ++ [batchRow issued fields],
        before.commitments ++ commitments.map (commitmentRow sha issued fields.modulus)⟩ := by
  simp only [commitPreparedF1m,bind_ok,check_ok,transaction_ok,pure_ok,insertBatch_ok,
    validateCommitments_success,Checked.require_success] at committed
  obtain ⟨_,_,⟨valid,rfl⟩,_,_,⟨shape,rfl⟩,_,_,reserved,_,_,⟨admitted,rfl⟩,_,_,inserted,rfl,rfl⟩ := committed
  obtain ⟨backed,rfl⟩ := (each_ok requireReservation (fun ledger _ => ledger)
    (fun ledger commitment => commitment.kind = .randomZeroSum →
      commitment.binding ∈ ledger.reservations) commitments _ _ ()
    (fun commitment state next => require_ok _ _ _ state next) (fun _ => rfl)
    (fun _ _ _ => rfl)).mp reserved
  obtain ⟨_,rfl⟩ := (each_ok insertCommitment
    (fun ledger rows => { ledger with commitments := ledger.commitments ++ rows })
    (fun ledger row => rowAdmitted row ledger) _ _ _ ()
    (fun row state next => insertCommitment_ok row state next ())
    (fun state => by simp) (fun state row rest => by simp)).mp inserted
  refine ⟨valid,shape,rfl,?_,admitted,rfl⟩
  intro commitment member
  obtain ⟨earlier,later,split⟩ := List.append_of_mem member
  exact backed earlier commitment later split

def markConsumed (token : String) (ledger : Ledger) : Ledger :=
  { ledger with batches := ledger.batches.map fun batch =>
    if batch.commitmentToken = token then { batch with consumed := true } else batch }

def batchHas (fields : BatchFields) (consumed : Bool) (batch : BatchRow) : Prop :=
  batch = { batchRow batch.commitmentToken fields with consumed := consumed }

theorem verifyAndConsume_ok (sha : String → String) (commitments : List PreparedF1MCommitment)
    (token : String) (fields : BatchFields) (before after : Ledger) (done : Unit) :
    verifyAndConsumePreparedF1m sha commitments token fields before = (.ok done,after) ↔
      ValidCommitments fields commitments ∧ validSha256 token = true ∧
      (∃ batch, findBatch token before = some batch ∧ batchHas fields false batch) ∧
      storedRows token before = expectedRows sha token fields.modulus commitments ∧
      (before.batches.countP fun batch => batch.commitmentToken == token && !batch.consumed) = 1 ∧
      after = markConsumed token before := by
  simp only [verifyAndConsumePreparedF1m,requireBatch,bind_ok,check_ok,transaction_ok,require_ok,
    modify_ok,validateCommitments_success,Checked.require_success,Option.any_eq_true,batchMatches,
    Bool.and_eq_true,decide_eq_true_eq,beq_iff_eq,Prod.mk.injEq,Bool.not_eq_true']
  constructor
  · rintro ⟨_,_,⟨valid,rfl⟩,_,_,⟨shape,rfl⟩,_,_,⟨⟨batch,found,⟨names,modulus⟩⟩,rfl⟩,_,_,
      ⟨⟨second,foundSecond,privatePlan⟩,rfl⟩,_,_,⟨⟨third,foundThird,execution⟩,rfl⟩,_,_,
      ⟨⟨fourth,foundFourth,fresh⟩,rfl⟩,_,_,⟨rows,rfl⟩,_,_,⟨one,rfl⟩,rfl⟩
    obtain rfl := Option.some.inj (found.symm.trans foundSecond)
    obtain rfl := Option.some.inj (found.symm.trans foundThird)
    obtain rfl := Option.some.inj (found.symm.trans foundFourth)
    refine ⟨valid,shape,⟨batch,found,?_⟩,rows,one,rfl⟩
    cases batch
    simp_all [batchHas,batchRow]
  · rintro ⟨valid,shape,⟨batch,found,has⟩,rows,one,rfl⟩
    rw [batchHas] at has
    have names := congrArg BatchRow.queryId has
    have versions := congrArg BatchRow.versionId has
    have plans := congrArg BatchRow.outputPlanDigest has
    have privates := congrArg BatchRow.privatePlanDigest has
    have executions := congrArg BatchRow.executionBindingDigest has
    have moduli := congrArg BatchRow.modulus has
    have fresh := congrArg BatchRow.consumed has
    exact ⟨(),before,⟨valid,rfl⟩,(),before,⟨shape,rfl⟩,
      (),before,⟨⟨batch,found,⟨names,versions,plans⟩,moduli⟩,rfl⟩,
      (),before,⟨⟨batch,found,privates⟩,rfl⟩,(),before,⟨⟨batch,found,executions⟩,rfl⟩,
      (),before,⟨⟨batch,found,fresh⟩,rfl⟩,(),before,⟨rows,rfl⟩,(),before,⟨one,rfl⟩,rfl⟩

theorem verifyConsumedBatch_ok (commitments : List PreparedF1MCommitment)
    (token : String) (fields : BatchFields) (before after : Ledger) (done : Unit) :
    verifyConsumedBatch commitments token fields before = (.ok done,after) ↔
      (ValidCommitments fields commitments ∧ validSha256 token = true ∧
        ∃ batch, findBatch token before = some batch ∧ batchHas fields true batch) ∧
      after = before := by
  simp only [verifyConsumedBatch,requireBatch,bind_ok,check_ok,require_ok,
    validateCommitments_success,Checked.require_success,Option.any_eq_true,batchMatches,
    Bool.and_eq_true,decide_eq_true_eq,beq_iff_eq,Prod.mk.injEq]
  constructor
  · rintro ⟨_,_,⟨valid,rfl⟩,_,_,⟨shape,rfl⟩,
      ⟨batch,found,⟨⟨⟨names,modulus⟩,privatePlan⟩,execution⟩,spent⟩,rfl⟩
    refine ⟨⟨valid,shape,batch,found,?_⟩,rfl⟩
    cases batch
    simp_all [batchHas,batchRow]
  · rintro ⟨⟨valid,shape,batch,found,has⟩,rfl⟩
    rw [batchHas] at has
    have names := congrArg BatchRow.queryId has
    have versions := congrArg BatchRow.versionId has
    have plans := congrArg BatchRow.outputPlanDigest has
    have privates := congrArg BatchRow.privatePlanDigest has
    have executions := congrArg BatchRow.executionBindingDigest has
    have moduli := congrArg BatchRow.modulus has
    have spent := congrArg BatchRow.consumed has
    exact ⟨(),after,⟨valid,rfl⟩,(),after,⟨shape,rfl⟩,
      ⟨batch,found,⟨⟨⟨⟨names,versions,plans⟩,moduli⟩,privates⟩,executions⟩,spent⟩,rfl⟩

theorem verifyConsumed_ok (sha : String → String) (commitments : List PreparedF1MCommitment)
    (token : String) (fields : BatchFields) (before after : Ledger) (done : Unit) :
    verifyConsumedPreparedF1m sha commitments token fields before = (.ok done,after) ↔
      (verifyConsumedBatch commitments token fields before).1 = .ok () ∧
      (verifyConsumedOperands sha commitments token fields before).1 = .ok () ∧ after = before := by
  have readBatch : ReadOnly (verifyConsumedBatch commitments token fields) :=
    (check_readOnly _).bind fun _ => (check_readOnly _).bind fun _ => require_readOnly _ _
  have readRows : ReadOnly (verifyConsumedOperands sha commitments token fields) := require_readOnly _ _
  simp only [verifyConsumedPreparedF1m,bind_ok]
  constructor
  · rintro ⟨_,middle,first,second⟩
    obtain rfl : middle = before := by rw [← readBatch before,first]
    exact ⟨by rw [first],by rw [second],by rw [← readRows middle,second]⟩
  · rintro ⟨first,second,rfl⟩
    exact ⟨(),after,Prod.ext first (readBatch after),Prod.ext second (readRows after)⟩

/-- A call that fails leaves all three tables as they were. -/
theorem perform_error (sha : String → String) (call : Call) : Clean (perform sha call) := by
  cases call with
  | reserveAll bindings =>
    simp only [perform,reserveAll]
    split
    · exact (pure_readOnly ()).clean
    · exact (check_readOnly _).bind_clean fun _ => transaction_clean _
  | commit commitments fields issued =>
    refine Clean.bind_pure ?_ _
    exact (check_readOnly _).bind_clean fun _ => (check_readOnly _).bind_clean fun _ =>
      transaction_clean _
  | consume commitments token fields =>
    exact (check_readOnly _).bind_clean fun _ => (check_readOnly _).bind_clean fun _ =>
      transaction_clean _
  | verify commitments token fields =>
    exact (((check_readOnly _).bind fun _ => (check_readOnly _).bind fun _ =>
      require_readOnly _ _).bind fun _ => require_readOnly _ _).clean

end DynamicCssc.MaskLedger
