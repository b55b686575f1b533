import DynamicCssc.F1mMasks
import DynamicCssc.Foundation.JsonInjective
import DynamicCssc.Foundation.Transaction

/-! The persistent mask ledger: three tables, and the four transactions on them. -/
namespace DynamicCssc
open Foundation Foundation.Transaction

inductive PreparedF1MKind
  | randomZeroSum
  | encryptedZeroDummy
deriving DecidableEq, Repr

def PreparedF1MKind.text : PreparedF1MKind → String
  | .randomZeroSum => "random-zero-sum"
  | .encryptedZeroDummy => "encrypted-zero-dummy"

structure PreparedF1MCommitment where
  queryId : String
  versionId : String
  outputPlanDigest : String
  componentId : String
  outputBlockId : String
  kind : PreparedF1MKind
  values : List ℤ
deriving DecidableEq, Repr

namespace PreparedF1MCommitment

def binding (commitment : PreparedF1MCommitment) : MaskBinding :=
  ⟨commitment.queryId,commitment.versionId,commitment.outputPlanDigest,commitment.componentId,
    commitment.outputBlockId⟩

def shareId (commitment : PreparedF1MCommitment) : ShareIdentity :=
  toLex (commitment.componentId,commitment.outputBlockId)

end PreparedF1MCommitment

/-- The six keyword arguments that name a batch. -/
structure BatchFields where
  queryId : String
  versionId : String
  outputPlanDigest : String
  privatePlanDigest : String
  executionBindingDigest : String
  modulus : ℤ
deriving DecidableEq, Repr

namespace MaskLedger

/-- A row of `prepared_f1m_batches`. The modulus is stored as text. -/
structure BatchRow where
  commitmentToken : String
  queryId : String
  versionId : String
  outputPlanDigest : String
  privatePlanDigest : String
  executionBindingDigest : String
  modulus : List Char
  consumed : Bool
deriving DecidableEq, Repr

/-- A row of `prepared_f1m_commitments`. -/
structure CommitmentRow where
  commitmentToken : String
  componentId : String
  outputBlockId : String
  kind : String
  valueCount : ℕ
  valuesDigest : String
deriving DecidableEq, Repr

structure Ledger where
  reservations : List MaskBinding
  batches : List BatchRow
  commitments : List CommitmentRow
deriving DecidableEq, Repr

def empty : Ledger := ⟨[],[],[]⟩

abbrev LedgerSession := Session Ledger Failure

def duplicate (message : String) : Failure := ⟨.duplicateMaskBindingError,message⟩
def mismatch (message : String) : Failure := ⟨.preparedF1MCommitmentError,message⟩
def spent (message : String) : Failure := ⟨.consumedPreparedF1MCommitmentError,message⟩

def commitmentValid (fields : BatchFields) (commitment : PreparedF1MCommitment) : Bool :=
  commitment.queryId == fields.queryId && commitment.versionId == fields.versionId &&
    commitment.outputPlanDigest == fields.outputPlanDigest && validId commitment.componentId &&
    validId commitment.outputBlockId && !commitment.values.isEmpty &&
    commitment.values.all fun value => decide (0 ≤ value ∧ value < fields.modulus)

def validateCommitments (fields : BatchFields) (commitments : List PreparedF1MCommitment) :
    Checked Unit := do
  Checked.require (validId fields.queryId = true ∧ validId fields.versionId = true ∧
      validSha256 fields.outputPlanDigest = true ∧ validSha256 fields.privatePlanDigest = true ∧
      validSha256 fields.executionBindingDigest = true ∧ 2 ≤ fields.modulus)
    (mismatch "prepared F1-M commitment batch binding is invalid")
  Checked.eachDistinct PreparedF1MCommitment.shareId
    (fun commitment => Checked.require (commitmentValid fields commitment = true)
      (mismatch "prepared F1-M commitment is invalid"))
    (mismatch "prepared F1-M commitment batch repeats an output share")
    (fun commitment => Checked.require
      (commitment.kind = .encryptedZeroDummy → ∀ value ∈ commitment.values, value = 0)
      (mismatch "prepared F1-M dummy commitment must be exactly zero"))
    [] commitments

/-- The payload `_values_digest` hashes. -/
def valuesPayload (modulus : ℤ) (commitment : PreparedF1MCommitment) : Json :=
  Json.object [
    ("binding",.arr [.str commitment.queryId,.str commitment.versionId,
      .str commitment.outputPlanDigest,.str commitment.componentId,.str commitment.outputBlockId]),
    ("format",.str "dynamic-cssc-prepared-f1m-commitment-v1"),
    ("kind",.str commitment.kind.text),
    ("modulus",.int modulus),
    ("values",.ints commitment.values)]

def valuesDigest (sha : String → String) (modulus : ℤ) (commitment : PreparedF1MCommitment) :
    String := sha (Json.dumps true (valuesPayload modulus commitment))

def commitmentRow (sha : String → String) (token : String) (modulus : ℤ)
    (commitment : PreparedF1MCommitment) : CommitmentRow :=
  ⟨token,commitment.componentId,commitment.outputBlockId,commitment.kind.text,
    commitment.values.length,valuesDigest sha modulus commitment⟩

/-- The order of `(component_id, output_block_id, kind, count, digest)` tuples. -/
def rowKey (row : CommitmentRow) : String ×ₗ String ×ₗ String ×ₗ ℕ ×ₗ String :=
  toLex (row.componentId,toLex (row.outputBlockId,toLex (row.kind,toLex (row.valueCount,row.valuesDigest))))

def rowShare (row : CommitmentRow) : String ×ₗ String := toLex (row.componentId,row.outputBlockId)

/-- `expected_rows`: the rows the submitted operands would have, sorted as tuples. -/
def expectedRows (sha : String → String) (token : String) (modulus : ℤ)
    (commitments : List PreparedF1MCommitment) : List CommitmentRow :=
  Sorting.sortedBy rowKey (commitments.map (commitmentRow sha token modulus))

/-- `SELECT ... WHERE commitment_token = ? ORDER BY component_id, output_block_id`. -/
def storedRows (token : String) (ledger : Ledger) : List CommitmentRow :=
  Sorting.sortedBy rowShare (ledger.commitments.filter fun row => row.commitmentToken = token)

def findBatch (token : String) (ledger : Ledger) : Option BatchRow :=
  ledger.batches.find? fun row => row.commitmentToken = token

/-- An `INSERT` under the primary key of `mask_binding_reservations`. -/
def insertReservation (binding : MaskBinding) : LedgerSession Unit := do
  require (fun ledger => binding ∉ ledger.reservations) (duplicate "mask binding was already consumed")
  modify fun ledger => { ledger with reservations := ledger.reservations ++ [binding] }

/-- Both uniqueness constraints of `prepared_f1m_batches`. -/
def batchAdmitted (row : BatchRow) (ledger : Ledger) : Prop :=
  ∀ other ∈ ledger.batches, other.commitmentToken ≠ row.commitmentToken ∧
    (other.queryId,other.versionId,other.outputPlanDigest) ≠
      (row.queryId,row.versionId,row.outputPlanDigest)

instance (row : BatchRow) : DecidablePred (batchAdmitted row) := fun _ => List.decidableBAll _ _

def alreadyCommitted : Failure := duplicate "prepared F1-M query binding was already committed"

def insertBatch (row : BatchRow) : LedgerSession Unit := do
  require (batchAdmitted row) alreadyCommitted
  modify fun ledger => { ledger with batches := ledger.batches ++ [row] }

/-- The primary key, the foreign key and the checks of `prepared_f1m_commitments`. -/
def rowAdmitted (row : CommitmentRow) (ledger : Ledger) : Prop :=
  (∀ other ∈ ledger.commitments,
    (other.commitmentToken,other.componentId,other.outputBlockId) ≠
      (row.commitmentToken,row.componentId,row.outputBlockId)) ∧
  (∃ batch ∈ ledger.batches, batch.commitmentToken = row.commitmentToken) ∧
  (row.kind = "random-zero-sum" ∨ row.kind = "encrypted-zero-dummy") ∧ 0 < row.valueCount

instance (row : CommitmentRow) : DecidablePred (rowAdmitted row) := fun _ =>
  inferInstanceAs (Decidable (_ ∧ _ ∧ _ ∧ _))

def insertCommitment (row : CommitmentRow) : LedgerSession Unit := do
  require (rowAdmitted row) alreadyCommitted
  modify fun ledger => { ledger with commitments := ledger.commitments ++ [row] }

def reserveAll (bindings : List MaskBinding) : LedgerSession Unit :=
  if bindings = [] then pure () else do
    check (Checked.require bindings.Nodup (duplicate "reservation request repeats a mask binding"))
    transaction (each insertReservation bindings)

/-- The `SELECT` that looks for the reservation of a random operand. -/
def requireReservation (commitment : PreparedF1MCommitment) : LedgerSession Unit :=
  require (fun ledger => commitment.kind = .randomZeroSum → commitment.binding ∈ ledger.reservations)
    (mismatch "random prepared F1-M commitment lacks a prior reservation")

def batchRow (token : String) (fields : BatchFields) : BatchRow :=
  ⟨token,fields.queryId,fields.versionId,fields.outputPlanDigest,fields.privatePlanDigest,
    fields.executionBindingDigest,Json.intText fields.modulus,false⟩

/-- `commit_prepared_f1m`; `issued` is what `secrets.token_hex(32)` returns. -/
def commitPreparedF1m (sha : String → String) (commitments : List PreparedF1MCommitment)
    (fields : BatchFields) (issued : String) : LedgerSession String := do
  check (validateCommitments fields commitments)
  check (Checked.require (validSha256 issued = true)
    (mismatch "ledger failed to issue a prepared F1-M commitment token"))
  transaction do
    each requireReservation commitments
    insertBatch (batchRow issued fields)
    each insertCommitment (commitments.map (commitmentRow sha issued fields.modulus))
    return issued

def batchMatches (fields : BatchFields) (batch : BatchRow) : Bool :=
  (batch.queryId,batch.versionId,batch.outputPlanDigest) =
      (fields.queryId,fields.versionId,fields.outputPlanDigest) &&
    batch.modulus == Json.intText fields.modulus

def requireBatch (token : String) (condition : BatchRow → Bool) (failure : Failure) :
    LedgerSession Unit :=
  require (fun ledger => (findBatch token ledger).any condition = true) failure

def verifyAndConsumePreparedF1m (sha : String → String) (commitments : List PreparedF1MCommitment)
    (token : String) (fields : BatchFields) : LedgerSession Unit := do
  check (validateCommitments fields commitments)
  check (Checked.require (validSha256 token = true)
    (mismatch "prepared F1-M commitment token is invalid"))
  transaction do
    requireBatch token (batchMatches fields)
      (mismatch "prepared F1-M commitment does not match its ledger batch")
    requireBatch token (fun batch => batch.privatePlanDigest == fields.privatePlanDigest)
      (mismatch "prepared F1-M commitment private plan does not match the ledger")
    requireBatch token (fun batch => batch.executionBindingDigest == fields.executionBindingDigest)
      (mismatch "prepared F1-M commitment execution binding does not match the ledger")
    requireBatch token (fun batch => !batch.consumed)
      (spent "prepared F1-M commitment batch was already consumed")
    require (fun ledger => storedRows token ledger = expectedRows sha token fields.modulus commitments)
      (mismatch "prepared F1-M commitment values do not match the ledger")
    -- the updated row count is one exactly when an unconsumed row has the token
    require (fun ledger => (ledger.batches.countP fun batch =>
        batch.commitmentToken == token && !batch.consumed) = 1)
      (spent "prepared F1-M commitment batch was already consumed")
    modify fun ledger => { ledger with batches := ledger.batches.map fun batch =>
      if batch.commitmentToken = token then { batch with consumed := true } else batch }

/-- The first read of `verify_consumed_prepared_f1m`: the batch of the token. -/
def verifyConsumedBatch (commitments : List PreparedF1MCommitment) (token : String)
    (fields : BatchFields) : LedgerSession Unit := do
  check (validateCommitments fields commitments)
  check (Checked.require (validSha256 token = true)
    (mismatch "prepared F1-M commitment token is invalid"))
  requireBatch token (fun batch => batchMatches fields batch &&
      batch.privatePlanDigest == fields.privatePlanDigest &&
      batch.executionBindingDigest == fields.executionBindingDigest && batch.consumed)
    (mismatch "prepared F1-M replay batch is absent, unconsumed, or mismatched")

/-- The second read of `verify_consumed_prepared_f1m`: the operands of the token. -/
def verifyConsumedOperands (sha : String → String) (commitments : List PreparedF1MCommitment)
    (token : String) (fields : BatchFields) : LedgerSession Unit :=
  require (fun ledger => storedRows token ledger = expectedRows sha token fields.modulus commitments)
    (mismatch "prepared F1-M replay operands differ from the consumed ledger")

/-- `verify_consumed_prepared_f1m`: reads only. -/
def verifyConsumedPreparedF1m (sha : String → String) (commitments : List PreparedF1MCommitment)
    (token : String) (fields : BatchFields) : LedgerSession Unit := do
  verifyConsumedBatch commitments token fields
  verifyConsumedOperands sha commitments token fields

inductive Call
  | reserveAll (bindings : List MaskBinding)
  | commit (commitments : List PreparedF1MCommitment) (fields : BatchFields) (issued : String)
  | consume (commitments : List PreparedF1MCommitment) (token : String) (fields : BatchFields)
  | verify (commitments : List PreparedF1MCommitment) (token : String) (fields : BatchFields)
deriving DecidableEq, Repr

def perform (sha : String → String) : Call → LedgerSession Unit
  | .reserveAll bindings => reserveAll bindings
  | .commit commitments fields issued => do
    let _ ← commitPreparedF1m sha commitments fields issued
  | .consume commitments token fields => verifyAndConsumePreparedF1m sha commitments token fields
  | .verify commitments token fields => verifyConsumedPreparedF1m sha commitments token fields

/-- A call and how it ended. -/
structure Event where
  call : Call
  outcome : Checked Unit

def Event.succeeded (event : Event) : Bool := event.outcome.isOk

/-- The transactions of any number of clients, in the order the database serializes them. -/
def runFrom (sha : String → String) : Ledger → List Call → List Event × Ledger
  | ledger, [] => ([],ledger)
  | ledger, call :: calls =>
    let (outcome,next) := perform sha call ledger
    let (events,final) := runFrom sha next calls
    (⟨call,outcome⟩ :: events,final)

def history (sha : String → String) (calls : List Call) : List Event := (runFrom sha empty calls).1
def ledgerAfter (sha : String → String) (calls : List Call) : Ledger := (runFrom sha empty calls).2

end MaskLedger
end DynamicCssc
