import Mathlib
import DynamicCssc.Foundation.Checked

/-! The exceptions of the modelled modules, and the identifiers and digests they share. -/
namespace DynamicCssc

/-- The exception classes, by their source names; `nonTermination` stands for a loop of the source
that has not come to its end within the rounds it was given. -/
inductive ExceptionKind
  | valueError
  | assertionError
  | runtimeError
  | keyError
  | indexError
  | typeError
  | zeroDivisionError
  | overflowError
  | structError
  | nonTermination
  | outputPlanError
  | cloudExecutionPlanError
  | queryCompilerError
  | strongExecutionError
  | ordinaryQueryLifecycleError
  | duplicateMaskBindingError
  | preparedF1MCommitmentError
  | consumedPreparedF1MCommitmentError
  | publicationDay1BAccountingError
  | publicationPrimitiveAccountingError
  | day1BWorkerProtocolError
  | day1BCombinedEvaluationKeyFramingError
  | day1BMetadataFramingError
  | day1BF1MAggregationError
  | openFHEQueryRunnerError
  | followupContractError
  | followupCampaignError
  | followupCampaignControlError
  | followupFormalWatcherReceiptError
  | runnerFailure
  | routeASnapError
deriving DecidableEq, Repr

structure Failure where
  kind : ExceptionKind
  message : String
deriving DecidableEq, Repr

abbrev Checked := Except Failure

/-- `0x21 <= ord(character) <= 0x7E`. -/
def printable (character : Char) : Bool := 0x21 ≤ character.toNat && character.toNat ≤ 0x7E

/-- `_valid_id`: a nonempty string of printable ASCII characters. -/
def validId (value : String) : Bool := !value.toList.isEmpty && value.toList.all printable

/-- `_require_id`, with the exception class of the module that calls it. -/
def requireId (kind : ExceptionKind) (value field : String) : Checked Unit :=
  Foundation.Checked.require (validId value = true)
    ⟨kind,field ++ " must be a non-empty printable ASCII identifier"⟩

@[simp] theorem requireId_success (kind : ExceptionKind) (value field : String) (done : Unit) :
    requireId kind value field = .ok done ↔ validId value = true := by
  simp [requireId]

/-- `_valid_sha256`: 64 lowercase hexadecimal digits. -/
def validSha256 (value : String) : Bool :=
  value.toList.length == 64 && value.toList.all fun character =>
    ('0' ≤ character && character ≤ '9') || ('a' ≤ character && character ≤ 'f')

/-- SHA-256 as far as the code can tell it from another hash: a function of the
text whose hexadecimal digest has the shape the code checks. -/
structure Sha256 where
  hexdigest : String → String
  shape : ∀ text, validSha256 (hexdigest text) = true

def zeroDigest : String := String.ofList (List.replicate 64 '0')

/-- A hash that is good enough to evaluate the code with. -/
def constantSha : Sha256 := ⟨fun _ => zeroDigest,fun _ => by decide +kernel⟩

/-- `zip(left, right, strict=True)`. -/
def zipStrict {α β : Type} (left : List α) (right : List β) : Checked (List (α × β)) := do
  Foundation.Checked.require (¬right.length < left.length)
    ⟨.valueError,"zip() argument 2 is shorter than argument 1"⟩
  Foundation.Checked.require (¬left.length < right.length)
    ⟨.valueError,"zip() argument 2 is longer than argument 1"⟩
  return left.zip right

@[simp] theorem zipStrict_success {α β : Type} (left : List α) (right : List β)
    (pairs : List (α × β)) : zipStrict left right = .ok pairs ↔
      left.length = right.length ∧ pairs = left.zip right := by
  simp only [zipStrict,Foundation.Checked.then_success,Foundation.Checked.require_success,pure,
    Except.pure,Except.ok.injEq]
  constructor
  · intro ⟨long,short,same⟩
    exact ⟨by omega,same.symm⟩
  · intro ⟨equal,same⟩
    exact ⟨by omega,by omega,same.symm⟩

end DynamicCssc
