import DynamicCssc.Failure
import DynamicCssc.Foundation.Decimal

/-! The identifiers that the query compiler writes: a tag, an ordinal and sometimes a second
number. Their texts are valid ids and never clash. -/
namespace DynamicCssc
open Foundation

inductive NameKind
  | ctValue
  | ctQuery
  | ctF1m
  | ptSelection
  | ssaProduct
  | ssaRelinearized
  | ssaRotate
  | ssaColumnSum
  | ssaSegmentSum
  | ssaSelected
  | ssaResultSum
  | ssaMasked
  | result
deriving DecidableEq, Repr

def NameKind.tag : NameKind → List Char
  | .ctValue => "ct-value-".toList
  | .ctQuery => "ct-query-".toList
  | .ctF1m => "ct-f1m-".toList
  | .ptSelection => "pt-selection-".toList
  | .ssaProduct => "ssa-product-".toList
  | .ssaRelinearized => "ssa-relinearized-".toList
  | .ssaRotate => "ssa-rotate-".toList
  | .ssaColumnSum => "ssa-column-sum-".toList
  | .ssaSegmentSum => "ssa-segment-sum-".toList
  | .ssaSelected => "ssa-selected-".toList
  | .ssaResultSum => "ssa-result-sum-".toList
  | .ssaMasked => "ssa-masked-".toList
  | .result => "result-".toList

structure Name where
  kind : NameKind
  ordinal : ℕ
  minor : Option ℕ
deriving DecidableEq, Repr

/-- `f"{ordinal:06d}"`. -/
def sixDigits (number : ℕ) : String := Decimal.padded 6 number

def Name.minorText : Option ℕ → List Char
  | none => []
  | some minor => '-' :: (sixDigits minor).toList

/-- For example `f"ssa-rotate-{ordinal}-{span:06d}"`. -/
def Name.text (name : Name) : String :=
  String.ofList (name.kind.tag ++ (sixDigits name.ordinal).toList ++ Name.minorText name.minor)

def NameKind.all : List NameKind := [.ctValue,.ctQuery,.ctF1m,.ptSelection,.ssaProduct,
  .ssaRelinearized,.ssaRotate,.ssaColumnSum,.ssaSegmentSum,.ssaSelected,.ssaResultSum,.ssaMasked,
  .result]

theorem NameKind.mem_all (kind : NameKind) : kind ∈ NameKind.all := by
  cases kind <;> simp [NameKind.all]

/-- No tag begins another. -/
private theorem NameKind.tag_prefix (left right : NameKind) (begins : left.tag <+: right.tag) :
    left = right := by
  have every : ∀ left ∈ NameKind.all, ∀ right ∈ NameKind.all,
      left.tag <+: right.tag → left = right := by decide +kernel
  exact every left left.mem_all right right.mem_all begins

private theorem NameKind.tag_printable (kind : NameKind) : kind.tag.all printable = true := by
  cases kind <;> decide

theorem digits_split (left right : ℕ) (restl restr : List Char)
    (endl : ∀ char ∈ restl.head?, char.isDigit = false)
    (endr : ∀ char ∈ restr.head?, char.isDigit = false)
    (same : (sixDigits left).toList ++ restl = (sixDigits right).toList ++ restr) :
    left = right ∧ restl = restr := by
  have cut (number : ℕ) (rest : List Char) (ends : ∀ char ∈ rest.head?, char.isDigit = false) :
      ((sixDigits number).toList ++ rest).takeWhile Char.isDigit = (sixDigits number).toList := by
    have digits : ∀ char ∈ (sixDigits number).toList, char.isDigit = true :=
      fun char member => Decimal.padded_digits 6 number char member
    rw [List.takeWhile_append_of_pos digits]
    cases rest with
    | nil => simp
    | cons head tail => simp [ends head (by simp)]
  have digits := congrArg (List.takeWhile Char.isDigit) same
  rw [cut left restl endl,cut right restr endr] at digits
  have number := Decimal.padded_injective 6 (String.toList_injective digits)
  subst number
  exact ⟨rfl,List.append_cancel_left same⟩

theorem Name.text_injective : Function.Injective Name.text := by
  intro left right same
  obtain ⟨kindl,ordinall,minorl⟩ := left
  obtain ⟨kindr,ordinalr,minorr⟩ := right
  have chars := String.ofList_injective same
  simp only [List.append_assoc] at chars
  have kinds : kindl = kindr := by
    have inLeft := List.prefix_append kindl.tag ((sixDigits ordinall).toList ++ minorText minorl)
    have inRight := List.prefix_append kindr.tag ((sixDigits ordinalr).toList ++ minorText minorr)
    rw [← chars] at inRight
    rcases List.prefix_or_prefix_of_prefix inLeft inRight with begins | begins
    · exact NameKind.tag_prefix _ _ begins
    · exact (NameKind.tag_prefix _ _ begins).symm
  subst kinds
  have ends (minor : Option ℕ) : ∀ char ∈ (Name.minorText minor).head?, char.isDigit = false := by
    cases minor <;> simp [Name.minorText]
  obtain ⟨ordinals,minors⟩ := digits_split _ _ _ _ (ends minorl) (ends minorr)
    (List.append_cancel_left chars)
  subst ordinals
  cases minorl with
  | none =>
    cases minorr with
    | none => rfl
    | some minor => simp [Name.minorText] at minors
  | some minor =>
    cases minorr with
    | none => simp [Name.minorText] at minors
    | some other =>
      have digits : (sixDigits minor).toList = (sixDigits other).toList := (List.cons.inj minors).2
      rw [Decimal.padded_injective 6 (String.toList_injective digits)]

private theorem digit_printable (char : Char) (digit : char.isDigit = true) : printable char = true := by
  simp only [Char.isDigit,Bool.and_eq_true,decide_eq_true_eq] at digit
  have low : 48 ≤ char.toNat := digit.1
  have high : char.toNat ≤ 57 := digit.2
  simp only [printable,Bool.and_eq_true,decide_eq_true_eq]
  omega

theorem sixDigits_printable (number : ℕ) : (sixDigits number).toList.all printable = true :=
  List.all_eq_true.mpr fun char member =>
    digit_printable char (Decimal.padded_digits 6 number char member)

@[simp] theorem Name.text_valid (name : Name) : validId name.text = true := by
  have minor : (Name.minorText name.minor).all printable = true := by
    cases name.minor with
    | none => rfl
    | some number =>
      rw [Name.minorText,List.all_cons,sixDigits_printable]
      rfl
  have nonempty : name.kind.tag ≠ [] := by
    cases name.kind <;> decide
  simp only [validId,Name.text,String.toList_ofList,List.all_append,name.kind.tag_printable,
    sixDigits_printable,minor,Bool.and_self,Bool.and_true,Bool.not_eq_true']
  simp [nonempty]

@[simp] theorem Name.text_inj (left right : Name) : left.text = right.text ↔ left = right :=
  Name.text_injective.eq_iff

-- the texts are compared through `text_inj` alone from here on
attribute [irreducible] Name.text

end DynamicCssc
