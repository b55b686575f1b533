import Mathlib.Data.List.Basic
import Mathlib.Data.String.Basic
import Mathlib.Data.List.Lex
import Mathlib.Tactic

/-! Zero-padded decimal numerals, as the format specification `{:06d}` writes them.
They are injective at every size; below the padded width their lexicographic order
is the order of the numbers. -/
namespace Foundation.Decimal

/-- `f"{number:0{width}d}"`. -/
def padded (width number : ℕ) : String :=
  String.ofList ((Nat.toDigits 10 number).leftpad width '0')

theorem padded_toList (width number : ℕ) :
    (padded width number).toList = (Nat.toDigits 10 number).leftpad width '0' := by
  simp [padded]

private theorem leftpad_value (width : ℕ) (digits : List Char) :
    Nat.ofDigitChars 10 (digits.leftpad width '0') 0 = Nat.ofDigitChars 10 digits 0 := by
  simp [List.leftpad,Nat.ofDigitChars_append]

theorem padded_value (width number : ℕ) :
    Nat.ofDigitChars 10 (padded width number).toList 0 = number := by
  rw [padded_toList,leftpad_value,Nat.ofDigitChars_ten_toDigits]

theorem padded_injective (width : ℕ) : Function.Injective (padded width) := by
  intro left right same
  rw [← padded_value width left,same,padded_value]

theorem padded_length (width number : ℕ) (positive : 0 < width) (small : number < 10 ^ width) :
    (padded width number).toList.length = width := by
  have fits : (Nat.toDigits 10 number).length ≤ width :=
    (Nat.length_toDigits_le_iff (by omega) positive).mpr small
  rw [padded_toList,List.length_leftpad]
  omega

theorem padded_digits (width number : ℕ) (char : Char)
    (member : char ∈ (padded width number).toList) : char.isDigit := by
  rw [padded_toList,List.leftpad] at member
  rcases List.mem_append.mp member with pad | digit
  · rw [(List.mem_replicate.mp pad).2]
    decide
  · exact Nat.isDigit_of_mem_toDigits (by omega) (by omega) digit

private def digitValue (char : Char) : ℕ := char.toNat - '0'.toNat

private theorem digitValue_lt (left right : Char) (hl : left.isDigit) (hr : right.isDigit) :
    left < right ↔ digitValue left < digitValue right := by
  simp only [Char.isDigit,Bool.and_eq_true,decide_eq_true_eq] at hl hr
  have lowl : '0'.toNat ≤ left.toNat := hl.1
  have lowr : '0'.toNat ≤ right.toNat := hr.1
  have order : left < right ↔ left.toNat < right.toNat := Iff.rfl
  rw [order]
  unfold digitValue
  generalize left.toNat = a at *
  generalize right.toNat = b at *
  generalize '0'.toNat = z at *
  omega

private theorem digitValue_inj (left right : Char) (hl : left.isDigit) (hr : right.isDigit) :
    left = right ↔ digitValue left = digitValue right := by
  constructor
  · rintro rfl
    rfl
  · intro value
    have lower := (digitValue_lt left right hl hr).not
    have upper := (digitValue_lt right left hr hl).not
    exact le_antisymm (not_lt.mp (upper.mpr (by omega))) (not_lt.mp (lower.mpr (by omega)))

private theorem digitValue_bound (char : Char) (digit : char.isDigit) : digitValue char < 10 := by
  simp only [Char.isDigit,Bool.and_eq_true,decide_eq_true_eq] at digit
  have high : char.toNat ≤ 57 := digit.2
  have zero : '0'.toNat = 48 := rfl
  unfold digitValue
  omega

private theorem value_cons (char : Char) (digits : List Char) :
    Nat.ofDigitChars 10 (char :: digits) 0 =
      10 ^ digits.length * digitValue char + Nat.ofDigitChars 10 digits 0 := by
  rw [Nat.ofDigitChars_cons,Nat.ofDigitChars_eq_ofDigitChars_zero]
  simp [digitValue]

theorem value_bound (digits : List Char) (all : ∀ char ∈ digits, char.isDigit) :
    Nat.ofDigitChars 10 digits 0 < 10 ^ digits.length := by
  induction digits with
  | nil => simp
  | cons char digits ih =>
    have rest := ih (fun other member => all other (by simp [member]))
    have first := digitValue_bound char (all char (by simp))
    rw [value_cons,List.length_cons,Nat.pow_succ]
    nlinarith

/-- On numerals of one length the lexicographic order is the order of the values. -/
theorem digits_lt_iff (left right : List Char) (size : left.length = right.length)
    (hl : ∀ char ∈ left, char.isDigit) (hr : ∀ char ∈ right, char.isDigit) :
    left < right ↔ Nat.ofDigitChars 10 left 0 < Nat.ofDigitChars 10 right 0 := by
  induction left generalizing right with
  | nil =>
    cases right with
    | nil => simp
    | cons char right => simp at size
  | cons first left ih =>
    cases right with
    | nil => simp at size
    | cons other right =>
      have same : left.length = right.length := by simpa using size
      have below := value_bound left (fun char member => hl char (by simp [member]))
      have above := value_bound right (fun char member => hr char (by simp [member]))
      rw [List.cons_lt_cons_iff,ih right same (fun char member => hl char (by simp [member]))
        (fun char member => hr char (by simp [member])),
        digitValue_lt first other (hl first (by simp)) (hr other (by simp)),
        digitValue_inj first other (hl first (by simp)) (hr other (by simp)),value_cons,value_cons]
      rw [same] at below ⊢
      generalize digitValue first = a
      generalize digitValue other = b
      generalize 10 ^ right.length = p at *
      constructor
      · rintro (less | ⟨rfl,less⟩)
        · nlinarith
        · omega
      · intro less
        rcases lt_trichotomy a b with order | rfl | order
        · exact .inl order
        · exact .inr ⟨rfl,by omega⟩
        · exfalso
          nlinarith

end Foundation.Decimal
