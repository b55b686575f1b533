import Mathlib.Data.List.DropRight
import Mathlib.Data.List.Induction
import Mathlib.Data.Nat.Prime.Basic
import Mathlib.Data.Rat.Defs
import Mathlib.Tactic

/-! Finite decimal expansions: the value of the digits behind the point, the uniqueness of an
expansion without trailing zeros, long division, and the removal of a factor from a number. -/
namespace Foundation.DecimalExpansion

def digit (character : Char) : ℕ := character.toNat - '0'.toNat

def fractional : List Char → ℚ
  | [] => 0
  | character :: rest => (digit character + fractional rest) / 10

def Digits (text : List Char) : Prop := ∀ character ∈ text, character.isDigit = true

def Trimmed (text : List Char) : Prop := text.getLast? ≠ some '0'

private theorem digit_le (character : Char) (decimal : character.isDigit = true) : digit character ≤ 9 := by
  simp only [Char.isDigit,Bool.and_eq_true,decide_eq_true_eq] at decimal
  have high : character.toNat ≤ 57 := decimal.2
  have zero : '0'.toNat = 48 := rfl
  unfold digit
  omega

private theorem digit_inj (left right : Char) (decimal : left.isDigit = true) (other : right.isDigit = true)
    (same : digit left = digit right) : left = right := by
  simp only [Char.isDigit,Bool.and_eq_true,decide_eq_true_eq] at decimal other
  have low : 48 ≤ left.toNat := decimal.1
  have lowOther : 48 ≤ right.toNat := other.1
  have zero : '0'.toNat = 48 := rfl
  unfold digit at same
  apply Char.toNat_inj.mp
  omega

private theorem digit_digitChar (value : ℕ) (small : value < 10) : digit (Nat.digitChar value) = value := by
  interval_cases value <;> rfl

theorem fractional_eq (text : List Char) :
    fractional text = (Nat.ofDigitChars 10 text 0 : ℚ) / 10 ^ text.length := by
  induction text with
  | nil => simp [fractional]
  | cons character rest ih =>
    have step := @Nat.ofDigitChars_eq_ofDigitChars_zero rest (digit character)
    rw [fractional,ih,Nat.ofDigitChars_cons,Nat.mul_zero,Nat.zero_add,← digit,step,List.length_cons]
    push_cast
    field_simp
    ring

private theorem fractional_nonneg (text : List Char) : 0 ≤ fractional text := by
  rw [fractional_eq]
  positivity

private theorem fractional_lt_one (text : List Char) (digits : Digits text) : fractional text < 1 := by
  induction text with
  | nil => norm_num [fractional]
  | cons character rest ih =>
    have below := ih fun other member => digits other (by simp [member])
    have first : (digit character : ℚ) ≤ 9 := by
      exact_mod_cast digit_le character (digits character (by simp))
    rw [fractional,div_lt_one (by norm_num)]
    linarith

private theorem fractional_snoc_zero (text : List Char) : fractional (text ++ ['0']) = fractional text := by
  induction text with
  | nil => norm_num [fractional,digit]
  | cons character rest ih => simp only [List.cons_append,fractional,ih]

theorem fractional_rdropWhile (text : List Char) :
    fractional (text.rdropWhile (· == '0')) = fractional text := by
  induction text using List.reverseRecOn with
  | nil => rfl
  | append_singleton rest character ih =>
    by_cases zero : character = '0'
    · subst zero
      rw [List.rdropWhile_concat_pos _ _ _ (by decide),ih,fractional_snoc_zero]
    · rw [List.rdropWhile_concat_neg _ _ _ (by simpa using zero)]

theorem trimmed_rdropWhile (text : List Char) : Trimmed (text.rdropWhile (· == '0')) := by
  intro last
  have nonempty : text.rdropWhile (· == '0') ≠ [] := by
    intro empty
    rw [empty] at last
    exact absurd last (by simp)
  have stop := List.rdropWhile_last_not (· == '0') text nonempty
  rw [List.getLast?_eq_some_getLast nonempty,Option.some_inj] at last
  rw [last] at stop
  exact stop (by decide)

theorem Trimmed.tail {character : Char} {rest : List Char} (trimmed : Trimmed (character :: rest)) :
    Trimmed rest := by
  intro last
  apply trimmed
  rw [List.getLast?_cons,last]
  rfl

private theorem eq_nil_of_fractional_eq_zero (text : List Char) (trimmed : Trimmed text)
    (digits : Digits text) (zero : fractional text = 0) : text = [] := by
  induction text with
  | nil => rfl
  | cons character rest ih =>
    have nonneg := fractional_nonneg rest
    have first : (0 : ℚ) ≤ digit character := by positivity
    rw [fractional] at zero
    have none : fractional rest = 0 := by linarith
    have here : (digit character : ℚ) = 0 := by linarith
    obtain rfl := ih trimmed.tail (fun other member => digits other (by simp [member])) none
    have same : character = '0' := digit_inj character '0' (digits character (by simp)) (by decide)
      (by exact_mod_cast here)
    exact absurd (by simp [same]) trimmed

/-- An expansion without trailing zeros is determined by its value. -/
theorem fractional_injective (left right : List Char) (leftDigits : Digits left)
    (rightDigits : Digits right) (leftTrimmed : Trimmed left) (rightTrimmed : Trimmed right)
    (same : fractional left = fractional right) : left = right := by
  induction left generalizing right with
  | nil => exact (eq_nil_of_fractional_eq_zero right rightTrimmed rightDigits same.symm).symm
  | cons character rest ih =>
    cases right with
    | nil => exact eq_nil_of_fractional_eq_zero _ leftTrimmed leftDigits same
    | cons other more =>
      have leftRest : Digits rest := fun next member => leftDigits next (by simp [member])
      have rightRest : Digits more := fun next member => rightDigits next (by simp [member])
      simp only [fractional] at same
      have sums : (digit character : ℚ) + fractional rest = digit other + fractional more := by linarith
      have bounds := fractional_lt_one rest leftRest
      have boundsOther := fractional_lt_one more rightRest
      have nonneg := fractional_nonneg rest
      have nonnegOther := fractional_nonneg more
      have first : digit character = digit other := by
        have lower : (digit character : ℚ) < digit other + 1 := by linarith
        have upper : (digit other : ℚ) < digit character + 1 := by linarith
        have lowerNat : digit character < digit other + 1 := by exact_mod_cast lower
        have upperNat : digit other < digit character + 1 := by exact_mod_cast upper
        omega
      have rests : fractional rest = fractional more := by
        rw [first] at sums
        linarith
      rw [digit_inj character other (leftDigits character (by simp)) (rightDigits other (by simp)) first,
        ih more leftRest rightRest leftTrimmed.tail rightTrimmed.tail rests]

/-! Long division. -/

/-- The digits behind the point of `remainder / divisor`, until the remainder is zero. -/
def longDivision (divisor : ℕ) : ℕ → ℕ → Option (List Char)
  | 0, remainder => if remainder = 0 then some [] else none
  | rounds + 1, remainder =>
    if remainder = 0 then some []
    else (longDivision divisor rounds (remainder * 10 % divisor)).map fun digits =>
      Nat.toDigits 10 (remainder * 10 / divisor) ++ digits

theorem longDivision_ends (divisor rounds remainder : ℕ) (below : remainder < divisor)
    (divides : divisor ∣ remainder * 10 ^ rounds) :
    ∃ text, longDivision divisor rounds remainder = some text ∧ Digits text ∧ Trimmed text ∧
      fractional text = (remainder : ℚ) / divisor := by
  induction rounds generalizing remainder with
  | zero =>
    have zero : remainder = 0 := Nat.eq_zero_of_dvd_of_lt (by simpa using divides) below
    exact ⟨[],by simp [longDivision,zero],by simp [Digits],by simp [Trimmed],by simp [fractional,zero]⟩
  | succ rounds ih =>
    by_cases zero : remainder = 0
    · exact ⟨[],by simp [longDivision,zero],by simp [Digits],by simp [Trimmed],by simp [fractional,zero]⟩
    have positive : 0 < divisor := by omega
    have next : remainder * 10 % divisor < divisor := Nat.mod_lt _ positive
    have split := Nat.div_add_mod (remainder * 10) divisor
    have digitSmall : remainder * 10 / divisor < 10 := by
      rw [Nat.div_lt_iff_lt_mul positive]
      omega
    have later : divisor ∣ remainder * 10 % divisor * 10 ^ rounds := by
      rw [pow_succ'] at divides
      have whole : remainder * (10 * 10 ^ rounds) =
          divisor * (remainder * 10 / divisor * 10 ^ rounds) + remainder * 10 % divisor * 10 ^ rounds := by
        calc remainder * (10 * 10 ^ rounds) = (remainder * 10) * 10 ^ rounds := by ring
          _ = (divisor * (remainder * 10 / divisor) + remainder * 10 % divisor) * 10 ^ rounds := by rw [split]
          _ = _ := by ring
      rw [whole] at divides
      exact (Nat.dvd_add_right (Dvd.intro _ rfl)).mp divides
    obtain ⟨text,found,digits,trimmed,value⟩ := ih _ next later
    have character : Nat.toDigits 10 (remainder * 10 / divisor) =
        [Nat.digitChar (remainder * 10 / divisor)] := Nat.toDigits_of_lt_base digitSmall
    refine ⟨Nat.digitChar (remainder * 10 / divisor) :: text,?_,?_,?_,?_⟩
    · rw [longDivision,if_neg zero,found,Option.map_some,character]
      rfl
    · intro other member
      obtain rfl | member := List.mem_cons.mp member
      · interval_cases remainder * 10 / divisor <;> decide
      · exact digits other member
    · cases text with
      | nil =>
        have last : remainder * 10 % divisor = 0 := by
          have none : ((remainder * 10 % divisor : ℕ) : ℚ) / divisor = 0 := by
            rw [← value]
            rfl
          rw [div_eq_zero_iff] at none
          obtain none | none := none
          · exact_mod_cast none
          · have impossible : divisor = 0 := by exact_mod_cast none
            omega
        intro zeroDigit
        have same : Nat.digitChar (remainder * 10 / divisor) = '0' := by simpa using zeroDigit
        have quotient := digit_digitChar _ digitSmall
        rw [same] at quotient
        have none : remainder * 10 / divisor = 0 := quotient.symm
        rw [none,last] at split
        omega
      | cons first more =>
        intro last
        apply trimmed
        rwa [List.getLast?_cons_cons] at last
    · rw [fractional,value,digit_digitChar _ digitSmall]
      have cast : ((divisor * (remainder * 10 / divisor) + remainder * 10 % divisor : ℕ) : ℚ) =
          (remainder * 10 : ℕ) := by rw [split]
      push_cast at cast
      have nonzero : (divisor : ℚ) ≠ 0 := by positivity
      field_simp
      linarith

/-! A factor taken out of a number. -/

/-- `while number % factor == 0: number //= factor`, with the number of rounds. -/
def stripFactor (factor : ℕ) : ℕ → ℕ → ℕ × ℕ
  | 0, number => (number,0)
  | rounds + 1, number =>
    if number % factor = 0 then
      let (rest,count) := stripFactor factor rounds (number / factor)
      (rest,count + 1)
    else (number,0)

theorem stripFactor_spec (factor rounds number : ℕ) (large : 1 < factor) (positive : 0 < number)
    (enough : number ≤ rounds) :
    (stripFactor factor rounds number).1 * factor ^ (stripFactor factor rounds number).2 = number ∧
      ¬factor ∣ (stripFactor factor rounds number).1 := by
  induction rounds generalizing number with
  | zero => omega
  | succ rounds ih =>
    rw [stripFactor]
    split
    case isTrue divides =>
      have exact' := Nat.div_mul_cancel (Nat.dvd_of_mod_eq_zero divides)
      have smaller : number / factor < number := Nat.div_lt_self positive large
      have more : 0 < number / factor := by
        apply Nat.pos_of_ne_zero
        intro none
        rw [none] at exact'
        omega
      obtain ⟨product,stop⟩ := ih (number / factor) more (by omega)
      refine ⟨?_,stop⟩
      simp only
      rw [pow_succ,← mul_assoc,product,exact']
    case isFalse stop =>
      refine ⟨by simp,?_⟩
      rwa [Nat.dvd_iff_mod_eq_zero]

end Foundation.DecimalExpansion
