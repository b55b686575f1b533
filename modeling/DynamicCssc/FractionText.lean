import DynamicCssc.Failure
import DynamicCssc.Foundation.Decimal
import DynamicCssc.Foundation.DecimalExpansion
import DynamicCssc.Foundation.Json

/-! The exact-rational texts: the encoder and decoder of `publication_statistics`, and the
long-division encoder and its checker in `publication_day1b` and `publication_day1b_f1m_aggregation`. -/
namespace DynamicCssc.FractionText
open Foundation Foundation.DecimalExpansion Foundation.Checked

/-- `Fraction(text)`, as far as the code relies on it: integer, decimal and n/d literals have their
value. `none` stands for `ValueError` and `ZeroDivisionError`. It is the constructor of an interpreter
whose limit on the digits of an integer's text is lifted. -/
structure FractionConstructor where
  parse : String → Option ℚ
  integer : ∀ whole, whole ≠ [] → Digits whole →
    parse (String.ofList whole) = some (Nat.ofDigitChars 10 whole 0 : ℚ)
  decimal : ∀ whole part, whole ≠ [] → part ≠ [] → Digits whole → Digits part →
    parse (String.ofList (whole ++ '.' :: part)) =
      some ((Nat.ofDigitChars 10 whole 0 : ℚ) + (Nat.ofDigitChars 10 part 0 : ℚ) / 10 ^ part.length)
  ratio : ∀ numerator denominator, numerator ≠ [] → denominator ≠ [] → Digits numerator →
    Digits denominator → Nat.ofDigitChars 10 denominator 0 ≠ 0 →
    parse (String.ofList (numerator ++ '/' :: denominator)) =
      some ((Nat.ofDigitChars 10 numerator 0 : ℚ) / (Nat.ofDigitChars 10 denominator 0 : ℚ))

/-- The literals without sign and exponent, as `Fraction` reads them. -/
def literalValue (text : String) : Option ℚ :=
  let whole := text.toList.takeWhile Char.isDigit
  match text.toList.dropWhile Char.isDigit with
  | [] => if whole = [] then none else some (Nat.ofDigitChars 10 whole 0 : ℚ)
  | '.' :: part => if whole ≠ [] ∧ part ≠ [] ∧ part.all Char.isDigit = true then
      some ((Nat.ofDigitChars 10 whole 0 : ℚ) + (Nat.ofDigitChars 10 part 0 : ℚ) / 10 ^ part.length)
    else none
  | '/' :: denominator => if whole ≠ [] ∧ denominator ≠ [] ∧ denominator.all Char.isDigit = true ∧
        Nat.ofDigitChars 10 denominator 0 ≠ 0 then
      some ((Nat.ofDigitChars 10 whole 0 : ℚ) / (Nat.ofDigitChars 10 denominator 0 : ℚ))
    else none
  | _ => none

private theorem digits_span (whole rest : List Char) (digits : Digits whole)
    (stop : ∀ character, rest.head? = some character → character.isDigit = false) :
    (whole ++ rest).takeWhile Char.isDigit = whole ∧
      (whole ++ rest).dropWhile Char.isDigit = rest := by
  rw [List.takeWhile_append_of_pos digits,List.dropWhile_append_of_pos digits]
  cases rest with
  | nil => simp
  | cons character rest => simp [stop character rfl]

def literals : FractionConstructor where
  parse := literalValue
  integer whole nonempty digits := by
    obtain ⟨front,back⟩ := digits_span whole [] digits (by simp)
    rw [List.append_nil] at front back
    simp only [literalValue,String.toList_ofList,front,back]
    exact if_neg nonempty
  decimal whole part nonempty some digits decimals := by
    obtain ⟨front,back⟩ := digits_span whole ('.' :: part) digits (by simp)
    simp only [literalValue,String.toList_ofList,front,back]
    exact if_pos ⟨nonempty,some,List.all_eq_true.mpr decimals⟩
  ratio numerator denominator nonempty some digits decimals nonzero := by
    obtain ⟨front,back⟩ := digits_span numerator ('/' :: denominator) digits (by simp)
    simp only [literalValue,String.toList_ofList,front,back]
    exact if_pos ⟨nonempty,some,List.all_eq_true.mpr decimals,nonzero⟩

/-- `f"{value.numerator}/{value.denominator}"`. -/
def ratioText (value : ℚ) : List Char :=
  Json.intText value.num ++ '/' :: Nat.toDigits 10 value.den

/-- `_fraction_text` of `publication_statistics`. -/
def fractionText (value : ℚ) : String :=
  if value = 0 then "0"
  else
    let (odd,powersOfTwo) := stripFactor 2 value.den value.den
    let (terminating,powersOfFive) := stripFactor 5 odd odd
    if terminating ≠ 1 then String.ofList (ratioText value)
    else
      let decimalPlaces := max powersOfTwo powersOfFive
      let scaledNumerator := value.num.natAbs * 2 ^ (decimalPlaces - powersOfTwo) *
        5 ^ (decimalPlaces - powersOfFive)
      let whole := scaledNumerator / 10 ^ decimalPlaces
      let fractional := scaledNumerator % 10 ^ decimalPlaces
      let sign := if value < 0 then ['-'] else []
      if fractional = 0 then String.ofList (sign ++ Nat.toDigits 10 whole)
      else String.ofList (sign ++ Nat.toDigits 10 whole ++ '.' ::
        (Decimal.padded decimalPlaces fractional).toList.rdropWhile (· == '0'))

/-- `_fraction_from_text`, given a string. -/
def fractionFromText (fraction : FractionConstructor) (value field : String) (positive : Bool) :
    Checked ℚ := do
  let parsed := (fraction.parse value).getD (-1)
  require (¬(parsed < 0 ∨ fractionText parsed ≠ value))
    ⟨.valueError,field ++ " must be a canonical nonnegative exact rational string"⟩
  require (¬(positive = true ∧ parsed ≤ 0)) ⟨.valueError,field ++ " must be positive"⟩
  return parsed

/-- The block that `publication_day1b` and `publication_day1b_f1m_aggregation` share: strip the
denominator, then divide digit by digit. Each digit takes away a factor, so the denominator bounds
the number of rounds. -/
def divisionText (value : ℚ) : Checked String :=
  let odd := (stripFactor 2 value.den value.den).1
  let terminating := (stripFactor 5 odd odd).1
  if terminating ≠ 1 then .ok (String.ofList (ratioText value))
  else
    let whole := value.num / (value.den : ℤ)
    match longDivision value.den value.den (value.num % (value.den : ℤ)).toNat with
    | none => .error ⟨.nonTermination,"_fraction_text"⟩
    | some digits => .ok (if digits = [] then String.ofList (Json.intText whole)
        else String.ofList (Json.intText whole ++ '.' :: digits))

/-- `_fraction_text` of `publication_day1b`. -/
def day1BFractionText (value : ℚ) : Checked String :=
  if value.den = 1 then .ok (String.ofList (Json.intText value.num)) else divisionText value

/-- `_canonical_fraction_text`, given a string. -/
def canonicalFractionText (fraction : FractionConstructor) (value field : String) :
    Checked String := do
  require (¬value = "") ⟨.day1BF1MAggregationError,field ++ " must be an exact positive rational"⟩
  match fraction.parse value with
  | none => .error ⟨.day1BF1MAggregationError,field ++ " must be an exact positive rational"⟩
  | some parsed => do
    require (¬parsed ≤ 0) ⟨.day1BF1MAggregationError,field ++ " must be an exact positive rational"⟩
    let expected ← divisionText parsed
    require (value = expected) ⟨.day1BF1MAggregationError,field ++ " is not canonical"⟩
    return value

/-! The two kinds of text. -/

def Smooth (denominator : ℕ) : Prop := ∀ prime, prime.Prime → prime ∣ denominator → prime = 2 ∨ prime = 5

def decimalText (whole : ℕ) (part : List Char) : List Char :=
  Nat.toDigits 10 whole ++ if part = [] then [] else '.' :: part

def FiniteDecimal (text : String) : Prop :=
  ∃ whole part, Digits part ∧ Trimmed part ∧ text = String.ofList (decimalText whole part)

theorem toDigits_digits (number : ℕ) : Digits (Nat.toDigits 10 number) :=
  fun _ member => Nat.isDigit_of_mem_toDigits (by norm_num) (by norm_num) member

theorem toDigits_ne_nil (number : ℕ) : Nat.toDigits 10 number ≠ [] := by
  rw [← List.length_pos_iff]
  exact Nat.length_toDigits_pos

private theorem intText_nonneg (value : ℤ) (nonneg : 0 ≤ value) :
    Json.intText value = Nat.toDigits 10 value.natAbs := by
  rw [Json.intText,if_neg (not_lt.mpr nonneg)]

/-- The loops of the encoders split the denominator into powers of 2 and 5 and a rest. -/
private theorem strip_den (denominator : ℕ) (positive : 0 < denominator) :
    let odd := stripFactor 2 denominator denominator
    let terminating := stripFactor 5 odd.1 odd.1
    terminating.1 * 5 ^ terminating.2 * 2 ^ odd.2 = denominator ∧
      (terminating.1 = 1 ↔ Smooth denominator) := by
  intro odd terminating
  obtain ⟨twos,noTwo⟩ := stripFactor_spec 2 denominator denominator (by norm_num) positive le_rfl
  have oddPositive : 0 < odd.1 := by
    apply Nat.pos_of_ne_zero
    intro zero
    exact noTwo (zero ▸ dvd_zero 2)
  obtain ⟨fives,noFive⟩ := stripFactor_spec 5 odd.1 odd.1 (by norm_num) oddPositive le_rfl
  have product : terminating.1 * 5 ^ terminating.2 * 2 ^ odd.2 = denominator := by
    rw [fives,twos]
  refine ⟨product,?_,?_⟩
  · intro one prime isPrime divides
    rw [← product,one,one_mul] at divides
    obtain five | two := (Nat.Prime.dvd_mul isPrime).mp divides
    · exact .inr ((Nat.prime_dvd_prime_iff_eq isPrime (by norm_num)).mp
        (isPrime.dvd_of_dvd_pow five))
    · exact .inl ((Nat.prime_dvd_prime_iff_eq isPrime Nat.prime_two).mp (isPrime.dvd_of_dvd_pow two))
  · intro smooth
    by_contra more
    obtain ⟨prime,isPrime,divides⟩ := Nat.exists_prime_and_dvd more
    have whole : prime ∣ denominator := by
      rw [← product,mul_assoc]
      exact divides.mul_right _
    obtain rfl | rfl := smooth prime isPrime whole
    · have inOdd : 2 ∣ odd.1 := by
        rw [← fives]
        exact divides.mul_right _
      exact noTwo inOdd
    · exact noFive divides

section Nonnegative

variable (value : ℚ) (nonneg : 0 ≤ value)

private theorem num_natAbs (nonneg : 0 ≤ value) : (value.num.natAbs : ℤ) = value.num :=
  Int.natAbs_of_nonneg (Rat.num_nonneg.mpr nonneg)

private theorem num_cast (nonneg : 0 ≤ value) : ((value.num.natAbs : ℕ) : ℚ) = value.num := by
  rw [← Int.cast_natCast,num_natAbs value nonneg]

private theorem value_split (nonneg : 0 ≤ value) : value = (value.num.natAbs / value.den : ℕ) +
    ((value.num.natAbs % value.den : ℕ) : ℚ) / value.den := by
  have positive : (value.den : ℚ) ≠ 0 := by exact_mod_cast value.den_ne_zero
  have split : ((value.den * (value.num.natAbs / value.den) + value.num.natAbs % value.den : ℕ) : ℚ) =
      (value.num.natAbs : ℕ) := by rw [Nat.div_add_mod]
  push_cast at split
  have quotient : value = (value.num : ℚ) / value.den := (Rat.num_div_den value).symm
  conv => lhs; rw [quotient,← num_cast value nonneg,← split]
  field_simp

/-- What makes a list of digits the decimals of a rational. -/
structure Decimals (part : List Char) : Prop where
  digits : Digits part
  trimmed : Trimmed part
  value : fractional part = ((value.num.natAbs % value.den : ℕ) : ℚ) / value.den

theorem Decimals.unique {part other : List Char} (first : Decimals value part)
    (second : Decimals value other) : part = other :=
  fractional_injective part other first.digits second.digits first.trimmed second.trimmed
    (first.value.trans second.value.symm)

private theorem fractionText_decimal (nonneg : 0 ≤ value) (smooth : Smooth value.den) :
    ∃ part, Decimals value part ∧
      fractionText value = String.ofList (decimalText (value.num.natAbs / value.den) part) := by
  by_cases zero : value = 0
  · subst zero
    exact ⟨[],⟨by simp [Digits],by simp [Trimmed],by simp [fractional]⟩,by decide⟩
  obtain ⟨product,finite⟩ := strip_den value.den value.den_pos
  unfold fractionText
  rw [if_neg zero]
  generalize stripFactor 2 value.den value.den = odd at *
  obtain ⟨odd,twos⟩ := odd
  simp only at product finite ⊢
  generalize stripFactor 5 odd odd = terminating at *
  obtain ⟨terminating,fives⟩ := terminating
  simp only at product finite ⊢
  have one : terminating = 1 := finite.mpr smooth
  rw [if_neg (not_not.mpr one),if_neg (not_lt.mpr nonneg),List.nil_append]
  generalize places : max twos fives = count
  -- the factor that makes the denominator a power of ten
  have ten : value.den * (2 ^ (count - twos) * 5 ^ (count - fives)) = 10 ^ count := by
    rw [← product,one,one_mul]
    calc 5 ^ fives * 2 ^ twos * (2 ^ (count - twos) * 5 ^ (count - fives))
        = (5 ^ fives * 5 ^ (count - fives)) * (2 ^ twos * 2 ^ (count - twos)) := by ring
      _ = 5 ^ count * 2 ^ count := by
          rw [← pow_add,← pow_add,Nat.add_sub_cancel' (by omega),Nat.add_sub_cancel' (by omega)]
      _ = 10 ^ count := by
          rw [← mul_pow]
          norm_num
  have factorPositive : 0 < 2 ^ (count - twos) * 5 ^ (count - fives) := by positivity
  generalize 2 ^ (count - twos) = two at *
  generalize 5 ^ (count - fives) = five at *
  have whole : value.num.natAbs * two * five / 10 ^ count = value.num.natAbs / value.den := by
    rw [← ten,mul_assoc,Nat.mul_div_mul_right _ _ factorPositive]
  have rest : value.num.natAbs * two * five % 10 ^ count =
      value.num.natAbs % value.den * (two * five) := by
    rw [← ten,mul_assoc,Nat.mul_mod_mul_right]
  have tenRat : (value.den : ℚ) * (two * five) = 10 ^ count := by exact_mod_cast ten
  have positive : (value.den : ℚ) ≠ 0 := by exact_mod_cast value.den_ne_zero
  have below : value.num.natAbs * two * five % 10 ^ count < 10 ^ count := Nat.mod_lt _ (by positivity)
  rw [whole]
  split
  case isTrue none =>
    refine ⟨[],⟨by simp [Digits],by simp [Trimmed],?_⟩,by simp [decimalText]⟩
    rw [rest] at none
    have remainder : value.num.natAbs % value.den = 0 := by
      obtain none | none := Nat.mul_eq_zero.mp none
      · exact none
      · omega
    simp [fractional,remainder]
  case isFalse some =>
    have countPositive : 0 < count := by
      apply Nat.pos_of_ne_zero
      intro noPlaces
      rw [noPlaces,pow_zero,Nat.mod_one] at some
      exact some rfl
    have length := Decimal.padded_length count _ countPositive below
    have number := Decimal.padded_value count (value.num.natAbs * two * five % 10 ^ count)
    have digits : Digits (Decimal.padded count (value.num.natAbs * two * five % 10 ^ count)).toList :=
      fun character member => Decimal.padded_digits count _ character member
    generalize (Decimal.padded count (value.num.natAbs * two * five % 10 ^ count)).toList = text at *
    have decimals : Decimals value (text.rdropWhile (· == '0')) := by
      refine ⟨fun character member => digits character ((List.rdropWhile_prefix _ _).subset member),
        trimmed_rdropWhile text,?_⟩
      rw [fractional_rdropWhile,fractional_eq,length,number,rest,← tenRat]
      push_cast
      have factor : ((two : ℚ) * five) ≠ 0 := by exact_mod_cast factorPositive.ne'
      exact mul_div_mul_right _ _ factor
    refine ⟨_,decimals,?_⟩
    have nonempty : text.rdropWhile (· == '0') ≠ [] := by
      intro empty
      have zeroValue := decimals.value
      rw [empty,fractional] at zeroValue
      have remainder : ((value.num.natAbs % value.den : ℕ) : ℚ) = 0 := by
        obtain none | none := div_eq_zero_iff.mp zeroValue.symm
        · exact none
        · exact absurd none positive
      have remainderNat : value.num.natAbs % value.den = 0 := by exact_mod_cast remainder
      exact some (by rw [rest,remainderNat,zero_mul])
    rw [decimalText,if_neg nonempty]

/-- The long division of `publication_day1b` and its checker. -/
private theorem divisionText_decimal (nonneg : 0 ≤ value) (smooth : Smooth value.den) :
    ∃ part, Decimals value part ∧
      divisionText value = .ok (String.ofList (decimalText (value.num.natAbs / value.den) part)) := by
  obtain ⟨product,finite⟩ := strip_den value.den value.den_pos
  have one := finite.mpr smooth
  rw [one,one_mul] at product
  generalize (stripFactor 2 value.den value.den).2 = twos at product
  generalize (stripFactor 5 (stripFactor 2 value.den value.den).1
    (stripFactor 2 value.den value.den).1).2 = fives at product
  have divides : value.den ∣ value.num.natAbs % value.den * 10 ^ value.den := by
    have manyTwos : twos ≤ value.den := by
      calc twos ≤ 2 ^ twos := Nat.lt_two_pow_self.le
        _ ≤ 5 ^ fives * 2 ^ twos := Nat.le_mul_of_pos_left _ (by positivity)
        _ = value.den := product
    have manyFives : fives ≤ value.den := by
      calc fives ≤ 5 ^ fives := (Nat.lt_pow_self (by norm_num)).le
        _ ≤ 5 ^ fives * 2 ^ twos := Nat.le_mul_of_pos_right _ (by positivity)
        _ = value.den := product
    have ten : (10 : ℕ) ^ value.den = 5 ^ value.den * 2 ^ value.den := by
      rw [← mul_pow]
      norm_num
    have smoothDivides : 5 ^ fives * 2 ^ twos ∣ 5 ^ value.den * 2 ^ value.den :=
      mul_dvd_mul (pow_dvd_pow 5 manyFives) (pow_dvd_pow 2 manyTwos)
    rw [product,← ten] at smoothDivides
    exact smoothDivides.mul_left _
  obtain ⟨part,found,digits,trimmed,number⟩ := longDivision_ends value.den value.den
    (value.num.natAbs % value.den) (Nat.mod_lt _ value.den_pos) divides
  have remainder : (value.num % (value.den : ℤ)).toNat = value.num.natAbs % value.den := by
    conv => lhs; rw [← num_natAbs value nonneg]
    rw [← Int.natCast_mod,Int.toNat_natCast]
  have quotient : Json.intText (value.num / (value.den : ℤ)) =
      Nat.toDigits 10 (value.num.natAbs / value.den) := by
    conv => lhs; rw [← num_natAbs value nonneg]
    rw [← Int.natCast_div,intText_nonneg _ (by positivity),Int.natAbs_natCast]
  refine ⟨part,⟨digits,trimmed,number⟩,?_⟩
  simp only [divisionText,one,ne_eq,not_true_eq_false,if_false,remainder,found,quotient,decimalText]
  split <;> simp_all

private theorem divisionText_ratio (rough : ¬Smooth value.den) :
    divisionText value = .ok (String.ofList (ratioText value)) := by
  have more := mt (strip_den value.den value.den_pos).2.mp rough
  simp only [divisionText]
  rw [if_pos more]

private theorem fractionText_ratio (rough : ¬Smooth value.den) :
    fractionText value = String.ofList (ratioText value) := by
  have nonzero : value ≠ 0 := by
    rintro rfl
    apply rough
    intro prime isPrime divides
    exact absurd (Nat.eq_one_of_dvd_one divides) isPrime.one_lt.ne'
  have more := mt (strip_den value.den value.den_pos).2.mp rough
  unfold fractionText
  rw [if_neg nonzero]
  simp only
  rw [if_pos more]

private theorem divisionText_eq (nonneg : 0 ≤ value) : divisionText value = .ok (fractionText value) := by
  by_cases smooth : Smooth value.den
  · obtain ⟨part,decimals,text⟩ := fractionText_decimal value nonneg smooth
    obtain ⟨other,decimalsOther,textOther⟩ := divisionText_decimal value nonneg smooth
    rw [text,textOther,decimals.unique value decimalsOther]
  · rw [divisionText_ratio value smooth,fractionText_ratio value smooth]

private theorem day1BFractionText_eq (nonneg : 0 ≤ value) :
    day1BFractionText value = .ok (fractionText value) := by
  unfold day1BFractionText
  split
  case isFalse => exact divisionText_eq value nonneg
  case isTrue whole =>
    rw [← divisionText_eq value nonneg]
    have none : longDivision 1 1 (value.num % ((1 : ℕ) : ℤ)).toNat = some [] := by simp [longDivision]
    have strip : (stripFactor 5 (stripFactor 2 1 1).1 (stripFactor 2 1 1).1).1 = 1 := rfl
    simp only [divisionText,whole,strip,none]
    simp

private theorem parse_fractionText (fraction : FractionConstructor) (nonneg : 0 ≤ value) :
    fraction.parse (fractionText value) = some value := by
  by_cases smooth : Smooth value.den
  · obtain ⟨part,decimals,text⟩ := fractionText_decimal value nonneg smooth
    have whole := Nat.ofDigitChars_ten_toDigits (n := value.num.natAbs / value.den)
    have split := value_split value nonneg
    rw [← decimals.value] at split
    rw [text,decimalText]
    by_cases empty : part = []
    · rw [if_pos empty,List.append_nil,fraction.integer _ (toDigits_ne_nil _) (toDigits_digits _),whole]
      rw [empty,fractional,add_zero] at split
      exact congrArg some split.symm
    · rw [if_neg empty,fraction.decimal _ _ (toDigits_ne_nil _) empty (toDigits_digits _)
        decimals.digits,whole,← fractional_eq]
      exact congrArg some split.symm
  · have positive : (value.den : ℚ) ≠ 0 := by exact_mod_cast value.den_ne_zero
    rw [fractionText_ratio value smooth,ratioText,intText_nonneg _ (Rat.num_nonneg.mpr nonneg),
      fraction.ratio _ _ (toDigits_ne_nil _) (toDigits_ne_nil _) (toDigits_digits _)
        (toDigits_digits _) (by rw [Nat.ofDigitChars_ten_toDigits]; exact value.den_ne_zero),
      Nat.ofDigitChars_ten_toDigits,Nat.ofDigitChars_ten_toDigits]
    rw [num_cast value nonneg,Rat.num_div_den]

/-- The text is a finite decimal exactly when the denominator allows one. -/
private theorem fractionText_finite (nonneg : 0 ≤ value) :
    FiniteDecimal (fractionText value) ↔ Smooth value.den := by
  constructor
  · intro ⟨whole,part,digits,_,text⟩
    by_contra rough
    rw [fractionText_ratio value rough,String.ofList_inj] at text
    have slash : '/' ∈ decimalText whole part := by
      rw [← text]
      simp [ratioText]
    obtain inside | inside := List.mem_append.mp slash
    · exact absurd (toDigits_digits _ _ inside) (by decide)
    · split at inside
      · exact absurd inside (by simp)
      · obtain point | inside := List.mem_cons.mp inside
        · exact absurd point (by decide)
        · exact absurd (digits _ inside) (by decide)
  · intro smooth
    obtain ⟨part,decimals,text⟩ := fractionText_decimal value nonneg smooth
    exact ⟨_,part,decimals.digits,decimals.trimmed,text⟩

end Nonnegative

private theorem fractionFromText_success (fraction : FractionConstructor) (value field : String)
    (positive : Bool) (result : ℚ) : fractionFromText fraction value field positive = .ok result →
      0 ≤ result ∧ value = fractionText result := by
  intro accepted
  obtain ⟨canonical,accepted⟩ := (then_success _ _ _).mp accepted
  obtain ⟨_,same⟩ := (then_success _ _ _).mp accepted
  obtain rfl := Except.ok.inj same
  rw [require_success] at canonical
  obtain ⟨nonneg,text⟩ := not_or.mp canonical
  exact ⟨not_lt.mp nonneg,(not_not.mp text).symm⟩

/-- Each nonnegative rational has one accepted text, the same in all three modules. -/
theorem fraction_texts_exact (fraction : FractionConstructor) :
    (∀ (value : ℚ) (field : String), 0 ≤ value →
      fractionFromText fraction (fractionText value) field false = .ok value) ∧
    (∀ (text field : String) (positive : Bool) (value : ℚ),
      fractionFromText fraction text field positive = .ok value →
        0 ≤ value ∧ text = fractionText value) ∧
    (∀ value : ℚ, 0 ≤ value → (FiniteDecimal (fractionText value) ↔ Smooth value.den) ∧
      (¬Smooth value.den → fractionText value = String.ofList (ratioText value))) ∧
    (∀ value : ℚ, 0 < value → day1BFractionText value = .ok (fractionText value)) ∧
    ∀ (text field result : String), canonicalFractionText fraction text field = .ok result ↔
      result = text ∧ ∃ value, 0 < value ∧ text = fractionText value := by
  refine ⟨?_,fractionFromText_success fraction,?_,?_,?_⟩
  · intro value field nonneg
    unfold fractionFromText
    rw [parse_fractionText value fraction nonneg,Option.getD_some]
    refine pass _ _ _ (require_true _ _ (not_or.mpr ⟨not_lt.mpr nonneg,by simp⟩)) ?_
    exact pass _ _ _ (require_true _ _ (by simp)) rfl
  · intro value nonneg
    exact ⟨fractionText_finite value nonneg,fractionText_ratio value⟩
  · intro value positive
    exact day1BFractionText_eq value positive.le
  · intro text field result
    constructor
    · intro accepted
      obtain ⟨_,accepted⟩ := (then_success _ _ _).mp accepted
      split at accepted
      · exact absurd accepted (by simp)
      next value found =>
      obtain ⟨positive,accepted⟩ := (then_success _ _ _).mp accepted
      rw [require_success,not_le] at positive
      rw [divisionText_eq value positive.le,ok_bind] at accepted
      obtain ⟨same,last⟩ := (then_success _ _ _).mp accepted
      rw [require_success] at same
      exact ⟨(Except.ok.inj last).symm,value,positive,same⟩
    · intro ⟨same,value,positive,text⟩
      subst same
      subst text
      have found := parse_fractionText value fraction positive.le
      refine pass _ _ _ (require_true _ _ ?_) ?_
      · intro empty
        by_cases smooth : Smooth value.den
        · obtain ⟨part,_,text⟩ := fractionText_decimal value positive.le smooth
          rw [text,← String.toList_inj,String.toList_ofList] at empty
          exact toDigits_ne_nil _ (List.append_eq_nil_iff.mp empty).1
        · rw [fractionText_ratio value smooth,← String.toList_inj,String.toList_ofList] at empty
          exact absurd empty (by simp [ratioText])
      · simp only [found]
        refine pass _ _ _ (require_true _ _ (not_le.mpr positive)) ?_
        rw [divisionText_eq value positive.le,ok_bind]
        exact pass _ _ _ (require_true _ _ rfl) rfl

theorem fraction_texts_threeEighths :
    fractionFromText literals (fractionText (3 / 8)) "ratio" false = .ok (3 / 8) ∧
      day1BFractionText (3 / 8) = .ok (fractionText (3 / 8)) :=
  ⟨(fraction_texts_exact literals).1 (3 / 8) "ratio" (by norm_num),
    (fraction_texts_exact literals).2.2.2.1 (3 / 8) (by norm_num)⟩

example : fractionText (3 / 8) = "0.375" := by decide +kernel

end DynamicCssc.FractionText
