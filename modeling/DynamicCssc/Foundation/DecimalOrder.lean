import DynamicCssc.Foundation.Decimal

/-! The text order of zero-padded decimal numerals beyond the padded width. There a numeral can be longer
than another, and what counts is how the shorter one compares with the first digits of the longer one. -/
namespace Foundation.Decimal

def numeralWidth (width number : ℕ) : ℕ := max width (Nat.toDigits 10 number).length

/-- The numeral of the smaller number comes first in the order of texts. -/
def Precedes (width left right : ℕ) : Prop :=
  left ≤ right / 10 ^ (numeralWidth width right - numeralWidth width left)

instance (width left right : ℕ) : Decidable (Precedes width left right) := by
  unfold Precedes
  infer_instance

private theorem padded_width (width number : ℕ) : (padded width number).toList.length = numeralWidth width number := by
  rw [padded_toList,List.length_leftpad,numeralWidth]

theorem append_lt_append_iff {α : Type} [LinearOrder α] (left right restl restr : List α)
    (size : left.length = right.length) :
    left ++ restl < right ++ restr ↔ left < right ∨ (left = right ∧ restl < restr) := by
  induction left generalizing right with
  | nil =>
    cases right with
    | nil => simp
    | cons head right => simp at size
  | cons first left ih =>
    cases right with
    | nil => simp at size
    | cons other right =>
      rw [List.cons_append,List.cons_append,List.cons_lt_cons_iff,List.cons_lt_cons_iff,
        ih right (by simpa using size),List.cons.injEq]
      tauto

private theorem padded_front (width number size : ℕ) :
    Nat.ofDigitChars 10 ((padded width number).toList.take size) 0 =
      number / 10 ^ (numeralWidth width number - size) := by
  have value := padded_value width number
  have length := padded_width width number
  have tail : ((padded width number).toList.drop size).length = numeralWidth width number - size := by
    rw [List.length_drop,length]
  have below := value_bound ((padded width number).toList.drop size) fun char member =>
    padded_digits width number char (List.mem_of_mem_drop member)
  rw [← List.take_append_drop size (padded width number).toList,Nat.ofDigitChars_append,
    Nat.ofDigitChars_eq_ofDigitChars_zero,tail] at value
  rw [tail] at below
  generalize (padded width number).toList.take size = front at *
  generalize numeralWidth width number - size = rest at *
  rw [← value,Nat.mul_add_div (by positivity),Nat.div_eq_of_lt below,Nat.add_zero]

private theorem numeralWidth_mono (width left right : ℕ) (less : left < right) :
    numeralWidth width left ≤ numeralWidth width right := by
  have digits : (Nat.toDigits 10 left).length ≤ (Nat.toDigits 10 right).length := by
    have positive := Nat.length_toDigits_pos (b := 10) (n := right)
    have bound := (Nat.length_toDigits_le_iff (n := right) (by omega) positive).mp le_rfl
    exact (Nat.length_toDigits_le_iff (by omega) positive).mpr (less.trans bound)
  exact max_le_max_left width digits

/-- Numerals in front of texts that start, if at all, with a character below the digits. -/
theorem padded_precedes (width left right : ℕ) (restl restr : List Char) (less : left < right)
    (low : ∀ char ∈ restl.head?, char < '0') :
    (padded width left).toList ++ restl < (padded width right).toList ++ restr ↔
      Precedes width left right := by
  have longer := numeralWidth_mono width left right less
  have lengths := padded_width width left
  obtain ⟨front,back,parted,size⟩ : ∃ front back, (padded width right).toList = front ++ back ∧
      front.length = numeralWidth width left :=
    ⟨_,_,(List.take_append_drop (numeralWidth width left) _).symm,by
      rw [List.length_take,padded_width,min_eq_left longer]⟩
  have value := padded_front width right (numeralWidth width left)
  have digits : ∀ char ∈ front ++ back, char.isDigit := parted ▸ padded_digits width right
  have frontDigits : ∀ char ∈ front, char.isDigit := fun char member => digits char (by simp [member])
  rw [parted,List.take_left' size] at value
  have same : (padded width left).toList = front ↔ left = Nat.ofDigitChars 10 front 0 := by
    have forward := digits_lt_iff _ _ (lengths.trans size.symm) (padded_digits width left) frontDigits
    have backward := digits_lt_iff _ _ (size.trans lengths.symm) frontDigits (padded_digits width left)
    rw [padded_value] at forward backward
    constructor
    · intro equal
      rw [← equal,padded_value]
    · intro equal
      exact le_antisymm (not_lt.mp (backward.not.mpr (by omega))) (not_lt.mp (forward.not.mpr (by omega)))
  rw [Precedes,parted,List.append_assoc,append_lt_append_iff _ _ _ _ (lengths.trans size.symm),
    digits_lt_iff _ _ (lengths.trans size.symm) (padded_digits width left) frontDigits,padded_value,same,
    ← value,le_iff_lt_or_eq]
  refine or_congr_right (and_iff_left_of_imp fun equal => ?_)
  -- the shorter text goes on below the digits or not at all
  cases back with
  | nil =>
    rw [List.append_nil] at parted
    have whole := padded_value width right
    rw [parted] at whole
    omega
  | cons digit back =>
    have isDigit := digits digit (by simp)
    simp only [Char.isDigit,Bool.and_eq_true,decide_eq_true_eq] at isDigit
    cases restl with
    | nil => exact List.nil_lt_cons _ _
    | cons mark restl => exact List.cons_lt_cons_iff.mpr (.inl ((low mark rfl).trans_le isDigit.1))

theorem precedes_of_lt (width left right : ℕ) (positive : 0 < width) (less : left < right)
    (small : right < 10 ^ width) : Precedes width left right := by
  have short (number : ℕ) (below : number < 10 ^ width) : numeralWidth width number = width :=
    max_eq_left ((Nat.length_toDigits_le_iff (by omega) positive).mpr below)
  rw [Precedes,short right small,short left (less.trans small),Nat.sub_self,pow_zero,Nat.div_one]
  exact less.le

end Foundation.Decimal
