import DynamicCssc.EffectiveRow

/-! The reduction loops of the compiler: they keep the draft well formed and leave a ciphertext with
the strided sums of the product. -/
namespace DynamicCssc
open Foundation CloudProgram

/-- The stored power `terms`: a plain ciphertext with so many terms of the sum. -/
def Power (R : Type) [CommRing R] (width : ℕ) (emission : Emission) (source : String) (stride : ℕ)
    (powers : List (ℕ × String)) (terms : ℕ) : Prop :=
  ∃ id, powers.lookup terms = some id ∧ Produced emission.nodes id CloudNode.isPlain ∧
    Sums R width emission source stride terms id

section
variable {R : Type} [CommRing R] {slotCount : ℕ} {needsMask : ShareIdentity → Bool}
  {selections cross : ℕ}

theorem Power.later {width : ℕ} {before after : Emission} {source : String} {stride : ℕ}
    {powers : List (ℕ × String)} {terms : ℕ} (extend : Extends before after)
    (power : Power R width before source stride powers terms) :
    Power R width after source stride powers terms := by
  obtain ⟨id,found,plain,sums⟩ := power
  exact ⟨id,found,Produced.mono extend.nodes plain,sums.later extend⟩

theorem Power.cons {width : ℕ} {emission : Emission} {source : String} {stride : ℕ}
    {powers : List (ℕ × String)} {terms : ℕ} (key : ℕ) (id : String) (differ : terms ≠ key)
    (power : Power R width emission source stride powers terms) :
    Power R width emission source stride ((key,id) :: powers) terms := by
  obtain ⟨old,found,facts⟩ := power
  exact ⟨old,by rw [Dict.lookup_cons_eq,if_neg differ,found],facts⟩

/-- What the doubling loop keeps: the powers of two up to the span, the last of them pending. -/
structure Doubled (R : Type) [CommRing R] (slotCount : ℕ) (needsMask : ShareIdentity → Bool)
    (selections cross ordinal width height : ℕ) (front : List String) (source : String)
    (span : ℕ) (powers : List (ℕ × String)) (emission : Emission) : Prop where
  power : ∃ exponent, span = 2 ^ exponent
  inside : span ≤ width
  stored : ∀ exponent, 2 ^ exponent ≤ span → Power R slotCount emission source height powers (2 ^ exponent)
  working : ∀ last, powers.lookup span = some last →
    Working slotCount needsMask (ordinal,span) selections cross (front ++ [last]) emission

theorem Doubled.step (ordinal width height : ℕ) (front : List String) (source : String)
    (fits : width * height ≤ slotCount) (tall : 0 < height) (span : ℕ) (powers : List (ℕ × String))
    (emission : Emission) (doubled : Doubled R slotCount needsMask selections cross ordinal width height
      front source span powers emission) (room : 2 * span ≤ width) :
    Doubled R slotCount needsMask selections cross ordinal width height front source (2 * span)
      ((2 * span,(Name.mk .ssaColumnSum ordinal (some span)).text) :: powers)
      (emission.rotateAdd ⟨.ssaRotate,ordinal,some span⟩ ⟨.ssaColumnSum,ordinal,some span⟩
        ((powers.lookup span).getD "") ((powers.lookup span).getD "") (span * height)) := by
  obtain ⟨exponent,isPower⟩ := doubled.power
  have positive : 0 < span := by rw [isPower]; positivity
  obtain ⟨last,found,plain,sums⟩ := doubled.stored exponent (by rw [isPower])
  rw [← isPower] at found sums
  rw [found,Option.getD_some]
  have extend := rotateAdd_extends ⟨.ssaRotate,ordinal,some span⟩ ⟨.ssaColumnSum,ordinal,some span⟩
    last last (span * height) emission
  refine ⟨⟨exponent + 1,by rw [isPower,pow_succ,mul_comm]⟩,room,?_,?_⟩
  · intro other below
    by_cases same : 2 ^ other = 2 * span
    · rw [same]
      refine ⟨_,by rw [Dict.lookup_cons_eq,if_pos rfl],?_,?_⟩
      · exact ⟨.addCiphertexts (Name.mk .ssaColumnSum ordinal (some span)).text last
          (Name.mk .ssaRotate ordinal (some span)).text,by simp [Emission.rotateAdd],rfl,rfl,rfl⟩
      · rw [two_mul]
        exact sums.rotateAdd sums positive positive _ _
    · have smaller : other < exponent + 1 := by
        have strict : 2 ^ other < 2 ^ (exponent + 1) := by
          rw [pow_succ,← isPower]
          omega
        exact (Nat.pow_lt_pow_iff_right (by omega)).mp strict
      refine Power.cons _ _ same (Power.later extend (doubled.stored other ?_))
      rw [isPower]
      exact Nat.pow_le_pow_right (by omega) (by omega)
  · intro next here
    rw [Dict.lookup_cons_eq,if_pos rfl,Option.some.injEq] at here
    rw [← here]
    refine (doubled.working last found).rotateAdd front last _ _ last _ (ordinal,2 * span) rfl (by simp; omega)
      (by simp) (by simp) (by simp [Issued]) (by simp [Issued]) (by simp [Issued,positive])
      (by simp [Issued,positive]) plain ⟨Nat.mul_pos positive tall,?_⟩
    calc span * height < 2 * span * height := Nat.mul_lt_mul_of_pos_right (by omega) tall
      _ ≤ width * height := Nat.mul_le_mul_right _ room
      _ ≤ slotCount := fits

private theorem doubleLoop_doubled (ordinal width height : ℕ) (front : List String) (source : String)
    (fits : width * height ≤ slotCount) (tall : 0 < height) (fuel span : ℕ) (powers : List (ℕ × String))
    (emission : Emission) (enough : width < span + fuel)
    (doubled : Doubled R slotCount needsMask selections cross ordinal width height front source span
      powers emission) :
    let out := Emission.doubleLoop ordinal width height fuel span powers emission
    Doubled R slotCount needsMask selections cross ordinal width height front source out.2.1 out.2.2 out.1 ∧
      width < 2 * out.2.1 ∧ Extends emission out.1 := by
  induction fuel generalizing span powers emission with
  | zero =>
    have := doubled.inside
    omega
  | succ fuel ih =>
    rw [Emission.doubleLoop]
    split
    · rename_i room
      have positive : 0 < span := by
        obtain ⟨exponent,isPower⟩ := doubled.power
        rw [isPower]
        positivity
      obtain ⟨final,large,extend⟩ := ih (2 * span) _ _ (by omega)
        (doubled.step ordinal width height front source fits tall span powers emission room)
      exact ⟨final,large,(rotateAdd_extends _ _ _ _ _ _).trans extend⟩
    · rename_i full
      exact ⟨doubled,by dsimp only; omega,Extends.refl _⟩

theorem low_bits (number bit : ℕ) : number % 2 ^ (bit + 1) =
    (if number &&& 2 ^ bit ≠ 0 then 2 ^ bit else 0) + number % 2 ^ bit := by
  rw [Nat.mod_pow_succ,← Nat.toNat_testBit,Nat.and_two_pow,add_comm]
  cases number.testBit bit <;> simp

/-- What the prefix loop keeps: the columns covered so far are the pending sum. -/
private theorem prefixLoop_sums (ordinal width height : ℕ) (front : List String) (source : String)
    (fits : width * height ≤ slotCount) (tall : 0 < height) (powers : List (ℕ × String))
    (fuel bits covered : ℕ) (accumulated : String) (emission : Emission) (enough : bits ≤ fuel)
    (rest : width = covered + width % 2 ^ bits) (positive : 0 < covered)
    (stored : ∀ exponent < bits, Power R slotCount emission source height powers (2 ^ exponent))
    (sums : Sums R slotCount emission source height covered accumulated)
    (working : Working slotCount needsMask (ordinal,covered) selections cross (front ++ [accumulated])
      emission) :
    let out := Emission.prefixLoop ordinal width height powers fuel (2 ^ bits / 2) covered accumulated
      emission
    Sums R slotCount out.1 source height width out.2 ∧ Extends emission out.1 ∧
      Working slotCount needsMask (ordinal,width) selections cross (front ++ [out.2]) out.1 := by
  induction fuel generalizing bits covered accumulated emission with
  | zero =>
    have none : bits = 0 := by omega
    subst none
    have all : covered = width := by omega
    subst all
    exact ⟨sums,Extends.refl _,working⟩
  | succ fuel ih =>
    cases bits with
    | zero =>
      have all : covered = width := by omega
      subst all
      exact ⟨sums,Extends.refl _,working⟩
    | succ bit =>
      have half : 2 ^ (bit + 1) / 2 = 2 ^ bit := by
        rw [pow_succ]
        omega
      have nonzero : 2 ^ bit ≠ 0 := by positivity
      have low := low_bits width bit
      rw [half,Emission.prefixLoop,if_neg nonzero]
      split
      · rename_i set
        rw [if_pos set] at low
        obtain ⟨id,found,plain,powerSums⟩ := stored bit (by omega)
        rw [found,Option.getD_some]
        have extend := rotateAdd_extends ⟨.ssaRotate,ordinal,some covered⟩
          ⟨.ssaColumnSum,ordinal,some covered⟩ id accumulated (covered * height) emission
        have room : covered < width := by omega
        have next := working.rotateAdd front accumulated ⟨.ssaRotate,ordinal,some covered⟩
          ⟨.ssaColumnSum,ordinal,some covered⟩ id (covered * height) (ordinal,covered + 2 ^ bit) rfl
          (by simp) (by simp) (by simp) (by simp [Issued]) (by simp [Issued])
          (by simp [Issued]) (by simp [Issued]) plain
          ⟨Nat.mul_pos positive tall,lt_of_lt_of_le (Nat.mul_lt_mul_of_pos_right room tall) fits⟩
        obtain ⟨final,grown,done⟩ := ih bit (covered + 2 ^ bit) _ _ (by omega) (by omega) (by omega)
          (fun exponent below => (stored exponent (by omega)).later extend)
          (sums.rotateAdd powerSums (by positivity) positive _ _) next
        exact ⟨final,extend.trans grown,done⟩
      · rename_i clear
        rw [if_neg clear] at low
        exact ih bit covered accumulated emission (by omega) (by omega) positive
          (fun exponent below => stored exponent (by omega)) sums working

theorem appendCsscReduction_sums (R : Type) [CommRing R] (ordinal width height : ℕ) (front : List String) (source : String)
    (wide : 0 < width) (tall : 0 < height) (fits : width * height ≤ slotCount) (emission : Emission)
    (working : Working slotCount needsMask (ordinal,1) selections cross (front ++ [source]) emission) :
    let out := emission.appendCsscReduction ordinal source width height
    Sums R slotCount out.1 source height width out.2 ∧ Extends emission out.1 ∧
      Working slotCount needsMask (ordinal,width) selections cross (front ++ [out.2]) out.1 := by
  rw [Emission.appendCsscReduction]
  split
  · rename_i one
    subst one
    exact ⟨Sums.single _ _ _ _,Extends.refl _,working⟩
  · have plain := Produced.weaken final_plain (working.final source (by simp))
    have start : Doubled R slotCount needsMask selections cross ordinal width height front source 1
        [(1,source)] emission := by
      refine ⟨⟨0,rfl⟩,wide,?_,?_⟩
      · intro exponent below
        have zero : 2 ^ exponent = 1 := le_antisymm below Nat.one_le_two_pow
        rw [zero]
        exact ⟨source,by simp,plain,Sums.single _ _ _ _⟩
      · intro last found
        rw [Dict.lookup_cons_eq,if_pos rfl,Option.some.injEq] at found
        rw [← found]
        exact working
    obtain ⟨doubled,large,extend⟩ := doubleLoop_doubled ordinal width height front source fits tall
      width 1 [(1,source)] emission (by omega) start
    generalize Emission.doubleLoop ordinal width height width 1 [(1,source)] emission = out at *
    obtain ⟨after,span,powers⟩ := out
    obtain ⟨exponent,isPower⟩ := doubled.power
    dsimp only at *
    subst isPower
    obtain ⟨last,found,_,sums⟩ := doubled.stored exponent le_rfl
    rw [found,Option.getD_some]
    have rest : width = 2 ^ exponent + width % 2 ^ exponent := by
      have inside := doubled.inside
      rw [Nat.mod_eq_sub_mod inside,Nat.mod_eq_of_lt (by omega)]
      omega
    obtain ⟨final,grown,done⟩ := prefixLoop_sums ordinal width height front source fits tall powers
      (2 ^ exponent) exponent (2 ^ exponent) last after (Nat.lt_two_pow_self).le rest (by positivity)
      (fun other below => doubled.stored other (Nat.pow_le_pow_right (by omega) below.le)) sums
      (doubled.working last found)
    exact ⟨final,extend.trans grown,done⟩

theorem segmentLoop_sums (R : Type) [CommRing R] (ordinal segmentWidth : ℕ) (front : List String) (source : String)
    (fits : segmentWidth ≤ slotCount) (rounds : ℕ) (isPower : segmentWidth = 2 ^ rounds)
    (fuel shift : ℕ) (accumulated : String) (emission : Emission) (done : ℕ)
    (power : shift = 2 ^ done) (inside : shift ≤ segmentWidth) (enough : segmentWidth < shift + fuel)
    (sums : Sums R slotCount emission source 1 shift accumulated)
    (working : Working slotCount needsMask (ordinal,shift) selections cross (front ++ [accumulated])
      emission) :
    let out := Emission.segmentLoop ordinal segmentWidth fuel shift accumulated emission
    Sums R slotCount out.1 source 1 segmentWidth out.2 ∧ Extends emission out.1 ∧
      Working slotCount needsMask (ordinal,segmentWidth) selections cross (front ++ [out.2]) out.1 := by
  induction fuel generalizing shift accumulated emission done with
  | zero => omega
  | succ fuel ih =>
    rw [Emission.segmentLoop]
    split
    · rename_i room
      have positive : 0 < shift := by rw [power]; positivity
      have doubles : 2 * shift ≤ segmentWidth := by
        have fewer : done < rounds := by
          rw [power,isPower] at room
          exact (Nat.pow_lt_pow_iff_right (by omega)).mp room
        rw [power,isPower,← pow_succ']
        exact Nat.pow_le_pow_right (by omega) fewer
      have plain := Produced.weaken final_plain (working.final accumulated (by simp))
      have next := working.rotateAdd front accumulated ⟨.ssaRotate,ordinal,some shift⟩
        ⟨.ssaSegmentSum,ordinal,some (2 * shift)⟩ accumulated shift (ordinal,2 * shift) rfl
        (by simp; omega) (by simp) (by simp) (by simp [Issued]) (by simp [Issued])
        (by simp [Issued,positive]) (by simp [Issued,positive]) plain ⟨positive,by omega⟩
      have longer := sums.rotateAdd sums positive positive ⟨.ssaRotate,ordinal,some shift⟩
        ⟨.ssaSegmentSum,ordinal,some (2 * shift)⟩
      rw [mul_one,← two_mul] at longer
      obtain ⟨final,grown,kept⟩ := ih (2 * shift) _ _ (done + 1) (by rw [power,pow_succ']) doubles
        (by omega) longer next
      exact ⟨final,(rotateAdd_extends _ _ _ _ _ _).trans grown,kept⟩
    · rename_i full
      have same : shift = segmentWidth := by omega
      subst same
      exact ⟨sums,Extends.refl _,working⟩

end
end DynamicCssc
