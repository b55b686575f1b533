import DynamicCssc.CampaignDocument
import DynamicCssc.Foundation.ByteLayout
import DynamicCssc.Foundation.Loop
import DynamicCssc.Foundation.Shuffle
import Mathlib.Data.Int.CardIntervalMod

/-! `_Shake256CounterSampler` of `publication_statistics`: a stream of 64-byte blocks, read in
pieces of any width, from which bounded numbers are drawn by rejection; and the shuffle of
`calibration_operation_order` that draws from it. -/
namespace DynamicCssc.CounterSampler
open Foundation Foundation.ByteLayout Foundation.Checked

/-- SHAKE-256 as a function of the absorbed bytes and the digest size. -/
structure Shake256 where
  digest : List UInt8 → ℕ → List UInt8
  length : ∀ content size, (digest content size).length = size

structure Sampler where
  domain : List UInt8
  counter : ℕ
  buffer : List UInt8
deriving DecidableEq, Repr

/-- `__init__`. -/
def start (domain : Json) : Sampler := ⟨canonicalJsonBytes domain,0,[]⟩

/-- `counter.to_bytes(16, "big")`. -/
def counterBytes (counter : ℕ) : Checked (List UInt8) := do
  require (counter < 2 ^ 128) ⟨.overflowError,"int too big to convert"⟩
  return bigEndian 16 counter

/-- One round of the loop in `_read`. -/
def refill (shake : Shake256) (sampler : Sampler) : Checked Sampler := do
  let counter ← counterBytes sampler.counter
  return { sampler with
    buffer := sampler.buffer ++ shake.digest (sampler.domain ++ counter) 64
    counter := sampler.counter + 1 }

/-- `_read`. Every round adds 64 bytes, so `size` rounds are enough. -/
def read (shake : Shake256) (sampler : Sampler) (size : ℕ) : Checked (List UInt8 × Sampler) := do
  let sampler ← Loop.run (fun sampler => sampler.buffer.length < size) (refill shake)
    ⟨.nonTermination,"_read"⟩ size sampler
  return (sampler.buffer.take size,{ sampler with buffer := sampler.buffer.drop size })

def width (upperBound : ℕ) : ℕ := max 1 ((upperBound.size + 7) / 8)
def space (upperBound : ℕ) : ℕ := 1 <<< (8 * width upperBound)
def acceptanceLimit (upperBound : ℕ) : ℕ := space upperBound - space upperBound % upperBound

/-- The loop of `randbelow`. -/
def candidates (shake : Shake256) (upperBound : ℕ) : ℕ → Sampler → Checked (ℕ × Sampler)
  | 0, _ => .error ⟨.nonTermination,"randbelow"⟩
  | rounds + 1, sampler => do
    let (content,sampler) ← read shake sampler (width upperBound)
    let candidate := fromBigEndian content
    if candidate < acceptanceLimit upperBound then return (candidate % upperBound,sampler)
    else candidates shake upperBound rounds sampler

def randbelow (shake : Shake256) (rounds : ℕ) (sampler : Sampler) (upperBound : ℤ) :
    Checked (ℕ × Sampler) := do
  require (¬upperBound ≤ 0)
    ⟨.valueError,"sampler upper_bound must be a strict positive integer"⟩
  candidates shake upperBound.toNat rounds sampler

def calls (shake : Shake256) (rounds : ℕ) : List ℤ → Sampler → Checked (List ℕ × Sampler)
  | [], sampler => .ok ([],sampler)
  | bound :: bounds, sampler => do
    let (value,sampler) ← randbelow shake rounds sampler bound
    let (values,sampler) ← calls shake rounds bounds sampler
    return (value :: values,sampler)

def samplerSchema : String := "dynamic-cssc-publication-shake256-counter-sampler-v1"
def calibrationOperationOrderSeed : ℤ := 2026082302

def primitiveNames : List String := ["client_merge","client_reorder_element","decrypt",
  "deserialize_ciphertext","encode","encrypt","eval_add_ciphertext","eval_mult_plaintext_mask",
  "eval_mult_with_relinearization","eval_rotate","mask_map_element","mask_random_element",
  "query_vector_pack","serialize_ciphertext"]

def samplingDomain (analysisKind : String) (seed : ℤ) (semantics freshnessSeconds : Option String)
    (blockOrdinal : Option ℤ) : Json :=
  .obj ([("analysis_kind",.str analysisKind),("schema_version",.str samplerSchema),
    ("seed",.int seed)] ++
    (semantics.map fun value => ("semantics",.str value)).toList ++
    (freshnessSeconds.map fun value => ("freshness_seconds",.str value)).toList ++
    (blockOrdinal.map fun value => ("block_ordinal",.int value)).toList)

/-- `order[upper], order[selected] = order[selected], order[upper]`. -/
def swap {α : Type} (order : List α) (upper selected : ℕ) : Checked (List α) :=
  match order[upper]?,order[selected]? with
  | some one,some other => .ok ((order.set upper other).set selected one)
  | _,_ => .error ⟨.indexError,"list index out of range"⟩

/-- The loop of `calibration_operation_order`: `upper` runs over the given places. -/
def shuffleLoop {α : Type} (shake : Shake256) (rounds : ℕ) :
    List ℕ → Sampler → List α → Checked (List α × Sampler)
  | [], sampler, order => .ok (order,sampler)
  | upper :: uppers, sampler, order => do
    let (selected,sampler) ← randbelow shake rounds sampler (upper + 1)
    let order ← swap order upper selected
    shuffleLoop shake rounds uppers sampler order

def calibrationDomain (blockOrdinal : ℤ) : Json :=
  samplingDomain "calibration-operation-order" calibrationOperationOrderSeed none none (some blockOrdinal)

def calibrationOperationOrder (shake : Shake256) (rounds : ℕ) (blockOrdinal : ℤ) :
    Checked (List String) := do
  require (¬blockOrdinal < 0)
    ⟨.valueError,"calibration block ordinal must be a strict integer >= 0"⟩
  let sampler := start (calibrationDomain blockOrdinal)
  let (order,_) ← shuffleLoop shake rounds (Shuffle.places primitiveNames.length) sampler
    primitiveNames
  return order

/-! The stream, byte by byte. -/

section Stream

variable (shake : Shake256) (domain : List UInt8)

def block (counter : ℕ) : List UInt8 := shake.digest (domain ++ bigEndian 16 counter) 64

def blocks (count : ℕ) : List UInt8 := (List.range count).flatMap (block shake domain)

def byteAt (place : ℕ) : UInt8 := (block shake domain (place / 64)).getD (place % 64) 0

def bytesFrom (first count : ℕ) : List UInt8 := (List.range' first count).map (byteAt shake domain)

/-- The sampler after `used` bytes of its stream. -/
def samplerAt (used : ℕ) : Sampler :=
  ⟨domain,(used + 63) / 64,bytesFrom shake domain used (64 * ((used + 63) / 64) - used)⟩

/-- No counter is too large for 16 bytes before this many bytes are used. -/
def streamEnd : ℕ := 64 * 2 ^ 128

@[simp] theorem bytesFrom_length (first count : ℕ) :
    (bytesFrom shake domain first count).length = count := by
  simp [bytesFrom]

private theorem bytesFrom_append (first count more : ℕ) :
    bytesFrom shake domain first (count + more) =
      bytesFrom shake domain first count ++ bytesFrom shake domain (first + count) more := by
  rw [bytesFrom,bytesFrom,bytesFrom,← List.map_append,List.range'_append_1]

private theorem bytesFrom_take (first count more : ℕ) (fewer : more ≤ count) :
    (bytesFrom shake domain first count).take more = bytesFrom shake domain first more := by
  obtain ⟨rest,rfl⟩ := Nat.exists_eq_add_of_le fewer
  rw [bytesFrom_append,List.take_left' (by simp)]

private theorem bytesFrom_drop (first count more : ℕ) (fewer : more ≤ count) :
    (bytesFrom shake domain first count).drop more =
      bytesFrom shake domain (first + more) (count - more) := by
  obtain ⟨rest,rfl⟩ := Nat.exists_eq_add_of_le fewer
  rw [bytesFrom_append,List.drop_left' (by simp),Nat.add_sub_cancel_left]

private theorem block_eq (counter : ℕ) :
    block shake domain counter = bytesFrom shake domain (64 * counter) 64 := by
  have length : (block shake domain counter).length = 64 := shake.length _ _
  apply List.ext_getElem
  · rw [length,bytesFrom_length]
  · intro place inside _
    have quotient : (64 * counter + place) / 64 = counter := by omega
    have rest : (64 * counter + place) % 64 = place := by omega
    simp only [bytesFrom,List.getElem_map,List.getElem_range',byteAt,Nat.one_mul,quotient,rest]
    rw [List.getD_eq_getElem?_getD,List.getElem?_eq_getElem inside,Option.getD_some]

private theorem blocks_eq (count : ℕ) : blocks shake domain count = bytesFrom shake domain 0 (64 * count) := by
  induction count with
  | zero => rfl
  | succ count ih =>
    rw [blocks,List.range_succ,List.flatMap_append,← blocks,ih,List.flatMap_singleton,block_eq,
      Nat.mul_succ,bytesFrom_append,Nat.zero_add]

private theorem start_eq (domain : Json) : start domain = samplerAt shake (canonicalJsonBytes domain) 0 := rfl

private theorem refill_run (rounds size counter used : ℕ) (next : Sampler)
    (inside : used ≤ 64 * counter) (bounded : counter ≤ 2 ^ 128)
    (enough : size ≤ rounds + (64 * counter - used)) :
    Loop.run (fun sampler => sampler.buffer.length < size) (refill shake)
        ⟨.nonTermination,"_read"⟩ rounds
        ⟨domain,counter,bytesFrom shake domain used (64 * counter - used)⟩ = .ok next ↔
      max counter ((used + size + 63) / 64) ≤ 2 ^ 128 ∧
      next = ⟨domain,max counter ((used + size + 63) / 64),bytesFrom shake domain used
        (64 * max counter ((used + size + 63) / 64) - used)⟩ := by
  induction rounds generalizing counter with
  | zero =>
    have stop : max counter ((used + size + 63) / 64) = counter := by omega
    have full : ¬64 * counter - used < size := by omega
    rw [stop,and_iff_right bounded]
    simp [Loop.run,full,eq_comm]
  | succ rounds ih =>
    by_cases short : 64 * counter - used < size
    · simp only [Loop.run,bytesFrom_length,short,decide_true,if_true]
      by_cases small : counter < 2 ^ 128
      · have longer : bytesFrom shake domain used (64 * counter - used) ++
            shake.digest (domain ++ bigEndian 16 counter) 64 =
            bytesFrom shake domain used (64 * (counter + 1) - used) := by
          have place : used + (64 * counter - used) = 64 * counter := by omega
          have count : 64 * counter - used + 64 = 64 * (counter + 1) - used := by omega
          rw [← block,block_eq,← count,bytesFrom_append,place]
        have same : max (counter + 1) ((used + size + 63) / 64) =
            max counter ((used + size + 63) / 64) := by omega
        have made : refill shake ⟨domain,counter,bytesFrom shake domain used (64 * counter - used)⟩ =
            .ok ⟨domain,counter + 1,bytesFrom shake domain used (64 * (counter + 1) - used)⟩ := by
          refine (bind_success _ _ _).mpr
            ⟨bigEndian 16 counter,pass _ _ _ (require_true _ _ small) rfl,?_⟩
          rw [longer]
          rfl
        rw [made,ok_bind,ih (counter + 1) (by omega) (by omega) (by omega),same]
      · have refused : refill shake
            ⟨domain,counter,bytesFrom shake domain used (64 * counter - used)⟩ =
            .error ⟨.overflowError,"int too big to convert"⟩ := by
          simp only [refill,counterBytes,require,if_neg small]
          rfl
        rw [refused]
        constructor
        · intro absurd'
          exact absurd absurd' (by simp [bind,Except.bind])
        · rintro ⟨fits,_⟩
          omega
    · have stop : max counter ((used + size + 63) / 64) = counter := by omega
      rw [stop,and_iff_right bounded]
      simp [Loop.run,short,eq_comm]

private theorem read_success (used size : ℕ) (inside : used ≤ streamEnd) (content : List UInt8)
    (next : Sampler) : read shake (samplerAt shake domain used) size = .ok (content,next) ↔
      used + size ≤ streamEnd ∧ content = bytesFrom shake domain used size ∧
        next = samplerAt shake domain (used + size) := by
  unfold streamEnd at *
  have counters : max ((used + 63) / 64) ((used + size + 63) / 64) = (used + size + 63) / 64 := by
    omega
  rw [read,bind_success]
  constructor
  · intro ⟨filled,loop,same⟩
    obtain ⟨bounded,rfl⟩ := (refill_run shake domain size size ((used + 63) / 64) used filled
      (by omega) (by omega) (by omega)).mp loop
    rw [counters] at bounded same
    obtain ⟨taken,rest⟩ := Prod.mk.inj (Except.ok.inj same)
    rw [bytesFrom_take _ _ _ _ _ (by omega)] at taken
    refine ⟨by omega,taken.symm,?_⟩
    rw [← rest,bytesFrom_drop _ _ _ _ _ (by omega),samplerAt,Nat.sub_sub]
  · intro ⟨bounded,taken,rest⟩
    refine ⟨_,(refill_run shake domain size size ((used + 63) / 64) used _
      (by omega) (by omega) (by omega)).mpr ⟨by omega,rfl⟩,?_⟩
    rw [counters,bytesFrom_take _ _ _ _ _ (by omega),bytesFrom_drop _ _ _ _ _ (by omega),taken,rest,
      samplerAt,Nat.sub_sub]
    rfl

def Taken (used : ℕ) (content : List UInt8) : Prop :=
  used + content.length ≤ streamEnd ∧ content = bytesFrom shake domain used content.length

private theorem taken_append (used : ℕ) (content more : List UInt8) :
    Taken shake domain used (content ++ more) ↔
      Taken shake domain used content ∧ Taken shake domain (used + content.length) more := by
  unfold Taken
  rw [List.length_append,bytesFrom_append]
  constructor
  · intro ⟨bounded,same⟩
    obtain ⟨first,second⟩ := List.append_inj same (by simp)
    exact ⟨⟨by omega,first⟩,by omega,second⟩
  · intro ⟨⟨_,first⟩,bounded,second⟩
    exact ⟨by omega,by rw [← first,← second]⟩

/-- A number that was drawn: the candidates of one call, all but the last rejected. -/
def Drawn (upperBound value : ℕ) : List (List UInt8) → Prop
  | [] => False
  | content :: rest => content.length = width upperBound ∧
      if fromBigEndian content < acceptanceLimit upperBound then
        rest = [] ∧ value = fromBigEndian content % upperBound
      else Drawn upperBound value rest

/-- The candidates of a sequence of calls, at most `rounds` for each. -/
def Sampled (rounds : ℕ) : List ℤ → List ℕ → List (List (List UInt8)) → Prop
  | [], [], [] => True
  | bound :: bounds, value :: values, contents :: draws =>
    (0 < bound ∧ Drawn bound.toNat value contents ∧ contents.length ≤ rounds) ∧
      Sampled rounds bounds values draws
  | _, _, _ => False

private theorem candidates_success (upperBound rounds used value : ℕ) (inside : used ≤ streamEnd)
    (next : Sampler) :
    candidates shake upperBound rounds (samplerAt shake domain used) = .ok (value,next) ↔
      ∃ contents, Drawn upperBound value contents ∧ contents.length ≤ rounds ∧
        Taken shake domain used contents.flatten ∧
        next = samplerAt shake domain (used + contents.flatten.length) := by
  induction rounds generalizing used with
  | zero =>
    constructor
    · intro drawn
      exact absurd drawn (by simp [candidates])
    · intro ⟨contents,drawn,few,_⟩
      obtain rfl : contents = [] := by simpa using few
      exact absurd drawn id
  | succ rounds ih =>
    rw [candidates,bind_success]
    constructor
    · intro ⟨⟨content,sampler⟩,taken,drawn⟩
      obtain ⟨bounded,rfl,rfl⟩ := (read_success shake domain used _ inside content sampler).mp taken
      dsimp only at drawn
      have length := bytesFrom_length shake domain used (width upperBound)
      have here : Taken shake domain used (bytesFrom shake domain used (width upperBound)) := by
        rw [Taken,length]
        exact ⟨bounded,rfl⟩
      split at drawn
      case isTrue accepted =>
        obtain ⟨same,rest⟩ := Prod.mk.inj (Except.ok.inj drawn)
        refine ⟨[_],⟨length,?_⟩,by simp,by simpa using here,?_⟩
        · rw [if_pos accepted]
          exact ⟨rfl,same.symm⟩
        · simpa using rest.symm
      case isFalse rejected =>
        obtain ⟨contents,later,few,more,same⟩ := (ih (used + width upperBound) bounded).mp drawn
        refine ⟨_ :: contents,⟨length,?_⟩,by simpa using few,?_,?_⟩
        · rw [if_neg rejected]
          exact later
        · rw [List.flatten_cons,taken_append,length]
          exact ⟨here,more⟩
        · rw [same,List.flatten_cons,List.length_append,length,Nat.add_assoc]
    · intro ⟨contents,drawn,few,taken,same⟩
      match contents,drawn with
      | content :: rest,⟨length,drawn⟩ =>
        rw [List.flatten_cons,taken_append,length] at taken
        obtain ⟨⟨bounded,here⟩,more⟩ := taken
        rw [length] at bounded here
        refine ⟨(content,samplerAt shake domain (used + width upperBound)),
          (read_success shake domain used _ inside _ _).mpr ⟨bounded,here,rfl⟩,?_⟩
        split at drawn
        case isTrue accepted =>
          obtain ⟨rfl,rfl⟩ := drawn
          simp only [if_pos accepted]
          rw [same]
          simp [length,pure,Except.pure]
        case isFalse rejected =>
          simp only [if_neg rejected]
          refine (ih (used + width upperBound) bounded).mpr
            ⟨rest,drawn,by simpa using few,more,?_⟩
          rw [same,List.flatten_cons,List.length_append,length,Nat.add_assoc]

private theorem calls_success (rounds used : ℕ) (inside : used ≤ streamEnd) (bounds : List ℤ)
    (values : List ℕ) (next : Sampler) :
    calls shake rounds bounds (samplerAt shake domain used) = .ok (values,next) ↔
      ∃ draws, Sampled rounds bounds values draws ∧
        Taken shake domain used draws.flatten.flatten ∧
        next = samplerAt shake domain (used + draws.flatten.flatten.length) := by
  induction bounds generalizing used values with
  | nil =>
    constructor
    · intro done
      obtain ⟨rfl,rfl⟩ := Prod.mk.inj (Except.ok.inj done)
      exact ⟨[],trivial,⟨by simpa using inside,by simp [bytesFrom]⟩,by simp⟩
    · intro ⟨draws,sampled,_,same⟩
      match values,draws,sampled with
      | [],[],_ =>
        rw [same]
        rfl
  | cons bound bounds ih =>
    simp only [calls,randbelow,bind_success,require_success]
    constructor
    · intro ⟨⟨value,sampler⟩,⟨_,positive,drawn⟩,⟨others,last⟩,rest,same⟩
      obtain ⟨rfl,rfl⟩ := Prod.mk.inj (Except.ok.inj same)
      obtain ⟨contents,found,few,taken,rfl⟩ :=
        (candidates_success shake domain _ _ _ _ inside _).mp drawn
      obtain ⟨draws,sampled,more,final⟩ := (ih _ taken.1 others).mp rest
      refine ⟨contents :: draws,⟨⟨by omega,found,few⟩,sampled⟩,?_,?_⟩
      · rw [List.flatten_cons,List.flatten_append,taken_append]
        exact ⟨taken,more⟩
      · rw [List.flatten_cons,List.flatten_append,List.length_append,← Nat.add_assoc]
        exact final
    · intro ⟨draws,sampled,taken,same⟩
      match values,draws,sampled with
      | value :: others,contents :: draws,⟨⟨positive,found,few⟩,sampled⟩ =>
        rw [List.flatten_cons,List.flatten_append,taken_append] at taken
        obtain ⟨taken,more⟩ := taken
        rw [List.flatten_cons,List.flatten_append,List.length_append,← Nat.add_assoc] at same
        exact ⟨_,⟨(),by omega,(candidates_success shake domain _ _ _ _ inside _).mpr
          ⟨contents,found,few,taken,rfl⟩⟩,(others,next),
          (ih _ taken.1 others).mpr ⟨draws,sampled,more,same⟩,rfl⟩

/-- What was taken from the beginning, with the buffer behind it, is a whole number of blocks. -/
private theorem taken_blocks (content : List UInt8) (final : Sampler) :
    (Taken shake domain 0 content ∧ final = samplerAt shake domain (0 + content.length)) ↔
      content ++ final.buffer = blocks shake domain final.counter ∧ final.buffer.length < 64 ∧
        final.counter ≤ 2 ^ 128 ∧ final.domain = domain := by
  rw [blocks_eq]
  constructor
  · intro ⟨⟨bounded,same⟩,rest⟩
    unfold streamEnd at bounded
    subst rest
    simp only [samplerAt,bytesFrom_length,Nat.zero_add]
    refine ⟨?_,by omega,by omega,trivial⟩
    have whole : content.length + (64 * ((content.length + 63) / 64) - content.length) =
        64 * ((content.length + 63) / 64) := by omega
    conv => lhs; lhs; rw [same]
    rw [← whole,bytesFrom_append,Nat.zero_add,whole]
  · intro ⟨whole,short,bounded,same⟩
    have length := congrArg List.length whole
    rw [List.length_append,bytesFrom_length] at length
    have counter : (content.length + 63) / 64 = final.counter := by omega
    have buffer : final.buffer.length = 64 * final.counter - content.length := by omega
    rw [← length,bytesFrom_append,Nat.zero_add] at whole
    obtain ⟨first,second⟩ := List.append_inj whole (by simp)
    refine ⟨⟨by unfold streamEnd; omega,first⟩,?_⟩
    rw [samplerAt,Nat.zero_add,counter,← buffer,← second,← same]

end Stream

/-! The candidates of one bound, and the shuffle. -/

private theorem space_eq (upperBound : ℕ) : space upperBound = 256 ^ width upperBound := by
  rw [space,Nat.shiftLeft_eq,Nat.one_mul,pow_mul]
  norm_num

private theorem bound_le_space (upperBound : ℕ) : upperBound ≤ space upperBound := by
  have bits : upperBound.size ≤ 8 * width upperBound := by
    unfold width
    omega
  calc upperBound ≤ 2 ^ upperBound.size := (Nat.lt_size_self upperBound).le
    _ ≤ 2 ^ (8 * width upperBound) := Nat.pow_le_pow_right (by norm_num) bits
    _ = space upperBound := by rw [space,Nat.shiftLeft_eq,Nat.one_mul]

private theorem acceptanceLimit_eq (upperBound : ℕ) :
    acceptanceLimit upperBound = upperBound * (space upperBound / upperBound) := by
  have split := Nat.div_add_mod (space upperBound) upperBound
  rw [acceptanceLimit]
  omega

private theorem accepted_candidates (upperBound residue : ℕ) (below : residue < upperBound) :
    ((Finset.range (space upperBound)).filter fun candidate =>
      candidate < acceptanceLimit upperBound ∧ candidate % upperBound = residue).card =
      space upperBound / upperBound := by
  have positive : 0 < upperBound := by omega
  have limit : acceptanceLimit upperBound ≤ space upperBound := Nat.sub_le _ _
  have same : ((Finset.range (space upperBound)).filter fun candidate =>
      candidate < acceptanceLimit upperBound ∧ candidate % upperBound = residue) =
      (Finset.range (acceptanceLimit upperBound)).filter fun candidate =>
        candidate ≡ residue [MOD upperBound] := by
    ext candidate
    simp only [Finset.mem_filter,Finset.mem_range,Nat.ModEq,Nat.mod_eq_of_lt below]
    omega
  rw [same,← Nat.count_eq_card_filter_range,Nat.count_modEq_card _ positive,acceptanceLimit_eq,
    Nat.mul_div_cancel_left _ positive,Nat.mul_mod_right,if_neg (Nat.not_lt_zero _),Nat.add_zero]

private theorem fromBigEndian_bijOn (count : ℕ) :
    Set.BijOn fromBigEndian {content | content.length = count} {value | value < 256 ^ count} := by
  refine ⟨?_,?_,?_⟩
  · intro content length
    have small := fromBigEndian_lt content
    rwa [show content.length = count from length] at small
  · intro content length other lengthOther same
    rw [← bigEndian_fromBigEndian content,← bigEndian_fromBigEndian other,
      show content.length = count from length,show other.length = count from lengthOther,same]
  · intro value small
    exact ⟨bigEndian count value,bigEndian_length count value,fromBigEndian_bigEndian count value small⟩

private theorem candidates_lt (shake : Shake256) (upperBound rounds value : ℕ) (positive : 0 < upperBound)
    (sampler next : Sampler)
    (drawn : candidates shake upperBound rounds sampler = .ok (value,next)) : value < upperBound := by
  induction rounds generalizing sampler with
  | zero => exact absurd drawn (by simp [candidates])
  | succ rounds ih =>
    obtain ⟨⟨content,later⟩,_,drawn⟩ := (bind_success _ _ _).mp drawn
    dsimp only at drawn
    split at drawn
    · obtain ⟨rfl,_⟩ := Prod.mk.inj (Except.ok.inj drawn)
      exact Nat.mod_lt _ positive
    · exact ih later drawn

private theorem swap_success {α : Type} (order : List α) (upper selected : ℕ) (inside : upper < order.length)
    (below : selected ≤ upper) : swap order upper selected =
      .ok (Shuffle.exchange order upper selected) := by
  have second : selected < order.length := by omega
  simp [swap,Shuffle.exchange,List.getElem?_eq_getElem inside,List.getElem?_eq_getElem second]

/-- The shuffle draws its selections first and then makes the exchanges, as far as anyone can tell. -/
private theorem shuffleLoop_success {α : Type} (shake : Shake256) (rounds : ℕ) (uppers : List ℕ)
    (sampler final : Sampler) (order result : List α) (inside : ∀ upper ∈ uppers, upper < order.length) :
    shuffleLoop shake rounds uppers sampler order = .ok (result,final) ↔
      ∃ selections, calls shake rounds (uppers.map fun upper : ℕ => (upper : ℤ) + 1) sampler =
          .ok (selections,final) ∧
        List.Forall₂ (fun upper selected => selected ≤ upper) uppers selections ∧
        result = Shuffle.exchanges order (uppers.zip selections) := by
  induction uppers generalizing sampler order with
  | nil =>
    constructor
    · intro done
      obtain ⟨rfl,rfl⟩ := Prod.mk.inj (Except.ok.inj done)
      exact ⟨[],rfl,.nil,rfl⟩
    · intro ⟨selections,done,_,same⟩
      obtain ⟨rfl,rfl⟩ := Prod.mk.inj (Except.ok.inj done)
      rw [same]
      rfl
  | cons upper uppers ih =>
    have first := inside upper (by simp)
    have drawn_le : ∀ selected later, randbelow shake rounds sampler ((upper : ℤ) + 1) =
        .ok (selected,later) → selected ≤ upper := by
      intro selected later drawn
      obtain ⟨_,drawn⟩ := (then_success _ _ _).mp drawn
      have small := candidates_lt shake _ rounds selected (by omega) sampler later drawn
      omega
    have others : ∀ selected, ∀ other ∈ uppers,
        other < (Shuffle.exchange order upper selected).length := by
      intro selected other member
      rw [Shuffle.exchange_length]
      exact inside other (by simp [member])
    rw [List.map_cons]
    constructor
    · intro run
      obtain ⟨⟨selected,later⟩,drawn,run⟩ := (bind_success _ _ _).mp run
      obtain ⟨next,swapped,rest⟩ := (bind_success _ _ _).mp run
      have small := drawn_le selected later drawn
      rw [swap_success order upper selected first small] at swapped
      obtain rfl := Except.ok.inj swapped
      obtain ⟨selections,more,valid,same⟩ := (ih later _ (others selected)).mp rest
      refine ⟨selected :: selections,?_,.cons small valid,same⟩
      refine (bind_success _ _ _).mpr ⟨(selected,later),drawn,?_⟩
      exact (bind_success _ _ _).mpr ⟨(selections,final),more,rfl⟩
    · intro ⟨selections,run,valid,result⟩
      obtain ⟨⟨selected,later⟩,drawn,run⟩ := (bind_success _ _ _).mp run
      obtain ⟨⟨rest,last⟩,more,same⟩ := (bind_success _ _ _).mp run
      obtain ⟨rfl,rfl⟩ := Prod.mk.inj (Except.ok.inj same)
      obtain ⟨small,valid⟩ := List.forall₂_cons.mp valid
      refine (bind_success _ _ _).mpr ⟨(selected,later),drawn,?_⟩
      refine (bind_success _ _ _).mpr ⟨_,swap_success order upper selected first small,?_⟩
      exact (ih later _ (others selected)).mpr ⟨rest,more,valid,result⟩

private theorem calibrationOperationOrder_success (shake : Shake256) (rounds : ℕ) (blockOrdinal : ℤ)
    (result : List String) : calibrationOperationOrder shake rounds blockOrdinal = .ok result ↔
      0 ≤ blockOrdinal ∧ ∃ selections final,
        calls shake rounds ((Shuffle.places primitiveNames.length).map fun upper : ℕ => (upper : ℤ) + 1)
          (start (calibrationDomain blockOrdinal)) = .ok (selections,final) ∧
        Shuffle.Choices primitiveNames.length selections ∧ result = Shuffle.shuffle primitiveNames selections := by
  have loop := fun (order : List String) (final : Sampler) => shuffleLoop_success shake rounds
    (Shuffle.places primitiveNames.length) (start (calibrationDomain blockOrdinal)) final primitiveNames order
    fun upper member => Shuffle.places_lt _ _ member
  rw [calibrationOperationOrder,then_success,require_success,not_lt,bind_success]
  refine and_congr_right fun _ => ?_
  constructor
  · rintro ⟨⟨order,final⟩,run,same⟩
    obtain ⟨selections,drawn,valid,rfl⟩ := (loop order final).mp run
    exact ⟨selections,final,drawn,valid,(Except.ok.inj same).symm⟩
  · rintro ⟨selections,final,drawn,valid,rfl⟩
    exact ⟨(_,final),(loop _ final).mpr ⟨selections,drawn,valid,rfl⟩,rfl⟩

/-- The sampler hands out its stream byte after byte, its numbers are uniform, and the shuffle
reaches every arrangement from exactly one sequence of selections. -/
theorem sampler_exact (shake : Shake256) :
    (∀ (domain : Json) (rounds : ℕ) (bounds : List ℤ) (values : List ℕ) (final : Sampler),
      calls shake rounds bounds (start domain) = .ok (values,final) ↔
        ∃ draws, Sampled rounds bounds values draws ∧
          draws.flatten.flatten ++ final.buffer =
            blocks shake (canonicalJsonBytes domain) final.counter ∧
          final.buffer.length < 64 ∧ final.counter ≤ 2 ^ 128 ∧
          final.domain = canonicalJsonBytes domain) ∧
    (∀ count, Set.BijOn fromBigEndian {content | content.length = count}
      {value | value < 256 ^ count}) ∧
    (∀ upperBound, space upperBound = 256 ^ width upperBound ∧ upperBound ≤ space upperBound) ∧
    (∀ upperBound residue, residue < upperBound →
      ((Finset.range (space upperBound)).filter fun candidate =>
        candidate < acceptanceLimit upperBound ∧ candidate % upperBound = residue).card =
        space upperBound / upperBound) ∧
    (∀ (α : Type) (rounds : ℕ) (sampler final : Sampler) (items result : List α),
      shuffleLoop shake rounds (Shuffle.places items.length) sampler items = .ok (result,final) ↔
        ∃ selections,
          calls shake rounds ((Shuffle.places items.length).map fun upper : ℕ => (upper : ℤ) + 1)
            sampler = .ok (selections,final) ∧
          Shuffle.Choices items.length selections ∧ result = Shuffle.shuffle items selections) ∧
    (∀ (rounds : ℕ) (blockOrdinal : ℤ) (result : List String),
      calibrationOperationOrder shake rounds blockOrdinal = .ok result ↔ 0 ≤ blockOrdinal ∧
        ∃ selections final,
          calls shake rounds ((Shuffle.places primitiveNames.length).map fun upper : ℕ => (upper : ℤ) + 1)
            (start (calibrationDomain blockOrdinal)) = .ok (selections,final) ∧
          Shuffle.Choices primitiveNames.length selections ∧
          result = Shuffle.shuffle primitiveNames selections) ∧
    (∀ (α : Type) (items : List α) (selections : List ℕ), Shuffle.shuffle items selections =
      (Shuffle.shuffle (List.finRange items.length) selections).map items.get) ∧
    (∀ count, Set.BijOn (Shuffle.shuffle (List.finRange count))
      {selections | Shuffle.Choices count selections}
      {arrangement | arrangement.Perm (List.finRange count)}) ∧
    ∀ (α : Type) (items : List α), items.Nodup → Set.BijOn (Shuffle.shuffle items)
      {selections | Shuffle.Choices items.length selections}
      {arrangement | arrangement.Perm items} := by
  refine ⟨?_,fromBigEndian_bijOn,fun upperBound => ⟨space_eq upperBound,bound_le_space upperBound⟩,
    accepted_candidates,?_,calibrationOperationOrder_success shake,?_,?_,fun _ items nodup => Shuffle.shuffle_bijOn items nodup⟩
  · intro domain rounds bounds values final
    rw [start_eq shake,calls_success shake _ rounds 0 (Nat.zero_le _)]
    exact exists_congr fun draws => and_congr_right fun _ => taken_blocks shake _ _ final
  · intro α rounds sampler final items result
    exact shuffleLoop_success shake rounds _ sampler final items result
      fun upper member => Shuffle.places_lt _ _ member
  · intro α items selections
    conv => lhs; rw [← List.map_get_finRange items]
    exact Shuffle.shuffle_map _ _ _
  · intro count
    have bijOn := Shuffle.shuffle_bijOn (List.finRange count) (List.nodup_finRange count)
    rwa [List.length_finRange] at bijOn

/-- A hash that counts down, whatever it absorbed. -/
def countdown : Shake256 where
  digest _ size := (List.range size).map fun place => UInt8.ofNat (255 - place)
  length _ size := by rw [List.length_map,List.length_range]

/-- The first candidate of the first call is rejected; the second call reads two bytes. -/
theorem sampler_exact_countdown : ∃ draws final,
    calls countdown 2 [5,300] (start (.obj [])) = .ok ([4,220],final) ∧ Sampled 2 [5,300] [4,220] draws ∧
    draws.flatten.flatten ++ final.buffer = blocks countdown (canonicalJsonBytes (.obj [])) final.counter := by
  have passes : (calls countdown 2 [5,300] (start (.obj []))).toOption.any
      (fun drawn => decide (drawn.1 = [4,220])) = true := by decide +kernel
  obtain ⟨⟨values,final⟩,run,same⟩ := ok_of_any _ _ passes
  rw [decide_eq_true_eq] at same
  subst same
  obtain ⟨draws,sampled,whole,_⟩ := ((sampler_exact countdown).1 _ _ _ _ _).mp run
  exact ⟨draws,final,run,sampled,whole⟩

end DynamicCssc.CounterSampler
