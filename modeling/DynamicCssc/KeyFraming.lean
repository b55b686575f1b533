import DynamicCssc.MetadataFraming
import DynamicCssc.Foundation.Streaming

/-! The combined evaluation-key frame of `publication_day1b_key_framing` (one-shot decoder and
stream validator) and the frame builder and parser of `openfhe_query_runner.cpp`. -/
namespace DynamicCssc.KeyFraming
open Foundation.ByteLayout Foundation.Checked Foundation.Streaming
open MetadataFraming (structPack structUnpack structPack_success structUnpack_success bytesHex)

/-- SHA-256 as a function of the bytes it was fed, with digests of 32 bytes. -/
structure Sha256Digest where
  digest : List UInt8 → List UInt8
  length : ∀ content, (digest content).length = 32

def keyMagic : List UInt8 := [0x44,0x31,0x42,0x4B,0x45,0x59,0x30,0x31]
def headerBytes : ℕ := 88
def uint64Max : ℕ := 2 ^ 64 - 1

/-- `>8sQ32sQ32s`. -/
def headerStruct : List Field := [.raw 8,.unsigned 8,.raw 32,.unsigned 8,.raw 32]

def framingError (message : String) : Failure := ⟨.day1BCombinedEvaluationKeyFramingError,message⟩

def strictSegment (value : List UInt8) (field : String) : Checked Unit :=
  require (¬(value = [] ∨ value.length > uint64Max)) (framingError
    (field ++ " must be one nonempty bytes payload with uint64 length"))

/-- The byte count, as a natural number from here on. -/
def strictSegmentBytes (value : ℤ) (field : String) : Checked ℕ := do
  require (0 < value ∧ value ≤ (uint64Max : ℤ))
    (framingError (field ++ " must be one exact positive uint64 byte count"))
  return value.toNat

structure CombinedEvaluationKeyFrame where
  rotationKeyInventory : List UInt8
  evalMultKeys : List UInt8
deriving DecidableEq, Repr

namespace CombinedEvaluationKeyFrame

def postInit (frame : CombinedEvaluationKeyFrame) : Checked Unit := do
  strictSegment frame.rotationKeyInventory "rotation-key inventory segment"
  strictSegment frame.evalMultKeys "eval-mult key segment"
  require (¬headerBytes + frame.rotationKeyInventory.length + frame.evalMultKeys.length > uint64Max)
    (framingError "combined evaluation-key frame exceeds uint64 length")

def toBytes (sha : Sha256Digest) (frame : CombinedEvaluationKeyFrame) : Checked (List UInt8) := do
  let header ← structPack headerStruct (keyMagic,(frame.rotationKeyInventory.length : ℤ),
    sha.digest frame.rotationKeyInventory,(frame.evalMultKeys.length : ℤ),
    sha.digest frame.evalMultKeys,())
  return header ++ frame.rotationKeyInventory ++ frame.evalMultKeys

def fromBytes (sha : Sha256Digest) (value : List UInt8)
    (expectedRotationKeyInventoryBytes expectedEvalMultKeyBytes : ℤ) :
    Checked CombinedEvaluationKeyFrame := do
  let rotationBytes ← strictSegmentBytes expectedRotationKeyInventoryBytes
    "expected rotation-key inventory bytes"
  let evalMultBytes ← strictSegmentBytes expectedEvalMultKeyBytes "expected eval-mult key bytes"
  require (¬headerBytes + rotationBytes + evalMultBytes > uint64Max)
    (framingError "combined evaluation-key expected length exceeds uint64")
  require (¬value.length < size headerStruct)
    (framingError "combined evaluation-key payload is shorter than its exact header")
  let (magic,rotationLength,rotationDigest,evalMultLength,evalMultDigest,()) ←
    structUnpack headerStruct (value.take (size headerStruct))
  require (magic = keyMagic) (framingError "combined evaluation-key magic changed")
  require (¬(rotationLength ≠ (rotationBytes : ℤ) ∨ evalMultLength ≠ (evalMultBytes : ℤ)))
    (framingError "combined evaluation-key segment length differs from Day 2 authority")
  require (value.length = size headerStruct + rotationBytes + evalMultBytes)
    (framingError "combined evaluation-key payload has missing or trailing bytes")
  let rotationEnd := size headerStruct + rotationBytes
  let rotationPayload := (value.take rotationEnd).drop (size headerStruct)
  let evalMultPayload := value.drop rotationEnd
  require (sha.digest rotationPayload = rotationDigest)
    (framingError "combined evaluation-key rotation segment digest changed")
  require (sha.digest evalMultPayload = evalMultDigest)
    (framingError "combined evaluation-key eval-mult segment digest changed")
  let result : CombinedEvaluationKeyFrame := ⟨rotationPayload,evalMultPayload⟩
  result.postInit
  let again ← result.toBytes sha
  require (again = value)
    (framingError "combined evaluation-key frame is not its exact typed projection")
  return result

end CombinedEvaluationKeyFrame

structure StreamReceipt where
  rotationKeyInventoryBytes : ℕ
  rotationKeyInventorySha256 : String
  evalMultKeyBytes : ℕ
  evalMultKeySha256 : String
deriving DecidableEq, Repr

/-- The validator's slots. A hasher is the bytes it was updated with. -/
structure StreamValidator where
  expectedRotationBytes : ℕ
  expectedEvalMultBytes : ℕ
  expectedTotalBytes : ℕ
  rotationRemaining : ℕ
  evalMultRemaining : ℕ
  totalBytes : ℕ
  header : List UInt8
  rotationDigest : Option (List UInt8)
  evalMultDigest : Option (List UInt8)
  rotationHasher : List UInt8
  evalMultHasher : List UInt8
deriving DecidableEq, Repr

namespace StreamValidator

/-- `__init__`. -/
def start (expectedRotationKeyInventoryBytes expectedEvalMultKeyBytes : ℤ) :
    Checked StreamValidator := do
  let rotationBytes ← strictSegmentBytes expectedRotationKeyInventoryBytes
    "expected rotation-key inventory bytes"
  let evalMultBytes ← strictSegmentBytes expectedEvalMultKeyBytes "expected eval-mult key bytes"
  let total := headerBytes + rotationBytes + evalMultBytes
  require (¬total > uint64Max)
    (framingError "combined evaluation-key expected length exceeds uint64")
  return ⟨rotationBytes,evalMultBytes,total,rotationBytes,evalMultBytes,0,[],none,none,[],[]⟩

/-- The header part of `accept`: the state and the position behind what was taken. -/
def acceptHeader (validator : StreamValidator) (fragment : List UInt8) :
    Checked (StreamValidator × ℕ) :=
  if validator.header.length < size headerStruct then do
    let take := min (size headerStruct - validator.header.length) fragment.length
    let validator := { validator with header := validator.header ++ fragment.take take }
    if validator.header.length = size headerStruct then
      let (magic,rotationLength,rotationDigest,evalMultLength,evalMultDigest,()) ←
        structUnpack headerStruct validator.header
      require (magic = keyMagic) (framingError "combined evaluation-key magic changed")
      require (¬(rotationLength ≠ (validator.expectedRotationBytes : ℤ) ∨
          evalMultLength ≠ (validator.expectedEvalMultBytes : ℤ)))
        (framingError "combined evaluation-key segment length differs from Day 2 authority")
      return ({ validator with
        rotationDigest := some rotationDigest
        evalMultDigest := some evalMultDigest },take)
    else return (validator,take)
  else return (validator,0)

def acceptRotation (validator : StreamValidator) (fragment : List UInt8) (position : ℕ) :
    StreamValidator × ℕ :=
  if position < fragment.length ∧ validator.rotationRemaining ≠ 0 then
    let take := min validator.rotationRemaining (fragment.length - position)
    ({ validator with
      rotationHasher := validator.rotationHasher ++ (fragment.drop position).take take
      rotationRemaining := validator.rotationRemaining - take },position + take)
  else (validator,position)

def acceptEvalMult (validator : StreamValidator) (fragment : List UInt8) (position : ℕ) :
    StreamValidator × ℕ :=
  if position < fragment.length ∧ validator.evalMultRemaining ≠ 0 then
    let take := min validator.evalMultRemaining (fragment.length - position)
    ({ validator with
      evalMultHasher := validator.evalMultHasher ++ (fragment.drop position).take take
      evalMultRemaining := validator.evalMultRemaining - take },position + take)
  else (validator,position)

/-- The rest of `accept`: each segment takes its share of what is left of the fragment. -/
def acceptSegments (validator : StreamValidator) (fragment : List UInt8) (position : ℕ) :
    Checked StreamValidator := do
  let (validator,position) := validator.acceptRotation fragment position
  let (validator,position) := validator.acceptEvalMult fragment position
  require (position = fragment.length)
    (framingError "combined evaluation-key stream has trailing bytes")
  return validator

def accept (validator : StreamValidator) (fragment : List UInt8) : Checked StreamValidator := do
  require (¬fragment = [])
    (framingError "combined evaluation-key stream fragment must be nonempty")
  let validator := { validator with totalBytes := validator.totalBytes + fragment.length }
  require (¬validator.totalBytes > validator.expectedTotalBytes)
    (framingError "combined evaluation-key stream has trailing bytes")
  let (validator,position) ← validator.acceptHeader fragment
  validator.acceptSegments fragment position

def finish (sha : Sha256Digest) (validator : StreamValidator) : Checked StreamReceipt := do
  require (validator.header.length = size headerStruct)
    (framingError "combined evaluation-key stream is shorter than its exact header")
  require (¬(validator.rotationRemaining ≠ 0 ∨ validator.evalMultRemaining ≠ 0))
    (framingError "combined evaluation-key stream has missing segment bytes")
  match validator.rotationDigest,validator.evalMultDigest with
  | some rotationDigest,some evalMultDigest => do
    require (sha.digest validator.rotationHasher = rotationDigest)
      (framingError "combined evaluation-key rotation segment digest changed")
    require (sha.digest validator.evalMultHasher = evalMultDigest)
      (framingError "combined evaluation-key eval-mult segment digest changed")
    return ⟨validator.expectedRotationBytes,bytesHex (sha.digest validator.rotationHasher),
      validator.expectedEvalMultBytes,bytesHex (sha.digest validator.evalMultHasher)⟩
  | _,_ => .error ⟨.assertionError,""⟩

/-- One use of the validator: every fragment in order, then the end of the stream. -/
def validate (sha : Sha256Digest) (validator : StreamValidator) (fragments : List (List UInt8)) :
    Checked StreamReceipt := do
  let final ← fragments.foldlM accept validator
  final.finish sha

end StreamValidator

/-! The C++ runner. -/

/-- `std::string`, whose size is a 64-bit number. -/
structure StdString where
  content : List UInt8
  bounded : content.length < 2 ^ 64

def fail (message : String) : Failure := ⟨.runtimeError,message⟩

def appendUint64BigEndian (output : List UInt8) (value : ℕ) : List UInt8 :=
  output ++ [56,48,40,32,24,16,8,0].map fun shift => UInt8.ofNat ((value >>> shift) &&& 0xff)

def nibble (value : Char) : ℕ :=
  if '0' ≤ value ∧ value ≤ '9' then value.toNat - 48 else value.toNat - 97 + 10

def nibblePairs : List Char → List UInt8
  | high :: low :: rest => UInt8.ofNat ((nibble high <<< 4) ||| nibble low) :: nibblePairs rest
  | _ => []

/-- `DigestBytes(HashUtil::HashString(content))`: the hexadecimal digest read back as bytes. -/
def hashStringBytes (sha : Sha256Digest) (content : List UInt8) : Checked (List UInt8) := do
  let digest := bytesHex (sha.digest content)
  require (validSha256 digest = true)
    (fail "OpenFHE serialized segment digest is not lowercase SHA-256")
  return nibblePairs digest.toList

def buildCombinedEvaluationKeyFrame (sha : Sha256Digest) (rotationKeys evalMultKeys : StdString) :
    Checked (List UInt8) := do
  require (¬(rotationKeys.content = [] ∨ evalMultKeys.content = []))
    (fail "combined evaluation-key segments must be nonempty")
  let rotationDigest ← hashStringBytes sha rotationKeys.content
  let evalMultDigest ← hashStringBytes sha evalMultKeys.content
  let frame := appendUint64BigEndian keyMagic rotationKeys.content.length ++ rotationDigest
  let frame := appendUint64BigEndian frame evalMultKeys.content.length ++ evalMultDigest
  let frame := frame ++ rotationKeys.content ++ evalMultKeys.content
  -- `append` throws `std::length_error` where the size would not fit
  require (frame.length < 2 ^ 64) ⟨.overflowError,"basic_string::append"⟩
  require (frame.length = (88 + rotationKeys.content.length + evalMultKeys.content.length) % 2 ^ 64)
    (fail "combined evaluation-key frame length changed")
  return frame

def readUint64BigEndian (content : List UInt8) (offset : ℕ) : Checked ℕ := do
  require (¬(offset > content.length ∨ content.length - offset < 8))
    (fail "combined evaluation-key frame ended inside a length field")
  return ((content.drop offset).take 8).foldl
    (fun value byte => (value <<< 8) % 2 ^ 64 ||| byte.toNat) 0

def parseCombinedEvaluationKeyFrame (sha : Sha256Digest) (frame : StdString) :
    Checked CombinedEvaluationKeyFrame := do
  let content := frame.content
  require (¬(content.length < 88 ∨ content.take 8 ≠ keyMagic))
    (fail "combined evaluation-key frame magic or minimum size changed")
  let rotationSize ← readUint64BigEndian content 8
  let evalMultSize ← readUint64BigEndian content 48
  require (¬(rotationSize = 0 ∨ evalMultSize = 0 ∨ rotationSize > content.length - 88 ∨
      evalMultSize ≠ content.length - 88 - rotationSize))
    (fail "combined evaluation-key frame segment lengths changed")
  let rotation := (content.drop 88).take rotationSize
  let evalMult := (content.drop (88 + rotationSize)).take evalMultSize
  let rotationDigest ← hashStringBytes sha rotation
  require ((content.drop 16).take 32 = rotationDigest)
    (fail "combined evaluation-key frame segment digest changed")
  let evalMultDigest ← hashStringBytes sha evalMult
  require ((content.drop 56).take 32 = evalMultDigest)
    (fail "combined evaluation-key frame segment digest changed")
  return ⟨rotation,evalMult⟩

/-! What a frame is. -/

def headerFields (content : List UInt8) : Values headerStruct :=
  (content.take 8,(fromBigEndian ((content.drop 8).take 8) : ℤ),(content.drop 16).take 32,
    (fromBigEndian ((content.drop 48).take 8) : ℤ),(content.drop 56).take 32,())

def Headed (rotationBytes evalMultBytes : ℕ) (content : List UInt8) : Prop :=
  content.take 8 = keyMagic ∧ fromBigEndian ((content.drop 8).take 8) = rotationBytes ∧
    fromBigEndian ((content.drop 48).take 8) = evalMultBytes

structure Framed (sha : Sha256Digest) (rotationBytes evalMultBytes : ℕ) (content : List UInt8) :
    Prop where
  length : content.length = 88 + rotationBytes + evalMultBytes
  headed : Headed rotationBytes evalMultBytes content
  rotation : sha.digest ((content.drop 88).take rotationBytes) = (content.drop 16).take 32
  evalMult : sha.digest (content.drop (88 + rotationBytes)) = (content.drop 56).take 32

def segments (rotationBytes : ℕ) (content : List UInt8) : CombinedEvaluationKeyFrame :=
  ⟨(content.drop 88).take rotationBytes,content.drop (88 + rotationBytes)⟩

/-- The two lengths that the constructors accept. -/
def Announced (rotation evalMult : ℤ) (rotationBytes evalMultBytes : ℕ) : Prop :=
  rotation = (rotationBytes : ℤ) ∧ evalMult = (evalMultBytes : ℤ) ∧ 0 < rotationBytes ∧
    0 < evalMultBytes ∧ 88 + rotationBytes + evalMultBytes < 2 ^ 64

private theorem headerStruct_size : size headerStruct = 88 := rfl

private theorem unpack_header (content : List UInt8) (long : 88 ≤ content.length) :
    unpack headerStruct (content.take 88) = some (headerFields content) := by
  have length : (content.take 88).length = size headerStruct := by
    rw [List.length_take,headerStruct_size]
    omega
  rw [unpack,if_pos length]
  simp [headerStruct,unpackFrom,headerFields,Field.unpack,Field.width,List.take_take,List.drop_take,
    List.drop_drop]

private theorem strictSegmentBytes_success (value : ℤ) (field : String) (count : ℕ) :
    strictSegmentBytes value field = .ok count ↔ value = (count : ℤ) ∧ 0 < count ∧ count < 2 ^ 64 := by
  simp only [strictSegmentBytes,then_success,require_success,pure,Except.pure,Except.ok.injEq]
  simp only [uint64Max]
  constructor
  · intro ⟨range,same⟩
    omega
  · intro ⟨same,positive,small⟩
    omega

private theorem fromLengths_success {α : Type} (rotation evalMult : ℤ) (first second : String)
    (tooLong : Failure) (next : ℕ → ℕ → Checked α) (result : α) :
    (do let rotationBytes ← strictSegmentBytes rotation first
        let evalMultBytes ← strictSegmentBytes evalMult second
        require (¬headerBytes + rotationBytes + evalMultBytes > uint64Max) tooLong
        next rotationBytes evalMultBytes) = .ok result ↔
      ∃ rotationBytes evalMultBytes, Announced rotation evalMult rotationBytes evalMultBytes ∧
        next rotationBytes evalMultBytes = .ok result := by
  simp only [bind_success,strictSegmentBytes_success,require_success,Announced]
  simp only [headerBytes,uint64Max]
  constructor
  · intro ⟨rotationBytes,⟨same,positive,small⟩,evalMultBytes,⟨sameEval,positiveEval,smallEval⟩,_,
      total,rest⟩
    exact ⟨rotationBytes,evalMultBytes,⟨same,sameEval,positive,positiveEval,by omega⟩,rest⟩
  · intro ⟨rotationBytes,evalMultBytes,⟨same,sameEval,positive,positiveEval,total⟩,rest⟩
    exact ⟨rotationBytes,⟨same,positive,by omega⟩,evalMultBytes,⟨sameEval,positiveEval,by omega⟩,(),
      by omega,rest⟩

section Decoder

variable (sha : Sha256Digest) {rotationBytes evalMultBytes : ℕ} {content : List UInt8}

theorem Framed.fields (framed : Framed sha rotationBytes evalMultBytes content) :
    headerFields content = (keyMagic,(rotationBytes : ℤ),
      sha.digest (segments rotationBytes content).rotationKeyInventory,(evalMultBytes : ℤ),
      sha.digest (segments rotationBytes content).evalMultKeys,()) := by
  obtain ⟨magic,rotation,evalMult⟩ := framed.headed
  simp only [headerFields,magic,rotation,evalMult,segments,framed.rotation,framed.evalMult]
  rfl

private theorem Framed.rotation_length (framed : Framed sha rotationBytes evalMultBytes content) :
    (segments rotationBytes content).rotationKeyInventory.length = rotationBytes := by
  have length := framed.length
  simp only [segments,List.length_take,List.length_drop]
  omega

private theorem Framed.evalMult_length (framed : Framed sha rotationBytes evalMultBytes content) :
    (segments rotationBytes content).evalMultKeys.length = evalMultBytes := by
  have length := framed.length
  simp only [segments,List.length_drop]
  omega

theorem Framed.toBytes (framed : Framed sha rotationBytes evalMultBytes content) :
    (segments rotationBytes content).toBytes sha = .ok content := by
  have length := framed.length
  have packed := (unpack_pack _ _ _ (unpack_header content (by omega))).2.2
  rw [framed.fields] at packed
  refine (bind_success _ _ _).mpr ⟨content.take 88,?_,?_⟩
  · rw [framed.rotation_length,framed.evalMult_length]
    exact (structPack_success _ _ _).mpr packed
  · have rest : (content.drop 88).take rotationBytes ++ content.drop (88 + rotationBytes) =
        content.drop 88 := by
      rw [← List.drop_drop,List.take_append_drop]
    simp only [segments,List.append_assoc,rest,List.take_append_drop]
    rfl

theorem Framed.postInit (framed : Framed sha rotationBytes evalMultBytes content)
    (positive : 0 < rotationBytes) (positiveEval : 0 < evalMultBytes)
    (total : 88 + rotationBytes + evalMultBytes < 2 ^ 64) :
    (segments rotationBytes content).postInit = .ok () := by
  have rotation := framed.rotation_length
  have evalMult := framed.evalMult_length
  simp only [CombinedEvaluationKeyFrame.postInit,strictSegment,then_success,require_success]
  simp only [uint64Max,headerBytes]
  refine ⟨?_,?_,by omega⟩
  · rintro (empty | long)
    · rw [empty] at rotation
      simp at rotation
      omega
    · omega
  · rintro (empty | long)
    · rw [empty] at evalMult
      simp at evalMult
      omega
    · omega

private theorem fromBytes_success (rotation evalMult : ℤ) (content : List UInt8)
    (frame : CombinedEvaluationKeyFrame) :
    CombinedEvaluationKeyFrame.fromBytes sha content rotation evalMult = .ok frame ↔
      ∃ rotationBytes evalMultBytes, Announced rotation evalMult rotationBytes evalMultBytes ∧
        Framed sha rotationBytes evalMultBytes content ∧ frame = segments rotationBytes content := by
  refine (fromLengths_success _ _ _ _ _ _ _).trans (exists_congr fun rotationBytes =>
    exists_congr fun evalMultBytes => and_congr_right fun announced => ?_)
  obtain ⟨_,_,positive,positiveEval,total⟩ := announced
  constructor
  · intro decoded
    obtain ⟨long,decoded⟩ := (then_success _ _ _).mp decoded
    rw [require_success,headerStruct_size] at long
    obtain ⟨fields,unpacked,decoded⟩ := (bind_success _ _ _).mp decoded
    rw [structUnpack_success,headerStruct_size,unpack_header content (by omega)] at unpacked
    obtain rfl : headerFields content = fields := by simpa using unpacked
    obtain ⟨magic,decoded⟩ := (then_success _ _ _).mp decoded
    obtain ⟨lengths,decoded⟩ := (then_success _ _ _).mp decoded
    obtain ⟨whole,decoded⟩ := (then_success _ _ _).mp decoded
    obtain ⟨rotationDigest,decoded⟩ := (then_success _ _ _).mp decoded
    obtain ⟨evalMultDigest,decoded⟩ := (then_success _ _ _).mp decoded
    obtain ⟨_,decoded⟩ := (then_success _ _ _).mp decoded
    obtain ⟨again,_,decoded⟩ := (bind_success _ _ _).mp decoded
    obtain ⟨_,same⟩ := (then_success _ _ _).mp decoded
    rw [require_success] at magic lengths whole rotationDigest evalMultDigest
    rw [headerStruct_size] at whole rotationDigest evalMultDigest
    simp only [not_or,not_not,Nat.cast_inj] at lengths
    have cut : (content.take (88 + rotationBytes)).drop 88 = (content.drop 88).take rotationBytes := by
      rw [List.drop_take,Nat.add_sub_cancel_left]
    rw [cut] at rotationDigest
    refine ⟨⟨whole,⟨magic,lengths.1,lengths.2⟩,rotationDigest,evalMultDigest⟩,?_⟩
    have result := (Except.ok.inj same).symm
    rw [headerStruct_size,cut] at result
    exact result
  · intro ⟨framed,same⟩
    have whole := framed.length
    obtain ⟨magic,rotationLength,evalMultLength⟩ := framed.headed
    have cut : (content.take (88 + rotationBytes)).drop 88 = (content.drop 88).take rotationBytes := by
      rw [List.drop_take,Nat.add_sub_cancel_left]
    refine pass _ _ _ (require_true _ _ (by rw [headerStruct_size]; omega)) ?_
    refine (bind_success _ _ _).mpr
      ⟨headerFields content,(structUnpack_success _ _ _).mpr (unpack_header content (by omega)),?_⟩
    refine pass _ _ _ (require_true _ _ magic) ?_
    refine pass _ _ _ (require_true _ _ (by
      rw [rotationLength,evalMultLength]
      simp)) ?_
    refine pass _ _ _ (require_true _ _ whole) ?_
    simp only [headerStruct_size,cut]
    refine pass _ _ _ (require_true _ _ framed.rotation) ?_
    refine pass _ _ _ (require_true _ _ framed.evalMult) ?_
    refine pass _ _ _ (framed.postInit sha positive positiveEval total) ?_
    refine (bind_success _ _ _).mpr ⟨content,framed.toBytes sha,?_⟩
    exact pass _ _ _ (require_true _ _ rfl) (congrArg Except.ok same.symm)

end Decoder

/-! The validator after a prefix of the stream. -/

section Stream

variable (rotationBytes evalMultBytes : ℕ)

/-- The validator's slots after the bytes `seen`, computed from these bytes alone. -/
def stateAt (seen : List UInt8) : StreamValidator where
  expectedRotationBytes := rotationBytes
  expectedEvalMultBytes := evalMultBytes
  expectedTotalBytes := 88 + rotationBytes + evalMultBytes
  rotationRemaining := rotationBytes - (seen.length - 88)
  evalMultRemaining := evalMultBytes - (seen.length - (88 + rotationBytes))
  totalBytes := seen.length
  header := seen.take 88
  rotationDigest := if 88 ≤ seen.length then some ((seen.drop 16).take 32) else none
  evalMultDigest := if 88 ≤ seen.length then some ((seen.drop 56).take 32) else none
  rotationHasher := (seen.drop 88).take rotationBytes
  evalMultHasher := (seen.drop (88 + rotationBytes)).take evalMultBytes

def Admitted (seen : List UInt8) : Prop :=
  seen.length ≤ 88 + rotationBytes + evalMultBytes ∧
    (88 ≤ seen.length → Headed rotationBytes evalMultBytes seen)

private theorem take_drop_within (seen fragment : List UInt8) (first count : ℕ)
    (inside : first + count ≤ seen.length) :
    ((seen ++ fragment).drop first).take count = (seen.drop first).take count := by
  rw [List.drop_append_of_le_length (by omega),List.take_append_of_le_length]
  rw [List.length_drop]
  omega

private theorem headed_append (seen fragment : List UInt8) (long : 88 ≤ seen.length) :
    Headed rotationBytes evalMultBytes (seen ++ fragment) ↔
      Headed rotationBytes evalMultBytes seen := by
  unfold Headed
  rw [take_drop_within seen fragment 8 8 (by omega),take_drop_within seen fragment 48 8 (by omega),
    List.take_append_of_le_length (by omega)]

private theorem admitted_closed (seen fragment : List UInt8)
    (admitted : Admitted rotationBytes evalMultBytes (seen ++ fragment)) :
    Admitted rotationBytes evalMultBytes seen := by
  obtain ⟨short,headed⟩ := admitted
  rw [List.length_append] at short headed
  exact ⟨by omega,fun long => (headed_append _ _ seen fragment long).mp (headed (by omega))⟩

private theorem window_append (seen fragment : List UInt8) (first count : ℕ) :
    ((seen ++ fragment).drop first).take count = (seen.drop first).take count ++
      (fragment.drop (first - seen.length)).take (count - (seen.length - first)) := by
  rw [List.drop_append,List.take_append,List.length_drop]

private theorem take_min_length (content : List UInt8) (count : ℕ) :
    content.take (min count content.length) = content.take count := by
  rw [← List.take_take,List.take_length]

/-- One segment takes its share of a fragment: `first` bytes come before it, `count` belong to it. -/
private theorem segment_step (seen fragment : List UInt8) (first count : ℕ) :
    if min (first - seen.length) fragment.length < fragment.length ∧
        count - (seen.length - first) ≠ 0 then
      let position := min (first - seen.length) fragment.length
      let take := min (count - (seen.length - first)) (fragment.length - position)
      (seen.drop first).take count ++ (fragment.drop position).take take =
        ((seen ++ fragment).drop first).take count ∧
      count - (seen.length - first) - take = count - ((seen ++ fragment).length - first) ∧
      position + take = min (first + count - seen.length) fragment.length
    else
      (seen.drop first).take count = ((seen ++ fragment).drop first).take count ∧
      count - (seen.length - first) = count - ((seen ++ fragment).length - first) ∧
      min (first - seen.length) fragment.length = min (first + count - seen.length) fragment.length := by
  rw [window_append,List.length_append]
  split
  case isTrue more =>
    obtain ⟨inside,_⟩ := more
    have position : min (first - seen.length) fragment.length = first - seen.length := by omega
    simp only [position]
    refine ⟨?_,by omega,by omega⟩
    have shorter := take_min_length (fragment.drop (first - seen.length))
      (count - (seen.length - first))
    rw [List.length_drop] at shorter
    rw [shorter]
  case isFalse none =>
    refine ⟨?_,by omega,by omega⟩
    have nothing : (fragment.drop (first - seen.length)).take (count - (seen.length - first)) = [] := by
      rw [← List.length_eq_zero_iff,List.length_take,List.length_drop]
      omega
    rw [nothing,List.append_nil]

/-- The validator between the header and the segments of one fragment. -/
def headerStateAt (seen fragment : List UInt8) : StreamValidator :=
  { stateAt rotationBytes evalMultBytes seen with
    totalBytes := seen.length + fragment.length
    header := (seen ++ fragment).take 88
    rotationDigest := (stateAt rotationBytes evalMultBytes (seen ++ fragment)).rotationDigest
    evalMultDigest := (stateAt rotationBytes evalMultBytes (seen ++ fragment)).evalMultDigest }

private theorem acceptHeader_success (seen fragment : List UInt8)
    (result : StreamValidator × ℕ) :
    { stateAt rotationBytes evalMultBytes seen with
      totalBytes := seen.length + fragment.length }.acceptHeader fragment = .ok result ↔
    (¬88 ≤ seen.length → 88 ≤ (seen ++ fragment).length →
      Headed rotationBytes evalMultBytes (seen ++ fragment)) ∧
    result = (headerStateAt rotationBytes evalMultBytes seen fragment,
      min (88 - seen.length) fragment.length) := by
  unfold StreamValidator.acceptHeader headerStateAt
  rw [headerStruct_size]
  by_cases known : 88 ≤ seen.length
  · have full : ¬(seen.take 88).length < 88 := by
      rw [List.length_take]
      omega
    have longer : 88 ≤ (seen ++ fragment).length := by
      rw [List.length_append]
      omega
    have position : min (88 - seen.length) fragment.length = 0 := by omega
    have same : (seen ++ fragment).take 88 = seen.take 88 :=
      List.take_append_of_le_length known
    simp only [stateAt,if_neg full,known,longer,position,same,pure,Except.pure,Except.ok.injEq,
      if_true,not_true_eq_false,false_implies,true_and,take_drop_within seen fragment 16 32 (by omega),
      take_drop_within seen fragment 56 32 (by omega)]
    exact eq_comm
  · have partly : seen.length < 88 := by omega
    have short : (seen.take 88).length = seen.length := by
      rw [List.length_take]
      omega
    have header : seen.take 88 ++ fragment.take (min (88 - seen.length) fragment.length) =
        (seen ++ fragment).take 88 := by
      rw [take_min_length,List.take_append]
    simp only [stateAt,short,if_pos partly,known,header,not_false_eq_true,true_implies,if_false]
    by_cases complete : 88 ≤ (seen ++ fragment).length
    · have whole : ((seen ++ fragment).take 88).length = 88 := by
        rw [List.length_take]
        omega
      rw [if_pos whole]
      simp only [complete,if_true,true_implies]
      constructor
      · intro taken
        obtain ⟨fields,unpacked,taken⟩ := (bind_success _ _ _).mp taken
        rw [structUnpack_success,unpack_header _ complete] at unpacked
        obtain rfl : headerFields (seen ++ fragment) = fields := by simpa using unpacked
        obtain ⟨magic,taken⟩ := (then_success _ _ _).mp taken
        obtain ⟨lengths,same⟩ := (then_success _ _ _).mp taken
        rw [require_success] at magic lengths
        simp only [not_or,not_not,Nat.cast_inj] at lengths
        exact ⟨⟨magic,lengths.1,lengths.2⟩,(Except.ok.inj same).symm⟩
      · rintro ⟨⟨magic,rotationLength,evalMultLength⟩,same⟩
        refine (bind_success _ _ _).mpr ⟨headerFields (seen ++ fragment),
          (structUnpack_success _ _ _).mpr (unpack_header _ complete),?_⟩
        refine pass _ _ _ (require_true _ _ magic) ?_
        refine pass _ _ _ (require_true _ _ (by
          rw [rotationLength,evalMultLength]
          simp)) ?_
        exact congrArg Except.ok same.symm
    · have open' : ¬((seen ++ fragment).take 88).length = 88 := by
        rw [List.length_take]
        omega
      simp only [if_neg open',complete,if_false,false_implies,true_and,pure,Except.pure,
        Except.ok.injEq]
      exact eq_comm

/-- Behind the header the segments take what is theirs, whatever the fragment holds. -/
private theorem acceptSegments_success (seen fragment : List UInt8)
    (short : seen.length + fragment.length ≤ 88 + rotationBytes + evalMultBytes) :
    (headerStateAt rotationBytes evalMultBytes seen fragment).acceptSegments fragment
      (min (88 - seen.length) fragment.length) =
      .ok (stateAt rotationBytes evalMultBytes (seen ++ fragment)) := by
  have rotation := segment_step seen fragment 88 rotationBytes
  have evalMult := segment_step seen fragment (88 + rotationBytes) evalMultBytes
  have first : (headerStateAt rotationBytes evalMultBytes seen fragment).acceptRotation fragment
      (min (88 - seen.length) fragment.length) =
      ({ stateAt rotationBytes evalMultBytes (seen ++ fragment) with
        evalMultRemaining := evalMultBytes - (seen.length - (88 + rotationBytes))
        evalMultHasher := (seen.drop (88 + rotationBytes)).take evalMultBytes },
        min (88 + rotationBytes - seen.length) fragment.length) := by
    unfold StreamValidator.acceptRotation headerStateAt
    simp only [stateAt]
    split at rotation
    case isTrue more =>
      obtain ⟨hasher,remaining,position⟩ := rotation
      refine (if_pos more).trans ?_
      rw [hasher,remaining,position,List.length_append]
    case isFalse none =>
      obtain ⟨hasher,remaining,position⟩ := rotation
      refine (if_neg none).trans ?_
      rw [hasher,remaining,position,List.length_append]
  have second : StreamValidator.acceptEvalMult
      { stateAt rotationBytes evalMultBytes (seen ++ fragment) with
        evalMultRemaining := evalMultBytes - (seen.length - (88 + rotationBytes))
        evalMultHasher := (seen.drop (88 + rotationBytes)).take evalMultBytes } fragment
      (min (88 + rotationBytes - seen.length) fragment.length) =
      (stateAt rotationBytes evalMultBytes (seen ++ fragment),
        min (88 + rotationBytes + evalMultBytes - seen.length) fragment.length) := by
    unfold StreamValidator.acceptEvalMult
    simp only [stateAt]
    split at evalMult
    case isTrue more =>
      obtain ⟨hasher,remaining,position⟩ := evalMult
      refine (if_pos more).trans ?_
      rw [hasher,remaining,position]
    case isFalse none =>
      obtain ⟨hasher,remaining,position⟩ := evalMult
      refine (if_neg none).trans ?_
      rw [hasher,remaining,position]
  unfold StreamValidator.acceptSegments
  rw [first]
  simp only
  rw [second]
  exact pass _ _ _ (require_true _ _ (by omega)) rfl

private theorem accept_success (seen fragment : List UInt8) (next : StreamValidator)
    (admitted : Admitted rotationBytes evalMultBytes seen) (nonempty : fragment ≠ []) :
    (stateAt rotationBytes evalMultBytes seen).accept fragment = .ok next ↔
      Admitted rotationBytes evalMultBytes (seen ++ fragment) ∧
        next = stateAt rotationBytes evalMultBytes (seen ++ fragment) := by
  unfold Admitted
  rw [List.length_append]
  constructor
  · intro accepted
    obtain ⟨_,accepted⟩ := (then_success _ _ _).mp accepted
    obtain ⟨total,accepted⟩ := (then_success _ _ _).mp accepted
    rw [require_success] at total
    have short : seen.length + fragment.length ≤ 88 + rotationBytes + evalMultBytes :=
      Nat.le_of_not_gt total
    obtain ⟨middle,header,accepted⟩ := (bind_success _ _ _).mp accepted
    obtain ⟨headed,rfl⟩ :=
      (acceptHeader_success rotationBytes evalMultBytes seen fragment middle).mp header
    have segments := acceptSegments_success rotationBytes evalMultBytes seen fragment short
    rw [List.length_append] at headed
    refine ⟨⟨short,fun long => ?_⟩,Except.ok.inj (accepted.symm.trans segments)⟩
    by_cases known : 88 ≤ seen.length
    · exact (headed_append _ _ seen fragment known).mpr (admitted.2 known)
    · exact headed known long
  · intro ⟨⟨short,headed⟩,same⟩
    refine pass _ _ _ (require_true _ _ nonempty) ?_
    refine pass _ _ _ (require_true _ _ (Nat.not_lt.mpr short)) ?_
    refine (bind_success _ _ _).mpr ⟨_,(acceptHeader_success rotationBytes evalMultBytes seen
      fragment _).mpr ⟨fun _ long => headed (by rwa [List.length_append] at long),rfl⟩,?_⟩
    rw [same]
    exact acceptSegments_success rotationBytes evalMultBytes seen fragment short

private theorem finish_success (sha : Sha256Digest) (content : List UInt8) (receipt : StreamReceipt)
    (admitted : Admitted rotationBytes evalMultBytes content) :
    (stateAt rotationBytes evalMultBytes content).finish sha = .ok receipt ↔
      Framed sha rotationBytes evalMultBytes content ∧
      receipt = ⟨rotationBytes,bytesHex (sha.digest (segments rotationBytes content).rotationKeyInventory),
        evalMultBytes,bytesHex (sha.digest (segments rotationBytes content).evalMultKeys)⟩ := by
  obtain ⟨short,headed⟩ := admitted
  constructor
  · intro finished
    obtain ⟨header,finished⟩ := (then_success _ _ _).mp finished
    obtain ⟨remaining,finished⟩ := (then_success _ _ _).mp finished
    rw [require_success] at header remaining
    simp only [stateAt,headerStruct_size,List.length_take] at header remaining
    have long : 88 ≤ content.length := by omega
    have whole : content.length = 88 + rotationBytes + evalMultBytes := by omega
    have all : (content.drop (88 + rotationBytes)).take evalMultBytes =
        content.drop (88 + rotationBytes) := by
      rw [List.take_of_length_le]
      rw [List.length_drop]
      omega
    simp only [stateAt,long,if_true,all] at finished
    obtain ⟨rotation,finished⟩ := (then_success _ _ _).mp finished
    obtain ⟨evalMult,same⟩ := (then_success _ _ _).mp finished
    rw [require_success] at rotation evalMult
    exact ⟨⟨whole,headed long,rotation,evalMult⟩,(Except.ok.inj same).symm⟩
  · rintro ⟨framed,same⟩
    have whole := framed.length
    have long : 88 ≤ content.length := by omega
    have all : (content.drop (88 + rotationBytes)).take evalMultBytes =
        content.drop (88 + rotationBytes) := by
      rw [List.take_of_length_le]
      rw [List.length_drop]
      omega
    refine pass _ _ _ (require_true _ _ ?_) ?_
    · simp only [stateAt,headerStruct_size,List.length_take]
      omega
    refine pass _ _ _ (require_true _ _ ?_) ?_
    · simp only [stateAt]
      omega
    simp only [stateAt,long,if_true,all]
    refine pass _ _ _ (require_true _ _ framed.rotation) ?_
    refine pass _ _ _ (require_true _ _ framed.evalMult) ?_
    exact congrArg Except.ok same.symm

end Stream

private theorem start_success (rotation evalMult : ℤ) (validator : StreamValidator) :
    StreamValidator.start rotation evalMult = .ok validator ↔
      ∃ rotationBytes evalMultBytes, Announced rotation evalMult rotationBytes evalMultBytes ∧
        validator = stateAt rotationBytes evalMultBytes [] := by
  refine (fromLengths_success _ _ _ _ _ _ _).trans (exists_congr fun rotationBytes =>
    exists_congr fun evalMultBytes => and_congr_right fun _ => ?_)
  simp [pure,Except.pure,stateAt,headerBytes,eq_comm]

/-- The validator takes a stream, in whatever fragments, exactly when the stream is a frame. -/
theorem validate_success (sha : Sha256Digest) (rotationBytes evalMultBytes : ℕ)
    (fragments : List (List UInt8)) (nonempty : ∀ fragment ∈ fragments, fragment ≠ [])
    (receipt : StreamReceipt) :
    (stateAt rotationBytes evalMultBytes []).validate sha fragments = .ok receipt ↔
      Framed sha rotationBytes evalMultBytes fragments.flatten ∧
      receipt = ⟨rotationBytes,
        bytesHex (sha.digest (segments rotationBytes fragments.flatten).rotationKeyInventory),
        evalMultBytes,
        bytesHex (sha.digest (segments rotationBytes fragments.flatten).evalMultKeys)⟩ := by
  have empty : Admitted rotationBytes evalMultBytes [] := ⟨by simp,fun long => absurd long (by simp)⟩
  have run := foldlM_prefix StreamValidator.accept (stateAt rotationBytes evalMultBytes)
    (Admitted rotationBytes evalMultBytes) (admitted_closed rotationBytes evalMultBytes)
    (accept_success rotationBytes evalMultBytes) fragments nonempty [] empty
  rw [StreamValidator.validate,bind_success]
  constructor
  · intro ⟨final,fed,finished⟩
    obtain ⟨admitted,same⟩ := (run final).mp fed
    rw [List.nil_append] at admitted same
    rw [same] at finished
    exact (finish_success rotationBytes evalMultBytes sha _ receipt admitted).mp finished
  · intro ⟨framed,same⟩
    have admitted : Admitted rotationBytes evalMultBytes fragments.flatten :=
      ⟨framed.length.le,fun _ => framed.headed⟩
    exact ⟨_,(run _).mpr ⟨by simpa using admitted,rfl⟩,
      (finish_success rotationBytes evalMultBytes sha _ receipt admitted).mpr ⟨framed,same⟩⟩

/-! The encoder, and the frame builder and parser of the C++ runner. -/

theorem postInit_success (frame : CombinedEvaluationKeyFrame) :
    frame.postInit = .ok () ↔ frame.rotationKeyInventory ≠ [] ∧ frame.evalMultKeys ≠ [] ∧
      88 + frame.rotationKeyInventory.length + frame.evalMultKeys.length < 2 ^ 64 := by
  simp only [CombinedEvaluationKeyFrame.postInit,strictSegment,then_success,require_success]
  simp only [uint64Max,headerBytes,not_or]
  constructor
  · intro ⟨⟨rotation,_⟩,⟨evalMult,_⟩,total⟩
    exact ⟨rotation,evalMult,by omega⟩
  · intro ⟨rotation,evalMult,total⟩
    exact ⟨⟨rotation,by omega⟩,⟨evalMult,by omega⟩,by omega⟩

def headerOf (sha : Sha256Digest) (rotation evalMult : List UInt8) : List UInt8 :=
  keyMagic ++ bigEndian 8 rotation.length ++ sha.digest rotation ++ bigEndian 8 evalMult.length ++
    sha.digest evalMult

private theorem headerOf_length (sha : Sha256Digest) (rotation evalMult : List UInt8) :
    (headerOf sha rotation evalMult).length = 88 := by
  simp [headerOf,sha.length,keyMagic]

private theorem raw_pack (width : ℕ) (content : List UInt8) (length : content.length = width) :
    (Field.raw width).pack content = some content := by
  subst length
  exact congrArg some (List.take_left' rfl)

private theorem unsigned_pack (width value : ℕ) (small : value < 256 ^ width) :
    (Field.unsigned width).pack (value : ℤ) = some (bigEndian width value) := by
  have range : (0 : ℤ) ≤ (value : ℤ) ∧ (value : ℤ) < (256 : ℤ) ^ width :=
    ⟨by positivity,by exact_mod_cast small⟩
  exact (if_pos range).trans (by rw [Int.toNat_natCast])

private theorem pack_header (sha : Sha256Digest) (rotation evalMult : List UInt8)
    (small : rotation.length < 2 ^ 64) (smallEval : evalMult.length < 2 ^ 64) :
    pack headerStruct (keyMagic,(rotation.length : ℤ),sha.digest rotation,(evalMult.length : ℤ),
      sha.digest evalMult,()) = some (headerOf sha rotation evalMult) := by
  have first := unsigned_pack 8 rotation.length (by norm_num; omega)
  have second := unsigned_pack 8 evalMult.length (by norm_num; omega)
  simp only [headerStruct,pack,raw_pack 8 keyMagic rfl,first,second,
    raw_pack 32 _ (sha.length rotation),raw_pack 32 _ (sha.length evalMult)]
  simp [headerOf]

private theorem toBytes_eq (sha : Sha256Digest) (frame : CombinedEvaluationKeyFrame)
    (small : frame.rotationKeyInventory.length < 2 ^ 64)
    (smallEval : frame.evalMultKeys.length < 2 ^ 64) :
    frame.toBytes sha = .ok (headerOf sha frame.rotationKeyInventory frame.evalMultKeys ++
      frame.rotationKeyInventory ++ frame.evalMultKeys) :=
  (bind_success _ _ _).mpr ⟨_,(structPack_success _ _ _).mpr (pack_header sha _ _ small smallEval),rfl⟩

private theorem headerOf_framed (sha : Sha256Digest) (rotation evalMult : List UInt8)
    (small : rotation.length < 2 ^ 64) (smallEval : evalMult.length < 2 ^ 64) :
    Framed sha rotation.length evalMult.length
      (headerOf sha rotation evalMult ++ rotation ++ evalMult) ∧
    segments rotation.length (headerOf sha rotation evalMult ++ rotation ++ evalMult) =
      ⟨rotation,evalMult⟩ := by
  have length := headerOf_length sha rotation evalMult
  have whole : (headerOf sha rotation evalMult ++ rotation ++ evalMult).length =
      88 + rotation.length + evalMult.length := by
    rw [List.length_append,List.length_append,length]
  have first : ((headerOf sha rotation evalMult ++ rotation ++ evalMult).drop 88).take
      rotation.length = rotation := by
    rw [List.append_assoc,List.drop_left' length,List.take_left' rfl]
  have second : (headerOf sha rotation evalMult ++ rotation ++ evalMult).drop
      (88 + rotation.length) = evalMult := by
    rw [List.drop_left' (by rw [List.length_append,length])]
  have header : (headerOf sha rotation evalMult ++ rotation ++ evalMult).take 88 =
      headerOf sha rotation evalMult := by
    rw [List.append_assoc,List.take_left' length]
  have unpacked := unpack_header (headerOf sha rotation evalMult ++ rotation ++ evalMult) (by omega)
  obtain ⟨packed,done,_,back⟩ := pack_unpack headerStruct (keyMagic,(rotation.length : ℤ),
    sha.digest rotation,(evalMult.length : ℤ),sha.digest evalMult,())
    ⟨rfl,(Field.unsigned_fits 8 _).mpr ⟨by positivity,by exact_mod_cast small⟩,sha.length rotation,
      (Field.unsigned_fits 8 _).mpr ⟨by positivity,by exact_mod_cast smallEval⟩,sha.length evalMult,
      trivial⟩
  rw [pack_header sha rotation evalMult small smallEval] at done
  obtain rfl : headerOf sha rotation evalMult = packed := by simpa using done
  rw [header,back] at unpacked
  have fields := Option.some.inj unpacked
  obtain ⟨magic,fields⟩ := Prod.mk.inj fields
  obtain ⟨rotationLength,fields⟩ := Prod.mk.inj fields
  obtain ⟨rotationDigest,fields⟩ := Prod.mk.inj fields
  obtain ⟨evalMultLength,fields⟩ := Prod.mk.inj fields
  obtain ⟨evalMultDigest,_⟩ := Prod.mk.inj fields
  refine ⟨⟨whole,⟨magic.symm,?_,?_⟩,?_,?_⟩,?_⟩
  · exact (Int.ofNat_inj.mp rotationLength).symm
  · exact (Int.ofNat_inj.mp evalMultLength).symm
  · rw [first]
    exact rotationDigest
  · rw [second]
    exact evalMultDigest
  · rw [segments,first,second]

private theorem appendUint64BigEndian_eq (output : List UInt8) (value : ℕ) :
    appendUint64BigEndian output value = output ++ bigEndian 8 value := by
  have byte (shift : ℕ) : (value >>> shift) &&& 0xff = value / 2 ^ shift % 256 := by
    rw [Nat.shiftRight_eq_div_pow,show (0xff : ℕ) = 2 ^ 8 - 1 by norm_num,Nat.and_two_pow_sub_one_eq_mod]
  simp [appendUint64BigEndian,bigEndian,byte,Nat.div_div_eq_div_mul]

private theorem nibble_eq (value : Char) (digit : lowerHexDigit value = true) :
    nibble value = digitValue value := by
  unfold nibble digitValue
  simp only [lowerHexDigit,Bool.or_eq_true,Bool.and_eq_true,decide_eq_true_eq] at digit
  by_cases small : value ≤ '9'
  · have low : '0' ≤ value := by
      obtain ⟨low,_⟩ | ⟨letter,_⟩ := digit
      · exact low
      · exact absurd (le_trans letter small) (by decide)
    rw [if_pos ⟨low,small⟩,if_pos small]
  · rw [if_neg fun both => small both.2,if_neg small]
    obtain ⟨_,high⟩ | ⟨letter,_⟩ := digit
    · exact absurd high small
    · have code : 97 ≤ value.toNat := letter
      omega

private theorem nibblePairs_hex (content : List UInt8) : nibblePairs (hex content) = content := by
  induction content with
  | nil => rfl
  | cons byte content ih =>
    have bound := byte.toNat_lt
    obtain ⟨high,highValue⟩ := digitChar_lowerHexDigit (byte.toNat / 16) (by omega)
    obtain ⟨low,lowValue⟩ := digitChar_lowerHexDigit (byte.toNat % 16) (by omega)
    have joined : (byte.toNat / 16) <<< 4 ||| byte.toNat % 16 = byte.toNat := by
      rw [← Nat.shiftLeft_add_eq_or_of_lt (by omega : byte.toNat % 16 < 2 ^ 4),Nat.shiftLeft_eq]
      omega
    rw [hex_cons,nibblePairs,ih,nibble_eq _ high,nibble_eq _ low,highValue,lowValue,joined,
      UInt8.ofNat_toNat]

private theorem hashStringBytes_eq (sha : Sha256Digest) (content : List UInt8) :
    hashStringBytes sha content = .ok (sha.digest content) := by
  have text : (bytesHex (sha.digest content)).toList = hex (sha.digest content) := by
    rw [bytesHex,String.toList_ofList]
  refine pass _ _ _ (require_true _ _ ?_) ?_
  · have digits := hex_digits (sha.digest content)
    simp only [validSha256,text,hex_length,sha.length,Bool.and_eq_true,beq_iff_eq]
    exact ⟨trivial,digits⟩
  · rw [text,nibblePairs_hex]
    rfl

private theorem readLoop_eq (content : List UInt8) (short : content.length ≤ 8) :
    content.foldl (fun value byte => (value <<< 8) % 2 ^ 64 ||| byte.toNat) 0 =
      fromBigEndian content := by
  induction content using List.reverseRecOn with
  | nil => rfl
  | append_singleton content byte ih =>
    rw [List.length_append,List.length_singleton] at short
    have below := fromBigEndian_lt content
    have fewer : (256 : ℕ) ^ content.length ≤ 256 ^ 7 := Nat.pow_le_pow_right (by norm_num) (by omega)
    have bound := byte.toNat_lt
    have shifted : (fromBigEndian content <<< 8) % 2 ^ 64 = fromBigEndian content <<< 8 := by
      rw [Nat.shiftLeft_eq]
      omega
    rw [List.foldl_append,ih (by omega),List.foldl_cons,List.foldl_nil,shifted,fromBigEndian_snoc,
      ← Nat.shiftLeft_add_eq_or_of_lt (by omega : byte.toNat < 2 ^ 8),Nat.shiftLeft_eq]

private theorem readUint64BigEndian_eq (content : List UInt8) (offset : ℕ)
    (inside : offset + 8 ≤ content.length) : readUint64BigEndian content offset =
      .ok (fromBigEndian ((content.drop offset).take 8)) := by
  refine pass _ _ _ (require_true _ _ (by omega)) ?_
  rw [readLoop_eq _ (by rw [List.length_take]; omega)]
  rfl

private theorem buildCombinedEvaluationKeyFrame_success (sha : Sha256Digest) (rotation evalMult : StdString)
    (content : List UInt8) :
    buildCombinedEvaluationKeyFrame sha rotation evalMult = .ok content ↔
      (⟨rotation.content,evalMult.content⟩ : CombinedEvaluationKeyFrame).postInit = .ok () ∧
      (⟨rotation.content,evalMult.content⟩ : CombinedEvaluationKeyFrame).toBytes sha =
        .ok content := by
  have length := headerOf_length sha rotation.content evalMult.content
  have frame : appendUint64BigEndian (appendUint64BigEndian keyMagic rotation.content.length ++
      sha.digest rotation.content) evalMult.content.length ++ sha.digest evalMult.content ++
      rotation.content ++ evalMult.content =
      headerOf sha rotation.content evalMult.content ++ rotation.content ++ evalMult.content := by
    simp only [appendUint64BigEndian_eq,headerOf]
  rw [postInit_success,toBytes_eq sha _ rotation.bounded evalMult.bounded]
  unfold buildCombinedEvaluationKeyFrame
  simp only [hashStringBytes_eq,ok_bind,then_success,require_success]
  simp only [frame,List.length_append,length]
  constructor
  · intro ⟨nonempty,total,_,same⟩
    obtain ⟨first,second⟩ := not_or.mp nonempty
    exact ⟨⟨first,second,total⟩,same⟩
  · intro ⟨⟨first,second,total⟩,same⟩
    exact ⟨not_or.mpr ⟨first,second⟩,total,(Nat.mod_eq_of_lt total).symm,same⟩

private theorem parseCombinedEvaluationKeyFrame_success (sha : Sha256Digest) (frame : StdString)
    (result : CombinedEvaluationKeyFrame) :
    parseCombinedEvaluationKeyFrame sha frame = .ok result ↔
      ∃ rotationBytes evalMultBytes, 0 < rotationBytes ∧ 0 < evalMultBytes ∧
        Framed sha rotationBytes evalMultBytes frame.content ∧
        result = segments rotationBytes frame.content := by
  have bounded := frame.bounded
  constructor
  · intro parsed
    obtain ⟨minimum,parsed⟩ := (then_success _ _ _).mp parsed
    rw [require_success] at minimum
    obtain ⟨long,magic⟩ := not_or.mp minimum
    rw [readUint64BigEndian_eq _ 8 (by omega),readUint64BigEndian_eq _ 48 (by omega)] at parsed
    simp only [ok_bind] at parsed
    obtain ⟨lengths,parsed⟩ := (then_success _ _ _).mp parsed
    rw [require_success] at lengths
    simp only [hashStringBytes_eq,ok_bind] at parsed
    obtain ⟨rotation,parsed⟩ := (then_success _ _ _).mp parsed
    obtain ⟨evalMult,same⟩ := (then_success _ _ _).mp parsed
    rw [require_success] at rotation evalMult
    generalize sizes : fromBigEndian ((frame.content.drop 8).take 8) = rotationBytes at *
    generalize sizesEval : fromBigEndian ((frame.content.drop 48).take 8) = evalMultBytes at *
    have all : (frame.content.drop (88 + rotationBytes)).take evalMultBytes =
        frame.content.drop (88 + rotationBytes) := by
      rw [List.take_of_length_le]
      rw [List.length_drop]
      omega
    rw [all] at evalMult
    refine ⟨rotationBytes,evalMultBytes,by omega,by omega,
      ⟨by omega,⟨not_not.mp magic,sizes,sizesEval⟩,rotation.symm,evalMult.symm⟩,?_⟩
    have segment := (Except.ok.inj same).symm
    rw [all] at segment
    exact segment
  · rintro ⟨rotationBytes,evalMultBytes,positive,positiveEval,framed,same⟩
    have whole := framed.length
    obtain ⟨magic,sizes,sizesEval⟩ := framed.headed
    have all : (frame.content.drop (88 + rotationBytes)).take evalMultBytes =
        frame.content.drop (88 + rotationBytes) := by
      rw [List.take_of_length_le]
      rw [List.length_drop]
      omega
    refine pass _ _ _ (require_true _ _ (not_or.mpr ⟨by omega,not_not.mpr magic⟩)) ?_
    rw [readUint64BigEndian_eq _ 8 (by omega),readUint64BigEndian_eq _ 48 (by omega)]
    simp only [ok_bind,sizes,sizesEval]
    refine pass _ _ _ (require_true _ _ (by omega)) ?_
    simp only [hashStringBytes_eq,ok_bind,all]
    refine pass _ _ _ (require_true _ _ framed.rotation.symm) ?_
    refine pass _ _ _ (require_true _ _ framed.evalMult.symm) ?_
    exact congrArg Except.ok same.symm

/-- The stream validator, the one-shot decoder, the encoder and the C++ runner's builder and parser
agree on what a frame is. -/
theorem key_frames_agree (sha : Sha256Digest) :
    (∀ (rotation evalMult : ℤ) (validator : StreamValidator),
      StreamValidator.start rotation evalMult = .ok validator →
      ∀ fragments : List (List UInt8), (∀ fragment ∈ fragments, fragment ≠ []) →
        ((∃ receipt, validator.validate sha fragments = .ok receipt) ↔
          ∃ frame, CombinedEvaluationKeyFrame.fromBytes sha fragments.flatten rotation evalMult =
            .ok frame) ∧
        ∀ frame, CombinedEvaluationKeyFrame.fromBytes sha fragments.flatten rotation evalMult =
            .ok frame →
          frame.toBytes sha = .ok fragments.flatten ∧
          validator.validate sha fragments = .ok
            ⟨frame.rotationKeyInventory.length,bytesHex (sha.digest frame.rotationKeyInventory),
              frame.evalMultKeys.length,bytesHex (sha.digest frame.evalMultKeys)⟩) ∧
    (∀ frame : CombinedEvaluationKeyFrame, frame.postInit = .ok () →
      ∃ content, frame.toBytes sha = .ok content ∧
        CombinedEvaluationKeyFrame.fromBytes sha content frame.rotationKeyInventory.length
          frame.evalMultKeys.length = .ok frame) ∧
    (∀ (content : StdString) (frame : CombinedEvaluationKeyFrame),
      parseCombinedEvaluationKeyFrame sha content = .ok frame ↔
        ∃ rotation evalMult, CombinedEvaluationKeyFrame.fromBytes sha content.content rotation
          evalMult = .ok frame) ∧
    ∀ (rotation evalMult : StdString) (content : List UInt8),
      buildCombinedEvaluationKeyFrame sha rotation evalMult = .ok content ↔
        (⟨rotation.content,evalMult.content⟩ : CombinedEvaluationKeyFrame).postInit = .ok () ∧
        (⟨rotation.content,evalMult.content⟩ : CombinedEvaluationKeyFrame).toBytes sha =
          .ok content := by
  refine ⟨?_,?_,?_,buildCombinedEvaluationKeyFrame_success sha⟩
  · intro rotation evalMult validator started fragments nonempty
    obtain ⟨rotationBytes,evalMultBytes,announced,rfl⟩ := (start_success _ _ _).mp started
    have stream := validate_success sha rotationBytes evalMultBytes fragments nonempty
    have accepted : ∀ frame, CombinedEvaluationKeyFrame.fromBytes sha fragments.flatten rotation
        evalMult = .ok frame →
        Framed sha rotationBytes evalMultBytes fragments.flatten ∧
          frame = segments rotationBytes fragments.flatten := by
      intro frame decoded
      obtain ⟨first,second,same,framed,rfl⟩ := (fromBytes_success sha _ _ _ _).mp decoded
      obtain rfl : rotationBytes = first := by
        exact_mod_cast announced.1.symm.trans same.1
      obtain rfl : evalMultBytes = second := by
        exact_mod_cast announced.2.1.symm.trans same.2.1
      exact ⟨framed,rfl⟩
    refine ⟨⟨?_,?_⟩,?_⟩
    · intro ⟨receipt,taken⟩
      obtain ⟨framed,_⟩ := (stream receipt).mp taken
      exact ⟨_,(fromBytes_success sha _ _ _ _).mpr ⟨_,_,announced,framed,rfl⟩⟩
    · intro ⟨frame,decoded⟩
      exact ⟨_,(stream _).mpr ⟨(accepted frame decoded).1,rfl⟩⟩
    · intro frame decoded
      obtain ⟨framed,rfl⟩ := accepted frame decoded
      refine ⟨framed.toBytes sha,(stream _).mpr ⟨framed,?_⟩⟩
      rw [framed.rotation_length,framed.evalMult_length]
  · intro frame valid
    obtain ⟨rotation,evalMult,total⟩ := (postInit_success frame).mp valid
    have positive := List.length_pos_iff.mpr rotation
    have positiveEval := List.length_pos_iff.mpr evalMult
    obtain ⟨framed,same⟩ := headerOf_framed sha frame.rotationKeyInventory frame.evalMultKeys
      (by omega) (by omega)
    exact ⟨_,toBytes_eq sha frame (by omega) (by omega),(fromBytes_success sha _ _ _ _).mpr
      ⟨_,_,⟨rfl,rfl,positive,positiveEval,total⟩,framed,same.symm⟩⟩
  · intro content frame
    rw [parseCombinedEvaluationKeyFrame_success]
    constructor
    · intro ⟨rotationBytes,evalMultBytes,positive,positiveEval,framed,same⟩
      have whole := framed.length
      have bounded := content.bounded
      exact ⟨rotationBytes,evalMultBytes,(fromBytes_success sha _ _ _ _).mpr
        ⟨_,_,⟨rfl,rfl,positive,positiveEval,by omega⟩,framed,same⟩⟩
    · intro ⟨rotation,evalMult,decoded⟩
      obtain ⟨rotationBytes,evalMultBytes,⟨_,_,positive,positiveEval,_⟩,framed,same⟩ :=
        (fromBytes_success sha _ _ _ _).mp decoded
      exact ⟨rotationBytes,evalMultBytes,positive,positiveEval,framed,same⟩

/-- A digest that ends in the exclusive or of the bytes. -/
def parityDigest : Sha256Digest where
  digest content := List.replicate 31 0 ++ [content.foldl (· ^^^ ·) 0]
  length content := by rw [List.length_append,List.length_replicate,List.length_singleton]

def sampleFrame : CombinedEvaluationKeyFrame := ⟨[7],[8,9]⟩

/-- A frame of one byte and two bytes, streamed in two pieces. -/
theorem key_frames_sample : ∃ content validator,
    sampleFrame.toBytes parityDigest = .ok content ∧ StreamValidator.start 1 2 = .ok validator ∧
    CombinedEvaluationKeyFrame.fromBytes parityDigest content 1 2 = .ok sampleFrame ∧
    validator.validate parityDigest [content.take 20,content.drop 20] = .ok
      ⟨1,bytesHex (parityDigest.digest [7]),2,bytesHex (parityDigest.digest [8,9])⟩ := by
  obtain ⟨stream,back,_,_⟩ := key_frames_agree parityDigest
  obtain ⟨content,written,read⟩ := back sampleFrame (by decide)
  have long : (sampleFrame.toBytes parityDigest).toOption.any (fun content => content.length = 91) = true := by
    decide +kernel
  rw [written,Except.toOption,Option.any_some,decide_eq_true_eq] at long
  obtain ⟨validator,started⟩ : ∃ validator, StreamValidator.start 1 2 = .ok validator := ⟨_,rfl⟩
  have pieces : ∀ fragment ∈ [content.take 20,content.drop 20], fragment ≠ [] := by
    intro fragment member
    rw [List.mem_cons,List.mem_singleton] at member
    rcases member with rfl | rfl
    · exact List.ne_nil_of_length_pos (by rw [List.length_take]; omega)
    · exact List.ne_nil_of_length_pos (by rw [List.length_drop]; omega)
  have whole : [content.take 20,content.drop 20].flatten = content := by
    rw [List.flatten_cons,List.flatten_singleton,List.take_append_drop]
  obtain ⟨_,receipt⟩ := (stream 1 2 validator started _ pieces).2 sampleFrame (whole.symm ▸ read)
  exact ⟨content,validator,written,started,read,receipt⟩

end DynamicCssc.KeyFraming
