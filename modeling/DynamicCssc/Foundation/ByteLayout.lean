import Mathlib.Data.List.Basic
import Mathlib.Data.List.Induction
import Mathlib.Tactic.Ring
import Mathlib.Tactic.NormNum
import Mathlib.Tactic.IntervalCases
import Mathlib.Tactic.Linarith
import Mathlib.Tactic.Zify
import Mathlib.Tactic.Positivity

/-! Fixed layouts of bytes: big-endian integers, hexadecimal text, and records of fields of
fixed width that are packed one behind the other. Bytes are a list of `UInt8`. -/
namespace Foundation.ByteLayout

/-! Big-endian integers. -/

def bigEndian : ℕ → ℕ → List UInt8
  | 0, _ => []
  | width + 1, value => bigEndian width (value / 256) ++ [UInt8.ofNat (value % 256)]

def fromBigEndian (content : List UInt8) : ℕ :=
  content.foldl (fun total byte => total * 256 + byte.toNat) 0

@[simp] theorem bigEndian_length (width value : ℕ) : (bigEndian width value).length = width := by
  induction width generalizing value with
  | zero => rfl
  | succ width ih => simp [bigEndian,ih]

theorem fromBigEndian_snoc (content : List UInt8) (byte : UInt8) :
    fromBigEndian (content ++ [byte]) = fromBigEndian content * 256 + byte.toNat := by
  simp [fromBigEndian]

theorem fromBigEndian_bigEndian (width value : ℕ) (fits : value < 256 ^ width) :
    fromBigEndian (bigEndian width value) = value := by
  induction width generalizing value with
  | zero =>
    have zero : value = 0 := by simpa using fits
    subst zero
    rfl
  | succ width ih =>
    have high : value / 256 < 256 ^ width := by
      rw [Nat.div_lt_iff_lt_mul (by norm_num)]
      rwa [pow_succ] at fits
    rw [bigEndian,fromBigEndian_snoc,ih _ high,UInt8.toNat_ofNat']
    omega

theorem bigEndian_fromBigEndian (content : List UInt8) :
    bigEndian content.length (fromBigEndian content) = content := by
  induction content using List.reverseRecOn with
  | nil => rfl
  | append_singleton content byte ih =>
    have low := byte.toNat_lt
    rw [fromBigEndian_snoc,List.length_append,List.length_singleton,bigEndian]
    have high : (fromBigEndian content * 256 + byte.toNat) / 256 = fromBigEndian content := by omega
    have rest : (fromBigEndian content * 256 + byte.toNat) % 256 = byte.toNat := by omega
    rw [high,rest,ih,UInt8.ofNat_toNat]

theorem fromBigEndian_lt (content : List UInt8) : fromBigEndian content < 256 ^ content.length := by
  induction content using List.reverseRecOn with
  | nil => decide
  | append_singleton content byte ih =>
    have low := byte.toNat_lt
    rw [fromBigEndian_snoc,List.length_append,List.length_singleton,pow_succ]
    omega

/-! Hexadecimal text. -/

def lowerHexDigit (character : Char) : Bool :=
  ('0' ≤ character && character ≤ '9') || ('a' ≤ character && character ≤ 'f')

def digitValue (character : Char) : ℕ :=
  if character ≤ '9' then character.toNat - 48 else character.toNat - 87

/-- Two lowercase digits for each byte. -/
def hex (content : List UInt8) : List Char :=
  content.flatMap fun byte => [Nat.digitChar (byte.toNat / 16),Nat.digitChar (byte.toNat % 16)]

def fromHex : List Char → Option (List UInt8)
  | [] => some []
  | [_] => none
  | high :: low :: rest =>
    if lowerHexDigit high = true ∧ lowerHexDigit low = true then
      (fromHex rest).map fun content => UInt8.ofNat (digitValue high * 16 + digitValue low) :: content
    else none

theorem digitChar_lowerHexDigit (value : ℕ) (small : value < 16) :
    lowerHexDigit (Nat.digitChar value) = true ∧ digitValue (Nat.digitChar value) = value := by
  interval_cases value <;> decide

private theorem digitValue_digitChar (character : Char) (digit : lowerHexDigit character = true) :
    digitValue character < 16 ∧ Nat.digitChar (digitValue character) = character := by
  obtain ⟨code,valid,same⟩ : ∃ code : ℕ, (48 ≤ code ∧ code ≤ 57 ∨ 97 ≤ code ∧ code ≤ 102) ∧
      character = Char.ofNat code := by
    refine ⟨character.toNat,?_,(Char.ofNat_toNat character).symm⟩
    simp only [lowerHexDigit,Bool.or_eq_true,Bool.and_eq_true,decide_eq_true_eq,Char.le_def,
      UInt32.le_iff_toNat_le] at digit
    exact digit
  rw [same]
  obtain ⟨low,high⟩ | ⟨low,high⟩ := valid <;> interval_cases code <;> decide

@[simp] theorem hex_length (content : List UInt8) : (hex content).length = 2 * content.length := by
  induction content with
  | nil => rfl
  | cons byte content ih =>
    simp only [hex,List.flatMap_cons,List.length_append,List.length_cons,List.length_nil] at ih ⊢
    omega

theorem hex_cons (byte : UInt8) (content : List UInt8) : hex (byte :: content) =
    Nat.digitChar (byte.toNat / 16) :: Nat.digitChar (byte.toNat % 16) :: hex content := rfl

theorem fromHex_hex (content : List UInt8) : fromHex (hex content) = some content := by
  induction content with
  | nil => rfl
  | cons byte content ih =>
    have size := byte.toNat_lt
    obtain ⟨high,highValue⟩ := digitChar_lowerHexDigit (byte.toNat / 16) (by omega)
    obtain ⟨low,lowValue⟩ := digitChar_lowerHexDigit (byte.toNat % 16) (by omega)
    have joined : byte.toNat / 16 * 16 + byte.toNat % 16 = byte.toNat := by omega
    rw [hex_cons,fromHex,if_pos ⟨high,low⟩,ih,highValue,lowValue,joined,UInt8.ofNat_toNat]
    rfl

theorem fromHex_digits (count : ℕ) (text : List Char) (length : text.length = 2 * count)
    (digits : text.all lowerHexDigit = true) :
    ∃ content, fromHex text = some content ∧ content.length = count ∧ hex content = text := by
  induction count generalizing text with
  | zero =>
    obtain rfl : text = [] := by simpa using length
    exact ⟨[],rfl,rfl,rfl⟩
  | succ count ih =>
    match text,length,digits with
    | high :: low :: rest,length,digits =>
      simp only [List.all_cons,Bool.and_eq_true] at digits
      obtain ⟨highDigit,lowDigit,restDigits⟩ := digits
      obtain ⟨content,decoded,size,spelled⟩ := ih rest (by simp at length; omega) restDigits
      obtain ⟨highSmall,highChar⟩ := digitValue_digitChar high highDigit
      obtain ⟨lowSmall,lowChar⟩ := digitValue_digitChar low lowDigit
      refine ⟨UInt8.ofNat (digitValue high * 16 + digitValue low) :: content,?_,by simp [size],?_⟩
      · rw [fromHex,if_pos ⟨highDigit,lowDigit⟩,decoded]
        rfl
      · have value : (UInt8.ofNat (digitValue high * 16 + digitValue low)).toNat =
            digitValue high * 16 + digitValue low := by
          rw [UInt8.toNat_ofNat']
          omega
        have upper : (digitValue high * 16 + digitValue low) / 16 = digitValue high := by omega
        have lower : (digitValue high * 16 + digitValue low) % 16 = digitValue low := by omega
        rw [hex_cons,value,upper,lower,highChar,lowChar,spelled]

theorem hex_digits (content : List UInt8) : (hex content).all lowerHexDigit = true := by
  induction content with
  | nil => rfl
  | cons byte content ih =>
    have size := byte.toNat_lt
    rw [hex_cons,List.all_cons,List.all_cons,ih,
      (digitChar_lowerHexDigit (byte.toNat / 16) (by omega)).1,
      (digitChar_lowerHexDigit (byte.toNat % 16) (by omega)).1]
    rfl

/-! Records of fields of fixed width, in network order. -/

/-- The field codes of a format: raw bytes (`8s`), and unsigned and signed integers of a
number of bytes (`B`, `H`, `I`, `Q`; `q`). -/
inductive Field
  | raw (width : ℕ)
  | unsigned (width : ℕ)
  | signed (width : ℕ)
deriving DecidableEq, Repr

namespace Field

def width : Field → ℕ
  | .raw width => width
  | .unsigned width => width
  | .signed width => width

@[reducible] def Value : Field → Type
  | .raw _ => List UInt8
  | .unsigned _ => ℤ
  | .signed _ => ℤ

def Fits : (field : Field) → field.Value → Prop
  | .raw width, content => List.length (α := UInt8) content = width
  | .unsigned width, value => (0 : ℤ) ≤ value ∧ value < (256 : ℤ) ^ width
  | .signed width, value => -(256 : ℤ) ^ width ≤ 2 * value ∧ 2 * value < (256 : ℤ) ^ width

theorem unsigned_fits (width : ℕ) (value : ℤ) :
    Fits (.unsigned width) value ↔ 0 ≤ value ∧ value < 2 ^ (8 * width) := by
  rw [pow_mul]
  exact Iff.rfl

theorem signed_fits (width : ℕ) (value : ℤ) :
    Fits (.signed (width + 1)) value ↔ -2 ^ (8 * width + 7) ≤ value ∧ value < 2 ^ (8 * width + 7) := by
  have doubled : (256 : ℤ) ^ (width + 1) = 2 * 2 ^ (8 * width + 7) := by
    rw [show (256 : ℤ) = 2 ^ 8 by norm_num,← pow_mul,← pow_succ']
    ring_nf
  change -(256 : ℤ) ^ (width + 1) ≤ 2 * value ∧ 2 * value < (256 : ℤ) ^ (width + 1) ↔ _
  rw [doubled]
  constructor
  · intro ⟨lower,upper⟩
    exact ⟨by linarith,by linarith⟩
  · intro ⟨lower,upper⟩
    exact ⟨by linarith,by linarith⟩

/-- Raw bytes are cut or filled up with zeros; an integer outside its range is refused. -/
def pack : (field : Field) → field.Value → Option (List UInt8)
  | .raw width, content => some ((content ++ List.replicate width 0).take width)
  | .unsigned width, value => if (0 : ℤ) ≤ value ∧ value < (256 : ℤ) ^ width then
      some (bigEndian width (Int.toNat value)) else none
  | .signed width, value =>
    if -(256 : ℤ) ^ width ≤ 2 * value ∧ 2 * value < (256 : ℤ) ^ width then
      some (bigEndian width (Int.toNat (value % (256 : ℤ) ^ width))) else none

def unpack : (field : Field) → List UInt8 → field.Value
  | .raw _, content => content
  | .unsigned _, content => (fromBigEndian content : ℤ)
  | .signed width, content =>
    if 2 * (fromBigEndian content : ℤ) < (256 : ℤ) ^ width then (fromBigEndian content : ℤ)
    else (fromBigEndian content : ℤ) - (256 : ℤ) ^ width

private theorem pack_fits (field : Field) (value : field.Value) (fits : field.Fits value) :
    ∃ content, field.pack value = some content ∧ content.length = field.width ∧
      field.unpack content = value := by
  cases field with
  | raw width =>
    refine ⟨value,?_,fits,rfl⟩
    have cut : (value ++ List.replicate width 0).take width = value := by
      rw [← show List.length value = width from fits,List.take_left']
      rfl
    exact congrArg some cut
  | unsigned width =>
    have small : Int.toNat value < 256 ^ width := by
      have upper := fits.2
      zify
      rw [Int.toNat_of_nonneg fits.1]
      exact upper
    refine ⟨bigEndian width (Int.toNat value),if_pos fits,bigEndian_length _ _,?_⟩
    change (fromBigEndian (bigEndian width (Int.toNat value)) : ℤ) = value
    rw [fromBigEndian_bigEndian _ _ small]
    exact Int.toNat_of_nonneg fits.1
  | signed width =>
    have positive : (0 : ℤ) < (256 : ℤ) ^ width := by positivity
    have nonneg := Int.emod_nonneg value (ne_of_gt positive)
    have below := Int.emod_lt_of_pos value positive
    have small : Int.toNat (value % (256 : ℤ) ^ width) < 256 ^ width := by
      zify
      rw [Int.toNat_of_nonneg nonneg]
      exact below
    refine ⟨bigEndian width (Int.toNat (value % (256 : ℤ) ^ width)),if_pos fits,
      bigEndian_length _ _,?_⟩
    obtain ⟨lower,upper⟩ := fits
    simp only [unpack,fromBigEndian_bigEndian _ _ small,Int.toNat_of_nonneg nonneg]
    by_cases negative : value < 0
    · have wrapped : value % (256 : ℤ) ^ width = value + (256 : ℤ) ^ width := by
        rw [← Int.add_emod_right,Int.emod_eq_of_lt (by linarith) (by linarith)]
      rw [wrapped,if_neg (by linarith)]
      ring
    · have same : value % (256 : ℤ) ^ width = value :=
        Int.emod_eq_of_lt (by linarith) (by linarith)
      rw [same,if_pos upper]

private theorem unpack_fits (field : Field) (content : List UInt8) (length : content.length = field.width) :
    field.Fits (field.unpack content) ∧ field.pack (field.unpack content) = some content := by
  have size := fromBigEndian_lt content
  cases field with
  | raw width =>
    refine ⟨length,?_⟩
    have cut : (content ++ List.replicate width 0).take width = content := by
      rw [← show content.length = width from length,List.take_left']
      rfl
    exact congrArg some cut
  | unsigned width =>
    have same : content.length = width := length
    have fits : (0 : ℤ) ≤ (fromBigEndian content : ℤ) ∧
        (fromBigEndian content : ℤ) < (256 : ℤ) ^ width := by
      refine ⟨by positivity,?_⟩
      rw [same] at size
      exact_mod_cast size
    refine ⟨fits,(if_pos fits).trans ?_⟩
    change some (bigEndian width (Int.toNat (fromBigEndian content : ℤ))) = some content
    rw [Int.toNat_natCast,← same,bigEndian_fromBigEndian]
  | signed width =>
    have same : content.length = width := length
    rw [same] at size
    have upper : (fromBigEndian content : ℤ) < (256 : ℤ) ^ width := by exact_mod_cast size
    have lower : (0 : ℤ) ≤ (fromBigEndian content : ℤ) := by positivity
    have fits : -(256 : ℤ) ^ width ≤ 2 * unpack (.signed width) content ∧
        2 * unpack (.signed width) content < (256 : ℤ) ^ width := by
      simp only [unpack]
      split
      · constructor <;> linarith
      · constructor <;> linarith
    have residue : unpack (.signed width) content % (256 : ℤ) ^ width = fromBigEndian content := by
      simp only [unpack]
      split
      · exact Int.emod_eq_of_lt lower upper
      · rw [Int.sub_emod_right,Int.emod_eq_of_lt lower upper]
    refine ⟨fits,(if_pos fits).trans ?_⟩
    rw [residue,Int.toNat_natCast,← same,bigEndian_fromBigEndian]

end Field

def Values : List Field → Type
  | [] => Unit
  | field :: fields => field.Value × Values fields

def size (layout : List Field) : ℕ := (layout.map Field.width).sum

def Fits : (layout : List Field) → Values layout → Prop
  | [], _ => True
  | field :: fields, (value,values) => field.Fits value ∧ Fits fields values

def pack : (layout : List Field) → Values layout → Option (List UInt8)
  | [], _ => some []
  | field :: fields, (value,values) => do
    let content ← field.pack value
    let rest ← pack fields values
    return content ++ rest

def unpackFrom : (layout : List Field) → List UInt8 → Values layout
  | [], _ => ()
  | field :: fields, content =>
    (field.unpack (content.take field.width),unpackFrom fields (content.drop field.width))

def unpack (layout : List Field) (content : List UInt8) : Option (Values layout) :=
  if content.length = size layout then some (unpackFrom layout content) else none

private theorem size_cons (field : Field) (fields : List Field) :
    size (field :: fields) = field.width + size fields := by
  simp [size]

theorem pack_unpack (layout : List Field) (values : Values layout) (fits : Fits layout values) :
    ∃ content, pack layout values = some content ∧ content.length = size layout ∧
      unpack layout content = some values := by
  suffices packed : ∃ content, pack layout values = some content ∧
      content.length = size layout ∧ unpackFrom layout content = values by
    obtain ⟨content,done,length,same⟩ := packed
    exact ⟨content,done,length,by rw [unpack,if_pos length,same]⟩
  induction layout with
  | nil => exact ⟨[],rfl,rfl,rfl⟩
  | cons field fields ih =>
    obtain ⟨value,values⟩ := values
    obtain ⟨content,packed,length,back⟩ := field.pack_fits value fits.1
    obtain ⟨rest,packedRest,lengthRest,backRest⟩ := ih values fits.2
    refine ⟨content ++ rest,?_,?_,?_⟩
    · simp [pack,packed,packedRest]
    · rw [List.length_append,length,lengthRest,size_cons]
    · simp only [unpackFrom]
      rw [← length,List.take_left',List.drop_left',back,backRest] <;> rfl

theorem unpack_pack (layout : List Field) (content : List UInt8) (values : Values layout)
    (unpacked : unpack layout content = some values) :
    content.length = size layout ∧ Fits layout values ∧ pack layout values = some content := by
  unfold unpack at unpacked
  split at unpacked
  case isFalse => exact absurd unpacked (by simp)
  case isTrue length =>
    obtain rfl : unpackFrom layout content = values := by simpa using unpacked
    clear unpacked
    refine ⟨length,?_⟩
    induction layout generalizing content with
    | nil =>
      obtain rfl : content = [] := by simpa [size] using length
      exact ⟨trivial,rfl⟩
    | cons field fields ih =>
      rw [size_cons] at length
      obtain ⟨fits,packed⟩ := field.unpack_fits (content.take field.width)
        (by rw [List.length_take]; omega)
      obtain ⟨fitsRest,packedRest⟩ := ih (content.drop field.width)
        (by rw [List.length_drop]; omega)
      refine ⟨⟨fits,fitsRest⟩,?_⟩
      simp [unpackFrom,pack,packed,packedRest]

/-- A decoder and an encoder that are exact inverses on the accepted values, of one fixed length. -/
structure ExactCodec {α ε : Type} (accepted : α → Prop) (encode : α → Except ε (List UInt8))
    (decode : List UInt8 → Except ε α) (length : ℕ) : Prop where
  round : ∀ value, accepted value → ∃ content, encode value = .ok content ∧
    content.length = length ∧ decode content = .ok value
  exact : ∀ content value, decode content = .ok value → accepted value ∧ encode value = .ok content

/-- Codecs of different lengths accept no common byte string. -/
theorem ExactCodec.disjoint {α β ε : Type} {accepted : α → Prop} {encode : α → Except ε (List UInt8)}
    {decode : List UInt8 → Except ε α} {other : β → Prop} {encodeOther : β → Except ε (List UInt8)}
    {decodeOther : List UInt8 → Except ε β} {left right : ℕ}
    (first : ExactCodec accepted encode decode left)
    (second : ExactCodec other encodeOther decodeOther right) (different : left ≠ right)
    (content : List UInt8) :
    ¬((∃ value, decode content = .ok value) ∧ ∃ value, decodeOther content = .ok value) := by
  intro ⟨⟨value,decoded⟩,other,decodedOther⟩
  obtain ⟨valid,encoded⟩ := first.exact content value decoded
  obtain ⟨same,encodedSame,length,_⟩ := first.round value valid
  obtain ⟨validOther,encodedOther⟩ := second.exact content other decodedOther
  obtain ⟨again,encodedAgain,lengthOther,_⟩ := second.round other validOther
  rw [encoded] at encodedSame
  rw [encodedOther] at encodedAgain
  obtain rfl : content = same := by simpa using encodedSame
  obtain rfl : content = again := by simpa using encodedAgain
  exact different (length.symm.trans lengthOther)

end Foundation.ByteLayout
