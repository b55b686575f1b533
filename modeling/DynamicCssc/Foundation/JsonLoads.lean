import DynamicCssc.Foundation.Checked
import DynamicCssc.Foundation.JsonInjective

/-! The loader of JSON texts, and that it takes every canonical text back to its value. A loaded
dictionary keeps the order of the text. -/
namespace Foundation.Json

/-- Why a text is not loaded: it is no JSON text, it repeats a key, or it holds a float or a lone
surrogate, for which there is no value here. -/
inductive LoadFailure
  | decode
  | duplicate
  | foreign
deriving DecidableEq, Repr

def blank (character : Char) : Bool :=
  character = ' ' || character = '\t' || character = '\n' || character = '\r'

def skip (text : List Char) : List Char := text.dropWhile blank

def hexValue (digit : Char) : Option ℕ :=
  if digit.isDigit then some (digit.toNat - 48)
  else if 'a' ≤ digit ∧ digit ≤ 'f' then some (digit.toNat - 87)
  else if 'A' ≤ digit ∧ digit ≤ 'F' then some (digit.toNat - 55)
  else none

def hexCode : List Char → Except LoadFailure (ℕ × List Char)
  | a :: b :: c :: d :: rest =>
    match hexValue a,hexValue b,hexValue c,hexValue d with
    | some a,some b,some c,some d => .ok (a * 4096 + b * 256 + c * 16 + d,rest)
    | _,_,_,_ => .error .decode
  | _ => .error .decode

/-- The second half of a surrogate pair. -/
def scanLow (high : ℕ) : List Char → Except LoadFailure (Char × List Char)
  | '\x5c' :: 'u' :: rest => do
    let (low,rest) ← hexCode rest
    if 0xDC00 ≤ low ∧ low ≤ 0xDFFF then
      return (Char.ofNat (0x10000 + (high - 0xD800) * 0x400 + (low - 0xDC00)),rest)
    else .error .foreign
  | _ => .error .foreign

def scanEscape : List Char → Except LoadFailure (Char × List Char)
  | [] => .error .decode
  | tag :: rest =>
    if tag = 'u' then do
      let (code,rest) ← hexCode rest
      if 0xD800 ≤ code ∧ code ≤ 0xDBFF then scanLow code rest
      else if 0xDC00 ≤ code ∧ code ≤ 0xDFFF then .error .foreign
      else return (Char.ofNat code,rest)
    else if tag = '\x22' ∨ tag = '\x5c' ∨ tag = '/' ∨ tag = 'b' ∨ tag = 'f' ∨ tag = 'n' ∨ tag = 'r' ∨
        tag = 't' then return (shortEscape tag,rest)
    else .error .decode

/-- `scanstring`, behind the opening quotation mark; the fuel bounds the number of characters. -/
def scanString : ℕ → List Char → Except LoadFailure (List Char × List Char)
  | 0,_ => .error .decode
  | _,[] => .error .decode
  | fuel + 1,first :: rest =>
    if first = '\x22' then .ok ([],rest)
    else if first = '\x5c' then do
      let (character,rest) ← scanEscape rest
      let (characters,rest) ← scanString fuel rest
      return (character :: characters,rest)
    else if first.toNat < 0x20 then .error .decode
    else do
      let (characters,rest) ← scanString fuel rest
      return (first :: characters,rest)

/-- Whether a number goes on behind its integer part. -/
def goesOn : List Char → Bool
  | '.' :: digit :: _ => digit.isDigit
  | 'e' :: rest | 'E' :: rest =>
    match rest with
    | '+' :: digit :: _ | '-' :: digit :: _ | digit :: _ => digit.isDigit
    | [] => false
  | _ => false

def integerPart : List Char → List Char × List Char
  | '0' :: rest => (['0'],rest)
  | text => text.span Char.isDigit

def scanNumber (text : List Char) : Except LoadFailure (Json × List Char) :=
  let negative := text.head? = some '-'
  let (digits,rest) := integerPart (if negative then text.tail else text)
  if digits = [] then
    if ['N','a','N'].isPrefixOf text ∨ ['I','n','f','i','n','i','t','y'].isPrefixOf text ∨
        ['-','I','n','f','i','n','i','t','y'].isPrefixOf text then .error .foreign
    else .error .decode
  else if goesOn rest then .error .foreign
  else
    let value : ℤ := Nat.ofDigitChars 10 digits 0
    .ok (.int (if negative then -value else value),rest)

def literal (expected : List Char) (value : Json) (rest : List Char) :
    Except LoadFailure (Json × List Char) :=
  if expected.isPrefixOf rest then .ok (value,rest.drop expected.length) else .error .decode

mutual
/-- `scan_once`; the fuel bounds the nesting and the number of members. -/
def scanValue : ℕ → List Char → Except LoadFailure (Json × List Char)
  | 0,_ => .error .decode
  | _,[] => .error .decode
  | fuel + 1,first :: rest =>
    if first = '\x22' then do
      let (characters,rest) ← scanString rest.length rest
      return (.str (String.ofList characters),rest)
    else if first = '\x7b' then
      match skip rest with
      | '\x7d' :: rest => .ok (.obj [],rest)
      | rest => do
        let (fields,rest) ← scanFields fuel rest
        if (fields.map Prod.fst).Nodup then return (.obj fields,rest) else .error .duplicate
    else if first = '[' then
      match skip rest with
      | ']' :: rest => .ok (.arr [],rest)
      | rest => do
        let (items,rest) ← scanItems fuel rest
        return (.arr items,rest)
    else if first = 'n' then literal ['u','l','l'] .null rest
    else if first = 't' then literal ['r','u','e'] (.bool true) rest
    else if first = 'f' then literal ['a','l','s','e'] (.bool false) rest
    else scanNumber (first :: rest)
/-- The items of an array, up to its bracket. -/
def scanItems : ℕ → List Char → Except LoadFailure (List Json × List Char)
  | 0,_ => .error .decode
  | fuel + 1,text => do
    let (item,rest) ← scanValue fuel text
    match skip rest with
    | ']' :: rest => return ([item],rest)
    | ',' :: rest => do
      let (items,rest) ← scanItems fuel (skip rest)
      return (item :: items,rest)
    | _ => .error .decode
def scanFields : ℕ → List Char → Except LoadFailure (List (String × Json) × List Char)
  | 0,_ => .error .decode
  | fuel + 1,text =>
    match text with
    | '\x22' :: rest => do
      let (key,rest) ← scanString rest.length rest
      match skip rest with
      | ':' :: rest => do
        let (value,rest) ← scanValue fuel (skip rest)
        match skip rest with
        | '\x7d' :: rest => return ([(String.ofList key,value)],rest)
        | ',' :: rest => do
          let (fields,rest) ← scanFields fuel (skip rest)
          return ((String.ofList key,value) :: fields,rest)
        | _ => .error .decode
      | _ => .error .decode
    | _ => .error .decode
end

/-- `json.loads(text, object_pairs_hook=...)` with a hook that refuses a repeated key. -/
def loads (text : List Char) : Except LoadFailure Json := do
  let (value,rest) ← scanValue (text.length + 1) (skip text)
  if skip rest = [] then return value else .error .decode

/-! Canonical texts are loaded back. -/

private theorem hexValue_digitChar : ∀ digit < 16, hexValue (Nat.digitChar digit) = some digit := by decide

private theorem hexCode_hex4 (code : ℕ) (small : code < 0x10000) (rest : List Char) :
    hexCode (hex4 code ++ rest) = .ok (code,rest) := by
  simp only [hex4,List.cons_append,List.nil_append,hexCode,
    hexValue_digitChar _ (Nat.mod_lt _ (show 0 < 16 by omega))]
  congr 2
  omega

/-- The rest of a scan with a character put in front. -/
def prepend (character : Char) (scanned : Except LoadFailure (List Char × List Char)) :
    Except LoadFailure (List Char × List Char) := do
  let (characters,rest) ← scanned
  return (character :: characters,rest)

private theorem scanString_plain (fuel : ℕ) (character : Char) (rest : List Char) (quote : character ≠ '\x22')
    (backslash : character ≠ '\x5c') (printed : ¬character.toNat < 0x20) :
    scanString (fuel + 1) (character :: rest) = prepend character (scanString fuel rest) := by
  rw [scanString,if_neg quote,if_neg backslash,if_neg printed]
  rfl

private theorem scanString_backslash (fuel : ℕ) (character : Char) (text rest : List Char)
    (escapes : scanEscape text = .ok (character,rest)) :
    scanString (fuel + 1) ('\x5c' :: text) = prepend character (scanString fuel rest) := by
  rw [scanString,if_neg (by decide),if_pos rfl,escapes]
  rfl

private theorem scanEscape_short (tag : Char) (rest : List Char) (long : tag ≠ 'u')
    (known : tag = '\x22' ∨ tag = '\x5c' ∨ tag = '/' ∨ tag = 'b' ∨ tag = 'f' ∨ tag = 'n' ∨ tag = 'r' ∨
      tag = 't') : scanEscape (tag :: rest) = .ok (shortEscape tag,rest) := by
  rw [scanEscape,if_neg long,if_pos known]
  rfl

private theorem scanEscape_basic (character : Char) (rest : List Char) (low : character.toNat < 0x10000) :
    scanEscape ('u' :: hex4 character.toNat ++ rest) = .ok (character,rest) := by
  have free := surrogate_free character
  rw [List.cons_append,scanEscape,if_pos rfl,hexCode_hex4 _ low,Checked.ok_bind]
  dsimp only
  rw [if_neg (by omega),if_neg (by omega),Char.ofNat_toNat]
  rfl

private theorem scanEscape_pair (character : Char) (rest : List Char) (high : 0x10000 ≤ character.toNat) :
    scanEscape ('u' :: hex4 (0xD800 + (character.toNat - 0x10000) / 0x400) ++
      '\x5c' :: 'u' :: hex4 (0xDC00 + (character.toNat - 0x10000) % 0x400) ++ rest) =
        .ok (character,rest) := by
  have free := surrogate_free character
  rw [List.cons_append,List.cons_append,scanEscape,if_pos rfl,List.append_assoc,
    hexCode_hex4 _ (by omega),Checked.ok_bind]
  dsimp only
  rw [if_pos (by omega),List.cons_append,List.cons_append,scanLow,hexCode_hex4 _ (by omega),
    Checked.ok_bind]
  dsimp only
  rw [if_pos (by omega),show 0x10000 + (0xD800 + (character.toNat - 0x10000) / 0x400 - 0xD800) * 0x400 +
    (0xDC00 + (character.toNat - 0x10000) % 0x400 - 0xDC00) = character.toNat by omega,
    Char.ofNat_toNat]
  rfl

private theorem eq_of_toNat (character : Char) (code : ℕ) (same : character.toNat = code) :
    character = Char.ofNat code := by
  rw [← Char.ofNat_toNat character,same]

private theorem scanString_escape (ensureAscii : Bool) (fuel : ℕ) (character : Char) (rest : List Char) :
    scanString (fuel + 1) (escape ensureAscii character ++ rest) =
      prepend character (scanString fuel rest) := by
  have short : ∀ tag, tag ≠ 'u' → character = shortEscape tag → (tag = '\x22' ∨ tag = '\x5c' ∨
      tag = '/' ∨ tag = 'b' ∨ tag = 'f' ∨ tag = 'n' ∨ tag = 'r' ∨ tag = 't') →
      scanString (fuel + 1) (['\x5c',tag] ++ rest) = prepend character (scanString fuel rest) := by
    intro tag long same known
    rw [same]
    exact scanString_backslash fuel _ _ _ (scanEscape_short tag rest long known)
  unfold escape
  simp only []
  split
  · rename_i code
    exact short _ (by decide) (eq_of_toNat character 0x22 code) (by decide)
  split
  · rename_i code
    exact short _ (by decide) (eq_of_toNat character 0x5C code) (by decide)
  split
  · rename_i code
    exact short _ (by decide) (eq_of_toNat character 0x0A code) (by decide)
  split
  · rename_i code
    exact short _ (by decide) (eq_of_toNat character 0x0D code) (by decide)
  split
  · rename_i code
    exact short _ (by decide) (eq_of_toNat character 0x09 code) (by decide)
  split
  · rename_i code
    exact short _ (by decide) (eq_of_toNat character 0x0C code) (by decide)
  split
  · rename_i code
    exact short _ (by decide) (eq_of_toNat character 0x08 code) (by decide)
  split
  · split
    · rename_i low
      exact scanString_backslash fuel _ _ _ (scanEscape_basic character rest low)
    · rename_i high
      refine scanString_backslash fuel _ _ _ ?_
      simpa using scanEscape_pair character rest (by omega)
  · rename_i quote backslash _ _ _ _ _ printed
    refine scanString_plain fuel character rest ?_ ?_ (fun low => printed (.inl low))
    · intro same
      exact quote (by rw [same]; decide)
    · intro same
      exact backslash (by rw [same]; decide)

private theorem escape_pos (ensureAscii : Bool) (character : Char) : 0 < (escape ensureAscii character).length := by
  have shape := escape_escaped ensureAscii character
  generalize escape ensureAscii character = text at *
  cases shape <;> simp

private theorem scanString_quoted (ensureAscii : Bool) (characters rest : List Char) (fuel : ℕ)
    (enough : (characters.flatMap (escape ensureAscii)).length < fuel) :
    scanString fuel (characters.flatMap (escape ensureAscii) ++ '\x22' :: rest) = .ok (characters,rest) := by
  induction characters generalizing fuel with
  | nil =>
    cases fuel with
    | zero => simp at enough
    | succ fuel => rw [List.flatMap_nil,List.nil_append,scanString,if_pos rfl]
  | cons character characters ih =>
    have positive := escape_pos ensureAscii character
    rw [List.flatMap_cons,List.length_append] at enough
    cases fuel with
    | zero => omega
    | succ fuel =>
      rw [List.flatMap_cons,List.append_assoc,scanString_escape,ih fuel (by omega)]
      rfl

/-- What follows a value inside a canonical text, or at the end of a canonical line. -/
def Stops (rest : List Char) : Prop :=
  ∀ first tail, rest = first :: tail → first = ',' ∨ first = ']' ∨ first = '\x7d' ∨ first = '\n'

private theorem goesOn_stops {rest : List Char} (stops : Stops rest) : goesOn rest = false := by
  cases rest with
  | nil => rfl
  | cons first tail =>
    rcases stops first tail rfl with rfl | rfl | rfl | rfl <;> rfl

private theorem span_digits (digits rest : List Char) (all : ∀ digit ∈ digits, digit.isDigit = true)
    (stops : Stops rest) : (digits ++ rest).span Char.isDigit = (digits,rest) := by
  rw [List.span_eq_takeWhile_dropWhile]
  have none : rest.takeWhile Char.isDigit = [] ∧ rest.dropWhile Char.isDigit = rest := by
    cases rest with
    | nil => exact ⟨rfl,rfl⟩
    | cons first tail =>
      rcases stops first tail rfl with rfl | rfl | rfl | rfl <;> exact ⟨rfl,rfl⟩
  rw [List.takeWhile_append_of_pos all,List.dropWhile_append_of_pos all,none.1,none.2,List.append_nil]

private theorem toDigits_first (number : ℕ) (positive : 0 < number) :
    ∃ digit digits, Nat.toDigits 10 number = digit :: digits ∧ digit ≠ '0' := by
  induction number using Nat.strongRecOn with
  | ind number ih =>
    rw [Nat.toDigits_eq_if (by omega)]
    split
    · rename_i small
      refine ⟨_,_,rfl,?_⟩
      have apart : ∀ digit < 10, 0 < digit → Nat.digitChar digit ≠ '0' := by decide
      exact apart number small positive
    · obtain ⟨digit,digits,text,nonzero⟩ := ih (number / 10) (by omega) (by omega)
      exact ⟨digit,digits ++ _,by rw [text]; rfl,nonzero⟩

private theorem integerPart_toDigits (number : ℕ) (rest : List Char) (stops : Stops rest) :
    integerPart (Nat.toDigits 10 number ++ rest) = (Nat.toDigits 10 number,rest) := by
  rcases Nat.eq_zero_or_pos number with rfl | positive
  · rfl
  · have all : ∀ digit ∈ Nat.toDigits 10 number, digit.isDigit = true :=
      fun _ member => Nat.isDigit_of_mem_toDigits (by omega) (by omega) member
    obtain ⟨digit,digits,text,nonzero⟩ := toDigits_first number positive
    rw [← span_digits _ rest all stops,text,List.cons_append]
    unfold integerPart
    split
    · rename_i zero
      exact absurd (List.cons.inj zero).1 nonzero
    · rfl

private theorem scanNumber_intText (value : ℤ) (rest : List Char) (stops : Stops rest) :
    scanNumber (intText value ++ rest) = .ok (.int value,rest) := by
  have digits := integerPart_toDigits value.natAbs rest stops
  have filled : Nat.toDigits 10 value.natAbs ≠ [] := Nat.toDigits_ne_nil
  unfold intText
  split
  · rename_i below
    unfold scanNumber
    simp only [List.cons_append,List.head?_cons,List.tail_cons,if_true,digits,filled,if_false,
      goesOn_stops stops,Nat.ofDigitChars_ten_toDigits,Bool.false_eq_true]
    congr 3
    omega
  · rename_i above
    have unsigned : (Nat.toDigits 10 value.natAbs ++ rest).head? ≠ some '-' := by
      cases text : Nat.toDigits 10 value.natAbs with
      | nil => exact absurd text filled
      | cons digit tail =>
        have isDigit := Nat.isDigit_of_mem_toDigits (b := 10) (by omega) (by omega)
          (show digit ∈ Nat.toDigits 10 value.natAbs by simp [text])
        intro minus
        simp only [List.cons_append,List.head?_cons,Option.some.injEq] at minus
        rw [minus] at isDigit
        cases isDigit
    unfold scanNumber
    simp only [unsigned,if_false,digits,filled,goesOn_stops stops,Nat.ofDigitChars_ten_toDigits,
      Bool.false_eq_true]
    congr 3
    omega

inductive Distinct : Json → Prop
  | null : Distinct .null
  | bool (value : Bool) : Distinct (.bool value)
  | int (value : ℤ) : Distinct (.int value)
  | str (value : String) : Distinct (.str value)
  | arr (items : List Json) (each : ∀ item ∈ items, Distinct item) : Distinct (.arr items)
  | obj (fields : List (String × Json)) (keys : (fields.map Prod.fst).Nodup)
    (each : ∀ field ∈ fields, Distinct field.2) : Distinct (.obj fields)

private theorem digit_plain (digit : Char) (isDigit : digit.isDigit = true) :
    blank digit = false ∧ digit ≠ ']' ∧ digit ≠ '\x7d' ∧ digit ≠ '\x22' ∧ digit ≠ '\x7b' ∧ digit ≠ '[' ∧
      digit ≠ 'n' ∧ digit ≠ 't' ∧ digit ≠ 'f' := by
  have apart : ∀ letter : Char, letter.isDigit = false → digit ≠ letter := by
    intro letter plain same
    rw [same,plain] at isDigit
    cases isDigit
  refine ⟨?_,apart _ rfl,apart _ rfl,apart _ rfl,apart _ rfl,apart _ rfl,apart _ rfl,apart _ rfl,
    apart _ rfl⟩
  simp [blank,apart ' ' rfl,apart '\t' rfl,apart '\n' rfl,apart '\r' rfl]

private theorem intText_first (value : ℤ) : ∃ first rest, intText value = first :: rest ∧ blank first = false ∧
    first ≠ ']' ∧ first ≠ '\x7d' ∧ first ≠ '\x22' ∧ first ≠ '\x7b' ∧ first ≠ '[' ∧ first ≠ 'n' ∧
    first ≠ 't' ∧ first ≠ 'f' := by
  unfold intText
  split
  · exact ⟨_,_,rfl,by decide,by decide,by decide,by decide,by decide,by decide,by decide,by decide,
      by decide⟩
  · cases text : Nat.toDigits 10 value.natAbs with
    | nil => exact absurd text Nat.toDigits_ne_nil
    | cons digit tail =>
      have isDigit := Nat.isDigit_of_mem_toDigits (b := 10) (by omega) (by omega)
        (show digit ∈ Nat.toDigits 10 value.natAbs by simp [text])
      exact ⟨digit,tail,rfl,digit_plain digit isDigit⟩

private theorem render_first (ensureAscii : Bool) (value : Json) : ∃ first rest,
    render ensureAscii value = first :: rest ∧ blank first = false ∧ first ≠ ']' ∧ first ≠ '\x7d' := by
  cases value with
  | null => exact ⟨_,_,by rw [render],by decide,by decide,by decide⟩
  | bool value => cases value <;> exact ⟨_,_,by rw [render],by decide,by decide,by decide⟩
  | int value =>
    obtain ⟨first,rest,text,plain,bracket,brace,_⟩ := intText_first value
    exact ⟨first,rest,by rw [render,text],plain,bracket,brace⟩
  | str value => exact ⟨_,_,by rw [render,quoted]; rfl,by decide,by decide,by decide⟩
  | arr items => cases items <;> exact ⟨_,_,rfl,by decide,by decide,by decide⟩
  | obj fields => cases fields <;> exact ⟨_,_,rfl,by decide,by decide,by decide⟩

private theorem skip_cons (first : Char) (rest : List Char) (plain : blank first = false) :
    skip (first :: rest) = first :: rest := by
  rw [skip,List.dropWhile_cons_of_neg (by simp [plain])]

private theorem skip_render (ensureAscii : Bool) (value : Json) (rest : List Char) :
    skip (render ensureAscii value ++ rest) = render ensureAscii value ++ rest := by
  obtain ⟨first,tail,text,plain,_⟩ := render_first ensureAscii value
  rw [text,List.cons_append,skip_cons first _ plain]

private theorem render_pos (ensureAscii : Bool) (value : Json) : 0 < (render ensureAscii value).length := by
  obtain ⟨first,tail,text,_⟩ := render_first ensureAscii value
  simp [text]

private theorem renderItems_stops (ensureAscii : Bool) (items : List Json) (rest : List Char) :
    Stops (renderItems ensureAscii items ++ rest) := by
  cases items with
  | nil =>
    intro first tail same
    exact .inr (.inl (List.cons.inj same).1.symm)
  | cons item items =>
    intro first tail same
    rw [renderItems] at same
    exact .inl (List.cons.inj same).1.symm

private theorem renderFields_stops (ensureAscii : Bool) (fields : List (String × Json)) (rest : List Char) :
    Stops (renderFields ensureAscii fields ++ rest) := by
  cases fields with
  | nil =>
    intro first tail same
    exact .inr (.inr (.inl (List.cons.inj same).1.symm))
  | cons field fields =>
    intro first tail same
    rw [renderFields] at same
    exact .inl (List.cons.inj same).1.symm

private theorem scanValue_int (fuel : ℕ) (value : ℤ) (rest : List Char) (stops : Stops rest) :
    scanValue (fuel + 1) (intText value ++ rest) = .ok (.int value,rest) := by
  obtain ⟨first,tail,text,_,_,_,quote,brace,bracket,n,t,f⟩ := intText_first value
  have scanned := scanNumber_intText value rest stops
  rw [text,List.cons_append] at scanned ⊢
  rw [scanValue,if_neg quote,if_neg brace,if_neg bracket,if_neg n,if_neg t,if_neg f,scanned]

private theorem scanValue_str (ensureAscii : Bool) (fuel : ℕ) (value : String) (rest : List Char) :
    scanValue (fuel + 1) (quoted ensureAscii value ++ rest) = .ok (.str value,rest) := by
  simp only [quoted,List.cons_append,List.append_assoc,List.nil_append]
  rw [scanValue,if_pos rfl,scanString_quoted ensureAscii _ _ _ (by simp),Checked.ok_bind]
  simp [pure,Except.pure]

mutual
/-- The loader splits a canonical text off the front of what it is given. -/
private theorem scanValue_render (ensureAscii : Bool) (value : Json) (distinct : Distinct value) (fuel : ℕ)
    (rest : List Char) (enough : (render ensureAscii value).length ≤ fuel) (stops : Stops rest) :
    scanValue fuel (render ensureAscii value ++ rest) = .ok (value,rest) := by
  have positive := render_pos ensureAscii value
  obtain ⟨fuel,rfl⟩ : ∃ less, fuel = less + 1 := ⟨fuel - 1,by omega⟩
  match value with
  | .null => rfl
  | .bool true => rfl
  | .bool false => rfl
  | .int value =>
    rw [render]
    exact scanValue_int fuel value rest stops
  | .str value =>
    rw [render]
    exact scanValue_str ensureAscii fuel value rest
  | .arr [] => rfl
  | .arr (item :: items) =>
    have each : ∀ each ∈ item :: items, Distinct each := by
      cases distinct
      assumption
    rw [render,List.length_append,List.length_cons] at enough
    have scanned := scanItems_render ensureAscii item items each fuel rest (by omega)
    obtain ⟨first,tail,text,plain,bracket,_⟩ := render_first ensureAscii item
    simp only [render,List.cons_append,List.append_assoc]
    rw [scanValue,if_neg (by decide),if_neg (by decide),if_pos rfl,skip_render]
    rw [text,List.cons_append] at scanned ⊢
    split
    · rename_i closes
      exact absurd (List.cons.inj closes).1 bracket
    · rw [scanned,Checked.ok_bind]
      rfl
  | .obj [] => rfl
  | .obj ((key,held) :: fields) =>
    have each : ∀ each ∈ (key,held) :: fields, Distinct each.2 := by
      cases distinct
      assumption
    have keys : (((key,held) :: fields).map Prod.fst).Nodup := by
      cases distinct
      assumption
    rw [render,List.length_append,List.length_cons] at enough
    have scanned := scanFields_render ensureAscii key held fields each fuel rest (by omega)
    simp only [render,List.cons_append,List.append_assoc]
    rw [scanValue,if_neg (by decide),if_pos rfl]
    simp only [renderField,quoted,List.cons_append,List.append_assoc] at scanned ⊢
    rw [skip_cons _ _ (by decide)]
    refine Eq.trans (b := scanFields fuel _ >>= _) rfl ?_
    rw [scanned,Checked.ok_bind,if_pos keys]
    rfl
termination_by fuel
private theorem scanItems_render (ensureAscii : Bool) (item : Json) (items : List Json)
    (distinct : ∀ each ∈ item :: items, Distinct each) (fuel : ℕ) (rest : List Char)
    (enough : (render ensureAscii item).length + (renderItems ensureAscii items).length ≤ fuel) :
    scanItems fuel (render ensureAscii item ++ (renderItems ensureAscii items ++ rest)) =
      .ok (item :: items,rest) := by
  have positive := render_pos ensureAscii item
  obtain ⟨fuel,rfl⟩ : ∃ less, fuel = less + 1 := ⟨fuel - 1,by omega⟩
  have some : 0 < (renderItems ensureAscii items).length := by cases items <;> simp [renderItems]
  rw [scanItems,scanValue_render ensureAscii item (distinct item (by simp)) fuel _ (by omega)
    (renderItems_stops ensureAscii items rest),Checked.ok_bind]
  match items with
  | [] =>
    simp only [renderItems,List.cons_append,List.nil_append]
    rw [skip_cons _ _ (by decide)]
    rfl
  | next :: others =>
    simp only [renderItems,List.cons_append,List.append_assoc,List.length_cons,List.length_append]
      at enough ⊢
    rw [skip_cons _ _ (by decide)]
    refine Eq.trans (b := scanItems fuel (skip _) >>= _) rfl ?_
    rw [skip_render,scanItems_render ensureAscii next others
      (fun each member => distinct each (by simp [member])) fuel rest (by omega)]
    rfl
termination_by fuel
private theorem scanFields_render (ensureAscii : Bool) (key : String) (held : Json)
    (fields : List (String × Json)) (distinct : ∀ each ∈ (key,held) :: fields, Distinct each.2) (fuel : ℕ)
    (rest : List Char) (enough : (renderField ensureAscii (key,held)).length +
      (renderFields ensureAscii fields).length ≤ fuel) :
    scanFields fuel (renderField ensureAscii (key,held) ++ (renderFields ensureAscii fields ++ rest)) =
      .ok ((key,held) :: fields,rest) := by
  have positive : 0 < (renderField ensureAscii (key,held)).length := by simp [renderField]
  obtain ⟨fuel,rfl⟩ : ∃ less, fuel = less + 1 := ⟨fuel - 1,by omega⟩
  have some : 0 < (renderFields ensureAscii fields).length := by cases fields <;> simp [renderFields]
  have short : (render ensureAscii held).length ≤ fuel := by
    simp only [renderField,List.length_append,List.length_cons] at enough
    omega
  simp only [renderField,quoted,List.cons_append,List.append_assoc,List.nil_append]
  rw [scanFields]
  dsimp only
  rw [scanString_quoted ensureAscii _ _ _ (by simp),Checked.ok_bind]
  dsimp only
  rw [skip_cons _ _ (by decide)]
  refine Eq.trans (b := scanValue fuel (skip _) >>= _) rfl ?_
  rw [skip_render,scanValue_render ensureAscii held (distinct (key,held) (by simp)) fuel _ short
    (renderFields_stops ensureAscii fields rest),Checked.ok_bind]
  match fields with
  | [] =>
    simp only [renderFields,List.cons_append,List.nil_append]
    rw [skip_cons _ _ (by decide)]
    simp [pure,Except.pure]
  | (next,other) :: others =>
    simp only [renderFields,List.cons_append,List.append_assoc,List.length_cons,List.length_append]
      at enough ⊢
    rw [skip_cons _ _ (by decide)]
    refine Eq.trans (b := scanFields fuel (skip _) >>= _) rfl ?_
    have start : skip (renderField ensureAscii (next,other) ++ (renderFields ensureAscii others ++ rest)) =
        renderField ensureAscii (next,other) ++ (renderFields ensureAscii others ++ rest) := by
      simp only [renderField,quoted,List.cons_append]
      exact skip_cons _ _ (by decide)
    rw [start,scanFields_render ensureAscii next other others
      (fun each member => distinct each (by simp [member])) fuel rest (by omega)]
    simp [Checked.ok_bind,pure,Except.pure]
termination_by fuel
end

theorem loads_render (ensureAscii : Bool) (value : Json) (distinct : Distinct value) :
    loads (render ensureAscii value) = .ok value := by
  have start := skip_render ensureAscii value []
  have scanned := scanValue_render ensureAscii value distinct ((render ensureAscii value).length + 1) []
    (by omega) (by intro first tail same; cases same)
  rw [List.append_nil] at start scanned
  rw [loads,start,scanned,Checked.ok_bind]
  rfl

theorem loads_line (ensureAscii : Bool) (value : Json) (distinct : Distinct value) :
    loads (render ensureAscii value ++ ['\n']) = .ok value := by
  have start := skip_render ensureAscii value ['\n']
  have scanned := scanValue_render ensureAscii value distinct
    ((render ensureAscii value ++ ['\n']).length + 1) ['\n'] (by rw [List.length_append]; omega) (by
      intro first tail same
      exact .inr (.inr (.inr (List.cons.inj same).1.symm)))
  rw [loads,start,scanned,Checked.ok_bind]
  rfl

end Foundation.Json
