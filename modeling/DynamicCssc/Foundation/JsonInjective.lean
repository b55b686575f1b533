import DynamicCssc.Foundation.Json
import Mathlib.Tactic

/-! A canonical text determines its value: escapes form a prefix code, and a value can be
split off the front of any text that does not go on with a digit. -/
namespace Foundation.Json

private theorem digitChar_injective : ∀ left < 16, ∀ right < 16,
    Nat.digitChar left = Nat.digitChar right → left = right := by decide

private theorem hex4_injective (left right : ℕ) (hl : left < 0x10000) (hr : right < 0x10000)
    (same : hex4 left = hex4 right) : left = right := by
  simp only [hex4,List.cons.injEq,and_true] at same
  obtain ⟨a,b,c,d⟩ := same
  have a := digitChar_injective _ (Nat.mod_lt _ (by omega)) _ (Nat.mod_lt _ (by omega)) a
  have b := digitChar_injective _ (Nat.mod_lt _ (by omega)) _ (Nat.mod_lt _ (by omega)) b
  have c := digitChar_injective _ (Nat.mod_lt _ (by omega)) _ (Nat.mod_lt _ (by omega)) c
  have d := digitChar_injective _ (Nat.mod_lt _ (by omega)) _ (Nat.mod_lt _ (by omega)) d
  omega

/-- The character a short escape stands for. -/
def shortEscape (tag : Char) : Char :=
  if tag = 'n' then '\n' else if tag = 'r' then '\r' else if tag = 't' then '\t'
  else if tag = 'f' then '\x0c' else if tag = 'b' then '\x08' else tag

private theorem eq_of_code (character : Char) (code : ℕ)
    (same : character.toNat = code) : character = Char.ofNat code := by
  rw [← Char.ofNat_toNat character,same]

/-- The shapes of an escaped character. -/
inductive Escaped (character : Char) : List Char → Prop
  | plain (quote : character ≠ '\x22') (backslash : character ≠ '\x5c') :
    Escaped character [character]
  | short (tag : Char) (long : tag ≠ 'u') (same : character = shortEscape tag) :
    Escaped character ['\x5c',tag]
  | basic (low : character.toNat < 0x10000) :
    Escaped character ('\x5c' :: 'u' :: hex4 character.toNat)
  | pair (high : 0x10000 ≤ character.toNat) :
    Escaped character ('\x5c' :: 'u' :: hex4 (0xD800 + (character.toNat - 0x10000) / 0x400) ++
      '\x5c' :: 'u' :: hex4 (0xDC00 + (character.toNat - 0x10000) % 0x400))

theorem escape_escaped (ensureAscii : Bool) (character : Char) :
    Escaped character (escape ensureAscii character) := by
  unfold escape
  simp only []
  split
  · rename_i code
    exact .short _ (by decide) (eq_of_code character 0x22 code)
  split
  · rename_i code
    exact .short _ (by decide) (eq_of_code character 0x5C code)
  split
  · rename_i code
    exact .short _ (by decide) (eq_of_code character 0x0A code)
  split
  · rename_i code
    exact .short _ (by decide) (eq_of_code character 0x0D code)
  split
  · rename_i code
    exact .short _ (by decide) (eq_of_code character 0x09 code)
  split
  · rename_i code
    exact .short _ (by decide) (eq_of_code character 0x0C code)
  split
  · rename_i code
    exact .short _ (by decide) (eq_of_code character 0x08 code)
  split
  · split
    · rename_i low
      exact .basic low
    · rename_i high
      exact .pair (by omega)
  · rename_i quote backslash _ _ _ _ _ _
    exact .plain (fun same => quote (by rw [same]; decide))
      (fun same => backslash (by rw [same]; decide))

theorem surrogate_free (character : Char) :
    character.toNat < 0xD800 ∨ 0xDFFF < character.toNat ∧ character.toNat < 0x110000 := by
  have valid := character.valid
  simpa [UInt32.isValidChar,Nat.isValidChar] using valid

private theorem hex4_split (left right : ℕ) (restl restr : List Char) (hl : left < 0x10000)
    (hr : right < 0x10000) (same : hex4 left ++ restl = hex4 right ++ restr) :
    left = right ∧ restl = restr := by
  obtain ⟨codes,rest⟩ := List.append_inj same (by simp [hex4])
  exact ⟨hex4_injective left right hl hr codes,rest⟩

/-- Escapes form a prefix code. -/
private theorem escaped_split (left right : Char) (el er restl restr : List Char)
    (hl : Escaped left el) (hr : Escaped right er) (same : el ++ restl = er ++ restr) :
    left = right ∧ restl = restr := by
  have freel := surrogate_free left
  have freer := surrogate_free right
  cases hl with
  | plain quote backslash =>
    cases hr with
    | plain => exact List.cons.inj same
    | short => exact absurd (List.cons.inj same).1 backslash
    | basic => exact absurd (List.cons.inj same).1 backslash
    | pair => exact absurd (List.cons.inj same).1 backslash
  | short tag long here =>
    cases hr with
    | plain quote backslash => exact absurd (List.cons.inj same).1.symm backslash
    | short other otherLong there =>
      obtain ⟨rfl,rest⟩ := List.cons.inj (List.cons.inj same).2
      exact ⟨here.trans there.symm,rest⟩
    | basic => exact absurd (List.cons.inj (List.cons.inj same).2).1 long
    | pair => exact absurd (List.cons.inj (List.cons.inj same).2).1 long
  | basic low =>
    cases hr with
    | plain quote backslash => exact absurd (List.cons.inj same).1.symm backslash
    | short other otherLong there =>
      exact absurd (List.cons.inj (List.cons.inj same).2).1.symm otherLong
    | basic otherLow =>
      obtain ⟨codes,rest⟩ := hex4_split _ _ _ _ low otherLow
        (List.cons.inj (List.cons.inj same).2).2
      exact ⟨Char.toNat_inj.mp codes,rest⟩
    | pair high =>
      simp only [List.cons_append,List.append_assoc,List.cons.injEq,true_and] at same
      have codes := (hex4_split _ _ _ _ low (by omega) same).1
      omega
  | pair high =>
    cases hr with
    | plain quote backslash => exact absurd (List.cons.inj same).1.symm backslash
    | short other otherLong there =>
      exact absurd (List.cons.inj (List.cons.inj same).2).1.symm otherLong
    | basic low =>
      simp only [List.cons_append,List.append_assoc,List.cons.injEq,true_and] at same
      have codes := (hex4_split _ _ _ _ (by omega) low same).1
      omega
    | pair otherHigh =>
      simp only [List.cons_append,List.append_assoc,List.cons.injEq,true_and] at same
      obtain ⟨first,after⟩ := hex4_split _ _ _ _ (by omega) (by omega) same
      obtain ⟨second,rest⟩ := hex4_split _ _ _ _ (by omega) (by omega)
        (List.cons.inj (List.cons.inj after).2).2
      exact ⟨Char.toNat_inj.mp (by omega),rest⟩

private theorem escape_split (ensureAscii : Bool) (left right : Char) (restl restr : List Char)
    (same : escape ensureAscii left ++ restl = escape ensureAscii right ++ restr) :
    left = right ∧ restl = restr :=
  escaped_split left right _ _ restl restr (escape_escaped ensureAscii left)
    (escape_escaped ensureAscii right) same

private theorem escape_ne_quote (ensureAscii : Bool) (character : Char) (rest tail : List Char) :
    escape ensureAscii character ++ rest ≠ '\x22' :: tail := by
  intro same
  have shape := escape_escaped ensureAscii character
  generalize escape ensureAscii character = text at *
  cases shape <;> simp_all

private theorem escapes_split (ensureAscii : Bool) (left right restl restr : List Char)
    (same : left.flatMap (escape ensureAscii) ++ '\x22' :: restl =
      right.flatMap (escape ensureAscii) ++ '\x22' :: restr) : left = right ∧ restl = restr := by
  induction left generalizing right with
  | nil =>
    cases right with
    | nil => simpa using same
    | cons other right =>
      rw [List.flatMap_cons,List.append_assoc] at same
      exact absurd same.symm (escape_ne_quote ensureAscii other _ _)
  | cons character left ih =>
    cases right with
    | nil =>
      rw [List.flatMap_cons,List.append_assoc] at same
      exact absurd same (escape_ne_quote ensureAscii character _ _)
    | cons other right =>
      rw [List.flatMap_cons,List.flatMap_cons,List.append_assoc,List.append_assoc] at same
      obtain ⟨rfl,tail⟩ := escape_split ensureAscii _ _ _ _ same
      obtain ⟨rfl,rest⟩ := ih right tail
      exact ⟨rfl,rest⟩

private theorem quoted_split (ensureAscii : Bool) (left right : String) (restl restr : List Char)
    (same : quoted ensureAscii left ++ restl = quoted ensureAscii right ++ restr) :
    left = right ∧ restl = restr := by
  simp only [quoted,List.cons_append,List.append_assoc,List.cons.injEq,true_and,
    List.nil_append] at same
  obtain ⟨chars,rest⟩ := escapes_split ensureAscii _ _ _ _ same
  exact ⟨String.toList_inj.mp chars,rest⟩

/-- What follows a value never starts with a digit. -/
def NoDigit (rest : List Char) : Prop := ∀ digit tail, rest = digit :: tail → digit.isDigit = false

private theorem digits_split (left right restl restr : List Char)
    (hl : ∀ digit ∈ left, digit.isDigit = true) (hr : ∀ digit ∈ right, digit.isDigit = true)
    (endl : NoDigit restl) (endr : NoDigit restr) (same : left ++ restl = right ++ restr) :
    left = right ∧ restl = restr := by
  induction left generalizing right with
  | nil =>
    cases right with
    | nil => exact ⟨rfl,same⟩
    | cons digit right =>
      have stop := endl digit _ same
      rw [hr digit (by simp)] at stop
      cases stop
  | cons digit left ih =>
    cases right with
    | nil =>
      have stop := endr digit _ same.symm
      rw [hl digit (by simp)] at stop
      cases stop
    | cons other right =>
      simp only [List.cons_append,List.cons.injEq] at same
      obtain ⟨rfl,tail⟩ := same
      obtain ⟨rfl,rest⟩ := ih right (fun d hd => hl d (by simp [hd])) (fun d hd => hr d (by simp [hd])) tail
      exact ⟨rfl,rest⟩

private theorem toDigits_digits (number : ℕ) :
    ∀ digit ∈ Nat.toDigits 10 number, digit.isDigit = true :=
  fun _ member => Nat.isDigit_of_mem_toDigits (by omega) (by omega) member

private theorem toDigits_injective (left right : ℕ)
    (same : Nat.toDigits 10 left = Nat.toDigits 10 right) : left = right := by
  have values := congrArg (fun digits => Nat.ofDigitChars 10 digits 0) same
  simpa using values

private theorem toDigits_head (number : ℕ) : ∃ digit digits,
    Nat.toDigits 10 number = digit :: digits ∧ digit.isDigit = true := by
  have digits := toDigits_digits number
  cases text : Nat.toDigits 10 number with
  | nil => exact absurd text Nat.toDigits_ne_nil
  | cons digit rest => exact ⟨digit,rest,rfl,digits digit (by simp [text])⟩

private theorem intText_split (left right : ℤ) (restl restr : List Char) (endl : NoDigit restl)
    (endr : NoDigit restr) (same : intText left ++ restl = intText right ++ restr) :
    left = right ∧ restl = restr := by
  have minus : ∀ (number : ℕ) (rest tail : List Char),
      Nat.toDigits 10 number ++ rest ≠ '-' :: tail := by
    intro number rest tail clash
    obtain ⟨digit,digits,text,isDigit⟩ := toDigits_head number
    rw [text] at clash
    rw [(List.cons.inj clash).1] at isDigit
    contradiction
  unfold intText at same
  split at same <;> split at same
  · obtain ⟨digits,rest⟩ := digits_split _ _ _ _ (toDigits_digits _) (toDigits_digits _) endl endr
      (List.cons.inj same).2
    have := toDigits_injective _ _ digits
    exact ⟨by omega,rest⟩
  · exact absurd same.symm (minus _ _ _)
  · exact absurd same (minus _ _ _)
  · obtain ⟨digits,rest⟩ := digits_split _ _ _ _ (toDigits_digits _) (toDigits_digits _) endl endr same
    have := toDigits_injective _ _ digits
    exact ⟨by omega,rest⟩

def kindOf (first : Char) : ℕ :=
  if first = 'n' then 0 else if first = 't' then 1 else if first = 'f' then 2
  else if first = '\x22' then 4 else if first = '[' then 5 else if first = '\x7b' then 6 else 3

def kind : Json → ℕ
  | .null => 0
  | .bool true => 1
  | .bool false => 2
  | .int _ => 3
  | .str _ => 4
  | .arr _ => 5
  | .obj _ => 6

private theorem kindOf_digit (digit : Char) (isDigit : digit.isDigit = true) : kindOf digit = 3 := by
  have apart : ∀ letter : Char, letter.isDigit = false → digit ≠ letter := by
    rintro letter plain rfl
    rw [isDigit] at plain
    contradiction
  simp [kindOf,apart 'n' (by decide),apart 't' (by decide),apart 'f' (by decide),
    apart '\x22' (by decide),apart '[' (by decide),apart '\x7b' (by decide)]

private theorem render_head (ensureAscii : Bool) (value : Json) : ∃ first rest,
    render ensureAscii value = first :: rest ∧ kindOf first = kind value ∧ first ≠ ']' := by
  cases value with
  | null => exact ⟨_,_,by rw [render],rfl,by decide⟩
  | bool value => cases value <;> exact ⟨_,_,by rw [render],rfl,by decide⟩
  | int value =>
    rw [render,intText]
    split
    · exact ⟨_,_,rfl,rfl,by decide⟩
    · obtain ⟨digit,digits,text,isDigit⟩ := toDigits_head value.natAbs
      refine ⟨digit,digits,text,kindOf_digit digit isDigit,?_⟩
      rintro rfl
      contradiction
  | str value => exact ⟨_,_,by rw [render,quoted]; rfl,rfl,by decide⟩
  | arr items => cases items <;> exact ⟨_,_,rfl,rfl,by decide⟩
  | obj fields => cases fields <;> exact ⟨_,_,rfl,rfl,by decide⟩

private theorem render_kind (ensureAscii : Bool) (left right : Json) (restl restr : List Char)
    (same : render ensureAscii left ++ restl = render ensureAscii right ++ restr) :
    kind left = kind right := by
  obtain ⟨first,tail,textl,leftKind,_⟩ := render_head ensureAscii left
  obtain ⟨other,tailr,textr,rightKind,_⟩ := render_head ensureAscii right
  rw [textl,textr] at same
  rw [← leftKind,← rightKind,(List.cons.inj same).1]

private theorem render_ne_close (ensureAscii : Bool) (item : Json) (rest tail : List Char) :
    render ensureAscii item ++ rest ≠ ']' :: tail := by
  obtain ⟨first,text,shape,_,open'⟩ := render_head ensureAscii item
  intro same
  rw [shape] at same
  exact open' (List.cons.inj same).1

private theorem noDigit_cons (first : Char) (rest : List Char) (plain : first.isDigit = false) :
    NoDigit (first :: rest) := by
  intro digit tail same
  rw [← (List.cons.inj same).1,plain]

private theorem renderItems_noDigit (ensureAscii : Bool) (items : List Json) (rest : List Char) :
    NoDigit (renderItems ensureAscii items ++ rest) := by
  cases items <;> exact noDigit_cons _ _ (by decide)

private theorem renderFields_noDigit (ensureAscii : Bool) (fields : List (String × Json))
    (rest : List Char) : NoDigit (renderFields ensureAscii fields ++ rest) := by
  cases fields <;> exact noDigit_cons _ _ (by decide)

mutual
/-- A value can be split off the front of a text in one way. -/
private theorem render_split (ensureAscii : Bool) (left right : Json) (restl restr : List Char)
    (endl : NoDigit restl) (endr : NoDigit restr)
    (same : render ensureAscii left ++ restl = render ensureAscii right ++ restr) :
    left = right ∧ restl = restr := by
  have kinds := render_kind ensureAscii left right restl restr same
  match left, right with
  | .null, .null => exact ⟨rfl,List.append_cancel_left same⟩
  | .bool true, .bool true => exact ⟨rfl,List.append_cancel_left same⟩
  | .bool false, .bool false => exact ⟨rfl,List.append_cancel_left same⟩
  | .int value, .int other =>
    rw [render,render] at same
    obtain ⟨rfl,rest⟩ := intText_split value other _ _ endl endr same
    exact ⟨rfl,rest⟩
  | .str value, .str other =>
    rw [render,render] at same
    obtain ⟨rfl,rest⟩ := quoted_split ensureAscii value other _ _ same
    exact ⟨rfl,rest⟩
  | .arr [], .arr [] => exact ⟨rfl,List.append_cancel_left same⟩
  | .arr [], .arr (other :: others) =>
    simp only [render,List.cons_append,List.cons.injEq,true_and,List.append_assoc] at same
    exact absurd same.symm (render_ne_close ensureAscii other _ _)
  | .arr (item :: items), .arr [] =>
    simp only [render,List.cons_append,List.cons.injEq,true_and,List.append_assoc] at same
    exact absurd same (render_ne_close ensureAscii item _ _)
  | .arr (item :: items), .arr (other :: others) =>
    simp only [render,List.cons_append,List.cons.injEq,true_and,List.append_assoc] at same
    obtain ⟨rfl,tail⟩ := render_split ensureAscii item other _ _
      (renderItems_noDigit ensureAscii items restl) (renderItems_noDigit ensureAscii others restr) same
    obtain ⟨rfl,rest⟩ := renderItems_split ensureAscii items others _ _ endl endr tail
    exact ⟨rfl,rest⟩
  | .obj [], .obj [] => exact ⟨rfl,List.append_cancel_left same⟩
  | .obj [], .obj ((key,value) :: others) =>
    simp [render,renderField,quoted] at same
  | .obj ((key,value) :: fields), .obj [] =>
    simp [render,renderField,quoted] at same
  | .obj ((key,value) :: fields), .obj ((other,another) :: others) =>
    simp only [render,renderField,List.cons_append,List.cons.injEq,true_and,
      List.append_assoc] at same
    obtain ⟨rfl,named⟩ := quoted_split ensureAscii key other _ _ same
    obtain ⟨rfl,tail⟩ := render_split ensureAscii value another _ _
      (renderFields_noDigit ensureAscii fields restl)
      (renderFields_noDigit ensureAscii others restr) (List.cons.inj named).2
    obtain ⟨rfl,rest⟩ := renderFields_split ensureAscii fields others _ _ endl endr tail
    exact ⟨rfl,rest⟩
private theorem renderItems_split (ensureAscii : Bool) (left right : List Json) (restl restr : List Char)
    (endl : NoDigit restl) (endr : NoDigit restr)
    (same : renderItems ensureAscii left ++ restl = renderItems ensureAscii right ++ restr) :
    left = right ∧ restl = restr := by
  match left, right with
  | [], [] => exact ⟨rfl,List.append_cancel_left same⟩
  | [], other :: others => simp [renderItems] at same
  | item :: items, [] => simp [renderItems] at same
  | item :: items, other :: others =>
    simp only [renderItems,List.cons_append,List.cons.injEq,true_and,List.append_assoc] at same
    obtain ⟨rfl,tail⟩ := render_split ensureAscii item other _ _
      (renderItems_noDigit ensureAscii items restl) (renderItems_noDigit ensureAscii others restr) same
    obtain ⟨rfl,rest⟩ := renderItems_split ensureAscii items others _ _ endl endr tail
    exact ⟨rfl,rest⟩
private theorem renderFields_split (ensureAscii : Bool) (left right : List (String × Json))
    (restl restr : List Char) (endl : NoDigit restl) (endr : NoDigit restr)
    (same : renderFields ensureAscii left ++ restl = renderFields ensureAscii right ++ restr) :
    left = right ∧ restl = restr := by
  match left, right with
  | [], [] => exact ⟨rfl,List.append_cancel_left same⟩
  | [], other :: others => simp [renderFields] at same
  | field :: fields, [] => simp [renderFields] at same
  | (key,value) :: fields, (other,another) :: others =>
    simp only [renderFields,renderField,List.cons_append,List.cons.injEq,true_and,
      List.append_assoc] at same
    obtain ⟨rfl,named⟩ := quoted_split ensureAscii key other _ _ same
    obtain ⟨rfl,tail⟩ := render_split ensureAscii value another _ _
      (renderFields_noDigit ensureAscii fields restl)
      (renderFields_noDigit ensureAscii others restr) (List.cons.inj named).2
    obtain ⟨rfl,rest⟩ := renderFields_split ensureAscii fields others _ _ endl endr tail
    exact ⟨rfl,rest⟩
end

/-- The canonical text of a value determines the value. -/
theorem dumps_injective (ensureAscii : Bool) : Function.Injective (dumps ensureAscii) := by
  intro left right same
  have texts : render ensureAscii left ++ [] = render ensureAscii right ++ [] := by
    simpa [dumps] using congrArg String.toList same
  exact (render_split ensureAscii left right [] [] (by intro _ _ h; contradiction)
    (by intro _ _ h; contradiction) texts).1

theorem intText_injective : Function.Injective intText := by
  intro left right same
  exact (intText_split left right [] [] (by intro _ _ h; contradiction)
    (by intro _ _ h; contradiction) (by simpa using same)).1

end Foundation.Json
