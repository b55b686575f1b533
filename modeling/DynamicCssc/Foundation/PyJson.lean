import DynamicCssc.Foundation.JsonCanonical
import Mathlib.Data.Rat.Defs

/-! JSON values as Python holds them. `==` identifies a boolean, an integer and a float of one value;
the canonical text tells them apart. -/
namespace Foundation

/-- A float: what `float.__repr__` writes, a numeral with a point or an exponent, and its value. -/
structure PyFloat where
  text : List Char
  value : ℚ
  numeral : ∀ char ∈ text, char.isDigit = true ∨ char ∈ ['-','+','.','e']
  marked : '.' ∈ text ∨ 'e' ∈ text
deriving DecidableEq, Repr

inductive PyJson
  | null
  | bool (value : Bool)
  | int (value : ℤ)
  | float (value : PyFloat)
  | str (value : String)
  | arr (items : List PyJson)
  | obj (fields : List (String × PyJson))

namespace PyJson

def number : PyJson → Option ℚ
  | .bool value => some (if value then 1 else 0)
  | .int value => some value
  | .float value => some value.value
  | _ => none

def isNull : PyJson → Bool
  | .null => true
  | _ => false

def string : PyJson → Option String
  | .str value => some value
  | _ => none

def items : PyJson → Option (List PyJson)
  | .arr items => some items
  | _ => none

def fields : PyJson → Option (List (String × PyJson))
  | .obj fields => some fields
  | _ => none

def member (fields : List (String × PyJson)) (key : String) : PyJson := (fields.lookup key).getD .null

mutual
/-- Python's `==`. -/
def equal : PyJson → PyJson → Bool
  | .null, other => isNull other
  | .bool value, other => number other == some (if value then 1 else 0)
  | .int value, other => number other == some (value : ℚ)
  | .float value, other => number other == some value.value
  | .str value, other => string other == some value
  | .arr values, other => match items other with
    | none => false
    | some others => equalItems values others
  | .obj entries, other => match fields other with
    | none => false
    | some others => entries.length == others.length && equalFields entries others
def equalItems : List PyJson → List PyJson → Bool
  | [], [] => true
  | value :: values, other :: others => equal value other && equalItems values others
  | _, _ => false
def equalFields : List (String × PyJson) → List (String × PyJson) → Bool
  | [], _ => true
  | (key,value) :: entries, others => (match others.lookup key with
    | none => false
    | some other => equal value other) && equalFields entries others
end

def entryText (entry : String × List Char) : List Char := Json.quoted true entry.1 ++ ':' :: entry.2

def braceTail : List (String × List Char) → List Char
  | [] => ['\x7d']
  | entry :: entries => ',' :: (entryText entry ++ braceTail entries)

def braces : List (String × List Char) → List Char
  | [] => ['\x7b','\x7d']
  | entry :: entries => '\x7b' :: (entryText entry ++ braceTail entries)

def bracketTail : List (List Char) → List Char
  | [] => [']']
  | item :: items => ',' :: (item ++ bracketTail items)

def brackets : List (List Char) → List Char
  | [] => ['[',']']
  | item :: items => '[' :: (item ++ bracketTail items)

mutual
/-- `json.dumps(value, sort_keys=True, separators=(",", ":"), ensure_ascii=True)`. -/
def text : PyJson → List Char
  | .null => ['n','u','l','l']
  | .bool true => ['t','r','u','e']
  | .bool false => ['f','a','l','s','e']
  | .int value => Json.intText value
  | .float value => value.text
  | .str value => Json.quoted true value
  | .arr items => brackets (texts items)
  | .obj fields => braces (Sorting.sortedBy Prod.fst (fieldTexts fields))
def texts : List PyJson → List (List Char)
  | [] => []
  | item :: items => text item :: texts items
def fieldTexts : List (String × PyJson) → List (String × List Char)
  | [] => []
  | (key,value) :: fields => (key,text value) :: fieldTexts fields
end

inductive Distinct : PyJson → Prop
  | null : Distinct .null
  | bool (value : Bool) : Distinct (.bool value)
  | int (value : ℤ) : Distinct (.int value)
  | float (value : PyFloat) : Distinct (.float value)
  | str (value : String) : Distinct (.str value)
  | arr (items : List PyJson) (each : ∀ item ∈ items, Distinct item) : Distinct (.arr items)
  | obj (fields : List (String × PyJson)) (keys : (fields.map Prod.fst).Nodup)
    (each : ∀ field ∈ fields, Distinct field.2) : Distinct (.obj fields)

inductive Strict : PyJson → Prop
  | null : Strict .null
  | int (value : ℤ) : Strict (.int value)
  | str (value : String) : Strict (.str value)
  | arr (items : List PyJson) (each : ∀ item ∈ items, Strict item) : Strict (.arr items)
  | obj (fields : List (String × PyJson)) (keys : (fields.map Prod.fst).Nodup)
    (each : ∀ field ∈ fields, Strict field.2) : Strict (.obj fields)

theorem texts_eq : ∀ items, texts items = items.map text
  | [] => rfl
  | item :: items => by rw [texts,texts_eq items,List.map_cons]

theorem fieldTexts_eq : ∀ fields, fieldTexts fields = fields.map fun field => (field.1,text field.2)
  | [] => rfl
  | (key,value) :: fields => by rw [fieldTexts,fieldTexts_eq fields,List.map_cons]

theorem equalItems_iff (values others : List PyJson) :
    equalItems values others = true ↔ List.Forall₂ (fun value other => equal value other = true) values others := by
  induction values generalizing others with
  | nil => cases others <;> simp [equalItems]
  | cons value values ih => cases others <;> simp [equalItems,ih]

private theorem equalFields_iff (entries others : List (String × PyJson)) :
    equalFields entries others = true ↔
      ∀ entry ∈ entries, ∃ other, others.lookup entry.1 = some other ∧ equal entry.2 other = true := by
  induction entries with
  | nil => simp [equalFields]
  | cons entry entries ih =>
    obtain ⟨key,value⟩ := entry
    rw [equalFields,Bool.and_eq_true,ih,List.forall_mem_cons]
    refine and_congr_left fun _ => ?_
    cases others.lookup key <;> simp

private theorem member_of_lookup {fields : List (String × PyJson)} {key : String} {value : PyJson}
    (found : fields.lookup key = some value) : member fields key = value := by
  rw [member,found,Option.getD_some]

theorem mem_of_lookup {fields : List (String × PyJson)} {key : String} {value : PyJson}
    (found : fields.lookup key = some value) : (key,value) ∈ fields := by
  induction fields with
  | nil => cases found
  | cons field fields ih =>
    obtain ⟨name,held⟩ := field
    rw [List.lookup_cons] at found
    by_cases same : key = name
    · subst same
      simp only [beq_self_eq_true,Option.some.injEq] at found
      rw [found]
      exact List.mem_cons_self
    · rw [beq_eq_false_iff_ne.mpr same] at found
      exact List.mem_cons_of_mem _ (ih found)

private theorem lookup_of_mem {fields : List (String × PyJson)} (keys : (fields.map Prod.fst).Nodup) {key : String}
    {value : PyJson} (inside : (key,value) ∈ fields) : fields.lookup key = some value := by
  induction fields with
  | nil => cases inside
  | cons field fields ih =>
    obtain ⟨name,held⟩ := field
    obtain ⟨apart,keys⟩ := List.nodup_cons.mp keys
    rw [List.lookup_cons]
    obtain same | later := List.mem_cons.mp inside
    · obtain ⟨rfl,rfl⟩ := Prod.mk.inj same
      rw [beq_self_eq_true]
    · have differs : key ≠ name := by
        rintro rfl
        exact apart (List.mem_map.mpr ⟨_,later,rfl⟩)
      rw [beq_eq_false_iff_ne.mpr differs]
      exact ih keys later

theorem member_of_mem {fields : List (String × PyJson)} (keys : (fields.map Prod.fst).Nodup) {key : String}
    {value : PyJson} (inside : (key,value) ∈ fields) : member fields key = value :=
  member_of_lookup (lookup_of_mem keys inside)

theorem equal_obj {entries others : List (String × PyJson)} (keys : (entries.map Prod.fst).Nodup)
    (same : equal (.obj entries) (.obj others) = true) :
    others.Perm (entries.map fun entry => (entry.1,member others entry.1)) ∧
      ∀ entry ∈ entries, equal entry.2 (member others entry.1) = true := by
  rw [equal,fields,Bool.and_eq_true,beq_iff_eq,equalFields_iff] at same
  obtain ⟨length,found⟩ := same
  have nodup : (entries.map fun entry => (entry.1,member others entry.1)).Nodup := by
    refine List.Nodup.of_map Prod.fst ?_
    rw [List.map_map]
    exact keys
  refine ⟨?_,fun entry inside => ?_⟩
  · refine ((List.subperm_of_subset nodup fun field inside => ?_).perm_of_length_le ?_).symm
    · obtain ⟨entry,inEntries,rfl⟩ := List.mem_map.mp inside
      obtain ⟨other,here,_⟩ := found entry inEntries
      rw [member_of_lookup here]
      exact mem_of_lookup here
    · rw [List.length_map]
      exact length.ge
  · obtain ⟨other,here,equals⟩ := found entry inside
    rwa [member_of_lookup here]

private theorem sorted_values {α : Type} (entries : List (String × α)) (keys : (entries.map Prod.fst).Nodup)
    (value : String × α → List Char) :
    Sorting.sortedBy Prod.fst (entries.map fun entry => (entry.1,value entry)) =
      (Sorting.sortedBy Prod.fst entries).map fun entry => (entry.1,value entry) := by
  refine Sorting.eq_of_perm_of_ordered Prod.fst ?_ ?_ (Sorting.sortedBy_ordered _ _) ?_
  · exact (Sorting.sortedBy_perm _ _).trans ((Sorting.sortedBy_perm Prod.fst entries).map _).symm
  · refine ((Sorting.sortedBy_perm _ _).map Prod.fst).nodup_iff.mpr ?_
    rw [List.map_map]
    exact keys
  · exact List.pairwise_map.mpr (Sorting.sortedBy_ordered Prod.fst entries)

private theorem text_obj {entries others : List (String × PyJson)} (keys : (entries.map Prod.fst).Nodup)
    (perm : others.Perm (entries.map fun entry => (entry.1,member others entry.1))) :
    text (.obj others) = braces ((Sorting.sortedBy Prod.fst entries).map fun entry =>
      (entry.1,text (member others entry.1))) := by
  have texts : (fieldTexts others).Perm (entries.map fun entry => (entry.1,text (member others entry.1))) := by
    rw [fieldTexts_eq]
    have mapped := perm.map fun field : String × PyJson => (field.1,text field.2)
    rwa [List.map_map] at mapped
  have distinct : ((fieldTexts others).map Prod.fst).Nodup := by
    refine (texts.map Prod.fst).nodup_iff.mpr ?_
    rw [List.map_map]
    exact keys
  rw [text,Sorting.sortedBy_eq_of_perm Prod.fst texts distinct,
    sorted_values entries keys fun entry => text (member others entry.1)]

theorem Strict.text_eq {value other : PyJson} (strict : Strict value) (also : Strict other)
    (same : equal value other = true) : text value = text other := by
  induction strict generalizing other with
  | null => cases also <;> simp_all [equal,isNull]
  | int number =>
    cases also <;> simp_all [equal,PyJson.number]
  | str value => cases also <;> simp_all [equal,string]
  | arr values each ih =>
    cases also with
    | arr others strict =>
      rw [equal,items,equalItems_iff] at same
      rw [text,text,texts_eq,texts_eq]
      congr 1
      induction same with
      | nil => rfl
      | cons here rest tail =>
        rw [List.map_cons,List.map_cons,ih _ List.mem_cons_self (strict _ List.mem_cons_self) here,
          tail (fun item inside => each item (List.mem_cons_of_mem _ inside))
            (fun item inside => ih item (List.mem_cons_of_mem _ inside))
            (fun item inside => strict item (List.mem_cons_of_mem _ inside))]
    | null | int | str | obj => simp [equal,items] at same
  | obj entries keys each ih =>
    cases also with
    | obj others distinct strict =>
      obtain ⟨perm,equals⟩ := equal_obj keys same
      rw [text_obj keys perm,text,fieldTexts_eq,sorted_values entries keys fun entry => text entry.2]
      congr 1
      refine List.map_congr_left fun entry inside => ?_
      have inEntries := (Sorting.mem_sortedBy _ _ _).mp inside
      have inOthers : (entry.1,member others entry.1) ∈ others :=
        perm.mem_iff.mpr (List.mem_map.mpr ⟨entry,inEntries,rfl⟩)
      rw [ih entry inEntries (strict _ inOthers) (equals entry inEntries)]
    | null | int | str | arr => simp [equal,fields] at same

theorem Strict.equal_self {value : PyJson} (strict : Strict value) : equal value value = true := by
  induction strict with
  | null => rfl
  | int value => simp [equal,number]
  | str value => simp [equal,string]
  | arr values _ ih =>
    rw [equal,items,equalItems_iff,List.forall₂_same]
    exact ih
  | obj entries keys _ ih =>
    rw [equal,fields,Bool.and_eq_true,beq_iff_eq,equalFields_iff]
    exact ⟨rfl,fun entry inside => ⟨entry.2,lookup_of_mem keys inside,ih entry inside⟩⟩

theorem Strict.distinct {value : PyJson} (strict : Strict value) : Distinct value := by
  induction strict with
  | null => exact .null
  | int value => exact .int value
  | str value => exact .str value
  | arr items _ ih => exact .arr items ih
  | obj fields keys _ ih => exact .obj fields keys ih

/-! A dictionary tells its values apart whose texts do not run into the next entry. -/

/-- A text without a comma and without a closing brace. -/
def Plain (text : List Char) : Prop := ∀ char ∈ text, char ≠ ',' ∧ char ≠ '\x7d'

private theorem braceTail_stop (entries : List (String × List Char)) :
    ∃ first rest, braceTail entries = first :: rest ∧ (first = ',' ∨ first = '\x7d') := by
  cases entries with
  | nil => exact ⟨_,_,rfl,.inr rfl⟩
  | cons entry entries => exact ⟨_,_,rfl,.inl rfl⟩

private theorem plain_split (left right : List Char) (plainLeft : Plain left) (plainRight : Plain right)
    (entries others : List (String × List Char))
    (same : left ++ braceTail entries = right ++ braceTail others) : left = right := by
  have taken (text : List Char) (plain : Plain text) (entries : List (String × List Char)) :
      (text ++ braceTail entries).takeWhile (fun char => char != ',' && char != '\x7d') = text := by
    obtain ⟨first,rest,made,stop⟩ := braceTail_stop entries
    rw [List.takeWhile_append_of_pos fun char inside => by simpa using plain char inside,made]
    obtain rfl | rfl := stop <;> simp
  rw [← taken left plainLeft entries,same,taken right plainRight others]

private theorem braceTail_inj {α : Type} (entries : List (String × α)) (left right : String × α → List Char)
    (each : ∀ entry ∈ entries, left entry = right entry ∨ (Plain (left entry) ∧ Plain (right entry)))
    (same : braceTail (entries.map fun entry => (entry.1,left entry)) =
      braceTail (entries.map fun entry => (entry.1,right entry))) :
    ∀ entry ∈ entries, left entry = right entry := by
  induction entries with
  | nil => simp
  | cons entry entries ih =>
    simp only [List.map_cons,braceTail,entryText,List.cons.injEq,true_and,List.append_assoc,
      List.cons_append,List.append_cancel_left_eq] at same
    have here : left entry = right entry :=
      (each entry List.mem_cons_self).elim id fun plain => plain_split _ _ plain.1 plain.2 _ _ same
    rw [here,List.append_cancel_left_eq] at same
    exact List.forall_mem_cons.mpr ⟨here,ih (fun other inside => each other (List.mem_cons_of_mem _ inside)) same⟩

private theorem braces_inj {α : Type} (entries : List (String × α)) (left right : String × α → List Char)
    (each : ∀ entry ∈ entries, left entry = right entry ∨ (Plain (left entry) ∧ Plain (right entry))) :
    braces (entries.map fun entry => (entry.1,left entry)) =
      braces (entries.map fun entry => (entry.1,right entry)) ↔ ∀ entry ∈ entries, left entry = right entry := by
  constructor
  · intro same
    refine braceTail_inj entries left right each ?_
    cases entries with
    | nil => rfl
    | cons entry entries => exact congrArg (List.cons ',') (List.cons.inj same).2
  · intro equals
    rw [List.map_congr_left fun entry inside => by rw [equals entry inside]]

private theorem intText_chars (value : ℤ) : ∀ char ∈ Json.intText value, char.isDigit = true ∨ char = '-' := by
  intro char inside
  have digits (inside : char ∈ Nat.toDigits 10 value.natAbs) : char.isDigit = true :=
    Nat.isDigit_of_mem_toDigits (by decide) (by decide) inside
  unfold Json.intText at inside
  split at inside
  · obtain rfl | inside := List.mem_cons.mp inside
    · exact .inr rfl
    · exact .inl (digits inside)
  · exact .inl (digits inside)

private theorem intText_plain (value : ℤ) : Plain (Json.intText value) := by
  intro char inside
  constructor <;> rintro rfl <;> exact absurd (intText_chars value _ inside) (by decide)

private theorem number_text {value : PyJson} {integer : ℤ} (same : equal (.int integer) value = true) :
    Plain (text value) ∧ (text value = Json.intText integer ↔ value = .int integer) := by
  rw [equal,beq_iff_eq] at same
  cases value with
  | bool flag =>
    constructor
    · intro char inside
      cases flag <;> simp only [text,List.mem_cons,List.not_mem_nil,or_false] at inside <;>
        rcases inside with rfl | rfl | rfl | rfl | rfl <;> decide
    · refine ⟨fun written => ?_,fun equal => by cases equal⟩
      have letter : 'e' ∈ text (.bool flag) := by cases flag <;> decide
      rw [written] at letter
      exact absurd (intText_chars integer _ letter) (by decide)
  | int value =>
    rw [number,Option.some.injEq] at same
    obtain rfl : value = integer := by exact_mod_cast same
    exact ⟨intText_plain value,by simp [text]⟩
  | float value =>
    constructor
    · intro char inside
      constructor <;> rintro rfl <;> exact absurd (value.numeral _ inside) (by decide)
    · refine ⟨fun written => ?_,fun equal => by cases equal⟩
      rw [text] at written
      obtain marked | marked := value.marked <;> rw [written] at marked <;>
        exact absurd (intText_chars integer _ marked) (by decide)
  | null | str | arr | obj => simp [number] at same

/-- Equal dictionaries whose values are numbers and integers or have only integers in them: they have one
text exactly when the numbers are integers. -/
theorem text_obj_iff {entries others : List (String × PyJson)} (keys : (entries.map Prod.fst).Nodup)
    (same : equal (.obj entries) (.obj others) = true)
    (each : ∀ entry ∈ entries, (Strict entry.2 ∧ Strict (member others entry.1)) ∨ ∃ integer, entry.2 = .int integer) :
    text (.obj entries) = text (.obj others) ↔
      ∀ entry ∈ entries, ∀ integer, entry.2 = .int integer → member others entry.1 = .int integer := by
  obtain ⟨perm,equals⟩ := equal_obj keys same
  have written (entry : String × PyJson) (inside : entry ∈ entries) : text entry.2 = text (member others entry.1) ∨
      (Plain (text entry.2) ∧ Plain (text (member others entry.1))) := by
    obtain strict | ⟨integer,held⟩ := each entry inside
    · exact .inl (strict.1.text_eq strict.2 (equals entry inside))
    · have here := equals entry inside
      rw [held] at here ⊢
      exact .inr ⟨intText_plain integer,(number_text here).1⟩
  rw [text_obj keys perm,text,fieldTexts_eq,sorted_values entries keys fun entry => text entry.2,
    braces_inj _ (fun entry => text entry.2) (fun entry => text (member others entry.1))
      fun entry inside => written entry ((Sorting.mem_sortedBy _ _ _).mp inside)]
  simp only [Sorting.mem_sortedBy]
  constructor
  · intro agree entry inside integer held
    have here := equals entry inside
    have texts := agree entry inside
    rw [held] at here texts
    exact (number_text here).2.mp texts.symm
  · intro integers entry inside
    obtain strict | ⟨integer,held⟩ := each entry inside
    · exact strict.1.text_eq strict.2 (equals entry inside)
    · rw [integers entry inside integer held,held]

/-! Every text is ASCII, so the bytes determine it. -/

private theorem bracketTail_ascii (items : List (List Char)) (each : ∀ item ∈ items, Json.Ascii item) :
    Json.Ascii (bracketTail items) := by
  induction items with
  | nil => simp [bracketTail]
  | cons item items ih => simp_all [bracketTail]

private theorem braceTail_ascii (entries : List (String × List Char)) (each : ∀ entry ∈ entries, Json.Ascii entry.2) :
    Json.Ascii (braceTail entries) := by
  induction entries with
  | nil => simp [braceTail]
  | cons entry entries ih => simp_all [braceTail,entryText,Json.quoted_ascii]

mutual
private theorem text_ascii : ∀ value, Json.Ascii (text value)
  | .null => by simp [text]
  | .bool true => by simp [text]
  | .bool false => by simp [text]
  | .int value => by simpa [text] using Json.intText_ascii value
  | .float value => by
    intro char inside
    obtain digit | mark := value.numeral char inside
    · simp only [Char.isDigit,Bool.and_eq_true,decide_eq_true_eq] at digit
      have below : char.val.toNat ≤ 57 := UInt32.le_iff_toNat_le.mp digit.2
      change char.val.toNat < 0x80
      omega
    · revert mark
      simp only [List.mem_cons,List.not_mem_nil,or_false]
      rintro (rfl | rfl | rfl | rfl) <;> decide
  | .str value => by simpa [text] using Json.quoted_ascii value
  | .arr items => by
    have each := texts_ascii items
    rw [text]
    cases held : texts items with
    | nil => simp [brackets]
    | cons item rest =>
      rw [held] at each
      simp [brackets,each item List.mem_cons_self,
        bracketTail_ascii rest fun other inside => each other (List.mem_cons_of_mem _ inside)]
  | .obj fields => by
    have each := fieldTexts_ascii fields
    rw [text]
    cases held : Sorting.sortedBy Prod.fst (fieldTexts fields) with
    | nil => simp [braces]
    | cons entry rest =>
      have all (other : String × List Char) (inside : other ∈ entry :: rest) : Json.Ascii other.2 :=
        each other ((Sorting.mem_sortedBy _ _ _).mp (held ▸ inside))
      simp [braces,entryText,Json.quoted_ascii,all entry List.mem_cons_self,
        braceTail_ascii rest fun other inside => all other (List.mem_cons_of_mem _ inside)]
private theorem texts_ascii : ∀ items, ∀ text ∈ texts items, Json.Ascii text
  | [] => by simp [texts]
  | item :: items => by
    rw [texts]
    exact List.forall_mem_cons.mpr ⟨text_ascii item,texts_ascii items⟩
private theorem fieldTexts_ascii : ∀ fields, ∀ entry ∈ fieldTexts fields, Json.Ascii entry.2
  | [] => by simp [fieldTexts]
  | (key,value) :: fields => by
    rw [fieldTexts]
    exact List.forall_mem_cons.mpr ⟨text_ascii value,fieldTexts_ascii fields⟩
end

/-- `(json.dumps(...) + "\n").encode("ascii")`. -/
def canonicalBytes (value : PyJson) : List UInt8 := Json.asciiEncode (text value ++ ['\n'])

theorem canonicalBytes_inj (value other : PyJson) :
    canonicalBytes value = canonicalBytes other ↔ text value = text other := by
  constructor
  · intro same
    have ascii (value : PyJson) : Json.Ascii (text value ++ ['\n']) := by simp [text_ascii value]
    have decoded := Json.asciiDecode_encode _ (ascii value)
    rw [show Json.asciiEncode (text value ++ ['\n']) = Json.asciiEncode (text other ++ ['\n']) from same,
      Json.asciiDecode_encode _ (ascii other),Option.some.injEq] at decoded
    exact (List.append_cancel_right decoded).symm
  · intro same
    rw [canonicalBytes,same,canonicalBytes]

end PyJson

end Foundation
