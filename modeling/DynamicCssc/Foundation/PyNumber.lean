import DynamicCssc.Foundation.PyJson
import Mathlib.Data.Rat.Floor

/-! Python numbers: `==` compares their values, `type(number) is int` and the text tell them apart. -/
namespace Foundation

inductive PyNumber
  | bool (value : Bool)
  | int (value : ℤ)
  | float (value : PyFloat)
deriving DecidableEq, Repr

namespace PyNumber

def value : PyNumber → ℚ
  | .bool value => if value then 1 else 0
  | .int value => value
  | .float value => value.value

/-- `type(number) is int`. -/
def isStrictInt : PyNumber → Bool
  | .int _ => true
  | _ => false

def isFloat : PyNumber → Bool
  | .float _ => true
  | _ => false

/-- The integer that a number equals, or else the next one below. -/
def whole (number : PyNumber) : ℤ := ⌊number.value⌋

def isNatural (number : PyNumber) : Bool := number.value = (number.whole.toNat : ℚ)

private theorem whole_eq {number : PyNumber} {integer : ℤ} (same : number.value = integer) : number.whole = integer := by
  rw [whole,same,Int.floor_intCast]

@[simp] theorem whole_int (integer : ℤ) : (PyNumber.int integer).whole = integer := whole_eq rfl

theorem whole_toNat {number : PyNumber} {natural : ℕ} (same : number.value = natural) :
    number.whole.toNat = natural := by
  rw [whole_eq (same.trans (Int.cast_natCast natural).symm),Int.toNat_natCast]

theorem value_whole {number : PyNumber} (strict : number.isStrictInt = true) : number.value = number.whole := by
  cases number with
  | int integer => rw [whole_int]; rfl
  | bool value => cases strict
  | float value => cases strict

def json : PyNumber → PyJson
  | .bool value => .bool value
  | .int value => .int value
  | .float value => .float value

/-- The integer of a number of the class `int`. -/
def integer : PyNumber → Option ℤ
  | .int value => some value
  | _ => none

theorem int_integers {numbers : List PyNumber} (strict : ∀ number ∈ numbers, number.isStrictInt = true) :
    (numbers.filterMap integer).map PyNumber.int = numbers := by
  induction numbers with
  | nil => rfl
  | cons number numbers ih =>
    have here := strict number List.mem_cons_self
    cases number with
    | int value =>
      have rest := ih fun other member => strict other (List.mem_cons_of_mem _ member)
      exact congrArg (List.cons (PyNumber.int value)) rest
    | bool value => cases here
    | float value => cases here

end PyNumber

namespace PyJson

def ints (values : List ℤ) : PyJson := .arr (values.map .int)

mutual
def ofJson : Json → PyJson
  | .null => .null
  | .bool value => .bool value
  | .int value => .int value
  | .str value => .str value
  | .arr items => .arr (ofItems items)
  | .obj fields => .obj (ofFields fields)
def ofItems : List Json → List PyJson
  | [] => []
  | item :: items => ofJson item :: ofItems items
def ofFields : List (String × Json) → List (String × PyJson)
  | [] => []
  | (key,value) :: fields => (key,ofJson value) :: ofFields fields
end

theorem ofItems_eq (items : List Json) : ofItems items = items.map ofJson := by
  induction items with
  | nil => rfl
  | cons item items ih => rw [ofItems,ih,List.map_cons]

theorem ofFields_eq (fields : List (String × Json)) :
    ofFields fields = fields.map fun field => (field.1,ofJson field.2) := by
  induction fields with
  | nil => rfl
  | cons field fields ih => rw [ofFields,ih,List.map_cons]

theorem ofJson_ints (values : List ℤ) : ofJson (.ints values) = ints values := by
  rw [Json.ints,ofJson,ofItems_eq,List.map_map]
  rfl

private theorem renderItems_eq (items : List Json) :
    Json.renderItems true items = bracketTail (items.map (Json.render true)) := by
  induction items with
  | nil => rfl
  | cons item items ih => rw [Json.renderItems,ih,List.map_cons,bracketTail,List.cons_append]

private theorem renderFields_eq (fields : List (String × Json)) :
    Json.renderFields true fields = braceTail (fields.map fun field => (field.1,Json.render true field.2)) := by
  induction fields with
  | nil => rfl
  | cons field fields ih =>
    obtain ⟨key,value⟩ := field
    rw [Json.renderFields,ih,List.map_cons,braceTail,Json.renderField,entryText,List.cons_append]

private theorem render_arr (items : List Json) :
    Json.render true (.arr items) = brackets (items.map (Json.render true)) := by
  cases items with
  | nil => rfl
  | cons item items => rw [Json.render,renderItems_eq,List.map_cons,brackets,List.cons_append]

private theorem render_obj (fields : List (String × Json)) : Json.render true (.obj fields) =
    braces (fields.map fun field => (field.1,Json.render true field.2)) := by
  cases fields with
  | nil => rfl
  | cons field fields =>
    obtain ⟨key,value⟩ := field
    rw [Json.render,renderFields_eq,List.map_cons,braces,Json.renderField,entryText,List.cons_append]

/-- A canonical value without floats has one text, however it is held. -/
theorem text_ofJson {value : Json} (canonical : Json.Canonical value) :
    text (ofJson value) = Json.render true value := by
  induction canonical with
  | null => rfl
  | bool value => cases value <;> rfl
  | int value => rw [ofJson,text,Json.render]
  | str value => rw [ofJson,text,Json.render]
  | arr items _ ih =>
    rw [ofJson,text,texts_eq,ofItems_eq,List.map_map,render_arr]
    exact congrArg brackets (List.map_congr_left ih)
  | object fields _ _ ih =>
    have ordered := Sorting.sortedBy_ordered Prod.fst fields
    rw [Json.object,ofJson,text,fieldTexts_eq,ofFields_eq,List.map_map,render_obj]
    have same : (Sorting.sortedBy Prod.fst fields).map
          ((fun field : String × PyJson => (field.1,text field.2)) ∘ fun field => (field.1,ofJson field.2)) =
        (Sorting.sortedBy Prod.fst fields).map fun field => (field.1,Json.render true field.2) := by
      refine List.map_congr_left fun field member => ?_
      exact congrArg (Prod.mk field.1) (ih field ((Sorting.mem_sortedBy _ _ _).mp member))
    have kept : ((Sorting.sortedBy Prod.fst fields).map fun field => (field.1,Json.render true field.2)).Pairwise
        fun left right => left.1 ≤ right.1 := List.pairwise_map.mpr ordered
    rw [same,Sorting.sortedBy_eq_self Prod.fst kept]

end PyJson
end Foundation
