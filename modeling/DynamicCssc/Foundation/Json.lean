import DynamicCssc.Foundation.Sorting
import Mathlib.Data.String.Basic

/-! Canonical JSON text: keys sorted, separators `,` and `:`, no blank. -/
namespace Foundation

inductive Json
  | null
  | bool (value : Bool)
  | int (value : ℤ)
  | str (value : String)
  | arr (items : List Json)
  | obj (fields : List (String × Json))

namespace Json

/-- A dictionary under `sort_keys=True`. -/
def object (fields : List (String × Json)) : Json := .obj (Sorting.sortedBy Prod.fst fields)

def ints (values : List ℤ) : Json := .arr (values.map .int)

def nat (value : ℕ) : Json := .int value

def intText (value : ℤ) : List Char :=
  if value < 0 then '-' :: Nat.toDigits 10 value.natAbs else Nat.toDigits 10 value.natAbs

def hex4 (code : ℕ) : List Char :=
  [Nat.digitChar (code / 4096 % 16),Nat.digitChar (code / 256 % 16),
    Nat.digitChar (code / 16 % 16),Nat.digitChar (code % 16)]

/-- One escaped character. `ensureAscii` also escapes everything above `~`,
outside the basic plane as a surrogate pair. -/
def escape (ensureAscii : Bool) (character : Char) : List Char :=
  let code := character.toNat
  if code = 0x22 then ['\x5c','\x22']
  else if code = 0x5C then ['\x5c','\x5c']
  else if code = 0x0A then ['\x5c','n']
  else if code = 0x0D then ['\x5c','r']
  else if code = 0x09 then ['\x5c','t']
  else if code = 0x0C then ['\x5c','f']
  else if code = 0x08 then ['\x5c','b']
  else if code < 0x20 ∨ (ensureAscii = true ∧ 0x7E < code) then
    if code < 0x10000 then '\x5c' :: 'u' :: hex4 code
    else '\x5c' :: 'u' :: hex4 (0xD800 + (code - 0x10000) / 0x400) ++
      '\x5c' :: 'u' :: hex4 (0xDC00 + (code - 0x10000) % 0x400)
  else [character]

def quoted (ensureAscii : Bool) (value : String) : List Char :=
  '\x22' :: value.toList.flatMap (escape ensureAscii) ++ ['\x22']

mutual
def render (ensureAscii : Bool) : Json → List Char
  | .null => ['n','u','l','l']
  | .bool true => ['t','r','u','e']
  | .bool false => ['f','a','l','s','e']
  | .int value => intText value
  | .str value => quoted ensureAscii value
  | .arr [] => ['[',']']
  | .arr (item :: items) => '[' :: render ensureAscii item ++ renderItems ensureAscii items
  | .obj [] => ['\x7b','\x7d']
  | .obj (field :: fields) =>
    '\x7b' :: renderField ensureAscii field ++ renderFields ensureAscii fields
def renderItems (ensureAscii : Bool) : List Json → List Char
  | [] => [']']
  | item :: items => ',' :: render ensureAscii item ++ renderItems ensureAscii items
def renderField (ensureAscii : Bool) : String × Json → List Char
  | (key,value) => quoted ensureAscii key ++ ':' :: render ensureAscii value
def renderFields (ensureAscii : Bool) : List (String × Json) → List Char
  | [] => ['\x7d']
  | field :: fields => ',' :: renderField ensureAscii field ++ renderFields ensureAscii fields
end

/-- `json.dumps(value, sort_keys=True, separators=(",", ":"), ensure_ascii=...)`. -/
def dumps (ensureAscii : Bool) (value : Json) : String := String.ofList (render ensureAscii value)

example : dumps true (object [("b",ints [1,-2]),("a",.str "x\x22")]) =
    "\x7b\x22a\x22:\x22x\x5c\x22\x22,\x22b\x22:[1,-2]\x7d" := by decide

end Json
end Foundation
