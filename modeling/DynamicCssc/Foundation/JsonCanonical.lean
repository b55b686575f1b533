import Mathlib
import DynamicCssc.Foundation.JsonLoads

/-! The canonical bytes of a value: every dictionary sorted, every character ASCII. -/
namespace Foundation.Json

mutual
/-- `sort_keys=True` at every depth. -/
def sortKeys : Json → Json
  | .arr items => .arr (sortItems items)
  | .obj fields => object (sortFields fields)
  | value => value
def sortItems : List Json → List Json
  | [] => []
  | item :: items => sortKeys item :: sortItems items
def sortField : String × Json → String × Json
  | (key,value) => (key,sortKeys value)
def sortFields : List (String × Json) → List (String × Json)
  | [] => []
  | field :: fields => sortField field :: sortFields fields
end

/-- `text.encode("ascii")`, for a text of ASCII characters. -/
def asciiEncode (text : List Char) : List UInt8 := text.map fun character => UInt8.ofNat character.toNat

/-- `content.decode("ascii")`. -/
def asciiDecode (content : List UInt8) : Option (List Char) :=
  if ∀ byte ∈ content, byte.toNat < 0x80 then some (content.map fun byte => Char.ofNat byte.toNat) else none

def canonicalBytes (value : Json) : List UInt8 := asciiEncode (render true (sortKeys value))

def Ascii (text : List Char) : Prop := ∀ character ∈ text, character.toNat < 0x80

theorem asciiDecode_encode (text : List Char) (ascii : Ascii text) :
    asciiDecode (asciiEncode text) = some text := by
  have small (character : Char) (member : character ∈ text) :
      (UInt8.ofNat character.toNat).toNat = character.toNat := by
    have below := ascii character member
    simp only [UInt8.toNat_ofNat']
    omega
  rw [asciiDecode,if_pos]
  · rw [asciiEncode,List.map_map]
    congr 1
    conv_rhs => rw [← List.map_id text]
    refine List.map_congr_left fun character member => ?_
    rw [Function.comp_apply,small character member]
    exact Char.ofNat_toNat character
  · intro byte member
    obtain ⟨character,inside,rfl⟩ := List.mem_map.mp member
    rw [small character inside]
    exact ascii character inside

@[simp] theorem ascii_nil : Ascii [] := by simp [Ascii]

@[simp] theorem ascii_cons (first : Char) (rest : List Char) :
    Ascii (first :: rest) ↔ first.toNat < 0x80 ∧ Ascii rest := by
  simp [Ascii]

@[simp] theorem ascii_append (left right : List Char) :
    Ascii (left ++ right) ↔ Ascii left ∧ Ascii right := by
  simp only [Ascii,List.mem_append]
  exact ⟨fun all => ⟨fun _ member => all _ (.inl member),fun _ member => all _ (.inr member)⟩,
    fun all _ member => member.elim (all.1 _) (all.2 _)⟩

private theorem digitChar_ascii : ∀ digit < 16, (Nat.digitChar digit).toNat < 0x80 := by decide

private theorem hex4_ascii (code : ℕ) : Ascii (hex4 code) := by
  have each (number : ℕ) : (Nat.digitChar (number % 16)).toNat < 0x80 :=
    digitChar_ascii _ (Nat.mod_lt _ (by decide))
  simp [hex4,each]

private theorem escape_ascii (character : Char) : Ascii (escape true character) := by
  unfold escape
  dsimp only
  split
  · simp
  split
  · simp
  split
  · simp
  split
  · simp
  split
  · simp
  split
  · simp
  split
  · simp
  split
  · split
    · simp [hex4_ascii]
    · simp [hex4_ascii]
  · rename_i plain
    simp only [true_and] at plain
    simp only [ascii_cons,ascii_nil,and_true]
    omega

theorem quoted_ascii (value : String) : Ascii (quoted true value) := by
  have escaped : Ascii (value.toList.flatMap (escape true)) := by
    intro character member
    obtain ⟨source,_,inside⟩ := List.mem_flatMap.mp member
    exact escape_ascii source character inside
  simp [quoted,escaped]

theorem intText_ascii (value : ℤ) : Ascii (intText value) := by
  have digits : Ascii (Nat.toDigits 10 value.natAbs) := by
    intro digit member
    have isDigit := Nat.isDigit_of_mem_toDigits (by decide) (by decide) member
    simp only [Char.isDigit,Bool.and_eq_true,decide_eq_true_eq] at isDigit
    have below : digit.val.toNat ≤ 57 := UInt32.le_iff_toNat_le.mp isDigit.2
    change digit.val.toNat < 0x80
    omega
  unfold intText
  split
  · simp [digits]
  · exact digits

mutual
theorem render_ascii : ∀ value, Ascii (render true value)
  | .null => by simp [render]
  | .bool true => by simp [render]
  | .bool false => by simp [render]
  | .int value => by simpa [render] using intText_ascii value
  | .str value => by simpa [render] using quoted_ascii value
  | .arr [] => by simp [render]
  | .arr (item :: items) => by simp [render,render_ascii item,renderItems_ascii items]
  | .obj [] => by simp [render]
  | .obj (field :: fields) => by simp [render,renderField_ascii field,renderFields_ascii fields]
private theorem renderItems_ascii : ∀ items, Ascii (renderItems true items)
  | [] => by simp [renderItems]
  | item :: items => by simp [renderItems,render_ascii item,renderItems_ascii items]
private theorem renderField_ascii : ∀ field, Ascii (renderField true field)
  | (key,value) => by simp [renderField,quoted_ascii key,render_ascii value]
private theorem renderFields_ascii : ∀ fields, Ascii (renderFields true fields)
  | [] => by simp [renderFields]
  | field :: fields => by simp [renderFields,renderField_ascii field,renderFields_ascii fields]
end

/-- A value whose dictionaries are sorted and repeat no key. -/
inductive Canonical : Json → Prop
  | null : Canonical .null
  | bool (value : Bool) : Canonical (.bool value)
  | int (value : ℤ) : Canonical (.int value)
  | str (value : String) : Canonical (.str value)
  | arr (items : List Json) (each : ∀ item ∈ items, Canonical item) : Canonical (.arr items)
  | object (fields : List (String × Json)) (keys : (fields.map Prod.fst).Nodup)
    (each : ∀ field ∈ fields, Canonical field.2) : Canonical (.object fields)

theorem Canonical.ints (values : List ℤ) : Canonical (Json.ints values) := by
  refine .arr _ fun item member => ?_
  obtain ⟨value,_,rfl⟩ := List.mem_map.mp member
  exact .int value

theorem Canonical.distinct {value : Json} (canonical : Canonical value) : Distinct value := by
  induction canonical with
  | null => exact .null
  | bool value => exact .bool value
  | int value => exact .int value
  | str value => exact .str value
  | arr items _ ih => exact .arr items ih
  | object fields keys _ ih =>
    refine .obj _ ?_ fun field member => ih field ((Sorting.mem_sortedBy _ _ _).mp member)
    exact ((Sorting.sortedBy_perm _ fields).map Prod.fst).nodup_iff.mpr keys

private theorem sortItems_eq : ∀ items : List Json, sortItems items = items.map sortKeys
  | [] => rfl
  | item :: items => by rw [sortItems,sortItems_eq items,List.map_cons]

private theorem sortFields_eq : ∀ fields : List (String × Json),
    sortFields fields = fields.map fun field => (field.1,sortKeys field.2)
  | [] => rfl
  | (key,value) :: fields => by rw [sortFields,sortFields_eq fields,List.map_cons,sortField]

/-- Sorting the keys of a canonical value changes nothing. -/
theorem Canonical.sorted {value : Json} (canonical : Canonical value) : sortKeys value = value := by
  induction canonical with
  | null => rfl
  | bool value => rfl
  | int value => rfl
  | str value => rfl
  | arr items _ ih => rw [sortKeys,sortItems_eq,List.map_congr_left ih,List.map_id']
  | object fields keys _ ih =>
    have kept : (Sorting.sortedBy Prod.fst fields).map (fun field => (field.1,sortKeys field.2)) =
        Sorting.sortedBy Prod.fst fields := by
      conv_rhs => rw [← List.map_id (Sorting.sortedBy Prod.fst fields)]
      refine List.map_congr_left fun field member => ?_
      rw [ih field ((Sorting.mem_sortedBy _ _ _).mp member)]
      rfl
    rw [Json.object,sortKeys,sortFields_eq,kept,Json.object,
      Sorting.sortedBy_eq_self _ (Sorting.sortedBy_ordered Prod.fst fields)]

theorem Canonical.loads_bytes {value : Json} (canonical : Canonical value) :
    asciiDecode (canonicalBytes value) = some (render true value) ∧ loads (render true value) = .ok value := by
  refine ⟨?_,loads_render true value canonical.distinct⟩
  rw [canonicalBytes,canonical.sorted,asciiDecode_encode _ (render_ascii value)]

private theorem object_ordered (fields : List (String × Json)) (ordered : (fields.map Prod.fst).Pairwise (· ≤ ·)) :
    object fields = .obj fields := by
  rw [object,Sorting.sortedBy_eq_self Prod.fst (List.pairwise_map.mp ordered)]

theorem Canonical.ordered (fields : List (String × Json)) (keys : (fields.map Prod.fst).Pairwise (· < ·))
    (each : ∀ field ∈ fields, Canonical field.2) : Canonical (.obj fields) := by
  rw [← object_ordered fields (keys.imp le_of_lt)]
  exact .object fields (keys.imp ne_of_lt) each

end Foundation.Json
