import DynamicCssc.HidingExecution
import DynamicCssc.QueryCompiles

/-! The plaintext oracle as a machine of lanes: its vectors solve the equations of the program, and a
returned vector holds what the outcome behind it contributes. -/
namespace DynamicCssc.PlaintextOracle
open Foundation CloudProgram

def lanesOf (modulus : ℕ) (table : Vectors) : Lanes (ZMod modulus) := fun id lane =>
  (((((table.lookup id).getD [])[lane]?).getD 0 : ℤ) : ZMod modulus)

section
variable {modulus width : ℕ} {program : CloudProgram} {required : Option (List String)}
  {table : Vectors}

theorem lanesOf_held {id : String} {values : List ℤ} (held : table.lookup id = some values) (lane : ℕ) :
    lanesOf modulus table id lane = (((values[lane]?).getD 0 : ℤ) : ZMod modulus) := by
  rw [lanesOf,held,Option.getD_some]

theorem cast_emod (value : ℤ) : ((value % (modulus : ℤ) : ℤ) : ZMod modulus) = (value : ZMod modulus) := by
  rw [ZMod.intCast_eq_intCast_iff]
  exact Int.mod_modEq value modulus

private theorem combined_lane (operation : ℤ → ℤ → ℤ) (left right : List ℤ) (lane : ℕ) (inLeft : lane < left.length)
    (inRight : lane < right.length) : (((combined operation modulus left right)[lane]?).getD 0 : ℤ) =
      operation ((left[lane]?).getD 0) ((right[lane]?).getD 0) % modulus := by
  simp [combined,inLeft,inRight]

private theorem rotated_lane (index : ℤ) (source : List ℤ) (lane : ℕ) (inside : lane < source.length) :
    ((rotated index source)[lane]?).getD 0 =
      source.getD (((lane : ℤ) + index) % (source.length : ℤ)).toNat 0 := by
  simp [rotated,inside]

theorem reduced_lane (values : List ℤ) (lane : ℕ) :
    ((((reduced modulus values)[lane]?).getD 0 : ℤ) : ZMod modulus) =
      (((values[lane]?).getD 0 : ℤ) : ZMod modulus) := by
  rw [reduced,List.getElem?_map]
  cases values[lane]? with
  | none => rfl
  | some value => exact cast_emod value

private theorem lanes_quiet (even : ∀ id values, table.lookup id = some values → values.length = width)
    (id : String) : Quiet width (lanesOf modulus table) id := by
  intro lane beyond
  cases held : table.lookup id with
  | none => simp [lanesOf,held]
  | some values =>
    have long := even id values held
    rw [lanesOf_held held,List.getElem?_eq_none (by omega),Option.getD_none,Int.cast_zero]

/-- The vectors that a run leaves behind solve the equations of its program. -/
theorem lanes_solve (accepted : CloudProgram.Accepted program required)
    (even : ∀ id values, table.lookup id = some values → values.length = program.slotCount)
    (solved : ∀ node ∈ program.nodes, Equation (loadedMasks program modulus) modulus
      (fun id => table.lookup id) node) :
    Solves program.slotCount program.plaintextMasks (lanesOf modulus table) program.nodes := by
  refine ⟨?_,?_⟩
  · intro node member
    obtain ⟨defined,computes⟩ := solved node member
    obtain ⟨values,made⟩ := Option.isSome_iff_exists.mp defined
    rw [made] at computes
    cases node with
    | multiplyCiphertexts resultId leftId rightId =>
      intro lane inside
      obtain ⟨left,right,inLeft,inRight,rfl⟩ := Option.map₂_eq_some_iff.mp made
      have hl : table.lookup leftId = some left := inLeft
      have hr : table.lookup rightId = some right := inRight
      have result : table.lookup resultId = some _ := computes rfl
      rw [lanesOf_held result,lanesOf_held hl,lanesOf_held hr,combined_lane _ _ _ _ (by rw [even _ _ hl]; exact inside)
        (by rw [even _ _ hr]; exact inside),cast_emod,Int.cast_mul]
    | relinearize resultId ciphertextId =>
      intro lane _
      have result : table.lookup resultId = some _ := computes rfl
      have held : table.lookup ciphertextId = some values := made
      rw [lanesOf_held result,lanesOf_held held]
    | rotate resultId ciphertextId logicalShift openfheIndex =>
      intro shift index lane inside
      obtain ⟨source,read,rfl⟩ := Option.map_eq_some_iff.mp made
      have hs : table.lookup ciphertextId = some source := read
      have result : table.lookup resultId = some _ := computes rfl
      have long := even _ _ hs
      rw [lanesOf_held result,lanesOf_held hs,index,rotated_lane _ _ _ (by omega)]
      have place : (((lane : ℤ) + (shift : ℤ)) % (source.length : ℤ)).toNat = lane + shift := by
        rw [Int.emod_eq_of_lt (by omega) (by omega)]
        omega
      rw [place,List.getD_eq_getElem?_getD]
    | multiplyPlaintextMask resultId ciphertextId maskId =>
      intro mask inMasks named lane inside
      obtain ⟨source,held,read,hm,rfl⟩ := Option.map₂_eq_some_iff.mp made
      have hs : table.lookup ciphertextId = some source := read
      have result : table.lookup resultId = some _ := computes rfl
      rw [← named,lookup_loadedMasks accepted mask inMasks,Option.mem_def,Option.some.injEq] at hm
      have long := (accepted.masks mask inMasks).2
      rw [lanesOf_held result,lanesOf_held hs,combined_lane _ _ _ _ (by rw [even _ _ hs]; exact inside)
        (by rw [← hm,reduced,List.length_map,long]; exact inside),cast_emod,Int.cast_mul,← hm,reduced_lane]
    | addCiphertexts resultId leftId rightId =>
      intro lane inside
      obtain ⟨left,right,inLeft,inRight,rfl⟩ := Option.map₂_eq_some_iff.mp made
      have hl : table.lookup leftId = some left := inLeft
      have hr : table.lookup rightId = some right := inRight
      have result : table.lookup resultId = some _ := computes rfl
      rw [lanesOf_held result,lanesOf_held hl,lanesOf_held hr,combined_lane _ _ _ _ (by rw [even _ _ hl]; exact inside)
        (by rw [even _ _ hr]; exact inside),cast_emod,Int.cast_add]
    | addF1MMask resultId leftId rightId maskRole =>
      intro lane inside
      obtain ⟨left,right,inLeft,inRight,rfl⟩ := Option.map₂_eq_some_iff.mp made
      have hl : table.lookup leftId = some left := inLeft
      have hr : table.lookup rightId = some right := inRight
      have result : table.lookup resultId = some _ := computes rfl
      rw [lanesOf_held result,lanesOf_held hl,lanesOf_held hr,combined_lane _ _ _ _ (by rw [even _ _ hl]; exact inside)
        (by rw [even _ _ hr]; exact inside),cast_emod,Int.cast_add]
    | returnResult resultId ciphertextId => trivial
  · intro node _
    have quiet := @lanes_quiet modulus program.slotCount table even
    cases node <;> simp only [QuietHolds]
    all_goals first | exact fun _ _ => quiet _ | exact fun _ => quiet _ | exact quiet _

end
end DynamicCssc.PlaintextOracle
