import Mathlib.Algebra.BigOperators.Group.List.Basic
import Mathlib.Data.Int.ModEq
import Mathlib.Data.List.Induction

/-! Tables of residues that are added to one place at a time. -/
namespace Foundation.Residues

/-- `table[index] = (table[index] + value) % modulus`. -/
def addAt (modulus : ℤ) (table : List ℤ) (entry : ℕ × ℤ) : List ℤ :=
  table.modify entry.1 fun held => (held + entry.2) % modulus

def addAll (modulus : ℤ) (table : List ℤ) (entries : List (ℕ × ℤ)) : List ℤ :=
  entries.foldl (addAt modulus) table

def amount (entries : List (ℕ × ℤ)) (place : ℕ) : ℤ :=
  (entries.map fun entry => if entry.1 = place then entry.2 else 0).sum

@[simp] theorem amount_append (left right : List (ℕ × ℤ)) (place : ℕ) :
    amount (left ++ right) place = amount left place + amount right place := by
  simp [amount]

private theorem addAll_append (modulus : ℤ) (table : List ℤ) (left right : List (ℕ × ℤ)) :
    addAll modulus table (left ++ right) = addAll modulus (addAll modulus table left) right :=
  List.foldl_append

@[simp] theorem addAll_length (modulus : ℤ) (table : List ℤ) (entries : List (ℕ × ℤ)) :
    (addAll modulus table entries).length = table.length := by
  induction entries using List.reverseRecOn with
  | nil => rfl
  | append_singleton entries entry ih =>
    rw [addAll_append]
    simpa [addAll,addAt] using ih

/-- Every place holds the residue of its amount. -/
theorem addAll_zero (modulus : ℤ) (size : ℕ) (entries : List (ℕ × ℤ)) :
    addAll modulus (List.replicate size 0) entries =
      (List.range size).map fun place => amount entries place % modulus := by
  induction entries using List.reverseRecOn with
  | nil =>
    refine List.ext_getElem (by simp [addAll]) fun place _ _ => ?_
    simp [addAll,amount]
  | append_singleton entries entry ih =>
    rw [addAll_append,ih]
    refine List.ext_getElem (by simp) fun place _ below => ?_
    have single : addAll modulus ((List.range size).map fun place => amount entries place % modulus) [entry] =
        addAt modulus ((List.range size).map fun place => amount entries place % modulus) entry := rfl
    simp only [single,addAt,List.getElem_modify,List.getElem_map,List.getElem_range,amount_append]
    by_cases here : entry.1 = place
    · rw [if_pos here,Int.emod_add_emod]
      simp [amount,here]
    · rw [if_neg here]
      simp [amount,here]

end Foundation.Residues
