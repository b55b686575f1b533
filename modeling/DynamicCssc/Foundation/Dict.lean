import Mathlib.Data.List.Basic
import Mathlib.Data.List.Nodup

/-! Dictionaries in insertion order, as lists of entries read with `List.lookup`. -/
namespace Foundation.Dict

variable {κ β : Type} [DecidableEq κ]

/-- `entries[key] = value`: overwrite in place, or append a new key. -/
def set (key : κ) (value : β) : List (κ × β) → List (κ × β)
  | [] => [(key,value)]
  | entry :: entries =>
    if entry.1 = key then (key,value) :: entries else entry :: set key value entries

theorem lookup_cons_eq (key here : κ) (held : β) (entries : List (κ × β)) :
    ((here,held) :: entries).lookup key = if key = here then some held else entries.lookup key := by
  by_cases same : key = here
  · simp [same]
  · rw [List.lookup_cons,beq_eq_false_iff_ne.mpr same,if_neg same]

@[simp] theorem lookup_set (key other : κ) (value : β) (entries : List (κ × β)) :
    (set key value entries).lookup other = if other = key then some value else entries.lookup other := by
  induction entries with
  | nil => rw [set,lookup_cons_eq]
  | cons entry entries ih =>
    obtain ⟨here,held⟩ := entry
    by_cases found : here = key
    · subst found
      rw [set,if_pos rfl,lookup_cons_eq,lookup_cons_eq]
      by_cases same : other = here <;> simp [same]
    · rw [set,if_neg found,lookup_cons_eq,lookup_cons_eq,ih]
      by_cases same : other = here
      · subst same
        simp [found]
      · simp [same]

theorem set_fresh (key : κ) (value : β) (entries : List (κ × β)) (fresh : key ∉ entries.map Prod.fst) :
    set key value entries = entries ++ [(key,value)] := by
  induction entries with
  | nil => rfl
  | cons entry entries ih =>
    simp only [List.map_cons,List.mem_cons,not_or] at fresh
    rw [set,if_neg (Ne.symm fresh.1),ih fresh.2]
    rfl

theorem foldl_set {α : Type} (key : α → κ) (value : α → β) (items : List α) (entries : List (κ × β))
    (distinct : (items.map key).Nodup) (fresh : ∀ item ∈ items, key item ∉ entries.map Prod.fst) :
    items.foldl (fun table item => set (key item) (value item) table) entries =
      entries ++ items.map fun item => (key item,value item) := by
  induction items generalizing entries with
  | nil => simp
  | cons item items ih =>
    rw [List.map_cons,List.nodup_cons] at distinct
    rw [List.foldl_cons,set_fresh _ _ _ (fresh item (by simp)),ih _ distinct.2]
    · simp
    · intro other member again
      rw [List.map_append,List.mem_append,List.map_singleton,List.mem_singleton] at again
      rcases again with old | new
      · exact fresh other (by simp [member]) old
      · exact distinct.1 (List.mem_map.mpr ⟨other,member,new⟩)

theorem lookup_lawful {lawful : Type} [BEq lawful] [LawfulBEq lawful] [DecidableEq lawful] (key : lawful)
    (entries : List (lawful × β)) :
    entries.lookup key = @List.lookup lawful β instBEqOfDecidableEq key entries := by
  have same : (inferInstance : BEq lawful) = instBEqOfDecidableEq := by
    refine congrArg BEq.mk ?_
    funext left right
    exact Bool.eq_iff_iff.mpr (by simp)
  exact congrArg (fun test => @List.lookup lawful β test key entries) same

theorem lookup_eq_some_iff (entries : List (κ × β)) (distinct : (entries.map Prod.fst).Nodup)
    (key : κ) (value : β) : entries.lookup key = some value ↔ (key,value) ∈ entries := by
  induction entries with
  | nil => simp
  | cons entry entries ih =>
    obtain ⟨here,held⟩ := entry
    simp only [List.map_cons,List.nodup_cons] at distinct
    rw [lookup_cons_eq,List.mem_cons]
    by_cases same : key = here
    · subst same
      have absent : (key,value) ∉ entries := fun member =>
        distinct.1 (List.mem_map.mpr ⟨_,member,rfl⟩)
      simp [absent,eq_comm]
    · simp [same,ih distinct.2]

theorem mem_of_lookup {entries : List (κ × β)} {key : κ} {value : β}
    (found : entries.lookup key = some value) : (key,value) ∈ entries := by
  induction entries with
  | nil => simp at found
  | cons entry entries ih =>
    obtain ⟨here,held⟩ := entry
    rw [lookup_cons_eq] at found
    split at found
    · rename_i same
      cases found
      rw [same]
      exact List.mem_cons_self
    · exact List.mem_cons_of_mem _ (ih found)

theorem lookup_none_iff (entries : List (κ × β)) (key : κ) :
    entries.lookup key = none ↔ key ∉ entries.map Prod.fst := by
  induction entries with
  | nil => simp
  | cons entry entries ih =>
    obtain ⟨here,held⟩ := entry
    rw [lookup_cons_eq,List.map_cons,List.mem_cons,not_or]
    by_cases same : key = here <;> simp [same,ih]

end Foundation.Dict
