import Mathlib
import DynamicCssc.Foundation.Dict
import DynamicCssc.Foundation.Sorting

/-! Writes to a sparse table, netted against the table as it was when the batch began: a key that
was written is remembered with its first value, and only the keys that end up different are
published. -/
namespace Foundation.Netting

variable {κ : Type} [LinearOrder κ]

/-- `entries.get(key, 0)`. -/
def read (entries : List (κ × ℤ)) (key : κ) : ℤ := (entries.lookup key).getD 0

def write (key : κ) (value : ℤ) (entries : List (κ × ℤ)) : List (κ × ℤ) :=
  if value = 0 then entries.filter fun entry => entry.1 ≠ key else Dict.set key value entries

private theorem lookup_filter (entries : List (κ × ℤ)) (key other : κ) :
    (entries.filter fun entry => entry.1 ≠ key).lookup other =
      if other = key then none else entries.lookup other := by
  induction entries with
  | nil => simp
  | cons entry entries ih =>
    obtain ⟨here,held⟩ := entry
    by_cases gone : here = key
    · subst gone
      simp only [ne_eq,not_true_eq_false,decide_false,Bool.false_eq_true,not_false_eq_true,
        List.filter_cons_of_neg,Dict.lookup_cons_eq]
      rw [ih]
      split <;> rfl
    · rw [List.filter_cons_of_pos (by simpa using gone),Dict.lookup_cons_eq,Dict.lookup_cons_eq,ih]
      by_cases same : other = here
      · rw [same,if_pos rfl,if_neg gone,if_pos rfl]
      · rw [if_neg same,if_neg same]

@[simp] theorem read_write (key : κ) (value : ℤ) (entries : List (κ × ℤ)) :
    read (write key value entries) = Function.update (read entries) key value := by
  funext other
  rw [write,Function.update_apply]
  split
  · rename_i zero
    rw [read,lookup_filter,zero]
    split <;> rfl
  · rw [read,Dict.lookup_set]
    split <;> rfl

/-- The table, and what has been written since the batch began. -/
structure Pending (κ : Type) where
  state : List (κ × ℤ)
  firstBefore : List (κ × ℤ)
  touched : List κ
deriving DecidableEq, Repr

namespace Pending

def start (state : List (κ × ℤ)) : Pending κ := ⟨state,[],[]⟩

def record (key : κ) (value : ℤ) (pending : Pending κ) : Pending κ :=
  { state := write key value pending.state
    firstBefore := if key ∈ pending.firstBefore.map Prod.fst then pending.firstBefore
      else pending.firstBefore ++ [(key,read pending.state key)]
    touched := if key ∈ pending.touched then pending.touched else pending.touched ++ [key] }

/-- The keys that changed, in order, with the values before and after. -/
def net (pending : Pending κ) : List (κ × ℤ × ℤ) :=
  (Sorting.sortedBy id pending.touched).filterMap fun key =>
    let before := read pending.firstBefore key
    let after := read pending.state key
    if before ≠ after then some (key,before,after) else none

def clear (pending : Pending κ) : Pending κ := ⟨pending.state,[],[]⟩

omit [LinearOrder κ] in
@[simp] theorem start_state (state : List (κ × ℤ)) : (start state).state = state := rfl
omit [LinearOrder κ] in
@[simp] theorem clear_state (pending : Pending κ) : pending.clear.state = pending.state := rfl
omit [LinearOrder κ] in
@[simp] theorem clear_touched (pending : Pending κ) : pending.clear.touched = [] := rfl
@[simp] theorem record_state (key : κ) (value : ℤ) (pending : Pending κ) :
    read (pending.record key value).state = Function.update (read pending.state) key value :=
  read_write key value pending.state

theorem record_touched_ne (key : κ) (value : ℤ) (pending : Pending κ) :
    (pending.record key value).touched ≠ [] := by
  show (if key ∈ pending.touched then pending.touched else pending.touched ++ [key]) ≠ []
  split
  · rename_i member
    exact List.ne_nil_of_mem member
  · simp

end Pending

def replay (cells : κ → ℤ) (updates : List (κ × ℤ × ℤ)) : κ → ℤ :=
  updates.foldl (fun cells update => Function.update cells update.1 update.2.2) cells

private theorem replay_absent (cells : κ → ℤ) (updates : List (κ × ℤ × ℤ)) (key : κ)
    (absent : key ∉ updates.map Prod.fst) : replay cells updates key = cells key := by
  induction updates generalizing cells with
  | nil => rfl
  | cons update updates ih =>
    simp only [List.map_cons,List.mem_cons,not_or] at absent
    rw [replay,List.foldl_cons]
    exact (ih _ absent.2).trans (Function.update_of_ne absent.1 _ _)

private theorem replay_present (cells : κ → ℤ) (updates : List (κ × ℤ × ℤ))
    (distinct : (updates.map Prod.fst).Nodup) (update : κ × ℤ × ℤ) (member : update ∈ updates) :
    replay cells updates update.1 = update.2.2 := by
  induction updates generalizing cells with
  | nil => simp at member
  | cons first updates ih =>
    simp only [List.map_cons,List.nodup_cons] at distinct
    rw [replay,List.foldl_cons]
    rcases List.mem_cons.mp member with same | later
    · subst same
      exact (replay_absent _ updates _ distinct.1).trans (Function.update_self _ _ _)
    · exact ih _ distinct.2 later

/-- The batch began at this table. -/
structure Over (base : κ → ℤ) (pending : Pending κ) : Prop where
  keys : pending.firstBefore.map Prod.fst = pending.touched
  distinct : pending.touched.Nodup
  before : ∀ key ∈ pending.touched, read pending.firstBefore key = base key
  rest : ∀ key, key ∉ pending.touched → read pending.state key = base key

namespace Over

variable {base : κ → ℤ} {pending : Pending κ}

theorem start (state : List (κ × ℤ)) : Over (read state) (Pending.start state) :=
  ⟨rfl,List.nodup_nil,by simp [Pending.start],fun _ _ => rfl⟩

theorem record (holds : Over base pending) (key : κ) (value : ℤ) :
    Over base (pending.record key value) := by
  obtain ⟨keys,distinct,before,rest⟩ := holds
  by_cases seen : key ∈ pending.touched
  · have shape : pending.record key value =
        ⟨write key value pending.state,pending.firstBefore,pending.touched⟩ := by
      simp [Pending.record,keys,seen]
    rw [shape]
    refine ⟨keys,distinct,before,?_⟩
    intro other untouched
    have differ : other ≠ key := fun same => untouched (same ▸ seen)
    rw [read_write,Function.update_of_ne differ]
    exact rest other untouched
  · have shape : pending.record key value = ⟨write key value pending.state,
        pending.firstBefore ++ [(key,read pending.state key)],pending.touched ++ [key]⟩ := by
      simp [Pending.record,keys,seen]
    rw [shape]
    have fresh : pending.firstBefore.lookup key = none := by
      rw [Dict.lookup_none_iff,keys]
      exact seen
    refine ⟨by simp [keys],?_,?_,?_⟩
    · exact List.nodup_append.mpr ⟨distinct,List.nodup_singleton key,by
        intro left inLeft right inRight same
        rw [List.mem_singleton.mp inRight] at same
        exact seen (same ▸ inLeft)⟩
    · intro other member
      rw [read,List.lookup_append]
      rcases List.mem_append.mp member with old | new
      · obtain ⟨held,found⟩ : ∃ held, pending.firstBefore.lookup other = some held := by
          rw [← Option.isSome_iff_exists,Option.isSome_iff_ne_none,ne_eq,Dict.lookup_none_iff,keys]
          exact not_not.mpr old
        have value := before other old
        rw [read,found] at value
        rw [found]
        exact value
      · rw [List.mem_singleton.mp new,fresh]
        simpa using rest key seen
    · intro other untouched
      simp only [List.mem_append,List.mem_singleton,not_or] at untouched
      rw [read_write,Function.update_of_ne untouched.2]
      exact rest other untouched.1

theorem clear (pending : Pending κ) : Over (read pending.state) pending.clear :=
  ⟨rfl,List.nodup_nil,by simp,fun _ _ => rfl⟩

theorem mem_net (update : κ × ℤ × ℤ) : update ∈ pending.net ↔ update.1 ∈ pending.touched ∧
    update.2.1 = read pending.firstBefore update.1 ∧ update.2.2 = read pending.state update.1 ∧
    update.2.1 ≠ update.2.2 := by
  obtain ⟨key,before,after⟩ := update
  simp only [Pending.net,List.mem_filterMap,Sorting.mem_sortedBy]
  constructor
  · intro published
    obtain ⟨other,touched,found⟩ := published
    split at found
    · rename_i differ
      cases found
      exact ⟨touched,rfl,rfl,differ⟩
    · cases found
  · intro changed
    obtain ⟨touched,first,last,differ⟩ := changed
    refine ⟨key,touched,?_⟩
    rw [← first,← last]
    exact if_pos differ

theorem net_sorted (holds : Over base pending) :
    pending.net.Pairwise fun left right => left.1 < right.1 := by
  have ordered := (Sorting.sortedBy_ordered id pending.touched).and
    (Sorting.sortedBy_nodup id holds.distinct)
  rw [Pending.net,List.pairwise_filterMap]
  refine ordered.imp ?_
  intro left right apart first inLeft second inRight
  dsimp only at inLeft inRight
  split at inLeft
  · split at inRight
    · cases inLeft
      cases inRight
      exact lt_of_le_of_ne apart.1 apart.2
    · cases inRight
  · cases inLeft

theorem net_before (holds : Over base pending) (update : κ × ℤ × ℤ) (member : update ∈ pending.net) :
    update.2.1 = base update.1 := by
  obtain ⟨touched,first,_⟩ := (mem_net update).mp member
  rw [first,holds.before _ touched]

/-- Replaying what is published gives the table. -/
theorem replay_net (holds : Over base pending) : replay base pending.net = read pending.state := by
  have distinct : (pending.net.map Prod.fst).Nodup :=
    List.pairwise_map.mpr (holds.net_sorted.imp ne_of_lt)
  funext key
  by_cases published : key ∈ pending.net.map Prod.fst
  · obtain ⟨update,member,rfl⟩ := List.mem_map.mp published
    rw [replay_present base pending.net distinct update member]
    exact ((mem_net update).mp member).2.2.1
  · rw [replay_absent base pending.net key published]
    by_cases touched : key ∈ pending.touched
    · by_contra differ
      have changed : read pending.firstBefore key ≠ read pending.state key := by
        rw [holds.before key touched]
        exact differ
      exact published (List.mem_map.mpr ⟨(key,read pending.firstBefore key,read pending.state key),
        (mem_net _).mpr ⟨touched,rfl,rfl,changed⟩,rfl⟩)
    · exact (holds.rest key touched).symm

end Over
end Foundation.Netting
