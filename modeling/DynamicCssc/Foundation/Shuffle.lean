import Mathlib.Data.List.Nodup
import Mathlib.Data.List.Perm.Basic
import Mathlib.Data.Set.Function
import Mathlib.Tactic.Ring

/-! The downward exchange shuffle of a list: place `n - 1` is exchanged with a place at most
`n - 1`, then place `n - 2` with one at most `n - 2`, and so on. Different choices give different
arrangements, and every arrangement is reached. -/
namespace Foundation.Shuffle

variable {α β : Type}

def exchange (items : List α) (first second : ℕ) : List α :=
  match items[first]?,items[second]? with
  | some one,some other => (items.set first other).set second one
  | _,_ => items

/-- The places that are filled, from the last one down to place 1. -/
def places (count : ℕ) : List ℕ := (List.range' 1 (count - 1)).reverse

def exchanges (items : List α) (pairs : List (ℕ × ℕ)) : List α :=
  pairs.foldl (fun items pair => exchange items pair.1 pair.2) items

def shuffle (items : List α) (choices : List ℕ) : List α :=
  exchanges items ((places items.length).zip choices)

def Choices (count : ℕ) (choices : List ℕ) : Prop :=
  List.Forall₂ (fun place choice => choice ≤ place) (places count) choices

private theorem places_succ (count : ℕ) (positive : 0 < count) : places (count + 1) = count :: places count := by
  obtain ⟨fewer,rfl⟩ : ∃ fewer, count = fewer + 1 := ⟨count - 1,by omega⟩
  simp only [places,Nat.add_sub_cancel,List.range'_1_concat,List.reverse_append,List.reverse_cons,
    List.reverse_nil,List.nil_append,List.singleton_append]
  rw [Nat.add_comm]

private theorem places_le_one (count : ℕ) (small : count ≤ 1) : places count = [] := by
  have none : count - 1 = 0 := by omega
  simp [places,none]

theorem places_lt (count place : ℕ) (member : place ∈ places count) : place < count := by
  simp only [places,List.mem_reverse,List.mem_range'_1] at member
  omega

@[simp] theorem exchange_length (items : List α) (first second : ℕ) :
    (exchange items first second).length = items.length := by
  unfold exchange
  split <;> simp

private theorem exchange_map (f : α → β) (items : List α) (first second : ℕ) :
    exchange (items.map f) first second = (exchange items first second).map f := by
  unfold exchange
  simp only [List.getElem?_map]
  cases one : items[first]? <;> cases other : items[second]? <;> simp [List.map_set]

private theorem exchanges_map (f : α → β) (items : List α) (pairs : List (ℕ × ℕ)) :
    exchanges (items.map f) pairs = (exchanges items pairs).map f := by
  induction pairs generalizing items with
  | nil => rfl
  | cons pair pairs ih =>
    simp only [exchanges,List.foldl_cons] at ih ⊢
    rw [exchange_map]
    exact ih _

theorem shuffle_map (f : α → β) (items : List α) (choices : List ℕ) :
    shuffle (items.map f) choices = (shuffle items choices).map f := by
  rw [shuffle,List.length_map,exchanges_map]
  rfl

private theorem exchanges_snoc (items : List α) (last : α) (pairs : List (ℕ × ℕ))
    (inside : ∀ pair ∈ pairs, pair.1 < items.length ∧ pair.2 < items.length) :
    exchanges (items ++ [last]) pairs = exchanges items pairs ++ [last] := by
  induction pairs generalizing items with
  | nil => rfl
  | cons pair pairs ih =>
    obtain ⟨first,second⟩ := inside pair (by simp)
    have step : exchange (items ++ [last]) pair.1 pair.2 = exchange items pair.1 pair.2 ++ [last] := by
      simp only [exchange,List.getElem?_append_left first,List.getElem?_append_left second,
        List.getElem?_eq_getElem first,List.getElem?_eq_getElem second]
      rw [List.set_append_left _ _ first,List.set_append_left]
      simpa using second
    simp only [exchanges,List.foldl_cons] at ih ⊢
    rw [step]
    exact ih _ fun other member => by simpa using inside other (by simp [member])

/-- The last place exchanged with a chosen one: the chosen item comes last. -/
private theorem exchange_last (items : List α) (count choice : ℕ) (length : items.length = count + 1)
    (chosen : choice ≤ count) :
    ∃ rest, exchange items count choice = rest ++ [items.get ⟨choice,by omega⟩] ∧
      rest.length = count ∧ (rest ++ [items.get ⟨choice,by omega⟩]).Perm items := by
  have first : count < items.length := by omega
  have second : choice < items.length := by omega
  have value : exchange items count choice =
      (items.set count (items.get ⟨choice,second⟩)).set choice (items.get ⟨count,first⟩) := by
    simp [exchange,List.getElem?_eq_getElem first,List.getElem?_eq_getElem second]
  have nonempty : exchange items count choice ≠ [] := by
    rw [← List.length_pos_iff,exchange_length]
    omega
  have last : (exchange items count choice).getLast nonempty = items.get ⟨choice,second⟩ := by
    have found : (exchange items count choice)[count]? = some (items.get ⟨choice,second⟩) := by
      rw [value,List.getElem?_set]
      by_cases same : choice = count
      · subst same
        simp [first]
      · rw [if_neg same,List.getElem?_set_self first]
    have index : items.length - 1 = count := by omega
    rw [List.getLast_eq_iff_getLast?_eq_some,List.getLast?_eq_getElem?,exchange_length,index]
    exact found
  have split : (exchange items count choice).dropLast ++ [items.get ⟨choice,second⟩] =
      exchange items count choice := by
    rw [← last,List.dropLast_append_getLast]
  refine ⟨(exchange items count choice).dropLast,?_,by simp [length],?_⟩
  · exact split.symm
  · rw [split,value]
    by_cases same : choice = count
    · subst same
      rw [List.set_set]
      simp
    · have outside : choice < (items.set count (items.get ⟨choice,second⟩)).length := by simpa
      have here : (items.set count (items.get ⟨choice,second⟩))[choice] = items.get ⟨choice,second⟩ := by
        rw [List.getElem_set_ne (by omega)]
        rfl
      have removed := List.set_perm_cons_eraseIdx outside (items.get ⟨count,first⟩)
      have kept := List.getElem_cons_eraseIdx_perm outside
      rw [here] at kept
      have back := List.set_perm_cons_eraseIdx first (items.get ⟨choice,second⟩)
      have whole := List.getElem_cons_eraseIdx_perm first
      have common : ((items.set count (items.get ⟨choice,second⟩)).eraseIdx choice).Perm
          (items.eraseIdx count) := (List.perm_cons _).mp (kept.trans back)
      exact removed.trans ((common.cons _).trans whole)

private theorem shuffle_succ (items : List α) (count choice : ℕ) (choices : List ℕ) (positive : 0 < count)
    (length : items.length = count + 1) (rest : List α) (item : α)
    (exchanged : exchange items count choice = rest ++ [item]) (shorter : rest.length = count)
    (valid : Choices count choices) :
    shuffle items (choice :: choices) = shuffle rest choices ++ [item] := by
  rw [shuffle,length,places_succ count positive,List.zip_cons_cons]
  simp only [exchanges,List.foldl_cons]
  rw [exchanged]
  refine (exchanges_snoc rest _ ((places count).zip choices) ?_).trans ?_
  · intro pair member
    have place := places_lt count pair.1 (List.of_mem_zip member).1
    obtain ⟨_,within⟩ := List.forall₂_iff_zip.mp valid
    have below := within (a := pair.1) (b := pair.2) member
    omega
  · rw [shuffle,shorter]

private theorem choices_succ (count : ℕ) (positive : 0 < count) (choices : List ℕ) :
    Choices (count + 1) choices ↔ ∃ choice rest, choices = choice :: rest ∧ choice ≤ count ∧
      Choices count rest := by
  rw [Choices,places_succ count positive,List.forall₂_cons_left_iff]
  constructor
  · intro ⟨choice,rest,chosen,valid,same⟩
    exact ⟨choice,rest,same,chosen,valid⟩
  · intro ⟨choice,rest,same,chosen,valid⟩
    exact ⟨choice,rest,chosen,valid,same⟩

private theorem shuffle_small (items : List α) (small : items.length ≤ 1) (choices : List ℕ) :
    shuffle items choices = items := by
  rw [shuffle,places_le_one _ small]
  rfl

private theorem shuffle_bijOn_small (items : List α) (small : items.length ≤ 1) :
    Set.BijOn (shuffle items) {choices | Choices items.length choices}
      {arrangement | arrangement.Perm items} := by
  have none : ∀ choices, Choices items.length choices ↔ choices = [] := by
    intro choices
    rw [Choices,places_le_one _ small,List.forall₂_nil_left_iff]
  refine ⟨?_,?_,?_⟩
  · intro choices _
    exact List.Perm.of_eq (shuffle_small items small choices)
  · intro choices valid other validOther _
    exact ((none choices).mp valid).trans ((none other).mp validOther).symm
  · intro arrangement perm
    refine ⟨[],(none []).mpr rfl,?_⟩
    rw [shuffle_small items small]
    match items,small,perm with
    | [],_,perm => exact (List.Perm.eq_nil perm).symm
    | [item],_,perm => exact (List.perm_singleton.mp perm).symm

/-- Every arrangement of a list of different items comes from exactly one sequence of choices. -/
theorem shuffle_bijOn (items : List α) (nodup : items.Nodup) :
    Set.BijOn (shuffle items) {choices | Choices items.length choices}
      {arrangement | arrangement.Perm items} := by
  induction size : items.length generalizing items with
  | zero => exact size ▸ shuffle_bijOn_small items (by omega)
  | succ count ih =>
    rcases Nat.eq_zero_or_pos count with rfl | positive
    · exact size ▸ shuffle_bijOn_small items (by omega)
    refine ⟨?_,?_,?_⟩
    · intro choices valid
      obtain ⟨choice,others,rfl,chosen,rest⟩ := (choices_succ count positive choices).mp valid
      obtain ⟨front,exchanged,shorter,perm⟩ := exchange_last items count choice size chosen
      have nodupFront := (perm.nodup_iff.mpr nodup).of_append_left
      have maps := (ih front nodupFront shorter).mapsTo rest
      have made := shuffle_succ items count choice others positive size front _ exchanged shorter rest
      exact (List.Perm.of_eq made).trans ((List.Perm.append_right _ maps).trans perm)
    · intro choices valid other validOther same
      obtain ⟨choice,others,rfl,chosen,rest⟩ := (choices_succ count positive choices).mp valid
      obtain ⟨second,more,rfl,chosenSecond,restSecond⟩ :=
        (choices_succ count positive other).mp validOther
      obtain ⟨front,exchanged,shorter,perm⟩ := exchange_last items count choice size chosen
      obtain ⟨frontSecond,exchangedSecond,shorterSecond,_⟩ :=
        exchange_last items count second size chosenSecond
      rw [shuffle_succ items count choice others positive size front _ exchanged shorter rest,
        shuffle_succ items count second more positive size frontSecond _ exchangedSecond
          shorterSecond restSecond] at same
      obtain ⟨fronts,lasts⟩ := List.append_inj' same rfl
      have chosenSame : choice = second := by
        have values : items.get ⟨choice,by omega⟩ = items.get ⟨second,by omega⟩ := by
          simpa using lasts
        simpa using nodup.get_inj_iff.mp values
      subst chosenSame
      obtain rfl : front = frontSecond :=
        (List.append_inj' (exchanged.symm.trans exchangedSecond) rfl).1
      have nodupFront := (perm.nodup_iff.mpr nodup).of_append_left
      rw [(ih front nodupFront shorter).injOn rest restSecond fronts]
    · intro arrangement perm
      have nonempty : arrangement ≠ [] := by
        rw [← List.length_pos_iff,List.Perm.length_eq perm]
        omega
      have member : arrangement.getLast nonempty ∈ items :=
        (List.Perm.mem_iff perm).mp (List.getLast_mem nonempty)
      obtain ⟨choice,inside,here⟩ := List.mem_iff_getElem.mp member
      have chosen : choice ≤ count := by omega
      obtain ⟨front,exchanged,shorter,permFront⟩ := exchange_last items count choice size chosen
      have nodupFront := (permFront.nodup_iff.mpr nodup).of_append_left
      have split := List.dropLast_append_getLast nonempty
      have last : items.get ⟨choice,inside⟩ = arrangement.getLast nonempty := here
      rw [last] at exchanged permFront
      have permRest : arrangement.dropLast.Perm front := by
        have both := (List.Perm.of_eq split).trans (List.Perm.trans perm permFront.symm)
        exact (List.perm_append_right_iff _).mp both
      obtain ⟨others,rest,made⟩ := (ih front nodupFront shorter).surjOn permRest
      refine ⟨choice :: others,(choices_succ count positive _).mpr ⟨choice,others,rfl,chosen,rest⟩,?_⟩
      rw [shuffle_succ items count choice others positive size front _ exchanged shorter rest,made]
      exact split

end Foundation.Shuffle
