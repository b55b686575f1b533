import Mathlib.Data.List.Basic
import Mathlib.Data.Int.ModEq
import Mathlib.Data.Set.Function
import Mathlib.Algebra.BigOperators.Group.List.Basic
import Mathlib.Tactic

/-! Additive sharing of zero modulo `t`. Each group of places gets free draws on all
its places but the last, and the last place gets the value that cancels them. Dealing is
a bijection from the draws onto the assignments whose groups all sum to zero. -/
namespace Foundation.ZeroSum

variable {Place : Type}

def draws (draw : ℕ → ℤ) (group : List Place) : List ℤ :=
  (List.range (group.length - 1)).map draw

/-- The values a group receives, in the order of its places. -/
def values (t : ℤ) (draw : ℕ → ℤ) (group : List Place) : List ℤ :=
  draws draw group ++ [(-(draws draw group).sum) % t]

/-- Deal every group in turn; each takes up the draws where the last one stopped. -/
def deal (t : ℤ) : (ℕ → ℤ) → List (List Place) → List (Place × ℤ)
  | _, [] => []
  | draw, group :: groups =>
    group.zip (values t draw group) ++ deal t (fun k => draw (k + (group.length - 1))) groups

def drawCount (groups : List (List Place)) : ℕ := (groups.map fun group => group.length - 1).sum

/-- Every draw that is used lies in `Z_t`. -/
def InRange (t : ℤ) (count : ℕ) (draw : ℕ → ℤ) : Prop := ∀ k < count, 0 ≤ draw k ∧ draw k < t

/-- An assignment that takes values in `Z_t` on the groups and sums to zero over each. -/
structure Balanced (t : ℤ) (groups : List (List Place)) (f : Place → ℤ) : Prop where
  range : ∀ group ∈ groups, ∀ place ∈ group, 0 ≤ f place ∧ f place < t
  sum : ∀ group ∈ groups, (group.map f).sum % t = 0

@[simp] theorem drawCount_cons (group : List Place) (groups : List (List Place)) :
    drawCount (group :: groups) = (group.length - 1) + drawCount groups := by
  simp [drawCount]

private theorem values_length (t : ℤ) (draw : ℕ → ℤ) (group : List Place) (nonempty : group ≠ []) :
    (values t draw group).length = group.length := by
  have positive := List.length_pos_iff.mpr nonempty
  simp [values,draws]
  omega

private theorem values_sum (t : ℤ) (draw : ℕ → ℤ) (group : List Place) :
    (values t draw group).sum % t = 0 := by
  rw [values,List.sum_append,List.sum_singleton,Int.add_emod,Int.emod_emod_of_dvd _ (dvd_refl t),
    ← Int.add_emod,add_neg_cancel,Int.zero_emod]

private theorem values_range (t : ℤ) (draw : ℕ → ℤ) (group : List Place) (positive : 0 < t)
    (inside : InRange t (group.length - 1) draw) :
    ∀ value ∈ values t draw group, 0 ≤ value ∧ value < t := by
  intro value member
  rcases List.mem_append.mp member with drawn | last
  · obtain ⟨k,hk,rfl⟩ := List.mem_map.mp drawn
    exact inside k (List.mem_range.mp hk)
  · rw [List.mem_singleton.mp last]
    exact ⟨Int.emod_nonneg _ positive.ne',Int.emod_lt_of_pos _ positive⟩

/-- Over distinct places a dealt list is the graph of one balanced assignment. -/
theorem deal_balanced (t : ℤ) (draw : ℕ → ℤ) (groups : List (List Place)) (positive : 0 < t)
    (nonempty : ∀ group ∈ groups, group ≠ []) (distinct : groups.flatten.Nodup)
    (inside : InRange t (drawCount groups) draw) :
    ∃ f : Place → ℤ, deal t draw groups = groups.flatten.map (fun place => (place,f place)) ∧
      Balanced t groups f ∧ ∀ place ∉ groups.flatten, f place = 0 := by
  classical
  induction groups generalizing draw with
  | nil => exact ⟨fun _ => 0,rfl,⟨by simp,by simp⟩,by simp⟩
  | cons group groups ih =>
    rw [List.flatten_cons,List.nodup_append'] at distinct
    obtain ⟨here,there,apart⟩ := distinct
    obtain ⟨f,graph,balanced,zero⟩ := ih (fun k => draw (k + (group.length - 1)))
      (fun other member => nonempty other (by simp [member])) there
      (fun k hk => inside _ (by rw [drawCount_cons]; omega))
    have size := values_length t draw group (nonempty group (by simp))
    let g : Place → ℤ := fun place =>
      if place ∈ group then ((group.zip (values t draw group)).lookup place).getD 0 else f place
    have other : ∀ place ∈ groups.flatten, g place = f place := by
      intro place member
      have absent : place ∉ group := fun inGroup => apart inGroup member
      simp [g,absent]
    have graph' : group.zip (values t draw group) = group.map (fun place => (place,g place)) := by
      apply List.ext_getElem (by simp [size])
      intro i left right
      have bound : i < group.length := by simpa using right
      have valued : i < (values t draw group).length := by omega
      have found : (group.zip (values t draw group)).lookup group[i] =
          some (values t draw group)[i] := by
        rw [List.lookup_eq_some_iff]
        refine ⟨(group.zip (values t draw group)).take i,
          (group.zip (values t draw group)).drop (i + 1),?_,?_⟩
        · conv_lhs => rw [← List.take_append_drop i (group.zip (values t draw group))]
          rw [List.drop_eq_getElem_cons left,List.getElem_zip]
        · intro pair member
          obtain ⟨j,hj,rfl⟩ := List.mem_iff_getElem.mp member
          simp only [List.length_take] at hj
          rw [List.getElem_take,List.getElem_zip]
          simp only [bne_iff_ne,ne_eq]
          intro same
          have := here.getElem_inj_iff.mp same
          omega
      simp [g,found]
    refine ⟨g,?_,⟨?_,?_⟩,?_⟩
    · rw [deal,graph,graph',List.flatten_cons,List.map_append]
      congr 1
      exact List.map_congr_left (fun place member => by rw [other place member])
    · intro member hm place hp
      rcases List.mem_cons.mp hm with rfl | later
      · have inValues : g place ∈ values t draw member := by
          have pair : (place,g place) ∈ member.zip (values t draw member) := by
            rw [graph']
            exact List.mem_map.mpr ⟨place,hp,rfl⟩
          exact (List.of_mem_zip pair).2
        exact values_range t draw member positive
          (fun k hk => inside k (by rw [drawCount_cons]; omega)) _ inValues
      · rw [other place (List.mem_flatten.mpr ⟨member,later,hp⟩)]
        exact balanced.range member later place hp
    · intro member hm
      rcases List.mem_cons.mp hm with rfl | later
      · have mapped : member.map g = values t draw member := by
          have seconds := congrArg (List.map Prod.snd) graph'
          rw [List.map_snd_zip (by omega),List.map_map] at seconds
          exact seconds.symm
        rw [mapped,values_sum]
      · rw [List.map_congr_left (g := f) (fun place hp =>
          other place (List.mem_flatten.mpr ⟨member,later,hp⟩))]
        exact balanced.sum member later
    · intro place absent
      rw [List.flatten_cons,List.mem_append,not_or] at absent
      simp [g,absent.1,zero place absent.2]

private theorem zip_values_injective (t : ℤ) (left right : ℕ → ℤ) (group : List Place)
    (nonempty : group ≠ [])
    (same : group.zip (values t left group) = group.zip (values t right group)) :
    ∀ k < group.length - 1, left k = right k := by
  have seconds := congrArg (List.map Prod.snd) same
  rw [List.map_snd_zip (by rw [values_length t left group nonempty]),
    List.map_snd_zip (by rw [values_length t right group nonempty])] at seconds
  intro k hk
  have entry := congrArg (fun list => list[k]?) seconds
  simpa [values,draws,List.getElem?_append,hk] using entry

/-- The draws can be read back from what was dealt. -/
theorem deal_injective (t : ℤ) (left right : ℕ → ℤ) (groups : List (List Place))
    (nonempty : ∀ group ∈ groups, group ≠ [])
    (same : deal t left groups = deal t right groups) :
    ∀ k < drawCount groups, left k = right k := by
  induction groups generalizing left right with
  | nil => simp [drawCount]
  | cons group groups ih =>
    have first := nonempty group (by simp)
    have size : (group.zip (values t left group)).length = (group.zip (values t right group)).length := by
      simp [values_length _ _ _ first]
    obtain ⟨here,there⟩ := List.append_inj same size
    intro k hk
    rw [drawCount_cons] at hk
    by_cases early : k < group.length - 1
    · exact zip_values_injective t left right group first here k early
    · have later := ih _ _ (fun other member => nonempty other (by simp [member])) there
        (k - (group.length - 1)) (by omega)
      simpa [Nat.sub_add_cancel (not_lt.mp early)] using later

def drawsOf (groups : List (List Place)) (f : Place → ℤ) : List ℤ :=
  groups.flatMap fun group => group.dropLast.map f

theorem drawsOf_length (groups : List (List Place)) (f : Place → ℤ) :
    (drawsOf groups f).length = drawCount groups := by
  simp [drawsOf,drawCount,List.length_flatMap]

theorem deal_surjective (t : ℤ) (groups : List (List Place)) (f : Place → ℤ)
    (nonempty : ∀ group ∈ groups, group ≠ []) (balanced : Balanced t groups f)
    (draw : ℕ → ℤ) (rest : List ℤ) (drawn : ∀ k, draw k = (drawsOf groups f ++ rest).getD k 0) :
    deal t draw groups = groups.flatten.map (fun place => (place,f place)) := by
  induction groups generalizing draw with
  | nil => rfl
  | cons group groups ih =>
    have first := nonempty group (by simp)
    have split := List.dropLast_append_getLast first
    have taken : draws draw group = group.dropLast.map f := by
      apply List.ext_getElem (by simp [draws])
      intro i left right
      have bound : i < (group.dropLast.map f).length := right
      simp [draws,drawn,drawsOf,List.getD_eq_getElem?_getD,List.getElem?_append,
        show i < group.length - 1 by simpa using bound]
    have total := balanced.sum group (by simp)
    have last := balanced.range group (by simp) (group.getLast first) (List.getLast_mem first)
    have closing : (-(draws draw group).sum) % t = f (group.getLast first) := by
      rw [taken]
      rw [← split,List.map_append,List.sum_append] at total
      simp only [List.map_cons,List.map_nil,List.sum_cons,List.sum_nil,add_zero] at total
      have divides := Int.dvd_of_emod_eq_zero total
      have same : (-(group.dropLast.map f).sum) % t = f (group.getLast first) % t := by
        apply Int.emod_emod_of_dvd _ (dvd_refl t) |>.symm.trans
        rw [Int.emod_emod_of_dvd _ (dvd_refl t)]
        apply (Int.emod_emod_of_dvd _ (dvd_refl t)).symm.trans
        rw [Int.emod_emod_of_dvd _ (dvd_refl t)]
        apply Int.ModEq.symm
        rw [Int.modEq_iff_dvd]
        obtain ⟨c,hc⟩ := divides
        exact ⟨-c,by linarith⟩
      rw [same,Int.emod_eq_of_lt last.1 last.2]
    have here : group.zip (values t draw group) = group.map (fun place => (place,f place)) := by
      have mapped : values t draw group = group.map f := by
        rw [values,closing,taken]
        conv_rhs => rw [← split]
        simp
      rw [mapped]
      exact List.ext_getElem (by simp) (by simp)
    rw [deal,here,List.flatten_cons,List.map_append]
    congr 1
    apply ih (fun other member => nonempty other (by simp [member]))
      ⟨fun other member => balanced.range other (by simp [member]),
        fun other member => balanced.sum other (by simp [member])⟩
    intro k
    rw [drawn]
    simp [drawsOf,List.getD_eq_getElem?_getD,List.getElem?_append]

theorem drawsOf_range (t : ℤ) (groups : List (List Place)) (f : Place → ℤ)
    (balanced : Balanced t groups f) : ∀ value ∈ drawsOf groups f, 0 ≤ value ∧ value < t := by
  intro value member
  obtain ⟨group,hg,inGroup⟩ := List.mem_flatMap.mp member
  obtain ⟨place,hp,rfl⟩ := List.mem_map.mp inGroup
  exact balanced.range group hg place (List.mem_of_mem_dropLast hp)

theorem Balanced.shift {t : ℤ} {groups : List (List Place)} {f : Place → ℤ} (positive : 0 < t)
    (balanced : Balanced t groups f) (difference : Place → ℤ)
    (cancels : ∀ group ∈ groups, (group.map difference).sum % t = 0) :
    Balanced t groups (fun place => (f place + difference place) % t) where
  range _ _ _ _ := ⟨Int.emod_nonneg _ positive.ne',Int.emod_lt_of_pos _ positive⟩
  sum group member := by
    have unfolded : ∀ places : List Place,
        (places.map (fun place => (f place + difference place) % t)).sum % t =
          ((places.map f).sum + (places.map difference).sum) % t := by
      intro places
      induction places with
      | nil => simp
      | cons place places ih =>
        simp only [List.map_cons,List.sum_cons]
        rw [Int.add_emod,ih,← Int.add_emod,Int.emod_add_emod]
        ring_nf
    rw [unfolded,Int.add_emod,balanced.sum group member,cancels group member]
    simp

end Foundation.ZeroSum
