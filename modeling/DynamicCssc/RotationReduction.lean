import DynamicCssc.QueryReduction
import DynamicCssc.OracleRuns

/-! The rotation schedule of a chunk, run on its own: for every lane, wrapped around or not, it leaves
the sum of the lanes at the height's stride. -/
namespace DynamicCssc.RotationReduction
open Foundation CloudProgram PlaintextOracle

/-- What one round of either loop appends. -/
structure Step where
  minor : ℕ
  source : String
  accumulated : String

def rotateName (ordinal minor : ℕ) : Name := ⟨.ssaRotate,ordinal,some minor⟩

def sumName (ordinal minor : ℕ) : Name := ⟨.ssaColumnSum,ordinal,some minor⟩

def Step.nodes (ordinal height : ℕ) (step : Step) : List CloudNode :=
  [.rotate (rotateName ordinal step.minor).text step.source (step.minor * height : ℕ)
      (step.minor * height : ℕ),
    .addCiphertexts (sumName ordinal step.minor).text step.accumulated
      (rotateName ordinal step.minor).text]

def nodesOf (ordinal height : ℕ) (steps : List Step) : List CloudNode :=
  steps.flatMap (Step.nodes ordinal height)

def append (ordinal height : ℕ) (steps : List Step) (emission : Emission) : Emission :=
  { emission with
    nodes := emission.nodes ++ nodesOf ordinal height steps
    rotationShifts := emission.rotationShifts ++ steps.map fun step => step.minor * height }

theorem append_nil (ordinal height : ℕ) (emission : Emission) :
    append ordinal height [] emission = emission := by
  simp [append,nodesOf]

private theorem append_snoc (ordinal height : ℕ) (steps : List Step) (step : Step) (emission : Emission) :
    append ordinal height (steps ++ [step]) emission =
      (append ordinal height steps emission).rotateAdd ⟨.ssaRotate,ordinal,some step.minor⟩
        ⟨.ssaColumnSum,ordinal,some step.minor⟩ step.source step.accumulated (step.minor * height) := by
  simp [append,nodesOf,Emission.rotateAdd,Step.nodes,rotateName,sumName]

section Lanes
variable {values : List ℤ} {height modulus : ℕ}

/-- The lane behind the end is the first one. -/
def around (values : List ℤ) (place : ℕ) : ℤ := values.getD (place % values.length) 0

/-- For every lane the sum of so many lanes, from it on, at the stride. -/
def cyclicSums (values : List ℤ) (height modulus terms : ℕ) : List ℤ :=
  (List.range values.length).map fun lane => Strided.total (around values) height terms lane % modulus

private theorem cyclicSums_length (terms : ℕ) : (cyclicSums values height modulus terms).length = values.length := by
  simp [cyclicSums]

private theorem around_wrap (terms lane : ℕ) : Strided.total (around values) height terms (lane % values.length) =
    Strided.total (around values) height terms lane := by
  apply Finset.sum_congr rfl
  intro j _
  rw [around,around,Nat.mod_add_mod]

private theorem cyclicSums_getD (terms lane : ℕ) (inside : lane < values.length) :
    (cyclicSums values height modulus terms).getD lane 0 =
      Strided.total (around values) height terms lane % modulus := by
  simp [cyclicSums,inside]

private theorem rotated_cyclicSums (terms shift : ℕ) (nonempty : 0 < values.length) :
    rotated (shift : ℕ) (cyclicSums values height modulus terms) = (List.range values.length).map fun lane =>
      Strided.total (around values) height terms (lane + shift) % modulus := by
  rw [rotated,cyclicSums_length]
  apply List.map_congr_left
  intro lane _
  have place : (((lane : ℤ) + (shift : ℤ)) % (values.length : ℤ)).toNat = (lane + shift) % values.length := by
    rw [← Nat.cast_add,← Int.natCast_emod,Int.toNat_natCast]
  rw [place,cyclicSums_getD _ _ (Nat.mod_lt _ nonempty),around_wrap]

private theorem cyclicSums_add (first second : ℕ) (nonempty : 0 < values.length) :
    combined (· + ·) modulus (cyclicSums values height modulus first)
      (rotated (first * height : ℕ) (cyclicSums values height modulus second)) =
        cyclicSums values height modulus (first + second) := by
  rw [rotated_cyclicSums _ _ nonempty,combined,cyclicSums,cyclicSums,List.zip_map',List.map_map]
  apply List.map_congr_left
  intro lane _
  rw [Function.comp_apply,Strided.total_add,← Int.add_emod]

private theorem cyclicSums_one (residues : ∀ value ∈ values, 0 ≤ value ∧ value < modulus) :
    cyclicSums values height modulus 1 = values := by
  apply List.ext_getElem (cyclicSums_length 1)
  intro lane _ inside
  have small := residues _ (List.getElem_mem inside)
  simp [cyclicSums,around,Nat.mod_eq_of_lt inside,inside,Int.emod_eq_of_lt small.1 small.2]

end Lanes

section Run
variable {rotations : List (ℤ × ℤ)} {masks : Vectors} {modulus ordinal height : ℕ} {values : List ℤ}

private theorem rotate_ne_sum (minor other : ℕ) : (rotateName ordinal minor).text ≠ (sumName ordinal other).text := by
  intro same
  have names := Name.text_injective same
  simp [rotateName,sumName] at names

private theorem sum_injective {minor other : ℕ} (same : (sumName ordinal minor).text = (sumName ordinal other).text) :
    minor = other := by
  have names := Name.text_injective same
  simpa [sumName] using names

private theorem rotate_injective {minor other : ℕ}
    (same : (rotateName ordinal minor).text = (rotateName ordinal other).text) : minor = other := by
  have names := Name.text_injective same
  simpa [rotateName] using names

/-- The run of one step: it leaves the longer sums under its sum's name and touches no other id than
its own two. -/
private theorem step_runs (ordinal : ℕ) (state : Execution) (step : Step) (second : ℕ) (nonempty : 0 < values.length)
    (catalogued : rotations.lookup ((step.minor * height : ℕ) : ℤ) = some ((step.minor * height : ℕ) : ℤ))
    (accumulated : state.ciphertexts.lookup step.accumulated = some (cyclicSums values height modulus step.minor))
    (source : state.ciphertexts.lookup step.source = some (cyclicSums values height modulus second))
    (apart : step.accumulated ≠ (rotateName ordinal step.minor).text) :
    ∃ next, (step.nodes ordinal height).foldlM (executeNode rotations masks modulus) state = .ok next ∧
      next.ciphertexts.lookup (sumName ordinal step.minor).text =
        some (cyclicSums values height modulus (step.minor + second)) ∧
      ∀ id, id ≠ (rotateName ordinal step.minor).text → id ≠ (sumName ordinal step.minor).text →
        next.ciphertexts.lookup id = state.ciphertexts.lookup id := by
  let turned := rotated ((step.minor * height : ℕ) : ℤ) (cyclicSums values height modulus second)
  let middle := state.define (rotateName ordinal step.minor).text turned
  have first : executeNode rotations masks modulus state (.rotate (rotateName ordinal step.minor).text
      step.source (step.minor * height : ℕ) (step.minor * height : ℕ)) = .ok middle := by
    rw [executeNode]
    refine Checked.pass _ _ _ (Checked.require_true _ _ catalogued) ?_
    rw [read_ok source]
    rfl
  have kept : middle.ciphertexts.lookup step.accumulated =
      some (cyclicSums values height modulus step.minor) := by
    rw [show middle.ciphertexts = Dict.set _ turned state.ciphertexts from rfl,Dict.lookup_set,if_neg apart,
      accumulated]
  have made : middle.ciphertexts.lookup (rotateName ordinal step.minor).text = some turned := by
    rw [show middle.ciphertexts = Dict.set _ turned state.ciphertexts from rfl,Dict.lookup_set,if_pos rfl]
  have same : (cyclicSums values height modulus step.minor).length = turned.length := by
    rw [cyclicSums_length,rotated_length,cyclicSums_length]
  have last : executeNode rotations masks modulus middle (.addCiphertexts (sumName ordinal step.minor).text
      step.accumulated (rotateName ordinal step.minor).text) = .ok (middle.define
        (sumName ordinal step.minor).text (cyclicSums values height modulus (step.minor + second))) := by
    rw [executeNode,read_ok kept,read_ok made,Checked.ok_bind,Checked.ok_bind,pointwise_ok _ _ _ _ same,
      cyclicSums_add _ _ nonempty]
    rfl
  refine ⟨middle.define (sumName ordinal step.minor).text
    (cyclicSums values height modulus (step.minor + second)),?_,?_,?_⟩
  · rw [Step.nodes,List.foldlM_cons,first,Checked.ok_bind,List.foldlM_cons,last]
    rfl
  · simp [Execution.define]
  · intro id notRotate notSum
    simp [Execution.define,middle,notRotate,notSum]

/-- The source, or the sum of an earlier step. -/
def Earlier (ordinal : ℕ) (source : String) (bound : ℕ) (id : String) : Prop :=
  id = source ∨ ∃ minor < bound, id = (sumName ordinal minor).text

/-- The source is none of the ids that the steps write. -/
def Foreign (ordinal : ℕ) (source : String) : Prop :=
  ∀ minor, source ≠ (rotateName ordinal minor).text ∧ source ≠ (sumName ordinal minor).text

theorem Earlier.apart {source : String} {bound : ℕ} {id : String} (foreign : Foreign ordinal source)
    (earlier : Earlier ordinal source bound id) :
    id ≠ (rotateName ordinal bound).text ∧ id ≠ (sumName ordinal bound).text := by
  rcases earlier with here | ⟨minor,below,here⟩
  · exact here ▸ foreign bound
  · refine ⟨here ▸ (rotate_ne_sum _ _).symm,?_⟩
    intro same
    exact absurd (sum_injective (here.symm.trans same)) (Nat.ne_of_lt below)

theorem Earlier.mono {source : String} {bound later : ℕ} {id : String} (ordered : bound ≤ later)
    (earlier : Earlier ordinal source bound id) : Earlier ordinal source later id := by
  rcases earlier with here | ⟨minor,below,here⟩
  · exact Or.inl here
  · exact Or.inr ⟨minor,by omega,here⟩

/-- An id of the schedule whose vector holds so many columns. -/
def Holds (values : List ℤ) (height modulus ordinal : ℕ) (source : String) (bound : ℕ) (state : Execution)
    (terms : ℕ) (id : String) : Prop :=
  Earlier ordinal source bound id ∧
    state.ciphertexts.lookup id = some (cyclicSums values height modulus terms)

/-- The schedule so far. `bound` is above every step's number, and `pending` is the one sum that no
step has read yet. -/
structure Scheduled (rotations : List (ℤ × ℤ)) (masks : Vectors) (modulus ordinal width height : ℕ)
    (start : Execution) (before : Emission) (bound : ℕ) (pending : String) (emission : Emission)
    (steps : List Step) (state : Execution) : Prop where
  emitted : emission = append ordinal height steps before
  ordered : steps.Pairwise fun left right => left.minor < right.minor
  small : ∀ step ∈ steps, 0 < step.minor ∧ step.minor < bound
  inside : bound ≤ width
  run : (nodesOf ordinal height steps).foldlM (executeNode rotations masks modulus) start = .ok state
  used : ∀ step ∈ steps, (sumName ordinal step.minor).text = pending ∨
    ∃ reader ∈ steps, step.minor < reader.minor ∧ ((sumName ordinal step.minor).text = reader.source ∨
      (sumName ordinal step.minor).text = reader.accumulated)

variable {start : Execution} {before : Emission} {source : String} {width : ℕ}

/-- One round of either loop. -/
theorem Scheduled.round {bound second : ℕ} {pending id : String} {emission : Emission} {steps : List Step}
    {state : Execution}
    (scheduled : Scheduled rotations masks modulus ordinal width height start before bound pending emission
      steps state)
    (foreign : Foreign ordinal source) (nonempty : 0 < values.length) (positive : 0 < bound)
    (more : 0 < second) (room : bound + second ≤ width)
    (catalogued : ∀ minor < width, 0 < minor →
      rotations.lookup ((minor * height : ℕ) : ℤ) = some ((minor * height : ℕ) : ℤ))
    (accumulated : Holds values height modulus ordinal source bound state bound pending)
    (brought : Holds values height modulus ordinal source bound state second id) :
    ∃ steps' state', Scheduled rotations masks modulus ordinal width height start before (bound + second)
      (sumName ordinal bound).text (emission.rotateAdd ⟨.ssaRotate,ordinal,some bound⟩
        ⟨.ssaColumnSum,ordinal,some bound⟩ id pending (bound * height)) steps' state' ∧
      Holds values height modulus ordinal source (bound + second) state' (bound + second)
        (sumName ordinal bound).text ∧
      ∀ terms other, Holds values height modulus ordinal source bound state terms other →
        Holds values height modulus ordinal source (bound + second) state' terms other := by
  let step : Step := ⟨bound,id,pending⟩
  obtain ⟨next,run,sum,others⟩ := step_runs ordinal state step second nonempty
    (catalogued bound (by omega) positive) accumulated.2 brought.2 (accumulated.1.apart foreign).1
  refine ⟨steps ++ [step],next,⟨?_,?_,?_,room,?_,?_⟩,⟨Or.inr ⟨bound,by omega,rfl⟩,sum⟩,?_⟩
  · rw [append_snoc,scheduled.emitted]
  · rw [List.pairwise_append]
    refine ⟨scheduled.ordered,List.pairwise_singleton _ _,?_⟩
    intro old member new last
    rw [List.mem_singleton.mp last]
    exact (scheduled.small old member).2
  · intro other member
    rcases List.mem_append.mp member with old | new
    · have small := scheduled.small other old
      exact ⟨small.1,by omega⟩
    · rw [List.mem_singleton.mp new]
      exact ⟨positive,by change bound < _; omega⟩
  · rw [nodesOf,List.flatMap_append,List.foldlM_append]
    refine (Checked.bind_success _ _ _).mpr ⟨state,scheduled.run,?_⟩
    simpa using run
  · intro other member
    rcases List.mem_append.mp member with old | new
    · right
      rcases scheduled.used other old with here | ⟨reader,listed,reads⟩
      · exact ⟨step,by simp,(scheduled.small other old).2,Or.inr here⟩
      · exact ⟨reader,List.mem_append_left _ listed,reads⟩
    · rw [List.mem_singleton.mp new]
      exact Or.inl rfl
  · intro terms other held
    obtain ⟨notRotate,notSum⟩ := held.1.apart foreign
    exact ⟨held.1.mono (by omega),(others other notRotate notSum).trans held.2⟩

def Stored (values : List ℤ) (height modulus ordinal : ℕ) (source : String) (bound : ℕ) (state : Execution)
    (powers : List (ℕ × String)) (terms : ℕ) : Prop :=
  ∃ id, powers.lookup terms = some id ∧ Holds values height modulus ordinal source bound state terms id

/-- The doubling loop: the powers of two up to the span are stored, and the last of them is pending. -/
structure Doubling (rotations : List (ℤ × ℤ)) (masks : Vectors) (values : List ℤ)
    (modulus ordinal width height : ℕ) (start : Execution) (before : Emission) (source : String) (span : ℕ)
    (powers : List (ℕ × String)) (emission : Emission) (steps : List Step) (state : Execution) : Prop where
  scheduled : Scheduled rotations masks modulus ordinal width height start before span
    ((powers.lookup span).getD "") emission steps state
  power : ∃ exponent, span = 2 ^ exponent
  stored : ∀ exponent, 2 ^ exponent ≤ span →
    Stored values height modulus ordinal source span state powers (2 ^ exponent)

theorem Doubling.step {span : ℕ} {powers : List (ℕ × String)} {emission : Emission} {steps : List Step}
    {state : Execution} (doubling : Doubling rotations masks values modulus ordinal width height start before
      source span powers emission steps state)
    (foreign : Foreign ordinal source) (nonempty : 0 < values.length) (room : 2 * span ≤ width)
    (catalogued : ∀ minor < width, 0 < minor →
      rotations.lookup ((minor * height : ℕ) : ℤ) = some ((minor * height : ℕ) : ℤ)) :
    ∃ steps' state', Doubling rotations masks values modulus ordinal width height start before source (2 * span)
      ((2 * span,(sumName ordinal span).text) :: powers)
      (emission.rotateAdd ⟨.ssaRotate,ordinal,some span⟩ ⟨.ssaColumnSum,ordinal,some span⟩
        ((powers.lookup span).getD "") ((powers.lookup span).getD "") (span * height)) steps' state' := by
  obtain ⟨exponent,isPower⟩ := doubling.power
  have positive : 0 < span := by rw [isPower]; positivity
  obtain ⟨last,found,held⟩ := doubling.stored exponent isPower.ge
  rw [← isPower] at found held
  have scheduled := doubling.scheduled
  rw [found,Option.getD_some] at scheduled ⊢
  obtain ⟨steps',state',next,sum,kept⟩ := scheduled.round foreign nonempty positive positive (by omega)
    catalogued held held
  rw [← two_mul] at next sum kept
  refine ⟨steps',state',?_,⟨exponent + 1,by rw [isPower,pow_succ,mul_comm]⟩,?_⟩
  · rw [Dict.lookup_cons_eq,if_pos rfl,Option.getD_some]
    exact next
  · intro other below
    by_cases same : 2 ^ other = 2 * span
    · rw [same]
      exact ⟨_,by rw [Dict.lookup_cons_eq,if_pos rfl],sum⟩
    · have smaller : other < exponent + 1 := by
        have strict : 2 ^ other < 2 ^ (exponent + 1) := by
          rw [pow_succ,← isPower]
          omega
        exact (Nat.pow_lt_pow_iff_right (by omega)).mp strict
      obtain ⟨id,here,old⟩ := doubling.stored other (by
        rw [isPower]
        exact Nat.pow_le_pow_right (by omega) (by omega))
      exact ⟨id,by rw [Dict.lookup_cons_eq,if_neg same,here],kept _ _ old⟩

private theorem doubleLoop_doubling (foreign : Foreign ordinal source) (nonempty : 0 < values.length)
    (catalogued : ∀ minor < width, 0 < minor →
      rotations.lookup ((minor * height : ℕ) : ℤ) = some ((minor * height : ℕ) : ℤ))
    (fuel span : ℕ) (powers : List (ℕ × String)) (emission : Emission) (steps : List Step)
    (state : Execution) (enough : width < span + fuel)
    (doubling : Doubling rotations masks values modulus ordinal width height start before source span powers
      emission steps state) :
    let out := Emission.doubleLoop ordinal width height fuel span powers emission
    width < 2 * out.2.1 ∧ ∃ steps' state', Doubling rotations masks values modulus ordinal width height
      start before source out.2.1 out.2.2 out.1 steps' state' := by
  induction fuel generalizing span powers emission steps state with
  | zero =>
    have := doubling.scheduled.inside
    omega
  | succ fuel ih =>
    rw [Emission.doubleLoop]
    split
    · rename_i room
      have positive : 0 < span := by
        obtain ⟨exponent,isPower⟩ := doubling.power
        rw [isPower]
        positivity
      obtain ⟨steps',state',next⟩ := doubling.step foreign nonempty room catalogued
      exact ih (2 * span) _ _ steps' state' (by omega) next
    · rename_i full
      exact ⟨by dsimp only; omega,steps,state,doubling⟩

private theorem prefixLoop_scheduled (foreign : Foreign ordinal source) (nonempty : 0 < values.length)
    (catalogued : ∀ minor < width, 0 < minor →
      rotations.lookup ((minor * height : ℕ) : ℤ) = some ((minor * height : ℕ) : ℤ))
    (powers : List (ℕ × String)) (fuel bits covered : ℕ) (accumulated : String) (emission : Emission)
    (steps : List Step) (state : Execution) (enough : bits ≤ fuel)
    (rest : width = covered + width % 2 ^ bits) (positive : 0 < covered)
    (scheduled : Scheduled rotations masks modulus ordinal width height start before covered accumulated
      emission steps state)
    (stored : ∀ exponent < bits,
      Stored values height modulus ordinal source covered state powers (2 ^ exponent))
    (held : Holds values height modulus ordinal source covered state covered accumulated) :
    let out := Emission.prefixLoop ordinal width height powers fuel (2 ^ bits / 2) covered accumulated emission
    ∃ steps' state', Scheduled rotations masks modulus ordinal width height start before width out.2 out.1
      steps' state' ∧ Holds values height modulus ordinal source width state' width out.2 := by
  induction fuel generalizing bits covered accumulated emission steps state with
  | zero =>
    have none : bits = 0 := by omega
    subst none
    have all : covered = width := by omega
    subst all
    exact ⟨steps,state,scheduled,held⟩
  | succ fuel ih =>
    cases bits with
    | zero =>
      have all : covered = width := by omega
      subst all
      exact ⟨steps,state,scheduled,held⟩
    | succ bit =>
      have half : 2 ^ (bit + 1) / 2 = 2 ^ bit := by
        rw [pow_succ]
        omega
      have nonzero : 2 ^ bit ≠ 0 := by positivity
      have low := low_bits width bit
      rw [half,Emission.prefixLoop,if_neg nonzero]
      split
      · rename_i set
        rw [if_pos set] at low
        obtain ⟨id,found,brought⟩ := stored bit (by omega)
        rw [found,Option.getD_some]
        obtain ⟨steps',state',next,sum,kept⟩ := scheduled.round foreign nonempty positive
          (Nat.pos_of_ne_zero nonzero) (by omega) catalogued held brought
        refine ih bit (covered + 2 ^ bit) _ _ steps' state' (by omega) (by omega) (by omega) next ?_ sum
        intro exponent below
        obtain ⟨other,here,old⟩ := stored exponent (by omega)
        exact ⟨other,here,kept _ _ old⟩
      · rename_i clear
        rw [if_neg clear] at low
        exact ih bit covered accumulated emission steps state (by omega) (by omega) positive scheduled
          (fun exponent below => stored exponent (by omega)) held

private theorem appendCsscReduction_scheduled (foreign : Foreign ordinal source) (nonempty : 0 < values.length)
    (wide : 0 < width) (residues : ∀ value ∈ values, 0 ≤ value ∧ value < modulus)
    (catalogued : ∀ minor < width, 0 < minor →
      rotations.lookup ((minor * height : ℕ) : ℤ) = some ((minor * height : ℕ) : ℤ))
    (given : start.ciphertexts.lookup source = some values) :
    let out := before.appendCsscReduction ordinal source width height
    ∃ steps state, Scheduled rotations masks modulus ordinal width height start before width out.2 out.1
      steps state ∧ Holds values height modulus ordinal source width state width out.2 := by
  have first : ∀ bound, Holds values height modulus ordinal source bound start 1 source :=
    fun _ => ⟨Or.inl rfl,by rw [given,cyclicSums_one residues]⟩
  have begin : Scheduled rotations masks modulus ordinal width height start before 1 source before []
      start := by
    refine ⟨(append_nil _ _ _).symm,List.Pairwise.nil,?_,wide,rfl,?_⟩ <;> simp
  rw [Emission.appendCsscReduction]
  split
  · rename_i one
    subst one
    exact ⟨[],start,begin,first 1⟩
  · have doubling : Doubling rotations masks values modulus ordinal width height start before source 1
        [(1,source)] before [] start := by
      refine ⟨?_,⟨0,rfl⟩,?_⟩
      · simpa using begin
      · intro exponent below
        have zero : 2 ^ exponent = 1 := le_antisymm below Nat.one_le_two_pow
        rw [zero]
        exact ⟨source,by simp,first 1⟩
    obtain ⟨large,steps,state,doubled⟩ := doubleLoop_doubling foreign nonempty catalogued width 1
      [(1,source)] before [] start (by omega) doubling
    generalize Emission.doubleLoop ordinal width height width 1 [(1,source)] before = out at *
    obtain ⟨after,span,powers⟩ := out
    obtain ⟨exponent,isPower⟩ := doubled.power
    dsimp only at *
    subst isPower
    obtain ⟨last,found,held⟩ := doubled.stored exponent le_rfl
    have scheduled := doubled.scheduled
    rw [found,Option.getD_some] at scheduled ⊢
    have rest : width = 2 ^ exponent + width % 2 ^ exponent := by
      have inside := scheduled.inside
      rw [Nat.mod_eq_sub_mod inside,Nat.mod_eq_of_lt (by omega)]
      omega
    exact prefixLoop_scheduled foreign nonempty catalogued powers (2 ^ exponent) exponent (2 ^ exponent) last
      after steps state (Nat.lt_two_pow_self).le rest (by positivity) scheduled
      (fun other below => doubled.stored other (Nat.pow_le_pow_right (by omega) below.le)) held

private theorem nodesOf_ids (steps : List Step) : (nodesOf ordinal height steps).map CloudNode.resultId =
    steps.flatMap fun step => [(rotateName ordinal step.minor).text,(sumName ordinal step.minor).text] := by
  rw [nodesOf,List.map_flatMap]
  rfl

private theorem nodesOf_nodup (steps : List Step) (ordered : steps.Pairwise fun left right => left.minor < right.minor) :
    ((nodesOf ordinal height steps).map CloudNode.resultId).Nodup := by
  rw [nodesOf_ids,List.nodup_flatMap]
  refine ⟨?_,?_⟩
  · intro step _
    simpa using rotate_ne_sum step.minor step.minor
  · apply ordered.imp
    intro left right below id inLeft inRight
    simp only [List.mem_cons,List.not_mem_nil,or_false] at inLeft inRight
    have apart := Nat.ne_of_lt below
    rcases inLeft with rotate | sum
    · rcases inRight with rotate' | sum'
      · exact apart (rotate_injective (rotate.symm.trans rotate'))
      · exact rotate_ne_sum _ _ (rotate.symm.trans sum')
    · rcases inRight with rotate' | sum'
      · exact rotate_ne_sum _ _ (rotate'.symm.trans sum)
      · exact apart (sum_injective (sum.symm.trans sum'))

/-- Every id is read by another node, but for the pending sum. -/
private theorem nodesOf_used {bound : ℕ} {pending : String} {emission : Emission} {steps : List Step}
    {state : Execution} (scheduled : Scheduled rotations masks modulus ordinal width height start before bound
      pending emission steps state) :
    ∀ node ∈ nodesOf ordinal height steps, node.resultId = pending ∨
      ∃ reader ∈ nodesOf ordinal height steps, reader.resultId ≠ node.resultId ∧
        node.resultId ∈ ciphertextSources reader := by
  have listed : ∀ step ∈ steps, ∀ node ∈ step.nodes ordinal height, node ∈ nodesOf ordinal height steps :=
    fun step member node inside => List.mem_flatMap.mpr ⟨step,member,inside⟩
  intro node member
  obtain ⟨step,here,inside⟩ := List.mem_flatMap.mp member
  simp only [Step.nodes,List.mem_cons,List.not_mem_nil,or_false] at inside
  rcases inside with rotate | sum
  · right
    refine ⟨_,listed step here _ (List.mem_cons_of_mem _ List.mem_cons_self),?_,?_⟩
    · rw [rotate]
      exact (rotate_ne_sum _ _).symm
    · rw [rotate]
      simp [CloudNode.resultId,ciphertextSources]
  · rw [sum]
    rcases scheduled.used step here with last | ⟨reader,there,later,reads⟩
    · exact Or.inl last
    · right
      rcases reads with source | accumulated
      · refine ⟨_,listed reader there _ List.mem_cons_self,rotate_ne_sum _ _,?_⟩
        simp [CloudNode.resultId,ciphertextSources,source]
      · refine ⟨_,listed reader there _ (List.mem_cons_of_mem _ List.mem_cons_self),?_,?_⟩
        · exact fun same => absurd (sum_injective same) (Nat.ne_of_gt later)
        · simp [CloudNode.resultId,ciphertextSources,accumulated]

def Catalogued (rotations : List (ℤ × ℤ)) : CloudNode → Prop
  | .rotate _ _ logicalShift openfheIndex => rotations.lookup logicalShift = some openfheIndex
  | _ => True

private theorem run_catalogue (other : List (ℤ × ℤ)) (nodes : List CloudNode) (state : Execution)
    (here : ∀ node ∈ nodes, Catalogued rotations node) (there : ∀ node ∈ nodes, Catalogued other node) :
    nodes.foldlM (executeNode rotations masks modulus) state =
      nodes.foldlM (executeNode other masks modulus) state := by
  induction nodes generalizing state with
  | nil => rfl
  | cons node nodes ih =>
    have same : executeNode rotations masks modulus state node = executeNode other masks modulus state node := by
      cases node with
      | rotate resultId ciphertextId logicalShift openfheIndex =>
        have found := here _ List.mem_cons_self
        have found' := there _ List.mem_cons_self
        simp only [Catalogued] at found found'
        simp only [executeNode,found,found']
      | _ => rfl
    rw [List.foldlM_cons,List.foldlM_cons,same]
    congr 1
    funext next
    exact ih next (fun node member => here node (List.mem_cons_of_mem _ member))
      fun node member => there node (List.mem_cons_of_mem _ member)

private theorem nodesOf_catalogued (steps : List Step) (found : ∀ step ∈ steps,
    rotations.lookup ((step.minor * height : ℕ) : ℤ) = some ((step.minor * height : ℕ) : ℤ)) :
    ∀ node ∈ nodesOf ordinal height steps, Catalogued rotations node := by
  intro node member
  obtain ⟨step,here,inside⟩ := List.mem_flatMap.mp member
  simp only [Step.nodes,List.mem_cons,List.not_mem_nil,or_false] at inside
  rcases inside with rotate | sum
  · rw [rotate]
    exact found step here
  · rw [sum]
    trivial

def wholeCatalogue (bound : ℕ) : List (ℤ × ℤ) :=
  (List.range bound).map fun shift : ℕ => ((shift : ℤ),(shift : ℤ))

private theorem wholeCatalogue_lookup {bound shift : ℕ} (inside : shift < bound) :
    (wholeCatalogue bound).lookup (shift : ℤ) = some (shift : ℤ) := by
  have keys : ((wholeCatalogue bound).map Prod.fst).Nodup := by
    rw [wholeCatalogue,List.map_map]
    exact List.Nodup.map (fun _ _ same => Nat.cast_injective same) List.nodup_range
  rw [Dict.lookup_eq_some_iff _ keys]
  exact List.mem_map.mpr ⟨shift,List.mem_range.mpr inside,rfl⟩

end Run

/-- The schedule of a chunk. Run on a vector of residues, the appended nodes end in a vector whose
every lane is the sum of `width` lanes at the stride `height`, wrapped around at the end; their ids
are distinct, every one but the last is read again, and every shift lies inside the row. -/
theorem rotation_reduction (rotations : List (ℤ × ℤ)) (masks : Vectors) (modulus ordinal width height slotCount : ℕ)
    (source : String) (values : List ℤ) (start : Execution) (before : Emission)
    (wide : 1 ≤ width) (tall : 1 ≤ height) (fits : width * height ≤ slotCount)
    (length : values.length = slotCount) (residues : ∀ value ∈ values, 0 ≤ value ∧ value < modulus)
    (given : start.ciphertexts.lookup source = some values)
    (foreign : Foreign ordinal source)
    (catalogued : ∀ shift ∈ (before.appendCsscReduction ordinal source width height).1.rotationShifts,
      rotations.lookup (shift : ℤ) = some (shift : ℤ)) :
    ∃ nodes shifts final,
      (before.appendCsscReduction ordinal source width height).1 =
        { before with nodes := before.nodes ++ nodes, rotationShifts := before.rotationShifts ++ shifts } ∧
      nodes.foldlM (executeNode rotations masks modulus) start = .ok final ∧
      final.ciphertexts.lookup (before.appendCsscReduction ordinal source width height).2 =
        some ((List.range slotCount).map fun lane =>
          (∑ j ∈ Finset.range width, values.getD ((lane + j * height) % slotCount) 0) % modulus) ∧
      (nodes.map CloudNode.resultId).Nodup ∧
      (∀ node ∈ nodes, node.resultId = (before.appendCsscReduction ordinal source width height).2 ∨
        ∃ reader ∈ nodes, reader.resultId ≠ node.resultId ∧ node.resultId ∈ ciphertextSources reader) ∧
      (∀ shift ∈ shifts, 0 < shift ∧ shift < slotCount) := by
  have nonempty : 0 < values.length := by
    rw [length]
    exact (Nat.mul_pos wide tall).trans_le fits
  have inside : ∀ minor < width, minor * height < slotCount := fun minor below =>
    (Nat.mul_lt_mul_of_pos_right below tall).trans_le fits
  -- which steps there are does not depend on the catalogue, so learn them with one that has all
  obtain ⟨steps,final,scheduled,held⟩ : ∃ steps state, Scheduled (wholeCatalogue slotCount) masks modulus
      ordinal width height start before width (before.appendCsscReduction ordinal source width height).2
      (before.appendCsscReduction ordinal source width height).1 steps state ∧
      Holds values height modulus ordinal source width state width
        (before.appendCsscReduction ordinal source width height).2 :=
    appendCsscReduction_scheduled foreign nonempty wide residues
      (fun minor below _ => wholeCatalogue_lookup (inside minor below)) given
  have emitted := scheduled.emitted
  refine ⟨nodesOf ordinal height steps,steps.map fun step : Step => step.minor * height,final,emitted,?_,?_,
    nodesOf_nodup steps scheduled.ordered,nodesOf_used scheduled,?_⟩
  · rw [run_catalogue (wholeCatalogue slotCount) _ _ (nodesOf_catalogued steps ?_)
      (nodesOf_catalogued steps ?_)]
    · exact scheduled.run
    · intro step member
      apply catalogued
      rw [emitted]
      exact List.mem_append_right _ (List.mem_map.mpr ⟨step,member,rfl⟩)
    · intro step member
      exact wholeCatalogue_lookup (inside _ (scheduled.small step member).2)
  · rw [held.2,cyclicSums,length]
    simp only [Strided.total,around,length]
  · intro shift member
    obtain ⟨step,listed,rfl⟩ := List.mem_map.mp member
    have small := scheduled.small step listed
    exact ⟨Nat.mul_pos small.1 tall,inside _ small.2⟩

private theorem relinearized_foreign (ordinal : ℕ) : Foreign ordinal (Name.mk .ssaRelinearized ordinal none).text := by
  intro minor
  refine ⟨?_,?_⟩
  · intro same
    have names := Name.text_injective same
    simp [rotateName] at names
  · intro same
    have names := Name.text_injective same
    simp [sumName] at names

/-- Three columns of two rows in a row of eight lanes. -/
theorem threeColumns_reduced : ∃ nodes shifts final,
    (Emission.empty.appendCsscReduction 0 (Name.mk .ssaRelinearized 0 none).text 3 2).1 =
      { Emission.empty with nodes := [] ++ nodes, rotationShifts := [] ++ shifts } ∧
    nodes.foldlM (executeNode [(2,2),(4,4)] [] 11) ⟨[((Name.mk .ssaRelinearized 0 none).text,
      [1,2,3,4,5,6,7,8])],[]⟩ = .ok final ∧
    final.ciphertexts.lookup (Emission.empty.appendCsscReduction 0
      (Name.mk .ssaRelinearized 0 none).text 3 2).2 = some ((List.range 8).map fun lane =>
        (∑ j ∈ Finset.range 3, ([1,2,3,4,5,6,7,8] : List ℤ).getD ((lane + j * 2) % 8) 0) % ((11 : ℕ) : ℤ)) ∧
    (nodes.map CloudNode.resultId).Nodup ∧
    (∀ node ∈ nodes, node.resultId = (Emission.empty.appendCsscReduction 0
        (Name.mk .ssaRelinearized 0 none).text 3 2).2 ∨
      ∃ reader ∈ nodes, reader.resultId ≠ node.resultId ∧ node.resultId ∈ ciphertextSources reader) ∧
    (∀ shift ∈ shifts, 0 < shift ∧ shift < 8) := by
  refine rotation_reduction [(2,2),(4,4)] [] 11 0 3 2 8 _ [1,2,3,4,5,6,7,8] _ Emission.empty (by decide)
    (by decide) (by decide) rfl (by decide) ?_ (relinearized_foreign 0) ?_
  · rw [Dict.lookup_cons_eq,if_pos rfl]
  · have shifts : (Emission.empty.appendCsscReduction 0 (Name.mk .ssaRelinearized 0 none).text 3
      2).1.rotationShifts = [2,4] := rfl
    rw [shifts]
    decide

end DynamicCssc.RotationReduction
