import DynamicCssc.Foundation.Checked
import Mathlib.Data.List.Induction

/-! Straight-line code: each instruction reads named values and may define one. When the
names are distinct and no name is read before it is defined, a run ends in an environment
that solves the equation of every instruction. -/
namespace Foundation.StraightLine

variable {ι V I O σ ε : Type}

/-- What an instruction set is made of: the name an instruction writes, whether it defines a
value under that name, and the names it reads. -/
structure Signature (ι I : Type) where
  name : I → ι
  defines : I → Bool
  sources : I → List ι

/-- No instruction reads a name before it is an input or defined. -/
def Ordered (sig : Signature ι I) (inputs : ι → Prop) (code : List I) : Prop :=
  ∀ before instruction after, code = before ++ instruction :: after →
    ∀ source ∈ sig.sources instruction, inputs source ∨
      ∃ earlier ∈ before, sig.defines earlier = true ∧ sig.name earlier = source

/-- A machine for an instruction set: its step, the values it holds, the names it has not used and
what it has put out. -/
structure Machine (ι V I O σ ε : Type) where
  step : σ → I → Except ε σ
  lookup : σ → ι → Option V
  free : σ → ι → Prop
  output : σ → List O

/-- The machine runs an instruction it knows, whose sources are there and whose name is free, changes
that name alone, and leaves the equation of the instruction behind. -/
structure Implements (sig : Signature ι I) (machine : Machine ι V I O σ ε) (known : I → Prop)
    (sound : σ → Prop) (equation : (ι → Option V) → I → Prop) (emits : (ι → Option V) → I → List O) :
    Prop where
  advance : ∀ state instruction, known instruction → sound state →
    (∀ source ∈ sig.sources instruction, (machine.lookup state source).isSome) →
    machine.free state (sig.name instruction) →
    ∃ next, machine.step state instruction = .ok next ∧ sound next ∧
      (∀ id, id ≠ sig.name instruction → machine.lookup next id = machine.lookup state id ∧
        (machine.free state id → machine.free next id)) ∧
      equation (machine.lookup next) instruction ∧
      machine.output next = machine.output state ++ emits (machine.lookup next) instruction
  unused : ∀ state id, machine.free state id → machine.lookup state id = none
  defined : ∀ env instruction, equation env instruction → sig.defines instruction = true →
    (env (sig.name instruction)).isSome
  equation_local : ∀ env other instruction, equation env instruction →
    (∀ id, id = sig.name instruction ∨ id ∈ sig.sources instruction → other id = env id) →
    equation other instruction
  emits_local : ∀ env other instruction,
    (∀ id, id = sig.name instruction ∨ id ∈ sig.sources instruction → other id = env id) →
    emits other instruction = emits env instruction

theorem Ordered.left (sig : Signature ι I) (inputs : ι → Prop) (code : List I) (last : I)
    (ordered : Ordered sig inputs (code ++ [last])) : Ordered sig inputs code := by
  intro before instruction after cut
  exact ordered before instruction (after ++ [last]) (by simp [cut])

/-- A run of distinct names reaches the end and solves every equation. -/
theorem run_solves (sig : Signature ι I) (machine : Machine ι V I O σ ε) (known : I → Prop)
    (sound : σ → Prop) (equation : (ι → Option V) → I → Prop) (emits : (ι → Option V) → I → List O)
    (implements : Implements sig machine known sound equation emits) (inputs : ι → Prop) (start : σ)
    (clean : sound start) (present : ∀ id, inputs id → (machine.lookup start id).isSome)
    (code : List I) (knows : ∀ instruction ∈ code, known instruction)
    (distinct : (code.map sig.name).Nodup)
    (free : ∀ instruction ∈ code, machine.free start (sig.name instruction))
    (ordered : Ordered sig inputs code) :
    ∃ final, code.foldlM machine.step start = .ok final ∧ sound final ∧
      (∀ id, id ∉ code.map sig.name → machine.lookup final id = machine.lookup start id ∧
        (machine.free start id → machine.free final id)) ∧
      (∀ instruction ∈ code, equation (machine.lookup final) instruction) ∧
      machine.output final = machine.output start ++ code.flatMap (emits (machine.lookup final)) := by
  induction code using List.reverseRecOn with
  | nil => exact ⟨start,rfl,clean,fun _ _ => ⟨rfl,fun open' => open'⟩,by simp,by simp⟩
  | append_singleton code last ih =>
    rw [List.map_append,List.nodup_append] at distinct
    obtain ⟨apart,_,differ⟩ := distinct
    obtain ⟨middle,run,healthy,same,solved,put⟩ := ih
      (fun instruction member => knows instruction (by simp [member])) apart
      (fun instruction member => free instruction (by simp [member])) (ordered.left sig inputs code last)
    have unused : sig.name last ∉ code.map sig.name := fun member => differ _ member _ (by simp) rfl
    have fresh : machine.free middle (sig.name last) := (same _ unused).2 (free last (by simp))
    have sources_there : ∀ instruction ∈ code ++ [last], ∀ source ∈ sig.sources instruction,
        (machine.lookup middle source).isSome := by
      intro instruction member source reads
      obtain ⟨before,after,cut⟩ := List.append_of_mem member
      rcases ordered before instruction after cut source reads with input | ⟨earlier,early,defines,rfl⟩
      · have kept : source ∉ code.map sig.name := by
          intro written
          obtain ⟨writer,inCode,rfl⟩ := List.mem_map.mp written
          have there := present _ input
          rw [implements.unused _ _ (free writer (by simp [inCode]))] at there
          simp at there
        rw [(same source kept).1]
        exact present source input
      · have inCode : earlier ∈ code := by
          rcases List.eq_nil_or_concat after with rfl | ⟨tail,final,rfl⟩
          · rw [(List.append_inj' cut rfl).1]
            exact early
          · rw [List.concat_eq_append,← List.cons_append,← List.append_assoc] at cut
            rw [(List.append_inj' cut rfl).1]
            simp [early]
        exact implements.defined _ _ (solved earlier inCode) defines
    obtain ⟨final,step,ends,frame,equal,output⟩ := implements.advance middle last
      (knows last (by simp)) healthy
      (sources_there last (by simp)) fresh
    have stable : ∀ instruction ∈ code, ∀ id, id = sig.name instruction ∨ id ∈ sig.sources instruction →
        machine.lookup final id = machine.lookup middle id := by
      intro instruction member id uses
      refine (frame id ?_).1
      intro clash
      rcases uses with named | read
      · exact unused (by rw [← clash,named]; exact List.mem_map.mpr ⟨instruction,member,rfl⟩)
      · have there := sources_there instruction (by simp [member]) id read
        rw [clash,implements.unused _ _ fresh] at there
        simp at there
    refine ⟨final,?_,ends,?_,?_,?_⟩
    · rw [List.foldlM_append,run]
      simpa [bind,Except.bind,pure,Except.pure] using by rw [step]
    · intro id absent
      simp only [List.map_append,List.map_cons,List.map_nil,List.mem_append,List.mem_singleton,
        not_or] at absent
      have early := same id absent.1
      have late := frame id absent.2
      exact ⟨late.1.trans early.1,fun open' => late.2 (early.2 open')⟩
    · intro instruction member
      rcases List.mem_append.mp member with inCode | isLast
      · exact implements.equation_local _ _ _ (solved instruction inCode) (stable instruction inCode)
      · rw [List.mem_singleton.mp isLast]
        exact equal
    · rw [output,put,List.flatMap_append,List.append_assoc,List.append_cancel_left_eq]
      congr 1
      · rw [List.flatMap_def,List.flatMap_def]
        congr 1
        apply List.map_congr_left
        intro instruction member
        exact (implements.emits_local _ _ _ (stable instruction member)).symm
      · simp

end Foundation.StraightLine
