import DynamicCssc.OrdinaryQueryLifecycle
import DynamicCssc.QueryCorrect
import DynamicCssc.StrongExecution

/-! The preparation codec of the strong and of the ordinary lifecycle. -/
namespace DynamicCssc
open Foundation

/-- Both codecs give back an accepted prepared query exactly when the values of its query operands are of
the class `int`, and accept only what they write. -/
theorem preparation_bytes_codec (sha : Sha256) :
    (∀ bundle prepared, StrongExecution.validateBundle sha bundle = .ok () →
      validatePreparedStrong bundle prepared = .ok () →
        ((∃ content, canonicalStrongQueryPreparationBytes sha bundle prepared = .ok content ∧
          decodeStrongQueryPreparationBytes sha bundle content prepared.queryId prepared.vector =
            .ok prepared) ↔ prepared.Strict)) ∧
    (∀ bundle content queryId vector prepared,
      decodeStrongQueryPreparationBytes sha bundle content queryId vector = .ok prepared →
        canonicalStrongQueryPreparationBytes sha bundle prepared = .ok content) ∧
    (∀ bundle prepared, OrdinaryQueryLifecycle.validateBundle sha bundle = .ok () →
      validatePreparedOrdinary bundle prepared = .ok () →
        ((∃ content, canonicalOrdinaryQueryPreparationBytes sha bundle prepared = .ok content ∧
          decodeOrdinaryQueryPreparationBytes sha bundle content prepared.queryId prepared.vector =
            .ok prepared) ↔ prepared.Strict)) ∧
    (∀ bundle content queryId vector prepared,
      decodeOrdinaryQueryPreparationBytes sha bundle content queryId vector = .ok prepared →
        canonicalOrdinaryQueryPreparationBytes sha bundle prepared = .ok content) := by
  refine ⟨?_,?_,?_,?_⟩
  · intro bundle prepared standing fits
    have valid := (validatePrepared_success _ _ _).mp fits
    constructor
    · rintro ⟨content,_,decoded⟩
      rw [decodeStrongQueryPreparationBytes,Checked.then_success] at decoded
      exact (decodePreparation_success _ _ _ _ _ _ decoded.2).1
    · intro strict
      refine ⟨preparationBytes .strong prepared,Checked.pass _ _ _ standing (Checked.pass _ _ _ fits rfl),?_⟩
      exact Checked.pass _ _ _ standing (decodePreparation_bytes .strong bundle.bound prepared valid
        (StrongExecution.validateBundle_named sha bundle standing) strict)
  · intro bundle content queryId vector prepared decoded
    rw [decodeStrongQueryPreparationBytes,Checked.then_success] at decoded
    obtain ⟨standing,decoded⟩ := decoded
    obtain ⟨_,valid,bytes⟩ := decodePreparation_success _ _ _ _ _ _ decoded
    refine Checked.pass _ _ _ standing (Checked.pass _ _ _ ((validatePrepared_success _ _ _).mpr valid) ?_)
    rw [bytes]
    rfl
  · intro bundle prepared standing fits
    have valid := (validatePrepared_success _ _ _).mp fits
    constructor
    · rintro ⟨content,_,decoded⟩
      rw [decodeOrdinaryQueryPreparationBytes,Checked.then_success] at decoded
      exact (decodePreparation_success _ _ _ _ _ _ decoded.2).1
    · intro strict
      have run := (OrdinaryQueryLifecycle.validateBundle_success sha bundle standing).1
      refine ⟨preparationBytes .ordinary prepared,Checked.pass _ _ _ standing (Checked.pass _ _ _ fits rfl),?_⟩
      exact Checked.pass _ _ _ standing (decodePreparation_bytes .ordinary bundle.bound prepared valid
        (compileQuery_named sha _ _ run .ordinary _) strict)
  · intro bundle content queryId vector prepared decoded
    rw [decodeOrdinaryQueryPreparationBytes,Checked.then_success] at decoded
    obtain ⟨standing,decoded⟩ := decoded
    obtain ⟨_,valid,bytes⟩ := decodePreparation_success _ _ _ _ _ _ decoded
    refine Checked.pass _ _ _ standing (Checked.pass _ _ _ ((validatePrepared_success _ _ _).mpr valid) ?_)
    rw [bytes]
    rfl

def smallDelta : SegmentedDeltaState :=
  ⟨1,2,2,2,9,"v0",[⟨"segment-000000",0,0,0,0,[some ⟨0,1,3⟩,none]⟩]⟩

/-- The two operands of a query on two products that meet in one row. The first value is one, as some
number or other. -/
def preparedMeeting (queryId componentId outputBlockId : String) (one : PyNumber) : PreparedQuery :=
  ⟨queryId,"v0",7,[1,20],zeroDigest,zeroDigest,zeroDigest,zeroDigest,zeroDigest,
    [⟨"ct-query-000000",[one,.int 0]⟩,⟨"ct-query-000001",[.int 20,.int 0]⟩],
    [⟨"ct-f1m-000000","result-000000",.randomZeroSum,queryId,"v0",zeroDigest,"a","h0",[3,0]⟩,
      ⟨"ct-f1m-000001","result-000001",.randomZeroSum,queryId,"v0",zeroDigest,componentId,outputBlockId,[4,0]⟩]⟩

private theorem preparedMeeting_strict (queryId componentId outputBlockId : String) :
    (preparedMeeting queryId componentId outputBlockId (.int 1)).Strict := by
  intro operand member number inside
  simp only [preparedMeeting,List.mem_cons,List.not_mem_nil,or_false] at member
  rcases member with rfl | rfl <;> simp only [List.mem_cons,List.not_mem_nil,or_false] at inside <;>
    rcases inside with rfl | rfl <;> rfl

/-- The strong bundle of one entry and one delta entry takes the query, with `True` for one as well. -/
private theorem strong_accepted :
    ∃ bundle, StrongExecution.compile constantSha (oneEntry "a" 0 2) smallDelta = .ok bundle ∧
      StrongExecution.validateBundle constantSha bundle = .ok () ∧
      ∀ one ∈ [PyNumber.int 1,.bool true], validatePreparedStrong bundle
        (preparedMeeting "query é" strongComponentId (strongPageId 0) one) = .ok () := by
  have passes : (StrongExecution.compile constantSha (oneEntry "a" 0 2) smallDelta).toOption.any (fun bundle =>
      decide (StrongExecution.validateBundle constantSha bundle = .ok () ∧
        ∀ one ∈ [PyNumber.int 1,.bool true], validatePreparedStrong bundle
          (preparedMeeting "query é" strongComponentId (strongPageId 0) one) = .ok ())) = true := by
    decide +kernel
  obtain ⟨bundle,compiled,valid⟩ := Checked.ok_of_any _ _ passes
  rw [decide_eq_true_eq] at valid
  exact ⟨bundle,compiled,valid⟩

private theorem ordinary_accepted :
    ∃ compiled bundle, compileQuery constantSha meeting = .ok compiled ∧
      OrdinaryQueryLifecycle.bindOrdinaryExecution constantSha compiled = .ok bundle ∧
      OrdinaryQueryLifecycle.validateBundle constantSha bundle = .ok () ∧
      ∀ one ∈ [PyNumber.int 1,.bool true],
        validatePreparedOrdinary bundle (preparedMeeting "query" "b" "h0" one) = .ok () := by
  have passes : (compileQuery constantSha meeting).toOption.any (fun compiled =>
      (OrdinaryQueryLifecycle.bindOrdinaryExecution constantSha compiled).toOption.any fun bundle =>
        decide (OrdinaryQueryLifecycle.validateBundle constantSha bundle = .ok () ∧
          ∀ one ∈ [PyNumber.int 1,.bool true],
            validatePreparedOrdinary bundle (preparedMeeting "query" "b" "h0" one) = .ok ())) = true := by
    decide +kernel
  obtain ⟨compiled,run,rest⟩ := Checked.ok_of_any _ _ passes
  obtain ⟨bundle,bound,valid⟩ := Checked.ok_of_any _ _ rest
  rw [decide_eq_true_eq] at valid
  exact ⟨compiled,bundle,run,bound,valid⟩

theorem preparation_bytes_meeting :
    (∃ bundle content, StrongExecution.compile constantSha (oneEntry "a" 0 2) smallDelta = .ok bundle ∧
      canonicalStrongQueryPreparationBytes constantSha bundle
        (preparedMeeting "query é" strongComponentId (strongPageId 0) (.int 1)) = .ok content ∧
      decodeStrongQueryPreparationBytes constantSha bundle content "query é" [1,20] =
        .ok (preparedMeeting "query é" strongComponentId (strongPageId 0) (.int 1))) ∧
    ∃ compiled bundle content, compileQuery constantSha meeting = .ok compiled ∧
      OrdinaryQueryLifecycle.bindOrdinaryExecution constantSha compiled = .ok bundle ∧
      canonicalOrdinaryQueryPreparationBytes constantSha bundle (preparedMeeting "query" "b" "h0" (.int 1)) =
        .ok content ∧
      decodeOrdinaryQueryPreparationBytes constantSha bundle content "query" [1,20] =
        .ok (preparedMeeting "query" "b" "h0" (.int 1)) := by
  obtain ⟨strong,strongBack,ordinary,ordinaryBack⟩ := preparation_bytes_codec constantSha
  constructor
  · obtain ⟨bundle,compiled,standing,fits⟩ := strong_accepted
    obtain ⟨content,_,decoded⟩ := (strong bundle _ standing (fits (.int 1) List.mem_cons_self)).mpr (preparedMeeting_strict _ _ _)
    exact ⟨bundle,content,compiled,strongBack _ _ _ _ _ decoded,decoded⟩
  · obtain ⟨compiled,bundle,run,bound,standing,fits⟩ := ordinary_accepted
    obtain ⟨content,_,decoded⟩ := (ordinary bundle _ standing (fits (.int 1) List.mem_cons_self)).mpr (preparedMeeting_strict _ _ _)
    exact ⟨compiled,bundle,content,run,bound,ordinaryBack _ _ _ _ _ decoded,decoded⟩

private theorem preparedMeeting_true (queryId componentId outputBlockId : String) :
    ¬ (preparedMeeting queryId componentId outputBlockId (.bool true)).Strict := by
  intro strict
  cases strict _ List.mem_cons_self _ List.mem_cons_self

/-- A query operand that holds `True` for one is accepted and written, and the decoder does not give it back. -/
theorem booleanOperand_refused :
    (∃ bundle content, StrongExecution.validateBundle constantSha bundle = .ok () ∧
      validatePreparedStrong bundle (preparedMeeting "query é" strongComponentId (strongPageId 0) (.bool true)) =
        .ok () ∧
      canonicalStrongQueryPreparationBytes constantSha bundle
        (preparedMeeting "query é" strongComponentId (strongPageId 0) (.bool true)) = .ok content ∧
      decodeStrongQueryPreparationBytes constantSha bundle content "query é" [1,20] ≠
        .ok (preparedMeeting "query é" strongComponentId (strongPageId 0) (.bool true))) ∧
    ∃ bundle content, OrdinaryQueryLifecycle.validateBundle constantSha bundle = .ok () ∧
      validatePreparedOrdinary bundle (preparedMeeting "query" "b" "h0" (.bool true)) = .ok () ∧
      canonicalOrdinaryQueryPreparationBytes constantSha bundle
        (preparedMeeting "query" "b" "h0" (.bool true)) = .ok content ∧
      decodeOrdinaryQueryPreparationBytes constantSha bundle content "query" [1,20] ≠
        .ok (preparedMeeting "query" "b" "h0" (.bool true)) := by
  constructor
  · obtain ⟨bundle,_,standing,fits⟩ := strong_accepted
    have takes := fits (.bool true) (List.mem_cons_of_mem _ List.mem_cons_self)
    refine ⟨bundle,_,standing,takes,Checked.pass _ _ _ standing (Checked.pass _ _ _ takes rfl),fun decoded => ?_⟩
    rw [decodeStrongQueryPreparationBytes,Checked.then_success] at decoded
    exact preparedMeeting_true _ _ _ (decodePreparation_success _ _ _ _ _ _ decoded.2).1
  · obtain ⟨_,bundle,_,_,standing,fits⟩ := ordinary_accepted
    have takes := fits (.bool true) (List.mem_cons_of_mem _ List.mem_cons_self)
    refine ⟨bundle,_,standing,takes,Checked.pass _ _ _ standing (Checked.pass _ _ _ takes rfl),fun decoded => ?_⟩
    rw [decodeOrdinaryQueryPreparationBytes,Checked.then_success] at decoded
    exact preparedMeeting_true _ _ _ (decodePreparation_success _ _ _ _ _ _ decoded.2).1

end DynamicCssc
