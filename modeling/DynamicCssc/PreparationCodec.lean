import DynamicCssc.PreparationValid

/-! The preparation codec: what the encoder writes the decoder reads, and what the decoder reads the
encoder writes. -/
namespace DynamicCssc
open Foundation

/-- The values of the query operands are of the class `int`. -/
def PreparedQuery.Strict (prepared : PreparedQuery) : Prop :=
  ∀ operand ∈ prepared.queryOperands, ∀ number ∈ operand.values, number.isStrictInt = true

/-! The document of a strict query, as it is loaded. -/

def PreparedQueryOperand.integers (operand : PreparedQueryOperand) : List ℤ :=
  operand.values.filterMap PyNumber.integer

section Payloads
variable (lifecycle : Lifecycle) (prepared : PreparedQuery)

def queryOperandJson (operand : PreparedQueryOperand) : Json :=
  .obj [("ciphertext_id",.str operand.ciphertextId),("values",.ints operand.integers)]

def f1mOperandJson (operand : PreparedF1MOperand) : Json :=
  .obj [("ciphertext_id",.str operand.ciphertextId),("component_id",.str operand.componentId),
      ("kind",.str operand.kind.text),("output_block_id",.str operand.outputBlockId),
      ("result_id",.str operand.resultId),("values",.ints operand.values)]

def bindingsJson : Json :=
  .obj [("cloud_program_digest",.str prepared.cloudProgramDigest),
      ("execution_binding_digest",.str prepared.executionBindingDigest),
      ("output_plan_digest",.str prepared.outputPlanDigest),
      ("private_plan_digest",.str prepared.privatePlanDigest)]

def preparationFields : List (String × Json) :=
  [("bindings",bindingsJson prepared),
    ("f1m_operands",.arr (prepared.f1mOperands.map f1mOperandJson)),
    ("format",.str lifecycle.schema),
    ("ledger_commitment_token",.str prepared.ledgerCommitmentToken),
    ("modulus",.int prepared.modulus),
    ("query_id",.str prepared.queryId),
    ("query_operands",.arr (prepared.queryOperands.map queryOperandJson)),
    ("version_id",.str prepared.versionId)]

private theorem queryOperandJson_canonical (operand : PreparedQueryOperand) : (queryOperandJson operand).Canonical := by
  refine .ordered _ (by simp only [List.map_cons,List.map_nil]; decide) fun field member => ?_
  simp only [List.mem_cons,List.not_mem_nil,or_false] at member
  rcases member with rfl | rfl
  · exact .str _
  · exact .ints _

private theorem f1mOperandJson_canonical (operand : PreparedF1MOperand) : (f1mOperandJson operand).Canonical := by
  refine .ordered _ (by simp only [List.map_cons,List.map_nil]; decide) fun field member => ?_
  simp only [List.mem_cons,List.not_mem_nil,or_false] at member
  rcases member with rfl | rfl | rfl | rfl | rfl | rfl
  all_goals first | exact .str _ | exact .ints _

private theorem bindingsJson_canonical : (bindingsJson prepared).Canonical := by
  refine .ordered _ (by simp only [List.map_cons,List.map_nil]; decide) fun field member => ?_
  simp only [List.mem_cons,List.not_mem_nil,or_false] at member
  rcases member with rfl | rfl | rfl | rfl
  all_goals exact .str _

private theorem preparationFields_canonical : Json.Canonical (.obj (preparationFields lifecycle prepared)) := by
  refine .ordered _ (by simp only [preparationFields,List.map_cons,List.map_nil]; decide) fun field member => ?_
  simp only [preparationFields,List.mem_cons,List.not_mem_nil,or_false] at member
  rcases member with rfl | rfl | rfl | rfl | rfl | rfl | rfl | rfl
  · exact bindingsJson_canonical prepared
  · refine .arr _ fun item member => ?_
    obtain ⟨operand,_,rfl⟩ := List.mem_map.mp member
    exact f1mOperandJson_canonical operand
  · exact .str _
  · exact .str _
  · exact .int _
  · exact .str _
  · refine .arr _ fun item member => ?_
    obtain ⟨operand,_,rfl⟩ := List.mem_map.mp member
    exact queryOperandJson_canonical operand
  · exact .str _

private theorem preparationPayload_strict (strict : prepared.Strict) :
    preparationPayload lifecycle prepared = .ofJson (.obj (preparationFields lifecycle prepared)) := by
  have masks : (prepared.f1mOperands.map f1mOperandPayload) =
      PyJson.ofItems (prepared.f1mOperands.map f1mOperandJson) := by
    rw [PyJson.ofItems_eq,List.map_map]
    refine List.map_congr_left fun operand _ => ?_
    rw [Function.comp_apply,f1mOperandJson,PyJson.ofJson,PyJson.ofFields_eq]
    simp only [List.map_cons,List.map_nil,PyJson.ofJson_ints]
    rfl
  have queries : (prepared.queryOperands.map queryOperandPayload) =
      PyJson.ofItems (prepared.queryOperands.map queryOperandJson) := by
    rw [PyJson.ofItems_eq,List.map_map]
    refine List.map_congr_left fun operand member => ?_
    have numbers := PyNumber.int_integers (strict operand member)
    rw [Function.comp_apply,queryOperandJson,PyJson.ofJson,PyJson.ofFields_eq]
    simp only [List.map_cons,List.map_nil,PyJson.ofJson_ints]
    rw [queryOperandPayload,← numbers,List.map_map]
    rfl
  rw [preparationPayload,masks,queries]
  rfl

private theorem preparationBytes_strict (strict : prepared.Strict) : preparationBytes lifecycle prepared =
    Json.canonicalBytes (.obj (preparationFields lifecycle prepared)) := by
  have canonical := preparationFields_canonical lifecycle prepared
  rw [preparationBytes,preparationPayload_strict lifecycle prepared strict,PyJson.text_ofJson canonical,
    Json.canonicalBytes,canonical.sorted]

private theorem decodeText_bytes (strict : prepared.Strict) : decodeText lifecycle (preparationBytes lifecycle prepared) =
    .ok (.obj (preparationFields lifecycle prepared)) := by
  obtain ⟨decoded,loaded⟩ := (preparationFields_canonical lifecycle prepared).loads_bytes
  rw [decodeText,preparationBytes_strict lifecycle prepared strict,decoded]
  simp only [loaded]

end Payloads

/-! One operand. -/

private theorem strictValues_ints (lifecycle : Lifecycle) (label : String) (values : List ℤ) :
    strictValues lifecycle label (some (.ints values)) = .ok values := by
  rw [Json.ints,strictValues,List.mapM_map]
  exact (Checked.mapM_total _ id values fun value _ => rfl).trans (congrArg Except.ok (List.map_id values))

private theorem decodeQueryOperand_json (lifecycle : Lifecycle) (operand : PreparedQueryOperand)
    (named : lifecycle.acceptsId operand.ciphertextId = true)
    (strict : ∀ number ∈ operand.values, number.isStrictInt = true) :
    decodeQueryOperand lifecycle (queryOperandJson operand) = .ok operand := by
  rw [queryOperandJson,decodeQueryOperand]
  refine Checked.pass _ _ _ (Checked.require_true _ _ named) ?_
  refine (Checked.bind_success _ _ _).mpr ⟨operand.integers,strictValues_ints _ _ _,?_⟩
  rw [PreparedQueryOperand.integers,PyNumber.int_integers strict]
  rfl

private theorem decodeQueryOperand_strict (lifecycle : Lifecycle) (item : Json) (operand : PreparedQueryOperand)
    (decoded : decodeQueryOperand lifecycle item = .ok operand) :
    ∀ number ∈ operand.values, number.isStrictInt = true := by
  rw [decodeQueryOperand,Checked.bind_success] at decoded
  obtain ⟨fields,_,decoded⟩ := decoded
  rw [Checked.then_success] at decoded
  obtain ⟨_,decoded⟩ := decoded
  split at decoded
  · rw [Checked.then_success,Checked.bind_success] at decoded
    obtain ⟨_,values,_,same⟩ := decoded
    rw [← Except.ok.inj same]
    intro number member
    obtain ⟨value,_,rfl⟩ := List.mem_map.mp member
    rfl
  · cases decoded

/-- The fields of an operand that its payload has. -/
def PreparedF1MOperand.decoded (operand : PreparedF1MOperand) : DecodedF1MOperand :=
  ⟨operand.ciphertextId,operand.resultId,operand.kind,operand.componentId,operand.outputBlockId,operand.values⟩

private theorem find_kind (lifecycle : Lifecycle) (kind : PreparedF1MKind) (known : kind ∈ lifecycle.kinds) :
    lifecycle.kinds.find? (fun other => other.text = kind.text) = some kind := by
  cases lifecycle <;> cases kind <;> first | rfl | exact absurd known (by decide)

private theorem expectedKind_known (lifecycle : Lifecycle) (overlaps : Bool) :
    lifecycle.expectedKind overlaps ∈ lifecycle.kinds := by
  cases lifecycle <;> cases overlaps <;> decide

private theorem decodeF1MOperand_json (lifecycle : Lifecycle) (operand : PreparedF1MOperand)
    (known : operand.kind ∈ lifecycle.kinds) (named : lifecycle.acceptsId operand.ciphertextId = true ∧
      lifecycle.acceptsId operand.componentId = true ∧ lifecycle.acceptsId operand.outputBlockId = true ∧
      lifecycle.acceptsId operand.resultId = true) :
    decodeF1MOperand lifecycle (f1mOperandJson operand) = .ok operand.decoded := by
  rw [f1mOperandJson,decodeF1MOperand]
  refine Checked.pass _ _ _ (Checked.require_true _ _ named) ?_
  simp only [find_kind lifecycle operand.kind known]
  exact (Checked.bind_success _ _ _).mpr ⟨operand.values,strictValues_ints _ _ _,rfl⟩

private theorem decodeHeader_fields (lifecycle : Lifecycle) (bound : BoundQuery) (prepared : PreparedQuery)
    (bindings : List (String × Json)) (same : bindingsJson prepared = .obj bindings) :
    decodeHeader lifecycle bound prepared.queryId (preparationFields lifecycle prepared) bindings =
      .ok ⟨prepared.versionId,prepared.modulus,prepared.cloudProgramDigest,prepared.outputPlanDigest,
        prepared.executionBindingDigest,prepared.privatePlanDigest,prepared.ledgerCommitmentToken⟩ := by
  cases same
  rfl

private theorem decodeMembers_fields (lifecycle : Lifecycle) (prepared : PreparedQuery) :
    ∃ bindings, bindingsJson prepared = .obj bindings ∧
      decodeMembers lifecycle prepared.queryId (preparationFields lifecycle prepared) =
        .ok (bindings,prepared.queryOperands.map queryOperandJson,prepared.f1mOperands.map f1mOperandJson) := by
  refine ⟨_,rfl,?_⟩
  rw [decodeMembers,preparationFields,bindingsJson]
  refine Checked.pass _ _ _ (Checked.require_true _ _ ⟨rfl,?_⟩) rfl
  exact beq_self_eq_true prepared.queryId

private theorem F1MFits.prepared_decoded {lifecycle : Lifecycle} {bound : BoundQuery} {prepared : PreparedQuery}
    {entry : PreparedF1MOperand × ResultRoute × String} {share : OutputShare}
    (fits : F1MFits lifecycle bound prepared entry share) (valid : prepared.Valid lifecycle bound) :
    entry.1.decoded.prepared prepared.queryId prepared.versionId prepared.outputPlanDigest = entry.1 := by
  rw [← fits.queryId,valid.versionId,← fits.versionId,valid.outputPlanDigest,← fits.outputPlanDigest]
  rfl

theorem F1MFits.named {lifecycle : Lifecycle} {bound : BoundQuery} {prepared : PreparedQuery}
    {entry : PreparedF1MOperand × ResultRoute × String} {share : OutputShare}
    (fits : F1MFits lifecycle bound prepared entry share) (named : bound.Named lifecycle)
    (member : entry.2 ∈ bound.maskedRoutes) : lifecycle.acceptsId entry.1.ciphertextId = true ∧
      lifecycle.acceptsId entry.1.componentId = true ∧ lifecycle.acceptsId entry.1.outputBlockId = true ∧
      lifecycle.acceptsId entry.1.resultId = true := by
  obtain ⟨ciphertextId,resultId,componentId,outputBlockId⟩ := named.routes entry.2 member
  have share := toLex.injective fits.shareId
  simp only [Prod.mk.injEq] at share
  rw [fits.ciphertextId,fits.resultId,share.1,share.2]
  exact ⟨ciphertextId,componentId,outputBlockId,resultId⟩

theorem decodePreparation_bytes (lifecycle : Lifecycle) (bound : BoundQuery) (prepared : PreparedQuery)
    (valid : prepared.Valid lifecycle bound) (named : bound.Named lifecycle) (strict : prepared.Strict) :
    decodePreparation lifecycle bound (preparationBytes lifecycle prepared) prepared.queryId prepared.vector =
      .ok prepared := by
  have queries : (prepared.queryOperands.map queryOperandJson).mapM (decodeQueryOperand lifecycle) =
      .ok prepared.queryOperands := by
    rw [List.mapM_map]
    refine (Checked.mapM_total _ id _ fun operand member => ?_).trans
      (congrArg Except.ok (List.map_id prepared.queryOperands))
    exact decodeQueryOperand_json lifecycle operand (valid.queries_named named operand member)
      (strict operand member)
  have masks : (prepared.f1mOperands.map f1mOperandJson).mapM (decodeF1MOperand lifecycle) =
      .ok (prepared.f1mOperands.map PreparedF1MOperand.decoded) := by
    rw [List.mapM_map]
    refine Checked.mapM_total _ _ _ fun operand member => ?_
    obtain ⟨entry,inside,share,fits⟩ := valid.operand_fits operand member
    exact decodeF1MOperand_json lifecycle operand (fits.kind ▸ expectedKind_known lifecycle _)
      (fits.named named inside)
  have restored : (prepared.f1mOperands.map PreparedF1MOperand.decoded).map (fun operand =>
      operand.prepared prepared.queryId prepared.versionId prepared.outputPlanDigest) = prepared.f1mOperands := by
    rw [List.map_map]
    conv_rhs => rw [← List.map_id prepared.f1mOperands]
    refine List.map_congr_left fun operand member => ?_
    obtain ⟨entry,_,share,fits⟩ := valid.operand_fits operand member
    exact fits.prepared_decoded valid
  obtain ⟨bindings,same,members⟩ := decodeMembers_fields lifecycle prepared
  unfold decodePreparation
  rw [decodeText_bytes lifecycle prepared strict,Checked.ok_bind]
  refine (Checked.bind_success _ _ _).mpr ⟨preparationFields lifecycle prepared,rfl,?_⟩
  refine Checked.pass _ _ _ (Checked.require_true _ _
    (preparationBytes_strict lifecycle prepared strict).symm) ?_
  refine Checked.pass _ _ _ (Checked.require_true _ _ ⟨rfl,beq_self_eq_true lifecycle.schema⟩) ?_
  rw [members,Checked.ok_bind]
  dsimp only
  rw [queries,Checked.ok_bind,masks,Checked.ok_bind]
  refine Checked.pass _ _ _ (Checked.require_true _ _ valid.vector) ?_
  rw [decodeHeader_fields lifecycle bound prepared bindings same,Checked.ok_bind]
  dsimp only
  rw [restored]
  refine Checked.pass _ _ _ ((validatePrepared_success lifecycle bound prepared).mpr valid) ?_
  exact Checked.pass _ _ _ (Checked.require_true _ _ rfl) rfl

/-- What the decoder accepts is what the encoder writes for the query it returns, which is strict. -/
theorem decodePreparation_success (lifecycle : Lifecycle) (bound : BoundQuery) (content : List UInt8)
    (queryId : String) (vector : List ℤ) (prepared : PreparedQuery)
    (decoded : decodePreparation lifecycle bound content queryId vector = .ok prepared) :
    prepared.Strict ∧ prepared.Valid lifecycle bound ∧ preparationBytes lifecycle prepared = content := by
  unfold decodePreparation at decoded
  simp only [Checked.bind_success,Checked.require_success,exists_const,pure,Except.pure,
    Except.ok.injEq] at decoded
  obtain ⟨_,_,_,_,_,_,_,_,queries,read,_,_,_,_,header,_,valid,bytes,rfl⟩ := decoded
  refine ⟨?_,(validatePrepared_success _ _ _).mp valid,bytes⟩
  intro operand member
  obtain ⟨item,_,made⟩ := Checked.mem_of_mapM read operand member
  exact decodeQueryOperand_strict lifecycle item operand made

end DynamicCssc
