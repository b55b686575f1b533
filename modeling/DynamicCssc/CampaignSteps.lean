import DynamicCssc.CampaignTransitions
import DynamicCssc.Foundation.Runs

/-! What an accepted transition does: the new document is the old one with the named changes, and its
bytes are inspected back to it. -/
namespace DynamicCssc
open Foundation

/-! A document is loaded back from its bytes. -/

theorem parseAsciiJson_canonical (label : String) {value : Json} (canonical : Json.Canonical value) :
    parseAsciiJson label (canonicalJsonBytes value) = .ok value := by
  have ascii : Json.Ascii (Json.render true value ++ ['\n']) := by
    rw [Json.ascii_append]
    exact ⟨Json.render_ascii value,by simp⟩
  rw [parseAsciiJson,canonicalJsonBytes,canonical.sorted,Json.asciiDecode_encode _ ascii]
  dsimp only
  rw [Json.loads_line true value canonical.distinct]

namespace CampaignDocument

def Canonical (document : CampaignDocument) : Prop := ∀ field, Json.Canonical (document field)

private theorem json_canonical {document : CampaignDocument} (canonical : document.Canonical) :
    Json.Canonical document.json := by
  refine .object _ ?_ ?_
  · rw [List.map_map]
    exact CampaignField.names_nodup
  · intro field member
    obtain ⟨source,_,rfl⟩ := List.mem_map.mp member
    exact canonical source

private theorem documentFields_perm (document : CampaignDocument) (fields : List (String × Json))
    (perm : fields.Perm (CampaignField.all.map fun field => (field.name,document field))) :
    documentFields (.obj fields) = .ok document := by
  have keys : (fields.map Prod.fst).Perm (CampaignField.all.map CampaignField.name) := by
    have mapped := perm.map Prod.fst
    rw [List.map_map] at mapped
    exact mapped
  have held (field : CampaignField) : ofFields fields field = document field := by
    have member := perm.mem_iff.mpr (List.mem_map_of_mem (CampaignField.mem_all field))
    have distinct := keys.nodup_iff.mpr CampaignField.names_nodup
    rw [ofFields,(Dict.lookup_eq_some_iff fields distinct field.name (document field)).mpr member]
    rfl
  rw [documentFields,if_pos ⟨fun field member => keys.mem_iff.mp (List.mem_map_of_mem member),
    fun name member => keys.mem_iff.mpr member⟩]
  exact congrArg Except.ok (funext held)

private theorem documentFields_json (document : CampaignDocument) : documentFields document.json = .ok document :=
  documentFields_perm document _ (Sorting.sortedBy_perm Prod.fst _)

private theorem update_cons (document : CampaignDocument) (field : CampaignField) (value : Json)
    (changes : List (CampaignField × Json)) :
    document.update ((field,value) :: changes) =
      CampaignDocument.update (Function.update document field value) changes := rfl

private theorem update_absent (document : CampaignDocument) (changes : List (CampaignField × Json))
    (field : CampaignField) (absent : field ∉ changes.map Prod.fst) :
    document.update changes field = document field := by
  induction changes generalizing document with
  | nil => rfl
  | cons change changes ih =>
    obtain ⟨key,value⟩ := change
    rw [List.map_cons,List.mem_cons,not_or] at absent
    rw [update_cons,ih _ absent.2,Function.update_of_ne absent.1]

theorem update_canonical {document : CampaignDocument} (canonical : document.Canonical)
    {changes : List (CampaignField × Json)} (values : ∀ change ∈ changes, Json.Canonical change.2) :
    (document.update changes).Canonical := by
  induction changes generalizing document with
  | nil => exact canonical
  | cons change changes ih =>
    obtain ⟨key,held⟩ := change
    rw [update_cons]
    refine ih (fun field => ?_) fun other member => values other (List.mem_cons_of_mem _ member)
    by_cases same : field = key
    · rw [same,Function.update_self]
      exact values _ List.mem_cons_self
    · rw [Function.update_of_ne same]
      exact canonical field

end CampaignDocument

/-- What `inspect_followup_campaign_state` leaves known of a document. -/
structure DocumentClosed (sha : Sha256) (document : CampaignDocument) : Prop where
  scalars : equalsText campaignStateSchema (document .schemaVersion) = true ∧
    equalsText followupStudyId (document .studyId) = true ∧
    equalsText followupStage1PlanSha256 (document .stage1Plan) = true ∧
    equalsText followupBaselineSha256 (document .scientificPlan) = true ∧
    isFalse (document .authority) = true ∧ isFalse (document .publicationEvidenceAdmitted) = true
  sequence : requireSequence (document .sequence) = .ok ()
  retryUsed : requireBool (document .retryUsed) = .ok ()
  lineage : validateLineage sha document = .ok ()
  nullable : validateNullable document = .ok ()
  projection : ∃ state, requireStateName (document .state) = .ok state ∧
    validateStateProjection document state = .ok ()

private theorem inspect_success (sha : Sha256) (content : List UInt8) (state : FollowupCampaignState) :
    inspectFollowupCampaignState sha content = .ok state ↔
      ∃ value document, parseAsciiJson "follow-up campaign state" content = .ok value ∧
        documentFields value = .ok document ∧ canonicalJsonBytes value = content ∧
        DocumentClosed sha document ∧ state = ⟨document,content,sha256Bytes sha content⟩ := by
  simp only [inspectFollowupCampaignState,Checked.bind_success,Checked.require_success,exists_const,pure,
    Except.pure,Except.ok.injEq]
  constructor
  · intro passed
    obtain ⟨value,parsed,document,fields,same,scalars,name,named,_,sequence,_,retry,_,lineage,_,nullable,
      _,projection,rfl⟩ := passed
    exact ⟨value,document,parsed,fields,same,
      ⟨scalars,sequence,retry,lineage,nullable,name,named,projection⟩,rfl⟩
  · intro passed
    obtain ⟨value,document,parsed,fields,same,closed,rfl⟩ := passed
    obtain ⟨name,named,projection⟩ := closed.projection
    exact ⟨value,parsed,document,fields,same,closed.scalars,name,named,(),closed.sequence,(),closed.retryUsed,
      (),closed.lineage,(),closed.nullable,(),projection,rfl⟩

theorem inspect_again {sha : Sha256} {content : List UInt8} {state : FollowupCampaignState}
    (inspected : inspectFollowupCampaignState sha content = .ok state) :
    inspectFollowupCampaignState sha state.documentBytes = .ok state := by
  obtain ⟨_,_,_,_,_,_,same⟩ := (inspect_success sha content state).mp inspected
  rw [same] at inspected ⊢
  exact inspected

theorem newState_success (sha : Sha256) (base : CampaignDocument) (changes : List (CampaignField × Json))
    (canonical : (base.update changes).Canonical) (state : FollowupCampaignState) :
    newState sha base changes = .ok state ↔ DocumentClosed sha (base.update changes) ∧
      state = ⟨base.update changes,canonicalJsonBytes (base.update changes).json,
        sha256Bytes sha (canonicalJsonBytes (base.update changes).json)⟩ := by
  have loaded := parseAsciiJson_canonical "follow-up campaign state"
    (CampaignDocument.json_canonical canonical)
  have read := CampaignDocument.documentFields_json (base.update changes)
  rw [newState,inspect_success]
  constructor
  · intro passed
    obtain ⟨value,document,parsed,fields,_,closed,same⟩ := passed
    have first : value = (base.update changes).json := Except.ok.inj (parsed.symm.trans loaded)
    subst first
    have second : document = base.update changes := Except.ok.inj (fields.symm.trans read)
    subst second
    exact ⟨closed,same⟩
  · intro both
    exact ⟨_,_,loaded,read,rfl,both.1,both.2⟩

/-! The transitions as guards and changes. -/

def FollowupCampaignState.changed (sha : Sha256) (previous : FollowupCampaignState)
    (changes : List (CampaignField × Json)) : FollowupCampaignState :=
  ⟨previous.document.update changes,canonicalJsonBytes (previous.document.update changes).json,
    sha256Bytes sha (canonicalJsonBytes (previous.document.update changes).json)⟩

namespace CampaignTransition

/-- The fields that a transition writes, past the sequence. -/
def changes (document : CampaignDocument) : CampaignTransition → List (CampaignField × Json)
  | .reserve spec attempt => [(.artifactId,.null),(.artifactName,.null),(.artifactProviderDigest,.null),
      (.providerFailureClass,.null),(.providerFailureEvidence,.null),(.providerRunAttempt,.null),
      (.providerRunId,.null),(.retryUsed,if equalsInt 1 attempt = true then document .retryUsed else .bool true),
      (.state,.str CampaignStateName.unitReserved.name),(.terminalReasonCode,.null),
      (.unitAttemptOrdinal,attempt),(.unitKind,.str spec.unitKind),(.unitOrdinal,.int spec.ordinal),
      (.unitOutputEnvelope,.null),(.watcherReceipt,.null),(.watcherSession,.null)]
  | .bind providerRunId => [(.providerRunAttempt,.int 1),(.providerRunId,.int providerRunId),
      (.state,.str CampaignStateName.runBound.name)]
  | .arm watcherSession => [(.state,.str CampaignStateName.watchArmed.name),
      (.watcherSession,.str watcherSession)]
  | .commit output => [(.artifactId,.int output.artifactId),(.artifactName,.str output.artifactName),
      (.artifactProviderDigest,.str output.artifactProviderDigest),
      (.state,.str CampaignStateName.unitCommitted.name),
      (.unitOutputEnvelope,.str output.unitOutputEnvelope),(.watcherReceipt,.str output.watcherReceipt)]
  | .recordProviderFailure failureClass evidence receipt => [(.providerFailureClass,.str failureClass),
      (.providerFailureEvidence,.str evidence),(.state,.str CampaignStateName.unitProviderFailed.name),
      (.watcherReceipt,.str receipt)]
  | .closeNoGo reason => [(.state,.str CampaignStateName.campaignNoGo.name),
      (.terminalReasonCode,.str reason)]

def Allowed (previous : FollowupCampaignState) : CampaignTransition → Prop
  | .reserve spec attempt =>
    (equalsInt 1 attempt = true ∧ nominalOrdinal previous = .ok spec.ordinal ∧ spec.ordinal < 17 ∧
      (isFalse (previous.document .retryUsed) = true ∨ previous.state ≠ some .campaignOpen)) ∨
    (equalsInt 2 attempt = true ∧ previous.state = some .unitProviderFailed ∧
      isFalse (previous.document .retryUsed) = true ∧
      equalsInt spec.ordinal (previous.document .unitOrdinal) = true)
  | .bind providerRunId => previous.state = some .unitReserved ∧ 0 < providerRunId
  | .arm watcherSession => previous.state = some .runBound ∧ validSha256 watcherSession = true
  | .commit output => previous.state = some .watchArmed ∧ validSha256 output.watcherReceipt = true ∧
      0 < output.artifactId ∧
      "followup-performance-v1-".toList.isPrefixOf output.artifactName.toList = true ∧
      validProviderDigest output.artifactProviderDigest = true ∧
      validSha256 output.unitOutputEnvelope = true
  | .recordProviderFailure failureClass evidence receipt => previous.state = some .watchArmed ∧
      failureClass ∈ followupProviderFailureClasses ∧ validSha256 evidence = true ∧
      validSha256 receipt = true ∧ isFalse (previous.document .retryUsed) = true
  | .closeNoGo reason => previous.state ≠ some .campaignNoGo ∧ reason ∈ noGoReasons

end CampaignTransition

private theorem equalsInt_canonical {number : ℤ} {value : Json} (equal : equalsInt number value = true) :
    Json.Canonical value := by
  cases value with
  | int held => exact .int held
  | bool held => exact .bool held
  | null => cases equal
  | str held => cases equal
  | arr held => cases equal
  | obj held => cases equal

theorem equalsInt_two {value : Json} (one : equalsInt 1 value = true) : equalsInt 2 value = false := by
  cases value with
  | int held =>
    have known : held = 1 := by simpa [equalsInt] using one
    rw [known]
    rfl
  | bool held => cases held <;> rfl
  | null => rfl
  | str held => rfl
  | arr held => rfl
  | obj held => rfl

/-! A checked argument whose value is not used again. -/

private theorem requirePositive_then {α : Type} (number : ℤ) (field : String) (rest : Checked α) (result : α) :
    (requirePositive (.int number) field >>= fun _ => rest) = .ok result ↔
      0 < number ∧ rest = .ok result := by
  rw [requirePositive]
  by_cases positive : 0 < number <;> simp [positive,bind,Except.bind]

theorem requireSha_then {α : Type} (text field : String) (rest : Checked α) (result : α) :
    (requireSha (.str text) field >>= fun _ => rest) = .ok result ↔
      validSha256 text = true ∧ rest = .ok result := by
  rw [requireSha]
  by_cases valid : validSha256 text = true <;> simp [valid,bind,Except.bind]

private theorem requireProviderDigest_then {α : Type} (text message : String) (rest : Checked α) (result : α) :
    (requireProviderDigest (.str text) message >>= fun _ => rest) = .ok result ↔
      validProviderDigest text = true ∧ rest = .ok result := by
  rw [requireProviderDigest]
  by_cases valid : validProviderDigest text = true <;> simp [valid,bind,Except.bind]

theorem advance_success (sha : Sha256) (previous : FollowupCampaignState) (label : CampaignTransition)
    (written : ℤ → List (CampaignField × Json)) (next : FollowupCampaignState)
    (same : ∀ sequence, previous.document.update (written sequence) =
      previous.document.update ((.sequence,.int (sequence + 1)) :: label.changes previous.document)) :
    (previous.sequence >>= fun sequence => newState sha previous.document (written sequence)) = .ok next ↔
      ∃ sequence, previous.sequence = .ok sequence ∧
        newState sha previous.document ((.sequence,.int (sequence + 1)) :: label.changes previous.document) =
          .ok next := by
  rw [Checked.bind_success]
  constructor
  · intro made
    obtain ⟨sequence,read,made⟩ := made
    rw [newState,same] at made
    exact ⟨sequence,read,made⟩
  · intro made
    obtain ⟨sequence,read,made⟩ := made
    rw [newState,← same] at made
    exact ⟨sequence,read,made⟩

private theorem apply_newState (sha : Sha256) (previous : FollowupCampaignState) (label : CampaignTransition)
    (next : FollowupCampaignState) : label.apply sha previous = .ok next ↔ label.Allowed previous ∧
      ∃ sequence, previous.sequence = .ok sequence ∧
        newState sha previous.document ((.sequence,.int (sequence + 1)) :: label.changes previous.document) =
          .ok next := by
  cases label with
  | reserve spec attempt =>
    simp only [CampaignTransition.apply,reserveFollowupCampaignUnit]
    by_cases nominal : equalsInt 1 attempt = true
    · rw [if_pos nominal,Checked.bind_success]
      simp only [Checked.then_success,Checked.require_success,reservation,CampaignTransition.Allowed]
      rw [advance_success sha previous (.reserve spec attempt) _ next (by
        intro sequence
        funext field
        cases field
        case retryUsed => exact (if_pos nominal).symm
        all_goals rfl)]
      constructor
      · intro passed
        obtain ⟨expected,named,unused,both,made⟩ := passed
        exact ⟨.inl ⟨nominal,both.1 ▸ named,both.2,unused⟩,made⟩
      · intro passed
        obtain ⟨allowed,made⟩ := passed
        rcases allowed with first | second
        · exact ⟨spec.ordinal,first.2.1,first.2.2.2,⟨rfl,first.2.2.1⟩,made⟩
        · exact absurd second.1 (by simp [equalsInt_two nominal])
    · rw [if_neg nominal]
      by_cases replacement : equalsInt 2 attempt = true
      · rw [if_pos replacement]
        simp only [Checked.then_success,Checked.require_success,reservation,CampaignTransition.Allowed]
        rw [advance_success sha previous (.reserve spec attempt) _ next (by
          intro sequence
          funext field
          cases field
          case retryUsed => exact (if_neg nominal).symm
          all_goals rfl)]
        simp [nominal,replacement]
      · rw [if_neg replacement]
        simp [CampaignTransition.Allowed,nominal,replacement]
  | bind providerRunId =>
    simp only [CampaignTransition.apply,bindFollowupCampaignRun,Checked.then_success,Checked.require_success,
      requirePositive_then]
    rw [advance_success sha previous (.bind providerRunId) _ next (by
      intro sequence
      funext field
      cases field <;> rfl)]
    simp only [CampaignTransition.Allowed,and_assoc]
  | arm watcherSession =>
    simp only [CampaignTransition.apply,armFollowupCampaignWatch,Checked.then_success,Checked.require_success,
      requireSha_then]
    rw [advance_success sha previous (.arm watcherSession) _ next (by
      intro sequence
      funext field
      cases field <;> rfl)]
    simp only [CampaignTransition.Allowed,and_assoc]
  | commit output =>
    simp only [CampaignTransition.apply,commitFollowupCampaignUnit,Checked.then_success,Checked.require_success,
      requireSha_then,requirePositive_then,requireProviderDigest_then]
    rw [advance_success sha previous (.commit output) _ next (by
      intro sequence
      funext field
      cases field <;> rfl)]
    simp only [CampaignTransition.Allowed,and_assoc]
  | recordProviderFailure failureClass evidence receipt =>
    simp only [CampaignTransition.apply,recordFollowupProviderFailure,Checked.then_success,Checked.require_success,
      requireSha_then]
    rw [advance_success sha previous (.recordProviderFailure failureClass evidence receipt) _ next (by
      intro sequence
      funext field
      cases field <;> rfl)]
    simp only [CampaignTransition.Allowed,and_assoc]
  | closeNoGo reason =>
    simp only [CampaignTransition.apply,closeFollowupCampaignNoGo,Checked.then_success,Checked.require_success]
    rw [advance_success sha previous (.closeNoGo reason) _ next (by
      intro sequence
      funext field
      cases field <;> rfl)]
    simp only [CampaignTransition.Allowed,and_assoc]

namespace CampaignTransition

def target : CampaignTransition → CampaignStateName
  | .reserve _ _ => .unitReserved
  | .bind _ => .runBound
  | .arm _ => .watchArmed
  | .commit _ => .unitCommitted
  | .recordProviderFailure _ _ _ => .unitProviderFailed
  | .closeNoGo _ => .campaignNoGo

def writtenFields : List CampaignField := [.sequence,.state,.retryUsed,.terminalReasonCode,.unitOrdinal,
  .unitKind,.unitAttemptOrdinal,.providerRunId,.providerRunAttempt,.artifactId,.artifactName,
  .artifactProviderDigest,.unitOutputEnvelope,.providerFailureClass,.providerFailureEvidence,
  .watcherSession,.watcherReceipt]

theorem lineage_kept : ∀ field ∈ lineageFields, field ∉ writtenFields := by
  decide

private theorem changes_written (label : CampaignTransition) (document : CampaignDocument) :
    ∀ change ∈ label.changes document, change.1 ∈ writtenFields := by
  cases label <;> simp [changes,writtenFields]

private theorem changes_canonical {previous : FollowupCampaignState} (canonical : previous.document.Canonical)
    {label : CampaignTransition} (allowed : label.Allowed previous) :
    ∀ change ∈ label.changes previous.document, Json.Canonical change.2 := by
  cases label with
  | reserve spec attempt =>
    have flag : Json.Canonical (if equalsInt 1 attempt = true then previous.document .retryUsed
        else .bool true) := by
      split
      · exact canonical _
      · exact .bool _
    have held : Json.Canonical attempt := by
      rcases allowed with nominal | replacement
      · exact equalsInt_canonical nominal.1
      · exact equalsInt_canonical replacement.1
    simp [changes,flag,held,Json.Canonical.null,Json.Canonical.int,Json.Canonical.str]
  | _ => simp [changes,Json.Canonical.int,Json.Canonical.str]

end CampaignTransition

/-- What an accepted transition does to a state. -/
structure CampaignStep (sha : Sha256) (previous : FollowupCampaignState) (label : CampaignTransition)
    (next : FollowupCampaignState) (sequence : ℤ) : Prop where
  allowed : label.Allowed previous
  counted : previous.document .sequence = .int sequence
  closed : DocumentClosed sha next.document
  result : next = previous.changed sha
    ((.sequence,.int (sequence + 1)) :: label.changes previous.document)

theorem sequence_success (state : FollowupCampaignState) (sequence : ℤ) :
    state.sequence = .ok sequence ↔ state.document .sequence = .int sequence := by
  rw [FollowupCampaignState.sequence]
  cases state.document .sequence <;> simp

/-- One inversion for all six transitions. -/
theorem apply_success (sha : Sha256) {previous : FollowupCampaignState}
    (canonical : previous.document.Canonical) (label : CampaignTransition) (next : FollowupCampaignState) :
    label.apply sha previous = .ok next ↔ ∃ sequence, CampaignStep sha previous label next sequence := by
  have written (allowed : label.Allowed previous) (sequence : ℤ) : (previous.document.update
      ((.sequence,.int (sequence + 1)) :: label.changes previous.document)).Canonical := by
    refine CampaignDocument.update_canonical canonical fun change member => ?_
    rcases List.mem_cons.mp member with here | later
    · rw [here]
      exact .int _
    · exact CampaignTransition.changes_canonical canonical allowed change later
  rw [apply_newState]
  constructor
  · intro passed
    obtain ⟨allowed,sequence,read,made⟩ := passed
    obtain ⟨closed,result⟩ := (newState_success sha _ _ (written allowed sequence) next).mp made
    exact ⟨sequence,allowed,(sequence_success previous sequence).mp read,result ▸ closed,result⟩
  · intro step
    obtain ⟨sequence,allowed,counted,closed,result⟩ := step
    refine ⟨allowed,sequence,(sequence_success previous sequence).mpr counted,?_⟩
    refine (newState_success sha _ _ (written allowed sequence) next).mpr ⟨?_,result⟩
    rw [result] at closed
    exact closed

theorem apply_reinspected {sha : Sha256} {previous next : FollowupCampaignState}
    {label : CampaignTransition} (accepted : label.apply sha previous = .ok next) :
    inspectFollowupCampaignState sha next.documentBytes = .ok next := by
  obtain ⟨_,_,_,made⟩ := (apply_newState sha previous label next).mp accepted
  exact inspect_again made

namespace CampaignStep

variable {sha : Sha256} {previous next : FollowupCampaignState} {label : CampaignTransition} {sequence : ℤ}

theorem document (step : CampaignStep sha previous label next sequence) : next.document =
    previous.document.update ((.sequence,.int (sequence + 1)) :: label.changes previous.document) := by
  rw [step.result]
  rfl

theorem canonical (step : CampaignStep sha previous label next sequence)
    (before : previous.document.Canonical) : next.document.Canonical := by
  rw [step.document]
  refine CampaignDocument.update_canonical before fun change member => ?_
  rcases List.mem_cons.mp member with here | later
  · rw [here]
    exact .int _
  · exact CampaignTransition.changes_canonical before step.allowed change later

theorem state (step : CampaignStep sha previous label next sequence) : next.state = some label.target := by
  rw [FollowupCampaignState.state,step.document]
  cases label <;> exact CampaignStateName.ofName_name _

theorem sequence_next (step : CampaignStep sha previous label next sequence) :
    next.document .sequence = .int (sequence + 1) := by
  rw [step.document]
  cases label <;> rfl

theorem lineage (step : CampaignStep sha previous label next sequence) (field : CampaignField)
    (member : field ∈ lineageFields) : next.document field = previous.document field := by
  rw [step.document]
  refine CampaignDocument.update_absent _ _ field fun written => ?_
  have inside : field ∈ CampaignTransition.writtenFields := by
    rcases List.mem_cons.mp written with here | later
    · rw [here]
      exact List.mem_cons_self
    · obtain ⟨change,among,rfl⟩ := List.mem_map.mp later
      exact label.changes_written previous.document change among
  exact CampaignTransition.lineage_kept field member inside

end CampaignStep

end DynamicCssc
