import DynamicCssc.Failure
import DynamicCssc.Foundation.ByteLayout

/-! The fixed-width metadata records of `publication_day1b_metadata_framing`: the column-index
synchronization entry, the update-version plan and the query-version plan. -/
namespace DynamicCssc.MetadataFraming
open Foundation.ByteLayout Foundation.Checked

def metadataMagic : List UInt8 := [0x44,0x31,0x42,0x4D,0x45,0x54,0x41,0x31]
def binarySchemaVersion : ℤ := 1
def columnIndexSynchronizationBytes : ℕ := 64
def updateVersionPlanMetadataBytes : ℕ := 144
def queryVersionPlanMetadataBytes : ℕ := 136
def columnIndexRecordKind : ℤ := 1
def updateVersionRecordKind : ℤ := 2
def queryVersionRecordKind : ℤ := 3

def entryKindToCode (kind : String) : Option ℤ :=
  if kind = "patch" then some 1 else if kind = "full-sync" then some 2 else none

def codeToEntryKind (code : ℤ) : Option String :=
  if code = 1 then some "patch" else if code = 2 then some "full-sync" else none

/-- `>8sBBHIQQIIIIqB7s`. -/
def columnIndexStruct : List Field := [.raw 8,.unsigned 1,.unsigned 1,.unsigned 2,.unsigned 4,
  .unsigned 8,.unsigned 8,.unsigned 4,.unsigned 4,.unsigned 4,.unsigned 4,.signed 8,.unsigned 1,
  .raw 7]

/-- `>8sBBHIQQQQ32s32s32s`. -/
def updateVersionStruct : List Field := [.raw 8,.unsigned 1,.unsigned 1,.unsigned 2,.unsigned 4,
  .unsigned 8,.unsigned 8,.unsigned 8,.unsigned 8,.raw 32,.raw 32,.raw 32]

/-- `>8sBBHIQQQ32s32s32s`. -/
def queryVersionStruct : List Field := [.raw 8,.unsigned 1,.unsigned 1,.unsigned 2,.unsigned 4,
  .unsigned 8,.unsigned 8,.unsigned 8,.raw 32,.raw 32,.raw 32]

def framingError (message : String) : Failure := ⟨.day1BMetadataFramingError,message⟩

def strictUnsigned (value : ℤ) (bits : ℕ) (field : String) : Checked Unit :=
  require (0 ≤ value ∧ value < 2 ^ bits) (framingError
    (field ++ " must be one exact unsigned " ++ toString bits ++ "-bit integer"))

def strictSigned64 (value : ℤ) (field : String) : Checked Unit :=
  require (-2 ^ 63 ≤ value ∧ value < 2 ^ 63) (framingError
    (field ++ " must be one exact signed 64-bit integer"))

/-- `bytes.fromhex`, on the text `_digest_bytes` has checked. -/
def bytesFromHex (value : String) : Checked (List UInt8) :=
  match fromHex value.toList with
  | some content => .ok content
  | none => .error ⟨.valueError,"non-hexadecimal number found in fromhex() arg"⟩

def bytesHex (content : List UInt8) : String := String.ofList (hex content)

def digestBytes (value field : String) : Checked (List UInt8) := do
  require (validSha256 value = true) (framingError (field ++ " must be an exact lowercase SHA-256"))
  bytesFromHex value

def structPack (layout : List Field) (values : Values layout) : Checked (List UInt8) :=
  match pack layout values with
  | some content => .ok content
  | none => .error ⟨.structError,"argument out of range"⟩

def structUnpack (layout : List Field) (content : List UInt8) : Checked (Values layout) :=
  match unpack layout content with
  | some values => .ok values
  | none => .error ⟨.structError,"unpack requires a buffer of " ++ toString (size layout) ++ " bytes"⟩

def validateHeader (magic : List UInt8) (recordKind flags schemaVersion byteCount : ℤ)
    (expectedRecordKind : ℤ) (expectedByteCount : ℕ) : Checked Unit := do
  require (magic = metadataMagic) (framingError "Day 1B metadata magic changed")
  require (recordKind = expectedRecordKind) (framingError "Day 1B metadata record kind changed")
  require (flags = 0) (framingError "Day 1B metadata flags must be zero")
  require (schemaVersion = binarySchemaVersion)
    (framingError "Day 1B metadata binary schema changed")
  require (byteCount = (expectedByteCount : ℤ))
    (framingError "Day 1B metadata byte-count header changed")

def exactBytes (value : List UInt8) (expectedLength : ℕ) : Checked Unit :=
  require (value.length = expectedLength) (framingError
    ("Day 1B metadata payload must contain exactly " ++ toString expectedLength ++ " bytes"))

structure ColumnIndexSynchronizationEntry where
  versionOrdinal : ℤ
  windowIndex : ℤ
  componentOrdinal : ℤ
  storageObjectOrdinal : ℤ
  laneOrdinal : ℤ
  logicalRow : ℤ
  globalColumnIndex : ℤ
  entryKind : String
deriving DecidableEq, Repr

namespace ColumnIndexSynchronizationEntry

def postInit (entry : ColumnIndexSynchronizationEntry) : Checked Unit := do
  strictUnsigned entry.versionOrdinal 64 "version ordinal"
  strictUnsigned entry.windowIndex 64 "window index"
  strictUnsigned entry.componentOrdinal 32 "component ordinal"
  strictUnsigned entry.storageObjectOrdinal 32 "storage object ordinal"
  strictUnsigned entry.laneOrdinal 32 "lane ordinal"
  strictUnsigned entry.logicalRow 32 "logical row"
  strictSigned64 entry.globalColumnIndex "global column index"
  require ((entryKindToCode entry.entryKind).isSome = true)
    (framingError "column-index entry kind must be patch or full-sync")

def toBytes (entry : ColumnIndexSynchronizationEntry) : Checked (List UInt8) :=
  match entryKindToCode entry.entryKind with
  | none => .error ⟨.keyError,entry.entryKind⟩
  | some code => structPack columnIndexStruct (metadataMagic,columnIndexRecordKind,(0 : ℤ),
      binarySchemaVersion,(columnIndexSynchronizationBytes : ℤ),entry.versionOrdinal,
      entry.windowIndex,entry.componentOrdinal,entry.storageObjectOrdinal,entry.laneOrdinal,
      entry.logicalRow,entry.globalColumnIndex,code,List.replicate 7 0,())

def fromBytes (value : List UInt8) : Checked ColumnIndexSynchronizationEntry := do
  exactBytes value columnIndexSynchronizationBytes
  let (magic,recordKind,flags,schemaVersion,byteCount,versionOrdinal,windowIndex,componentOrdinal,
    storageObjectOrdinal,laneOrdinal,logicalRow,globalColumnIndex,code,reserved,()) ←
      structUnpack columnIndexStruct value
  validateHeader magic recordKind flags schemaVersion byteCount columnIndexRecordKind
    columnIndexSynchronizationBytes
  require (reserved = List.replicate 7 0)
    (framingError "column-index metadata reserved bytes must be zero")
  match codeToEntryKind code with
  | none => .error (framingError "column-index entry kind code changed")
  | some entryKind =>
    let entry : ColumnIndexSynchronizationEntry := ⟨versionOrdinal,windowIndex,componentOrdinal,
      storageObjectOrdinal,laneOrdinal,logicalRow,globalColumnIndex,entryKind⟩
    entry.postInit
    return entry

end ColumnIndexSynchronizationEntry

structure UpdateVersionPlanMetadata where
  windowIndex : ℤ
  versionOrdinal : ℤ
  acceptedGroupStart : ℤ
  acceptedGroupEnd : ℤ
  logicalStateSha256 : String
  outputPlanSha256 : String
  executionBindingSha256 : String
deriving DecidableEq, Repr

namespace UpdateVersionPlanMetadata

def postInit (plan : UpdateVersionPlanMetadata) : Checked Unit := do
  strictUnsigned plan.windowIndex 64 "window index"
  strictUnsigned plan.versionOrdinal 64 "version ordinal"
  strictUnsigned plan.acceptedGroupStart 64 "accepted-group start"
  strictUnsigned plan.acceptedGroupEnd 64 "accepted-group end"
  require (¬plan.acceptedGroupEnd ≤ plan.acceptedGroupStart)
    (framingError "update-version accepted-group range must be nonempty")
  let _ ← digestBytes plan.logicalStateSha256 "logical-state digest"
  let _ ← digestBytes plan.outputPlanSha256 "output-plan digest"
  let _ ← digestBytes plan.executionBindingSha256 "execution-binding digest"

def toBytes (plan : UpdateVersionPlanMetadata) : Checked (List UInt8) := do
  let logicalState ← digestBytes plan.logicalStateSha256 "logical-state digest"
  let outputPlan ← digestBytes plan.outputPlanSha256 "output-plan digest"
  let executionBinding ← digestBytes plan.executionBindingSha256 "execution-binding digest"
  structPack updateVersionStruct (metadataMagic,updateVersionRecordKind,(0 : ℤ),
    binarySchemaVersion,(updateVersionPlanMetadataBytes : ℤ),plan.windowIndex,plan.versionOrdinal,
    plan.acceptedGroupStart,plan.acceptedGroupEnd,logicalState,outputPlan,executionBinding,())

def fromBytes (value : List UInt8) : Checked UpdateVersionPlanMetadata := do
  exactBytes value updateVersionPlanMetadataBytes
  let (magic,recordKind,flags,schemaVersion,byteCount,windowIndex,versionOrdinal,
    acceptedGroupStart,acceptedGroupEnd,logicalState,outputPlan,executionBinding,()) ←
      structUnpack updateVersionStruct value
  validateHeader magic recordKind flags schemaVersion byteCount updateVersionRecordKind
    updateVersionPlanMetadataBytes
  let plan : UpdateVersionPlanMetadata := ⟨windowIndex,versionOrdinal,acceptedGroupStart,
    acceptedGroupEnd,bytesHex logicalState,bytesHex outputPlan,bytesHex executionBinding⟩
  plan.postInit
  return plan

end UpdateVersionPlanMetadata

structure QueryVersionPlanMetadata where
  windowIndex : ℤ
  globalQueryOrdinal : ℤ
  versionOrdinal : ℤ
  queryVectorSha256 : String
  outputPlanSha256 : String
  executionBindingSha256 : String
deriving DecidableEq, Repr

namespace QueryVersionPlanMetadata

def postInit (plan : QueryVersionPlanMetadata) : Checked Unit := do
  strictUnsigned plan.windowIndex 64 "window index"
  strictUnsigned plan.globalQueryOrdinal 64 "global query ordinal"
  strictUnsigned plan.versionOrdinal 64 "version ordinal"
  let _ ← digestBytes plan.queryVectorSha256 "query-vector digest"
  let _ ← digestBytes plan.outputPlanSha256 "output-plan digest"
  let _ ← digestBytes plan.executionBindingSha256 "execution-binding digest"

def toBytes (plan : QueryVersionPlanMetadata) : Checked (List UInt8) := do
  let queryVector ← digestBytes plan.queryVectorSha256 "query-vector digest"
  let outputPlan ← digestBytes plan.outputPlanSha256 "output-plan digest"
  let executionBinding ← digestBytes plan.executionBindingSha256 "execution-binding digest"
  structPack queryVersionStruct (metadataMagic,queryVersionRecordKind,(0 : ℤ),binarySchemaVersion,
    (queryVersionPlanMetadataBytes : ℤ),plan.windowIndex,plan.globalQueryOrdinal,
    plan.versionOrdinal,queryVector,outputPlan,executionBinding,())

def fromBytes (value : List UInt8) : Checked QueryVersionPlanMetadata := do
  exactBytes value queryVersionPlanMetadataBytes
  let (magic,recordKind,flags,schemaVersion,byteCount,windowIndex,globalQueryOrdinal,
    versionOrdinal,queryVector,outputPlan,executionBinding,()) ←
      structUnpack queryVersionStruct value
  validateHeader magic recordKind flags schemaVersion byteCount queryVersionRecordKind
    queryVersionPlanMetadataBytes
  let plan : QueryVersionPlanMetadata := ⟨windowIndex,globalQueryOrdinal,versionOrdinal,
    bytesHex queryVector,bytesHex outputPlan,bytesHex executionBinding⟩
  plan.postInit
  return plan

end QueryVersionPlanMetadata

/-! What each helper accepts. -/

@[simp] theorem strictUnsigned_success (value : ℤ) (bits : ℕ) (field : String) (done : Unit) :
    strictUnsigned value bits field = .ok done ↔ 0 ≤ value ∧ value < 2 ^ bits := by
  simp [strictUnsigned]

@[simp] theorem strictSigned64_success (value : ℤ) (field : String) (done : Unit) :
    strictSigned64 value field = .ok done ↔ -2 ^ 63 ≤ value ∧ value < 2 ^ 63 := by
  simp [strictSigned64]

@[simp] theorem exactBytes_success (value : List UInt8) (expectedLength : ℕ) (done : Unit) :
    exactBytes value expectedLength = .ok done ↔ value.length = expectedLength := by
  simp [exactBytes]

@[simp] theorem structPack_success (layout : List Field) (values : Values layout)
    (content : List UInt8) :
    structPack layout values = .ok content ↔ pack layout values = some content := by
  unfold structPack
  split <;> simp_all

@[simp] theorem structUnpack_success (layout : List Field) (values : Values layout)
    (content : List UInt8) :
    structUnpack layout content = .ok values ↔ unpack layout content = some values := by
  unfold structUnpack
  split <;> simp_all

@[simp] theorem validateHeader_success (magic : List UInt8)
    (recordKind flags schemaVersion byteCount expectedRecordKind : ℤ) (expectedByteCount : ℕ)
    (done : Unit) : validateHeader magic recordKind flags schemaVersion byteCount
      expectedRecordKind expectedByteCount = .ok done ↔ magic = metadataMagic ∧
      recordKind = expectedRecordKind ∧ flags = 0 ∧ schemaVersion = binarySchemaVersion ∧
      byteCount = (expectedByteCount : ℤ) := by
  simp [validateHeader,then_success]

private theorem digestBytes_success (value field : String) (content : List UInt8) :
    digestBytes value field = .ok content ↔ content.length = 32 ∧ bytesHex content = value := by
  simp only [digestBytes,then_success,require_success]
  constructor
  · intro ⟨valid,decoded⟩
    simp only [validSha256,Bool.and_eq_true,beq_iff_eq] at valid
    obtain ⟨other,found,length,spelled⟩ := fromHex_digits 32 value.toList valid.1 valid.2
    simp only [bytesFromHex,found,Except.ok.injEq] at decoded
    subst decoded
    exact ⟨length,by rw [bytesHex,spelled,String.ofList_toList]⟩
  · intro ⟨length,spelled⟩
    have text : value.toList = hex content := by
      rw [← spelled,bytesHex,String.toList_ofList]
    refine ⟨?_,?_⟩
    · have digits := hex_digits content
      simp only [validSha256,text,hex_length,length,Bool.and_eq_true,beq_iff_eq]
      exact ⟨trivial,digits⟩
    · simp only [bytesFromHex,text,fromHex_hex]

private theorem codeToEntryKind_some (code : ℤ) (kind : String) :
    codeToEntryKind code = some kind ↔ entryKindToCode kind = some code := by
  unfold codeToEntryKind entryKindToCode
  constructor
  · intro found
    split at found
    · next first => obtain rfl : "patch" = kind := by simpa using found
                    simp [first]
    · split at found
      · next second => obtain rfl : "full-sync" = kind := by simpa using found
                       simp [second]
      · exact absurd found (by simp)
  · intro found
    split at found
    · next first => obtain rfl : 1 = code := by simpa using found
                    simp [first]
    · split at found
      · next second => obtain rfl : 2 = code := by simpa using found
                       simp [second]
      · exact absurd found (by simp)

private theorem entryKindToCode_range (kind : String) (code : ℤ) (found : entryKindToCode kind = some code) :
    0 ≤ code ∧ code < 256 := by
  rw [← codeToEntryKind_some] at found
  unfold codeToEntryKind at found
  split at found
  · omega
  · split at found
    · omega
    · exact absurd found (by simp)

private theorem unsigned_of_range (width : ℕ) (value : ℤ) (range : 0 ≤ value ∧ value < 2 ^ (8 * width)) :
    Field.Fits (.unsigned width) value := (Field.unsigned_fits width value).mpr range

private theorem header_fits (kind : ℤ) (size : ℕ) (known : 0 ≤ kind ∧ kind < 2 ^ 8) (small : size < 2 ^ 32) :
    Field.Fits (.raw 8) metadataMagic ∧ Field.Fits (.unsigned 1) kind ∧
    Field.Fits (.unsigned 1) (0 : ℤ) ∧ Field.Fits (.unsigned 2) binarySchemaVersion ∧
    Field.Fits (.unsigned 4) (size : ℤ) := by
  refine ⟨rfl,unsigned_of_range 1 kind known,unsigned_of_range 1 0 (by norm_num),
    unsigned_of_range 2 1 (by norm_num),unsigned_of_range 4 size ?_⟩
  have upper : (size : ℤ) < 2 ^ 32 := by exact_mod_cast small
  exact ⟨by positivity,upper⟩

namespace ColumnIndexSynchronizationEntry

theorem postInit_success (entry : ColumnIndexSynchronizationEntry) :
    entry.postInit = .ok () ↔ (0 ≤ entry.versionOrdinal ∧ entry.versionOrdinal < 2 ^ 64) ∧
      (0 ≤ entry.windowIndex ∧ entry.windowIndex < 2 ^ 64) ∧
      (0 ≤ entry.componentOrdinal ∧ entry.componentOrdinal < 2 ^ 32) ∧
      (0 ≤ entry.storageObjectOrdinal ∧ entry.storageObjectOrdinal < 2 ^ 32) ∧
      (0 ≤ entry.laneOrdinal ∧ entry.laneOrdinal < 2 ^ 32) ∧
      (0 ≤ entry.logicalRow ∧ entry.logicalRow < 2 ^ 32) ∧
      (-2 ^ 63 ≤ entry.globalColumnIndex ∧ entry.globalColumnIndex < 2 ^ 63) ∧
      ∃ code, entryKindToCode entry.entryKind = some code := by
  simp only [postInit,then_success,strictUnsigned_success,strictSigned64_success,require_success,
    Option.isSome_iff_exists]

private theorem codec : ExactCodec (fun entry => postInit entry = .ok ()) toBytes fromBytes
    columnIndexSynchronizationBytes where
  round entry accepted := by
    have valid := accepted
    obtain ⟨version,window,component,object,lane,row,column,code,known⟩ :=
      (postInit_success entry).mp valid
    obtain ⟨magic,kind,flags,schema,bytes⟩ := header_fits columnIndexRecordKind
      columnIndexSynchronizationBytes (by decide) (by decide)
    obtain ⟨content,packed,length,unpacked⟩ := pack_unpack columnIndexStruct
      (metadataMagic,columnIndexRecordKind,(0 : ℤ),binarySchemaVersion,
        (columnIndexSynchronizationBytes : ℤ),entry.versionOrdinal,entry.windowIndex,
        entry.componentOrdinal,entry.storageObjectOrdinal,entry.laneOrdinal,entry.logicalRow,
        entry.globalColumnIndex,code,List.replicate 7 0,())
      ⟨magic,kind,flags,schema,bytes,unsigned_of_range 8 _ version,unsigned_of_range 8 _ window,
        unsigned_of_range 4 _ component,unsigned_of_range 4 _ object,unsigned_of_range 4 _ lane,
        unsigned_of_range 4 _ row,(Field.signed_fits 7 _).mpr column,
        unsigned_of_range 1 _ (entryKindToCode_range _ _ known),rfl,trivial⟩
    refine ⟨content,?_,length,?_⟩
    · simp only [toBytes,known]
      exact (structPack_success _ _ _).mpr packed
    · refine pass _ _ _ ((exactBytes_success _ _ _).mpr length) ?_
      refine (bind_success _ _ _).mpr ⟨_,(structUnpack_success _ _ _).mpr unpacked,?_⟩
      refine pass _ _ _ ((validateHeader_success _ _ _ _ _ _ _ _).mpr ⟨rfl,rfl,rfl,rfl,rfl⟩) ?_
      refine pass _ _ _ (require_true _ _ rfl) ?_
      simp only [(codeToEntryKind_some code entry.entryKind).mpr known]
      exact pass _ _ _ accepted rfl
  exact content entry decoded := by
    obtain ⟨_,decoded⟩ := (then_success _ _ _).mp decoded
    obtain ⟨⟨magic,recordKind,flags,schemaVersion,byteCount,version,window,component,object,lane,row,
      column,code,reserved,⟨⟩⟩,unpacked,decoded⟩ := (bind_success _ _ _).mp decoded
    obtain ⟨header,checked⟩ := (then_success _ _ _).mp decoded
    obtain ⟨zeros,last⟩ := (then_success _ _ _).mp checked
    obtain ⟨rfl,rfl,rfl,rfl,rfl⟩ := (validateHeader_success _ _ _ _ _ _ _ _).mp header
    obtain rfl := (require_success _ _ _).mp zeros
    have packed := (unpack_pack _ _ _ ((structUnpack_success _ _ _).mp unpacked)).2.2
    split at last
    · exact absurd last (by simp)
    next kind known =>
    obtain ⟨accepted,same⟩ := (then_success _ _ _).mp last
    obtain rfl := Except.ok.inj same
    refine ⟨accepted,?_⟩
    simp only [toBytes,(codeToEntryKind_some code kind).mp known]
    exact (structPack_success _ _ _).mpr packed

end ColumnIndexSynchronizationEntry

namespace UpdateVersionPlanMetadata

theorem postInit_success (plan : UpdateVersionPlanMetadata) :
    plan.postInit = .ok () ↔ (0 ≤ plan.windowIndex ∧ plan.windowIndex < 2 ^ 64) ∧
      (0 ≤ plan.versionOrdinal ∧ plan.versionOrdinal < 2 ^ 64) ∧
      (0 ≤ plan.acceptedGroupStart ∧ plan.acceptedGroupStart < 2 ^ 64) ∧
      (0 ≤ plan.acceptedGroupEnd ∧ plan.acceptedGroupEnd < 2 ^ 64) ∧
      ¬plan.acceptedGroupEnd ≤ plan.acceptedGroupStart ∧
      (∃ content, content.length = 32 ∧ bytesHex content = plan.logicalStateSha256) ∧
      (∃ content, content.length = 32 ∧ bytesHex content = plan.outputPlanSha256) ∧
      ∃ content, content.length = 32 ∧ bytesHex content = plan.executionBindingSha256 := by
  simp only [postInit,strictUnsigned_success,require_success,bind_success,
    digestBytes_success]
  simp [pure,Except.pure]

private theorem codec : ExactCodec (fun plan => postInit plan = .ok ()) toBytes fromBytes
    updateVersionPlanMetadataBytes where
  round plan accepted := by
    obtain ⟨window,version,start,stop,_,⟨state,stateSize,stateText⟩,⟨output,outputSize,outputText⟩,
      binding,bindingSize,bindingText⟩ := (postInit_success plan).mp accepted
    obtain ⟨magic,kind,flags,schema,bytes⟩ := header_fits updateVersionRecordKind
      updateVersionPlanMetadataBytes (by decide) (by decide)
    obtain ⟨content,packed,length,unpacked⟩ := pack_unpack updateVersionStruct
      (metadataMagic,updateVersionRecordKind,(0 : ℤ),binarySchemaVersion,
        (updateVersionPlanMetadataBytes : ℤ),plan.windowIndex,plan.versionOrdinal,
        plan.acceptedGroupStart,plan.acceptedGroupEnd,state,output,binding,())
      ⟨magic,kind,flags,schema,bytes,unsigned_of_range 8 _ window,unsigned_of_range 8 _ version,
        unsigned_of_range 8 _ start,unsigned_of_range 8 _ stop,stateSize,outputSize,bindingSize,
        trivial⟩
    refine ⟨content,?_,length,?_⟩
    · refine (bind_success _ _ _).mpr ⟨state,(digestBytes_success _ _ _).mpr ⟨stateSize,stateText⟩,?_⟩
      refine (bind_success _ _ _).mpr
        ⟨output,(digestBytes_success _ _ _).mpr ⟨outputSize,outputText⟩,?_⟩
      refine (bind_success _ _ _).mpr
        ⟨binding,(digestBytes_success _ _ _).mpr ⟨bindingSize,bindingText⟩,?_⟩
      exact (structPack_success _ _ _).mpr packed
    · refine pass _ _ _ ((exactBytes_success _ _ _).mpr length) ?_
      refine (bind_success _ _ _).mpr ⟨_,(structUnpack_success _ _ _).mpr unpacked,?_⟩
      refine pass _ _ _ ((validateHeader_success _ _ _ _ _ _ _ _).mpr ⟨rfl,rfl,rfl,rfl,rfl⟩) ?_
      simp only [stateText,outputText,bindingText]
      exact pass _ _ _ accepted rfl
  exact content plan decoded := by
    obtain ⟨_,decoded⟩ := (then_success _ _ _).mp decoded
    obtain ⟨⟨magic,recordKind,flags,schemaVersion,byteCount,window,version,start,stop,state,output,
      binding,⟨⟩⟩,unpacked,decoded⟩ := (bind_success _ _ _).mp decoded
    obtain ⟨header,last⟩ := (then_success _ _ _).mp decoded
    obtain ⟨accepted,same⟩ := (then_success _ _ _).mp last
    obtain ⟨rfl,rfl,rfl,rfl,rfl⟩ := (validateHeader_success _ _ _ _ _ _ _ _).mp header
    obtain rfl := Except.ok.inj same
    obtain ⟨_,fits,packed⟩ := unpack_pack _ _ _ ((structUnpack_success _ _ _).mp unpacked)
    obtain ⟨_,_,_,_,_,_,_,_,_,stateSize,outputSize,bindingSize,_⟩ := fits
    refine ⟨accepted,?_⟩
    refine (bind_success _ _ _).mpr ⟨state,(digestBytes_success _ _ _).mpr ⟨stateSize,rfl⟩,?_⟩
    refine (bind_success _ _ _).mpr ⟨output,(digestBytes_success _ _ _).mpr ⟨outputSize,rfl⟩,?_⟩
    refine (bind_success _ _ _).mpr ⟨binding,(digestBytes_success _ _ _).mpr ⟨bindingSize,rfl⟩,?_⟩
    exact (structPack_success _ _ _).mpr packed

end UpdateVersionPlanMetadata

namespace QueryVersionPlanMetadata

theorem postInit_success (plan : QueryVersionPlanMetadata) :
    plan.postInit = .ok () ↔ (0 ≤ plan.windowIndex ∧ plan.windowIndex < 2 ^ 64) ∧
      (0 ≤ plan.globalQueryOrdinal ∧ plan.globalQueryOrdinal < 2 ^ 64) ∧
      (0 ≤ plan.versionOrdinal ∧ plan.versionOrdinal < 2 ^ 64) ∧
      (∃ content, content.length = 32 ∧ bytesHex content = plan.queryVectorSha256) ∧
      (∃ content, content.length = 32 ∧ bytesHex content = plan.outputPlanSha256) ∧
      ∃ content, content.length = 32 ∧ bytesHex content = plan.executionBindingSha256 := by
  simp only [postInit,strictUnsigned_success,bind_success,digestBytes_success]
  simp [pure,Except.pure]

private theorem codec : ExactCodec (fun plan => postInit plan = .ok ()) toBytes fromBytes
    queryVersionPlanMetadataBytes where
  round plan accepted := by
    obtain ⟨window,query,version,⟨vector,vectorSize,vectorText⟩,⟨output,outputSize,outputText⟩,
      binding,bindingSize,bindingText⟩ := (postInit_success plan).mp accepted
    obtain ⟨magic,kind,flags,schema,bytes⟩ := header_fits queryVersionRecordKind
      queryVersionPlanMetadataBytes (by decide) (by decide)
    obtain ⟨content,packed,length,unpacked⟩ := pack_unpack queryVersionStruct
      (metadataMagic,queryVersionRecordKind,(0 : ℤ),binarySchemaVersion,
        (queryVersionPlanMetadataBytes : ℤ),plan.windowIndex,plan.globalQueryOrdinal,
        plan.versionOrdinal,vector,output,binding,())
      ⟨magic,kind,flags,schema,bytes,unsigned_of_range 8 _ window,unsigned_of_range 8 _ query,
        unsigned_of_range 8 _ version,vectorSize,outputSize,bindingSize,trivial⟩
    refine ⟨content,?_,length,?_⟩
    · refine (bind_success _ _ _).mpr
        ⟨vector,(digestBytes_success _ _ _).mpr ⟨vectorSize,vectorText⟩,?_⟩
      refine (bind_success _ _ _).mpr
        ⟨output,(digestBytes_success _ _ _).mpr ⟨outputSize,outputText⟩,?_⟩
      refine (bind_success _ _ _).mpr
        ⟨binding,(digestBytes_success _ _ _).mpr ⟨bindingSize,bindingText⟩,?_⟩
      exact (structPack_success _ _ _).mpr packed
    · refine pass _ _ _ ((exactBytes_success _ _ _).mpr length) ?_
      refine (bind_success _ _ _).mpr ⟨_,(structUnpack_success _ _ _).mpr unpacked,?_⟩
      refine pass _ _ _ ((validateHeader_success _ _ _ _ _ _ _ _).mpr ⟨rfl,rfl,rfl,rfl,rfl⟩) ?_
      simp only [vectorText,outputText,bindingText]
      exact pass _ _ _ accepted rfl
  exact content plan decoded := by
    obtain ⟨_,decoded⟩ := (then_success _ _ _).mp decoded
    obtain ⟨⟨magic,recordKind,flags,schemaVersion,byteCount,window,query,version,vector,output,
      binding,⟨⟩⟩,unpacked,decoded⟩ := (bind_success _ _ _).mp decoded
    obtain ⟨header,last⟩ := (then_success _ _ _).mp decoded
    obtain ⟨accepted,same⟩ := (then_success _ _ _).mp last
    obtain ⟨rfl,rfl,rfl,rfl,rfl⟩ := (validateHeader_success _ _ _ _ _ _ _ _).mp header
    obtain rfl := Except.ok.inj same
    obtain ⟨_,fits,packed⟩ := unpack_pack _ _ _ ((structUnpack_success _ _ _).mp unpacked)
    obtain ⟨_,_,_,_,_,_,_,_,vectorSize,outputSize,bindingSize,_⟩ := fits
    refine ⟨accepted,?_⟩
    refine (bind_success _ _ _).mpr ⟨vector,(digestBytes_success _ _ _).mpr ⟨vectorSize,rfl⟩,?_⟩
    refine (bind_success _ _ _).mpr ⟨output,(digestBytes_success _ _ _).mpr ⟨outputSize,rfl⟩,?_⟩
    refine (bind_success _ _ _).mpr ⟨binding,(digestBytes_success _ _ _).mpr ⟨bindingSize,rfl⟩,?_⟩
    exact (structPack_success _ _ _).mpr packed

end QueryVersionPlanMetadata

/-- The three record types are coded exactly, and no byte string is a record of two types. -/
theorem metadata_records_exact :
    ExactCodec (fun entry => ColumnIndexSynchronizationEntry.postInit entry = .ok ())
      ColumnIndexSynchronizationEntry.toBytes ColumnIndexSynchronizationEntry.fromBytes
      columnIndexSynchronizationBytes ∧
    ExactCodec (fun plan => UpdateVersionPlanMetadata.postInit plan = .ok ())
      UpdateVersionPlanMetadata.toBytes UpdateVersionPlanMetadata.fromBytes
      updateVersionPlanMetadataBytes ∧
    ExactCodec (fun plan => QueryVersionPlanMetadata.postInit plan = .ok ())
      QueryVersionPlanMetadata.toBytes QueryVersionPlanMetadata.fromBytes
      queryVersionPlanMetadataBytes ∧
    ∀ content : List UInt8,
      ¬((∃ entry, ColumnIndexSynchronizationEntry.fromBytes content = .ok entry) ∧
        ∃ plan, UpdateVersionPlanMetadata.fromBytes content = .ok plan) ∧
      ¬((∃ entry, ColumnIndexSynchronizationEntry.fromBytes content = .ok entry) ∧
        ∃ plan, QueryVersionPlanMetadata.fromBytes content = .ok plan) ∧
      ¬((∃ plan, UpdateVersionPlanMetadata.fromBytes content = .ok plan) ∧
        ∃ plan, QueryVersionPlanMetadata.fromBytes content = .ok plan) := by
  refine ⟨ColumnIndexSynchronizationEntry.codec,UpdateVersionPlanMetadata.codec,
    QueryVersionPlanMetadata.codec,fun content => ⟨?_,?_,?_⟩⟩
  · exact ColumnIndexSynchronizationEntry.codec.disjoint UpdateVersionPlanMetadata.codec
      (by decide) content
  · exact ColumnIndexSynchronizationEntry.codec.disjoint QueryVersionPlanMetadata.codec
      (by decide) content
  · exact UpdateVersionPlanMetadata.codec.disjoint QueryVersionPlanMetadata.codec
      (by decide) content

def sampleEntry : ColumnIndexSynchronizationEntry := ⟨3,2,1,0,5,7,-1,"patch"⟩
def samplePlan : UpdateVersionPlanMetadata := ⟨2,3,10,12,zeroDigest,zeroDigest,zeroDigest⟩

/-- Two records, each read by its own decoder only. -/
theorem metadata_records_sample :
    (∃ content, sampleEntry.toBytes = .ok content ∧ content.length = 64 ∧
      ColumnIndexSynchronizationEntry.fromBytes content = .ok sampleEntry ∧
      ∀ plan, UpdateVersionPlanMetadata.fromBytes content ≠ .ok plan) ∧
    ∃ content, samplePlan.toBytes = .ok content ∧ content.length = 144 ∧
      UpdateVersionPlanMetadata.fromBytes content = .ok samplePlan ∧
      ∀ plan, QueryVersionPlanMetadata.fromBytes content ≠ .ok plan := by
  obtain ⟨entries,updates,_,apart⟩ := metadata_records_exact
  constructor
  · obtain ⟨content,written,long,read⟩ := entries.round sampleEntry (by decide +kernel)
    exact ⟨content,written,long,read,fun plan other => (apart content).1 ⟨⟨_,read⟩,plan,other⟩⟩
  · obtain ⟨content,written,long,read⟩ := updates.round samplePlan (by decide +kernel)
    exact ⟨content,written,long,read,fun plan other => (apart content).2.2 ⟨⟨_,read⟩,plan,other⟩⟩

end DynamicCssc.MetadataFraming
