import PexReader.Format.Stepping
import PexReader.Model.Abi

/-!
# AbiCalls — calls of the exported functions, and runs of them

A call is an exported function with its arguments.  `CodeCall` has the functions that take a handle
and return an `int32_t`, `ValueCall` those that take a handle and return a value of the instance,
and `AbiCall` all of them.  Of a run only the state behind each call is followed; what
`MultiByteToWideChar` does is the same throughout.
-/

namespace PexReader

/-! ## Calls -/

/-- The getters of records. -/
inductive RecordCall
  | getDebugFunctionInfo (index : UInt16) (out : DebugFunctionOut)
  | getUserFlagInfo (index : UInt16) (out : UserFlagOut)
  | getObjectInfo (index : UInt16) (out : ObjectInfoOut)
  | getObjectData (objectIndex : UInt16) (out : ObjectDataOut)
  | getVariableInfo (objectIndex variableIndex : UInt16) (out : VariableOut)
  | getPropertyInfo (objectIndex propertyIndex : UInt16) (out : PropertyOut)
  | getStateInfo (objectIndex stateIndex : UInt16) (out : StateOut)
  | getStateFunctionInfo (objectIndex stateIndex functionIndex : UInt16) (out : StateFunctionOut)
  | getInstructionInfo (objectIndex stateIndex functionIndex instructionIndex : UInt16)
      (out : InstructionOut)
  | getInstructionArgument
      (objectIndex stateIndex functionIndex instructionIndex argumentIndex : UInt16)
      (out : ArgumentOut)
  | getFunctionParamInfo (objectIndex stateIndex functionIndex parameterIndex : UInt16)
      (out : VariableTypeOut)
  | getFunctionLocalInfo (objectIndex stateIndex functionIndex localIndex : UInt16)
      (out : VariableTypeOut)

/-- The functions that take a handle and return an `int32_t`. -/
inductive CodeCall
  | readPex (handle : PexReaderHandle) (pexPath : Option InputFile)
  | modifyStringTable (handle : PexReaderHandle) (index : UInt16)
      (utf8String : Option (List UInt8))
  | savePex (handle : PexReaderHandle) (pexPath : Option OutputDevice)
  | getStringUtf8 (handle : PexReaderHandle) (index : UInt16) (buffer : Option (List UInt8))
      (bufferSize : Int32)
  | getStringWide (handle : PexReaderHandle) (index : UInt16) (buffer : Option (List UInt16))
      (bufferSize : Int32)
  | record (handle : PexReaderHandle) (call : RecordCall)

/-- The getters of values. -/
inductive ValueCall
  | getHeaderSourceFileName
  | getHeaderUsername
  | getHeaderMachineName
  | getHeaderMagic
  | getHeaderMajorVersion
  | getHeaderMinorVersion
  | getHeaderGameId
  | getHeaderCompilationTime
  | getStringTableCount
  | hasDebugInfo
  | getDebugModificationTime
  | getDebugFunctionCount
  | getUserFlagCount
  | getObjectCount
  | getVariableCount (objectIndex : UInt16)
  | getPropertyCount (objectIndex : UInt16)
  | getStateCount (objectIndex : UInt16)
  | getFunctionParamCount (objectIndex stateIndex functionIndex : UInt16)
  | getFunctionLocalCount (objectIndex stateIndex functionIndex : UInt16)

inductive AbiCall
  | getAbiVersion
  | getLastStatus
  | getLastErrorUtf8 (buffer : Option (List UInt8)) (bufferSize : Int32)
  | getVersion
  | getVersionLength
  | createInstance (allocated : Option PexReaderHandle)
  | destroyInstance (handle : PexReaderHandle)
  | close (handle : PexReaderHandle)
  | code (call : CodeCall)
  | value (handle : PexReaderHandle) (call : ValueCall)
  | freeBuffer (buffer : Option (List UInt16))

/-! ## Results -/

def RecordCall.exec (handle : PexReaderHandle) : RecordCall → AbiM Int32
  | getDebugFunctionInfo index out => Prod.fst <$> Abi.C_GetDebugFunctionInfo handle index out
  | getUserFlagInfo index out => Prod.fst <$> Abi.C_GetUserFlagInfo handle index out
  | getObjectInfo index out => Prod.fst <$> Abi.C_GetObjectInfo handle index out
  | getObjectData o out => Prod.fst <$> Abi.C_GetObjectData handle o out
  | getVariableInfo o v out => Prod.fst <$> Abi.C_GetVariableInfo handle o v out
  | getPropertyInfo o p out => Prod.fst <$> Abi.C_GetPropertyInfo handle o p out
  | getStateInfo o s out => Prod.fst <$> Abi.C_GetStateInfo handle o s out
  | getStateFunctionInfo o s f out => Prod.fst <$> Abi.C_GetStateFunctionInfo handle o s f out
  | getInstructionInfo o s f i out => Prod.fst <$> Abi.C_GetInstructionInfo handle o s f i out
  | getInstructionArgument o s f i a out =>
      Prod.fst <$> Abi.C_GetInstructionArgument handle o s f i a out
  | getFunctionParamInfo o s f p out => Prod.fst <$> Abi.C_GetFunctionParamInfo handle o s f p out
  | getFunctionLocalInfo o s f l out => Prod.fst <$> Abi.C_GetFunctionLocalInfo handle o s f l out

section

variable (mb : MultiByteToWideChar)

/-- The result of the call. -/
def CodeCall.exec : CodeCall → AbiM Int32
  | readPex handle pexPath => Abi.C_ReadPex handle pexPath
  | modifyStringTable handle index utf8String =>
      Abi.C_ModifyStringTable handle index utf8String
  | savePex handle pexPath => Prod.fst <$> Abi.C_SavePex handle pexPath
  | getStringUtf8 handle index buffer bufferSize =>
      Prod.fst <$> Abi.C_GetStringUtf8 handle index buffer bufferSize
  | getStringWide handle index buffer bufferSize =>
      Prod.fst <$> Abi.C_GetStringWide mb handle index buffer bufferSize
  | record handle call => call.exec handle

def ValueCall.exec (handle : PexReaderHandle) : ValueCall → AbiM Unit
  | getHeaderSourceFileName => discard (Abi.C_GetHeaderSourceFileName handle)
  | getHeaderUsername => discard (Abi.C_GetHeaderUsername handle)
  | getHeaderMachineName => discard (Abi.C_GetHeaderMachineName handle)
  | getHeaderMagic => discard (Abi.C_GetHeaderMagic handle)
  | getHeaderMajorVersion => discard (Abi.C_GetHeaderMajorVersion handle)
  | getHeaderMinorVersion => discard (Abi.C_GetHeaderMinorVersion handle)
  | getHeaderGameId => discard (Abi.C_GetHeaderGameId handle)
  | getHeaderCompilationTime => discard (Abi.C_GetHeaderCompilationTime handle)
  | getStringTableCount => discard (Abi.C_GetStringTableCount handle)
  | hasDebugInfo => discard (Abi.C_HasDebugInfo handle)
  | getDebugModificationTime => discard (Abi.C_GetDebugModificationTime handle)
  | getDebugFunctionCount => discard (Abi.C_GetDebugFunctionCount handle)
  | getUserFlagCount => discard (Abi.C_GetUserFlagCount handle)
  | getObjectCount => discard (Abi.C_GetObjectCount handle)
  | getVariableCount o => discard (Abi.C_GetVariableCount handle o)
  | getPropertyCount o => discard (Abi.C_GetPropertyCount handle o)
  | getStateCount o => discard (Abi.C_GetStateCount handle o)
  | getFunctionParamCount o s f => discard (Abi.C_GetFunctionParamCount handle o s f)
  | getFunctionLocalCount o s f => discard (Abi.C_GetFunctionLocalCount handle o s f)

def AbiCall.exec : AbiCall → AbiM Unit
  | getAbiVersion => discard Abi.C_GetAbiVersion
  | getLastStatus => discard Abi.C_GetLastStatus
  | getLastErrorUtf8 buffer bufferSize => discard (Abi.C_GetLastErrorUtf8 buffer bufferSize)
  | getVersion => discard Abi.C_GetVersion
  | getVersionLength => discard Abi.C_GetVersionLength
  | createInstance allocated => discard (Abi.C_CreateInstance allocated)
  | destroyInstance handle => Abi.C_DestroyInstance handle
  | close handle => Abi.C_Close handle
  | code call => discard (call.exec mb)
  | value handle call => call.exec handle
  | freeBuffer buffer => Abi.C_FreeBuffer buffer

/-- The state behind the call. -/
def AbiCall.next (call : AbiCall) (w : AbiState) : AbiState :=
  match call.exec mb w with
  | .ok _ w => w
  | .error _ w => w

end

/-! ## What a caller may do -/

/-- The handle is null or refers to a live instance. -/
def AbiState.Accepts (w : AbiState) (handle : PexReaderHandle) : Prop :=
  handle = 0 ∨ (w.heap handle).isSome = true

instance (w : AbiState) (handle : PexReaderHandle) : Decidable (w.Accepts handle) :=
  inferInstanceAs (Decidable (_ ∨ _))

def CodeCall.handle : CodeCall → PexReaderHandle
  | readPex handle _ => handle
  | modifyStringTable handle _ _ => handle
  | savePex handle _ => handle
  | getStringUtf8 handle _ _ _ => handle
  | getStringWide handle _ _ _ => handle
  | record handle _ => handle

/-- Handles are null or live, and an allocation gives an address that is not in use. -/
def AbiCall.Permitted (call : AbiCall) (w : AbiState) : Prop :=
  match call with
  | createInstance (some handle) => handle ≠ 0 ∧ (w.heap handle).isNone = true
  | destroyInstance handle => w.Accepts handle
  | close handle => w.Accepts handle
  | code call => w.Accepts call.handle
  | value handle _ => w.Accepts handle
  | _ => True

instance (call : AbiCall) (w : AbiState) : Decidable (call.Permitted w) := by
  unfold AbiCall.Permitted
  split <;> infer_instance

/-! ## Runs -/

/-- The state behind a run of calls that starts without an instance. -/
def runAbi (mb : MultiByteToWideChar) (calls : List AbiCall) : AbiState :=
  Stepping.run (AbiCall.next mb) calls {}

/-- The calls the caller may make, one after the other. -/
def PermittedRun (mb : MultiByteToWideChar) (calls : List AbiCall) : Prop :=
  Stepping.Each (AbiCall.next mb) AbiCall.Permitted calls {}

instance (mb : MultiByteToWideChar) (calls : List AbiCall) : Decidable (PermittedRun mb calls) :=
  inferInstanceAs (Decidable (Stepping.Each _ _ _ _))

end PexReader
