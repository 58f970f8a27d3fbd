import Mathlib.Logic.Function.Basic
import PexReader.Model.Accessors
import PexReader.Model.Instance
import PexReader.Model.StringTable

/-!
# Abi — the exported functions of `PexReader.cpp`

Every exported function but the three that ask for the status runs an action inside `InvokeAbi`: the
status of the thread is cleared first, and an exception becomes a status and a failure value.

* `AbiAction` is the inside: it may throw.  `AbiM` is the outside: no exception leaves it, and what
  is left to go wrong is what C++ leaves undefined.
* The exported functions are in the namespace `Abi`, each under the name it shares with the
  implementation function it calls.
-/

namespace PexReader

/-! ## State -/

inductive PexReaderStatus
  | ok | invalidArgument | outOfRange | bufferTooSmall | ioError | parseError | outOfMemory
  | internalError
  deriving DecidableEq, Repr

/-- The status and the null-terminated text of `Message`. -/
structure AbiErrorState where
  status : PexReaderStatus := .ok
  message : List UInt8 := []
  deriving DecidableEq, Repr

/-- `intptr_t`; 0 is null. -/
abbrev PexReaderHandle : Type := Int64

/-- The live instances by their handles, and the error state of the calling thread. -/
structure AbiState where
  heap : PexReaderHandle → Option PexData := fun _ => none
  lastAbiError : AbiErrorState := {}

/-- Another instance behind a handle, or none. -/
def AbiState.setInst (w : AbiState) (handle : PexReaderHandle) (inst : Option PexData) :
    AbiState :=
  { w with heap := Function.update w.heap handle inst }

/-- What C++ leaves undefined: indexing a vector past its size, and using a handle to no live
instance that is not null. -/
inductive Undefined
  | outOfBounds
  | danglingHandle
  deriving DecidableEq, Repr

/-- What a catch clause can meet. -/
inductive AbiException
  | badAlloc
  | iosFailure
  | std (e : StdException)
  | unknown
  deriving DecidableEq, Repr

/-- How an action ends early. -/
inductive Interruption
  | undefined (u : Undefined)
  | exception (e : AbiException)
  deriving DecidableEq, Repr

abbrev AbiAction : Type → Type := EStateM Interruption AbiState

abbrev AbiM : Type → Type := EStateM Undefined AbiState

/-! ## `InvokeAbi` -/

/-- The size of `Message`, with its terminator. -/
def messageSize : Nat := 256

/-- `SetAbiError` cuts the message to what `Message` can hold. -/
def setAbiError (status : PexReaderStatus) (message : String) : AbiErrorState where
  status
  message := (message.toList.flatMap String.utf8EncodeChar).take (messageSize - 1)

/-- The catch clauses in their order: what is no `bad_alloc`, `invalid_argument`, `out_of_range` or
`ios_base::failure` is an internal error. -/
def captureAbiException : AbiException → AbiErrorState
  | .badAlloc => setAbiError .outOfMemory "PexReader could not allocate required memory."
  | .std (.invalidArgument _) =>
      setAbiError .invalidArgument "PexReader rejected an invalid argument."
  | .std (.outOfRange _) => setAbiError .outOfRange "PexReader rejected an out-of-range value."
  | .iosFailure => setAbiError .ioError "PexReader encountered an input or output error."
  | .std _ => setAbiError .internalError "PexReader encountered an internal error."
  | .unknown => setAbiError .internalError "PexReader encountered an unknown internal error."

def invokeAbi {α : Type} (failureValue : α) (action : AbiAction α) : AbiM α := fun w =>
  -- `ClearAbiError`
  match action { w with lastAbiError := {} } with
  | .ok result w => .ok result w
  | .error (.exception e) w => .ok failureValue { w with lastAbiError := captureAbiException e }
  | .error (.undefined u) w => .error u w

def setError (status : PexReaderStatus) (message : String) : AbiAction Unit :=
  modify fun w => { w with lastAbiError := setAbiError status message }

def validateHandle (handle : PexReaderHandle) : AbiAction Bool := do
  if handle ≠ 0 then
    return true
  else
    setError .invalidArgument "The PexReader handle is null."
    return false

/-! ## Calling the implementation -/

/-- A fault of the implementation, seen from inside `InvokeAbi`. -/
def Fault.interruption : Fault → Interruption
  | .outOfBounds => .undefined .outOfBounds
  | .thrown e => .exception (.std e)

/-- The end of an implementation function as the end of an action. -/
def settle {α : Type} (outcome : Except Fault α) (w : AbiState) :
    EStateM.Result Interruption AbiState α :=
  match outcome with
  | .ok result => .ok result w
  | .error fault => .error fault.interruption w

/-- Run an implementation function on what `GetInst` makes of a handle: no instance for null, else
the instance itself, alive or not. -/
def onInst {α : Type} (handle : PexReaderHandle)
    (implementation : Option PexData → Except Fault α × Option PexData) : AbiAction α := fun w =>
  if handle = 0 then settle (implementation none).1 w
  else
    match w.heap handle with
    | none => .error (.undefined .danglingHandle) w
    | some self =>
        let outcome := implementation (some self)
        settle outcome.1 (w.setInst handle outcome.2)

/-- `PEX_ABI_HANDLE_RETURN`, around a function that only reads the instance. -/
def handleReturn {α : Type} (failureValue : α) (handle : PexReaderHandle)
    (implementation : Option PexData → Except Fault α) : AbiM α :=
  invokeAbi failureValue do
    if ← validateHandle handle then
      onInst handle fun inst => (implementation inst, inst)
    else
      return failureValue

/-- The common body of `C_ReadPex`, `C_ModifyStringTable` and `C_SavePex`, which also take a
pointer: a null pointer overrides a null handle. -/
def pointerCall {α : Type} (failureValue : α) (handle : PexReaderHandle) (isNull : Bool)
    (nullMessage : String)
    (implementation : Option PexData → Except Fault α × Option PexData)
    (failed : α → Bool) (status : PexReaderStatus) (message : String) : AbiM α :=
  invokeAbi failureValue do
    let valid ← validateHandle handle
    if !valid || isNull then
      if isNull then
        setError .invalidArgument nullMessage
      return failureValue
    else
      let result ← onInst handle implementation
      if failed result then
        setError status message
      return result

/-- The common body of the string getters: the request is checked with the handle, and the result
is compared with the capacity once more. -/
def stringCall {α : Type} (handle : PexReaderHandle) (buffer : Option (List α))
    (bufferSize : Int32) (invalidMessage tooSmallMessage : String)
    (implementation : Option PexData → Except Fault (Int32 × Option (List α))) :
    AbiM (Int32 × Option (List α)) :=
  invokeAbi (-1, buffer) do
    let valid ← validateHandle handle
    if !valid || bufferSize < 0 || (buffer.isNone && bufferSize ≠ 0) then
      setError .invalidArgument invalidMessage
      return (-1, buffer)
    else
      let result ← onInst handle fun inst => (implementation inst, inst)
      if result.1 < 0 then
        setError .outOfRange "The string table index is out of range."
      else if buffer.isSome && bufferSize ≤ result.1 then
        setError .bufferTooSmall tooSmallMessage
      return result

/-! ## The exported functions -/

namespace Abi

/-! Version and status.  The functions that ask for the status leave it as it is. -/

def C_GetAbiVersion : AbiM UInt32 :=
  return 1

def C_GetLastStatus : AbiM PexReaderStatus := do
  return (← get).lastAbiError.status

def C_GetLastErrorUtf8 (buffer : Option (List UInt8)) (bufferSize : Int32) :
    AbiM (Int32 × Option (List UInt8)) := do
  let message := (← get).lastAbiError.message
  if message.length > 2147483647 then
    return (-1, buffer)
  else
    let length := Int32.ofNat message.length
    return (length, copyOut 0 message length buffer bufferSize)

/-- `static const std::string Version`. -/
def version : List UInt8 :=
  "1.0.1.7".toList.flatMap String.utf8EncodeChar

def C_GetVersion : AbiM (Option (List UInt8)) :=
  invokeAbi none (return some version)

def C_GetVersionLength : AbiM Int32 :=
  invokeAbi (-1) (return Int32.ofNat version.length)

/-! Lifecycle. -/

/-- `allocated` is where `new PexData()` finds room, if it does. -/
def C_CreateInstance (allocated : Option PexReaderHandle) : AbiM PexReaderHandle :=
  invokeAbi 0 do
    match allocated with
    | some handle =>
        modify fun w => w.setInst handle (some PexReader.C_CreateInstance)
        return handle
    | none =>
        setError .outOfMemory "PexReader could not create an instance."
        return 0

def C_DestroyInstance (handle : PexReaderHandle) : AbiM Unit :=
  invokeAbi () (onInst handle fun inst => (.ok (), PexReader.C_DestroyInstance inst))

def C_ReadPex (handle : PexReaderHandle) (pexPath : Option InputFile) : AbiM Int32 :=
  pointerCall 0 handle pexPath.isNone "The PEX input path is null."
    (fun inst =>
      let outcome := PexReader.C_ReadPex inst pexPath
      (.ok outcome.1, outcome.2))
    (· = 0) .parseError "The PEX file could not be opened or parsed."

def C_ModifyStringTable (handle : PexReaderHandle) (index : UInt16)
    (utf8String : Option (List UInt8)) : AbiM Int32 :=
  pointerCall 0 handle utf8String.isNone "The replacement UTF-8 string is null."
    (fun inst => PexReader.C_ModifyStringTable inst index utf8String)
    (· = 0) .outOfRange "The string table index is out of range."

/-- The result and the destination's contents, unless nothing was opened. -/
def C_SavePex (handle : PexReaderHandle) (pexPath : Option OutputDevice) :
    AbiM (Int32 × Option (List UInt8)) :=
  pointerCall (0, none) handle pexPath.isNone "The PEX output path is null."
    (fun inst =>
      let outcome := PexReader.C_SavePex inst pexPath
      (.ok (outcome.result, outcome.destination), outcome.inst))
    (·.1 = 0) .ioError "The PEX file could not be saved."

/-- `PEX_ABI_HANDLE_VOID`: null is accepted and does nothing. -/
def C_Close (handle : PexReaderHandle) : AbiM Unit :=
  invokeAbi () do
    if handle ≠ 0 then
      onInst handle fun inst => (.ok (), PexReader.C_Close inst)

/-! Strings. -/

def C_GetStringUtf8 (handle : PexReaderHandle) (index : UInt16) (buffer : Option (List UInt8))
    (bufferSize : Int32) : AbiM (Int32 × Option (List UInt8)) :=
  stringCall handle buffer bufferSize "The UTF-8 string request is invalid."
    "The UTF-8 output buffer is too small."
    fun inst => PexReader.C_GetStringUtf8 inst index buffer bufferSize

def C_GetStringWide (mb : MultiByteToWideChar) (handle : PexReaderHandle) (index : UInt16)
    (buffer : Option (List UInt16)) (bufferSize : Int32) : AbiM (Int32 × Option (List UInt16)) :=
  stringCall handle buffer bufferSize "The UTF-16 string request is invalid."
    "The UTF-16 output buffer is too small."
    fun inst => PexReader.C_GetStringWide mb inst index buffer bufferSize

/-! Values. -/

def C_GetHeaderSourceFileName (handle : PexReaderHandle) : AbiM (List UInt16) :=
  handleReturn [] handle fun inst => .ok (PexReader.C_GetHeaderSourceFileName inst)

def C_GetHeaderUsername (handle : PexReaderHandle) : AbiM (List UInt16) :=
  handleReturn [] handle fun inst => .ok (PexReader.C_GetHeaderUsername inst)

def C_GetHeaderMachineName (handle : PexReaderHandle) : AbiM (List UInt16) :=
  handleReturn [] handle fun inst => .ok (PexReader.C_GetHeaderMachineName inst)

def C_GetHeaderMagic (handle : PexReaderHandle) : AbiM UInt32 :=
  handleReturn 0 handle fun inst => .ok (PexReader.C_GetHeaderMagic inst)

def C_GetHeaderMajorVersion (handle : PexReaderHandle) : AbiM UInt8 :=
  handleReturn 0 handle fun inst => .ok (PexReader.C_GetHeaderMajorVersion inst)

def C_GetHeaderMinorVersion (handle : PexReaderHandle) : AbiM UInt8 :=
  handleReturn 0 handle fun inst => .ok (PexReader.C_GetHeaderMinorVersion inst)

def C_GetHeaderGameId (handle : PexReaderHandle) : AbiM UInt16 :=
  handleReturn 0 handle fun inst => .ok (PexReader.C_GetHeaderGameId inst)

def C_GetHeaderCompilationTime (handle : PexReaderHandle) : AbiM UInt64 :=
  handleReturn 0 handle fun inst => .ok (PexReader.C_GetHeaderCompilationTime inst)

def C_GetStringTableCount (handle : PexReaderHandle) : AbiM UInt16 :=
  handleReturn 0 handle fun inst => .ok (PexReader.C_GetStringTableCount inst)

def C_HasDebugInfo (handle : PexReaderHandle) : AbiM UInt8 :=
  handleReturn 0 handle fun inst => .ok (PexReader.C_HasDebugInfo inst)

def C_GetDebugModificationTime (handle : PexReaderHandle) : AbiM UInt64 :=
  handleReturn 0 handle fun inst => .ok (PexReader.C_GetDebugModificationTime inst)

def C_GetDebugFunctionCount (handle : PexReaderHandle) : AbiM UInt16 :=
  handleReturn 0 handle fun inst => .ok (PexReader.C_GetDebugFunctionCount inst)

def C_GetUserFlagCount (handle : PexReaderHandle) : AbiM UInt16 :=
  handleReturn 0 handle fun inst => .ok (PexReader.C_GetUserFlagCount inst)

def C_GetObjectCount (handle : PexReaderHandle) : AbiM UInt16 :=
  handleReturn 0 handle fun inst => .ok (PexReader.C_GetObjectCount inst)

def C_GetVariableCount (handle : PexReaderHandle) (objectIndex : UInt16) : AbiM UInt16 :=
  handleReturn 0 handle fun inst => PexReader.C_GetVariableCount inst objectIndex

def C_GetPropertyCount (handle : PexReaderHandle) (objectIndex : UInt16) : AbiM UInt16 :=
  handleReturn 0 handle fun inst => PexReader.C_GetPropertyCount inst objectIndex

def C_GetStateCount (handle : PexReaderHandle) (objectIndex : UInt16) : AbiM UInt16 :=
  handleReturn 0 handle fun inst => PexReader.C_GetStateCount inst objectIndex

def C_GetFunctionParamCount (handle : PexReaderHandle)
    (objectIndex stateIndex functionIndex : UInt16) : AbiM UInt16 :=
  handleReturn 0 handle fun inst =>
    PexReader.C_GetFunctionParamCount inst objectIndex stateIndex functionIndex

def C_GetFunctionLocalCount (handle : PexReaderHandle)
    (objectIndex stateIndex functionIndex : UInt16) : AbiM UInt16 :=
  handleReturn 0 handle fun inst =>
    PexReader.C_GetFunctionLocalCount inst objectIndex stateIndex functionIndex

/-! Records.  On failure the output variables are as they were. -/

def C_GetDebugFunctionInfo (handle : PexReaderHandle) (index : UInt16) (out : DebugFunctionOut) :
    AbiM (Int32 × DebugFunctionOut) :=
  handleReturn (0, out) handle fun inst => PexReader.C_GetDebugFunctionInfo inst index out

def C_GetUserFlagInfo (handle : PexReaderHandle) (index : UInt16) (out : UserFlagOut) :
    AbiM (Int32 × UserFlagOut) :=
  handleReturn (0, out) handle fun inst => PexReader.C_GetUserFlagInfo inst index out

def C_GetObjectInfo (handle : PexReaderHandle) (index : UInt16) (out : ObjectInfoOut) :
    AbiM (Int32 × ObjectInfoOut) :=
  handleReturn (0, out) handle fun inst => PexReader.C_GetObjectInfo inst index out

def C_GetObjectData (handle : PexReaderHandle) (objectIndex : UInt16) (out : ObjectDataOut) :
    AbiM (Int32 × ObjectDataOut) :=
  handleReturn (0, out) handle fun inst => PexReader.C_GetObjectData inst objectIndex out

def C_GetVariableInfo (handle : PexReaderHandle) (objectIndex variableIndex : UInt16)
    (out : VariableOut) : AbiM (Int32 × VariableOut) :=
  handleReturn (0, out) handle fun inst =>
    PexReader.C_GetVariableInfo inst objectIndex variableIndex out

def C_GetPropertyInfo (handle : PexReaderHandle) (objectIndex propertyIndex : UInt16)
    (out : PropertyOut) : AbiM (Int32 × PropertyOut) :=
  handleReturn (0, out) handle fun inst =>
    PexReader.C_GetPropertyInfo inst objectIndex propertyIndex out

def C_GetStateInfo (handle : PexReaderHandle) (objectIndex stateIndex : UInt16)
    (out : StateOut) : AbiM (Int32 × StateOut) :=
  handleReturn (0, out) handle fun inst => PexReader.C_GetStateInfo inst objectIndex stateIndex out

def C_GetStateFunctionInfo (handle : PexReaderHandle)
    (objectIndex stateIndex functionIndex : UInt16) (out : StateFunctionOut) :
    AbiM (Int32 × StateFunctionOut) :=
  handleReturn (0, out) handle fun inst =>
    PexReader.C_GetStateFunctionInfo inst objectIndex stateIndex functionIndex out

def C_GetInstructionInfo (handle : PexReaderHandle)
    (objectIndex stateIndex functionIndex instructionIndex : UInt16) (out : InstructionOut) :
    AbiM (Int32 × InstructionOut) :=
  handleReturn (0, out) handle fun inst =>
    PexReader.C_GetInstructionInfo inst objectIndex stateIndex functionIndex instructionIndex out

def C_GetInstructionArgument (handle : PexReaderHandle)
    (objectIndex stateIndex functionIndex instructionIndex argumentIndex : UInt16)
    (out : ArgumentOut) : AbiM (Int32 × ArgumentOut) :=
  handleReturn (0, out) handle fun inst =>
    PexReader.C_GetInstructionArgument inst objectIndex stateIndex functionIndex instructionIndex
      argumentIndex out

def C_GetFunctionParamInfo (handle : PexReaderHandle)
    (objectIndex stateIndex functionIndex parameterIndex : UInt16) (out : VariableTypeOut) :
    AbiM (Int32 × VariableTypeOut) :=
  handleReturn (0, out) handle fun inst =>
    PexReader.C_GetFunctionParamInfo inst objectIndex stateIndex functionIndex parameterIndex out

def C_GetFunctionLocalInfo (handle : PexReaderHandle)
    (objectIndex stateIndex functionIndex localIndex : UInt16) (out : VariableTypeOut) :
    AbiM (Int32 × VariableTypeOut) :=
  handleReturn (0, out) handle fun inst =>
    PexReader.C_GetFunctionLocalInfo inst objectIndex stateIndex functionIndex localIndex out

/-- The line-number array is the caller's, and nothing else refers to it. -/
def C_FreeBuffer (_buffer : Option (List UInt16)) : AbiM Unit :=
  invokeAbi () (return ())

end Abi

end PexReader
