import PexReader.Model.AbiCalls

/-!
# Replies — what the exported functions give back to their caller

`AbiCall.exec` follows the state behind a call.  Here each call has its own type of replies: the
result and the output variables or buffers that the function leaves to its caller.
-/

namespace PexReader

/-- The output variables of a getter of records. -/
abbrev RecordCall.Out : RecordCall → Type
  | getDebugFunctionInfo _ _ => DebugFunctionOut
  | getUserFlagInfo _ _ => UserFlagOut
  | getObjectInfo _ _ => ObjectInfoOut
  | getObjectData _ _ => ObjectDataOut
  | getVariableInfo _ _ _ => VariableOut
  | getPropertyInfo _ _ _ => PropertyOut
  | getStateInfo _ _ _ => StateOut
  | getStateFunctionInfo _ _ _ _ => StateFunctionOut
  | getInstructionInfo _ _ _ _ _ => InstructionOut
  | getInstructionArgument _ _ _ _ _ _ => ArgumentOut
  | getFunctionParamInfo _ _ _ _ _ => VariableTypeOut
  | getFunctionLocalInfo _ _ _ _ _ => VariableTypeOut

def RecordCall.call (handle : PexReaderHandle) : (call : RecordCall) → AbiM (Int32 × call.Out)
  | getDebugFunctionInfo index out => Abi.C_GetDebugFunctionInfo handle index out
  | getUserFlagInfo index out => Abi.C_GetUserFlagInfo handle index out
  | getObjectInfo index out => Abi.C_GetObjectInfo handle index out
  | getObjectData o out => Abi.C_GetObjectData handle o out
  | getVariableInfo o v out => Abi.C_GetVariableInfo handle o v out
  | getPropertyInfo o p out => Abi.C_GetPropertyInfo handle o p out
  | getStateInfo o s out => Abi.C_GetStateInfo handle o s out
  | getStateFunctionInfo o s f out => Abi.C_GetStateFunctionInfo handle o s f out
  | getInstructionInfo o s f i out => Abi.C_GetInstructionInfo handle o s f i out
  | getInstructionArgument o s f i a out => Abi.C_GetInstructionArgument handle o s f i a out
  | getFunctionParamInfo o s f p out => Abi.C_GetFunctionParamInfo handle o s f p out
  | getFunctionLocalInfo o s f l out => Abi.C_GetFunctionLocalInfo handle o s f l out

abbrev CodeCall.Reply : CodeCall → Type
  | readPex _ _ => Int32
  | modifyStringTable _ _ _ => Int32
  | savePex _ _ => Int32 × Option (List UInt8)
  | getStringUtf8 _ _ _ _ => Int32 × Option (List UInt8)
  | getStringWide _ _ _ _ => Int32 × Option (List UInt16)
  | record _ call => Int32 × call.Out

abbrev ValueCall.Reply : ValueCall → Type
  | getHeaderSourceFileName => List UInt16
  | getHeaderUsername => List UInt16
  | getHeaderMachineName => List UInt16
  | getHeaderMagic => UInt32
  | getHeaderMajorVersion => UInt8
  | getHeaderMinorVersion => UInt8
  | getHeaderGameId => UInt16
  | getHeaderCompilationTime => UInt64
  | getStringTableCount => UInt16
  | hasDebugInfo => UInt8
  | getDebugModificationTime => UInt64
  | getDebugFunctionCount => UInt16
  | getUserFlagCount => UInt16
  | getObjectCount => UInt16
  | getVariableCount _ => UInt16
  | getPropertyCount _ => UInt16
  | getStateCount _ => UInt16
  | getFunctionParamCount _ _ _ => UInt16
  | getFunctionLocalCount _ _ _ => UInt16

def ValueCall.call (handle : PexReaderHandle) : (call : ValueCall) → AbiM call.Reply
  | getHeaderSourceFileName => Abi.C_GetHeaderSourceFileName handle
  | getHeaderUsername => Abi.C_GetHeaderUsername handle
  | getHeaderMachineName => Abi.C_GetHeaderMachineName handle
  | getHeaderMagic => Abi.C_GetHeaderMagic handle
  | getHeaderMajorVersion => Abi.C_GetHeaderMajorVersion handle
  | getHeaderMinorVersion => Abi.C_GetHeaderMinorVersion handle
  | getHeaderGameId => Abi.C_GetHeaderGameId handle
  | getHeaderCompilationTime => Abi.C_GetHeaderCompilationTime handle
  | getStringTableCount => Abi.C_GetStringTableCount handle
  | hasDebugInfo => Abi.C_HasDebugInfo handle
  | getDebugModificationTime => Abi.C_GetDebugModificationTime handle
  | getDebugFunctionCount => Abi.C_GetDebugFunctionCount handle
  | getUserFlagCount => Abi.C_GetUserFlagCount handle
  | getObjectCount => Abi.C_GetObjectCount handle
  | getVariableCount o => Abi.C_GetVariableCount handle o
  | getPropertyCount o => Abi.C_GetPropertyCount handle o
  | getStateCount o => Abi.C_GetStateCount handle o
  | getFunctionParamCount o s f => Abi.C_GetFunctionParamCount handle o s f
  | getFunctionLocalCount o s f => Abi.C_GetFunctionLocalCount handle o s f

abbrev AbiCall.Reply : AbiCall → Type
  | getAbiVersion => UInt32
  | getLastStatus => PexReaderStatus
  | getLastErrorUtf8 _ _ => Int32 × Option (List UInt8)
  | getVersion => Option (List UInt8)
  | getVersionLength => Int32
  | createInstance _ => PexReaderHandle
  | destroyInstance _ => Unit
  | close _ => Unit
  | code call => call.Reply
  | value _ call => call.Reply
  | freeBuffer _ => Unit

section

variable (mb : MultiByteToWideChar)

def CodeCall.call : (call : CodeCall) → AbiM call.Reply
  | readPex handle pexPath => Abi.C_ReadPex handle pexPath
  | modifyStringTable handle index utf8String => Abi.C_ModifyStringTable handle index utf8String
  | savePex handle pexPath => Abi.C_SavePex handle pexPath
  | getStringUtf8 handle index buffer bufferSize =>
      Abi.C_GetStringUtf8 handle index buffer bufferSize
  | getStringWide handle index buffer bufferSize =>
      Abi.C_GetStringWide mb handle index buffer bufferSize
  | record handle call => call.call handle

def AbiCall.call : (call : AbiCall) → AbiM call.Reply
  | getAbiVersion => Abi.C_GetAbiVersion
  | getLastStatus => Abi.C_GetLastStatus
  | getLastErrorUtf8 buffer bufferSize => Abi.C_GetLastErrorUtf8 buffer bufferSize
  | getVersion => Abi.C_GetVersion
  | getVersionLength => Abi.C_GetVersionLength
  | createInstance allocated => Abi.C_CreateInstance allocated
  | destroyInstance handle => Abi.C_DestroyInstance handle
  | close handle => Abi.C_Close handle
  | code call => call.call mb
  | value handle call => call.call handle
  | freeBuffer buffer => Abi.C_FreeBuffer buffer

end

end PexReader
