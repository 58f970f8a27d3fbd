import PexReader.Model.Reader

/-!
# Load — the reading half of `PexHelper.cpp`

One definition for each `Read*` member of `PexData`, in the order of the source.  Members that fill
a record in place return it here; a record the parse leaves unfinished is never seen, because
`Load` reads into a local `PexData` and moves it out at the end.

The source repeats three statements for every counted vector (`ValidateCount`, `resize`, the
filling loop); they are `readElements`.
-/

namespace PexReader

open BigEndian Metered PexBinaryReader

/-- `reader.ValidateCount(count, minimum, context)`, `resize(count)` and the loop that fills the
vector. -/
def readElements {α : Type} (count : UInt16) (minimumBytesPerElement : UInt64) (context : String)
    (element : ReadM α) : ReadM (List α) := do
  validateCount count.toUInt64 minimumBytesPerElement context
  readLoop count.toNat element

/-! ## Header, strings, debug info, user flags -/

def readHeader : ReadM RecordHeader := do
  let magic ← readUInt32BE
  if magic ≠ 0xFA57C0DE then
    throw (.runtimeError "Invalid PEX file format (Magic number error)")
  else
    let majorVersion ← readUInt8
    let minorVersion ← readUInt8
    let gameId ← readUInt16BE
    let compilationTime ← readUInt64BE
    let sourceFileName ← readWString
    let username ← readWString
    let machinename ← readWString
    return { magic, majorVersion, minorVersion, gameId, compilationTime, sourceFileName,
             username, machinename }

def readStringTable : ReadM StringTable := do
  let count ← readUInt16BE
  let strings ← readElements count 2 "String table count" readBytes
  return { count, strings }

def readDebugFunction : ReadM DebugFunction := do
  let objectNameIndex ← readUInt16BE
  let stateNameIndex ← readUInt16BE
  let functionNameIndex ← readUInt16BE
  let functionType ← readUInt8
  let instructionCount ← readUInt16BE
  let lineNumbers ← readElements instructionCount 2 "Debug line-number count" readUInt16BE
  return { objectNameIndex, stateNameIndex, functionNameIndex, functionType, instructionCount,
           lineNumbers }

def readDebugInfo : ReadM DebugInfo := do
  let hasDebugInfo ← readUInt8
  if hasDebugInfo > 1 then
    throw (.runtimeError "Debug info flag is invalid.")
  else if hasDebugInfo ≠ 0 then
    let modificationTime ← readUInt64BE
    let functionCount ← readUInt16BE
    let functions ← readElements functionCount 9 "Debug function count" readDebugFunction
    return { hasDebugInfo, modificationTime, functionCount, functions }
  else
    -- The other fields keep the values of the constructor.
    return { hasDebugInfo }

def readUserFlag : ReadM UserFlag := do
  let flagNameIndex ← readUInt16BE
  let flagIndex ← readUInt8
  return { flagNameIndex, flagIndex }

/-- `userFlagCount` and `userFlags`. -/
def readUserFlags : ReadM (UInt16 × List UserFlag) := do
  let userFlagCount ← readUInt16BE
  let userFlags ← readElements userFlagCount 3 "User flag count" readUserFlag
  return (userFlagCount, userFlags)

/-! ## Values and instructions -/

def readVariableData (integer_unsigned : Bool) : ReadM VariableData := do
  let position ← readerPosition
  let type ← readUInt8
  if type = 0 then
    -- `data.data` keeps its default, `uint16_t` 0.
    return { type }
  else if type = 1 ∨ type = 2 then
    let value ← readUInt16BE
    return { type, data := .uint16 value }
  else if type = 3 then
    if integer_unsigned then
      let unsignedValue ← readUInt32BE
      return { type, data := .int32 unsignedValue.toInt32 }
    else
      let value ← readInt32BE
      return { type, data := .int32 value }
  else if type = 4 then
    let bits ← readFloatBE
    return { type, data := .float bits }
  else if type = 5 then
    let value ← readUInt8
    return { type, data := .uint8 value }
  else
    throw (.runtimeError ("Unknown variable data type: " ++ toString type.toNat ++
      " at file position: " ++ toString position.toNat))

def maxCallArgumentCount : Int32 := 4096

def readCallArgumentCount (argumentCountData : VariableData) : ReadM UInt16 := do
  if argumentCountData.type ≠ 3 then
    throw (.runtimeError "Call argument count is not encoded as an integer.")
  else
    let count ← MonadExcept.ofExcept argumentCountData.data.getInt32
    if count < 0 ∨ count > maxCallArgumentCount then
      throw (.runtimeError "Call argument count exceeds the configured limit.")
    else
      validateCount count.toInt64.toUInt64 1 "Call argument count"
      return count.toUInt32.toUInt16

def getOpcodeArgumentCount (op : Opcode) : Except StdException UInt64 :=
  match op with
  | .nop => .ok 0
  | .iadd | .fadd | .isub | .fsub | .imul | .fmul | .idiv | .fdiv | .imod
  | .cmp_eq | .cmp_lt | .cmp_le | .cmp_gt | .cmp_ge
  | .strcat | .propget | .propset | .array_getelement | .array_setelement => .ok 3
  | .not_ | .ineg | .fneg | .assign | .cast | .jmpt | .jmpf
  | .array_create | .array_length => .ok 2
  | .jmp | .return_ => .ok 1
  | .array_findelement | .array_rfindelement => .ok 4
  | _ => .error (.runtimeError "Instruction opcode is invalid.")

/-- The three call branches of `ReadInstruction`: `leading` values, the argument count, and that
many further arguments. -/
def readCallArguments (leading : UInt64) (context : String) : ReadM (List VariableData) := do
  validateCount (leading + 1) 1 context
  let header ← readLoop leading.toNat (readVariableData false)
  -- The count is one of the arguments that are kept.
  let argCountData ← readVariableData false
  let argCount ← readCallArgumentCount argCountData
  let args ← readLoop argCount.toNat (readVariableData false)
  return header ++ argCountData :: args

def readArguments (op : Opcode) : ReadM (List VariableData) :=
  match op with
  | .nop => return []
  -- result, self, methodName
  | .callmethod => readCallArguments 3 "Call method header arguments"
  -- result, methodName
  | .callparent => readCallArguments 2 "Call parent header arguments"
  -- result, className, methodName
  | .callstatic => readCallArguments 3 "Call static header arguments"
  | op => do
      let argCount ← MonadExcept.ofExcept (getOpcodeArgumentCount op)
      validateCount argCount 1 "Instruction argument count"
      readLoop argCount.toNat (readVariableData false)

def readInstruction : ReadM Instruction := do
  let opcode ← readUInt8
  if opcode > Opcode.array_rfindelement.toUInt8 then
    throw (.runtimeError "Instruction opcode is invalid.")
  else
    let op := Opcode.ofUInt8 opcode
    let arguments ← readArguments op
    return { op, arguments }

/-! ## Functions, properties, states -/

def readVariableType : ReadM VariableType := do
  let name ← readUInt16BE
  let type ← readUInt16BE
  return { name, type }

def readFunction : ReadM Function := do
  let returnType ← readUInt16BE
  let docString ← readUInt16BE
  let userFlags ← readUInt32BE
  let flags ← readUInt8
  let numParams ← readUInt16BE
  let params ← readElements numParams 4 "Function parameter count" readVariableType
  let numLocals ← readUInt16BE
  let locals ← readElements numLocals 4 "Function local count" readVariableType
  let numInstructions ← readUInt16BE
  let instructions ← readElements numInstructions 1 "Function instruction count" readInstruction
  return { returnType, docString, userFlags, flags, numParams, params, numLocals, locals,
           numInstructions, instructions }

def readVariable : ReadM Variable := do
  let name ← readUInt16BE
  let typeName ← readUInt16BE
  let userFlags ← readUInt32BE
  let data ← readVariableData true
  return { name, typeName, userFlags, data }

def readProperty : ReadM Property := do
  let name ← readUInt16BE
  let type ← readUInt16BE
  let docstring ← readUInt16BE
  let userFlags ← readUInt32BE
  let flags ← readUInt8
  -- Each optional part has a mask of its own; what is not read stays default.
  let autoVarName ← (if flags &&& 4 ≠ 0 then readUInt16BE else pure 0)
  let readHandler ← (if flags &&& 5 = 1 then readFunction else pure {})
  let writeHandler ← (if flags &&& 6 = 2 then readFunction else pure {})
  return { name, type, docstring, userFlags, flags, autoVarName, readHandler, writeHandler }

def readNamedFunction : ReadM NamedFunction := do
  let functionName ← readUInt16BE
  let function ← readFunction
  return { functionName, function }

def readState : ReadM State := do
  let name ← readUInt16BE
  let numFunctions ← readUInt16BE
  let functions ← readElements numFunctions 17 "State function count" readNamedFunction
  return { name, numFunctions, functions }

/-! ## Objects -/

def readObjectData : ReadM ObjectData := do
  let parentClassName ← readUInt16BE
  let docString ← readUInt16BE
  let userFlags ← readUInt32BE
  let autoStateName ← readUInt16BE
  let numVariables ← readUInt16BE
  let vars ← readElements numVariables 9 "Object variable count" readVariable
  let numProperties ← readUInt16BE
  let properties ← readElements numProperties 11 "Object property count" readProperty
  let numStates ← readUInt16BE
  let states ← readElements numStates 4 "Object state count" readState
  return { parentClassName, docString, userFlags, autoStateName, numVariables, vars,
           numProperties, properties, numStates, states }

/-- The test `dataSize > reader.Remaining()` of `ReadObjects`. -/
def checkDataSize (dataSize : UInt32) : ReadM Unit := do
  let guards ← readThe SizeGuards
  let reader ← get
  if guards = .enforced ∧ dataSize.toUInt64 > reader.remaining then
    throw (.runtimeError "Object data size exceeds the remaining PEX input.")
  else
    pure ()

/-- The loop body of `ReadObjects`. The `size` field itself occupies 4 bytes, so the actual size of
the object data is `size - 4`. -/
def readObject : ReadM Object := do
  let nameIndex ← readUInt16BE
  let size ← readUInt32BE
  if size < 4 then
    throw (.runtimeError "Object size field is invalid (less than 4).")
  else
    let dataSize := size - 4
    checkDataSize dataSize
    -- `objects.emplace_back(nameIndex, size)`, whose data is filled in place.
    let objectDataStart ← readerPosition
    let data ← readObjectData
    let objectDataEnd ← readerPosition
    if objectDataEnd - objectDataStart ≠ dataSize.toUInt64 then
      throw (.runtimeError "Object size does not match the parsed object data.")
    else
      return { nameIndex, size, data }

/-- `objectCount` and `objects`. -/
def readObjects : ReadM (UInt16 × List Object) := do
  let objectCount ← readUInt16BE
  let objects ← readElements objectCount 6 "Object count" readObject
  return (objectCount, objects)

/-! ## The whole file -/

/-- The five section readers in the order `Load` calls them. -/
def readSections : ReadM PexData := do
  let header ← readHeader
  let stringTable ← readStringTable
  let debugInfo ← readDebugInfo
  let (userFlagCount, userFlags) ← readUserFlags
  let (objectCount, objects) ← readObjects
  return { header, stringTable, debugInfo, userFlagCount, userFlags, objectCount, objects }

/-- `Load` up to its last statement: the parsed script and the reader as the parse left it. -/
def parseFile (guards : SizeGuards) (file : InputFile) :
    Except StdException (PexData × PexBinaryReader) :=
  if !file.isOpen then
    .error (.runtimeError "Open File Error")
  else
    match PexBinaryReader.ofFile file with
    | .error exception => .error exception
    | .ok reader =>
        match readSections guards reader with
        | .ok parsed reader => .ok (parsed, reader)
        -- The catch block reads the position as the failed parse left it.
        | .error exception reader =>
            .error (.runtimeError ("PEX parse failed at byte " ++ toString reader.position.toNat ++
              ": " ++ exception.what))

/-- `PexData::Load`: the object is replaced as a whole, and only when the parse succeeded. -/
def PexData.load (self : PexData) (file : InputFile) : EStateM.Result StdException PexData Unit :=
  match parseFile .enforced file with
  -- `*this = std::move(parsed)`, whatever the reader has left.
  | .ok (parsed, _) => .ok () parsed
  | .error exception => .error exception self

end PexReader
