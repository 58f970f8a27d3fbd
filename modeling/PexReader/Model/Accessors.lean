import PexReader.Format.Lookup
import PexReader.Model.Types

/-!
# Accessors — the getters of `PexReader.cpp`

Each getter compares its indices with stored counts and then indexes the vectors without a check.

* An output pointer is `none` when it is null, else the caller's variable.  The output pointers of a
  call form a record with a `fill` that stores the fields of an element through them.
* A getter returns its result code and the output variables afterwards; an access past the end of a
  vector and a `std::get` of the wrong alternative are faults.
-/

namespace PexReader

open Lookup

/-! ## Output pointers -/

/-- `if (p) *p = value`. -/
def store {α : Type} (p : Option α) (value : α) : Option α :=
  p.map fun _ => value

/-- The union that receives a value, by its active member. -/
inductive PexReaderValue
  | stringTableIndex (value : UInt16)
  | integer (value : Int32)
  | real (bits : UInt32)
  | boolean (value : UInt8)
  deriving DecidableEq, Repr

/-- `if (p) switch (type)`, with a `std::get` in each case. -/
def storeValue (p : Option PexReaderValue) (d : VariableData) :
    Except Fault (Option PexReaderValue) :=
  match p with
  | none => .ok none
  | some old =>
      let value : Except StdException PexReaderValue :=
        -- `std::get` throws when the variant holds another alternative than the tag says.
        if d.type = 1 ∨ d.type = 2 then d.data.getUInt16.map .stringTableIndex
        else if d.type = 3 then d.data.getInt32.map .integer
        else if d.type = 4 then d.data.getFloat.map .real
        else if d.type = 5 then d.data.getUInt8.map .boolean
        else .ok old
      (value.mapError Fault.thrown).map some

/-! ## Searches -/

/-- `if (index >= count) return 0;`, then `vector[index]`. -/
def elementAt {α : Type} (vector : List α) (count index : UInt16) : Search Fault α :=
  checked .outOfBounds vector count.toNat index.toNat

def debugFunctionAt (inst : Option PexData) (index : UInt16) : Search Fault DebugFunction := do
  let self ← found inst
  elementAt self.debugInfo.functions self.debugInfo.functionCount index

def userFlagAt (inst : Option PexData) (index : UInt16) : Search Fault UserFlag := do
  let self ← found inst
  elementAt self.userFlags self.userFlagCount index

def objectAt (inst : Option PexData) (objectIndex : UInt16) : Search Fault Object := do
  let self ← found inst
  elementAt self.objects self.objectCount objectIndex

def variableAt (inst : Option PexData) (objectIndex varIndex : UInt16) : Search Fault Variable := do
  let obj ← objectAt inst objectIndex
  elementAt obj.data.vars obj.data.numVariables varIndex

def propertyAt (inst : Option PexData) (objectIndex propIndex : UInt16) :
    Search Fault Property := do
  let obj ← objectAt inst objectIndex
  elementAt obj.data.properties obj.data.numProperties propIndex

def stateAt (inst : Option PexData) (objectIndex stateIndex : UInt16) : Search Fault State := do
  let obj ← objectAt inst objectIndex
  elementAt obj.data.states obj.data.numStates stateIndex

def namedFunctionAt (inst : Option PexData) (objectIndex stateIndex funcIndex : UInt16) :
    Search Fault NamedFunction := do
  let state ← stateAt inst objectIndex stateIndex
  elementAt state.functions state.numFunctions funcIndex

def paramAt (inst : Option PexData) (objectIndex stateIndex funcIndex paramIndex : UInt16) :
    Search Fault VariableType := do
  let namedFunc ← namedFunctionAt inst objectIndex stateIndex funcIndex
  elementAt namedFunc.function.params namedFunc.function.numParams paramIndex

def localAt (inst : Option PexData) (objectIndex stateIndex funcIndex localIndex : UInt16) :
    Search Fault VariableType := do
  let namedFunc ← namedFunctionAt inst objectIndex stateIndex funcIndex
  elementAt namedFunc.function.locals namedFunc.function.numLocals localIndex

def instructionAt (inst : Option PexData) (objectIndex stateIndex funcIndex instrIndex : UInt16) :
    Search Fault Instruction := do
  let namedFunc ← namedFunctionAt inst objectIndex stateIndex funcIndex
  elementAt namedFunc.function.instructions namedFunc.function.numInstructions instrIndex

/-- The argument index is compared with the size itself. -/
def argumentAt (inst : Option PexData)
    (objectIndex stateIndex funcIndex instrIndex argIndex : UInt16) :
    Search Fault VariableData := do
  let instr ← instructionAt inst objectIndex stateIndex funcIndex instrIndex
  checked .outOfBounds instr.arguments instr.arguments.length argIndex.toNat

/-- What a count getter returns: 0 for a refused index. -/
def countOf {α : Type} (search : Search Fault α) (count : α → UInt16) : Except Fault UInt16 := do
  match ← search.run with
  | none => return 0
  | some x => return count x

/-! ## Header and string table

The string getters return a pointer to a copy that belongs to the thread; here its contents. -/

def C_GetHeaderSourceFileName (inst : Option PexData) : List UInt16 :=
  match inst with
  | none => []
  | some self => self.header.sourceFileName

def C_GetHeaderUsername (inst : Option PexData) : List UInt16 :=
  match inst with
  | none => []
  | some self => self.header.username

def C_GetHeaderMachineName (inst : Option PexData) : List UInt16 :=
  match inst with
  | none => []
  | some self => self.header.machinename

def C_GetHeaderMagic (inst : Option PexData) : UInt32 :=
  match inst with
  | none => 0
  | some self => self.header.magic

def C_GetHeaderMajorVersion (inst : Option PexData) : UInt8 :=
  match inst with
  | none => 0
  | some self => self.header.majorVersion

def C_GetHeaderMinorVersion (inst : Option PexData) : UInt8 :=
  match inst with
  | none => 0
  | some self => self.header.minorVersion

def C_GetHeaderGameId (inst : Option PexData) : UInt16 :=
  match inst with
  | none => 0
  | some self => self.header.gameId

def C_GetHeaderCompilationTime (inst : Option PexData) : UInt64 :=
  match inst with
  | none => 0
  | some self => self.header.compilationTime

def C_GetStringTableCount (inst : Option PexData) : UInt16 :=
  match inst with
  | none => 0
  | some self => self.stringTable.count

/-! ## Debug info -/

def C_HasDebugInfo (inst : Option PexData) : UInt8 :=
  match inst with
  | none => 0
  | some self => self.debugInfo.hasDebugInfo

def C_GetDebugModificationTime (inst : Option PexData) : UInt64 :=
  match inst with
  | none => 0
  | some self => self.debugInfo.modificationTime

def C_GetDebugFunctionCount (inst : Option PexData) : UInt16 :=
  match inst with
  | none => 0
  | some self => self.debugInfo.functionCount

/-- `lineNumbers` points to a pointer: to nothing, or to an array the caller owns. -/
structure DebugFunctionOut where
  objectNameIndex : Option UInt16
  stateNameIndex : Option UInt16
  functionNameIndex : Option UInt16
  functionType : Option UInt8
  lineNumbers : Option (Option (List UInt16))
  lineCount : Option Int32

namespace DebugFunctionOut

/-- `if (LineNumbers) *LineNumbers = nullptr; if (LineCount) *LineCount = 0;`. -/
def reset (out : DebugFunctionOut) : DebugFunctionOut :=
  { out with lineNumbers := store out.lineNumbers none, lineCount := store out.lineCount 0 }

/-- `CopyLineNumbers`: null for an empty vector. -/
def copyLineNumbers (lineNumbers : List UInt16) : Option (List UInt16) :=
  if lineNumbers = [] then none else some lineNumbers

def fill (out : DebugFunctionOut) (func : DebugFunction) : DebugFunctionOut where
  objectNameIndex := store out.objectNameIndex func.objectNameIndex
  stateNameIndex := store out.stateNameIndex func.stateNameIndex
  functionNameIndex := store out.functionNameIndex func.functionNameIndex
  functionType := store out.functionType func.functionType
  -- The two are written together or not at all.
  lineNumbers :=
    if out.lineCount.isSome then store out.lineNumbers (copyLineNumbers func.lineNumbers)
    else out.lineNumbers
  lineCount :=
    if out.lineNumbers.isSome then store out.lineCount (Int32.ofNat func.lineNumbers.length)
    else out.lineCount

end DebugFunctionOut

def C_GetDebugFunctionInfo (inst : Option PexData) (index : UInt16) (out : DebugFunctionOut) :
    Except Fault (Int32 × DebugFunctionOut) :=
  report (debugFunctionAt inst index) out.reset fun func => .ok (out.reset.fill func)

/-! ## User flags -/

def C_GetUserFlagCount (inst : Option PexData) : UInt16 :=
  match inst with
  | none => 0
  | some self => self.userFlagCount

structure UserFlagOut where
  flagNameIndex : Option UInt16
  flagIndex : Option UInt8

def UserFlagOut.fill (out : UserFlagOut) (flag : UserFlag) : UserFlagOut where
  flagNameIndex := store out.flagNameIndex flag.flagNameIndex
  flagIndex := store out.flagIndex flag.flagIndex

def C_GetUserFlagInfo (inst : Option PexData) (index : UInt16) (out : UserFlagOut) :
    Except Fault (Int32 × UserFlagOut) :=
  report (userFlagAt inst index) out fun flag => .ok (out.fill flag)

/-! ## Objects -/

def C_GetObjectCount (inst : Option PexData) : UInt16 :=
  match inst with
  | none => 0
  | some self => self.objectCount

structure ObjectInfoOut where
  nameIndex : Option UInt16
  size : Option UInt32

def ObjectInfoOut.fill (out : ObjectInfoOut) (obj : Object) : ObjectInfoOut where
  nameIndex := store out.nameIndex obj.nameIndex
  size := store out.size obj.size

def C_GetObjectInfo (inst : Option PexData) (index : UInt16) (out : ObjectInfoOut) :
    Except Fault (Int32 × ObjectInfoOut) :=
  report (objectAt inst index) out fun obj => .ok (out.fill obj)

structure ObjectDataOut where
  parentClassName : Option UInt16
  docString : Option UInt16
  userFlags : Option UInt32
  autoStateName : Option UInt16

def ObjectDataOut.fill (out : ObjectDataOut) (data : ObjectData) : ObjectDataOut where
  parentClassName := store out.parentClassName data.parentClassName
  docString := store out.docString data.docString
  userFlags := store out.userFlags data.userFlags
  autoStateName := store out.autoStateName data.autoStateName

def C_GetObjectData (inst : Option PexData) (objectIndex : UInt16) (out : ObjectDataOut) :
    Except Fault (Int32 × ObjectDataOut) :=
  report (objectAt inst objectIndex) out fun obj => .ok (out.fill obj.data)

/-! ## Variables -/

def C_GetVariableCount (inst : Option PexData) (objectIndex : UInt16) : Except Fault UInt16 :=
  countOf (objectAt inst objectIndex) fun obj => obj.data.numVariables

structure VariableOut where
  name : Option UInt16
  typeName : Option UInt16
  userFlags : Option UInt32
  dataType : Option UInt8
  dataValue : Option PexReaderValue

def VariableOut.fill (out : VariableOut) (var : Variable) : Except Fault VariableOut := do
  return {
    name := store out.name var.name
    typeName := store out.typeName var.typeName
    userFlags := store out.userFlags var.userFlags
    dataType := store out.dataType var.data.type
    dataValue := ← storeValue out.dataValue var.data }

def C_GetVariableInfo (inst : Option PexData) (objectIndex varIndex : UInt16) (out : VariableOut) :
    Except Fault (Int32 × VariableOut) :=
  report (variableAt inst objectIndex varIndex) out out.fill

/-! ## Properties -/

def C_GetPropertyCount (inst : Option PexData) (objectIndex : UInt16) : Except Fault UInt16 :=
  countOf (objectAt inst objectIndex) fun obj => obj.data.numProperties

structure PropertyOut where
  name : Option UInt16
  type : Option UInt16
  docstring : Option UInt16
  userFlags : Option UInt32
  flags : Option UInt8
  autoVarName : Option UInt16

def PropertyOut.fill (out : PropertyOut) (prop : Property) : PropertyOut where
  name := store out.name prop.name
  type := store out.type prop.type
  docstring := store out.docstring prop.docstring
  userFlags := store out.userFlags prop.userFlags
  flags := store out.flags prop.flags
  autoVarName := store out.autoVarName prop.autoVarName

def C_GetPropertyInfo (inst : Option PexData) (objectIndex propIndex : UInt16)
    (out : PropertyOut) : Except Fault (Int32 × PropertyOut) :=
  report (propertyAt inst objectIndex propIndex) out fun prop => .ok (out.fill prop)

/-! ## States -/

def C_GetStateCount (inst : Option PexData) (objectIndex : UInt16) : Except Fault UInt16 :=
  countOf (objectAt inst objectIndex) fun obj => obj.data.numStates

structure StateOut where
  name : Option UInt16
  numFunctions : Option UInt16

def StateOut.fill (out : StateOut) (state : State) : StateOut where
  name := store out.name state.name
  numFunctions := store out.numFunctions state.numFunctions

def C_GetStateInfo (inst : Option PexData) (objectIndex stateIndex : UInt16) (out : StateOut) :
    Except Fault (Int32 × StateOut) :=
  report (stateAt inst objectIndex stateIndex) out fun state => .ok (out.fill state)

/-! ## Functions -/

structure StateFunctionOut where
  functionName : Option UInt16
  returnType : Option UInt16
  docString : Option UInt16
  userFlags : Option UInt32
  flags : Option UInt8
  numParams : Option UInt16
  numLocals : Option UInt16
  numInstructions : Option UInt16

def StateFunctionOut.fill (out : StateFunctionOut) (namedFunc : NamedFunction) :
    StateFunctionOut where
  functionName := store out.functionName namedFunc.functionName
  returnType := store out.returnType namedFunc.function.returnType
  docString := store out.docString namedFunc.function.docString
  userFlags := store out.userFlags namedFunc.function.userFlags
  flags := store out.flags namedFunc.function.flags
  numParams := store out.numParams namedFunc.function.numParams
  numLocals := store out.numLocals namedFunc.function.numLocals
  numInstructions := store out.numInstructions namedFunc.function.numInstructions

def C_GetStateFunctionInfo (inst : Option PexData) (objectIndex stateIndex funcIndex : UInt16)
    (out : StateFunctionOut) : Except Fault (Int32 × StateFunctionOut) :=
  report (namedFunctionAt inst objectIndex stateIndex funcIndex) out fun namedFunc =>
    .ok (out.fill namedFunc)

/-! ## Instructions -/

structure InstructionOut where
  opcode : Option UInt8
  argCount : Option UInt16

/-- The count is narrowed to 16 bits. -/
def InstructionOut.fill (out : InstructionOut) (instr : Instruction) : InstructionOut where
  opcode := store out.opcode instr.op.toUInt8
  argCount := store out.argCount (UInt16.ofNat instr.arguments.length)

def C_GetInstructionInfo (inst : Option PexData)
    (objectIndex stateIndex funcIndex instrIndex : UInt16) (out : InstructionOut) :
    Except Fault (Int32 × InstructionOut) :=
  report (instructionAt inst objectIndex stateIndex funcIndex instrIndex) out fun instr =>
    .ok (out.fill instr)

structure ArgumentOut where
  type : Option UInt8
  value : Option PexReaderValue

def ArgumentOut.fill (out : ArgumentOut) (arg : VariableData) : Except Fault ArgumentOut := do
  return { type := store out.type arg.type, value := ← storeValue out.value arg }

def C_GetInstructionArgument (inst : Option PexData)
    (objectIndex stateIndex funcIndex instrIndex argIndex : UInt16) (out : ArgumentOut) :
    Except Fault (Int32 × ArgumentOut) :=
  report (argumentAt inst objectIndex stateIndex funcIndex instrIndex argIndex) out out.fill

/-! ## Function parameters and locals -/

structure VariableTypeOut where
  name : Option UInt16
  type : Option UInt16

def VariableTypeOut.fill (out : VariableTypeOut) (var : VariableType) : VariableTypeOut where
  name := store out.name var.name
  type := store out.type var.type

def C_GetFunctionParamCount (inst : Option PexData) (objectIndex stateIndex funcIndex : UInt16) :
    Except Fault UInt16 :=
  countOf (namedFunctionAt inst objectIndex stateIndex funcIndex) fun namedFunc =>
    namedFunc.function.numParams

def C_GetFunctionParamInfo (inst : Option PexData)
    (objectIndex stateIndex funcIndex paramIndex : UInt16) (out : VariableTypeOut) :
    Except Fault (Int32 × VariableTypeOut) :=
  report (paramAt inst objectIndex stateIndex funcIndex paramIndex) out fun param =>
    .ok (out.fill param)

def C_GetFunctionLocalCount (inst : Option PexData) (objectIndex stateIndex funcIndex : UInt16) :
    Except Fault UInt16 :=
  countOf (namedFunctionAt inst objectIndex stateIndex funcIndex) fun namedFunc =>
    namedFunc.function.numLocals

def C_GetFunctionLocalInfo (inst : Option PexData)
    (objectIndex stateIndex funcIndex localIndex : UInt16) (out : VariableTypeOut) :
    Except Fault (Int32 × VariableTypeOut) :=
  report (localAt inst objectIndex stateIndex funcIndex localIndex) out fun loc =>
    .ok (out.fill loc)

end PexReader
