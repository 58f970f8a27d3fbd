import PexReader.Model.Writer

/-!
# Save — the writing half of `PexHelper.cpp`

One definition for each `Write*` member of `PexData`, in the order of the source, and `Save`.  The
members read the object they belong to from the state; `WriteStringTable` also changes it.
-/

namespace PexReader

open Emission

/-! ## Header and string table -/

def writeHeader : WriteM Unit := do
  let header := (← get).self.header
  writeUInt32BE header.magic
  writeUInt8 header.majorVersion
  writeUInt8 header.minorVersion
  writeUInt16BE header.gameId
  writeUInt64BE header.compilationTime
  writeWString header.sourceFileName
  writeWString header.username
  writeWString header.machinename

/-- `stringTable.strings.resize(stringTable.count)`, when there are fewer strings than that. -/
def StringTable.grow (t : StringTable) : StringTable :=
  if t.strings.length < t.count.toNat then
    { t with strings := t.strings ++ List.replicate (t.count.toNat - t.strings.length) [] }
  else t

def writeEntry (bytes : List UInt8) : WriteM Unit := do
  let length ← MonadExcept.ofExcept (checkedUInt16Length bytes.length "String table entry")
  writeUInt16BE length
  if bytes ≠ [] then
    writeBytes bytes
  else
    pure ()

/-- The loop index stays below `count`, and so, after `grow`, below the number of strings. -/
def writeStringTable : WriteM Unit := do
  let count := (← get).self.stringTable.count
  writeUInt16BE count
  -- The count has been written; the member is now made to agree with it.
  modify fun s => { s with self := { s.self with stringTable := s.self.stringTable.grow } }
  let strings := (← get).self.stringTable.strings
  (List.range count.toNat).forM fun i => writeEntry (strings.getD i [])

/-! ## Debug info and user flags -/

def writeDebugFunction (func : DebugFunction) : WriteM Unit := do
  writeUInt16BE func.objectNameIndex
  writeUInt16BE func.stateNameIndex
  writeUInt16BE func.functionNameIndex
  writeUInt8 func.functionType
  writeUInt16BE func.instructionCount
  func.lineNumbers.forM fun lineNum => writeUInt16BE lineNum

def writeDebugInfo : WriteM Unit := do
  let debugInfo := (← get).self.debugInfo
  writeUInt8 debugInfo.hasDebugInfo
  if debugInfo.hasDebugInfo ≠ 0 then
    writeUInt64BE debugInfo.modificationTime
    writeUInt16BE debugInfo.functionCount
    debugInfo.functions.forM fun func => writeDebugFunction func
  else
    pure ()

def writeUserFlags : WriteM Unit := do
  let self := (← get).self
  writeUInt16BE self.userFlagCount
  self.userFlags.forM fun flag => do
    writeUInt16BE flag.flagNameIndex
    writeUInt8 flag.flagIndex

/-! ## Values, instructions, functions -/

/-- A type outside 0..5 gets its tag and no value. -/
def writeVariableData (integer_unsigned : Bool) (data : VariableData) : WriteM Unit := do
  writeUInt8 data.type
  if data.type = 0 then
    pure ()
  else if data.type = 1 ∨ data.type = 2 then
    writeUInt16BE (← MonadExcept.ofExcept data.data.getUInt16)
  else if data.type = 3 then
    if integer_unsigned then
      writeUInt32BE (← MonadExcept.ofExcept data.data.getInt32).toUInt32
    else
      writeInt32BE (← MonadExcept.ofExcept data.data.getInt32)
  else if data.type = 4 then
    writeFloatBE (← MonadExcept.ofExcept data.data.getFloat)
  else if data.type = 5 then
    writeUInt8 (← MonadExcept.ofExcept data.data.getUInt8)
  else
    pure ()

def writeVariable (var : Variable) : WriteM Unit := do
  writeUInt16BE var.name
  writeUInt16BE var.typeName
  writeUInt32BE var.userFlags
  writeVariableData true var.data

def writeInstruction (instr : Instruction) : WriteM Unit := do
  writeUInt8 instr.op.toUInt8
  instr.arguments.forM fun arg => writeVariableData false arg

/-- The loop body for parameters and for locals. -/
def writeVariableType (v : VariableType) : WriteM Unit := do
  writeUInt16BE v.name
  writeUInt16BE v.type

def writeFunction (func : Function) : WriteM Unit := do
  writeUInt16BE func.returnType
  writeUInt16BE func.docString
  writeUInt32BE func.userFlags
  writeUInt8 func.flags
  writeUInt16BE func.numParams
  func.params.forM fun param => writeVariableType param
  writeUInt16BE func.numLocals
  func.locals.forM fun local_ => writeVariableType local_
  writeUInt16BE func.numInstructions
  func.instructions.forM fun instr => writeInstruction instr

/-! ## Properties, states, objects -/

def writeProperty (prop : Property) : WriteM Unit := do
  writeUInt16BE prop.name
  writeUInt16BE prop.type
  writeUInt16BE prop.docstring
  writeUInt32BE prop.userFlags
  writeUInt8 prop.flags
  (if prop.flags &&& 4 ≠ 0 then writeUInt16BE prop.autoVarName else pure ())
  (if prop.flags &&& 5 = 1 then writeFunction prop.readHandler else pure ())
  (if prop.flags &&& 6 = 2 then writeFunction prop.writeHandler else pure ())

def writeNamedFunction (namedFunc : NamedFunction) : WriteM Unit := do
  writeUInt16BE namedFunc.functionName
  writeFunction namedFunc.function

def writeState (state : State) : WriteM Unit := do
  writeUInt16BE state.name
  writeUInt16BE state.numFunctions
  state.functions.forM fun namedFunc => writeNamedFunction namedFunc

def writeObjectData (data : ObjectData) : WriteM Unit := do
  writeUInt16BE data.parentClassName
  writeUInt16BE data.docString
  writeUInt32BE data.userFlags
  writeUInt16BE data.autoStateName
  writeUInt16BE data.numVariables
  data.vars.forM fun var => writeVariable var
  writeUInt16BE data.numProperties
  data.properties.forM fun prop => writeProperty prop
  writeUInt16BE data.numStates
  data.states.forM fun state => writeState state

/-- The loop body of `WriteObjects`. -/
def writeObject (obj : Object) : WriteM Unit := do
  writeUInt16BE obj.nameIndex
  writeUInt32BE obj.size
  writeObjectData obj.data

def writeObjects : WriteM Unit := do
  let self := (← get).self
  writeUInt16BE self.objectCount
  self.objects.forM fun obj => writeObject obj

/-! ## The whole file -/

/-- The five section writers in the order `Save` calls them. -/
def writeSections : WriteM Unit := do
  writeHeader
  writeStringTable
  writeDebugInfo
  writeUserFlags
  writeObjects

/-- What a save leaves behind: how it ended, the object, and the destination's contents, unless the
destination could not be opened. -/
structure SaveOutcome where
  result : Except StdException Unit
  self : PexData
  destination : Option (List UInt8)

/-- `PexData::Save`: neither the writes nor the final flush are checked. -/
def PexData.save (self : PexData) (device : OutputDevice) : SaveOutcome :=
  if !device.isOpen then
    { result := .error (.runtimeError "Save File Error"), self, destination := none }
  else
    match writeSections device { self } with
    -- `file.close()` at the end of `Save`
    | .ok _ s =>
        { result := .ok (), self := s.self, destination := some (s.file.close device).stored }
    -- the catch block, which closes the file as well
    | .error exception s =>
        { result := .error (.runtimeError ("Save failed: " ++ exception.what))
          self := s.self
          destination := some (s.file.close device).stored }

end PexReader
