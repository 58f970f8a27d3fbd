import Mathlib.Algebra.GroupWithZero.Nat
import Mathlib.Tactic.MkIffOfInductiveProp
import PexReader.Format.BigEndian
import PexReader.Model.Load

/-!
# Document — what a script file is

The abstract side of the library, stated without its reader or writer.  For each record:

* `pieces` lists the byte strings that spell it, cut where the writer makes separate calls to
  `f.write`, and `bytes` is their concatenation;
* `WellFormed` says which values have a spelling that names them again;
* `elements` counts the vector elements the record holds.
-/

namespace PexReader

open BigEndian

/-- The byte strings of consecutive `f.write` calls. -/
abbrev Pieces : Type := List (List UInt8)

theorem flatten_flatMap {α : Type} (f : α → Pieces) (l : List α) :
    (l.flatMap f).flatten = l.flatMap fun x => (f x).flatten := by
  induction l with
  | nil => rfl
  | cons x l ih => simp [ih]

theorem flatten_map_singleton {α : Type} (f : α → UInt8) (l : List α) :
    (l.map fun x => [f x]).flatten = l.map f := by
  induction l with
  | nil => rfl
  | cons x l ih => simp [ih]

/-! ## Strings -/

/-- A header string: its length, then its characters one by one. -/
def wstringPieces (str : List UInt16) : Pieces :=
  be16 (UInt16.ofNat str.length) :: str.map fun wc => [wc.toUInt8]

def wstringBytes (str : List UInt16) : List UInt8 :=
  be16 (UInt16.ofNat str.length) ++ str.map UInt16.toUInt8

theorem flatten_wstringPieces (str : List UInt16) :
    (wstringPieces str).flatten = wstringBytes str := by
  simp [wstringPieces, wstringBytes, flatten_map_singleton]

/-- At most 65535 characters, each of which fits a byte. -/
def WStringFits (str : List UInt16) : Prop :=
  str.length ≤ 65535 ∧ ∀ wc ∈ str, wc ≤ 0xFF

/-- A string table entry: its length, then its bytes in one piece unless there are none. -/
def entryPieces (entry : List UInt8) : Pieces :=
  be16 (UInt16.ofNat entry.length) :: if entry = [] then [] else [entry]

def entryBytes (entry : List UInt8) : List UInt8 :=
  be16 (UInt16.ofNat entry.length) ++ entry

theorem flatten_entryPieces (entry : List UInt8) :
    (entryPieces entry).flatten = entryBytes entry := by
  by_cases hempty : entry = []
  · simp [entryPieces, entryBytes, hempty]
  · simp [entryPieces, entryBytes, hempty]

def EntryFits (entry : List UInt8) : Prop :=
  entry.length ≤ 65535

/-! ## Header and string table -/

namespace RecordHeader

def pieces (h : RecordHeader) : Pieces :=
  [be32 h.magic, [h.majorVersion], [h.minorVersion], be16 h.gameId, be64 h.compilationTime] ++
    wstringPieces h.sourceFileName ++ wstringPieces h.username ++ wstringPieces h.machinename

def bytes (h : RecordHeader) : List UInt8 :=
  h.pieces.flatten

theorem bytes_eq (h : RecordHeader) :
    h.bytes = be32 h.magic ++ ([h.majorVersion] ++ ([h.minorVersion] ++ (be16 h.gameId ++
      (be64 h.compilationTime ++ (wstringBytes h.sourceFileName ++ (wstringBytes h.username ++
        wstringBytes h.machinename)))))) := by
  simp [bytes, pieces, flatten_wstringPieces]

/-- The strings have a spelling. -/
@[mk_iff]
structure StringsFit (h : RecordHeader) : Prop where
  sourceFileName : WStringFits h.sourceFileName
  username : WStringFits h.username
  machinename : WStringFits h.machinename

end RecordHeader

namespace StringTable

def pieces (t : StringTable) : Pieces :=
  be16 t.count :: t.strings.flatMap entryPieces

def bytes (t : StringTable) : List UInt8 :=
  t.pieces.flatten

theorem bytes_eq (t : StringTable) :
    t.bytes = be16 t.count ++ t.strings.flatMap entryBytes := by
  simp [bytes, pieces, flatten_flatMap, flatten_entryPieces]

@[mk_iff]
structure WellFormed (t : StringTable) : Prop where
  count : t.strings.length = t.count.toNat
  entries : ∀ entry ∈ t.strings, EntryFits entry

def elements (t : StringTable) : Nat :=
  t.strings.length

end StringTable

/-! ## Debug info and user flags -/

namespace DebugFunction

def pieces (f : DebugFunction) : Pieces :=
  [be16 f.objectNameIndex, be16 f.stateNameIndex, be16 f.functionNameIndex, [f.functionType],
    be16 f.instructionCount] ++ f.lineNumbers.map be16

def bytes (f : DebugFunction) : List UInt8 :=
  f.pieces.flatten

theorem bytes_eq (f : DebugFunction) :
    f.bytes = be16 f.objectNameIndex ++ (be16 f.stateNameIndex ++ (be16 f.functionNameIndex ++
      ([f.functionType] ++ (be16 f.instructionCount ++ f.lineNumbers.flatMap be16)))) := by
  simp [bytes, pieces, List.flatMap_def]

def WellFormed (f : DebugFunction) : Prop :=
  f.lineNumbers.length = f.instructionCount.toNat

def elements (f : DebugFunction) : Nat :=
  f.lineNumbers.length

end DebugFunction

namespace DebugInfo

def pieces (d : DebugInfo) : Pieces :=
  -- Without debug info there is the flag and nothing else.
  [d.hasDebugInfo] :: if d.hasDebugInfo = 0 then [] else
    [be64 d.modificationTime, be16 d.functionCount] ++ d.functions.flatMap DebugFunction.pieces

def bytes (d : DebugInfo) : List UInt8 :=
  d.pieces.flatten

theorem bytes_eq (d : DebugInfo) :
    d.bytes = [d.hasDebugInfo] ++ if d.hasDebugInfo = 0 then [] else
      be64 d.modificationTime ++ (be16 d.functionCount ++
        d.functions.flatMap DebugFunction.bytes) := by
  by_cases hflag : d.hasDebugInfo = 0
  · simp [bytes, pieces, hflag]
  · simp [bytes, pieces, hflag, flatten_flatMap]
    rfl

/-- The flag is 0 or 1, and without debug info the other fields are as the constructor leaves
them. -/
@[mk_iff]
structure WellFormed (d : DebugInfo) : Prop where
  flag : d.hasDebugInfo ≤ 1
  absent : d.hasDebugInfo = 0 → d = {}
  count : d.functions.length = d.functionCount.toNat
  functions : ∀ f ∈ d.functions, f.WellFormed

def elements (d : DebugInfo) : Nat :=
  d.functions.length + (d.functions.map DebugFunction.elements).sum

end DebugInfo

namespace UserFlag

def pieces (f : UserFlag) : Pieces :=
  [be16 f.flagNameIndex, [f.flagIndex]]

def bytes (f : UserFlag) : List UInt8 :=
  f.pieces.flatten

theorem bytes_eq (f : UserFlag) : f.bytes = be16 f.flagNameIndex ++ [f.flagIndex] := by
  simp [bytes, pieces]

end UserFlag

/-! ## Values and instructions -/

namespace VariantValue

def bytes : VariantValue → List UInt8
  | .uint16 value => be16 value
  | .int32 value => be32 value.toUInt32
  | .float bits => be32 bits
  | .uint8 value => [value]

end VariantValue

namespace VariableData

def pieces (d : VariableData) : Pieces :=
  [d.type] :: if d.type = 0 then [] else [d.data.bytes]

def bytes (d : VariableData) : List UInt8 :=
  d.pieces.flatten

theorem bytes_eq (d : VariableData) :
    d.bytes = [d.type] ++ if d.type = 0 then [] else d.data.bytes := by
  by_cases htype : d.type = 0
  · simp [bytes, pieces, htype]
  · simp [bytes, pieces, htype]

/-- The variant holds the alternative of the tag, and the default value when the tag is null. -/
def WellFormed (d : VariableData) : Prop :=
  match d.data with
  -- null, or the string index of an identifier or a string
  | .uint16 value => (d.type = 0 ∧ value = 0) ∨ d.type = 1 ∨ d.type = 2
  | .int32 _ => d.type = 3
  | .float _ => d.type = 4
  | .uint8 _ => d.type = 5

instance (d : VariableData) : Decidable d.WellFormed := by
  unfold WellFormed
  split <;> infer_instance

/-- The six tags and what they hold. -/
theorem wellFormed_cases {d : VariableData} :
    d.WellFormed ↔ (d.type = 0 ∧ d.data = .uint16 0) ∨
      ((d.type = 1 ∨ d.type = 2) ∧ ∃ v, d.data = .uint16 v) ∨
      (d.type = 3 ∧ ∃ v, d.data = .int32 v) ∨ (d.type = 4 ∧ ∃ b, d.data = .float b) ∨
      (d.type = 5 ∧ ∃ v, d.data = .uint8 v) := by
  rcases d with ⟨type, data⟩
  cases data with
  | uint16 value => simp [WellFormed]
  | int32 value => simp [WellFormed]
  | float bits => simp [WellFormed]
  | uint8 value => simp [WellFormed]

theorem one_le_length (d : VariableData) : 1 ≤ d.bytes.length := by
  simp [bytes_eq]

end VariableData

namespace Variable

def pieces (v : Variable) : Pieces :=
  [be16 v.name, be16 v.typeName, be32 v.userFlags] ++ v.data.pieces

def bytes (v : Variable) : List UInt8 :=
  v.pieces.flatten

theorem bytes_eq (v : Variable) :
    v.bytes = be16 v.name ++ (be16 v.typeName ++ (be32 v.userFlags ++ v.data.bytes)) := by
  simp [bytes, pieces, VariableData.bytes]

def WellFormed (v : Variable) : Prop :=
  v.data.WellFormed

end Variable

/-- The values every call instruction starts with, its argument count last; only the three call
opcodes have a header. -/
def Opcode.callHeader : Opcode → Nat
  | .callparent => 3
  | _ => 4

theorem Opcode.callHeader_le (op : Opcode) : op.callHeader ≤ 4 := by
  cases op <;> decide

namespace Instruction

def pieces (i : Instruction) : Pieces :=
  [i.op.toUInt8] :: i.arguments.flatMap VariableData.pieces

def bytes (i : Instruction) : List UInt8 :=
  i.pieces.flatten

theorem bytes_eq (i : Instruction) :
    i.bytes = [i.op.toUInt8] ++ i.arguments.flatMap VariableData.bytes := by
  simp [bytes, pieces, flatten_flatMap]
  rfl

/-- The arguments of a call: a header of `header` values, the last of which is an integer in
0..4096 that counts the arguments behind the header. -/
def CallShape (header : Nat) (arguments : List VariableData) : Prop :=
  ∃ front args, ∃ n : Int32, arguments = front ++ { type := 3, data := .int32 n } :: args ∧
    front.length + 1 = header ∧ 0 ≤ n ∧ n ≤ 4096 ∧ args.length = n.toInt.toNat

/-- The argument list is the one the opcode demands. -/
def ArgumentsFit (i : Instruction) : Prop :=
  match getOpcodeArgumentCount i.op with
  | .ok n => i.arguments.length = n.toNat
  -- the three calls
  | .error _ => CallShape i.op.callHeader i.arguments

@[mk_iff]
structure WellFormed (i : Instruction) : Prop where
  fit : i.ArgumentsFit
  arguments : ∀ a ∈ i.arguments, a.WellFormed

def elements (i : Instruction) : Nat :=
  i.arguments.length

end Instruction

/-! ## Functions, properties, states -/

namespace VariableType

def pieces (v : VariableType) : Pieces :=
  [be16 v.name, be16 v.type]

def bytes (v : VariableType) : List UInt8 :=
  v.pieces.flatten

theorem bytes_eq (v : VariableType) : v.bytes = be16 v.name ++ be16 v.type := by
  simp [bytes, pieces]

end VariableType

namespace Function

def pieces (f : Function) : Pieces :=
  [be16 f.returnType, be16 f.docString, be32 f.userFlags, [f.flags], be16 f.numParams] ++
    f.params.flatMap VariableType.pieces ++ [be16 f.numLocals] ++
    f.locals.flatMap VariableType.pieces ++ [be16 f.numInstructions] ++
    f.instructions.flatMap Instruction.pieces

def bytes (f : Function) : List UInt8 :=
  f.pieces.flatten

theorem bytes_eq (f : Function) :
    f.bytes = be16 f.returnType ++ (be16 f.docString ++ (be32 f.userFlags ++ ([f.flags] ++
      (be16 f.numParams ++ (f.params.flatMap VariableType.bytes ++ (be16 f.numLocals ++
        (f.locals.flatMap VariableType.bytes ++ (be16 f.numInstructions ++
          f.instructions.flatMap Instruction.bytes)))))))) := by
  simp [bytes, pieces, flatten_flatMap]
  rfl

@[mk_iff]
structure WellFormed (f : Function) : Prop where
  numParams : f.params.length = f.numParams.toNat
  numLocals : f.locals.length = f.numLocals.toNat
  numInstructions : f.instructions.length = f.numInstructions.toNat
  instructions : ∀ i ∈ f.instructions, i.WellFormed

def elements (f : Function) : Nat :=
  f.params.length + f.locals.length +
    (f.instructions.length + (f.instructions.map Instruction.elements).sum)

theorem wellFormed_default : ({} : Function).WellFormed where
  numParams := rfl
  numLocals := rfl
  numInstructions := rfl
  instructions := by simp

end Function

namespace Property

def pieces (p : Property) : Pieces :=
  [be16 p.name, be16 p.type, be16 p.docstring, be32 p.userFlags, [p.flags]] ++
    (if p.flags &&& 4 ≠ 0 then [be16 p.autoVarName] else []) ++
    (if p.flags &&& 5 = 1 then p.readHandler.pieces else []) ++
    (if p.flags &&& 6 = 2 then p.writeHandler.pieces else [])

def bytes (p : Property) : List UInt8 :=
  p.pieces.flatten

theorem bytes_eq (p : Property) :
    p.bytes = be16 p.name ++ (be16 p.type ++ (be16 p.docstring ++ (be32 p.userFlags ++
      ([p.flags] ++ ((if p.flags &&& 4 ≠ 0 then be16 p.autoVarName else []) ++
        ((if p.flags &&& 5 = 1 then p.readHandler.bytes else []) ++
          if p.flags &&& 6 = 2 then p.writeHandler.bytes else [])))))) := by
  unfold bytes pieces
  -- Eight combinations of the three optional parts.
  split_ifs <;> simp [Function.bytes]

/-- What the flags do not select is as the constructor leaves it. -/
@[mk_iff]
structure WellFormed (p : Property) : Prop where
  autoVarName : ¬ p.flags &&& 4 ≠ 0 → p.autoVarName = 0
  noReadHandler : ¬ p.flags &&& 5 = 1 → p.readHandler = {}
  noWriteHandler : ¬ p.flags &&& 6 = 2 → p.writeHandler = {}
  readHandler : p.readHandler.WellFormed
  writeHandler : p.writeHandler.WellFormed

def elements (p : Property) : Nat :=
  -- A handler the flags do not select is empty.
  p.readHandler.elements + p.writeHandler.elements

end Property

namespace NamedFunction

def pieces (f : NamedFunction) : Pieces :=
  be16 f.functionName :: f.function.pieces

def bytes (f : NamedFunction) : List UInt8 :=
  f.pieces.flatten

theorem bytes_eq (f : NamedFunction) : f.bytes = be16 f.functionName ++ f.function.bytes := by
  simp [bytes, pieces, Function.bytes]

def WellFormed (f : NamedFunction) : Prop :=
  f.function.WellFormed

def elements (f : NamedFunction) : Nat :=
  f.function.elements

end NamedFunction

namespace State

def pieces (s : State) : Pieces :=
  [be16 s.name, be16 s.numFunctions] ++ s.functions.flatMap NamedFunction.pieces

def bytes (s : State) : List UInt8 :=
  s.pieces.flatten

theorem bytes_eq (s : State) :
    s.bytes = be16 s.name ++ (be16 s.numFunctions ++ s.functions.flatMap NamedFunction.bytes) := by
  simp [bytes, pieces, flatten_flatMap]
  rfl

@[mk_iff]
structure WellFormed (s : State) : Prop where
  numFunctions : s.functions.length = s.numFunctions.toNat
  functions : ∀ f ∈ s.functions, f.WellFormed

def elements (s : State) : Nat :=
  s.functions.length + (s.functions.map NamedFunction.elements).sum

end State

/-! ## Objects -/

namespace ObjectData

def pieces (d : ObjectData) : Pieces :=
  [be16 d.parentClassName, be16 d.docString, be32 d.userFlags, be16 d.autoStateName,
    be16 d.numVariables] ++ d.vars.flatMap Variable.pieces ++ [be16 d.numProperties] ++
    d.properties.flatMap Property.pieces ++ [be16 d.numStates] ++ d.states.flatMap State.pieces

def bytes (d : ObjectData) : List UInt8 :=
  d.pieces.flatten

theorem bytes_eq (d : ObjectData) :
    d.bytes = be16 d.parentClassName ++ (be16 d.docString ++ (be32 d.userFlags ++
      (be16 d.autoStateName ++ (be16 d.numVariables ++ (d.vars.flatMap Variable.bytes ++
        (be16 d.numProperties ++ (d.properties.flatMap Property.bytes ++ (be16 d.numStates ++
          d.states.flatMap State.bytes)))))))) := by
  simp [bytes, pieces, flatten_flatMap]
  rfl

@[mk_iff]
structure WellFormed (d : ObjectData) : Prop where
  numVariables : d.vars.length = d.numVariables.toNat
  vars : ∀ v ∈ d.vars, v.WellFormed
  numProperties : d.properties.length = d.numProperties.toNat
  properties : ∀ p ∈ d.properties, p.WellFormed
  numStates : d.states.length = d.numStates.toNat
  states : ∀ s ∈ d.states, s.WellFormed

def elements (d : ObjectData) : Nat :=
  d.vars.length + (d.properties.length + (d.properties.map Property.elements).sum) +
    (d.states.length + (d.states.map State.elements).sum)

end ObjectData

namespace Object

def pieces (o : Object) : Pieces :=
  be16 o.nameIndex :: be32 o.size :: o.data.pieces

def bytes (o : Object) : List UInt8 :=
  o.pieces.flatten

theorem bytes_eq (o : Object) :
    o.bytes = be16 o.nameIndex ++ (be32 o.size ++ o.data.bytes) := by
  simp [bytes, pieces, ObjectData.bytes]

/-- The size field counts itself and the data. -/
@[mk_iff]
structure WellFormed (o : Object) : Prop where
  size : o.size.toNat = 4 + o.data.bytes.length
  data : o.data.WellFormed

def elements (o : Object) : Nat :=
  o.data.elements

end Object

/-! ## The script -/

namespace PexData

def pieces (d : PexData) : Pieces :=
  d.header.pieces ++ d.stringTable.pieces ++ d.debugInfo.pieces ++
    be16 d.userFlagCount :: d.userFlags.flatMap UserFlag.pieces ++
    be16 d.objectCount :: d.objects.flatMap Object.pieces

/-- The complete encoding. -/
def bytes (d : PexData) : List UInt8 :=
  d.pieces.flatten

theorem bytes_eq (d : PexData) :
    d.bytes = d.header.bytes ++ (d.stringTable.bytes ++ (d.debugInfo.bytes ++
      ((be16 d.userFlagCount ++ d.userFlags.flatMap UserFlag.bytes) ++
        (be16 d.objectCount ++ d.objects.flatMap Object.bytes)))) := by
  simp [bytes, pieces, flatten_flatMap]
  rfl

/-- Everything but the magic number is as in a loaded script; a closed instance satisfies this
too. -/
@[mk_iff]
structure Consistent (d : PexData) : Prop where
  header : d.header.StringsFit
  stringTable : d.stringTable.WellFormed
  debugInfo : d.debugInfo.WellFormed
  userFlagCount : d.userFlags.length = d.userFlagCount.toNat
  objectCount : d.objects.length = d.objectCount.toNat
  objects : ∀ o ∈ d.objects, o.WellFormed

/-- A script that has a spelling. -/
@[mk_iff]
structure WellFormed (d : PexData) : Prop extends Consistent d where
  magic : d.header.magic = 0xFA57C0DE

/-- The elements of all vectors. -/
def elements (d : PexData) : Nat :=
  d.stringTable.elements + d.debugInfo.elements + d.userFlags.length +
    (d.objects.length + (d.objects.map Object.elements).sum)

end PexData

/-! ## A script with a record of each kind -/

def sampleFunction : Function where
  numInstructions := 1
  instructions := [{
    op := .callmethod
    arguments := [{}, { type := 1, data := .uint16 1 }, { type := 2, data := .uint16 1 },
      { type := 3, data := .int32 1 }, { type := 5, data := .uint8 1 }] }]

def sampleScript : PexData where
  header := { magic := 0xFA57C0DE, majorVersion := 3, sourceFileName := [0x41, 0xE9] }
  stringTable := { count := 2, strings := [[0x48, 0x69], []] }
  debugInfo := { hasDebugInfo := 1, functionCount := 1,
                 functions := [{ instructionCount := 1, lineNumbers := [7] }] }
  userFlagCount := 1
  userFlags := [{ flagNameIndex := 1, flagIndex := 2 }]
  objectCount := 1
  objects := [{
    -- 4 and the 78 bytes of the data
    size := 82
    data := {
      numVariables := 1
      vars := [{ data := { type := 3, data := .int32 (-1) } }]
      numProperties := 1
      properties := [{ flags := 4, autoVarName := 1 }]
      numStates := 1
      states := [{ numFunctions := 1, functions := [{ function := sampleFunction }] }] } }]

end PexReader
