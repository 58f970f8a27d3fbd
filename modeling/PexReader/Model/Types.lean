import Mathlib.Data.List.Basic

/-!
# Types — the records of a compiled Papyrus script

The data model of `PexHeader.cpp`, `PexSections.cpp` and `PexStringTable.cpp`:

* unsigned fields keep their width (`UInt8` to `UInt64`), `int32_t` is `Int32`;
* a `float` is its 32-bit pattern, which the library only ever copies;
* `wstring` is a list of 16-bit units (`wchar_t` on Windows), `vector<byte>` a list of bytes;
* the default value of each field is the one the C++ constructor gives it.

Counts are stored next to the vectors they count, as in the source: nothing in these types ties
them together.
-/

namespace PexReader

/-! ## Faults -/

/-- The standard exceptions the library throws, with their `what()` text. -/
inductive StdException
  | runtimeError (message : String)
  | lengthError (message : String)
  | outOfRange (message : String)
  | invalidArgument (message : String)
  | badVariantAccess
  deriving DecidableEq, Repr

def StdException.what : StdException → String
  | .runtimeError message => message
  | .lengthError message => message
  | .outOfRange message => message
  | .invalidArgument message => message
  | .badVariantAccess => "bad variant access"

/-- How a call goes wrong: it throws, or it indexes a vector at or past its size, which C++ leaves
undefined. -/
inductive Fault
  | outOfBounds
  | thrown (e : StdException)
  deriving DecidableEq, Repr

@[simp] theorem except_ok_bind {ε α β : Type} (x : α) (f : α → Except ε β) :
    (Except.ok x >>= f) = f x := rfl

@[simp] theorem except_pure {ε α : Type} (x : α) : (pure x : Except ε α) = .ok x := rfl

/-! ## Header -/

structure RecordHeader where
  magic : UInt32 := 0
  majorVersion : UInt8 := 0
  minorVersion : UInt8 := 0
  gameId : UInt16 := 0
  compilationTime : UInt64 := 0
  sourceFileName : List UInt16 := []
  username : List UInt16 := []
  machinename : List UInt16 := []
  deriving DecidableEq, Repr

/-! ## String table -/

structure StringTable where
  count : UInt16 := 0
  strings : List (List UInt8) := []
  deriving DecidableEq, Repr

/-! ## Debug info -/

structure DebugFunction where
  objectNameIndex : UInt16 := 0
  stateNameIndex : UInt16 := 0
  functionNameIndex : UInt16 := 0
  functionType : UInt8 := 0
  instructionCount : UInt16 := 0
  lineNumbers : List UInt16 := []
  deriving DecidableEq, Repr

structure DebugInfo where
  hasDebugInfo : UInt8 := 0
  modificationTime : UInt64 := 0
  functionCount : UInt16 := 0
  functions : List DebugFunction := []
  deriving DecidableEq, Repr

/-! ## User flags -/

structure UserFlag where
  flagNameIndex : UInt16 := 0
  flagIndex : UInt8 := 0
  deriving DecidableEq, Repr

/-! ## Tagged values -/

/-- `std::variant<uint16_t, int32_t, float, uint8_t>`. -/
inductive VariantValue
  | uint16 (value : UInt16)
  | int32 (value : Int32)
  | float (bits : UInt32)
  | uint8 (value : UInt8)
  deriving DecidableEq, Repr

namespace VariantValue

/-! `std::get`, one function for each alternative. -/

def getUInt16 : VariantValue → Except StdException UInt16
  | .uint16 value => .ok value
  | _ => .error .badVariantAccess

def getInt32 : VariantValue → Except StdException Int32
  | .int32 value => .ok value
  | _ => .error .badVariantAccess

def getFloat : VariantValue → Except StdException UInt32
  | .float bits => .ok bits
  | _ => .error .badVariantAccess

def getUInt8 : VariantValue → Except StdException UInt8
  | .uint8 value => .ok value
  | _ => .error .badVariantAccess

end VariantValue

/-- Type: 0 = null, 1 = identifier, 2 = string, 3 = integer, 4 = float, 5 = bool. -/
structure VariableData where
  type : UInt8 := 0
  data : VariantValue := .uint16 0
  deriving DecidableEq, Repr

structure Variable where
  name : UInt16 := 0
  typeName : UInt16 := 0
  userFlags : UInt32 := 0
  data : VariableData := {}
  deriving DecidableEq, Repr

/-! ## Instructions -/

inductive Opcode
  | nop | iadd | fadd | isub | fsub | imul | fmul | idiv | fdiv | imod
  | not_ | ineg | fneg | assign | cast
  | cmp_eq | cmp_lt | cmp_le | cmp_gt | cmp_ge
  | jmp | jmpt | jmpf
  | callmethod | callparent | callstatic
  | return_ | strcat | propget | propset
  | array_create | array_length | array_getelement | array_setelement
  | array_findelement | array_rfindelement
  deriving DecidableEq, Repr

namespace Opcode

/-- `static_cast<std::uint8_t>(op)`. -/
def toUInt8 : Opcode → UInt8
  | nop => 0x00
  | iadd => 0x01
  | fadd => 0x02
  | isub => 0x03
  | fsub => 0x04
  | imul => 0x05
  | fmul => 0x06
  | idiv => 0x07
  | fdiv => 0x08
  | imod => 0x09
  | not_ => 0x0A
  | ineg => 0x0B
  | fneg => 0x0C
  | assign => 0x0D
  | cast => 0x0E
  | cmp_eq => 0x0F
  | cmp_lt => 0x10
  | cmp_le => 0x11
  | cmp_gt => 0x12
  | cmp_ge => 0x13
  | jmp => 0x14
  | jmpt => 0x15
  | jmpf => 0x16
  | callmethod => 0x17
  | callparent => 0x18
  | callstatic => 0x19
  | return_ => 0x1A
  | strcat => 0x1B
  | propget => 0x1C
  | propset => 0x1D
  | array_create => 0x1E
  | array_length => 0x1F
  | array_getelement => 0x20
  | array_setelement => 0x21
  | array_findelement => 0x22
  | array_rfindelement => 0x23

/-- The enumerators in the order of their codes. -/
def all : List Opcode :=
  [nop, iadd, fadd, isub, fsub, imul, fmul, idiv, fdiv, imod, not_, ineg, fneg, assign, cast,
    cmp_eq, cmp_lt, cmp_le, cmp_gt, cmp_ge, jmp, jmpt, jmpf, callmethod, callparent, callstatic,
    return_, strcat, propget, propset, array_create, array_length, array_getelement,
    array_setelement, array_findelement, array_rfindelement]

/-- `static_cast<Opcode>(code)`. A code without an enumerator is given the first one here; the
reader rejects such a code before the cast. -/
def ofUInt8 (code : UInt8) : Opcode :=
  all.getD code.toNat nop

@[simp] theorem ofUInt8_toUInt8 (op : Opcode) : ofUInt8 op.toUInt8 = op := by
  cases op <;> rfl

theorem toUInt8_ofUInt8 {code : UInt8} (h : code ≤ array_rfindelement.toUInt8) :
    (ofUInt8 code).toUInt8 = code := by
  -- The enumerators stand in `all` at the index that is their code.
  have hall : ∀ i : Fin all.length, (all.get i).toUInt8 = UInt8.ofNat i := by decide
  have hlt : code.toNat < all.length := Nat.lt_succ_of_le (UInt8.le_iff_toNat_le.1 h)
  have hcode := hall ⟨code.toNat, hlt⟩
  rw [ofUInt8, List.getD_eq_getElem?_getD, List.getElem?_eq_getElem hlt]
  simpa using hcode

theorem toUInt8_le (op : Opcode) : op.toUInt8 ≤ array_rfindelement.toUInt8 := by
  cases op <;> decide

end Opcode

structure Instruction where
  op : Opcode := .nop
  arguments : List VariableData := []
  deriving DecidableEq, Repr

/-! ## Functions -/

structure VariableType where
  name : UInt16 := 0
  type : UInt16 := 0
  deriving DecidableEq, Repr

structure Function where
  returnType : UInt16 := 0
  docString : UInt16 := 0
  userFlags : UInt32 := 0
  flags : UInt8 := 0
  numParams : UInt16 := 0
  params : List VariableType := []
  numLocals : UInt16 := 0
  locals : List VariableType := []
  numInstructions : UInt16 := 0
  instructions : List Instruction := []
  deriving DecidableEq, Repr

structure NamedFunction where
  functionName : UInt16 := 0
  function : Function := {}
  deriving DecidableEq, Repr

/-! ## Objects -/

/-- `autoVarName` is present if `flags & 4`, `readHandler` if `(flags & 5) == 1` and
`writeHandler` if `(flags & 6) == 2`. -/
structure Property where
  name : UInt16 := 0
  type : UInt16 := 0
  docstring : UInt16 := 0
  userFlags : UInt32 := 0
  flags : UInt8 := 0
  autoVarName : UInt16 := 0
  readHandler : Function := {}
  writeHandler : Function := {}
  deriving DecidableEq, Repr

structure State where
  name : UInt16 := 0
  numFunctions : UInt16 := 0
  functions : List NamedFunction := []
  deriving DecidableEq, Repr

structure ObjectData where
  parentClassName : UInt16 := 0
  docString : UInt16 := 0
  userFlags : UInt32 := 0
  autoStateName : UInt16 := 0
  numVariables : UInt16 := 0
  vars : List Variable := []
  numProperties : UInt16 := 0
  properties : List Property := []
  numStates : UInt16 := 0
  states : List State := []
  deriving DecidableEq, Repr

structure Object where
  nameIndex : UInt16 := 0
  size : UInt32 := 0
  data : ObjectData := {}
  deriving DecidableEq, Repr

/-! ## The script -/

/-- The members of class `PexData`. -/
structure PexData where
  header : RecordHeader := {}
  stringTable : StringTable := {}
  debugInfo : DebugInfo := {}
  userFlagCount : UInt16 := 0
  userFlags : List UserFlag := []
  objectCount : UInt16 := 0
  objects : List Object := []
  deriving DecidableEq, Repr

end PexReader
