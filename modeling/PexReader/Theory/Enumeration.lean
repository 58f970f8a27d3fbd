import PexReader.Theory.Accessors
import PexReader.Theory.Runs

/-!
# Enumeration — a client that walks the counts

The client below knows the getters only.  It asks for a count, calls a getter with each index below
it, and puts the records together again from its output variables.  It ends up with the vectors of
the instance, but for the handlers of properties.
-/

namespace PexReader

open Lookup

/-! ## Output variables -/

/-- A call that the client relies on to succeed. -/
def expect {β : Type} (call : Except Fault (Int32 × β)) : Except Fault β := do
  let (result, out) ← call
  if result = 1 then return out
  else throw (.thrown (.runtimeError "The call failed."))

theorem expect_delivered {α β : Type} (x : α) (out : β) (fill : α → β) :
    expect (.ok (delivered (some x) out fill)) = .ok (fill x) := rfl

/-! Zeroed variables for every output pointer, and the record read from them. -/

def DebugFunctionOut.zero : DebugFunctionOut :=
  ⟨some 0, some 0, some 0, some 0, some none, some 0⟩

def DebugFunctionOut.record (out : DebugFunctionOut) : DebugFunction where
  objectNameIndex := out.objectNameIndex.getD 0
  stateNameIndex := out.stateNameIndex.getD 0
  functionNameIndex := out.functionNameIndex.getD 0
  functionType := out.functionType.getD 0
  instructionCount := UInt16.ofNat (out.lineCount.getD 0).toNatClampNeg
  lineNumbers := (out.lineNumbers.getD none).getD []

def UserFlagOut.zero : UserFlagOut :=
  ⟨some 0, some 0⟩

def UserFlagOut.record (out : UserFlagOut) : UserFlag where
  flagNameIndex := out.flagNameIndex.getD 0
  flagIndex := out.flagIndex.getD 0

def VariableTypeOut.zero : VariableTypeOut :=
  ⟨some 0, some 0⟩

def VariableTypeOut.record (out : VariableTypeOut) : VariableType where
  name := out.name.getD 0
  type := out.type.getD 0

def PexReaderValue.toVariant : PexReaderValue → VariantValue
  | .stringTableIndex value => .uint16 value
  | .integer value => .int32 value
  | .real bits => .float bits
  | .boolean value => .uint8 value

def ArgumentOut.zero : ArgumentOut :=
  ⟨some 0, some (.stringTableIndex 0)⟩

def ArgumentOut.record (out : ArgumentOut) : VariableData where
  type := out.type.getD 0
  data := (out.value.getD (.stringTableIndex 0)).toVariant

def VariableOut.zero : VariableOut :=
  ⟨some 0, some 0, some 0, some 0, some (.stringTableIndex 0)⟩

def VariableOut.record (out : VariableOut) : Variable where
  name := out.name.getD 0
  typeName := out.typeName.getD 0
  userFlags := out.userFlags.getD 0
  data := { type := out.dataType.getD 0
            data := (out.dataValue.getD (.stringTableIndex 0)).toVariant }

def PropertyOut.zero : PropertyOut :=
  ⟨some 0, some 0, some 0, some 0, some 0, some 0⟩

def PropertyOut.record (out : PropertyOut) : Property where
  name := out.name.getD 0
  type := out.type.getD 0
  docstring := out.docstring.getD 0
  userFlags := out.userFlags.getD 0
  flags := out.flags.getD 0
  autoVarName := out.autoVarName.getD 0

theorem DebugFunctionOut.record_fill {func : DebugFunction} (h : func.WellFormed) :
    (zero.reset.fill func).record = func := by
  have hlength : func.lineNumbers.length = func.instructionCount.toNat := h
  -- The line count is an `int`, wide enough for a 16-bit count.
  have hcount : (Int32.ofNat func.lineNumbers.length).toNatClampNeg =
      func.instructionCount.toNat := by
    have hlt := func.instructionCount.toNat_lt
    rw [Int32.toNatClampNeg_ofNat_of_lt (by omega), hlength]
  -- No array at all is how no line numbers are delivered.
  have hlines : (copyLineNumbers func.lineNumbers).getD [] = func.lineNumbers := by
    unfold copyLineNumbers
    split_ifs with hempty
    · exact hempty.symm
    · rfl
  simp [record, fill, reset, zero, store, hcount, hlines]

/-- The type tells how to read the value. -/
theorem ArgumentOut.record_holding {arg : VariableData} (h : arg.WellFormed) :
    (zero.holding arg).record = arg := by
  rcases arg with ⟨type, data⟩
  rcases VariableData.wellFormed_cases.1 h with ⟨rfl, rfl⟩ | ⟨rfl | rfl, v, rfl⟩ |
    ⟨rfl, v, rfl⟩ | ⟨rfl, v, rfl⟩ | ⟨rfl, v, rfl⟩ <;> rfl

theorem VariableOut.record_holding {var : Variable} (h : var.WellFormed) :
    (zero.holding var).record = var := by
  have hdata : (ArgumentOut.zero.holding var.data).record = var.data :=
    ArgumentOut.record_holding h
  calc (zero.holding var).record
      = { var with data := (ArgumentOut.zero.holding var.data).record } := rfl
    _ = var := by rw [hdata]

/-! ## The client -/

section

variable (inst : Option PexData)

def listDebugFunctions : Except Fault (List DebugFunction) :=
  walk (C_GetDebugFunctionCount inst) fun i => do
    let out ← expect (C_GetDebugFunctionInfo inst i .zero)
    return out.record

def listUserFlags : Except Fault (List UserFlag) :=
  walk (C_GetUserFlagCount inst) fun i => do
    let out ← expect (C_GetUserFlagInfo inst i .zero)
    return out.record

def listArguments (o s f i count : UInt16) : Except Fault (List VariableData) :=
  walk count fun a => do
    let out ← expect (C_GetInstructionArgument inst o s f i a .zero)
    return out.record

def listInstructions (o s f count : UInt16) : Except Fault (List Instruction) :=
  walk count fun i => do
    let out ← expect (C_GetInstructionInfo inst o s f i ⟨some 0, some 0⟩)
    let arguments ← listArguments inst o s f i (out.argCount.getD 0)
    return { op := Opcode.ofUInt8 (out.opcode.getD 0), arguments }

def listParams (o s f : UInt16) : Except Fault (List VariableType) := do
  let count ← C_GetFunctionParamCount inst o s f
  walk count fun p => do
    let out ← expect (C_GetFunctionParamInfo inst o s f p .zero)
    return out.record

def listLocals (o s f : UInt16) : Except Fault (List VariableType) := do
  let count ← C_GetFunctionLocalCount inst o s f
  walk count fun l => do
    let out ← expect (C_GetFunctionLocalInfo inst o s f l .zero)
    return out.record

def listFunctions (o s count : UInt16) : Except Fault (List NamedFunction) :=
  walk count fun f => do
    let out ← expect (C_GetStateFunctionInfo inst o s f
      ⟨some 0, some 0, some 0, some 0, some 0, some 0, some 0, some 0⟩)
    let params ← listParams inst o s f
    let locals ← listLocals inst o s f
    let instructions ← listInstructions inst o s f (out.numInstructions.getD 0)
    return {
      functionName := out.functionName.getD 0
      function := {
        returnType := out.returnType.getD 0
        docString := out.docString.getD 0
        userFlags := out.userFlags.getD 0
        flags := out.flags.getD 0
        numParams := out.numParams.getD 0
        params
        numLocals := out.numLocals.getD 0
        locals
        numInstructions := out.numInstructions.getD 0
        instructions } }

def listStates (o : UInt16) : Except Fault (List State) := do
  let count ← C_GetStateCount inst o
  walk count fun s => do
    let out ← expect (C_GetStateInfo inst o s ⟨some 0, some 0⟩)
    let functions ← listFunctions inst o s (out.numFunctions.getD 0)
    return { name := out.name.getD 0, numFunctions := out.numFunctions.getD 0, functions }

def listVariables (o : UInt16) : Except Fault (List Variable) := do
  let count ← C_GetVariableCount inst o
  walk count fun v => do
    let out ← expect (C_GetVariableInfo inst o v .zero)
    return out.record

def listProperties (o : UInt16) : Except Fault (List Property) := do
  let count ← C_GetPropertyCount inst o
  walk count fun p => do
    let out ← expect (C_GetPropertyInfo inst o p .zero)
    return out.record

def listObjects : Except Fault (List Object) :=
  walk (C_GetObjectCount inst) fun o => do
    let info ← expect (C_GetObjectInfo inst o ⟨some 0, some 0⟩)
    let data ← expect (C_GetObjectData inst o ⟨some 0, some 0, some 0, some 0⟩)
    let numVariables ← C_GetVariableCount inst o
    let vars ← listVariables inst o
    let numProperties ← C_GetPropertyCount inst o
    let properties ← listProperties inst o
    let numStates ← C_GetStateCount inst o
    let states ← listStates inst o
    return {
      nameIndex := info.nameIndex.getD 0
      size := info.size.getD 0
      data := {
        parentClassName := data.parentClassName.getD 0
        docString := data.docString.getD 0
        userFlags := data.userFlags.getD 0
        autoStateName := data.autoStateName.getD 0
        numVariables
        vars
        numProperties
        properties
        numStates
        states } }

end

/-! ## What the client ends up with -/

section

variable {d : PexData} (hd : d.Consistent) {o s f i : UInt16}

include hd

theorem getVariableCount_eq {obj : Object} (h : d.findObject o = some obj) :
    C_GetVariableCount (some d) o = .ok obj.data.numVariables := by
  rw [C_GetVariableCount, objectAt_eq hd, h]
  rfl

theorem getPropertyCount_eq {obj : Object} (h : d.findObject o = some obj) :
    C_GetPropertyCount (some d) o = .ok obj.data.numProperties := by
  rw [C_GetPropertyCount, objectAt_eq hd, h]
  rfl

theorem getStateCount_eq {obj : Object} (h : d.findObject o = some obj) :
    C_GetStateCount (some d) o = .ok obj.data.numStates := by
  rw [C_GetStateCount, objectAt_eq hd, h]
  rfl

theorem getFunctionParamCount_eq {func : NamedFunction} (h : d.findFunction o s f = some func) :
    C_GetFunctionParamCount (some d) o s f = .ok func.function.numParams := by
  rw [C_GetFunctionParamCount, namedFunctionAt_eq hd, h]
  rfl

theorem getFunctionLocalCount_eq {func : NamedFunction} (h : d.findFunction o s f = some func) :
    C_GetFunctionLocalCount (some d) o s f = .ok func.function.numLocals := by
  rw [C_GetFunctionLocalCount, namedFunctionAt_eq hd, h]
  rfl

theorem listDebugFunctions_eq : listDebugFunctions (some d) = .ok d.debugInfo.functions := by
  refine walk_self hd.debugInfo.count ?_
  intro i func hfunc
  have hwell := hd.debugInfo.functions func (List.mem_of_getElem? hfunc)
  rw [hd.exposed.debugFunctionInfo, hfunc, expect_delivered, except_ok_bind,
    DebugFunctionOut.record_fill hwell]
  rfl

theorem listUserFlags_eq : listUserFlags (some d) = .ok d.userFlags := by
  refine walk_self hd.userFlagCount ?_
  intro i flag hflag
  rw [hd.exposed.userFlagInfo, hflag]
  rfl

/-- The narrowed argument count is the size, since an instruction has few arguments. -/
theorem listArguments_eq {instr : Instruction} (h : d.findInstruction o s f i = some instr) :
    listArguments (some d) o s f i (UInt16.ofNat instr.arguments.length) =
      .ok instr.arguments := by
  have hle := (findInstruction_wellFormed hd h).length_arguments_le
  have hcount := UInt16.toNat_ofNat_of_lt' (Nat.lt_of_le_of_lt hle (by decide))
  refine walk_self hcount.symm ?_
  intro a arg harg
  have hpath : d.findArgument o s f i a = some arg := by simp [PexData.findArgument, h, harg]
  rw [hd.exposed.instructionArgument, hpath, expect_delivered, except_ok_bind,
    ArgumentOut.record_holding (findArgument_wellFormed hd hpath)]
  rfl

theorem listInstructions_eq {func : NamedFunction} (h : d.findFunction o s f = some func) :
    listInstructions (some d) o s f func.function.numInstructions =
      .ok func.function.instructions := by
  refine walk_self (findFunction_wellFormed hd h).numInstructions ?_
  intro i instr hinstr
  have hpath : d.findInstruction o s f i = some instr := by
    simp [PexData.findInstruction, h, hinstr]
  have harguments := listArguments_eq hd hpath
  rw [hd.exposed.instructionInfo, hpath, expect_delivered, except_ok_bind]
  simp [InstructionOut.fill, store, harguments]

theorem listParams_eq {func : NamedFunction} (h : d.findFunction o s f = some func) :
    listParams (some d) o s f = .ok func.function.params := by
  rw [listParams, getFunctionParamCount_eq hd h, except_ok_bind]
  refine walk_self (findFunction_wellFormed hd h).numParams ?_
  intro p param hparam
  have hpath : d.findParam o s f p = some param := by simp [PexData.findParam, h, hparam]
  rw [hd.exposed.functionParamInfo, hpath]
  rfl

theorem listLocals_eq {func : NamedFunction} (h : d.findFunction o s f = some func) :
    listLocals (some d) o s f = .ok func.function.locals := by
  rw [listLocals, getFunctionLocalCount_eq hd h, except_ok_bind]
  refine walk_self (findFunction_wellFormed hd h).numLocals ?_
  intro l loc hloc
  have hpath : d.findLocal o s f l = some loc := by simp [PexData.findLocal, h, hloc]
  rw [hd.exposed.functionLocalInfo, hpath]
  rfl

theorem listFunctions_eq {state : State} (h : d.findState o s = some state) :
    listFunctions (some d) o s state.numFunctions = .ok state.functions := by
  refine walk_self (findState_wellFormed hd h).numFunctions ?_
  intro f func hfunc
  have hpath : d.findFunction o s f = some func := by simp [PexData.findFunction, h, hfunc]
  have hparams := listParams_eq hd hpath
  have hlocals := listLocals_eq hd hpath
  have hinstructions := listInstructions_eq hd hpath
  rw [hd.exposed.stateFunctionInfo, hpath, expect_delivered, except_ok_bind]
  simp [StateFunctionOut.fill, store, hparams, hlocals, hinstructions]

theorem listStates_eq {obj : Object} (h : d.findObject o = some obj) :
    listStates (some d) o = .ok obj.data.states := by
  rw [listStates, getStateCount_eq hd h, except_ok_bind]
  refine walk_self (findObject_wellFormed hd h).data.numStates ?_
  intro s state hstate
  have hpath : d.findState o s = some state := by simp [PexData.findState, h, hstate]
  have hfunctions := listFunctions_eq hd hpath
  rw [hd.exposed.stateInfo, hpath, expect_delivered, except_ok_bind]
  simp [StateOut.fill, store, hfunctions]

theorem listVariables_eq {obj : Object} (h : d.findObject o = some obj) :
    listVariables (some d) o = .ok obj.data.vars := by
  rw [listVariables, getVariableCount_eq hd h, except_ok_bind]
  refine walk_self (findObject_wellFormed hd h).data.numVariables ?_
  intro v var hvar
  have hpath : d.findVariable o v = some var := by simp [PexData.findVariable, h, hvar]
  rw [hd.exposed.variableInfo, hpath, expect_delivered, except_ok_bind,
    VariableOut.record_holding (findVariable_wellFormed hd hpath)]
  rfl

theorem listProperties_eq {obj : Object} (h : d.findObject o = some obj) :
    listProperties (some d) o = .ok (obj.data.properties.map Property.exposed) := by
  rw [listProperties, getPropertyCount_eq hd h, except_ok_bind]
  refine walk_eq (findObject_wellFormed hd h).data.numProperties ?_
  intro p prop hprop
  have hpath : d.findProperty o p = some prop := by simp [PexData.findProperty, h, hprop]
  rw [hd.exposed.propertyInfo, hpath]
  rfl

theorem listObjects_eq : listObjects (some d) = .ok (d.objects.map Object.exposed) := by
  refine walk_eq hd.objectCount ?_
  intro o obj hobj
  have hpath : d.findObject o = some obj := hobj
  rw [hd.exposed.objectInfo, hd.exposed.objectData, hpath, expect_delivered, expect_delivered,
    getVariableCount_eq hd hpath, getPropertyCount_eq hd hpath, getStateCount_eq hd hpath,
    listVariables_eq hd hpath, listProperties_eq hd hpath, listStates_eq hd hpath]
  rfl

end

/-! ## In every reachable state -/

/-- The read API is safe and faithful after any run of calls: every getter is total and describes
the vectors, and a client that walks the counts lists everything but the handlers of properties,
in order and once. -/
theorem read_api_faithful (calls : List ApiCall) :
    (runCalls calls C_CreateInstance).Exposed ∧
      listDebugFunctions (some (runCalls calls C_CreateInstance)) =
        .ok (runCalls calls C_CreateInstance).debugInfo.functions ∧
      listUserFlags (some (runCalls calls C_CreateInstance)) =
        .ok (runCalls calls C_CreateInstance).userFlags ∧
      listObjects (some (runCalls calls C_CreateInstance)) =
        .ok ((runCalls calls C_CreateInstance).objects.map Object.exposed) := by
  have hd := reachable_consistent calls
  exact ⟨hd.exposed, listDebugFunctions_eq hd, listUserFlags_eq hd, listObjects_eq hd⟩

/-- A client lists what it finds in the sample. -/
theorem read_api_faithful_sample :
    listObjects (some (runCalls [.readPex (some { contents := sampleScript.bytes })]
        C_CreateInstance)) = .ok (sampleScript.objects.map Object.exposed) ∧
      listUserFlags (some (runCalls [.readPex (some { contents := sampleScript.bytes })]
        C_CreateInstance)) = .ok [{ flagNameIndex := 1, flagIndex := 2 }] := by
  have hrun : runCalls [.readPex (some { contents := sampleScript.bytes })] C_CreateInstance =
      sampleScript := by
    simp [runCalls, ApiCall.run, C_ReadPex, C_CreateInstance,
      load_of_parseFile parseFile_sampleScript]
  have hfaithful := read_api_faithful [.readPex (some { contents := sampleScript.bytes })]
  rw [hrun] at hfaithful ⊢
  exact ⟨hfaithful.2.2.2, hfaithful.2.2.1⟩

end PexReader
