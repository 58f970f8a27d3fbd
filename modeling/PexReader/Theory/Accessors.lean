import PexReader.Model.Accessors
import PexReader.Spec.Elements

/-!
# Accessors — the getters deliver the elements

In a consistent state every getter is `delivered` over the path of its indices: it does not fault,
it reports success exactly when the path leads to an element, and it delivers that element.
-/

namespace PexReader

open Lookup

/-! ## Values -/

/-- The union member that holds the value of a variant. -/
def PexReaderValue.ofVariant : VariantValue → PexReaderValue
  | .uint16 value => .stringTableIndex value
  | .int32 value => .integer value
  | .float bits => .real bits
  | .uint8 value => .boolean value

/-- A null value is not stored. -/
def VariableData.stored (d : VariableData) (old : PexReaderValue) : PexReaderValue :=
  if d.type = 0 then old else .ofVariant d.data

/-- No `std::get` asks for another alternative than the one the variant holds. -/
theorem storeValue_eq {d : VariableData} (hd : d.WellFormed) (p : Option PexReaderValue) :
    storeValue p d = .ok (p.map d.stored) := by
  cases p with
  | none => rfl
  | some old =>
      -- One case for each tag: the alternative is the one its `std::get` asks for.
      rcases d with ⟨type, data⟩
      rcases VariableData.wellFormed_cases.1 hd with ⟨rfl, rfl⟩ | ⟨rfl | rfl, v, rfl⟩ |
        ⟨rfl, v, rfl⟩ | ⟨rfl, v, rfl⟩ | ⟨rfl, v, rfl⟩ <;> rfl

/-- The fields of a variable, stored. -/
def VariableOut.holding (out : VariableOut) (var : Variable) : VariableOut where
  name := store out.name var.name
  typeName := store out.typeName var.typeName
  userFlags := store out.userFlags var.userFlags
  dataType := store out.dataType var.data.type
  dataValue := out.dataValue.map var.data.stored

def ArgumentOut.holding (out : ArgumentOut) (arg : VariableData) : ArgumentOut where
  type := store out.type arg.type
  value := out.value.map arg.stored

theorem VariableOut.fill_eq {var : Variable} (hvar : var.WellFormed) (out : VariableOut) :
    out.fill var = .ok (out.holding var) := by
  simp only [VariableOut.fill, storeValue_eq hvar]
  rfl

theorem ArgumentOut.fill_eq {arg : VariableData} (harg : arg.WellFormed) (out : ArgumentOut) :
    out.fill arg = .ok (out.holding arg) := by
  simp only [ArgumentOut.fill, storeValue_eq harg]
  rfl

/-! ## Searches -/

theorem elementAt_eq {α : Type} {vector : List α} {count : UInt16}
    (h : vector.length = count.toNat) (index : UInt16) :
    elementAt vector count index = found vector[index.toNat]? :=
  checked_eq h index.toNat

theorem countOf_found {α : Type} (x : Option α) (count : α → UInt16) :
    countOf (found x) count = .ok (x.elim 0 count) := by
  cases x <;> rfl

section

variable {d : PexData} (hd : d.Consistent)

include hd

theorem debugFunctionAt_eq (index : UInt16) :
    debugFunctionAt (some d) index = found d.debugInfo.functions[index.toNat]? :=
  elementAt_eq hd.debugInfo.count index

theorem userFlagAt_eq (index : UInt16) :
    userFlagAt (some d) index = found d.userFlags[index.toNat]? :=
  elementAt_eq hd.userFlagCount index

theorem objectAt_eq (o : UInt16) : objectAt (some d) o = found (d.findObject o) :=
  elementAt_eq hd.objectCount o

theorem variableAt_eq (o v : UInt16) : variableAt (some d) o v = found (d.findVariable o v) := by
  rw [variableAt, objectAt_eq hd]
  refine found_bind ?_
  intro obj hobj
  exact elementAt_eq (findObject_wellFormed hd hobj).data.numVariables v

theorem propertyAt_eq (o p : UInt16) : propertyAt (some d) o p = found (d.findProperty o p) := by
  rw [propertyAt, objectAt_eq hd]
  refine found_bind ?_
  intro obj hobj
  exact elementAt_eq (findObject_wellFormed hd hobj).data.numProperties p

theorem stateAt_eq (o s : UInt16) : stateAt (some d) o s = found (d.findState o s) := by
  rw [stateAt, objectAt_eq hd]
  refine found_bind ?_
  intro obj hobj
  exact elementAt_eq (findObject_wellFormed hd hobj).data.numStates s

theorem namedFunctionAt_eq (o s f : UInt16) :
    namedFunctionAt (some d) o s f = found (d.findFunction o s f) := by
  rw [namedFunctionAt, stateAt_eq hd]
  refine found_bind ?_
  intro state hstate
  exact elementAt_eq (findState_wellFormed hd hstate).numFunctions f

theorem paramAt_eq (o s f p : UInt16) :
    paramAt (some d) o s f p = found (d.findParam o s f p) := by
  rw [paramAt, namedFunctionAt_eq hd]
  refine found_bind ?_
  intro func hfunc
  exact elementAt_eq (findFunction_wellFormed hd hfunc).numParams p

theorem localAt_eq (o s f l : UInt16) :
    localAt (some d) o s f l = found (d.findLocal o s f l) := by
  rw [localAt, namedFunctionAt_eq hd]
  refine found_bind ?_
  intro func hfunc
  exact elementAt_eq (findFunction_wellFormed hd hfunc).numLocals l

theorem instructionAt_eq (o s f i : UInt16) :
    instructionAt (some d) o s f i = found (d.findInstruction o s f i) := by
  rw [instructionAt, namedFunctionAt_eq hd]
  refine found_bind ?_
  intro func hfunc
  exact elementAt_eq (findFunction_wellFormed hd hfunc).numInstructions i

theorem argumentAt_eq (o s f i a : UInt16) :
    argumentAt (some d) o s f i a = found (d.findArgument o s f i a) := by
  rw [argumentAt, instructionAt_eq hd]
  refine found_bind ?_
  intro instr _
  -- The bound is the size itself, whatever the instruction.
  exact checked_eq rfl a.toNat

end

/-! ## Getters -/

/-- Every getter describes the vectors themselves: a count is a size, and an element is delivered
exactly when its path of indices leads to one. -/
structure PexData.Exposed (d : PexData) : Prop where
  debugFunctionCount : (C_GetDebugFunctionCount (some d)).toNat = d.debugInfo.functions.length
  debugFunctionInfo : ∀ index out, C_GetDebugFunctionInfo (some d) index out =
    .ok (delivered d.debugInfo.functions[index.toNat]? out.reset out.reset.fill)
  userFlagCount : (C_GetUserFlagCount (some d)).toNat = d.userFlags.length
  userFlagInfo : ∀ index out, C_GetUserFlagInfo (some d) index out =
    .ok (delivered d.userFlags[index.toNat]? out out.fill)
  objectCount : (C_GetObjectCount (some d)).toNat = d.objects.length
  objectInfo : ∀ o out, C_GetObjectInfo (some d) o out =
    .ok (delivered (d.findObject o) out out.fill)
  objectData : ∀ o out, C_GetObjectData (some d) o out =
    .ok (delivered (d.findObject o) out fun obj => out.fill obj.data)
  variableCount : ∀ o, ∃ n, C_GetVariableCount (some d) o = .ok n ∧
    n.toNat = (d.findObject o).elim 0 fun obj => obj.data.vars.length
  variableInfo : ∀ o v out, C_GetVariableInfo (some d) o v out =
    .ok (delivered (d.findVariable o v) out out.holding)
  propertyCount : ∀ o, ∃ n, C_GetPropertyCount (some d) o = .ok n ∧
    n.toNat = (d.findObject o).elim 0 fun obj => obj.data.properties.length
  propertyInfo : ∀ o p out, C_GetPropertyInfo (some d) o p out =
    .ok (delivered (d.findProperty o p) out out.fill)
  stateCount : ∀ o, ∃ n, C_GetStateCount (some d) o = .ok n ∧
    n.toNat = (d.findObject o).elim 0 fun obj => obj.data.states.length
  stateInfo : ∀ o s out, C_GetStateInfo (some d) o s out =
    .ok (delivered (d.findState o s) out out.fill)
  stateFunctionInfo : ∀ o s f out, C_GetStateFunctionInfo (some d) o s f out =
    .ok (delivered (d.findFunction o s f) out out.fill)
  instructionInfo : ∀ o s f i out, C_GetInstructionInfo (some d) o s f i out =
    .ok (delivered (d.findInstruction o s f i) out out.fill)
  instructionArgument : ∀ o s f i a out, C_GetInstructionArgument (some d) o s f i a out =
    .ok (delivered (d.findArgument o s f i a) out out.holding)
  functionParamCount : ∀ o s f, ∃ n, C_GetFunctionParamCount (some d) o s f = .ok n ∧
    n.toNat = (d.findFunction o s f).elim 0 fun func => func.function.params.length
  functionParamInfo : ∀ o s f p out, C_GetFunctionParamInfo (some d) o s f p out =
    .ok (delivered (d.findParam o s f p) out out.fill)
  functionLocalCount : ∀ o s f, ∃ n, C_GetFunctionLocalCount (some d) o s f = .ok n ∧
    n.toNat = (d.findFunction o s f).elim 0 fun func => func.function.locals.length
  functionLocalInfo : ∀ o s f l out, C_GetFunctionLocalInfo (some d) o s f l out =
    .ok (delivered (d.findLocal o s f l) out out.fill)

/-- A count getter over a search without a fault, for counts that are sizes. -/
theorem countOf_size {α : Type} {x : Option α} {count : α → UInt16} {size : α → Nat}
    (h : ∀ a, x = some a → size a = (count a).toNat) :
    ∃ n, countOf (found x) count = .ok n ∧ n.toNat = x.elim 0 size := by
  refine ⟨_, countOf_found x count, ?_⟩
  cases x with
  -- A refused index counts as 0, like an empty vector.
  | none => rfl
  | some a => exact (h a rfl).symm

theorem PexData.Consistent.exposed {d : PexData} (hd : d.Consistent) : d.Exposed where
  debugFunctionCount := hd.debugInfo.count.symm
  debugFunctionInfo index out := by
    rw [C_GetDebugFunctionInfo, debugFunctionAt_eq hd]
    exact report_found fun _ _ => rfl
  userFlagCount := hd.userFlagCount.symm
  userFlagInfo index out := by
    rw [C_GetUserFlagInfo, userFlagAt_eq hd]
    exact report_found fun _ _ => rfl
  objectCount := hd.objectCount.symm
  objectInfo o out := by
    rw [C_GetObjectInfo, objectAt_eq hd]
    exact report_found fun _ _ => rfl
  objectData o out := by
    rw [C_GetObjectData, objectAt_eq hd]
    exact report_found fun _ _ => rfl
  variableCount o := by
    rw [C_GetVariableCount, objectAt_eq hd]
    exact countOf_size fun _ hobj => (findObject_wellFormed hd hobj).data.numVariables
  variableInfo o v out := by
    rw [C_GetVariableInfo, variableAt_eq hd]
    exact report_found fun _ hvar => VariableOut.fill_eq (findVariable_wellFormed hd hvar) out
  propertyCount o := by
    rw [C_GetPropertyCount, objectAt_eq hd]
    exact countOf_size fun _ hobj => (findObject_wellFormed hd hobj).data.numProperties
  propertyInfo o p out := by
    rw [C_GetPropertyInfo, propertyAt_eq hd]
    exact report_found fun _ _ => rfl
  stateCount o := by
    rw [C_GetStateCount, objectAt_eq hd]
    exact countOf_size fun _ hobj => (findObject_wellFormed hd hobj).data.numStates
  stateInfo o s out := by
    rw [C_GetStateInfo, stateAt_eq hd]
    exact report_found fun _ _ => rfl
  stateFunctionInfo o s f out := by
    rw [C_GetStateFunctionInfo, namedFunctionAt_eq hd]
    exact report_found fun _ _ => rfl
  instructionInfo o s f i out := by
    rw [C_GetInstructionInfo, instructionAt_eq hd]
    exact report_found fun _ _ => rfl
  instructionArgument o s f i a out := by
    rw [C_GetInstructionArgument, argumentAt_eq hd]
    exact report_found fun _ harg => ArgumentOut.fill_eq (findArgument_wellFormed hd harg) out
  functionParamCount o s f := by
    rw [C_GetFunctionParamCount, namedFunctionAt_eq hd]
    exact countOf_size fun _ hfunc => (findFunction_wellFormed hd hfunc).numParams
  functionParamInfo o s f p out := by
    rw [C_GetFunctionParamInfo, paramAt_eq hd]
    exact report_found fun _ _ => rfl
  functionLocalCount o s f := by
    rw [C_GetFunctionLocalCount, namedFunctionAt_eq hd]
    exact countOf_size fun _ hfunc => (findFunction_wellFormed hd hfunc).numLocals
  functionLocalInfo o s f l out := by
    rw [C_GetFunctionLocalInfo, localAt_eq hd]
    exact report_found fun _ _ => rfl

end PexReader
