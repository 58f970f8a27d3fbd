import PexReader.Spec.Document

/-!
# Elements — the elements of a script by their indices

A path of indices leads to an element if every index on it is in range in the vector it indexes.
The elements of a consistent script are well-formed.
-/

namespace PexReader

namespace PexData

/-! ## Paths -/

def findObject (d : PexData) (o : UInt16) : Option Object :=
  d.objects[o.toNat]?

def findVariable (d : PexData) (o v : UInt16) : Option Variable :=
  (d.findObject o).bind fun obj => obj.data.vars[v.toNat]?

def findProperty (d : PexData) (o p : UInt16) : Option Property :=
  (d.findObject o).bind fun obj => obj.data.properties[p.toNat]?

def findState (d : PexData) (o s : UInt16) : Option State :=
  (d.findObject o).bind fun obj => obj.data.states[s.toNat]?

def findFunction (d : PexData) (o s f : UInt16) : Option NamedFunction :=
  (d.findState o s).bind fun state => state.functions[f.toNat]?

def findParam (d : PexData) (o s f p : UInt16) : Option VariableType :=
  (d.findFunction o s f).bind fun func => func.function.params[p.toNat]?

def findLocal (d : PexData) (o s f l : UInt16) : Option VariableType :=
  (d.findFunction o s f).bind fun func => func.function.locals[l.toNat]?

def findInstruction (d : PexData) (o s f i : UInt16) : Option Instruction :=
  (d.findFunction o s f).bind fun func => func.function.instructions[i.toNat]?

def findArgument (d : PexData) (o s f i a : UInt16) : Option VariableData :=
  (d.findInstruction o s f i).bind fun instr => instr.arguments[a.toNat]?

end PexData

/-! ## Well-formed elements -/

section

variable {d : PexData} (hd : d.Consistent) {o v s f i a : UInt16}

include hd

theorem findObject_wellFormed {obj : Object} (h : d.findObject o = some obj) : obj.WellFormed :=
  hd.objects obj (List.mem_of_getElem? h)

theorem findVariable_wellFormed {var : Variable} (h : d.findVariable o v = some var) :
    var.WellFormed := by
  rcases Option.bind_eq_some_iff.1 h with ⟨obj, hobj, hvar⟩
  exact (findObject_wellFormed hd hobj).data.vars var (List.mem_of_getElem? hvar)

theorem findState_wellFormed {state : State} (h : d.findState o s = some state) :
    state.WellFormed := by
  rcases Option.bind_eq_some_iff.1 h with ⟨obj, hobj, hstate⟩
  exact (findObject_wellFormed hd hobj).data.states state (List.mem_of_getElem? hstate)

theorem findFunction_wellFormed {func : NamedFunction}
    (h : d.findFunction o s f = some func) : func.function.WellFormed := by
  rcases Option.bind_eq_some_iff.1 h with ⟨state, hstate, hfunc⟩
  exact (findState_wellFormed hd hstate).functions func (List.mem_of_getElem? hfunc)

theorem findInstruction_wellFormed {instr : Instruction}
    (h : d.findInstruction o s f i = some instr) : instr.WellFormed := by
  rcases Option.bind_eq_some_iff.1 h with ⟨func, hfunc, hinstr⟩
  exact (findFunction_wellFormed hd hfunc).instructions instr (List.mem_of_getElem? hinstr)

theorem findArgument_wellFormed {arg : VariableData} (h : d.findArgument o s f i a = some arg) :
    arg.WellFormed := by
  rcases Option.bind_eq_some_iff.1 h with ⟨instr, hinstr, harg⟩
  exact (findInstruction_wellFormed hd hinstr).arguments arg (List.mem_of_getElem? harg)

end

theorem getOpcodeArgumentCount_le {op : Opcode} {n : UInt64}
    (h : getOpcodeArgumentCount op = .ok n) : n.toNat ≤ 4 := by
  cases op <;> cases h <;> decide

/-- An instruction has few arguments: a call has at most four and 4096 more. -/
theorem Instruction.WellFormed.length_arguments_le {instr : Instruction} (h : instr.WellFormed) :
    instr.arguments.length ≤ 4100 := by
  have hfit := h.fit
  unfold Instruction.ArgumentsFit at hfit
  split at hfit
  next n hcount =>
      -- a fixed number of arguments
      have hle := getOpcodeArgumentCount_le hcount
      omega
  next =>
      -- a call: its header, the last value of which is the count, and the counted arguments
      rcases hfit with ⟨front, args, n, harguments, hfront, -, hn, hargs⟩
      have hheader := instr.op.callHeader_le
      have hle : n.toInt ≤ 4096 := Int32.le_iff_toInt_le.1 hn
      simp only [harguments, List.length_append, List.length_cons]
      omega

/-! ## What the read API shows of a script -/

/-- The handlers of a property are not shown. -/
def Property.exposed (p : Property) : Property :=
  { p with readHandler := {}, writeHandler := {} }

def Object.exposed (o : Object) : Object :=
  { o with data := { o.data with properties := o.data.properties.map Property.exposed } }

end PexReader
