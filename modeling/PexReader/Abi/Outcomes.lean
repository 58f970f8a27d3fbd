import PexReader.Abi.Wrappers
import PexReader.Theory.Accessors
import PexReader.Theory.Decoding
import PexReader.Theory.SaveLoss

/-!
# Outcomes — how a call across the ABI can end

In a sound state, and on handles that are null or live, no call runs into what C++ leaves undefined.
For each family of exported functions there is one lemma that says how a call of it can end, and
`CodeCall.Ends` is the list for the calls that return a code: what holds of the code and the status
is read off it.
-/

namespace PexReader

/-! ## `ModifyStringTable`, check by check -/

section

variable {self : PexData} {index : UInt16} {str : List UInt8}

theorem modifyStringTable_outOfRange (str : List UInt8) (h : self.stringTable.count ≤ index) :
    ∃ message, self.modifyStringTable index str = .error (.thrown (.outOfRange message)) self :=
  ⟨_, by rw [PexData.modifyStringTable, if_pos h]⟩

theorem modifyStringTable_overlong (h : index < self.stringTable.count) (hstr : ¬ EntryFits str) :
    ∃ message, self.modifyStringTable index str = .error (.thrown (.lengthError message)) self := by
  have hlength : str.length > 65535 := Nat.not_le.1 hstr
  rw [PexData.modifyStringTable, if_neg (UInt16.not_le.2 h), checkedUInt16Length, if_pos hlength]
  exact ⟨_, rfl⟩

theorem modifyStringTable_accepted (hself : self.Consistent) (h : index < self.stringTable.count)
    (hstr : EntryFits str) :
    self.modifyStringTable index str = .ok () (self.withString index.toNat str) := by
  rcases modifyStringTable_cases hself index str with ⟨-, -, hmodify⟩ | ⟨hnot, -⟩
  · exact hmodify
  · exact absurd ⟨h, hstr⟩ hnot

end

/-! ## Functions that take a handle and a pointer -/

/-- A replacement for a string of a live instance that no 16-bit length can announce. -/
def AbiState.Overlong (w : AbiState) (handle : PexReaderHandle) (index : UInt16)
    (utf8String : Option (List UInt8)) : Prop :=
  ∃ d str, w.heap handle = some d ∧ utf8String = some str ∧ index < d.stringTable.count ∧
    ¬ EntryFits (cString str)

section Pointers

variable {w : AbiState} {handle : PexReaderHandle} (hw : w.Sound) (h : w.Accepts handle)

include hw h

/-- A call that takes a pointer is refused for a null, or gets an instance and an argument. -/
theorem pointer_cases {α : Type} (argument : Option α) :
    (handle = 0 ∨ argument.isNone = true) ∨
      ∃ d x, handle ≠ 0 ∧ w.heap handle = some d ∧ d.Consistent ∧ argument = some x := by
  rcases AbiState.Accepts.cases hw h with hnull | ⟨hnull, d, hlive, hd⟩
  · exact Or.inl (Or.inl hnull)
  · cases argument with
    | none => exact Or.inl (Or.inr rfl)
    | some x => exact Or.inr ⟨d, x, hnull, hlive, hd, rfl⟩

/-- `C_ReadPex` puts what it loads behind the handle, or reports an argument or a parse error. -/
theorem readPex_ends (pexPath : Option InputFile) :
    (∃ d d' file, w.heap handle = some d ∧ pexPath = some file ∧ d.load file = .ok () d' ∧
      Abi.C_ReadPex handle pexPath w =
        .ok 1 { w.setInst handle (some d') with lastAbiError := {} }) ∨
    ∃ status message, (status = .invalidArgument ∨ status = .parseError) ∧
      Abi.C_ReadPex handle pexPath w =
        .ok 0 { w with lastAbiError := setAbiError status message } := by
  unfold Abi.C_ReadPex
  rcases pointer_cases hw h pexPath with hrefused | ⟨d, file, hnull, hlive, -, rfl⟩
  · rcases pointerCall_refused (w := w) _ _ _ _ _ hrefused with ⟨text, heq⟩
    exact Or.inr ⟨_, text, Or.inl rfl, heq⟩
  · rcases load_cases d file with ⟨d', hload, -⟩ | ⟨e, hload⟩
    · have hread : C_ReadPex (some d) (some file) = (1, some d') := by simp [C_ReadPex, hload]
      exact Or.inl ⟨d, d', file, hlive, rfl, hload,
        pointerCall_live _ _ _ _ _ hnull hlive (by rw [hread]) rfl⟩
    · have hread : C_ReadPex (some d) (some file) = (0, some d) := by simp [C_ReadPex, hload]
      exact Or.inr ⟨_, _, Or.inr rfl,
        pointerCall_failed _ _ _ _ _ hnull hlive (by rw [hread]) rfl⟩

/-- `C_ModifyStringTable` puts an edited instance behind the handle, or reports an argument or an
index, or meets a string that is too long, whose `length_error` ends as an internal error. -/
theorem modifyStringTable_ends (index : UInt16) (utf8String : Option (List UInt8)) :
    (∃ d str, w.heap handle = some d ∧ utf8String = some str ∧ index < d.stringTable.count ∧
      EntryFits (cString str) ∧ Abi.C_ModifyStringTable handle index utf8String w =
        .ok 1 { w.setInst handle (some (d.withString index.toNat (cString str))) with
          lastAbiError := {} }) ∨
    (∃ e, (e.status = .invalidArgument ∨ e.status = .outOfRange) ∧
      ¬ w.Overlong handle index utf8String ∧
      Abi.C_ModifyStringTable handle index utf8String w = .ok 0 { w with lastAbiError := e }) ∨
    ∃ e, e.status = .internalError ∧ w.Overlong handle index utf8String ∧
      Abi.C_ModifyStringTable handle index utf8String w = .ok 0 { w with lastAbiError := e } := by
  unfold Abi.C_ModifyStringTable
  rcases pointer_cases hw h utf8String with hrefused | ⟨d, str, hnull, hlive, hd, rfl⟩
  · rcases pointerCall_refused (w := w) _ _ _ _ _ hrefused with ⟨text, heq⟩
    refine Or.inr (Or.inl ⟨_, Or.inl rfl, ?_, heq⟩)
    rintro ⟨d, str, hlive, rfl, -⟩
    rcases hrefused with rfl | hnone
    · rw [hw.null] at hlive
      cases hlive
    · cases hnone
  · -- Which of its checks does `ModifyStringTable` fail, if any?
    have hoverlong : w.Overlong handle index (some str) ↔
        index < d.stringTable.count ∧ ¬ EntryFits (cString str) := by
      simp [AbiState.Overlong, hlive]
    by_cases hindex : index < d.stringTable.count
    · by_cases hfits : EntryFits (cString str)
      · have hmodify := modifyStringTable_accepted hd hindex hfits
        exact Or.inl ⟨d, str, hlive, rfl, hindex, hfits,
          pointerCall_live _ _ _ _ _ hnull hlive (by simp [C_ModifyStringTable, hmodify]) rfl⟩
      · rcases modifyStringTable_overlong hindex hfits with ⟨message, hmodify⟩
        have hcall : C_ModifyStringTable (some d) index (some str) =
            (.error (.thrown (.lengthError message)), some d) := by
          simp [C_ModifyStringTable, hmodify]
        exact Or.inr (Or.inr ⟨captureAbiException (.std (.lengthError message)), rfl,
          hoverlong.2 ⟨hindex, hfits⟩, pointerCall_thrown _ _ _ _ _ hnull hlive hcall⟩)
    · rcases modifyStringTable_outOfRange (cString str) (UInt16.not_lt.1 hindex) with
        ⟨message, hmodify⟩
      have hcall : C_ModifyStringTable (some d) index (some str) =
          (.error (.thrown (.outOfRange message)), some d) := by
        simp [C_ModifyStringTable, hmodify]
      exact Or.inr (Or.inl ⟨captureAbiException (.std (.outOfRange message)), Or.inr rfl,
        fun hover => hindex (hoverlong.1 hover).1,
        pointerCall_thrown _ _ _ _ _ hnull hlive hcall⟩)

/-- `C_SavePex` writes to a destination that opens, or reports an argument or the destination; the
instance stays as it is. -/
theorem savePex_ends (pexPath : Option OutputDevice) :
    (∃ d device, w.heap handle = some d ∧ pexPath = some device ∧ device.isOpen = true ∧
      Abi.C_SavePex handle pexPath w =
        .ok (1, some ((OFStream.writeAll device {} d.pieces).close device).stored)
          { w with lastAbiError := {} }) ∨
    ∃ e, (e.status = .invalidArgument ∨ e.status = .ioError) ∧
      (handle = 0 ∨ ∀ device, pexPath = some device → device.isOpen = false) ∧
      Abi.C_SavePex handle pexPath w = .ok (0, none) { w with lastAbiError := e } := by
  unfold Abi.C_SavePex
  rcases pointer_cases hw h pexPath with hrefused | ⟨d, device, hnull, hlive, hd, rfl⟩
  · rcases pointerCall_refused (w := w) _ _ _ _ _ hrefused with ⟨text, heq⟩
    refine Or.inr ⟨_, Or.inl rfl, ?_, heq⟩
    rcases hrefused with hzero | hnone
    · exact Or.inl hzero
    · refine Or.inr ?_
      rintro device rfl
      cases hnone
  · have hsave := savePex_of_consistent hd device
    cases hopen : device.isOpen with
    | true =>
        rw [hopen, if_neg (by simp)] at hsave
        exact Or.inl ⟨d, device, hlive, rfl, hopen,
          pointerCall_kept _ _ _ _ _ hnull hlive (by simp only [hsave]) rfl⟩
    | false =>
        rw [hopen, if_pos rfl] at hsave
        refine Or.inr ⟨_, Or.inr rfl, Or.inr ?_,
          pointerCall_failed _ _ _ _ _ hnull hlive (by simp only [hsave]) rfl⟩
        rintro device' hdevice
        cases hdevice
        exact hopen

end Pointers

/-! ## String getters -/

/-- Neither success nor the one status that comes with a length. -/
def PexReaderStatus.IsError (status : PexReaderStatus) : Prop :=
  status ≠ .ok ∧ status ≠ .bufferTooSmall

@[simp] theorem PexReaderStatus.not_isError_ok : ¬ PexReaderStatus.ok.IsError := by
  simp [IsError]

theorem ofNat_nonneg {n : Nat} (h : n ≤ 2147483647) : (0 : Int32) ≤ Int32.ofNat n := by
  rw [Int32.le_iff_toInt_le, Int32.toInt_ofNat_of_lt (by omega)]
  exact Int.natCast_nonneg n

/-- What the string getters do in the implementation: they give a length, or -1 for an index, or
refuse a text. -/
def Measures {α : Type} (implementation : Option PexData → Except Fault (Int32 × Option (List α))) :
    Prop :=
  ∀ d : PexData, d.Consistent →
    (∃ result, implementation (some d) = .ok result ∧ (result.1 = -1 ∨ 0 ≤ result.1)) ∨
      ∃ message, implementation (some d) = .error (.thrown (.invalidArgument message))

theorem measures_utf8 (index : UInt16) (buffer : Option (List UInt8)) (bufferSize : Int32) :
    Measures fun inst => C_GetStringUtf8 inst index buffer bufferSize := by
  intro d hd
  by_cases hindex : index < d.stringTable.count
  · rcases hd.entry hindex with ⟨entry, hentry, hfits⟩
    exact Or.inl ⟨_, getStringUtf8_eq hindex hentry buffer bufferSize,
      Or.inr (ofNat_nonneg (length_decoded_of_fits hfits))⟩
  · refine Or.inl ⟨(-1, buffer), ?_, Or.inl rfl⟩
    simp [C_GetStringUtf8, UInt16.not_lt.1 hindex]

/-- Whatever `MultiByteToWideChar` does, a text is converted to as many units as an `int` can
count, or refused. -/
theorem utf8ToWString_cases (mb : MultiByteToWideChar) (str : List UInt8) :
    (∃ wide, utf8ToWString mb str = .ok wide ∧ wide.length ≤ 2147483647) ∨
      ∃ message, utf8ToWString mb str = .error (.invalidArgument message) := by
  unfold utf8ToWString
  dsimp only
  split_ifs with hempty hlen hconverted
  · exact Or.inl ⟨[], rfl, by decide⟩
  · exact Or.inr ⟨_, rfl⟩
  · exact Or.inr ⟨_, rfl⟩
  · refine Or.inl ⟨_, rfl, ?_⟩
    rw [Vector.length_toList]
    exact Nat.le_of_lt_succ (mb.query str).toNatClampNeg_lt

section Wide

variable {mb : MultiByteToWideChar} {d : PexData} {index : UInt16} {str : List UInt8}
  (hindex : index < d.stringTable.count) (hread : d.stringTable.toUtf8 index = .ok str)
  (buffer : Option (List UInt16)) (bufferSize : Int32)

include hindex hread

theorem getStringWide_eq {wide : List UInt16} (hwide : utf8ToWString mb str = .ok wide) :
    C_GetStringWide mb (some d) index buffer bufferSize =
      .ok (Int32.ofNat wide.length,
        copyOut 0 wide (Int32.ofNat wide.length) buffer bufferSize) := by
  unfold C_GetStringWide
  dsimp only
  rw [if_neg (UInt16.not_le.2 hindex), hread, except_ok_bind, hwide]
  rfl

theorem getStringWide_refused {e : StdException} (hwide : utf8ToWString mb str = .error e) :
    C_GetStringWide mb (some d) index buffer bufferSize = .error (.thrown e) := by
  unfold C_GetStringWide
  dsimp only
  rw [if_neg (UInt16.not_le.2 hindex), hread, except_ok_bind, hwide]
  rfl

end Wide

theorem measures_wide (mb : MultiByteToWideChar) (index : UInt16) (buffer : Option (List UInt16))
    (bufferSize : Int32) :
    Measures fun inst => C_GetStringWide mb inst index buffer bufferSize := by
  intro d hd
  by_cases hindex : index < d.stringTable.count
  · rcases hd.entry hindex with ⟨entry, hentry, -⟩
    have hread := toUtf8_eq hindex hentry
    rcases utf8ToWString_cases mb (decoded entry) with ⟨wide, hwide, hlength⟩ | ⟨message, hwide⟩
    · exact Or.inl ⟨_, getStringWide_eq hindex hread buffer bufferSize hwide,
        Or.inr (ofNat_nonneg hlength)⟩
    · exact Or.inr ⟨message, getStringWide_refused hindex hread buffer bufferSize hwide⟩
  · refine Or.inl ⟨(-1, buffer), ?_, Or.inl rfl⟩
    simp [C_GetStringWide, UInt16.not_lt.1 hindex]

/-- A string getter returns -1 with an error, or a length without one, and changes no instance. -/
theorem stringCall_ends {α : Type} {w : AbiState} {handle : PexReaderHandle} (hw : w.Sound)
    (h : w.Accepts handle) {buffer : Option (List α)} {bufferSize : Int32}
    (invalidMessage tooSmallMessage : String)
    {implementation : Option PexData → Except Fault (Int32 × Option (List α))}
    (himpl : Measures implementation) :
    ∃ result e, stringCall handle buffer bufferSize invalidMessage tooSmallMessage implementation
        w = .ok result { w with lastAbiError := e } ∧
      ((result.1 = -1 ∧ e.status.IsError ∧ e.status ≠ .internalError) ∨
        (result.1 ≠ -1 ∧ ¬ e.status.IsError ∧ ∃ d, w.heap handle = some d)) := by
  by_cases hrequest : handle = 0 ∨ bufferSize < 0 ∨ (buffer = none ∧ bufferSize ≠ 0)
  · refine ⟨_, _, stringCall_invalid _ _ hrequest, Or.inl ⟨rfl, ?_⟩⟩
    simp [PexReaderStatus.IsError, setAbiError]
  · -- The request is in order and gets to the implementation.
    have hnull : handle ≠ 0 := fun hzero => hrequest (Or.inl hzero)
    have hsize : 0 ≤ bufferSize := Int32.not_lt.1 fun hneg => hrequest (Or.inr (Or.inl hneg))
    have hbuffer : buffer = none → bufferSize = 0 := fun hnone => by
      by_contra hne
      exact hrequest (Or.inr (Or.inr ⟨hnone, hne⟩))
    rcases AbiState.Accepts.cases hw h with hzero | ⟨-, d, hlive, hd⟩
    · exact absurd hzero hnull
    · rcases himpl d hd with ⟨result, hresult, hlength⟩ | ⟨message, hthrown⟩
      · refine ⟨result, _, stringCall_live _ _ hnull hlive hsize hbuffer hresult, ?_⟩
        rcases hlength with hminus | hlength
        · left
          rw [hminus, if_pos (by decide)]
          simp [PexReaderStatus.IsError, setAbiError]
        · right
          have hne : result.1 ≠ -1 := by
            intro hminus
            rw [hminus] at hlength
            exact absurd hlength (by decide)
          refine ⟨hne, ?_, d, hlive⟩
          rw [if_neg (Int32.not_lt.2 hlength)]
          split_ifs <;> simp [PexReaderStatus.IsError, setAbiError]
      · refine ⟨_, _, stringCall_thrown _ _ hnull hlive hsize hbuffer hthrown, Or.inl ⟨rfl, ?_⟩⟩
        simp [PexReaderStatus.IsError, captureAbiException, setAbiError]

/-! ## Getters behind `PEX_ABI_HANDLE_RETURN` -/

/-- The indices of the call lead to an element. -/
def RecordCall.finds (d : PexData) : RecordCall → Bool
  | getDebugFunctionInfo index _ => d.debugInfo.functions[index.toNat]?.isSome
  | getUserFlagInfo index _ => d.userFlags[index.toNat]?.isSome
  | getObjectInfo index _ => (d.findObject index).isSome
  | getObjectData o _ => (d.findObject o).isSome
  | getVariableInfo o v _ => (d.findVariable o v).isSome
  | getPropertyInfo o p _ => (d.findProperty o p).isSome
  | getStateInfo o s _ => (d.findState o s).isSome
  | getStateFunctionInfo o s f _ => (d.findFunction o s f).isSome
  | getInstructionInfo o s f i _ => (d.findInstruction o s f i).isSome
  | getInstructionArgument o s f i a _ => (d.findArgument o s f i a).isSome
  | getFunctionParamInfo o s f p _ => (d.findParam o s f p).isSome
  | getFunctionLocalInfo o s f l _ => (d.findLocal o s f l).isSome

section Getters

variable {w : AbiState} {handle : PexReaderHandle}

/-- A record getter on a live instance returns 1 or 0, and the status is clear either way. -/
theorem record_live {α Out : Type} {d : PexData} (hnull : handle ≠ 0)
    (hlive : w.heap handle = some d) {x : Option α} {out out' : Out} {fill : α → Out}
    {implementation : Option PexData → Except Fault (Int32 × Out)}
    (himpl : implementation (some d) = .ok (Lookup.delivered x out' fill)) :
    (Prod.fst <$> handleReturn (0, out) handle implementation) w =
      .ok (if x.isSome then 1 else 0) { w with lastAbiError := {} } := by
  rw [map_of_ok _ (handleReturn_live hnull hlive _ himpl)]
  cases x with
  | none => rfl
  | some a => rfl

theorem record_ends (hw : w.Sound) (h : w.Accepts handle) (call : RecordCall) :
    (w.heap handle = none ∧ ∃ message, call.exec handle w =
      .ok 0 { w with lastAbiError := setAbiError .invalidArgument message }) ∨
    ∃ d, w.heap handle = some d ∧
      call.exec handle w = .ok (if call.finds d then 1 else 0) { w with lastAbiError := {} } := by
  rcases AbiState.Accepts.cases hw h with rfl | ⟨hnull, d, hlive, hd⟩
  · left
    refine ⟨hw.null, "The PexReader handle is null.", ?_⟩
    cases call <;> exact map_of_ok _ (handleReturn_null _ _)
  · right
    refine ⟨d, hlive, ?_⟩
    cases call with
    | getDebugFunctionInfo index out =>
        exact record_live hnull hlive (hd.exposed.debugFunctionInfo index out)
    | getUserFlagInfo index out =>
        exact record_live hnull hlive (hd.exposed.userFlagInfo index out)
    | getObjectInfo index out => exact record_live hnull hlive (hd.exposed.objectInfo index out)
    | getObjectData o out => exact record_live hnull hlive (hd.exposed.objectData o out)
    | getVariableInfo o v out => exact record_live hnull hlive (hd.exposed.variableInfo o v out)
    | getPropertyInfo o p out => exact record_live hnull hlive (hd.exposed.propertyInfo o p out)
    | getStateInfo o s out => exact record_live hnull hlive (hd.exposed.stateInfo o s out)
    | getStateFunctionInfo o s f out =>
        exact record_live hnull hlive (hd.exposed.stateFunctionInfo o s f out)
    | getInstructionInfo o s f i out =>
        exact record_live hnull hlive (hd.exposed.instructionInfo o s f i out)
    | getInstructionArgument o s f i a out =>
        exact record_live hnull hlive (hd.exposed.instructionArgument o s f i a out)
    | getFunctionParamInfo o s f p out =>
        exact record_live hnull hlive (hd.exposed.functionParamInfo o s f p out)
    | getFunctionLocalInfo o s f l out =>
        exact record_live hnull hlive (hd.exposed.functionLocalInfo o s f l out)

variable (hw : w.Sound) (h : w.Accepts handle)

include hw h

/-- A getter of values that does not fault changes no instance. -/
theorem handleReturn_ends {α : Type} (failureValue : α)
    {implementation : Option PexData → Except Fault α}
    (himpl : ∀ d : PexData, d.Consistent → ∃ result, implementation (some d) = .ok result) :
    ∃ e, e.status ≠ .internalError ∧ discard (handleReturn failureValue handle implementation) w =
      .ok () { w with lastAbiError := e } := by
  rcases AbiState.Accepts.cases hw h with rfl | ⟨hnull, d, hlive, hd⟩
  · exact ⟨_, by simp [setAbiError], discard_of_ok (handleReturn_null _ _)⟩
  · rcases himpl d hd with ⟨result, hresult⟩
    exact ⟨_, by simp, discard_of_ok (handleReturn_live hnull hlive _ hresult)⟩

theorem value_ends (call : ValueCall) :
    ∃ e, e.status ≠ .internalError ∧ call.exec handle w = .ok () { w with lastAbiError := e } := by
  cases call with
  | getVariableCount o =>
      exact handleReturn_ends hw h _ fun d hd => (hd.exposed.variableCount o).imp fun _ hn => hn.1
  | getPropertyCount o =>
      exact handleReturn_ends hw h _ fun d hd => (hd.exposed.propertyCount o).imp fun _ hn => hn.1
  | getStateCount o =>
      exact handleReturn_ends hw h _ fun d hd => (hd.exposed.stateCount o).imp fun _ hn => hn.1
  | getFunctionParamCount o s f =>
      exact handleReturn_ends hw h _ fun d hd =>
        (hd.exposed.functionParamCount o s f).imp fun _ hn => hn.1
  | getFunctionLocalCount o s f =>
      exact handleReturn_ends hw h _ fun d hd =>
        (hd.exposed.functionLocalCount o s f).imp fun _ hn => hn.1
  -- The others read a field.
  | _ => exact handleReturn_ends hw h _ fun d _ => ⟨_, rfl⟩

end Getters

/-! ## Calls that return a code -/

namespace CodeCall

/-- -1 for the string getters, 0 for the others. -/
def failureValue : CodeCall → Int32
  | getStringUtf8 _ _ _ _ => -1
  | getStringWide _ _ _ _ => -1
  | _ => 0

/-- A record getter on a live instance whose indices lead to no element. -/
def Misses (w : AbiState) : CodeCall → Prop
  | record handle call => ∃ d, w.heap handle = some d ∧ call.finds d = false
  | _ => False

/-- A `C_ModifyStringTable` with a string that is too long for an entry that exists. -/
def Overlong (w : AbiState) : CodeCall → Prop
  | modifyStringTable handle index utf8String => w.Overlong handle index utf8String
  | _ => False

/-- What an accepted call returns, and what it makes of the instance behind its handle. -/
def Effect (d : PexData) (code : Int32) (d' : PexData) : CodeCall → Prop
  | readPex _ pexPath => code = 1 ∧ ∃ file, pexPath = some file ∧ d.load file = .ok () d'
  | modifyStringTable _ index utf8String =>
      code = 1 ∧ ∃ str, utf8String = some str ∧ index < d.stringTable.count ∧
        EntryFits (cString str) ∧ d' = d.withString index.toNat (cString str)
  | call => code ≠ call.failureValue ∧ d' = d

/-- The ways in which a call on a handle that is null or live ends. -/
inductive Ends (w : AbiState) (call : CodeCall) : Int32 → AbiState → Prop
  /-- The call fails and says why. -/
  | refused (e : AbiErrorState) (hstatus : e.status.IsError) (hmiss : ¬ call.Misses w)
      (hinternal : e.status = .internalError ↔ call.Overlong w) :
      Ends w call call.failureValue { w with lastAbiError := e }
  /-- The call fails and does not say so. -/
  | missed (hmiss : call.Misses w) : Ends w call call.failureValue { w with lastAbiError := {} }
  | accepted (d : PexData) (code : Int32) (d' : PexData) (e : AbiErrorState)
      (hlive : w.heap call.handle = some d) (heffect : call.Effect d code d')
      (hstatus : ¬ e.status.IsError) (hmiss : ¬ call.Misses w) :
      Ends w call code { w.setInst call.handle (some d') with lastAbiError := e }

variable {w : AbiState} {call : CodeCall}

/-- An accepted call that leaves the instance as it is. -/
theorem Ends.answered {d : PexData} {code : Int32} {e : AbiErrorState}
    (hlive : w.heap call.handle = some d) (heffect : call.Effect d code d)
    (hstatus : ¬ e.status.IsError) (hmiss : ¬ call.Misses w) :
    Ends w call code { w with lastAbiError := e } := by
  have hends := Ends.accepted d code d e hlive heffect hstatus hmiss
  rwa [AbiState.setInst_self hlive] at hends

/-- A call that fails as a mistake of the caller, or at a file. -/
theorem Ends.rejected {e : AbiErrorState}
    (hstatus : e.status = .invalidArgument ∨ e.status = .outOfRange ∨ e.status = .parseError ∨
      e.status = .ioError)
    (hmiss : ¬ call.Misses w) (hlong : ¬ call.Overlong w) :
    Ends w call call.failureValue { w with lastAbiError := e } := by
  have hplain : e.status.IsError ∧ e.status ≠ .internalError := by
    rcases hstatus with hstatus | hstatus | hstatus | hstatus <;>
      simp [PexReaderStatus.IsError, hstatus]
  exact .refused e hplain.1 hmiss (iff_of_false hplain.2 hlong)

/-- A string getter is refused or answered. -/
theorem string_ends {α : Type} {exec : AbiM (Int32 × Option (List α))}
    (hfailure : call.failureValue = -1)
    (heffect : ∀ d code, code ≠ -1 → call.Effect d code d) (hmiss : ¬ call.Misses w)
    (hlong : ¬ call.Overlong w)
    (h : ∃ result e, exec w = .ok result { w with lastAbiError := e } ∧
      ((result.1 = -1 ∧ e.status.IsError ∧ e.status ≠ .internalError) ∨
        (result.1 ≠ -1 ∧ ¬ e.status.IsError ∧ ∃ d, w.heap call.handle = some d))) :
    ∃ code w', (Prod.fst <$> exec) w = .ok code w' ∧ call.Ends w code w' := by
  rcases h with ⟨result, e, hexec, hends⟩
  refine ⟨result.1, _, map_of_ok _ hexec, ?_⟩
  rcases hends with ⟨hminus, hstatus, hinternal⟩ | ⟨hcode, hstatus, d, hlive⟩
  · rw [hminus, ← hfailure]
    exact .refused e hstatus hmiss (iff_of_false hinternal hlong)
  · exact .answered hlive (heffect d result.1 hcode) hstatus hmiss

/-- Every call on a handle that is null or live returns, and ends in one of these ways. -/
theorem exec_ends (mb : MultiByteToWideChar) (hw : w.Sound) (h : w.Accepts call.handle) :
    ∃ code w', call.exec mb w = .ok code w' ∧ call.Ends w code w' := by
  have hone : (1 : Int32) ≠ 0 := by decide
  have hok := PexReaderStatus.not_isError_ok
  cases call with
  | readPex handle pexPath =>
      rcases readPex_ends hw h pexPath with
        ⟨d, d', file, hlive, hfile, hload, heq⟩ | ⟨status, message, hstatus, heq⟩
      · exact ⟨_, _, heq, .accepted d 1 d' {} hlive ⟨rfl, file, hfile, hload⟩ hok id⟩
      · exact ⟨_, _, heq, .rejected (hstatus.imp_right fun hparse => Or.inr (Or.inl hparse)) id id⟩
  | modifyStringTable handle index utf8String =>
      rcases modifyStringTable_ends hw h index utf8String with
        ⟨d, str, hlive, hstr, hindex, hfits, heq⟩ | ⟨e, hstatus, hnot, heq⟩ |
        ⟨e, hstatus, hlong, heq⟩
      · exact ⟨_, _, heq,
          .accepted d 1 _ {} hlive ⟨rfl, str, hstr, hindex, hfits, rfl⟩ hok id⟩
      · exact ⟨_, _, heq, .rejected (hstatus.imp_right Or.inl) id hnot⟩
      · refine ⟨_, _, heq, .refused e ?_ id (iff_of_true hstatus hlong)⟩
        simp [PexReaderStatus.IsError, hstatus]
  | savePex handle pexPath =>
      rcases savePex_ends hw h pexPath with ⟨d, device, hlive, -, -, heq⟩ | ⟨e, hstatus, -, heq⟩
      · exact ⟨_, _, map_of_ok _ heq, .answered hlive ⟨hone, rfl⟩ hok id⟩
      · exact ⟨_, _, map_of_ok _ heq,
          .rejected (hstatus.imp_right fun hio => Or.inr (Or.inr hio)) id id⟩
  | getStringUtf8 handle index buffer bufferSize =>
      exact string_ends rfl (fun d code hcode => ⟨hcode, rfl⟩) id id
        (stringCall_ends hw h _ _ (measures_utf8 index buffer bufferSize))
  | getStringWide handle index buffer bufferSize =>
      exact string_ends rfl (fun d code hcode => ⟨hcode, rfl⟩) id id
        (stringCall_ends hw h _ _ (measures_wide mb index buffer bufferSize))
  | record handle call =>
      rcases record_ends hw h call with ⟨hnone, message, heq⟩ | ⟨d, hlive, heq⟩
      · simp only [CodeCall.handle] at hnone
        refine ⟨_, _, heq, .rejected (Or.inl rfl) ?_ id⟩
        simp [Misses, hnone]
      · simp only [CodeCall.handle] at hlive
        cases hfinds : call.finds d with
        | false =>
            rw [hfinds] at heq
            exact ⟨_, _, heq, .missed ⟨d, hlive, hfinds⟩⟩
        | true =>
            rw [hfinds] at heq
            refine ⟨_, _, heq, .answered hlive ⟨hone, rfl⟩ hok ?_⟩
            simp [Misses, hlive, hfinds]

end CodeCall

end PexReader
