import PexReader.Model.AbiCalls
import PexReader.Spec.Document

/-!
# Wrappers — what the wrappers make of an implementation function

The invariant of the ABI state is `AbiState.Sound`: every live instance is consistent.  For each of
the common bodies of the exported functions there is one equation for a handle or an argument that
is refused, one for an implementation function that returns, and one for an exception.
-/

namespace PexReader

/-! ## Sound states -/

structure AbiState.Sound (w : AbiState) : Prop where
  null : w.heap 0 = none
  consistent : ∀ handle d, w.heap handle = some d → d.Consistent

namespace AbiState

/-- Every live instance satisfies `P` behind its handle. -/
def Each (w : AbiState) (P : PexReaderHandle → PexData → Prop) : Prop :=
  ∀ handle d, w.heap handle = some d → P handle d

variable {w : AbiState} {handle : PexReaderHandle}

@[simp] theorem heap_setInst (inst : Option PexData) :
    (w.setInst handle inst).heap = Function.update w.heap handle inst := rfl

/-- Writing back what is there changes nothing. -/
theorem setInst_self {inst : Option PexData} (h : w.heap handle = inst) :
    w.setInst handle inst = w := by
  rw [setInst, ← h, Function.update_eq_self]

theorem sound_start : ({} : AbiState).Sound where
  null := rfl
  consistent := by simp

/-- Soundness, one instance at a time. -/
theorem sound_iff : w.Sound ↔ w.Each fun handle d => handle ≠ 0 ∧ d.Consistent := by
  constructor
  · intro hw handle d hd
    refine ⟨?_, hw.consistent handle d hd⟩
    rintro rfl
    rw [hw.null] at hd
    cases hd
  · intro hall
    exact ⟨Option.eq_none_iff_forall_ne_some.2 fun d hd => (hall 0 d hd).1 rfl,
      fun handle d hd => (hall handle d hd).2⟩

theorem Each.setInst {P : PexReaderHandle → PexData → Prop} (hw : w.Each P)
    {inst : Option PexData} (hinst : ∀ d, inst = some d → P handle d) :
    (w.setInst handle inst).Each P := by
  intro other d hd
  by_cases hother : other = handle
  · subst hother
    rw [heap_setInst, Function.update_self] at hd
    exact hinst d hd
  · rw [heap_setInst, Function.update_of_ne hother] at hd
    exact hw other d hd

/-- A handle the caller may use: null, or that of a consistent instance. -/
theorem Accepts.cases (hw : w.Sound) (h : w.Accepts handle) :
    handle = 0 ∨ handle ≠ 0 ∧ ∃ d, w.heap handle = some d ∧ d.Consistent := by
  by_cases hnull : handle = 0
  · exact Or.inl hnull
  · rcases h with hzero | hlive
    · exact absurd hzero hnull
    · rcases Option.isSome_iff_exists.1 hlive with ⟨d, hd⟩
      exact Or.inr ⟨hnull, d, hd, hw.consistent handle d hd⟩

end AbiState

/-! ## The wrappers -/

section Wrappers

variable {α β : Type} {w : AbiState} {handle : PexReaderHandle} {d : PexData}

/-- `InvokeAbi` clears the error state, so what the call does depends on the instances alone. -/
theorem invokeAbi_congr (failureValue : α) (action : AbiAction α) {w t : AbiState}
    (h : w.heap = t.heap) :
    invokeAbi failureValue action w = invokeAbi failureValue action t := by
  simp [invokeAbi, h]

theorem action_bind (x : AbiAction α) (f : α → AbiAction β) (w : AbiState) :
    (x >>= f) w = match x w with
      | .ok a w => f a w
      | .error e w => .error e w := by
  change EStateM.bind x f w = _
  unfold EStateM.bind
  cases x w <;> rfl

theorem action_pure (a : α) (w : AbiState) : (pure a : AbiAction α) w = .ok a w := rfl

/-- What is made of the result of a call that returns. -/
theorem map_of_ok (f : α → β) {x : AbiM α} {a : α} {w w' : AbiState} (h : x w = .ok a w') :
    (f <$> x) w = .ok (f a) w' := by
  change EStateM.map f x w = _
  simp [EStateM.map, h]

theorem discard_congr {x : AbiM α} {w t : AbiState} (h : x w = x t) :
    discard x w = discard x t := by
  change EStateM.map _ x w = EStateM.map _ x t
  simp [EStateM.map, h]

theorem discard_of_ok {x : AbiM α} {a : α} {w w' : AbiState} (h : x w = .ok a w') :
    discard x w = .ok () w' :=
  map_of_ok _ h

/-- An action that ends with an error set, once `simp` has put it in this form. -/
theorem map_setError (result : α) (status : PexReaderStatus) (message : String) (w : AbiState) :
    ((fun _ => result) <$> setError status message) w =
      .ok result { w with lastAbiError := setAbiError status message } := rfl

theorem validateHandle_of_ne (hnull : handle ≠ 0) : validateHandle handle w = .ok true w := by
  simp [validateHandle, hnull, action_pure]

theorem onInst_live (hnull : handle ≠ 0) (hlive : w.heap handle = some d)
    (implementation : Option PexData → Except Fault α × Option PexData) :
    onInst handle implementation w =
      settle (implementation (some d)).1 (w.setInst handle (implementation (some d)).2) := by
  simp [onInst, hnull, hlive]

/-- The state in which an action on a live instance is run. -/
theorem setInst_cleared (hlive : w.heap handle = some d) :
    ({ w with lastAbiError := {} } : AbiState).setInst handle (some d) =
      { w with lastAbiError := {} } :=
  AbiState.setInst_self hlive

/-! `PEX_ABI_HANDLE_RETURN`. -/

theorem handleReturn_null (failureValue : α) (implementation : Option PexData → Except Fault α) :
    handleReturn failureValue 0 implementation w = .ok failureValue
      { w with lastAbiError := setAbiError .invalidArgument "The PexReader handle is null." } := rfl

theorem handleReturn_live (hnull : handle ≠ 0) (hlive : w.heap handle = some d)
    (failureValue : α) {implementation : Option PexData → Except Fault α} {result : α}
    (h : implementation (some d) = .ok result) :
    handleReturn failureValue handle implementation w =
      .ok result { w with lastAbiError := {} } := by
  have honInst := onInst_live (w := { w with lastAbiError := {} }) hnull hlive
    fun inst => (implementation inst, inst)
  simp [handleReturn, invokeAbi, action_bind, validateHandle_of_ne hnull, honInst, settle, h,
    setInst_cleared hlive]

/-! `C_ReadPex`, `C_ModifyStringTable` and `C_SavePex`. -/

section

variable (failureValue : α) (nullMessage : String)
  {implementation : Option PexData → Except Fault α × Option PexData}
  (failed : α → Bool) (status : PexReaderStatus) (message : String)

theorem pointerCall_refused {isNull : Bool} (h : handle = 0 ∨ isNull = true) :
    ∃ text, pointerCall failureValue handle isNull nullMessage implementation failed status message
        w = .ok failureValue { w with lastAbiError := setAbiError .invalidArgument text } := by
  by_cases hnull : handle = 0
  · subst hnull
    cases isNull with
    | true => exact ⟨nullMessage, rfl⟩
    | false => exact ⟨_, rfl⟩
  · rcases h with hzero | rfl
    · exact absurd hzero hnull
    · refine ⟨nullMessage, ?_⟩
      simp [pointerCall, invokeAbi, action_bind, validateHandle_of_ne hnull, map_setError]

theorem pointerCall_live (hnull : handle ≠ 0) (hlive : w.heap handle = some d) {result : α}
    {inst : Option PexData} (h : implementation (some d) = (.ok result, inst))
    (hfailed : failed result = false) :
    pointerCall failureValue handle false nullMessage implementation failed status message w =
      .ok result { w.setInst handle inst with lastAbiError := {} } := by
  have honInst := onInst_live (w := { w with lastAbiError := {} }) hnull hlive implementation
  simp only [h, settle] at honInst
  simp [pointerCall, invokeAbi, action_bind, validateHandle_of_ne hnull, honInst, hfailed,
    action_pure, AbiState.setInst]

/-- The implementation has left the instance as it was. -/
theorem pointerCall_kept (hnull : handle ≠ 0) (hlive : w.heap handle = some d) {result : α}
    (h : implementation (some d) = (.ok result, some d)) (hfailed : failed result = false) :
    pointerCall failureValue handle false nullMessage implementation failed status message w =
      .ok result { w with lastAbiError := {} } := by
  have hcall := pointerCall_live failureValue nullMessage failed status message hnull hlive h
    hfailed
  rwa [AbiState.setInst_self hlive] at hcall

/-- The implementation reports a failure and has left the instance as it was. -/
theorem pointerCall_failed (hnull : handle ≠ 0) (hlive : w.heap handle = some d) {result : α}
    (h : implementation (some d) = (.ok result, some d)) (hfailed : failed result = true) :
    pointerCall failureValue handle false nullMessage implementation failed status message w =
      .ok result { w with lastAbiError := setAbiError status message } := by
  have honInst := onInst_live (w := { w with lastAbiError := {} }) hnull hlive implementation
  simp only [h, settle, setInst_cleared hlive] at honInst
  simp [pointerCall, invokeAbi, action_bind, validateHandle_of_ne hnull, honInst, hfailed,
    map_setError]

theorem pointerCall_thrown (hnull : handle ≠ 0) (hlive : w.heap handle = some d)
    {e : StdException} (h : implementation (some d) = (.error (.thrown e), some d)) :
    pointerCall failureValue handle false nullMessage implementation failed status message w =
      .ok failureValue { w with lastAbiError := captureAbiException (.std e) } := by
  have honInst := onInst_live (w := { w with lastAbiError := {} }) hnull hlive implementation
  simp only [h, settle, Fault.interruption, setInst_cleared hlive] at honInst
  simp [pointerCall, invokeAbi, action_bind, validateHandle_of_ne hnull, honInst]

end

/-! The string getters. -/

section

variable {buffer : Option (List α)} {bufferSize : Int32} (invalidMessage tooSmallMessage : String)
  {implementation : Option PexData → Except Fault (Int32 × Option (List α))}

/-- A null handle, a negative capacity, or a capacity without a buffer. -/
theorem stringCall_invalid
    (h : handle = 0 ∨ bufferSize < 0 ∨ (buffer = none ∧ bufferSize ≠ 0)) :
    stringCall handle buffer bufferSize invalidMessage tooSmallMessage implementation w =
      .ok (-1, buffer) { w with lastAbiError := setAbiError .invalidArgument invalidMessage } := by
  by_cases hnull : handle = 0
  · subst hnull
    rfl
  · have hrequest : bufferSize < 0 ∨ (buffer = none ∧ bufferSize ≠ 0) := by
      rcases h with hzero | hrequest
      · exact absurd hzero hnull
      · exact hrequest
    simp [stringCall, invokeAbi, action_bind, validateHandle_of_ne hnull, hrequest,
      map_setError]

/-- A request that is not refused: a capacity that is not negative, and a buffer if it is not 0. -/
theorem request_valid (hsize : 0 ≤ bufferSize) (hbuffer : buffer = none → bufferSize = 0) :
    ¬ (!true || bufferSize < 0 || (buffer.isNone && bufferSize ≠ 0)) = true := by
  have hneg := Int32.not_lt.2 hsize
  cases buffer with
  | none => simp [hbuffer rfl]
  | some contents => simp [hneg]

variable (hnull : handle ≠ 0) (hlive : w.heap handle = some d) (hsize : 0 ≤ bufferSize)
  (hbuffer : buffer = none → bufferSize = 0)

include hnull hlive hsize hbuffer

theorem stringCall_live {result : Int32 × Option (List α)}
    (h : implementation (some d) = .ok result) :
    stringCall handle buffer bufferSize invalidMessage tooSmallMessage implementation w =
      .ok result { w with
        lastAbiError :=
          if result.1 < 0 then
            setAbiError .outOfRange "The string table index is out of range."
          else if buffer.isSome && bufferSize ≤ result.1 then
            setAbiError .bufferTooSmall tooSmallMessage
          else {} } := by
  have honInst := onInst_live (w := { w with lastAbiError := {} }) hnull hlive
    fun inst => (implementation inst, inst)
  simp only [h, settle, setInst_cleared hlive] at honInst
  rcases result with ⟨length, buffer'⟩
  simp only [stringCall, invokeAbi, action_bind, validateHandle_of_ne hnull, honInst,
    if_neg (request_valid hsize hbuffer)]
  split_ifs <;> rfl

theorem stringCall_thrown {e : StdException}
    (h : implementation (some d) = .error (.thrown e)) :
    stringCall handle buffer bufferSize invalidMessage tooSmallMessage implementation w =
      .ok (-1, buffer) { w with lastAbiError := captureAbiException (.std e) } := by
  have honInst := onInst_live (w := { w with lastAbiError := {} }) hnull hlive
    fun inst => (implementation inst, inst)
  simp only [h, settle, Fault.interruption, setInst_cleared hlive] at honInst
  simp only [stringCall, invokeAbi, action_bind, validateHandle_of_ne hnull, honInst,
    if_neg (request_valid hsize hbuffer)]

end

end Wrappers

end PexReader
