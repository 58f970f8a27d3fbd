import PexReader.Abi.Wrappers
import PexReader.Format.Focus
import PexReader.Model.Replies

/-!
# Confinement — a call touches one instance and the error state

Every exported function works on the instance behind its handle and on the error state of the
thread.  It neither changes another instance nor looks at one: its reply, the instance and the error
state behind it are those of a caller who has no other instance.
-/

namespace PexReader

open Focus

namespace AbiState

/-- What is behind a handle, and the error state. -/
def part (handle : PexReaderHandle) : Lens AbiState (Option PexData × AbiErrorState) where
  get w := (w.heap handle, w.lastAbiError)
  put p w := { heap := Function.update w.heap handle p.1, lastAbiError := p.2 }
  get_put p w := by simp
  put_get w := by simp
  put_put p q w := by simp

/-- What is behind a handle. -/
def slot (handle : PexReaderHandle) : Lens AbiState (Option PexData) where
  get w := w.heap handle
  put inst w := w.setInst handle inst
  get_put inst w := by simp [setInst]
  put_get w := by simp [setInst]
  put_put inst inst' w := by simp [setInst]

theorem part_disjoint {handle other : PexReaderHandle} (h : other ≠ handle) :
    (part handle).Disjoint (slot other) := by
  intro p inst w
  simp only [part, slot, setInst]
  rw [Function.update_comm h]

end AbiState

open AbiState

section Wrappers

variable {α : Type} {handle : PexReaderHandle}

theorem confines_setError (status : PexReaderStatus) (message : String) :
    (part handle).Confines (setError status message) := by
  refine .of_part (fun p => .ok () (p.1, setAbiError status message)) fun w => ?_
  change EStateM.Result.ok () { w with lastAbiError := setAbiError status message } = _
  simp [relocate, part]

theorem confines_validateHandle : (part handle).Confines (validateHandle handle) := by
  unfold validateHandle
  split_ifs
  · exact .pure true
  · exact (confines_setError _ _).bind fun _ => .pure false

/-- The end of an implementation function, with the error state beside the instance. -/
def settlePart (outcome : Except Fault α) (p : Option PexData × AbiErrorState) :
    EStateM.Result Interruption (Option PexData × AbiErrorState) α :=
  match outcome with
  | .ok result => .ok result p
  | .error fault => .error fault.interruption p

theorem settle_eq (handle : PexReaderHandle) (outcome : Except Fault α) (w : AbiState)
    (p : Option PexData × AbiErrorState) :
    settle outcome ((part handle).put p w) =
      relocate (fun p => (part handle).put p w) (settlePart outcome p) := by
  cases outcome <;> rfl

/-- `onInst`, with the error state beside the instance. -/
def onInstPart (handle : PexReaderHandle)
    (implementation : Option PexData → Except Fault α × Option PexData)
    (p : Option PexData × AbiErrorState) :
    EStateM.Result Interruption (Option PexData × AbiErrorState) α :=
  if handle = 0 then settlePart (implementation none).1 p
  else
    match p.1 with
    | none => .error (.undefined .danglingHandle) p
    | some self => settlePart (implementation (some self)).1 ((implementation (some self)).2, p.2)

theorem confines_onInst
    (implementation : Option PexData → Except Fault α × Option PexData) :
    (part handle).Confines (onInst handle implementation) := by
  refine .of_part (onInstPart handle implementation) fun w => ?_
  have hback := (part handle).put_get w
  have hpart : ((part handle).get w).1 = w.heap handle := rfl
  unfold onInst onInstPart
  split_ifs with hnull
  · rw [← settle_eq, hback]
  · rw [hpart]
    cases w.heap handle with
    | none =>
        dsimp only [relocate]
        rw [hback]
    | some self => exact settle_eq handle _ w ((implementation (some self)).2, w.lastAbiError)

/-- `InvokeAbi` of an action on the instance and the error state. -/
def invokePart (failureValue : α)
    (action : EStateM Interruption (Option PexData × AbiErrorState) α)
    (p : Option PexData × AbiErrorState) :
    EStateM.Result Undefined (Option PexData × AbiErrorState) α :=
  match action (p.1, {}) with
  | .ok result p => .ok result p
  | .error (.exception e) p => .ok failureValue (p.1, captureAbiException e)
  | .error (.undefined u) p => .error u p

/-- `InvokeAbi` clears the error state before the action and sets it behind an exception. -/
theorem confines_invokeAbi {action : AbiAction α} (h : (part handle).Confines action)
    (failureValue : α) : (part handle).Confines (invokeAbi failureValue action) := by
  rcases h with ⟨y, rfl⟩
  refine .of_part (invokePart failureValue y) fun w => ?_
  have hclear : (part handle).get { w with lastAbiError := {} } = (w.heap handle, {}) := rfl
  have hget : ((part handle).get w).1 = w.heap handle := rfl
  simp only [invokeAbi, invokePart, Lens.zoom, hclear, hget]
  cases y (w.heap handle, {}) with
  | ok result p => rfl
  | error e p =>
      cases e <;> rfl

theorem confines_handleReturn (failureValue : α)
    (implementation : Option PexData → Except Fault α) :
    (part handle).Confines (handleReturn failureValue handle implementation) := by
  refine confines_invokeAbi (confines_validateHandle.bind fun valid => ?_) failureValue
  split_ifs
  · exact confines_onInst _
  · exact .pure failureValue

theorem confines_pointerCall (failureValue : α) (isNull : Bool) (nullMessage : String)
    (implementation : Option PexData → Except Fault α × Option PexData) (failed : α → Bool)
    (status : PexReaderStatus) (message : String) :
    (part handle).Confines (pointerCall failureValue handle isNull nullMessage implementation failed
      status message) := by
  refine confines_invokeAbi (confines_validateHandle.bind fun valid => ?_) failureValue
  split_ifs
  · exact (confines_setError _ _).bind fun _ => .pure failureValue
  · exact .pure failureValue
  · refine (confines_onInst _).bind fun result => ?_
    dsimp only
    split_ifs
    · exact (confines_setError _ _).bind fun _ => .pure result
    · exact .pure result

theorem confines_stringCall (buffer : Option (List α)) (bufferSize : Int32)
    (invalidMessage tooSmallMessage : String)
    (implementation : Option PexData → Except Fault (Int32 × Option (List α))) :
    (part handle).Confines (stringCall handle buffer bufferSize invalidMessage tooSmallMessage
      implementation) := by
  refine confines_invokeAbi (confines_validateHandle.bind fun valid => ?_) _
  dsimp only
  split_ifs
  · exact (confines_setError _ _).bind fun _ => .pure _
  · refine (confines_onInst _).bind fun result => ?_
    split_ifs
    · exact (confines_setError _ _).bind fun _ => .pure result
    · exact (confines_setError _ _).bind fun _ => .pure result
    · exact .pure result

end Wrappers

/-! ## Calls -/

/-- The instance that a call works on, or null. -/
def AbiCall.target : AbiCall → PexReaderHandle
  | createInstance (some handle) => handle
  | destroyInstance handle => handle
  | close handle => handle
  | code call => call.handle
  | value handle _ => handle
  | _ => 0

section Calls

variable {mb : MultiByteToWideChar} {handle : PexReaderHandle}

theorem confines_record (call : RecordCall) : (part handle).Confines (call.call handle) := by
  cases call <;> exact confines_handleReturn _ _

theorem confines_value (call : ValueCall) : (part handle).Confines (call.call handle) := by
  cases call <;> exact confines_handleReturn _ _

theorem confines_code (call : CodeCall) : (part call.handle).Confines (call.call mb) := by
  cases call with
  | readPex handle pexPath => exact confines_pointerCall _ _ _ _ _ _ _
  | modifyStringTable handle index utf8String => exact confines_pointerCall _ _ _ _ _ _ _
  | savePex handle pexPath => exact confines_pointerCall _ _ _ _ _ _ _
  | getStringUtf8 handle index buffer bufferSize => exact confines_stringCall _ _ _ _ _
  | getStringWide handle index buffer bufferSize => exact confines_stringCall _ _ _ _ _
  | record handle call => exact confines_record call

theorem confines_createInstance (handle : PexReaderHandle) :
    (part handle).Confines (Abi.C_CreateInstance (some handle)) := by
  refine confines_invokeAbi ?_ 0
  exact .bind (.of_part (fun p => .ok () (some C_CreateInstance, p.2)) fun _ => rfl) fun _ =>
    .pure handle

theorem confines_close : (part handle).Confines (Abi.C_Close handle) := by
  refine confines_invokeAbi ?_ ()
  split_ifs
  · exact confines_onInst _
  · exact .pure ()

/-- The functions that ask for the status change nothing. -/
theorem confines_status {α : Type} (handle : PexReaderHandle) (f : AbiErrorState → α) :
    (part handle).Confines (fun w => .ok (f w.lastAbiError) w : AbiM α) := by
  refine .of_part (fun p => .ok (f p.2) p) fun w => ?_
  change _ = EStateM.Result.ok _ ((part handle).put ((part handle).get w) w)
  rw [(part handle).put_get]
  rfl

/-- `C_GetLastErrorUtf8` as a function of the error state. -/
def lastErrorReply (buffer : Option (List UInt8)) (bufferSize : Int32) (e : AbiErrorState) :
    Int32 × Option (List UInt8) :=
  if e.message.length > 2147483647 then (-1, buffer)
  else (Int32.ofNat e.message.length,
    copyOut 0 e.message (Int32.ofNat e.message.length) buffer bufferSize)

theorem getLastErrorUtf8_eq (buffer : Option (List UInt8)) (bufferSize : Int32) :
    Abi.C_GetLastErrorUtf8 buffer bufferSize =
      fun w => .ok (lastErrorReply buffer bufferSize w.lastAbiError) w := by
  funext w
  dsimp only [Abi.C_GetLastErrorUtf8, lastErrorReply, bind, EStateM.bind, get, getThe,
    MonadStateOf.get, EStateM.get]
  split_ifs <;> rfl

theorem confines_call (mb : MultiByteToWideChar) (call : AbiCall) :
    (part call.target).Confines (call.call mb) := by
  cases call with
  | getAbiVersion => exact .pure _
  | getLastStatus => exact confines_status 0 _
  | getLastErrorUtf8 buffer bufferSize =>
      have hstatus := confines_status 0 (lastErrorReply buffer bufferSize)
      rwa [← getLastErrorUtf8_eq] at hstatus
  | getVersion => exact confines_invokeAbi (.pure (some Abi.version)) none
  | getVersionLength => exact confines_invokeAbi (.pure (Int32.ofNat Abi.version.length)) (-1)
  | createInstance allocated =>
      cases allocated with
      | none => exact confines_invokeAbi ((confines_setError _ _).bind fun _ => .pure 0) 0
      | some handle => exact confines_createInstance handle
  | destroyInstance handle => exact confines_invokeAbi (confines_onInst _) ()
  | close handle => exact confines_close
  | code call => exact confines_code call
  | value handle call => exact confines_value call
  | freeBuffer buffer => exact confines_invokeAbi (.pure ()) ()

/-! ### The state behind a call -/

theorem behind_record (call : RecordCall) (w : AbiState) :
    behind (call.exec handle w) = behind (call.call handle w) := by
  cases call <;> exact behind_map _ _ _

theorem behind_value (call : ValueCall) (w : AbiState) :
    behind (call.exec handle w) = behind (call.call handle w) := by
  cases call <;> exact behind_map _ _ _

theorem behind_code (call : CodeCall) (w : AbiState) :
    behind (call.exec mb w) = behind (call.call mb w) := by
  cases call with
  | readPex handle pexPath => rfl
  | modifyStringTable handle index utf8String => rfl
  | record handle call => exact behind_record call w
  | _ => exact behind_map _ _ _

theorem next_eq_behind (call : AbiCall) (w : AbiState) :
    call.next mb w = behind (call.call mb w) := by
  have hexec : behind (call.exec mb w) = behind (call.call mb w) := by
    cases call with
    | getLastErrorUtf8 buffer bufferSize => exact behind_map _ _ _
    | createInstance allocated => exact behind_map _ _ _
    | code call => exact (behind_map _ _ _).trans (behind_code call w)
    | value handle call => exact behind_value call w
    | _ => rfl
  rw [← hexec]
  unfold AbiCall.next
  cases call.exec mb w <;> rfl

/-- Every other instance is as it was. -/
theorem heap_next_apart (mb : MultiByteToWideChar) (call : AbiCall) (w : AbiState)
    {other : PexReaderHandle} (h : other ≠ call.target) :
    (call.next mb w).heap other = w.heap other := by
  rw [next_eq_behind]
  exact (confines_call mb call).apart (part_disjoint h) w

/-- Two callers that see the same instance and the same error state get the same reply, and see the
same behind the call. -/
theorem call_congr (mb : MultiByteToWideChar) (call : AbiCall) {w v : AbiState}
    (hheap : w.heap call.target = v.heap call.target) (herror : w.lastAbiError = v.lastAbiError) :
    reply (call.call mb w) = reply (call.call mb v) ∧
      (call.next mb w).heap call.target = (call.next mb v).heap call.target ∧
      (call.next mb w).lastAbiError = (call.next mb v).lastAbiError := by
  have hpart : (part call.target).get w = (part call.target).get v := Prod.ext hheap herror
  have hcongr := (confines_call mb call).reply_congr hpart
  rw [next_eq_behind, next_eq_behind]
  exact ⟨hcongr.1, congrArg Prod.fst hcongr.2, congrArg Prod.snd hcongr.2⟩

end Calls

end PexReader
