import PexReader.Abi.Confinement
import PexReader.Abi.Outcomes

/-!
# ErrorText — the texts behind the status

Every text that a call leaves behind is one of a short list, and none of them is cut by the 256
bytes of `Message`.  So `C_GetLastErrorUtf8` never fails, whatever was called before, and a buffer
of 256 bytes holds any of its answers.
-/

namespace PexReader

open Focus

/-- What `SetAbiError` is called with. -/
def errorTexts : List (PexReaderStatus × String) :=
  [(.outOfMemory, "PexReader could not allocate required memory."),
    (.invalidArgument, "PexReader rejected an invalid argument."),
    (.outOfRange, "PexReader rejected an out-of-range value."),
    (.ioError, "PexReader encountered an input or output error."),
    (.internalError, "PexReader encountered an internal error."),
    (.internalError, "PexReader encountered an unknown internal error."),
    (.invalidArgument, "The PexReader handle is null."),
    (.outOfMemory, "PexReader could not create an instance."),
    (.invalidArgument, "The PEX input path is null."),
    (.parseError, "The PEX file could not be opened or parsed."),
    (.invalidArgument, "The replacement UTF-8 string is null."),
    (.outOfRange, "The string table index is out of range."),
    (.invalidArgument, "The PEX output path is null."),
    (.ioError, "The PEX file could not be saved."),
    (.invalidArgument, "The UTF-8 string request is invalid."),
    (.bufferTooSmall, "The UTF-8 output buffer is too small."),
    (.invalidArgument, "The UTF-16 string request is invalid."),
    (.bufferTooSmall, "The UTF-16 output buffer is too small.")]

def utf8Text (message : String) : List UInt8 :=
  message.toList.flatMap String.utf8EncodeChar

/-- The error state is clear, or as one of the texts leaves it. -/
def Listed (w : AbiState) : Prop :=
  w.lastAbiError = {} ∨ ∃ text ∈ errorTexts, w.lastAbiError = setAbiError text.1 text.2

/-- A text that is shorter than `Message` is not cut. -/
theorem message_setAbiError {status : PexReaderStatus} {message : String}
    (h : (utf8Text message).length < messageSize) :
    (setAbiError status message).message = utf8Text message :=
  List.take_of_length_le (Nat.le_sub_one_of_lt h)

/-- The texts are shorter than `Message`, none is empty, and none has a terminator in it or comes
with the status of success. -/
theorem errorTexts_spec : ∀ text ∈ errorTexts, text.1 ≠ .ok ∧ utf8Text text.2 ≠ [] ∧
    0 ∉ utf8Text text.2 ∧ (utf8Text text.2).length < messageSize := by
  decide

section Wrappers

variable {α : Type} {handle : PexReaderHandle}

theorem listed_setAbiError (w : AbiState) {status : PexReaderStatus} {message : String}
    (h : (status, message) ∈ errorTexts) :
    Listed { w with lastAbiError := setAbiError status message } :=
  Or.inr ⟨_, h, rfl⟩

theorem keeps_setError {status : PexReaderStatus} {message : String}
    (h : (status, message) ∈ errorTexts) : Keeps Listed (setError status message) :=
  fun w _ => listed_setAbiError w h

theorem keeps_validateHandle : Keeps Listed (validateHandle handle) := by
  unfold validateHandle
  split_ifs
  · exact .pure true
  · exact (keeps_setError (by decide)).bind fun _ => .pure false

theorem keeps_onInst (implementation : Option PexData → Except Fault α × Option PexData) :
    Keeps Listed (onInst handle implementation) := by
  intro w hw
  have hsettle : ∀ (outcome : Except Fault α) (w' : AbiState), w'.lastAbiError = w.lastAbiError →
      Listed (behind (settle outcome w')) := by
    intro outcome w' herror
    cases outcome <;> simpa [Listed, settle, herror] using hw
  unfold onInst
  split_ifs
  · exact hsettle _ _ rfl
  · cases w.heap handle with
    | none => exact hw
    | some self => exact hsettle _ _ rfl

theorem listed_captureAbiException (w : AbiState) (e : AbiException) :
    Listed { w with lastAbiError := captureAbiException e } := by
  cases e with
  | std e => cases e <;> exact listed_setAbiError w (by decide)
  | _ => exact listed_setAbiError w (by decide)

theorem keeps_invokeAbi {action : AbiAction α} (h : Keeps Listed action) (failureValue : α) :
    Keeps Listed (invokeAbi failureValue action) := by
  intro w _
  have hclear := h { w with lastAbiError := {} } (Or.inl rfl)
  unfold invokeAbi
  cases hrun : action { w with lastAbiError := {} } with
  | ok result w' =>
      rw [hrun] at hclear
      exact hclear
  | error e w' =>
      rw [hrun] at hclear
      cases e with
      | exception e => exact listed_captureAbiException w' e
      | undefined u => exact hclear

theorem keeps_handleReturn (failureValue : α)
    (implementation : Option PexData → Except Fault α) :
    Keeps Listed (handleReturn failureValue handle implementation) := by
  refine keeps_invokeAbi (keeps_validateHandle.bind fun valid => ?_) failureValue
  split_ifs
  · exact keeps_onInst _
  · exact .pure failureValue

theorem keeps_pointerCall (failureValue : α) (isNull : Bool) {nullMessage : String}
    (implementation : Option PexData → Except Fault α × Option PexData) (failed : α → Bool)
    {status : PexReaderStatus} {message : String}
    (hnull : (.invalidArgument, nullMessage) ∈ errorTexts) (h : (status, message) ∈ errorTexts) :
    Keeps Listed (pointerCall failureValue handle isNull nullMessage implementation failed status
      message) := by
  refine keeps_invokeAbi (keeps_validateHandle.bind fun valid => ?_) failureValue
  split_ifs
  · exact (keeps_setError hnull).bind fun _ => .pure failureValue
  · exact .pure failureValue
  · refine (keeps_onInst _).bind fun result => ?_
    dsimp only
    split_ifs
    · exact (keeps_setError h).bind fun _ => .pure result
    · exact .pure result

theorem keeps_stringCall (buffer : Option (List α)) (bufferSize : Int32)
    {invalidMessage tooSmallMessage : String}
    (implementation : Option PexData → Except Fault (Int32 × Option (List α)))
    (hinvalid : (.invalidArgument, invalidMessage) ∈ errorTexts)
    (hsmall : (.bufferTooSmall, tooSmallMessage) ∈ errorTexts) :
    Keeps Listed (stringCall handle buffer bufferSize invalidMessage tooSmallMessage
      implementation) := by
  refine keeps_invokeAbi (keeps_validateHandle.bind fun valid => ?_) _
  dsimp only
  split_ifs
  · exact (keeps_setError hinvalid).bind fun _ => .pure _
  · refine (keeps_onInst _).bind fun result => ?_
    split_ifs
    · exact (keeps_setError (by decide)).bind fun _ => .pure result
    · exact (keeps_setError hsmall).bind fun _ => .pure result
    · exact .pure result

end Wrappers

/-! ## Calls -/

section Calls

variable {mb : MultiByteToWideChar}

theorem keeps_record {handle : PexReaderHandle} (call : RecordCall) :
    Keeps Listed (call.call handle) := by
  cases call <;> exact keeps_handleReturn _ _

theorem keeps_value {handle : PexReaderHandle} (call : ValueCall) :
    Keeps Listed (call.call handle) := by
  cases call <;> exact keeps_handleReturn _ _

theorem keeps_code (call : CodeCall) : Keeps Listed (call.call mb) := by
  cases call with
  | readPex handle pexPath => exact keeps_pointerCall _ _ _ _ (by decide) (by decide)
  | modifyStringTable handle index utf8String =>
      exact keeps_pointerCall _ _ _ _ (by decide) (by decide)
  | savePex handle pexPath => exact keeps_pointerCall _ _ _ _ (by decide) (by decide)
  | getStringUtf8 handle index buffer bufferSize =>
      exact keeps_stringCall _ _ _ (by decide) (by decide)
  | getStringWide handle index buffer bufferSize =>
      exact keeps_stringCall _ _ _ (by decide) (by decide)
  | record handle call => exact keeps_record call

theorem keeps_createInstance (handle : PexReaderHandle) :
    Keeps Listed (Abi.C_CreateInstance (some handle)) := by
  refine keeps_invokeAbi ?_ 0
  exact .bind (fun _ hw => hw) fun _ => .pure handle

theorem keeps_call (call : AbiCall) : Keeps Listed (call.call mb) := by
  cases call with
  | getAbiVersion => exact .pure _
  | getLastStatus => exact fun _ hw => hw
  | getLastErrorUtf8 buffer bufferSize =>
      intro w hw
      change Listed (behind (Abi.C_GetLastErrorUtf8 buffer bufferSize w))
      rw [getLastErrorUtf8_eq]
      exact hw
  | getVersion => exact keeps_invokeAbi (.pure (some Abi.version)) none
  | getVersionLength => exact keeps_invokeAbi (.pure (Int32.ofNat Abi.version.length)) (-1)
  | createInstance allocated =>
      cases allocated with
      | none =>
          exact keeps_invokeAbi ((keeps_setError (by decide)).bind fun _ => .pure 0) 0
      | some handle => exact keeps_createInstance handle
  | destroyInstance handle => exact keeps_invokeAbi (keeps_onInst _) ()
  | close handle =>
      refine keeps_invokeAbi ?_ ()
      split_ifs
      · exact keeps_onInst _
      · exact .pure ()
  | code call => exact keeps_code call
  | value handle call => exact keeps_value call
  | freeBuffer buffer => exact keeps_invokeAbi (.pure ()) ()

end Calls

/-- What `C_GetLastErrorUtf8` does with the buffers of a caller, where the text is `text`. -/
structure ErrorProtocol (w : AbiState) (text : List UInt8) (length : Int32) : Prop where
  narrowed : length.toInt = text.length
  /-- The length is asked for, and the status and the text stay as they are. -/
  query : Abi.C_GetLastErrorUtf8 none 0 w = .ok (length, none) w
  fits : ∀ contents bufferSize, bufferSize.toInt = contents.length → text.length < contents.length →
    Abi.C_GetLastErrorUtf8 (some contents) bufferSize w =
      .ok (length, some (text ++ 0 :: contents.drop (text.length + 1))) w
  short : ∀ contents bufferSize, bufferSize.toInt = contents.length →
    contents.length ≤ text.length →
    Abi.C_GetLastErrorUtf8 (some contents) bufferSize w = .ok (length, some contents) w

theorem errorProtocol {w : AbiState} (h : w.lastAbiError.message.length < messageSize) :
    ErrorProtocol w w.lastAbiError.message (Int32.ofNat w.lastAbiError.message.length) := by
  have hsmall : ¬ w.lastAbiError.message.length > 2147483647 := by
    unfold messageSize at h
    omega
  have hnarrow : (Int32.ofNat w.lastAbiError.message.length).toInt =
      w.lastAbiError.message.length := Int32.toInt_ofNat_of_lt (by omega)
  have hreply : ∀ buffer bufferSize, Abi.C_GetLastErrorUtf8 buffer bufferSize w =
      .ok (Int32.ofNat w.lastAbiError.message.length, copyOut 0 w.lastAbiError.message
        (Int32.ofNat w.lastAbiError.message.length) buffer bufferSize) w := by
    intro buffer bufferSize
    rw [getLastErrorUtf8_eq]
    simp only [lastErrorReply, if_neg hsmall]
  refine ⟨hnarrow, hreply none 0, ?_, ?_⟩
  · intro contents bufferSize hcapacity hlt
    have hsize : Int32.ofNat w.lastAbiError.message.length < bufferSize := by
      rw [Int32.lt_iff_toInt_lt]
      omega
    rw [hreply, copyOut_of_lt hsize]
  · intro contents bufferSize hcapacity hle
    have hsize : bufferSize ≤ Int32.ofNat w.lastAbiError.message.length := by
      rw [Int32.le_iff_toInt_le]
      omega
    rw [hreply, copyOut_of_le hsize]

/-- Behind every run of calls the text is empty exactly if the status is that of success; else it is
one of the texts of the source in full.  It has no terminator in it, and a buffer of 256 bytes is
always large enough for `C_GetLastErrorUtf8`, which never fails and changes nothing. -/
theorem error_text_in_full (mb : MultiByteToWideChar) (calls : List AbiCall) :
    ((runAbi mb calls).lastAbiError.status = .ok ↔
      (runAbi mb calls).lastAbiError.message = []) ∧
    ((runAbi mb calls).lastAbiError.status ≠ .ok → ∃ text ∈ errorTexts,
      (runAbi mb calls).lastAbiError.status = text.1 ∧
        (runAbi mb calls).lastAbiError.message = utf8Text text.2) ∧
    0 ∉ (runAbi mb calls).lastAbiError.message ∧
    (runAbi mb calls).lastAbiError.message.length < 256 ∧
    ∃ length, ErrorProtocol (runAbi mb calls) (runAbi mb calls).lastAbiError.message length := by
  have hstep : ∀ (call : AbiCall) (w : AbiState), Listed w → True → Listed (call.next mb w) := by
    intro call w hw _
    rw [next_eq_behind]
    exact keeps_call call w hw
  have hlisted : Listed (runAbi mb calls) := Stepping.invariant hstep (Or.inl rfl)
    (Stepping.each_of_forall (AbiCall.next mb) (fun _ _ => trivial) calls {})
  rcases hlisted with hclear | ⟨text, hmem, htext⟩
  · have hempty : (runAbi mb calls).lastAbiError.message = [] := by rw [hclear]
    have hok : (runAbi mb calls).lastAbiError.status = .ok := by rw [hclear]
    refine ⟨iff_of_true hok hempty, fun hnot => absurd hok hnot, ?_, ?_, _, errorProtocol ?_⟩
    · simp [hempty]
    · simp [hempty]
    · simp [hempty, messageSize]
  · rcases errorTexts_spec text hmem with ⟨hnot, hne, hnul, hlength⟩
    have htext' : (runAbi mb calls).lastAbiError.message = utf8Text text.2 := by
      rw [htext, message_setAbiError hlength]
    have hstatus : (runAbi mb calls).lastAbiError.status = text.1 := by rw [htext]; rfl
    have hprotocol := errorProtocol (w := runAbi mb calls) (by rwa [htext'])
    rw [htext'] at hprotocol
    rw [htext', hstatus]
    exact ⟨iff_of_false hnot hne, fun _ => ⟨text, hmem, rfl, rfl⟩, hnul, hlength, _, hprotocol⟩

end PexReader
