import PexReader.Abi.Runs

/-!
# Buffers — the protocol of the string getters

The length of a text is asked for without a buffer, or with one of any size; a buffer that has room
for the text and a terminator is given both.  Two comparisons decide this, one in the implementation
function, which writes, and one in the wrapper, which sets the status; `BufferProtocol` says that
they agree.
-/

namespace PexReader

/-! ## The protocol -/

/-- What a string getter does with the buffers of a caller, for one text.  A buffer has the capacity
that the caller says it has, and may hold anything. -/
structure BufferProtocol {α : Type} (terminator : α)
    (get : Option (List α) → Int32 → AbiM (Int32 × Option (List α))) (w : AbiState)
    (text : List α) (length : Int32) : Prop where
  /-- The conversion to `int` keeps the length. -/
  narrowed : length.toInt = text.length
  /-- The text and the terminator are written, and nothing behind them. -/
  fits : ∀ contents bufferSize, bufferSize.toInt = contents.length → length < bufferSize →
    get (some contents) bufferSize w =
      .ok (length, some (text ++ terminator :: contents.drop (text.length + 1)))
        { w with lastAbiError := {} }
  /-- Nothing is written. -/
  short : ∀ contents bufferSize, bufferSize.toInt = contents.length → bufferSize ≤ length →
    ∃ message, get (some contents) bufferSize w = .ok (length, some contents)
      { w with lastAbiError := setAbiError .bufferTooSmall message }
  query : get none 0 w = .ok (length, none) { w with lastAbiError := {} }
  /-- A query, and a call with the capacity that it asks for. -/
  delivered : ∀ contents bufferSize, bufferSize.toInt = contents.length →
    bufferSize.toInt = length.toInt + 1 →
    (get none 0 >>= fun _ => get (some contents) bufferSize) w =
      .ok (length, some (text ++ [terminator])) { w with lastAbiError := {} }

variable {α : Type} {terminator : α} {w : AbiState} {handle : PexReaderHandle} {d : PexData}
  {text : List α}

section

variable (invalidMessage tooSmallMessage : String)
  {implementation : Option (List α) → Int32 → Option PexData →
    Except Fault (Int32 × Option (List α))}
  (h : ∀ buffer bufferSize, implementation buffer bufferSize (some d) =
    .ok (Int32.ofNat text.length,
      copyOut terminator text (Int32.ofNat text.length) buffer bufferSize))
  (hlength : text.length ≤ 2147483647) (hnull : handle ≠ 0) (hlive : w.heap handle = some d)

include h hlength hnull hlive

theorem stringCall_query :
    stringCall handle none 0 invalidMessage tooSmallMessage (implementation none 0) w =
      .ok (Int32.ofNat text.length, none) { w with lastAbiError := {} } := by
  refine (stringCall_live invalidMessage tooSmallMessage hnull hlive Int32.le_rfl (fun _ => rfl)
    (h none 0)).trans ?_
  rw [if_neg (Int32.not_lt.2 (ofNat_nonneg hlength)), if_neg (by simp)]
  rfl

theorem stringCall_fits {contents : List α} {bufferSize : Int32}
    (hlt : Int32.ofNat text.length < bufferSize) :
    stringCall handle (some contents) bufferSize invalidMessage tooSmallMessage
        (implementation (some contents) bufferSize) w =
      .ok (Int32.ofNat text.length,
          some (text ++ terminator :: contents.drop (text.length + 1)))
        { w with lastAbiError := {} } := by
  have hnonneg := ofNat_nonneg hlength
  have hsize : 0 ≤ bufferSize := Int32.le_trans hnonneg (Int32.le_of_lt hlt)
  refine (stringCall_live invalidMessage tooSmallMessage hnull hlive hsize (by simp)
    (h (some contents) bufferSize)).trans ?_
  rw [copyOut_of_lt hlt, if_neg (Int32.not_lt.2 hnonneg), if_neg (by simpa using hlt)]

theorem stringCall_short {contents : List α} {bufferSize : Int32} (hsize : 0 ≤ bufferSize)
    (hle : bufferSize ≤ Int32.ofNat text.length) :
    stringCall handle (some contents) bufferSize invalidMessage tooSmallMessage
        (implementation (some contents) bufferSize) w =
      .ok (Int32.ofNat text.length, some contents)
        { w with lastAbiError := setAbiError .bufferTooSmall tooSmallMessage } := by
  refine (stringCall_live invalidMessage tooSmallMessage hnull hlive hsize (by simp)
    (h (some contents) bufferSize)).trans ?_
  rw [copyOut_of_le hle, if_neg (Int32.not_lt.2 (ofNat_nonneg hlength)),
    if_pos (by simpa using hle)]

/-- The two comparisons agree. -/
theorem stringCall_protocol :
    BufferProtocol terminator
      (fun buffer bufferSize => stringCall handle buffer bufferSize invalidMessage tooSmallMessage
        (implementation buffer bufferSize)) w text (Int32.ofNat text.length) where
  narrowed := Int32.toInt_ofNat_of_lt (by omega)
  fits := by
    intro contents bufferSize _ hlt
    exact stringCall_fits invalidMessage tooSmallMessage h hlength hnull hlive hlt
  short := by
    intro contents bufferSize hcapacity hle
    have hsize : 0 ≤ bufferSize := by
      rw [Int32.le_iff_toInt_le, hcapacity]
      exact Int.natCast_nonneg _
    exact ⟨_, stringCall_short invalidMessage tooSmallMessage h hlength hnull hlive hsize hle⟩
  query := stringCall_query invalidMessage tooSmallMessage h hlength hnull hlive
  delivered := by
    intro contents bufferSize hcapacity hsize
    have htext : (Int32.ofNat text.length).toInt = text.length :=
      Int32.toInt_ofNat_of_lt (by omega)
    have hlt : Int32.ofNat text.length < bufferSize := by
      rw [Int32.lt_iff_toInt_lt]
      omega
    have hdrop : contents.drop (text.length + 1) = [] := List.drop_eq_nil_of_le (by omega)
    have hquery := stringCall_query invalidMessage tooSmallMessage h hlength hnull hlive
    change EStateM.bind _ _ w = _
    simp only [EStateM.bind, hquery]
    refine (stringCall_fits (w := { w with lastAbiError := {} }) invalidMessage tooSmallMessage h
      hlength hnull hlive hlt).trans ?_
    rw [hdrop]

end

/-! ## The string getters -/

/-- The capacity that a query asks for is an `int`. -/
theorem toInt_succ_ofNat {n : Nat} (h : n < 2147483647) :
    (Int32.ofNat n + 1).toInt = (Int32.ofNat n).toInt + 1 := by
  calc
    (Int32.ofNat n + 1).toInt
        = (Int32.ofNat (n + 1)).toInt := by simp
    _ = (n + 1 : Nat) := Int32.toInt_ofNat_of_lt (by omega)
    _ = (Int32.ofNat n).toInt + 1 := by simp [Int32.toInt_ofNat_of_lt (show n < 2 ^ 31 by omega)]

/-- In every state, for every string of every live instance: the getters keep the protocol for the
text of the string, and, where `MultiByteToWideChar` converts it, for the units that it writes.  The
capacity that a query asks for is an `int`; for UTF-16, if the text has no more units than bytes. -/
theorem string_buffer_protocol (mb : MultiByteToWideChar) (calls : List AbiCall)
    (h : PermittedRun mb calls) (handle : PexReaderHandle) (d : PexData)
    (hlive : (runAbi mb calls).heap handle = some d) (index : UInt16)
    (hindex : index < d.stringTable.count) :
    ∃ text, d.stringTable.toUtf8 index = .ok text ∧
      (∃ length, BufferProtocol 0 (Abi.C_GetStringUtf8 handle index) (runAbi mb calls) text length ∧
        (length + 1).toInt = length.toInt + 1) ∧
      (∀ wide, utf8ToWString mb text = .ok wide ↔ mb.Converts text ∧ wide = mb.units text) ∧
      (mb.Converts text →
        ∃ length, BufferProtocol 0 (Abi.C_GetStringWide mb handle index) (runAbi mb calls)
            (mb.units text) length ∧
          ((mb.query text).toInt ≤ text.length → (length + 1).toInt = length.toInt + 1)) := by
  have hw := run_sound h
  have hnull := (AbiState.sound_iff.1 hw handle d hlive).1
  rcases (hw.consistent handle d hlive).entry hindex with ⟨entry, hentry, hfits⟩
  have htext := toUtf8_eq hindex hentry
  have hshort : (decoded entry).length ≤ 196605 := by
    have hdecoded := length_decoded_le entry
    have hlength : entry.length ≤ 65535 := hfits
    omega
  refine ⟨decoded entry, htext, ⟨Int32.ofNat (decoded entry).length, ?_, ?_⟩,
    fun _ => utf8ToWString_eq_ok, ?_⟩
  · exact stringCall_protocol _ _ (getStringUtf8_eq hindex hentry) (by omega) hnull hlive
  · exact toInt_succ_ofNat (by omega)
  · intro hconverts
    have hwide := utf8ToWString_eq_ok.2 ⟨hconverts, rfl⟩
    have hunits := mb.length_units_le (decoded entry)
    refine ⟨Int32.ofNat (mb.units (decoded entry)).length, ?_, ?_⟩
    · have hint := (mb.query (decoded entry)).toNatClampNeg_lt
      exact stringCall_protocol _ _
        (fun buffer bufferSize => getStringWide_eq hindex htext buffer bufferSize hwide) (by omega)
        hnull hlive
    · intro hquery
      refine toInt_succ_ofNat ?_
      have hclamp : (mb.query (decoded entry)).toNatClampNeg =
          (mb.query (decoded entry)).toInt.toNat := rfl
      omega

/-- An accented letter: one byte in the file, two in UTF-8, one unit in UTF-16. -/
theorem string_buffer_protocol_accentRun :
    BufferProtocol 0 (Abi.C_GetStringUtf8 8 0) (runAbi .strict (accentRun [0xE9])) [0xC3, 0xA9] 2 ∧
      utf8ToWString .strict [0xC3, 0xA9] = .ok [0xE9] ∧
      BufferProtocol 0 (Abi.C_GetStringWide .strict 8 0) (runAbi .strict (accentRun [0xE9]))
        [0xE9] 1 := by
  rcases accentRun_evaluated.1 with ⟨hpermitted, hlive⟩
  rcases string_buffer_protocol .strict (accentRun [0xE9]) hpermitted 8 _ hlive 0 (by decide) with
    ⟨text, htext, ⟨length, hutf8, -⟩, hconversion, hwide⟩
  have hdecoded : (sampleScript.withString 0 [0xE9]).stringTable.toUtf8 0 = .ok [0xC3, 0xA9] := by
    decide
  rw [hdecoded] at htext
  cases htext
  have hconverts : MultiByteToWideChar.strict.Converts [0xC3, 0xA9] := by decide
  have hunits : MultiByteToWideChar.strict.units [0xC3, 0xA9] = [0xE9] := by decide
  rcases hwide hconverts with ⟨units, hutf16, -⟩
  rw [hunits] at hutf16
  have hlength : length = 2 := Int32.toInt_inj.1 hutf8.narrowed
  have hcount : units = 1 := Int32.toInt_inj.1 hutf16.narrowed
  rw [hlength] at hutf8
  rw [hcount] at hutf16
  exact ⟨hutf8, (hconversion [0xE9]).2 ⟨hconverts, hunits.symm⟩, hutf16⟩

end PexReader
