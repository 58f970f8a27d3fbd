import PexReader.Text.WideStrings
import PexReader.Theory.RoundTrip

/-!
# Strings — what the string calls deliver in a reachable state

`toUtf8` never fails below the count: it delivers `decoded` of the entry.  Which entries it makes
well-formed decides what `C_GetStringWide` can do; and a well-formed text, once stored, is read back
as it was.
-/

namespace PexReader

open Utf8

/-! ## Entries of a consistent state -/

theorem PexData.Consistent.entry {d : PexData} (hd : d.Consistent) {index : UInt16}
    (hindex : index < d.stringTable.count) :
    ∃ entry, d.stringTable.strings[index.toNat]? = some entry ∧ EntryFits entry := by
  have hlt : index.toNat < d.stringTable.strings.length := by
    rw [hd.stringTable.count]
    exact UInt16.lt_iff_toNat_lt.1 hindex
  exact ⟨_, List.getElem?_eq_getElem hlt, hd.stringTable.entries _ (List.getElem_mem hlt)⟩

/-- The text of an entry is short enough for an `int`. -/
theorem length_decoded_of_fits {entry : List UInt8} (h : EntryFits entry) :
    (decoded entry).length ≤ 2147483647 := by
  have hdecoded := length_decoded_le entry
  have hentry : entry.length ≤ 65535 := h
  omega

/-! ## Wide strings -/

/-- `C_GetStringWide` delivers the text of an entry if it is well-formed, and throws
`invalid_argument` if it is not. -/
theorem getStringWide_cases {mb : MultiByteToWideChar} (hmb : mb.Documented) {d : PexData}
    {index : UInt16} {entry : List UInt8} (hindex : index < d.stringTable.count)
    (hentry : d.stringTable.strings[index.toNat]? = some entry) (hfits : EntryFits entry)
    (buffer : Option (List UInt16)) (bufferSize : Int32) :
    (WellFormed (decoded entry) ∧ ∃ wide, wide.length ≤ 2147483647 ∧
      C_GetStringWide mb (some d) index buffer bufferSize =
        .ok (Int32.ofNat wide.length,
          copyOut 0 wide (Int32.ofNat wide.length) buffer bufferSize)) ∨
    (¬ WellFormed (decoded entry) ∧
      C_GetStringWide mb (some d) index buffer bufferSize =
        .error (.thrown (.invalidArgument "The PEX string is not valid UTF-8."))) := by
  have hlength := length_decoded_of_fits hfits
  unfold C_GetStringWide
  dsimp only
  rw [if_neg (UInt16.not_le.2 hindex), toUtf8_eq hindex hentry, except_ok_bind]
  by_cases hwell : WellFormed (decoded entry)
  · rcases utf8ToWString_of_wellFormed hmb hlength hwell with ⟨wide, hwide, hle⟩
    exact Or.inl ⟨hwell, wide, hle, by rw [hwide]; rfl⟩
  · right
    refine ⟨hwell, ?_⟩
    rw [utf8ToWString_of_not_wellFormed hmb hlength hwell]
    rfl

/-- Strings are guessed to be UTF-8 by their outline.  What does not look like UTF-8 is converted
from Windows-1252 to well-formed UTF-8; what does is passed through, well-formed or not.
`C_GetStringWide` succeeds on exactly the well-formed texts and refuses the others. -/
theorem entries_decode {mb : MultiByteToWideChar} (hmb : mb.Documented) :
    (∀ (t : StringTable) (index : UInt16) (entry : List UInt8), index < t.count →
      t.strings[index.toNat]? = some entry → entry.head? ≠ some 0 →
      ∃ likely r, isLikelyUTF8 (untilNul entry) = .ok likely ∧ t.toUtf8 index = .ok r ∧
        r = (if likely then untilNul entry else windows1252ToUTF8 (untilNul entry)) ∧
        Structural r ∧ (WellFormed r ↔ likely = false ∨ WellFormed (untilNul entry))) ∧
    ∀ (calls : List ApiCall) (index : UInt16),
      index < (runCalls calls C_CreateInstance).stringTable.count →
      ∃ r, (runCalls calls C_CreateInstance).stringTable.toUtf8 index = .ok r ∧
        ∀ buffer bufferSize,
          ((∃ length buffer', 0 ≤ length ∧
            C_GetStringWide mb (some (runCalls calls C_CreateInstance)) index buffer bufferSize =
              .ok (length, buffer')) ↔ WellFormed r) ∧
          (¬ WellFormed r →
            C_GetStringWide mb (some (runCalls calls C_CreateInstance)) index buffer bufferSize =
              .error (.thrown (.invalidArgument "The PEX string is not valid UTF-8."))) := by
  constructor
  · intro t index entry hindex hentry hhead
    have hlikely := isLikelyUTF8_eq (untilNul entry)
    rw [untilNul_untilNul] at hlikely
    refine ⟨_, decoded entry, hlikely, toUtf8_eq hindex hentry, decoded_eq_ite hhead,
      structural_decoded hhead, ?_⟩
    rw [wellFormed_decoded_iff hhead, decide_eq_false_iff_not]
  · intro calls index hindex
    rcases (reachable_consistent calls).entry hindex with ⟨entry, hentry, hfits⟩
    refine ⟨decoded entry, toUtf8_eq hindex hentry, ?_⟩
    intro buffer bufferSize
    rcases getStringWide_cases hmb hindex hentry hfits buffer bufferSize with
      ⟨hwell, wide, hle, hwide⟩ | ⟨hwell, hwide⟩
    · -- The length is that of a list and an `int`, so it is not negative.
      refine ⟨⟨fun _ => hwell, fun _ => ⟨_, _, ?_, hwide⟩⟩, fun h => absurd hwell h⟩
      rw [Int32.le_iff_toInt_le, Int32.toInt_ofNat_of_lt (by omega)]
      exact Int.natCast_nonneg _
    · refine ⟨⟨?_, fun h => absurd h hwell⟩, fun _ => hwide⟩
      rintro ⟨length, buffer', -, hok⟩
      rw [hok] at hwide
      cases hwide

/-- A script is loaded, and its first string replaced. -/
def sampleCalls (str : List UInt8) : List ApiCall :=
  [.readPex (some { contents := sampleScript.bytes }), .modifyStringTable 0 (some str)]

theorem readPex_sampleScript (d : PexData) :
    C_ReadPex (some d) (some { contents := sampleScript.bytes }) = (1, some sampleScript) := by
  simp [C_ReadPex, load_of_parseFile parseFile_sampleScript d]

theorem runCalls_sampleCalls {str : List UInt8} (hstr : (cString str).length ≤ 65535) :
    runCalls (sampleCalls str) C_CreateInstance = sampleScript.withString 0 (cString str) := by
  have hd := (parseFile_eq_ok.1 parseFile_sampleScript).2.1.toConsistent
  have hzero : (0 : UInt16).toNat = 0 := rfl
  rcases modifyStringTable_cases hd 0 (cString str) with ⟨-, -, hmodify⟩ | ⟨hnot, -⟩
  · rw [hzero] at hmodify
    simp [runCalls, sampleCalls, ApiCall.run, readPex_sampleScript, C_ModifyStringTable, hmodify]
  · exact absurd ⟨by decide, hstr⟩ hnot

theorem entries_decode_sample :
    StringTable.toUtf8 { count := 1, strings := [[0x63, 0xE9, 0]] } 0 =
        .ok (windows1252ToUTF8 [0x63, 0xE9]) ∧
      ∃ length buffer', 0 ≤ length ∧
        C_GetStringWide .strict (some (runCalls (sampleCalls [0x63, 0xE9]) C_CreateInstance)) 0
          none 0 = .ok (length, buffer') := by
  have hdecode := entries_decode MultiByteToWideChar.strict_documented
  constructor
  · rcases hdecode.1 { count := 1, strings := [[0x63, 0xE9, 0]] } 0 [0x63, 0xE9, 0] (by decide) rfl
      (by decide) with ⟨likely, r, hlikely, hr, hsame, -⟩
    have hunlikely : isLikelyUTF8 (untilNul [0x63, 0xE9, 0]) = .ok false := by decide
    rw [hunlikely] at hlikely
    cases hlikely
    rw [hr, hsame]
    rfl
  · have hrun : (runCalls (sampleCalls [0x63, 0xE9]) C_CreateInstance).stringTable.toUtf8 0 =
        .ok [0x63, 0xC3, 0xA9] := by
      rw [runCalls_sampleCalls (by decide)]
      decide
    rcases hdecode.2 (sampleCalls [0x63, 0xE9]) 0
      (by rw [runCalls_sampleCalls (by decide)]; decide) with ⟨r, hr, hwide⟩
    rw [hrun] at hr
    cases hr
    exact (hwide none 0).1.2 (by decide)

/-- An overlong form looks like UTF-8. -/
theorem overlong_entry_passed_through :
    (runCalls (sampleCalls [0xC0, 0xAF]) C_CreateInstance).stringTable.toUtf8 0 =
        .ok [0xC0, 0xAF] ∧
      ¬ WellFormed [0xC0, 0xAF] ∧
      C_GetStringWide .strict (some (runCalls (sampleCalls [0xC0, 0xAF]) C_CreateInstance)) 0
        none 0 = .error (.thrown (.invalidArgument "The PEX string is not valid UTF-8.")) := by
  rw [runCalls_sampleCalls (by decide)]
  exact ⟨by decide, by decide, by decide⟩

/-! ## Writing a string and reading it back -/

theorem decoded_of_wellFormed {str : List UInt8} (hstr : WellFormed str)
    (hzero : ∀ b ∈ str, b ≠ 0) : decoded str = str :=
  decoded_of_structural (hstr.structural hzero)

theorem toUtf8_withString_self {d : PexData} (hd : d.Consistent) {i : UInt16}
    (hi : i < d.stringTable.count) (str : List UInt8) :
    (d.withString i.toNat str).stringTable.toUtf8 i = .ok (decoded str) := by
  refine toUtf8_eq hi ?_
  rcases hd.entry hi with ⟨entry, hentry, -⟩
  exact List.getElem?_set_self (List.getElem?_eq_some_iff.1 hentry).1

/-- The other strings are as they were. -/
theorem toUtf8_withString_ne (d : PexData) {i j : UInt16} (hij : j ≠ i) (str : List UInt8) :
    (d.withString i.toNat str).stringTable.toUtf8 j = d.stringTable.toUtf8 j := by
  have hne : i.toNat ≠ j.toNat := fun h => hij (UInt16.toNat_inj.1 h).symm
  simp [PexData.withString, StringTable.toUtf8, List.getElem?_set_ne hne]

/-- In every state a well-formed text without NUL can be stored, is read back as it was, and leaves
everything else alone; a loaded instance can be saved and loaded again with it.  A call with a bad
index or too long a string changes nothing. -/
theorem write_then_read_back (calls : List ApiCall) :
    (∀ (i : UInt16) (s : List UInt8), i < (runCalls calls C_CreateInstance).stringTable.count →
      WellFormed s → (∀ b ∈ s, b ≠ 0) → s.length ≤ 65535 →
      ∃ d, (runCalls calls C_CreateInstance).modifyStringTable i s = .ok () d ∧
        d.stringTable.toUtf8 i = .ok s ∧
        (∀ j, j ≠ i →
          d.stringTable.toUtf8 j = (runCalls calls C_CreateInstance).stringTable.toUtf8 j) ∧
        d = (runCalls calls C_CreateInstance).withString i.toNat s ∧
        ((trackCalls calls).2 = true → d.bytes.length ≤ 67108864 →
          ∀ device : OutputDevice, device.Lossless → ∃ written,
            (d.save device).result = .ok () ∧ (d.save device).destination = some written ∧
            ∀ self : PexData, self.load { contents := written } = .ok () d)) ∧
    ∀ (i : UInt16) (s : List UInt8),
      (runCalls calls C_CreateInstance).stringTable.count ≤ i ∨ 65535 < s.length →
      ∃ e, (runCalls calls C_CreateInstance).modifyStringTable i s =
        .error (.thrown e) (runCalls calls C_CreateInstance) := by
  have hd := reachable_consistent calls
  -- Where the run loaded a file, the state is a well-formed script within the budget.
  have htracked := tracked_trackCalls calls
  rw [Tracked, trackCalls_fst] at htracked
  generalize runCalls calls C_CreateInstance = d at hd htracked
  constructor
  · intro i s hi hs hzero hlength
    have hmodify : d.modifyStringTable i s = .ok () (d.withString i.toNat s) := by
      rcases modifyStringTable_cases hd i s with ⟨-, -, hok⟩ | ⟨hnot, -⟩
      · exact hok
      · exact absurd ⟨hi, hlength⟩ hnot
    refine ⟨d.withString i.toNat s, hmodify, ?_, ?_, rfl, ?_⟩
    · rw [toUtf8_withString_self hd hi, decoded_of_wellFormed hs hzero]
    · intro j hij
      exact toUtf8_withString_ne d hij s
    · intro hholds hsize device hdevice
      rw [if_pos hholds] at htracked
      -- The replacement keeps the script well-formed and its elements as many.
      have hwell := withString_wellFormed (i := i.toNat) htracked.1 hlength
      have hparse := parseFile_bytes hwell (by rw [elements_withString]; exact htracked.2) hsize
      have hsave := save_lossless hwell.toConsistent hdevice
      exact ⟨_, by rw [hsave], by rw [hsave], load_of_parseFile hparse⟩
  · intro i s hbad
    rcases modifyStringTable_cases hd i s with ⟨hi, hfits, -⟩ | ⟨-, e, herror⟩
    · rcases hbad with hcount | hlength
      · exact absurd hi (UInt16.not_lt.2 hcount)
      · exact absurd hfits (Nat.not_le.2 hlength)
    · exact ⟨e, herror⟩

theorem write_then_read_back_sample :
    ∃ d, (runCalls (sampleCalls []) C_CreateInstance).modifyStringTable 1 [0xE2, 0x82, 0xAC] =
        .ok () d ∧
      d.stringTable.toUtf8 1 = .ok [0xE2, 0x82, 0xAC] ∧
      ∃ written, (d.save {}).destination = some written ∧
        ∀ self : PexData, self.load { contents := written } = .ok () d := by
  have hrun := @runCalls_sampleCalls [] (by decide)
  have hholds : (trackCalls (sampleCalls [])).2 = true := by
    simp [trackCalls, sampleCalls, ApiCall.holdsFile, readPex_sampleScript]
  have hindex : (1 : UInt16) < (runCalls (sampleCalls []) C_CreateInstance).stringTable.count := by
    rw [hrun]
    decide
  rcases (write_then_read_back (sampleCalls [])).1 1 [0xE2, 0x82, 0xAC] hindex (by decide) (by simp)
    (by decide) with ⟨d, hmodify, hread, -, hd, hreload⟩
  have hsize : d.bytes.length ≤ 67108864 := by
    rw [hd, hrun]
    decide +kernel
  rcases hreload hholds hsize {} OutputDevice.lossless_default with
    ⟨written, -, hdestination, hload⟩
  exact ⟨d, hmodify, hread, written, hdestination, hload⟩

end PexReader
