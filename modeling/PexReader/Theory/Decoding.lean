import Mathlib.Logic.Function.Iterate
import PexReader.Theory.Strings

/-!
# Decoding — the recogniser, the converter, the cut at NUL, and writing a text back

Four results about the bytes of a string table entry and their text, for every entry:

* the recogniser accepts exactly what has the outline of UTF-8 up to the first NUL;
* the conversion from Windows-1252 is exact and loses nothing;
* the text is that of the bytes before the first NUL unless the entry starts with NUL, which the
  search for a NUL takes for not finding one;
* decoding a text that came out of the decoder gives the same text, so reading an entry and writing
  it back changes what is read at no repetition.
-/

namespace PexReader

open Utf8

/-! ## The recogniser -/

/-- `IsLikelyUTF8` accepts exactly the structural texts that fill the buffer or end at a NUL where a
sequence could start, among them all well-formed ones.  It ends with an answer for every buffer: a
read at an index outside would be a fault. -/
theorem isLikelyUTF8_exact (data : List UInt8) :
    (∃ likely, isLikelyUTF8 data = .ok likely ∧
      (likely = true ↔ ∃ text rest, data = text ++ rest ∧ Structural text ∧
        (rest = [] ∨ rest.head? = some 0))) ∧
    (WellFormed data → isLikelyUTF8 data = .ok true) := by
  rcases isLikelyUTF8_spec data with ⟨likely, hlikely, hiff⟩
  refine ⟨⟨likely, hlikely, hiff.trans structural_untilNul_iff⟩, ?_⟩
  intro h
  -- A NUL of the text is a scalar value of its own, and only ends what is looked at.
  have hstructural := h.untilNul.structural fun _ => ne_zero_of_mem_untilNul
  rw [hlikely, hiff.2 hstructural]

/-! ## Windows-1252 -/

/-- The code point of a Windows-1252 byte: the table for 0x80 to 0x9F, the byte itself elsewhere. -/
def cp1252CodePoint (c : UInt8) : Nat :=
  if 0x80 ≤ c ∧ c ≤ 0x9F then (CP1252_TABLE.getD (c - 0x80).toNat 0).toNat else c.toNat

/-- Every entry of the table is a scalar value. -/
theorem toNat_cp1252Char (c : UInt8) : (cp1252Char c).toNat = cp1252CodePoint c := by
  revert c
  exact forall_uint8 (by decide)

/-- The byte of a code point: its place in the table, or the code point itself. -/
def cp1252Byte (n : Nat) : UInt8 :=
  if UInt16.ofNat n ∈ CP1252_TABLE then 0x80 + UInt8.ofNat (CP1252_TABLE.idxOf (UInt16.ofNat n))
  else UInt8.ofNat n

/-- No two bytes share a code point, since each can be found again from its own. -/
theorem cp1252Char_injective : Function.Injective cp1252Char := by
  have hbyte : ∀ c, cp1252Byte (cp1252CodePoint c) = c := forall_uint8 (by decide +kernel)
  intro c c' h
  calc
    c
        = cp1252Byte (cp1252Char c).toNat := by rw [toNat_cp1252Char, hbyte]
    _ = cp1252Byte (cp1252Char c').toNat := by rw [h]
    _ = c' := by rw [toNat_cp1252Char, hbyte]

theorem windows1252ToUTF8_of_ne_zero {data : List UInt8} (h : ∀ b ∈ data, b ≠ 0) :
    windows1252ToUTF8 data = (data.map cp1252Char).flatMap String.utf8EncodeChar := by
  rw [windows1252ToUTF8_eq, untilNul_of_ne_zero h]

theorem windows1252ToUTF8_untilNul (data : List UInt8) :
    windows1252ToUTF8 (untilNul data) = windows1252ToUTF8 data := by
  rw [windows1252ToUTF8_eq, windows1252ToUTF8_eq, untilNul_untilNul]

/-- A text without NUL becomes well-formed UTF-8 that spells the code points of its bytes, in at
most three bytes each, and can be told from the output of any other such text.  A NUL ends the
text. -/
theorem windows1252_exact :
    (∀ data : List UInt8, (∀ b ∈ data, b ≠ 0) →
      (∃ cs, decode? (windows1252ToUTF8 data) = some cs ∧
        cs.map Char.toNat = data.map cp1252CodePoint) ∧
      (windows1252ToUTF8 data).length ≤ 3 * data.length) ∧
    (∀ data data' : List UInt8, (∀ b ∈ data, b ≠ 0) → (∀ b ∈ data', b ≠ 0) →
      windows1252ToUTF8 data = windows1252ToUTF8 data' → data = data') ∧
    ∀ data : List UInt8, windows1252ToUTF8 data = windows1252ToUTF8 (untilNul data) := by
  refine ⟨?_, ?_, fun data => (windows1252ToUTF8_untilNul data).symm⟩
  · intro data hdata
    rw [windows1252ToUTF8_of_ne_zero hdata]
    refine ⟨⟨data.map cp1252Char, decode?_encode _, ?_⟩, length_map_cp1252Char_le data⟩
    simp [toNat_cp1252Char]
  · intro data data' hdata hdata' h
    rw [windows1252ToUTF8_of_ne_zero hdata, windows1252ToUTF8_of_ne_zero hdata'] at h
    -- Both outputs decode to the characters they were made of.
    have hdecode := congrArg decode? h
    rw [decode?_encode, decode?_encode, Option.some_inj] at hdecode
    exact List.map_injective_iff.2 cp1252Char_injective hdecode

theorem windows1252_exact_sample :
    ∃ cs, decode? (windows1252ToUTF8 [0x80, 0xE9, 0x41]) = some cs ∧
      cs.map Char.toNat = [0x20AC, 0xE9, 0x41] := by
  have hexact := (windows1252_exact.1 [0x80, 0xE9, 0x41] (by simp)).1
  have hcode : [0x80, 0xE9, 0x41].map cp1252CodePoint = [0x20AC, 0xE9, 0x41] := by decide
  rwa [hcode] at hexact

/-! ## The cut at the first NUL -/

/-- The text of bytes without NUL: as they are if they have the outline of UTF-8, converted from
Windows-1252 if not. -/
def decoding (text : List UInt8) : List UInt8 :=
  if Structural text then text
  else (text.map cp1252Char).flatMap String.utf8EncodeChar

theorem decoded_eq_decoding {entry : List UInt8} (h : entry.head? ≠ some 0) :
    decoded entry = decoding (untilNul entry) := by
  simp [decoded, decoding, h]

theorem parse_string (entry : List UInt8) :
    RawString.parse entry .string = .ok { data := decoded entry } :=
  fromBytes_eq entry

/-- The text of an entry is the decoding of the bytes before its first NUL, without a NUL of its
own, and `C_GetStringUtf8` reports the length of the null-terminated string it delivers. -/
structure EndsAtNul (entry : List UInt8) : Prop where
  parse : RawString.parse entry .string = .ok { data := decoding (untilNul entry) }
  toUtf8 : ∀ (t : StringTable) (index : UInt16), index < t.count →
    t.strings[index.toNat]? = some entry → t.toUtf8 index = .ok (decoding (untilNul entry))
  ne_zero : ∀ r, RawString.parse entry .string = .ok r → ∀ b ∈ r.toUTF8String, b ≠ 0
  length : ∀ (d : PexData) (index : UInt16), d.Consistent → index < d.stringTable.count →
    d.stringTable.strings[index.toNat]? = some entry → ∀ contents bufferSize length buffer,
      C_GetStringUtf8 (some d) index (some contents) bufferSize = .ok (length, some buffer) →
      length < bufferSize → ((cString buffer).length : Int) = length.toInt

/-! What `copyOut` does on the two sides of its comparison. -/

section

variable {α : Type} {terminator : α} {str contents : List α} {length bufferSize : Int32}

theorem copyOut_of_lt (h : length < bufferSize) :
    copyOut terminator str length (some contents) bufferSize =
      some (str ++ terminator :: contents.drop (str.length + 1)) := by
  simp [copyOut, h]

theorem copyOut_of_le (h : bufferSize ≤ length) :
    copyOut terminator str length (some contents) bufferSize = some contents := by
  simp [copyOut, Int32.not_lt.2 h]

end

theorem getStringUtf8_eq {d : PexData} {index : UInt16} {entry : List UInt8}
    (hindex : index < d.stringTable.count)
    (hentry : d.stringTable.strings[index.toNat]? = some entry)
    (buffer : Option (List UInt8)) (bufferSize : Int32) :
    C_GetStringUtf8 (some d) index buffer bufferSize =
      .ok (Int32.ofNat (decoded entry).length,
        copyOut 0 (decoded entry) (Int32.ofNat (decoded entry).length) buffer bufferSize) := by
  unfold C_GetStringUtf8
  dsimp only
  rw [if_neg (UInt16.not_le.2 hindex), toUtf8_eq hindex hentry]
  rfl

/-- The bytes of a text behind which a NUL follows. -/
theorem cString_append {text : List UInt8} (h : ∀ b ∈ text, b ≠ 0) (rest : List UInt8) :
    cString (text ++ 0 :: rest) = text := by
  have happend : untilNul (text ++ 0 :: rest) = text ++ untilNul (0 :: rest) :=
    untilNul_append h _
  simpa [untilNul, cString] using happend

/-- Every entry ends at its first NUL but those that start with one: the search gives index 0 for
them, which stands for no NUL at all, so they are passed through whole. -/
theorem ends_at_nul_iff (entry : List UInt8) : EndsAtNul entry ↔ entry.head? ≠ some 0 := by
  constructor
  · intro h hhead
    rcases List.head?_eq_some_iff.1 hhead with ⟨rest, rfl⟩
    -- Nothing is in front of the NUL, yet the text is the entry.
    have hparse := h.parse
    have hempty : decoding (untilNul (0 :: rest)) = [] := by
      have hnil : Structural [] := .nil
      simp [untilNul, decoding, hnil]
    rw [parse_string, hempty] at hparse
    simp [decoded] at hparse
  · intro h
    have hdecoded := decoded_eq_decoding h
    have hzero := (structural_decoded h).ne_zero
    refine ⟨?_, ?_, ?_, ?_⟩
    · rw [parse_string, hdecoded]
    · intro t index hindex hentry
      rw [toUtf8_eq hindex hentry, hdecoded]
    · intro r hr
      rw [parse_string] at hr
      cases hr
      exact hzero
    · intro d index hd hindex hentry contents bufferSize length buffer hget hlt
      have hfits : EntryFits entry := hd.stringTable.entries entry (List.mem_of_getElem? hentry)
      have hlength := length_decoded_of_fits hfits
      rw [getStringUtf8_eq hindex hentry] at hget
      rcases Prod.mk.inj (Except.ok.inj hget) with ⟨rfl, hbuffer⟩
      -- The whole text and its terminator are in the buffer.
      rw [copyOut_of_lt hlt, Option.some_inj] at hbuffer
      rw [← hbuffer, cString_append hzero, Int32.toInt_ofNat_of_lt (by omega)]

/-- A script with an entry of a NUL and one more byte is loaded. -/
theorem leading_nul_passed_through :
    ¬ (∀ entry, RawString.parse entry .string = .ok { data := decoding (untilNul entry) }) ∧
      ∃ d buffer, C_ReadPex (some C_CreateInstance)
          (some { contents := (sampleScript.withString 0 [0x00, 0x41]).bytes }) = (1, some d) ∧
        C_GetStringUtf8 (some d) 0 (some [1, 1, 1, 1]) 4 = .ok (2, some buffer) ∧
        (cString buffer).length = 0 := by
  constructor
  · intro h
    have hparse := h [0x00, 0x41]
    revert hparse
    decide +kernel
  · exact ⟨sampleScript.withString 0 [0x00, 0x41], [0x00, 0x41, 0x00, 1], by decide +kernel⟩

/-! ## Writing a text back -/

/-- Decoding leaves a decoded text as it is. -/
theorem decoded_decoded (entry : List UInt8) : decoded (decoded entry) = decoded entry := by
  by_cases hhead : entry.head? = some 0
  · -- The entry is its own text.
    have hself : decoded entry = entry := if_pos hhead
    rw [hself, hself]
  · exact decoded_of_structural (structural_decoded hhead)

/-- Read the text of an entry and write it back. -/
def PexData.writeBack (self : PexData) (index : UInt16) : PexData :=
  match self.stringTable.toUtf8 index with
  | .error _ => self
  | .ok text =>
      match self.modifyStringTable index text with
      | .ok _ self => self
      -- A call that is not accepted changes nothing.
      | .error _ self => self

/-- An accepted write of a text that is read keeps what is read. -/
theorem toUtf8_write {d d' : PexData} (hd : d.Consistent) {index : UInt16}
    (hindex : index < d.stringTable.count) {text : List UInt8}
    (hread : d.stringTable.toUtf8 index = .ok text)
    (hwrite : d.modifyStringTable index text = .ok () d') :
    d'.Consistent ∧ index < d'.stringTable.count ∧ d'.stringTable.toUtf8 index = .ok text := by
  rcases modifyStringTable_cases hd index text with ⟨-, hfits, hmodify⟩ | ⟨-, e, hmodify⟩
  · rw [hmodify] at hwrite
    cases hwrite
    refine ⟨withString_consistent hd hfits, hindex, ?_⟩
    rcases hd.entry hindex with ⟨entry, hentry, -⟩
    rw [toUtf8_eq hindex hentry] at hread
    cases hread
    rw [toUtf8_withString_self hd hindex, decoded_decoded]
  · rw [hmodify] at hwrite
    cases hwrite

/-- What one read and write-back keeps. -/
theorem toUtf8_writeBack {d : PexData} (hd : d.Consistent) {index : UInt16}
    (hindex : index < d.stringTable.count) {text : List UInt8}
    (hread : d.stringTable.toUtf8 index = .ok text) :
    (d.writeBack index).Consistent ∧ index < (d.writeBack index).stringTable.count ∧
      (d.writeBack index).stringTable.toUtf8 index = .ok text := by
  unfold PexData.writeBack
  rw [hread]
  dsimp only
  rcases modifyStringTable_cases hd index text with ⟨-, -, hmodify⟩ | ⟨-, e, hmodify⟩
  · rw [hmodify]
    exact toUtf8_write hd hindex hread hmodify
  · rw [hmodify]
    exact ⟨hd, hindex, hread⟩

/-- Decoding the text of an entry gives that text again, so in every reachable state an entry reads
the same after its text is written back, and after any number of such rounds. -/
theorem decoding_stable :
    (∀ entry r, RawString.fromBytes entry = .ok r →
      RawString.fromBytes r.toUTF8String = .ok r) ∧
    ∀ (calls : List ApiCall) (index : UInt16),
      index < (runCalls calls C_CreateInstance).stringTable.count →
      ∃ text, (runCalls calls C_CreateInstance).stringTable.toUtf8 index = .ok text ∧
        (∀ d, (runCalls calls C_CreateInstance).modifyStringTable index text = .ok () d →
          d.stringTable.toUtf8 index = .ok text) ∧
        ∀ n, ((fun self => PexData.writeBack self index)^[n]
          (runCalls calls C_CreateInstance)).stringTable.toUtf8 index = .ok text := by
  constructor
  · intro entry r hr
    rw [fromBytes_eq] at hr
    cases hr
    rw [fromBytes_eq]
    simp [RawString.toUTF8String, decoded_decoded]
  · intro calls index hindex
    have hd := reachable_consistent calls
    generalize runCalls calls C_CreateInstance = d at hd hindex
    rcases hd.entry hindex with ⟨entry, hentry, -⟩
    have hread := toUtf8_eq hindex hentry
    refine ⟨decoded entry, hread, fun d' hwrite => (toUtf8_write hd hindex hread hwrite).2.2, ?_⟩
    -- The state stays consistent along the rounds, which the next round needs.
    have hrounds : ∀ n, ((fun self => PexData.writeBack self index)^[n] d).Consistent ∧
        index < ((fun self => PexData.writeBack self index)^[n] d).stringTable.count ∧
        ((fun self => PexData.writeBack self index)^[n] d).stringTable.toUtf8 index =
          .ok (decoded entry) := by
      intro n
      induction n with
      | zero => exact ⟨hd, hindex, hread⟩
      | succ n ih =>
          rw [Function.iterate_succ_apply']
          exact toUtf8_writeBack ih.1 ih.2.1 ih.2.2
    exact fun n => (hrounds n).2.2

end PexReader
