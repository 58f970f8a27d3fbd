import PexReader.Format.Utf8
import PexReader.Model.StringTable

/-!
# Decoding — what `StringTable::ToUtf8` makes of an entry

The recogniser decides `Utf8.Structural` and stays inside the buffer; the converter encodes one
scalar value for each byte; `decoded` puts the two together.
-/

namespace PexReader

open Utf8

/-! ## The recogniser -/

theorem continuation_mask (b : UInt8) : b &&& 0xC0 = 0x80 ↔ IsContinuation b := by
  revert b
  exact forall_uint8 (by decide)

/-- The masks of the loop read the length of the sequence off its lead byte. -/
theorem tailLength_of_masks (c : UInt8) :
    tailLength c =
      if c ≥ 0x80 then
        if c &&& 0xE0 = 0xC0 then some 1
        else if c &&& 0xF0 = 0xE0 then some 2
        else if c &&& 0xF8 = 0xF0 then some 3
        else none
      else some 0 := by
  revert c
  exact forall_uint8 (by decide)

theorem readAt_of_lt {data : List UInt8} {i : Nat} (h : i < data.length) :
    readAt data i = .ok data[i] := by
  simp [readAt, h]

/-- The continuation tests read nothing past the `n` bytes they are about. -/
theorem areContinuations_spec (data : List UInt8) (n : Nat) {i : Nat} (h : i + n ≤ data.length) :
    ∃ b, areContinuations data i n = .ok b ∧
      (b = true ↔ ∀ x ∈ (data.drop i).take n, IsContinuation x) := by
  induction n generalizing i with
  | zero =>
      exact ⟨true, rfl, by simp⟩
  | succ n ih =>
      have hi : i < data.length := by omega
      rcases ih (i := i + 1) (by omega) with ⟨b, hb, hiff⟩
      rw [List.drop_eq_getElem_cons hi, List.take_succ_cons, List.forall_mem_cons,
        ← continuation_mask]
      by_cases hmask : data[i] &&& 0xC0 = 0x80
      · refine ⟨b, ?_, by simp [hmask, hiff]⟩
        simpa [areContinuations, readAt_of_lt hi, hmask] using hb
      · -- The first byte that fails its test ends the short-circuit.
        refine ⟨false, ?_, by simp [hmask]⟩
        simp [areContinuations, readAt_of_lt hi, hmask]

/-- The test on the bytes after a lead byte at `i`. -/
theorem isFollowedBy_spec (data : List UInt8) (n : Nat) {i : Nat} (h : i < data.length) :
    ∃ b, isFollowedBy data i n = .ok b ∧
      (b = true ↔ n ≤ (data.drop (i + 1)).length ∧
        ∀ x ∈ (data.drop (i + 1)).take n, IsContinuation x) := by
  unfold isFollowedBy
  rw [List.length_drop]
  split_ifs with hend
  · -- The buffer ends before the sequence does.
    exact ⟨false, rfl, by simp; omega⟩
  · rcases areContinuations_spec data n (i := i + 1) (by omega) with ⟨b, hb, hiff⟩
    exact ⟨b, hb, by rw [hiff]; simp; omega⟩

/-- One round of the loop, by the length its lead byte announces. -/
theorem isLikelyUTF8From_step (data : List UInt8) (fuel : Nat) {i : Nat} (h : i < data.length) :
    isLikelyUTF8From data (fuel + 1) i =
      if data[i] = 0 then .ok true
      else match tailLength data[i] with
        | none => .ok false
        | some n => do
            if ← isFollowedBy data i n then isLikelyUTF8From data fuel (i + 1 + n)
            else return false := by
  have hnone : isFollowedBy data i 0 = .ok true := by
    simp [isFollowedBy, areContinuations, h]
  rw [isLikelyUTF8From, if_pos h, readAt_of_lt h, tailLength_of_masks, except_ok_bind]
  split_ifs <;> simp [hnone, Nat.add_assoc]

/-- The loop from index `i`, given enough fuel, ends with an answer and not with a fault, and the
answer is whether the text from `i` up to its first NUL is structural. -/
theorem isLikelyUTF8From_spec (data : List UInt8) (fuel : Nat) {i : Nat}
    (h : data.length < fuel + i) :
    ∃ b, isLikelyUTF8From data fuel i = .ok b ∧
      (b = true ↔ Structural (untilNul (data.drop i))) := by
  induction fuel generalizing i with
  | zero =>
      -- The fuel lasts to the end of the buffer, so nothing is left here.
      refine ⟨true, rfl, ?_⟩
      rw [List.drop_of_length_le (by omega)]
      exact ⟨fun _ => .nil, fun _ => rfl⟩
  | succ fuel ih =>
      by_cases hi : i < data.length
      · rw [isLikelyUTF8From_step data fuel hi, List.drop_eq_getElem_cons hi]
        by_cases hzero : data[i] = 0
        · refine ⟨true, if_pos hzero, ?_⟩
          simpa [untilNul, hzero] using Structural.nil
        · rw [if_neg hzero, structural_untilNul_cons_iff hzero]
          cases htail : tailLength data[i] with
          | none =>
              exact ⟨false, rfl, by simp⟩
          | some n =>
              -- The sequence at `i`, then the rest of the text behind it by induction.
              rcases isFollowedBy_spec data n hi with ⟨b, hb, hfollowed⟩
              rcases ih (i := i + 1 + n) (by omega) with ⟨b', hb', hrest⟩
              rw [← List.drop_drop] at hrest
              simp only [Option.some.injEq, exists_eq_left']
              rw [← and_assoc, ← hfollowed, ← hrest]
              cases b with
              | true =>
                  exact ⟨b', by simpa [hb] using hb', by simp⟩
              | false =>
                  exact ⟨false, by simp [hb], by simp⟩
      · refine ⟨true, ?_, ?_⟩
        · rw [isLikelyUTF8From, if_neg hi]
        · rw [List.drop_of_length_le (Nat.not_lt.1 hi)]
          exact ⟨fun _ => .nil, fun _ => rfl⟩

/-- The recogniser accepts exactly the structural texts and reads nothing past the end of the
buffer. -/
theorem isLikelyUTF8_spec (data : List UInt8) :
    ∃ b, isLikelyUTF8 data = .ok b ∧ (b = true ↔ Structural (untilNul data)) :=
  isLikelyUTF8From_spec data (data.length + 1) (i := 0) (by omega)

theorem isLikelyUTF8_eq (data : List UInt8) :
    isLikelyUTF8 data = .ok (decide (Structural (untilNul data))) := by
  rcases isLikelyUTF8_spec data with ⟨b, hb, hiff⟩
  rw [hb, Bool.eq_iff_iff.2 (hiff.trans decide_eq_true_iff.symm)]

/-! ## The converter -/

/-- What Windows-1252 stands for: the table for 0x80 to 0x9F, the byte itself elsewhere. -/
def cp1252Char (c : UInt8) : Char :=
  if 0x80 ≤ c ∧ c ≤ 0x9F then Char.ofNat (CP1252_TABLE.getD (c - 0x80).toNat 0).toNat
  else Char.ofNat c.toNat

/-- The three branches of the loop put out the encoding of the scalar value. -/
theorem windows1252Byte_eq (c : UInt8) :
    windows1252Byte c = String.utf8EncodeChar (cp1252Char c) := by
  revert c
  exact forall_uint8 (by decide)

theorem windows1252ToUTF8_eq (data : List UInt8) :
    windows1252ToUTF8 data =
      ((untilNul data).map cp1252Char).flatMap String.utf8EncodeChar := by
  induction data with
  | nil => rfl
  | cons c data ih =>
      by_cases hzero : c = 0
      · simp [windows1252ToUTF8, untilNul, hzero]
      · have hcons : untilNul (c :: data) = c :: untilNul data := by simp [untilNul, hzero]
        simp [windows1252ToUTF8, hzero, hcons, ih, windows1252Byte_eq]

theorem length_windows1252Byte_le (c : UInt8) : (windows1252Byte c).length ≤ 3 := by
  revert c
  exact forall_uint8 (by decide)

/-- Every byte but NUL stands for a character other than U+0000. -/
theorem cp1252Char_ne_zero (c : UInt8) : c ≠ 0 → (cp1252Char c).val.toNat ≠ 0 := by
  revert c
  exact forall_uint8 (by decide)

/-! ## Entries -/

/-- What `ToUtf8` makes of an entry: the text before the first NUL, as it is or converted.  An entry
that starts with NUL is passed through whole. -/
def decoded (entry : List UInt8) : List UInt8 :=
  if entry.head? = some 0 then entry
  else if Structural (untilNul entry) then untilNul entry
  else ((untilNul entry).map cp1252Char).flatMap String.utf8EncodeChar

/-- The two branches for an entry that does not start with NUL. -/
theorem decoded_eq_ite {entry : List UInt8} (h : entry.head? ≠ some 0) :
    decoded entry = if decide (Structural (untilNul entry)) then untilNul entry
      else windows1252ToUTF8 (untilNul entry) := by
  rw [decoded, if_neg h, windows1252ToUTF8_eq, untilNul_untilNul]
  simp only [decide_eq_true_eq]

theorem take_firstZero {bytes : List UInt8} (h : bytes.head? ≠ some 0) :
    bytes.take (if firstZero bytes = 0 then bytes.length else firstZero bytes) =
      untilNul bytes := by
  unfold firstZero
  cases hfind : bytes.findIdx? (· = 0) with
  | none =>
      have hnone : ∀ b ∈ bytes, b ≠ 0 := by simpa using hfind
      simp [untilNul_of_ne_zero hnone]
  | some k =>
      rcases List.findIdx?_eq_some_iff_findIdx_eq.1 hfind with ⟨hk, hindex⟩
      -- A leading zero byte would have been taken for none.
      have hpos : k ≠ 0 := by
        rintro rfl
        cases bytes with
        | nil => cases hfind
        | cons c bytes => exact h (by simpa [List.findIdx?_cons] using hfind)
      simp [untilNul, List.takeWhile_eq_take_findIdx_not, hpos, hindex]

theorem fromBytes_eq (bytes : List UInt8) :
    RawString.fromBytes bytes = .ok { data := decoded bytes } := by
  by_cases hhead : bytes.head? = some 0
  · rcases List.head?_eq_some_iff.1 hhead with ⟨rest, rfl⟩
    have hfirst : firstZero (0 :: rest) = 0 := rfl
    have hempty : Structural (untilNul (0 :: rest)) := .nil
    simp [RawString.fromBytes, RawString.parse, hfirst, isLikelyUTF8_eq, hempty, decoded]
  · unfold RawString.fromBytes RawString.parse
    simp only [take_firstZero hhead, isLikelyUTF8_eq, windows1252ToUTF8_eq, untilNul_untilNul,
      except_ok_bind, decoded, if_neg hhead]
    by_cases hs : Structural (untilNul bytes)
    · simp [hs]
    · simp [hs]

theorem toUtf8_eq {t : StringTable} {index : UInt16} {entry : List UInt8}
    (hindex : index < t.count) (hentry : t.strings[index.toNat]? = some entry) :
    t.toUtf8 index = .ok (decoded entry) := by
  simp [StringTable.toUtf8, UInt16.not_le.2 hindex, hentry, fromBytes_eq, RawString.toUTF8String]

/-! ## Decoded texts -/

theorem decoded_of_structural {entry : List UInt8} (h : Structural entry) :
    decoded entry = entry := by
  unfold decoded
  split_ifs with hhead hs
  · rfl
  · exact untilNul_of_ne_zero h.ne_zero
  · exact absurd (by rwa [untilNul_of_ne_zero h.ne_zero]) hs

theorem structural_map_cp1252Char {bytes : List UInt8} (h : ∀ b ∈ bytes, b ≠ 0) :
    Structural ((bytes.map cp1252Char).flatMap String.utf8EncodeChar) := by
  refine WellFormed.structural ⟨_, rfl⟩ ?_
  intro b hb
  rcases List.mem_flatMap.1 hb with ⟨c, hc, hb⟩
  rcases List.mem_map.1 hc with ⟨x, hx, rfl⟩
  exact (sequence_utf8EncodeChar (cp1252Char_ne_zero x (h x hx))).ne_zero b hb

/-- Unless an entry starts with NUL, its text has no truncated or stray byte and no NUL. -/
theorem structural_decoded {entry : List UInt8} (h : entry.head? ≠ some 0) :
    Structural (decoded entry) := by
  unfold decoded
  rw [if_neg h]
  split_ifs with hs
  · exact hs
  · exact structural_map_cp1252Char fun _ => ne_zero_of_mem_untilNul

/-- ... and it is well-formed unless the entry is passed through and was not. -/
theorem wellFormed_decoded_iff {entry : List UInt8} (h : entry.head? ≠ some 0) :
    WellFormed (decoded entry) ↔
      ¬ Structural (untilNul entry) ∨ WellFormed (untilNul entry) := by
  unfold decoded
  rw [if_neg h]
  split_ifs with hs
  · simp [hs]
  · exact ⟨fun _ => Or.inl hs, fun _ => ⟨_, rfl⟩⟩

theorem length_map_cp1252Char_le (bytes : List UInt8) :
    ((bytes.map cp1252Char).flatMap String.utf8EncodeChar).length ≤ 3 * bytes.length := by
  induction bytes with
  | nil => exact Nat.le_refl _
  | cons c bytes ih =>
      have hc := length_windows1252Byte_le c
      rw [windows1252Byte_eq] at hc
      simp only [List.map_cons, List.flatMap_cons, List.length_append, List.length_cons]
      omega

theorem length_decoded_le (entry : List UInt8) : (decoded entry).length ≤ 3 * entry.length := by
  have hle : (untilNul entry).length ≤ entry.length :=
    List.IsPrefix.length_le (List.takeWhile_prefix _)
  unfold decoded
  split_ifs
  · omega
  · omega
  · exact (length_map_cp1252Char_le _).trans (Nat.mul_le_mul_left 3 hle)

end PexReader
