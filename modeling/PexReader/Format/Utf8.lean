import Mathlib.Data.List.Basic
import Mathlib.Data.List.TakeWhile

/-!
# Utf8 — well-formed texts and their outline

Two readings of "this is UTF-8", the second weaker than the first:

* `WellFormed`: the bytes are the encoding of a list of Unicode scalar values, so there is no
  overlong form, no surrogate, nothing above U+10FFFF, and no truncated or stray byte;
* `Structural`: every lead byte is followed by the continuation bytes it announces, and no byte is
  NUL.  Which value the bits spell is not looked at.

Both are decidable.  `untilNul` is the text of a null-terminated string.
-/

namespace Utf8

/-! ## Sequences -/

/-- A property of bytes, checked on the 256 of them, sixteen at a time. -/
theorem forall_uint8 {p : UInt8 → Prop}
    (h : ∀ hi < 16, ∀ lo < 16, p (UInt8.ofNat (16 * hi + lo))) (c : UInt8) : p c := by
  have hlt := c.toNat_lt
  have hc := h (c.toNat / 16) (by omega) (c.toNat % 16) (by omega)
  rwa [Nat.div_add_mod, UInt8.ofNat_toNat] at hc

def IsContinuation (b : UInt8) : Prop :=
  0x80 ≤ b ∧ b ≤ 0xBF

instance (b : UInt8) : Decidable (IsContinuation b) :=
  inferInstanceAs (Decidable (_ ∧ _))

/-- How many continuation bytes a lead byte announces. -/
def tailLength (c : UInt8) : Option Nat :=
  if c ≤ 0x7F then some 0
  else if 0xC0 ≤ c ∧ c ≤ 0xDF then some 1
  else if 0xE0 ≤ c ∧ c ≤ 0xEF then some 2
  else if 0xF0 ≤ c ∧ c ≤ 0xF7 then some 3
  else none

/-- A lead byte other than NUL and the continuation bytes it announces. -/
inductive Sequence : List UInt8 → Prop
  | intro {c : UInt8} {tail : List UInt8} : c ≠ 0 → tailLength c = some tail.length →
      (∀ b ∈ tail, IsContinuation b) → Sequence (c :: tail)

/-- Sequences one after the other. -/
inductive Structural : List UInt8 → Prop
  | nil : Structural []
  | cons {s rest : List UInt8} : Sequence s → Structural rest → Structural (s ++ rest)

/-- The encoding of a list of Unicode scalar values. -/
def WellFormed (bytes : List UInt8) : Prop :=
  ∃ cs : List Char, bytes = cs.flatMap String.utf8EncodeChar

/-! ## Structural texts -/

theorem IsContinuation.ne_zero {b : UInt8} (h : IsContinuation b) : b ≠ 0 := by
  rintro rfl
  exact absurd h.1 (by decide)

theorem Sequence.ne_zero {s : List UInt8} (h : Sequence s) : ∀ b ∈ s, b ≠ 0 := by
  cases h with
  | intro hc _ htail =>
      intro b hb
      rcases List.mem_cons.1 hb with rfl | hb
      · exact hc
      · exact (htail b hb).ne_zero

theorem Structural.ne_zero {bytes : List UInt8} (h : Structural bytes) : ∀ b ∈ bytes, b ≠ 0 := by
  induction h with
  | nil => simp
  | cons hs _ ih =>
      intro b hb
      rcases List.mem_append.1 hb with hb | hb
      · exact hs.ne_zero b hb
      · exact ih b hb

/-- A structural text, read from its first byte. -/
theorem structural_cons_iff {c : UInt8} {t : List UInt8} :
    Structural (c :: t) ↔ c ≠ 0 ∧ ∃ n, tailLength c = some n ∧ n ≤ t.length ∧
      (∀ b ∈ t.take n, IsContinuation b) ∧ Structural (t.drop n) := by
  constructor
  · generalize hbytes : c :: t = bytes
    intro h
    cases h with
    | nil => cases hbytes
    | @cons s rest hs hrest =>
        cases hs with
        | @intro c' tail hc hlength htail =>
            -- The sequence in front is `c` and its continuation bytes.
            rw [List.cons_append] at hbytes
            cases hbytes
            exact ⟨hc, tail.length, hlength, by simp, by simpa using htail, by simpa using hrest⟩
  · rintro ⟨hc, n, hn, hle, htail, hrest⟩
    have hs : Sequence (c :: t.take n) := .intro hc (by simp [hn, hle]) htail
    have h := Structural.cons hs hrest
    simpa using h

instance decidableStructural : (bytes : List UInt8) → Decidable (Structural bytes)
  | [] => isTrue .nil
  | c :: t =>
      match hn : tailLength c with
      -- No sequence starts with `c`.
      | none => isFalse fun h => by simp [structural_cons_iff, hn] at h
      | some n =>
          have : Decidable (∀ b ∈ t.take n, IsContinuation b) := List.decidableBAll _ _
          have := decidableStructural (t.drop n)
          decidable_of_iff
            (c ≠ 0 ∧ n ≤ t.length ∧ (∀ b ∈ t.take n, IsContinuation b) ∧ Structural (t.drop n))
            (by simp [structural_cons_iff, hn])
  termination_by bytes => bytes.length

/-! ## Null-terminated texts -/

/-- The bytes before the first NUL, or all of them. -/
def untilNul (bytes : List UInt8) : List UInt8 :=
  bytes.takeWhile (· ≠ 0)

theorem ne_zero_of_mem_untilNul {bytes : List UInt8} {b : UInt8} (h : b ∈ untilNul bytes) :
    b ≠ 0 := by
  simpa using List.mem_takeWhile_imp h

theorem untilNul_of_ne_zero {bytes : List UInt8} (h : ∀ b ∈ bytes, b ≠ 0) :
    untilNul bytes = bytes := by
  refine List.takeWhile_eq_self_iff.2 ?_
  simpa using h

theorem untilNul_append {xs : List UInt8} (h : ∀ b ∈ xs, b ≠ 0) (ys : List UInt8) :
    untilNul (xs ++ ys) = xs ++ untilNul ys := by
  refine List.takeWhile_append_of_pos ?_
  simpa using h

@[simp] theorem untilNul_untilNul (bytes : List UInt8) :
    untilNul (untilNul bytes) = untilNul bytes :=
  untilNul_of_ne_zero fun _ => ne_zero_of_mem_untilNul

/-- No sequence goes on past a NUL, so the text before the first NUL can be read from its first
byte without looking for that NUL. -/
theorem structural_untilNul_cons_iff {c : UInt8} {t : List UInt8} (hc : c ≠ 0) :
    Structural (untilNul (c :: t)) ↔ ∃ n, tailLength c = some n ∧ n ≤ t.length ∧
      (∀ b ∈ t.take n, IsContinuation b) ∧ Structural (untilNul (t.drop n)) := by
  have hsplit : ∀ n, (∀ b ∈ t.take n, b ≠ 0) →
      untilNul t = t.take n ++ untilNul (t.drop n) := fun n h => by
    rw [← untilNul_append h, List.take_append_drop]
  rw [show c :: t = [c] ++ t from rfl, untilNul_append (by simpa using hc), List.singleton_append,
    structural_cons_iff]
  constructor
  · rintro ⟨-, n, hn, hle, htail, hrest⟩
    -- The `n` bytes are the same with and without the cut, and none of them is NUL.
    have hfront : untilNul t <+: t := List.takeWhile_prefix _
    have htake : (untilNul t).take n = t.take n := by
      conv_lhs => rw [List.prefix_iff_eq_take.1 hfront, List.take_take, Nat.min_eq_left hle]
    rw [htake] at htail
    have hlength : (t.take n).length = n := by simp [← htake, hle]
    rw [hsplit n fun b hb => (htail b hb).ne_zero, List.drop_left' hlength] at hrest
    exact ⟨n, hn, hle.trans hfront.length_le, htail, hrest⟩
  · rintro ⟨n, hn, hle, htail, hrest⟩
    -- The first NUL is behind the `n` bytes, so the cut keeps all of them.
    have hlength : (t.take n).length = n := by simp [hle]
    rw [hsplit n fun b hb => (htail b hb).ne_zero]
    refine ⟨hc, n, hn, by simp [hle], ?_, ?_⟩
    · rwa [List.take_left' hlength]
    · rwa [List.drop_left' hlength]

/-- The text before the first NUL is structural exactly when the bytes are a structural text with
nothing behind it, or with a NUL that no sequence runs over. -/
theorem structural_untilNul_iff {bytes : List UInt8} :
    Structural (untilNul bytes) ↔ ∃ text rest, bytes = text ++ rest ∧ Structural text ∧
      (rest = [] ∨ rest.head? = some 0) := by
  constructor
  · intro h
    refine ⟨untilNul bytes, bytes.dropWhile (· ≠ 0), (List.takeWhile_append_dropWhile).symm, h, ?_⟩
    cases hrest : bytes.dropWhile (· ≠ 0) with
    | nil => exact Or.inl rfl
    | cons b rest =>
        -- What is cut off starts with the byte that ended the text.
        have hzero := List.head?_dropWhile_not (· ≠ 0) bytes
        rw [hrest] at hzero
        exact Or.inr (by simpa using hzero)
  · rintro ⟨text, rest, rfl, htext, hend⟩
    have hrest : untilNul rest = [] := by
      rcases hend with rfl | hzero
      · rfl
      · rcases List.head?_eq_some_iff.1 hzero with ⟨rest, rfl⟩
        rfl
    rwa [untilNul_append htext.ne_zero, hrest, List.append_nil]

/-! ## Well-formed texts -/

@[simp] theorem wellFormed_nil : WellFormed [] :=
  ⟨[], rfl⟩

/-! The bytes that the encoder puts together. -/

theorem isContinuation_ofNat : ∀ n < 64, IsContinuation (UInt8.ofNat (n + 0x80)) := by
  unfold IsContinuation
  decide

theorem lead_one : ∀ n < 128, n ≠ 0 →
    UInt8.ofNat n ≠ 0 ∧ tailLength (UInt8.ofNat n) = some 0 := by
  decide

theorem lead_two : ∀ n < 32,
    UInt8.ofNat (n + 0xc0) ≠ 0 ∧ tailLength (UInt8.ofNat (n + 0xc0)) = some 1 := by
  decide

theorem lead_three : ∀ n < 16,
    UInt8.ofNat (n + 0xe0) ≠ 0 ∧ tailLength (UInt8.ofNat (n + 0xe0)) = some 2 := by
  decide

theorem lead_four : ∀ n < 8,
    UInt8.ofNat (n + 0xf0) ≠ 0 ∧ tailLength (UInt8.ofNat (n + 0xf0)) = some 3 := by
  decide

/-- The encoding of a scalar value other than U+0000 is one sequence. -/
theorem sequence_utf8EncodeChar {c : Char} (hc : c.val.toNat ≠ 0) :
    Sequence (String.utf8EncodeChar c) := by
  have hcont : ∀ n, IsContinuation (UInt8.ofNat (n % 0x40 + 0x80)) := fun n =>
    isContinuation_ofNat _ (Nat.mod_lt _ (by decide))
  unfold String.utf8EncodeChar
  dsimp only
  -- One case for each length of the encoding: its lead byte, then continuation bytes.
  split_ifs with h₁ h₂ h₃
  · have hlead := lead_one c.val.toNat (Nat.lt_succ_of_le h₁) hc
    exact .intro hlead.1 hlead.2 (by simp)
  · have hlead := lead_two (c.val.toNat / 64 % 0x20) (Nat.mod_lt _ (by decide))
    exact .intro hlead.1 hlead.2 (by simp only [List.forall_mem_cons, hcont, true_and]; simp)
  · have hlead := lead_three (c.val.toNat / 4096 % 0x10) (Nat.mod_lt _ (by decide))
    exact .intro hlead.1 hlead.2 (by simp only [List.forall_mem_cons, hcont, true_and]; simp)
  · have hlead := lead_four (c.val.toNat / 262144 % 0x08) (Nat.mod_lt _ (by decide))
    exact .intro hlead.1 hlead.2 (by simp only [List.forall_mem_cons, hcont, true_and]; simp)

theorem zero_mem_utf8EncodeChar {c : Char} (hc : c.val.toNat = 0) :
    (0 : UInt8) ∈ String.utf8EncodeChar c := by
  simp [String.utf8EncodeChar, hc]

/-- A well-formed text without NUL has the outline of one. -/
theorem WellFormed.structural {bytes : List UInt8} (h : WellFormed bytes)
    (hzero : ∀ b ∈ bytes, b ≠ 0) : Structural bytes := by
  rcases h with ⟨cs, rfl⟩
  induction cs with
  | nil => exact .nil
  | cons c cs ih =>
      rw [List.flatMap_cons] at hzero ⊢
      -- U+0000 would have put a NUL into the text.
      have hc : c.val.toNat ≠ 0 := fun h =>
        hzero 0 (List.mem_append_left _ (zero_mem_utf8EncodeChar h)) rfl
      exact .cons (sequence_utf8EncodeChar hc)
        (ih fun b hb => hzero b (List.mem_append_right _ hb))

/-- The cut at the first NUL is between two scalar values. -/
theorem WellFormed.untilNul {bytes : List UInt8} (h : WellFormed bytes) :
    WellFormed (untilNul bytes) := by
  rcases h with ⟨cs, rfl⟩
  induction cs with
  | nil => exact wellFormed_nil
  | cons c cs ih =>
      rw [List.flatMap_cons]
      by_cases hc : c.val.toNat = 0
      · have hnul : String.utf8EncodeChar c = [0] := by simp [String.utf8EncodeChar, hc]
        rw [hnul]
        exact wellFormed_nil
      · rcases ih with ⟨ds, hds⟩
        rw [untilNul_append (sequence_utf8EncodeChar hc).ne_zero, hds]
        exact ⟨c :: ds, rfl⟩

/-! ## Decoding -/

/-- The scalar values the bytes encode, if they are well-formed. -/
def decode? (bytes : List UInt8) : Option (List Char) :=
  bytes.toByteArray.utf8Decode?.map Array.toList

theorem decode?_encode (cs : List Char) :
    decode? (cs.flatMap String.utf8EncodeChar) = some cs := by
  have h : (cs.flatMap String.utf8EncodeChar).toByteArray = cs.utf8Encode := rfl
  simp [decode?, h, List.utf8Decode?_utf8Encode]

theorem decode?_eq_some_iff {bytes : List UInt8} {cs : List Char} :
    decode? bytes = some cs ↔ bytes = cs.flatMap String.utf8EncodeChar := by
  constructor
  · intro h
    rcases Option.map_eq_some_iff.1 h with ⟨chars, hchars, rfl⟩
    -- What decodes is an encoding of something, and decoding that is unambiguous.
    have hvalid := ByteArray.isSome_utf8Decode?_iff.1 (Option.isSome_of_eq_some hchars)
    rcases hvalid with ⟨ds, hds⟩
    have hbytes : bytes = ds.flatMap String.utf8EncodeChar := by
      have hdata := congrArg (fun b => b.data.toList) hds
      simpa [List.utf8Encode] using hdata
    rw [hbytes, decode?_encode] at h
    rw [hbytes, Option.some_inj.1 h]
  · rintro rfl
    exact decode?_encode cs

theorem wellFormed_iff_decode? {bytes : List UInt8} :
    WellFormed bytes ↔ ∃ cs, decode? bytes = some cs :=
  exists_congr fun _ => decode?_eq_some_iff.symm

instance (bytes : List UInt8) : Decidable (WellFormed bytes) :=
  decidable_of_iff ((decode? bytes).isSome = true)
    (by rw [wellFormed_iff_decode?, Option.isSome_iff_exists])

/-! ## UTF-16 -/

/-- The UTF-16 units of a scalar value. -/
def utf16EncodeChar (c : Char) : List UInt16 :=
  let v := c.val
  if v < 0x10000 then
    [v.toUInt16]
  else
    -- a surrogate pair
    [((v - 0x10000) / 0x400 + 0xD800).toUInt16, ((v - 0x10000) % 0x400 + 0xDC00).toUInt16]

theorem utf16EncodeChar_ne_nil (c : Char) : utf16EncodeChar c ≠ [] := by
  unfold utf16EncodeChar
  dsimp only
  split_ifs <;> simp

/-- UTF-16 takes no more units than UTF-8 takes bytes. -/
theorem length_utf16EncodeChar_le (c : Char) :
    (utf16EncodeChar c).length ≤ (String.utf8EncodeChar c).length := by
  unfold utf16EncodeChar
  dsimp only
  split_ifs with hplane
  · exact List.length_pos_iff.2 String.utf8EncodeChar_ne_nil
  · -- A surrogate pair stands for a scalar value that takes four bytes.
    have hplane := UInt32.not_lt.1 hplane
    simp only [String.length_utf8EncodeChar, Char.utf8Size]
    grind

theorem length_flatMap_utf16EncodeChar_le (cs : List Char) :
    (cs.flatMap utf16EncodeChar).length ≤ (cs.flatMap String.utf8EncodeChar).length := by
  induction cs with
  | nil => exact Nat.le_refl _
  | cons c cs ih =>
      simpa using Nat.add_le_add (length_utf16EncodeChar_le c) ih

end Utf8
