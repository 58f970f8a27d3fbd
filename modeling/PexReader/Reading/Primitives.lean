import PexReader.Model.Reader

/-!
# Primitives — what the reader object and the primitive readers accept

The reader object is a metered cursor: its input is the unread stream, its budget is
`maxAggregateElements`, and in every `Valid` state its 64-bit account agrees with the stream.  Each
primitive then parses the big-endian spelling of its value, and each early size check is an
`Admits` check, which is all the record readers need to know about it.
-/

namespace PexReader

open BigEndian Metered Metered.Cursor

namespace PexBinaryReader

/-! ## The account of the reader -/

/-- The account agrees with the stream and stays within the two limits. -/
structure Valid (reader : PexBinaryReader) : Prop where
  account : reader.position.toNat + reader.stream.length = reader.size.toNat
  size_le : reader.size ≤ maxFileSize
  elements_le : reader.aggregateElements ≤ maxAggregateElements

theorem Valid.size_lt {reader : PexBinaryReader} (h : reader.Valid) :
    reader.size.toNat ≤ 67108864 := by
  have hsize := UInt64.le_iff_toNat_le.1 h.size_le
  exact hsize

theorem Valid.elements_lt {reader : PexBinaryReader} (h : reader.Valid) :
    reader.aggregateElements.toNat ≤ 1000000 := by
  have helements := UInt64.le_iff_toNat_le.1 h.elements_le
  exact helements

/-- In a valid state `Remaining()` is the length of the unread stream: the subtraction does not
wrap. -/
theorem Valid.toNat_remaining {reader : PexBinaryReader} (h : reader.Valid) :
    reader.remaining.toNat = reader.stream.length := by
  have haccount := h.account
  have hle : reader.position ≤ reader.size := UInt64.le_iff_toNat_le.2 (by omega)
  calc
    reader.remaining.toNat
        = reader.size.toNat - reader.position.toNat := UInt64.toNat_sub_of_le _ _ hle
    _ = reader.stream.length := by omega

theorem Valid.toNat_available {reader : PexBinaryReader} (h : reader.Valid) :
    (maxAggregateElements - reader.aggregateElements).toNat =
      1000000 - reader.aggregateElements.toNat :=
  calc
    (maxAggregateElements - reader.aggregateElements).toNat
        = maxAggregateElements.toNat - reader.aggregateElements.toNat :=
          UInt64.toNat_sub_of_le _ _ h.elements_le
    _ = 1000000 - reader.aggregateElements.toNat := rfl

/-- An addition that stays below `2 ^ 64` does not wrap. -/
theorem toNat_add_of_lt {x n : UInt64} (h : x.toNat + n.toNat < 2 ^ 64) :
    (x + n).toNat = x.toNat + n.toNat :=
  calc
    (x + n).toNat
        = (x.toNat + n.toNat) % 2 ^ 64 := UInt64.toNat_add _ _
    _ = x.toNat + n.toNat := Nat.mod_eq_of_lt h

theorem toNat_add_ofNat {x : UInt64} {n : Nat} (h : x.toNat + n < 2 ^ 64) :
    (x + UInt64.ofNat n).toNat = x.toNat + n := by
  have hn : (UInt64.ofNat n).toNat = n :=
    UInt64.toNat_ofNat_of_lt' (Nat.lt_of_le_of_lt (Nat.le_add_left n x.toNat) h)
  rw [toNat_add_of_lt (by rwa [hn]), hn]

/-- Move past `n` bytes and account for `c` elements. -/
def advance (n c : Nat) (reader : PexBinaryReader) : PexBinaryReader :=
  { reader with
    stream := reader.stream.drop n
    position := reader.position + UInt64.ofNat n
    aggregateElements := reader.aggregateElements + UInt64.ofNat c }

theorem toNat_elements_advance {n c : Nat} {reader : PexBinaryReader}
    (hc : reader.aggregateElements.toNat + c ≤ 1000000) :
    (reader.advance n c).aggregateElements.toNat = reader.aggregateElements.toNat + c :=
  toNat_add_ofNat (by omega)

theorem toNat_position_advance {n c : Nat} {reader : PexBinaryReader} (h : reader.Valid)
    (hn : n ≤ reader.stream.length) :
    (reader.advance n c).position.toNat = reader.position.toNat + n := by
  have haccount := h.account
  have hsize := h.size_lt
  exact toNat_add_ofNat (by omega)

/-- The reader only moves forward. -/
theorem position_le_advance {n : Nat} (c : Nat) {reader : PexBinaryReader} (h : reader.Valid)
    (hn : n ≤ reader.stream.length) : reader.position ≤ (reader.advance n c).position := by
  refine UInt64.le_iff_toNat_le.2 ?_
  rw [toNat_position_advance h hn]
  exact Nat.le_add_right _ _

theorem Valid.advance {n c : Nat} {reader : PexBinaryReader} (h : reader.Valid)
    (hn : n ≤ reader.stream.length) (hc : reader.aggregateElements.toNat + c ≤ 1000000) :
    (reader.advance n c).Valid where
  account := by
    have haccount := h.account
    rw [toNat_position_advance h hn]
    simp only [PexBinaryReader.advance, List.length_drop]
    omega
  size_le := h.size_le
  elements_le := by
    refine UInt64.le_iff_toNat_le.2 ?_
    rw [toNat_elements_advance hc]
    exact hc

instance : Cursor PexBinaryReader where
  rest := stream
  spent reader := reader.aggregateElements.toNat
  limit := 1000000
  Valid := Valid
  advance := advance
  spent_le _ h := h.elements_lt
  advance_zero reader := by simp [advance]
  advance_advance m c n d reader := by
    simp [advance, List.drop_drop, UInt64.ofNat_add, UInt64.add_assoc]
  rest_advance _ _ _ := rfl
  spent_advance _ _ _ _ hc := toNat_elements_advance hc
  valid_advance _ _ _ h hn hc := h.advance hn hc

/-! ## `Read` and the early checks -/

theorem fail_ne_ok {α : Type} {message : String} {guards : SizeGuards} {s s' : PexBinaryReader}
    {v : α} : (fail message : ReadM α) guards s ≠ .ok v s' := by
  rintro ⟨⟩

theorem gt_remaining_iff {reader : PexBinaryReader} (h : reader.Valid) (n : UInt64) :
    n > reader.remaining ↔ reader.stream.length < n.toNat := by
  rw [gt_iff_lt, UInt64.lt_iff_toNat_lt, h.toNat_remaining]

/-- The run of `Read`, test by test. -/
theorem read_eq (byteCount : UInt64) (context : String) (guards : SizeGuards)
    (s : PexBinaryReader) :
    PexBinaryReader.read byteCount context guards s =
      if byteCount > s.remaining then
        fail (context ++ " exceeds the remaining PEX input.") guards s
      else if byteCount = 0 then .ok [] s
      else if byteCount > maxStreamSize then
        fail (context ++ " exceeds the stream read limit.") guards s
      else if (s.stream.take byteCount.toNat).length ≠ byteCount.toNat then
        fail (context ++ " could not be read completely.") guards
          { s with stream := s.stream.drop byteCount.toNat }
      else
        .ok (s.stream.take byteCount.toNat)
          { s with
            stream := s.stream.drop byteCount.toNat
            position := s.position + byteCount } := by
  rw [PexBinaryReader.read, get_bind]
  dsimp only
  split_ifs <;> rfl

/-- Bytes that are not there are refused before the stream is touched. -/
theorem read_of_lt {s : PexBinaryReader} (hs : s.Valid) {byteCount : UInt64}
    (h : s.stream.length < byteCount.toNat) (context : String) (guards : SizeGuards) :
    PexBinaryReader.read byteCount context guards s =
      fail (context ++ " exceeds the remaining PEX input.") guards s := by
  rw [read_eq, if_pos ((gt_remaining_iff hs byteCount).2 h)]

/-- Bytes that are there are taken, and the other two failures of `Read` cannot happen. -/
theorem read_of_le {s : PexBinaryReader} (hs : s.Valid) {byteCount : UInt64}
    (h : byteCount.toNat ≤ s.stream.length) (context : String) (guards : SizeGuards) :
    PexBinaryReader.read byteCount context guards s =
      .ok (s.stream.take byteCount.toNat) (s.advance byteCount.toNat 0) := by
  have hrem : ¬ byteCount > s.remaining := by
    rw [gt_remaining_iff hs]
    exact Nat.not_lt.2 h
  -- The stream limit is far above the file size limit.
  have hstream : ¬ byteCount > maxStreamSize := by
    intro hgt
    have hlt : maxStreamSize.toNat < byteCount.toNat := UInt64.lt_iff_toNat_lt.1 hgt
    have hmax : maxStreamSize.toNat = 9223372036854775807 := rfl
    have hsize := hs.size_lt
    have haccount := hs.account
    omega
  have htake : (s.stream.take byteCount.toNat).length = byteCount.toNat :=
    List.length_take_of_le h
  rw [read_eq, if_neg hrem, if_neg hstream, if_neg (not_not.2 htake)]
  split_ifs with hzero
  · -- Taking no bytes is what the early return does.
    simp [hzero, PexBinaryReader.advance]
  · simp [PexBinaryReader.advance]

theorem parses_read (byteCount : UInt64) (context : String) :
    Parses (PexBinaryReader.read byteCount context)
      (Format.coded (fun bytes => bytes.length = byteCount.toNat) (fun bytes => bytes)
        (fun _ => 0)) := by
  intro guards s hs v s'
  rcases Nat.lt_or_ge s.stream.length byteCount.toNat with hshort | hfit
  · rw [read_of_lt hs hshort]
    constructor
    · intro h
      exact absurd h fail_ne_ok
    · -- No spelling of this length fits into what is left.
      rintro ⟨bs, c, ⟨hlen, (hbs : bs = v), -⟩, hfront, -⟩
      have hle : bs.length ≤ s.stream.length := hfront.length_le
      rw [hbs] at hle
      omega
  · have htake : (s.stream.take byteCount.toNat).length = byteCount.toNat :=
      List.length_take_of_le hfit
    rw [read_of_le hs hfit]
    constructor
    · rintro ⟨⟩
      refine ⟨_, 0, ⟨htake, rfl, rfl⟩, List.take_prefix _ _, spent_le s hs, ?_⟩
      rw [htake]
      rfl
    · rintro ⟨bs, c, ⟨hlen, (hbs : bs = v), rfl⟩, hfront, -, rfl⟩
      -- There is only one list of this length at the front of the stream.
      have hv : bs = s.stream.take byteCount.toNat := by
        rw [← hlen, ← hbs]
        exact List.prefix_iff_eq_take.1 hfront
      rw [← hbs, hv, htake]
      rfl

/-- What `ValidateCount` does to the account. -/
theorem advance_count (s : PexBinaryReader) (count : UInt64) :
    s.advance 0 count.toNat = { s with aggregateElements := s.aggregateElements + count } := by
  simp [PexBinaryReader.advance]

/-- The run of `ValidateCount`, test by test. -/
theorem validateCount_eq (count minimum : UInt64) (context : String) (guards : SizeGuards)
    (s : PexBinaryReader) :
    validateCount count minimum context guards s =
      if count > maxAggregateElements - s.aggregateElements then
        fail (context ++ " exceeds the aggregate element limit.") guards s
      else if guards = .enforced ∧ minimum ≠ 0 ∧ count > s.remaining / minimum then
        fail (context ++ " exceeds the remaining PEX input.") guards s
      else .ok () (s.advance 0 count.toNat) := by
  rw [validateCount, readThe_bind, get_bind, advance_count]
  split_ifs <;> rfl

/-- The first test is the budget, written so that it cannot overflow. -/
theorem gt_available_iff {s : PexBinaryReader} (hs : s.Valid) (count : UInt64) :
    count > maxAggregateElements - s.aggregateElements ↔
      1000000 < s.aggregateElements.toNat + count.toNat := by
  have helements := hs.elements_lt
  rw [gt_iff_lt, UInt64.lt_iff_toNat_lt, hs.toNat_available]
  omega

/-- The second test passes when `count * minimum` bytes are left: the division rounds down. -/
theorem not_gt_remaining_div {s : PexBinaryReader} (hs : s.Valid) {count minimum : UInt64}
    (h : count.toNat * minimum.toNat ≤ s.stream.length) (hzero : minimum ≠ 0) :
    ¬ count > s.remaining / minimum := by
  intro hgt
  have hpos : 0 < minimum.toNat :=
    Nat.pos_of_ne_zero fun h => hzero (UInt64.toNat_inj.1 h)
  have hdiv : s.stream.length / minimum.toNat < count.toNat := by
    have hlt := UInt64.lt_iff_toNat_lt.1 hgt
    rwa [UInt64.toNat_div, hs.toNat_remaining] at hlt
  exact Nat.not_le.2 ((Nat.div_lt_iff_lt_mul hpos).1 hdiv) h

theorem admits_validateCount (count minimum : UInt64) (context : String) :
    Admits (validateCount count minimum context) count.toNat (count.toNat * minimum.toNat) := by
  intro guards s hs
  rw [validateCount_eq]
  constructor
  · intro s' h
    split_ifs at h with hbudget hleft
    · exact absurd h fail_ne_ok
    · exact absurd h fail_ne_ok
    · cases h
      rw [gt_available_iff hs] at hbudget
      exact ⟨Nat.le_of_not_lt hbudget, rfl⟩
  · intro hspent hneed
    have hbudget : ¬ count > maxAggregateElements - s.aggregateElements := by
      rw [gt_available_iff hs]
      exact Nat.not_lt.2 hspent
    have hleft : ¬ (guards = .enforced ∧ minimum ≠ 0 ∧ count > s.remaining / minimum) := by
      rintro ⟨-, hzero, hgt⟩
      exact not_gt_remaining_div hs hneed hzero hgt
    rw [if_neg hbudget, if_neg hleft]
    rfl

/-- The two checks that only compare a number of bytes with what is left. -/
theorem admits_byteCheck {check : ReadM Unit} {byteCount : UInt64}
    (failure : PexBinaryReader → EStateM.Result StdException PexBinaryReader Unit)
    (hfailure : ∀ s s', failure s ≠ .ok () s')
    (hrun : ∀ guards s, check guards s =
      if guards = .enforced ∧ byteCount > s.remaining then failure s else .ok () s) :
    Admits check 0 byteCount.toNat := by
  intro guards s hs
  rw [hrun]
  constructor
  · intro s' h
    split_ifs at h with hleft
    · exact absurd h (hfailure s s')
    · cases h
      exact ⟨spent_le s hs, (advance_zero s).symm⟩
  · intro _ hneed
    have hleft : ¬ (guards = .enforced ∧ byteCount > s.remaining) := by
      rintro ⟨-, hgt⟩
      exact absurd hneed (Nat.not_le.2 ((gt_remaining_iff hs byteCount).1 hgt))
    rw [if_neg hleft, advance_zero]

/-- The run of `ValidateByteLength`. -/
theorem validateByteLength_eq (byteCount : UInt64) (context : String) (guards : SizeGuards)
    (s : PexBinaryReader) :
    validateByteLength byteCount context guards s =
      if guards = .enforced ∧ byteCount > s.remaining then
        fail (context ++ " exceeds the remaining PEX input.") guards s
      else .ok () s := by
  rw [validateByteLength, readThe_bind, get_bind]
  split_ifs <;> rfl

theorem admits_validateByteLength (byteCount : UInt64) (context : String) :
    Admits (validateByteLength byteCount context) 0 byteCount.toNat :=
  admits_byteCheck
    (fun s => fail (context ++ " exceeds the remaining PEX input.") .enforced s)
    (fun _ _ => fail_ne_ok) (validateByteLength_eq byteCount context)

end PexBinaryReader

open PexBinaryReader

/-! ## Primitive values -/

section Values

variable {α : Type}

/-- A reading of `n` bytes followed by a conversion parses the values spelled by `enc`, when the
conversion inverts `enc`. -/
theorem parses_converted {n : UInt64} {context : String} {f : List UInt8 → α}
    {enc : α → List UInt8} (hlen : ∀ v, (enc v).length = n.toNat) (hf : ∀ v, f (enc v) = v)
    (henc : ∀ bytes, bytes.length = n.toNat → enc (f bytes) = bytes) :
    Parses (do let bytes ← PexBinaryReader.read n context; return f bytes)
      (Format.coded (fun _ => True) enc (fun _ => 0)) := by
  refine ((parses_read n context).bind fun bytes => Parses.pure (f bytes)).congr ?_
  intro v bs c
  constructor
  · rintro ⟨bytes, bs₁, _, _, _, ⟨hbytes, (hbs₁ : bs₁ = bytes), rfl⟩, ⟨rfl, rfl, rfl⟩, rfl, rfl⟩
    exact ⟨trivial, by simp [hbs₁, henc bytes hbytes], rfl⟩
  · rintro ⟨-, rfl, rfl⟩
    exact ⟨enc v, _, _, _, _, ⟨hlen v, rfl, rfl⟩, ⟨(hf v).symm, rfl, rfl⟩, by simp, rfl⟩

end Values

theorem parses_readUInt8 :
    Parses readUInt8 (Format.coded (fun _ => True) (fun v => [v]) (fun _ => 0)) := by
  refine parses_converted (fun _ => rfl) (fun _ => rfl) ?_
  intro bytes hlen
  rcases List.length_eq_one_iff.1 hlen with ⟨a, rfl⟩
  rfl

theorem parses_readUInt16BE :
    Parses readUInt16BE (Format.coded (fun _ => True) be16 (fun _ => 0)) := by
  refine parses_converted length_be16 ofBe16_bytes ?_
  intro bytes hlen
  match bytes, hlen with
  | [a, b], _ => exact be16_ofBe16 a b

theorem parses_readUInt32BE :
    Parses readUInt32BE (Format.coded (fun _ => True) be32 (fun _ => 0)) := by
  refine parses_converted length_be32 ofBe32_bytes ?_
  intro bytes hlen
  match bytes, hlen with
  | [a, b, c, d], _ => exact be32_ofBe32 a b c d

theorem parses_readUInt64BE :
    Parses readUInt64BE (Format.coded (fun _ => True) be64 (fun _ => 0)) := by
  refine parses_converted length_be64 ofBe64_bytes ?_
  intro bytes hlen
  match bytes, hlen with
  | [a, b, c, d, e, f, g, h], _ => exact be64_ofBe64 a b c d e f g h

end PexReader
