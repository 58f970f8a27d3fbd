import PexReader.Format.Footprint
import PexReader.Reading.Records

/-!
# Programs — every `Read*` member is put together from five readers

`Read`, `ValidateCount`, `ValidateByteLength`, the test of `ReadObjects` against `Remaining()` and
`Position()`: the members of `PexData` look at the file, charge elements and ask for the position
through these alone.  The depth of a member is the depth to which its counted vectors are nested.
-/

namespace PexReader

open Focus Metered Metered.Cursor PexBinaryReader

/-! ## The basic readers -/

instance : Tape PexBinaryReader where
  onto stream reader := { reader with stream }
  rest_onto _ _ := rfl
  onto_rest _ := rfl
  onto_onto _ _ _ := rfl

/-- What a basic reader charges, and the bytes it reads if it succeeds. -/
inductive Primitive : ∀ ⦃α : Type⦄, Nat → Nat → ReadM α → Prop
  | read (byteCount : UInt64) (context : String) :
      Primitive 0 byteCount.toNat (PexBinaryReader.read byteCount context)
  | validateCount (count minimum : UInt64) (context : String) (hminimum : minimum ≠ 0) :
      Primitive count.toNat 0 (validateCount count minimum context)
  | validateByteLength (byteCount : UInt64) (context : String) :
      Primitive 0 0 (validateByteLength byteCount context)
  | checkDataSize (dataSize : UInt32) : Primitive 0 0 (checkDataSize dataSize)
  | readerPosition : Primitive 0 0 readerPosition

/-- The run of the test of `ReadObjects`. -/
theorem checkDataSize_eq (dataSize : UInt32) (guards : SizeGuards) (s : PexBinaryReader) :
    checkDataSize dataSize guards s =
      if guards = .enforced ∧ dataSize.toUInt64 > s.remaining then
        .error (.runtimeError "Object data size exceeds the remaining PEX input.") s
      else .ok () s := by
  rw [checkDataSize, readThe_bind, get_bind]
  split_ifs <;> rfl

/-! ### What they look at -/

theorem local_read (byteCount : UInt64) (context : String) :
    Local (PexBinaryReader.read byteCount context) := by
  intro guards s
  -- The tests before the stream is touched are made on the account.
  have hrun := fun l => read_eq byteCount context guards (Tape.onto l s)
  rw [read_eq]
  split_ifs with hleft hzero hstream hshort
  · exact ⟨0, Nat.zero_le _, rfl, fun l _ _ => (hrun l).trans (if_pos hleft)⟩
  · exact ⟨0, Nat.zero_le _, rfl, fun l _ _ =>
      (hrun l).trans ((if_neg hleft).trans (if_pos hzero))⟩
  · exact ⟨0, Nat.zero_le _, rfl, fun l _ _ =>
      (hrun l).trans ((if_neg hleft).trans ((if_neg hzero).trans (if_pos hstream)))⟩
  · -- The stream has ended: all of it has been looked at.
    have hle : s.stream.length ≤ byteCount.toNat := by
      rw [List.length_take] at hshort
      omega
    have hdrop : s.stream.drop s.stream.length = s.stream.drop byteCount.toNat := by
      rw [List.drop_length, List.drop_eq_nil_of_le hle]
    refine ⟨s.stream.length, Nat.le_refl _, hdrop.symm, ?_⟩
    intro l hlength htake
    have hl : l = s.stream :=
      calc
        l = l.take s.stream.length := (List.take_of_length_le (Nat.le_of_eq hlength)).symm
        _ = s.stream.take s.stream.length := htake
        _ = s.stream := List.take_length
    rw [hl, hdrop]
    exact (hrun s.stream).trans ((if_neg hleft).trans ((if_neg hzero).trans
      ((if_neg hstream).trans (if_pos hshort))))
  · have hle : byteCount.toNat ≤ s.stream.length := by
      rw [List.length_take] at hshort
      omega
    refine ⟨byteCount.toNat, hle, rfl, ?_⟩
    intro l _ htake
    have htake' : l.take byteCount.toNat = s.stream.take byteCount.toNat := htake
    have hlong : ¬ (l.take byteCount.toNat).length ≠ byteCount.toNat := by
      rw [htake']
      exact hshort
    rw [← htake']
    exact (hrun l).trans ((if_neg hleft).trans ((if_neg hzero).trans
      ((if_neg hstream).trans (if_neg hlong))))

/-- The other basic readers leave the stream alone, and test the account. -/
theorem Primitive.isLocal {α : Type} {charged paid : Nat} {r : ReadM α}
    (h : Primitive charged paid r) : Local r := by
  cases h with
  | read byteCount context => exact local_read byteCount context
  | validateCount count minimum context hminimum =>
      refine .of_still ?_ ?_
      · intro guards s
        rw [validateCount_eq]
        split_ifs <;> rfl
      · intro guards s l
        have hrun := validateCount_eq count minimum context guards (Tape.onto l s)
        rw [validateCount_eq _ _ _ _ s]
        split_ifs with hbudget hleft
        · exact hrun.trans (if_pos hbudget)
        · exact hrun.trans ((if_neg hbudget).trans (if_pos hleft))
        · exact hrun.trans ((if_neg hbudget).trans (if_neg hleft))
  | validateByteLength byteCount context =>
      refine .of_still ?_ ?_
      · intro guards s
        rw [validateByteLength_eq]
        split_ifs <;> rfl
      · intro guards s l
        have hrun := validateByteLength_eq byteCount context guards (Tape.onto l s)
        rw [validateByteLength_eq _ _ _ s]
        split_ifs with hleft
        · exact hrun.trans (if_pos hleft)
        · exact hrun.trans (if_neg hleft)
  | checkDataSize dataSize =>
      refine .of_still ?_ ?_
      · intro guards s
        rw [checkDataSize_eq]
        split_ifs <;> rfl
      · intro guards s l
        have hrun := checkDataSize_eq dataSize guards (Tape.onto l s)
        rw [checkDataSize_eq _ _ s]
        split_ifs with hleft
        · exact hrun.trans (if_pos hleft)
        · exact hrun.trans (if_neg hleft)
  | readerPosition => exact .of_still (fun _ _ => rfl) (fun _ _ _ => rfl)

/-- None of them changes the size of the file. -/
theorem Primitive.size {α : Type} {charged paid : Nat} {r : ReadM α}
    (h : Primitive charged paid r) (guards : SizeGuards) (s : PexBinaryReader) :
    (behind (r guards s)).size = s.size := by
  cases h with
  | read byteCount context =>
      rw [read_eq]
      split_ifs <;> rfl
  | validateCount count minimum context hminimum =>
      rw [validateCount_eq]
      split_ifs <;> rfl
  | validateByteLength byteCount context =>
      rw [validateByteLength_eq]
      split_ifs <;> rfl
  | checkDataSize dataSize =>
      rw [checkDataSize_eq]
      split_ifs <;> rfl
  | readerPosition => rfl

/-! ### What they make of a shorter file -/

/-- The reader, had the file been `j` bytes shorter. -/
def PexBinaryReader.cut (j : Nat) (reader : PexBinaryReader) : PexBinaryReader :=
  { reader with
    stream := reader.stream.take (reader.stream.length - j)
    size := reader.size - UInt64.ofNat j }

/-- The reader has not come as far as the bytes that are to be cut. -/
def PexBinaryReader.InFront (j : Nat) (reader : PexBinaryReader) : Prop :=
  reader.Valid ∧ j ≤ reader.stream.length

theorem PexBinaryReader.InFront.toNat_size {j : Nat} {s : PexBinaryReader} (h : s.InFront j) :
    (s.cut j).size.toNat = s.size.toNat - j := by
  have haccount := h.1.account
  have hsize := h.1.size_lt
  have hj := h.2
  have hnat : (UInt64.ofNat j).toNat = j := UInt64.toNat_ofNat_of_lt' (by
    have hlt : (67108864 : Nat) < UInt64.size := by decide
    omega)
  have hle : UInt64.ofNat j ≤ s.size := UInt64.le_iff_toNat_le.2 (by omega)
  rw [PexBinaryReader.cut, UInt64.toNat_sub_of_le _ _ hle, hnat]

theorem PexBinaryReader.InFront.valid {j : Nat} {s : PexBinaryReader} (h : s.InFront j) :
    (s.cut j).Valid where
  account := by
    have haccount := h.1.account
    have hj := h.2
    rw [h.toNat_size]
    simp only [PexBinaryReader.cut, List.length_take]
    omega
  size_le := by
    have hle := UInt64.le_iff_toNat_le.1 h.1.size_le
    rw [UInt64.le_iff_toNat_le, h.toNat_size]
    omega
  elements_le := h.1.elements_le

/-- The input has run out, or would. -/
def RanOut (e : StdException) : Prop :=
  ∃ context, e = .runtimeError (context ++ " exceeds the remaining PEX input.")

theorem fail_ranOut {α : Type} (context : String) {guards : SizeGuards} (s : PexBinaryReader) :
    ∃ e s', (fail (context ++ " exceeds the remaining PEX input.") : ReadM α) guards s =
      .error e s' ∧ RanOut e :=
  ⟨_, _, rfl, context, rfl⟩

theorem tracks_read {j : Nat} (byteCount : UInt64) (context : String) :
    Tracks (InFront j) (cut j) RanOut .enforced (PexBinaryReader.read byteCount context) := by
  intro s hs
  have hlength : (s.cut j).stream.length = s.stream.length - j := by
    simp [PexBinaryReader.cut]
  rcases Nat.lt_or_ge (s.cut j).stream.length byteCount.toNat with hshort | hfit
  · rw [read_of_lt hs.valid hshort]
    exact Or.inr (fail_ranOut context _)
  · have hj := hs.2
    have hwhole : byteCount.toNat ≤ s.stream.length := by omega
    rw [read_of_le hs.1 hwhole, read_of_le hs.valid hfit]
    refine Or.inl ⟨⟨hs.1.advance hwhole hs.1.elements_lt, ?_⟩, ?_⟩
    · change j ≤ (s.stream.drop byteCount.toNat).length
      rw [List.length_drop]
      omega
    · have htake : (s.cut j).stream.take byteCount.toNat = s.stream.take byteCount.toNat := by
        simp only [PexBinaryReader.cut, List.take_take]
        rw [Nat.min_eq_left (by omega)]
      have hdrop : (s.cut j).stream.drop byteCount.toNat =
          (s.stream.drop byteCount.toNat).take ((s.stream.drop byteCount.toNat).length - j) := by
        simp only [PexBinaryReader.cut, List.drop_take, List.length_drop]
        congr 1
        omega
      have hadvance : (s.cut j).advance byteCount.toNat 0 =
          (s.advance byteCount.toNat 0).cut j := by
        simp only [PexBinaryReader.advance, hdrop]
        rfl
      rw [htake, hadvance]
      rfl

theorem remaining_cut_le {j : Nat} {s : PexBinaryReader} (hs : s.InFront j) :
    (s.cut j).remaining ≤ s.remaining := by
  rw [UInt64.le_iff_toNat_le, hs.valid.toNat_remaining, hs.1.toNat_remaining]
  exact (List.take_prefix _ _).length_le

/-- What passes on the shorter file passes on the longer one. -/
theorem tracks_validateCount {j : Nat} (count minimum : UInt64) (context : String) :
    Tracks (InFront j) (cut j) RanOut .enforced (validateCount count minimum context) := by
  intro s hs
  have hrun := validateCount_eq count minimum context .enforced s
  have hcut := validateCount_eq count minimum context .enforced (s.cut j)
  by_cases hbudget : count > maxAggregateElements - s.aggregateElements
  · rw [hrun.trans (if_pos hbudget), hcut.trans (if_pos hbudget)]
    exact Or.inl ⟨⟨⟨hs.1.account, hs.1.size_le, hs.1.elements_le⟩, hs.2⟩, rfl⟩
  · have hrun := hrun.trans (if_neg hbudget)
    have hcut := hcut.trans (if_neg hbudget)
    by_cases hleft : minimum ≠ 0 ∧ count > (s.cut j).remaining / minimum
    · rw [hcut, if_pos ⟨rfl, hleft⟩]
      exact Or.inr (fail_ranOut context _)
    · have hwhole : ¬ (minimum ≠ 0 ∧ count > s.remaining / minimum) := by
        rintro ⟨hminimum, hgt⟩
        refine hleft ⟨hminimum, UInt64.lt_of_le_of_lt ?_ hgt⟩
        rw [UInt64.le_iff_toNat_le, UInt64.toNat_div, UInt64.toNat_div]
        exact Nat.div_le_div_right (UInt64.le_iff_toNat_le.1 (remaining_cut_le hs))
      rw [gt_available_iff hs.1] at hbudget
      rw [hrun, hcut, if_neg fun h => hwhole h.2, if_neg fun h => hleft h.2]
      exact Or.inl ⟨⟨hs.1.advance (Nat.zero_le _) (Nat.le_of_not_lt hbudget), hs.2⟩, rfl⟩

/-- The two checks that only compare a number of bytes with what is left. -/
theorem tracks_byteCheck {j : Nat} {check : ReadM Unit} {byteCount : UInt64}
    (failure : PexBinaryReader → EStateM.Result StdException PexBinaryReader Unit)
    (hfailure : ∀ s, ∃ e s', failure s = .error e s' ∧ RanOut e)
    (hrun : ∀ guards s, check guards s =
      if guards = .enforced ∧ byteCount > s.remaining then failure s else .ok () s) :
    Tracks (InFront j) (cut j) RanOut .enforced check := by
  intro s hs
  by_cases hleft : byteCount > (s.cut j).remaining
  · rw [hrun .enforced (s.cut j), if_pos ⟨rfl, hleft⟩]
    exact Or.inr (hfailure _)
  · have hwhole : ¬ byteCount > s.remaining :=
      UInt64.not_lt.2 (UInt64.le_trans (UInt64.not_lt.1 hleft) (remaining_cut_le hs))
    rw [hrun .enforced s, if_neg fun h => hwhole h.2, hrun .enforced (s.cut j),
      if_neg fun h => hleft h.2]
    exact Or.inl ⟨hs, rfl⟩

theorem Primitive.tracks {j : Nat} {α : Type} {charged paid : Nat} {r : ReadM α}
    (h : Primitive charged paid r) : Tracks (InFront j) (cut j) RanOut .enforced r := by
  cases h with
  | read byteCount context => exact tracks_read byteCount context
  | validateCount count minimum context hminimum =>
      exact tracks_validateCount count minimum context
  | validateByteLength byteCount context =>
      exact tracks_byteCheck
        (fun s => fail (context ++ " exceeds the remaining PEX input.") .enforced s)
        (fail_ranOut context) (validateByteLength_eq byteCount context)
  | checkDataSize dataSize =>
      exact tracks_byteCheck _ (fun s => ⟨_, s, rfl, "Object data size", rfl⟩)
        (checkDataSize_eq dataSize)
  | readerPosition => exact fun s hs => Or.inl ⟨hs, rfl⟩

/-! ### What they charge -/

/-- A reader that fails has set its flag, and nothing else. -/
theorem ahead_failed {s : PexBinaryReader} (hs : s.Valid) : Ahead s { s with failed := true } :=
  ⟨⟨hs.account, hs.size_le, hs.elements_le⟩, Nat.le_refl _⟩

theorem charges_read (byteCount : UInt64) (context : String) :
    Charges .enforced 0 byteCount.toNat (PexBinaryReader.read byteCount context) := by
  constructor
  · intro s hs bytes s' hrun
    rcases Nat.lt_or_ge s.stream.length byteCount.toNat with hshort | hfit
    · rw [read_of_lt hs hshort] at hrun
      exact absurd hrun fail_ne_ok
    · rw [read_of_le hs hfit] at hrun
      cases hrun
      have hvalid : (s.advance byteCount.toNat 0).Valid := hs.advance hfit hs.elements_lt
      have hrest : (rest (s.advance byteCount.toNat 0)).length =
          s.stream.length - byteCount.toNat := List.length_drop
      have hspent : spent (s.advance byteCount.toNat 0) = spent s :=
        toNat_elements_advance hs.elements_lt
      have hrest₀ : (rest s).length = s.stream.length := rfl
      refine ⟨⟨hvalid, by omega⟩, Nat.zero_le _, by omega⟩
  · intro s hs e s' hrun
    rcases Nat.lt_or_ge s.stream.length byteCount.toNat with hshort | hfit
    · rw [read_of_lt hs hshort] at hrun
      cases hrun
      exact ⟨ahead_failed hs, Nat.le_refl _⟩
    · rw [read_of_le hs hfit] at hrun
      cases hrun

/-- The guard lets through what the input can hold, at one byte or more for each element. -/
theorem le_length_of_guard {s : PexBinaryReader} (hs : s.Valid) {count minimum : UInt64}
    (h : ¬ count > s.remaining / minimum) : count.toNat ≤ s.stream.length :=
  calc
    count.toNat
        ≤ (s.remaining / minimum).toNat := UInt64.le_iff_toNat_le.1 (UInt64.not_lt.1 h)
    _ = s.stream.length / minimum.toNat := by rw [UInt64.toNat_div, hs.toNat_remaining]
    _ ≤ s.stream.length := Nat.div_le_self _ _

theorem charges_validateCount (count minimum : UInt64) (context : String)
    (hminimum : minimum ≠ 0) :
    Charges .enforced count.toNat 0 (validateCount count minimum context) := by
  constructor
  · rintro s hs ⟨⟩ s' hrun
    rw [validateCount_eq] at hrun
    split_ifs at hrun with hbudget hleft
    · exact absurd hrun fail_ne_ok
    · exact absurd hrun fail_ne_ok
    · cases hrun
      rw [gt_available_iff hs] at hbudget
      have hcount := le_length_of_guard hs fun hgt => hleft ⟨rfl, hminimum, hgt⟩
      have hbound : s.aggregateElements.toNat + count.toNat ≤ 1000000 := Nat.le_of_not_lt hbudget
      have hvalid : (s.advance 0 count.toNat).Valid := hs.advance (Nat.zero_le _) hbound
      have hspent : spent (s.advance 0 count.toNat) = spent s + count.toNat :=
        toNat_elements_advance hbound
      have hrest : rest (s.advance 0 count.toNat) = rest s := rfl
      exact ⟨⟨hvalid, Nat.le_of_eq (congrArg List.length hrest)⟩, hcount, by rw [hrest]; omega⟩
  · intro s hs e s' hrun
    rw [validateCount_eq] at hrun
    split_ifs at hrun with hbudget hleft
    · cases hrun
      exact ⟨ahead_failed hs, Nat.le_refl _⟩
    · cases hrun
      exact ⟨ahead_failed hs, Nat.le_refl _⟩

/-- A reader that moves nowhere and charges nothing. -/
theorem charges_still {α : Type} {r : ReadM α}
    (h : ∀ s : PexBinaryReader, (∃ a, r .enforced s = .ok a s) ∨ (∃ e, r .enforced s = .error e s) ∨
      ∃ e, r .enforced s = .error e { s with failed := true }) :
    Charges .enforced 0 0 r := by
  constructor
  · intro s hs a s' hrun
    rcases h s with ⟨_, heq⟩ | ⟨_, heq⟩ | ⟨_, heq⟩
    · rw [heq] at hrun
      cases hrun
      exact ⟨.refl hs, Nat.zero_le _, Nat.le_refl _⟩
    · rw [heq] at hrun
      cases hrun
    · rw [heq] at hrun
      cases hrun
  · intro s hs e s' hrun
    rcases h s with ⟨_, heq⟩ | ⟨_, heq⟩ | ⟨_, heq⟩
    · rw [heq] at hrun
      cases hrun
    · rw [heq] at hrun
      cases hrun
      exact ⟨.refl hs, Nat.le_refl _⟩
    · rw [heq] at hrun
      cases hrun
      exact ⟨ahead_failed hs, Nat.le_refl _⟩

theorem Primitive.charges {α : Type} {charged paid : Nat} {r : ReadM α}
    (h : Primitive charged paid r) : Charges .enforced charged paid r := by
  cases h with
  | read byteCount context => exact charges_read byteCount context
  | validateCount count minimum context hminimum =>
      exact charges_validateCount count minimum context hminimum
  | validateByteLength byteCount context =>
      refine charges_still fun s => ?_
      rw [validateByteLength_eq]
      split_ifs
      · exact Or.inr (Or.inr ⟨_, rfl⟩)
      · exact Or.inl ⟨_, rfl⟩
  | checkDataSize dataSize =>
      refine charges_still fun s => ?_
      rw [checkDataSize_eq]
      split_ifs
      · exact Or.inr (Or.inl ⟨_, rfl⟩)
      · exact Or.inl ⟨_, rfl⟩
  | readerPosition => exact charges_still fun s => Or.inl ⟨_, rfl⟩

/-! ## The members -/

/-- A member that is put together from the basic readers, with at most `depth` counts outstanding,
and reads at least `paid` bytes more than it was charged for. -/
abbrev Member (depth paid : Nat) {α : Type} (r : ReadM α) : Prop :=
  Program Primitive depth paid r

section Members

variable {depth : Nat}

theorem member_read (byteCount : UInt64) (context : String) :
    Member depth byteCount.toNat (PexBinaryReader.read byteCount context) :=
  (Program.basic (.read byteCount context)).weaken (Nat.zero_le _) (Nat.le_refl _)

/-- A reading that is not empty. -/
theorem member_value {α : Type} {byteCount : UInt64} (h : 1 ≤ byteCount.toNat) (context : String)
    (f : List UInt8 → α) :
    Member depth 1 (do let bytes ← PexBinaryReader.read byteCount context; return f bytes) :=
  .leading ((member_read byteCount context).weaken (Nat.le_refl _) h) fun bytes =>
    .result (f bytes)

theorem member_readUInt8 : Member depth 1 readUInt8 :=
  member_value (by decide) _ _

theorem member_readUInt16BE : Member depth 1 readUInt16BE :=
  member_value (by decide) _ _

theorem member_readUInt32BE : Member depth 1 readUInt32BE :=
  member_value (by decide) _ _

theorem member_readUInt64BE : Member depth 1 readUInt64BE :=
  member_value (by decide) _ _

theorem member_readInt32BE : Member depth 1 readInt32BE :=
  .leading member_readUInt32BE fun value => .result value.toInt32

theorem member_readerPosition : Member depth 0 readerPosition :=
  (Program.basic .readerPosition).weaken (Nat.zero_le _) (Nat.le_refl _)

/-- `ValidateCount` and what reads the elements it charges. -/
theorem member_validateCount {α : Type} {count minimum : UInt64} {context : String}
    (hminimum : minimum ≠ 0) {r : Unit → ReadM α} {paid : Nat} (hpaid : count.toNat ≤ paid)
    (hr : Member depth paid (r ())) :
    Member (depth + 1) 0 (validateCount count minimum context >>= r) :=
  .charged (.validateCount count minimum context hminimum)
    (hr.weaken (Nat.le_refl _) hpaid)

theorem member_readElements {α : Type} {element : ReadM α} (helement : Member depth 1 element)
    (count : UInt16) {minimum : UInt64} (hminimum : minimum ≠ 0) (context : String) :
    Member (depth + 1) 0 (readElements count minimum context element) :=
  member_validateCount hminimum (Nat.le_of_eq (by simp)) (helement.readLoop count.toNat)

theorem member_readWString : Member depth 1 readWString := by
  refine .leading member_readUInt16BE fun length => ?_
  split_ifs
  · exact .result []
  · refine .before ((Program.basic (.validateByteLength _ _)).weaken (Nat.zero_le _)
      (Nat.le_refl _)) fun _ => ?_
    exact .before (member_read _ _) fun buffer => .result (buffer.map UInt8.toUInt16)

theorem member_readBytes : Member depth 1 readBytes := by
  refine .leading member_readUInt16BE fun length => ?_
  split_ifs
  · exact .result []
  · refine .before ((Program.basic (.validateByteLength _ _)).weaken (Nat.zero_le _)
      (Nat.le_refl _)) fun _ => ?_
    exact (member_read _ _).weaken (Nat.le_refl _) (Nat.zero_le _)

theorem member_readHeader : Member depth 1 readHeader := by
  refine .leading member_readUInt32BE fun magic => ?_
  split_ifs
  · exact .failure _
  · exact .before member_readUInt8 fun _ => .before member_readUInt8 fun _ =>
      .before member_readUInt16BE fun _ => .before member_readUInt64BE fun _ =>
      .before member_readWString fun _ => .before member_readWString fun _ =>
      .before member_readWString fun _ => .result _

theorem member_readStringTable : Member (depth + 1) 1 readStringTable :=
  .leading member_readUInt16BE fun count =>
    .before (member_readElements member_readBytes count (by decide) _) fun _ => .result _

theorem member_readDebugFunction : Member (depth + 1) 1 readDebugFunction :=
  .leading member_readUInt16BE fun _ => .before member_readUInt16BE fun _ =>
    .before member_readUInt16BE fun _ => .before member_readUInt8 fun _ =>
    .before member_readUInt16BE fun count =>
    .before (member_readElements member_readUInt16BE count (by decide) _) fun _ => .result _

theorem member_readDebugInfo : Member (depth + 2) 1 readDebugInfo := by
  refine .leading member_readUInt8 fun hasDebugInfo => ?_
  split_ifs
  · exact .failure _
  · exact .before member_readUInt64BE fun _ => .before member_readUInt16BE fun count =>
      .before (member_readElements member_readDebugFunction count (by decide) _) fun _ => .result _
  · exact .result _

theorem member_readUserFlag : Member depth 1 readUserFlag :=
  .leading member_readUInt16BE fun _ => .before member_readUInt8 fun _ => .result _

theorem member_readUserFlags : Member (depth + 1) 1 readUserFlags :=
  .leading member_readUInt16BE fun count =>
    .before (member_readElements member_readUserFlag count (by decide) _) fun _ => .result _

theorem member_readVariableData (integer_unsigned : Bool) :
    Member depth 1 (readVariableData integer_unsigned) := by
  refine .before member_readerPosition fun position => .leading member_readUInt8 fun type => ?_
  split_ifs
  · exact .result _
  · exact .before member_readUInt16BE fun _ => .result _
  · exact .before member_readUInt32BE fun _ => .result _
  · exact .before member_readInt32BE fun _ => .result _
  · exact .before member_readUInt32BE fun _ => .result _
  · exact .before member_readUInt8 fun _ => .result _
  · exact .failure _

/-- Each of `n` values takes a byte. -/
theorem member_readValues (n : Nat) : Member depth n (readLoop n (readVariableData false)) := by
  have hmember : Member depth 1 (readVariableData false) := member_readVariableData false
  have hloop := hmember.readLoop n
  rwa [Nat.mul_one] at hloop

/-- The argument count of a call and the arguments behind it. -/
theorem member_countedArguments (header : List VariableData) (data : VariableData) :
    Member (depth + 1) 0 (do
      let argCount ← readCallArgumentCount data
      let args ← readLoop argCount.toNat (readVariableData false)
      return header ++ data :: args) := by
  by_cases hdata : ∃ n : Int32, data = { type := 3, data := .int32 n } ∧ 0 ≤ n ∧ n ≤ 4096
  · rcases hdata with ⟨n, rfl, h₀, h₁⟩
    rcases toNat_callCount h₀ h₁ with ⟨hcharge, hcount⟩
    have hlimit : ¬ (n < 0 ∨ n > maxCallArgumentCount) := by
      rintro (h | h)
      · exact absurd h (Int32.not_lt.2 h₀)
      · exact absurd h (Int32.not_lt.2 h₁)
    rw [readCallArgumentCount_int32, if_neg hlimit, bind_assoc]
    simp only [pure_bind, hcount]
    exact member_validateCount (by decide) (Nat.le_of_eq hcharge)
      ((member_readValues _).bind fun args => .result _)
  · rcases readCallArgumentCount_throws hdata with ⟨e, he⟩
    have hfailure : Program Primitive (depth + 1) 0 (MonadExcept.throw e : ReadM UInt16) :=
      .failure e
    rw [he]
    exact .before hfailure fun _ => .before (member_readValues _) fun _ => .result _

/-- The check of the header is settled before the arguments are counted. -/
theorem member_readCallArguments {leading : UInt64} (hleading : leading.toNat < 2 ^ 32)
    (context : String) : Member (depth + 1) 0 (readCallArguments leading context) := by
  have htoNat : (leading + 1).toNat = leading.toNat + 1 := by
    rw [UInt64.toNat_add]
    exact Nat.mod_eq_of_lt (by simp; omega)
  have hsplit : readCallArguments leading context = (do
      let p ← (do
        validateCount (leading + 1) 1 context
        let header ← readLoop leading.toNat (readVariableData false)
        let argCountData ← readVariableData false
        return (header, argCountData))
      let argCount ← readCallArgumentCount p.2
      let args ← readLoop argCount.toNat (readVariableData false)
      return p.1 ++ p.2 :: args) := by
    simp only [readCallArguments, bind_assoc, pure_bind]
  rw [hsplit]
  refine .before (member_validateCount (by decide) (Nat.le_of_eq htoNat) ?_) fun p =>
    member_countedArguments p.1 p.2
  exact (member_readValues _).bind fun header => .leading (member_readVariableData false) fun _ =>
    .result _

theorem member_readArguments (op : Opcode) : Member (depth + 1) 0 (readArguments op) := by
  have hfixed : ∀ op : Opcode, Member (depth + 1) 0 (do
      let argCount ← MonadExcept.ofExcept (getOpcodeArgumentCount op)
      validateCount argCount 1 "Instruction argument count"
      readLoop argCount.toNat (readVariableData false)) := fun op =>
    .before (.ofExcept (getOpcodeArgumentCount op)) fun argCount =>
      member_validateCount (by decide) (Nat.le_refl _) (member_readValues _)
  cases op with
  | nop => exact .result []
  | callmethod => exact member_readCallArguments (by decide) _
  | callparent => exact member_readCallArguments (by decide) _
  | callstatic => exact member_readCallArguments (by decide) _
  | _ => exact hfixed _

theorem member_readInstruction : Member (depth + 1) 1 readInstruction := by
  refine .leading member_readUInt8 fun opcode => ?_
  split_ifs
  · exact .failure _
  · exact .before (member_readArguments _) fun arguments => .result _

theorem member_readVariableType : Member depth 1 readVariableType :=
  .leading member_readUInt16BE fun _ => .before member_readUInt16BE fun _ => .result _

theorem member_readFunction : Member (depth + 2) 1 readFunction :=
  .leading member_readUInt16BE fun _ => .before member_readUInt16BE fun _ =>
    .before member_readUInt32BE fun _ => .before member_readUInt8 fun _ =>
    .before member_readUInt16BE fun numParams =>
    .before (member_readElements member_readVariableType numParams (by decide) _) fun _ =>
    .before member_readUInt16BE fun numLocals =>
    .before (member_readElements member_readVariableType numLocals (by decide) _) fun _ =>
    .before member_readUInt16BE fun numInstructions =>
    .before (member_readElements member_readInstruction numInstructions (by decide) _) fun _ =>
    .result _

theorem member_readVariable : Member depth 1 readVariable :=
  .leading member_readUInt16BE fun _ => .before member_readUInt16BE fun _ =>
    .before member_readUInt32BE fun _ => .before (member_readVariableData true) fun _ => .result _

/-- A part that is read or keeps its default. -/
theorem member_optional {α : Type} {c : Prop} [Decidable c] {paid : Nat} {r : ReadM α}
    (hr : Member depth paid r) (d : α) : Member depth 0 (if c then r else pure d) := by
  split_ifs
  · exact hr.weaken (Nat.le_refl _) (Nat.zero_le _)
  · exact .result d

theorem member_readProperty : Member (depth + 2) 1 readProperty :=
  .leading member_readUInt16BE fun _ => .before member_readUInt16BE fun _ =>
    .before member_readUInt16BE fun _ => .before member_readUInt32BE fun _ =>
    .before member_readUInt8 fun _ => .before (member_optional member_readUInt16BE 0) fun _ =>
    .before (member_optional member_readFunction {}) fun _ =>
    .before (member_optional member_readFunction {}) fun _ => .result _

theorem member_readNamedFunction : Member (depth + 2) 1 readNamedFunction :=
  .leading member_readUInt16BE fun _ => .before member_readFunction fun _ => .result _

theorem member_readState : Member (depth + 3) 1 readState :=
  .leading member_readUInt16BE fun _ => .before member_readUInt16BE fun count =>
    .before (member_readElements member_readNamedFunction count (by decide) _) fun _ => .result _

theorem member_readObjectData : Member (depth + 4) 1 readObjectData :=
  .leading member_readUInt16BE fun _ => .before member_readUInt16BE fun _ =>
    .before member_readUInt32BE fun _ => .before member_readUInt16BE fun _ =>
    .before member_readUInt16BE fun numVariables =>
    .before (member_readElements member_readVariable numVariables (by decide) _) fun _ =>
    .before member_readUInt16BE fun numProperties =>
    .before (member_readElements member_readProperty numProperties (by decide) _) fun _ =>
    .before member_readUInt16BE fun numStates =>
    .before (member_readElements member_readState numStates (by decide) _) fun _ => .result _

theorem member_readObject : Member (depth + 4) 1 readObject := by
  refine .leading member_readUInt16BE fun nameIndex => .before member_readUInt32BE fun size => ?_
  split_ifs
  · exact .failure _
  · refine .before ((Program.basic (.checkDataSize _)).weaken (Nat.zero_le _) (Nat.le_refl _))
      fun _ => .before member_readerPosition fun start => .before member_readObjectData fun data =>
      .before member_readerPosition fun stop => ?_
    split_ifs
    · exact .failure _
    · exact .result _

theorem member_readObjects : Member (depth + 5) 1 readObjects :=
  .leading member_readUInt16BE fun count =>
    .before (member_readElements member_readObject count (by decide) _) fun _ => .result _

/-- Objects, their states, the functions, the instructions and the arguments of an instruction: five
vectors are nested. -/
theorem member_readSections : Member 5 1 readSections :=
  .leading member_readHeader fun _ => .before member_readStringTable fun _ =>
    .before member_readDebugInfo fun _ => .before member_readUserFlags fun _ =>
    .before (member_readObjects : Member (0 + 5) 1 readObjects) fun _ => .result _

end Members

end PexReader
