import PexReader.Reading.Primitives
import PexReader.Spec.Document

/-!
# Records — what the record readers accept

One theorem for each `Read*` member: it accepts exactly the spellings of the well-formed records of
its kind, charges one element for each vector element of the record, and stops behind the record.
Each follows from the theorems of the fields by the rules of `Metered`; the early size checks drop
out because every record is at least as long as its check assumes.
-/

namespace PexReader

open BigEndian Metered Metered.Cursor PexBinaryReader

/-! ## Counted vectors and strings -/

theorem parses_readElements {α : Type} {element : ReadM α} {WF : α → Prop} {enc : α → List UInt8}
    {cost : α → Nat} (helement : Parses element (Format.coded WF enc cost)) (count : UInt16)
    {minimum : UInt64} {context : String} (hmin : ∀ v, WF v → minimum.toNat ≤ (enc v).length) :
    Parses (readElements count minimum context element)
      (Format.coded (fun vs => vs.length = count.toNat ∧ ∀ v ∈ vs, WF v)
        (fun vs => vs.flatMap enc) (fun vs => vs.length + (vs.map cost).sum)) := by
  have hvector := helement.readLoop count.toNat
  refine (Parses.guard (admits_validateCount _ _ _) hvector
    (Format.vector_atLeast hmin)).congr ?_
  intro vs bs c
  constructor
  · rintro ⟨c₁, ⟨⟨hlen, hvs⟩, rfl, rfl⟩, rfl⟩
    exact ⟨⟨hlen, hvs⟩, rfl, by simp [hlen]⟩
  · rintro ⟨⟨hlen, hvs⟩, rfl, rfl⟩
    exact ⟨_, ⟨⟨hlen, hvs⟩, rfl, rfl⟩, by simp [hlen]⟩

/-- The length prefix of a string and the string determine each other. -/
theorem ofNat_length_eq_iff {α : Type} {l : List α} {length : UInt16} :
    UInt16.ofNat l.length = length ∧ l.length ≤ 65535 ↔ l.length = length.toNat := by
  have hlt := length.toNat_lt
  constructor
  · rintro ⟨rfl, hle⟩
    exact (UInt16.toNat_ofNat_of_lt' (Nat.lt_succ_of_le hle)).symm
  · intro h
    exact ⟨by simp [h], by omega⟩

/-- The body of `ReadBytes` and `ReadWString` behind the length. -/
theorem parses_checkedRead {α : Type} (length : UInt16) (context₁ context₂ : String)
    (f : List UInt8 → α) :
    Parses (if length = 0 then pure (f []) else do
        validateByteLength length.toUInt64 context₁
        let buffer ← PexBinaryReader.read length.toUInt64 context₂
        pure (f buffer))
      ((Format.coded (fun bytes => bytes.length = length.toNat) (fun bytes => bytes)
        fun _ => 0).bind fun buffer => Format.pure (f buffer)) := by
  have hread := parses_read length.toUInt64 context₂
  have htoNat : length.toUInt64.toNat = length.toNat := by simp
  rw [htoNat] at hread
  have hbody := hread.bind fun buffer => Parses.pure (f buffer)
  split_ifs with hzero
  · -- An empty string is not read, which is the same as reading no bytes.
    refine (Parses.pure (f [])).congr ?_
    intro v bs c
    simp [hzero]
  · refine (Parses.guard (admits_validateByteLength _ _) hbody ?_).congr ?_
    · rintro v bs c ⟨buffer, _, _, _, _, ⟨hlen, rfl, rfl⟩, -, rfl, -⟩
      simp [hlen]
    · intro v bs c
      simp [Format.surcharge]

theorem parses_readBytes :
    Parses readBytes (Format.coded EntryFits entryBytes fun _ => 0) := by
  have hbody : ∀ length : UInt16, Parses (if length = 0 then pure [] else do
      validateByteLength length.toUInt64 "PEX byte string"
      PexBinaryReader.read length.toUInt64 "PEX byte string")
      (Format.coded (fun entry => UInt16.ofNat entry.length = length ∧ EntryFits entry)
        (fun entry => entry) fun _ => 0) := by
    intro length
    have hread := parses_checkedRead length "PEX byte string" "PEX byte string"
      fun buffer => buffer
    simp only [bind_pure] at hread
    refine hread.congr ?_
    intro entry bs c
    simp only [Format.bind_coded_iff, Format.pure_iff, Format.coded_iff, EntryFits,
      ofNat_length_eq_iff]
    constructor
    · rintro ⟨buffer, hlen, _, _, ⟨rfl, rfl, rfl⟩, rfl, rfl⟩
      exact ⟨hlen, by simp, rfl⟩
    · rintro ⟨hlen, rfl, rfl⟩
      exact ⟨_, hlen, [], 0, ⟨rfl, rfl, rfl⟩, by simp, rfl⟩
  exact Parses.tagged _ _ _ parses_readUInt16BE hbody

theorem toUInt16_le (b : UInt8) : b.toUInt16 ≤ 0xFF := by
  have hlt := b.toNat_lt
  refine UInt16.le_iff_toNat_le.2 ?_
  rw [UInt8.toNat_toUInt16]
  exact Nat.le_of_lt_succ hlt

/-- Characters that fit a byte come back from it. -/
theorem map_toUInt16_map_toUInt8 {str : List UInt16} (hle : ∀ wc ∈ str, wc ≤ 0xFF) :
    (str.map UInt16.toUInt8).map UInt8.toUInt16 = str := by
  rw [List.map_map]
  refine (List.map_congr_left ?_).trans (List.map_id str)
  intro wc hwc
  have hlt : wc.toNat < 256 := Nat.lt_succ_of_le (UInt16.le_iff_toNat_le.1 (hle wc hwc))
  refine UInt16.toNat_inj.1 ?_
  simpa using Nat.mod_eq_of_lt hlt

theorem map_toUInt8_map_toUInt16 (buffer : List UInt8) :
    (buffer.map UInt8.toUInt16).map UInt16.toUInt8 = buffer := by
  rw [List.map_map]
  refine List.map_id'' ?_ buffer
  intro b
  simp

theorem parses_readWString :
    Parses readWString (Format.coded WStringFits wstringBytes fun _ => 0) := by
  have hbody : ∀ length : UInt16, Parses (if length = 0 then pure [] else do
      validateByteLength length.toUInt64 "PEX string"
      let buffer ← PexBinaryReader.read length.toUInt64 "PEX string"
      pure (buffer.map UInt8.toUInt16))
      (Format.coded (fun str => UInt16.ofNat str.length = length ∧ WStringFits str)
        (fun str => str.map UInt16.toUInt8) fun _ => 0) := by
    intro length
    refine (parses_checkedRead length "PEX string" "PEX string"
      fun buffer => buffer.map UInt8.toUInt16).congr ?_
    intro str bs c
    simp only [Format.bind_coded_iff, Format.pure_iff, Format.coded_iff, WStringFits, ← and_assoc,
      ofNat_length_eq_iff]
    constructor
    · rintro ⟨buffer, hlen, _, _, ⟨⟨⟨rfl, rfl⟩, rfl⟩, rfl⟩, rfl⟩
      exact ⟨⟨⟨by simpa using hlen, by simp [toUInt16_le]⟩,
        by simpa using (map_toUInt8_map_toUInt16 _).symm⟩, rfl⟩
    · rintro ⟨⟨⟨hlen, hle⟩, rfl⟩, rfl⟩
      exact ⟨str.map UInt16.toUInt8, by simpa using hlen, [], 0,
        ⟨⟨⟨(map_toUInt16_map_toUInt8 hle).symm, rfl⟩, rfl⟩, by simp⟩, rfl⟩
  exact Parses.tagged _ _ _ parses_readUInt16BE hbody

/-! ## Header, string table, debug info, user flags -/

theorem parses_readHeader :
    Parses readHeader (Format.coded (fun h : RecordHeader => h.magic = 0xFA57C0DE ∧ h.StringsFit)
      RecordHeader.bytes fun _ => 0) := by
  have hbody : ∀ magic : UInt32, Parses (if magic ≠ 0xFA57C0DE then
        throw (.runtimeError "Invalid PEX file format (Magic number error)")
      else do
        let majorVersion ← readUInt8
        let minorVersion ← readUInt8
        let gameId ← readUInt16BE
        let compilationTime ← readUInt64BE
        let sourceFileName ← readWString
        let username ← readWString
        let machinename ← readWString
        return { magic, majorVersion, minorVersion, gameId, compilationTime, sourceFileName,
                 username, machinename })
      (Format.coded (fun h : RecordHeader => h.magic = magic ∧ h.magic = 0xFA57C0DE ∧ h.StringsFit)
        (fun h => [h.majorVersion] ++ ([h.minorVersion] ++ (be16 h.gameId ++
          (be64 h.compilationTime ++ (wstringBytes h.sourceFileName ++
            (wstringBytes h.username ++ wstringBytes h.machinename))))))
        fun _ => 0) := by
    intro magic
    split_ifs with hmagic
    · refine Parses.reject ?_
      rintro h ⟨rfl, h', -⟩
      exact hmagic h'
    · refine (parses_readUInt8.bind fun _ => parses_readUInt8.bind fun _ =>
        parses_readUInt16BE.bind fun _ => parses_readUInt64BE.bind fun _ =>
        parses_readWString.bind fun _ => parses_readWString.bind fun _ =>
        parses_readWString.bind fun _ => Parses.pure _).congr ?_
      rintro ⟨_, majorVersion, minorVersion, gameId, compilationTime, sourceFileName, username,
        machinename⟩ bs c
      simp [Format.coded_iff, RecordHeader.stringsFit_iff, not_not.1 hmagic]
      tauto
  have h := Parses.tagged _ _ _ parses_readUInt32BE hbody
  refine h.congr ?_
  intro v bs c
  simp [Format.coded_iff, RecordHeader.bytes_eq]

theorem parses_readStringTable :
    Parses readStringTable
      (Format.coded StringTable.WellFormed StringTable.bytes StringTable.elements) := by
  refine (parses_readUInt16BE.bind fun count =>
    (parses_readElements parses_readBytes count ?_).bind fun _ => Parses.pure _).congr ?_
  · simp [entryBytes]
  · rintro ⟨count, strings⟩ bs c
    simp [Format.coded_iff, StringTable.bytes_eq, StringTable.wellFormed_iff,
      StringTable.elements]
    tauto

theorem parses_readDebugFunction :
    Parses readDebugFunction
      (Format.coded DebugFunction.WellFormed DebugFunction.bytes DebugFunction.elements) := by
  refine (parses_readUInt16BE.bind fun _ => parses_readUInt16BE.bind fun _ =>
    parses_readUInt16BE.bind fun _ => parses_readUInt8.bind fun _ =>
    parses_readUInt16BE.bind fun instructionCount =>
    (parses_readElements parses_readUInt16BE instructionCount ?_).bind fun _ =>
    Parses.pure _).congr ?_
  · simp
  · rintro ⟨objectNameIndex, stateNameIndex, functionNameIndex, functionType, instructionCount,
      lineNumbers⟩ bs c
    simp [Format.coded_iff, DebugFunction.bytes_eq, DebugFunction.WellFormed,
      DebugFunction.elements]
    tauto

theorem parses_readUserFlag :
    Parses readUserFlag (Format.coded (fun _ => True) UserFlag.bytes fun _ => 0) := by
  refine (parses_readUInt16BE.bind fun _ => parses_readUInt8.bind fun _ =>
    Parses.pure _).congr ?_
  rintro ⟨flagNameIndex, flagIndex⟩ bs c
  simp [Format.coded_iff, UserFlag.bytes_eq]
  tauto

theorem parses_readUserFlags :
    Parses readUserFlags
      (Format.coded (fun fs => fs.2.length = fs.1.toNat)
        (fun fs => be16 fs.1 ++ fs.2.flatMap UserFlag.bytes) fun fs => fs.2.length) := by
  refine (parses_readUInt16BE.bind fun count =>
    (parses_readElements parses_readUserFlag count ?_).bind fun _ => Parses.pure _).congr ?_
  · simp [UserFlag.bytes_eq]
  · rintro ⟨count, userFlags⟩ bs c
    simp [Format.coded_iff]
    tauto

theorem parses_readDebugInfo :
    Parses readDebugInfo
      (Format.coded DebugInfo.WellFormed DebugInfo.bytes DebugInfo.elements) := by
  have hbody : ∀ flag : UInt8, Parses (if flag > 1 then
        throw (.runtimeError "Debug info flag is invalid.")
      else if flag ≠ 0 then do
        let modificationTime ← readUInt64BE
        let functionCount ← readUInt16BE
        let functions ← readElements functionCount 9 "Debug function count" readDebugFunction
        return { hasDebugInfo := flag, modificationTime, functionCount, functions }
      else
        return { hasDebugInfo := flag })
      (Format.coded (fun d : DebugInfo => d.hasDebugInfo = flag ∧ d.WellFormed)
        (fun d => if d.hasDebugInfo = 0 then [] else be64 d.modificationTime ++
          (be16 d.functionCount ++ d.functions.flatMap DebugFunction.bytes))
        DebugInfo.elements) := by
    intro flag
    -- The three values the flag can have: invalid, 1, 0.
    split_ifs with hinvalid hpresent
    · refine Parses.reject ?_
      rintro d ⟨rfl, hd⟩
      exact absurd hd.flag (UInt8.not_le.2 hinvalid)
    · refine (parses_readUInt64BE.bind fun _ => parses_readUInt16BE.bind fun count =>
        (parses_readElements parses_readDebugFunction count ?_).bind fun _ =>
        Parses.pure _).congr ?_
      · simp [DebugFunction.bytes_eq]
        omega
      · rintro ⟨hasDebugInfo, modificationTime, functionCount, functions⟩ bs c
        have hvalid := UInt8.not_lt.1 hinvalid
        simp [Format.coded_iff, DebugInfo.wellFormed_iff, DebugInfo.elements]
        constructor
        · rintro ⟨⟨⟨hlen, hfunctions⟩, rfl, rfl⟩, rfl⟩
          exact ⟨⟨rfl, hvalid, fun h => absurd h hpresent, hlen, hfunctions⟩,
            by simp [hpresent], rfl⟩
        · rintro ⟨⟨rfl, -, -, hlen, hfunctions⟩, rfl, rfl⟩
          exact ⟨⟨⟨hlen, hfunctions⟩, rfl, rfl⟩, by simp [hpresent]⟩
    · refine (Parses.pure _).congr ?_
      intro d bs c
      have hzero : flag = 0 := not_not.1 hpresent
      constructor
      · rintro ⟨rfl, rfl, rfl⟩
        exact ⟨⟨rfl, by simp [hzero, DebugInfo.wellFormed_iff]⟩, by simp [hzero], rfl⟩
      · rintro ⟨⟨rfl, hd⟩, rfl, rfl⟩
        -- Without debug info the record is the one the constructor makes.
        rw [hd.absent hzero]
        exact ⟨rfl, rfl, rfl⟩
  refine (Parses.tagged _ _ _ parses_readUInt8 hbody).congr ?_
  intro d bs c
  simp [Format.coded_iff, DebugInfo.bytes_eq]

/-! ## Values -/

theorem parses_readInt32BE :
    Parses readInt32BE (Format.coded (fun _ => True) (fun v => be32 v.toUInt32) fun _ => 0) := by
  refine (parses_readUInt32BE.bind fun u => Parses.pure u.toInt32).congr ?_
  intro v bs c
  simp only [Format.bind_coded_iff, Format.pure_iff, Format.coded_iff, true_and]
  constructor
  · rintro ⟨u, _, _, ⟨rfl, rfl, rfl⟩, rfl, rfl⟩
    exact ⟨by simp, rfl⟩
  · rintro ⟨rfl, rfl⟩
    exact ⟨v.toUInt32, _, _, ⟨by simp, rfl, rfl⟩, by simp, rfl⟩

/-- What stands behind the tag `type`: the value of a well-formed datum with this tag. -/
def VariableData.behindTag (type : UInt8) : Format VariableData :=
  Format.coded (fun d => d.type = type ∧ d.WellFormed)
    (fun d => if d.type = 0 then [] else d.data.bytes) fun _ => 0

/-- The null branch of `ReadVariableData`. -/
theorem parses_nullData :
    Parses (pure { type := 0 } : ReadM VariableData) (VariableData.behindTag 0) := by
  refine (Parses.pure _).congr ?_
  intro d bs c
  constructor
  · rintro ⟨rfl, rfl, rfl⟩
    exact ⟨⟨rfl, by simp [VariableData.WellFormed]⟩, rfl, rfl⟩
  · rintro ⟨⟨htype, hd⟩, rfl, rfl⟩
    rcases d with ⟨type, data⟩
    subst htype
    -- The variant of a null value is the default one.
    have hdata : data = .uint16 0 := by
      simpa [VariableData.wellFormed_cases] using hd
    exact ⟨by rw [hdata], rfl, rfl⟩

/-- One of the other branches: a value read by `r` and stored under `inject`. -/
theorem parses_alternative {α : Type} {r : ReadM α} {enc : α → List UInt8} {type : UInt8}
    {inject : α → VariantValue} (hr : Parses r (Format.coded (fun _ => True) enc fun _ => 0))
    (htype : type ≠ 0) (henc : ∀ a, (inject a).bytes = enc a)
    (hWF : ∀ data, VariableData.WellFormed { type, data } ↔ ∃ a, data = inject a) :
    Parses (do let a ← r; return { type, data := inject a }) (VariableData.behindTag type) := by
  refine (hr.bind fun a => Parses.pure _).congr ?_
  intro d bs c
  simp only [VariableData.behindTag, Format.bind_coded_iff, Format.pure_iff, Format.coded_iff,
    true_and]
  constructor
  · rintro ⟨a, _, _, ⟨rfl, rfl, rfl⟩, rfl, rfl⟩
    exact ⟨⟨rfl, (hWF _).2 ⟨a, rfl⟩⟩, by simp [htype, henc], rfl⟩
  · rintro ⟨⟨rfl, hd⟩, rfl, rfl⟩
    rcases (hWF d.data).1 hd with ⟨a, ha⟩
    exact ⟨a, _, _, ⟨by rw [← ha], rfl, rfl⟩, by simp [htype, ha, henc], rfl⟩

/-- An integer read as unsigned and converted: every signed value comes from one word. -/
theorem wellFormed_integer_iff {data : VariantValue} :
    VariableData.WellFormed { type := 3, data } ↔ ∃ u : UInt32, data = .int32 u.toInt32 := by
  have hint : VariableData.WellFormed { type := 3, data } ↔ ∃ v, data = .int32 v := by
    simp [VariableData.wellFormed_cases]
  rw [hint]
  constructor
  · rintro ⟨v, rfl⟩
    exact ⟨v.toUInt32, by simp⟩
  · rintro ⟨u, rfl⟩
    exact ⟨_, rfl⟩

theorem parses_readVariableData (integer_unsigned : Bool) :
    Parses (readVariableData integer_unsigned)
      (Format.coded VariableData.WellFormed VariableData.bytes fun _ => 0) := by
  -- The position is only there for the error text.
  refine Parses.query (fun _ _ => rfl) ?_
  intro position
  have hbody : ∀ type : UInt8, Parses (if type = 0 then
        return { type }
      else if type = 1 ∨ type = 2 then do
        let value ← readUInt16BE
        return { type, data := .uint16 value }
      else if type = 3 then
        if integer_unsigned then do
          let unsignedValue ← readUInt32BE
          return { type, data := .int32 unsignedValue.toInt32 }
        else do
          let value ← readInt32BE
          return { type, data := .int32 value }
      else if type = 4 then do
        let bits ← readFloatBE
        return { type, data := .float bits }
      else if type = 5 then do
        let value ← readUInt8
        return { type, data := .uint8 value }
      else
        throw (.runtimeError ("Unknown variable data type: " ++ toString type.toNat ++
          " at file position: " ++ toString position.toNat)))
      (VariableData.behindTag type) := by
    intro type
    split_ifs with h₀ h₁ h₃ hunsigned h₄ h₅
    · subst h₀
      exact parses_nullData
    · -- identifier or string
      refine parses_alternative parses_readUInt16BE h₀ (fun _ => rfl) ?_
      intro data
      rcases h₁ with rfl | rfl
      · simp [VariableData.wellFormed_cases]
      · simp [VariableData.wellFormed_cases]
    · -- integer, of a variable
      subst h₃
      exact parses_alternative parses_readUInt32BE h₀ (fun _ => by simp [VariantValue.bytes])
        fun _ => wellFormed_integer_iff
    · -- integer, of an instruction
      refine parses_alternative parses_readInt32BE h₀ (fun _ => rfl) ?_
      intro data
      simp [VariableData.wellFormed_cases, h₃]
    · -- float
      refine parses_alternative parses_readUInt32BE h₀ (fun _ => rfl) ?_
      intro data
      simp [VariableData.wellFormed_cases, h₄]
    · -- bool
      refine parses_alternative parses_readUInt8 h₀ (fun _ => rfl) ?_
      intro data
      simp [VariableData.wellFormed_cases, h₅]
    · -- a tag outside 0..5
      refine Parses.reject ?_
      rintro d ⟨rfl, hd⟩
      have hcases := VariableData.wellFormed_cases.1 hd
      tauto
  refine (Parses.tagged _ _ _ parses_readUInt8 hbody).congr ?_
  intro d bs c
  simp [Format.coded_iff, VariableData.bytes_eq]

/-! ## Instructions -/

/-- A list of `n` values, the bytes of which are at least `n`. -/
theorem parses_readValues (n : Nat) :
    Parses (readLoop n (readVariableData false))
      (Format.coded (fun vs => vs.length = n ∧ ∀ v ∈ vs, v.WellFormed)
        (fun vs => vs.flatMap VariableData.bytes) fun _ => 0) := by
  refine ((parses_readVariableData false).readLoop n).congr ?_
  intro vs bs c
  simp [Format.vector, Format.coded_iff]

theorem values_atLeast (vs : List VariableData) :
    vs.length ≤ (vs.flatMap VariableData.bytes).length := by
  have hge : vs.length * 1 ≤ (vs.flatMap VariableData.bytes).length :=
    length_flatMap_ge (fun v (_ : True) => v.one_le_length) vs fun _ _ => trivial
  simpa using hge

/-- The default branch of `ReadInstruction`. -/
theorem parses_fixedArguments (argCount : UInt64) :
    Parses (do
        validateCount argCount 1 "Instruction argument count"
        readLoop argCount.toNat (readVariableData false))
      (Format.coded (fun args => args.length = argCount.toNat ∧ ∀ a ∈ args, a.WellFormed)
        (fun args => args.flatMap VariableData.bytes) fun args => args.length) := by
  refine (Parses.guard (admits_validateCount _ _ _) (parses_readValues _) ?_).congr ?_
  · rintro vs bs c ⟨⟨hlen, -⟩, rfl, -⟩
    have hge := values_atLeast vs
    simpa [hlen] using hge
  · intro vs bs c
    constructor
    · rintro ⟨_, ⟨⟨hlen, hvs⟩, rfl, rfl⟩, rfl⟩
      exact ⟨⟨hlen, hvs⟩, rfl, by simp [hlen]⟩
    · rintro ⟨⟨hlen, hvs⟩, rfl, rfl⟩
      exact ⟨_, ⟨⟨hlen, hvs⟩, rfl, rfl⟩, by simp [hlen]⟩

theorem toNat_callCount {n : Int32} (h₀ : 0 ≤ n) (h₁ : n ≤ 4096) :
    n.toInt64.toUInt64.toNat = n.toInt.toNat ∧ n.toUInt32.toUInt16.toNat = n.toInt.toNat := by
  have hhi : n.toInt ≤ 4096 := Int32.le_iff_toInt_le.1 h₁
  constructor
  · have h₀' : 0 ≤ n.toInt64 := by
      refine Int64.le_iff_toInt_le.2 ?_
      simpa using Int32.le_iff_toInt_le.1 h₀
    rw [Int64.toNat_toUInt64_of_le h₀', ← Int64.toNat_toInt, Int32.toInt_toInt64]
  · rw [UInt32.toNat_toUInt16, Int32.toNat_toUInt32_of_le h₀, ← Int32.toNat_toInt]
    omega

theorem readCallArgumentCount_int32 (n : Int32) :
    readCallArgumentCount { type := 3, data := .int32 n } =
      if n < 0 ∨ n > maxCallArgumentCount then
        throw (.runtimeError "Call argument count exceeds the configured limit.")
      else do
        validateCount n.toInt64.toUInt64 1 "Call argument count"
        return n.toUInt32.toUInt16 := by
  rw [readCallArgumentCount, if_neg (not_not.2 rfl)]
  rfl

theorem readCallArgumentCount_throws {data : VariableData}
    (h : ¬ ∃ n : Int32, data = { type := 3, data := .int32 n } ∧ 0 ≤ n ∧ n ≤ 4096) :
    ∃ e, readCallArgumentCount data = throw e := by
  rcases data with ⟨type, data⟩
  by_cases htype : type = 3
  · subst htype
    cases data with
    | int32 n =>
        have hlimit : n < 0 ∨ n > maxCallArgumentCount := by
          by_contra hn
          rcases not_or.1 hn with ⟨h₀, h₁⟩
          exact h ⟨n, rfl, Int32.not_lt.1 h₀, Int32.not_lt.1 h₁⟩
        exact ⟨_, by rw [readCallArgumentCount_int32, if_pos hlimit]⟩
    | _ =>
        exact ⟨_, rfl⟩
  · exact ⟨.runtimeError "Call argument count is not encoded as an integer.", by
      rw [readCallArgumentCount, if_pos htype]⟩

/-- The argument count of a call and the arguments behind it. -/
theorem parses_countedArguments (header : List VariableData) (data : VariableData) :
    Parses (do
        let argCount ← readCallArgumentCount data
        let args ← readLoop argCount.toNat (readVariableData false)
        return header ++ data :: args)
      (fun vs bs c => ∃ n : Int32, ∃ args, data = { type := 3, data := .int32 n } ∧ 0 ≤ n ∧
        n ≤ 4096 ∧ args.length = n.toInt.toNat ∧ (∀ a ∈ args, VariableData.WellFormed a) ∧
        vs = header ++ data :: args ∧ bs = args.flatMap VariableData.bytes ∧
        c = args.length) := by
  by_cases hdata : ∃ n : Int32, data = { type := 3, data := .int32 n } ∧ 0 ≤ n ∧ n ≤ 4096
  · -- An admissible count charges itself and announces as many arguments.
    rcases hdata with ⟨n, rfl, h₀, h₁⟩
    rcases toNat_callCount h₀ h₁ with ⟨hcharge, hcount⟩
    have hlimit : ¬ (n < 0 ∨ n > maxCallArgumentCount) := by
      rintro (h | h)
      · exact absurd h (Int32.not_lt.2 h₀)
      · exact absurd h (Int32.not_lt.2 h₁)
    rw [readCallArgumentCount_int32, if_neg hlimit, bind_assoc]
    simp only [pure_bind, hcount]
    refine (Parses.guard (admits_validateCount _ _ _) ((parses_readValues n.toInt.toNat).bind
      fun args => Parses.pure (header ++ { type := 3, data := .int32 n } :: args)) ?_).congr ?_
    · rintro vs bs c ⟨args, _, _, _, _, ⟨⟨hlen, -⟩, rfl, -⟩, ⟨-, rfl, -⟩, rfl, -⟩
      have hge := values_atLeast args
      simpa [hcharge, ← hlen] using hge
    · intro vs bs c
      simp only [Format.surcharge, Format.bind_coded_iff, Format.pure_iff, hcharge]
      constructor
      · rintro ⟨_, ⟨args, ⟨hlen, hargs⟩, _, _, ⟨rfl, rfl, rfl⟩, rfl, rfl⟩, rfl⟩
        exact ⟨n, args, rfl, h₀, h₁, hlen, hargs, rfl, by simp, by simp [hlen]⟩
      · rintro ⟨m, args, hm, -, -, hlen, hargs, rfl, rfl, rfl⟩
        cases hm
        exact ⟨_, ⟨args, ⟨hlen, hargs⟩, _, _, ⟨rfl, rfl, rfl⟩, by simp, rfl⟩, by simp [hlen]⟩
  · -- Any other value is rejected before an argument is read.
    rcases readCallArgumentCount_throws hdata with ⟨e, he⟩
    rw [he]
    refine (Parses.throw e).congr ?_
    intro vs bs c
    simp only [Format.none_iff, false_iff]
    rintro ⟨n, args, hn, h₀, h₁, -⟩
    exact hdata ⟨n, hn, h₀, h₁⟩

theorem parses_readCallArguments (leading : UInt64) (context : String)
    (hleading : leading.toNat < 2 ^ 32) :
    Parses (readCallArguments leading context)
      (Format.coded (fun args => Instruction.CallShape (leading.toNat + 1) args ∧
          ∀ a ∈ args, a.WellFormed)
        (fun args => args.flatMap VariableData.bytes) fun args => args.length) := by
  have htoNat : (leading + 1).toNat = leading.toNat + 1 := by
    rw [UInt64.toNat_add]
    exact Nat.mod_eq_of_lt (by simp; omega)
  have hbody := (parses_readValues leading.toNat).bind fun header =>
    (parses_readVariableData false).bind fun data => parses_countedArguments header data
  refine (Parses.guard (admits_validateCount _ _ _) hbody ?_).congr ?_
  · -- The check asks for one byte for each value of the header.
    intro vs bs c hvs
    simp only [Format.bind_coded_iff] at hvs
    rcases hvs with ⟨header, ⟨hlen, -⟩, _, _, ⟨data, -, _, _, -, rfl, -⟩, rfl, -⟩
    have hheader := values_atLeast header
    have hdata := data.one_le_length
    simp only [htoNat, List.length_append, UInt64.toNat_one]
    omega
  · intro vs bs c
    simp only [Format.surcharge, Format.bind_coded_iff, htoNat]
    constructor
    · rintro ⟨_, ⟨header, ⟨hlen, hheader⟩, _, _, ⟨data, hdata, _, _,
        ⟨n, args, rfl, h₀, h₁, hargs, hwf, rfl, rfl, rfl⟩, rfl, rfl⟩, rfl, rfl⟩, rfl⟩
      refine ⟨⟨⟨header, args, n, rfl, by rw [hlen], h₀, h₁, hargs⟩, ?_⟩, by simp, ?_⟩
      · simp only [List.mem_append, List.mem_cons]
        rintro a (ha | rfl | ha)
        · exact hheader a ha
        · exact hdata
        · exact hwf a ha
      · simp [hlen]
        omega
    · rintro ⟨⟨⟨header, args, n, rfl, hlen, h₀, h₁, hargs⟩, hwf⟩, rfl, rfl⟩
      have hlen' : header.length = leading.toNat := Nat.succ.inj hlen
      refine ⟨_, ⟨header, ⟨hlen', fun a ha => hwf a (by simp [ha])⟩, _, _,
        ⟨_, hwf _ (by simp), _, _, ⟨n, args, rfl, h₀, h₁, hargs, fun a ha => hwf a (by simp [ha]),
          rfl, rfl, rfl⟩, rfl, rfl⟩, by simp, rfl⟩, ?_⟩
      simp [hlen']
      omega

/-- Every opcode has a number of arguments, but for the three calls, which carry it. -/
theorem opcode_cases (op : Opcode) :
    (∃ n, getOpcodeArgumentCount op = .ok n) ∨
      op = .callmethod ∨ op = .callparent ∨ op = .callstatic := by
  cases op with
  | callmethod | callparent | callstatic =>
      right
      decide
  | _ =>
      left
      exact ⟨_, rfl⟩

theorem readArguments_of_count {op : Opcode} {n : UInt64}
    (h : getOpcodeArgumentCount op = .ok n) (hop : op ≠ .nop) :
    readArguments op = (do
      validateCount n 1 "Instruction argument count"
      readLoop n.toNat (readVariableData false)) := by
  have hrun : ∀ k : UInt64 → ReadM (List VariableData),
      ((MonadExcept.ofExcept (getOpcodeArgumentCount op) : ReadM UInt64) >>= k) = k n := by
    intro k
    rw [h]
    rfl
  cases op with
  | nop => exact absurd rfl hop
  | callmethod | callparent | callstatic => cases h
  | _ => exact hrun _

theorem parses_readArguments (op : Opcode) :
    Parses (readArguments op)
      (Format.coded (fun args => Instruction.WellFormed { op, arguments := args })
        (fun args => args.flatMap VariableData.bytes) fun args => args.length) := by
  have hcall : ∀ leading : UInt64, ∀ context e, getOpcodeArgumentCount op = .error e →
      leading.toNat + 1 = op.callHeader →
      Parses (readCallArguments leading context)
      (Format.coded (fun args => Instruction.WellFormed { op, arguments := args })
        (fun args => args.flatMap VariableData.bytes) fun args => args.length) := by
    intro leading context e he hheader
    have hlt : leading.toNat < 2 ^ 32 := by
      have hle := op.callHeader_le
      omega
    refine (parses_readCallArguments leading context hlt).congr ?_
    intro args bs c
    simp [Format.coded_iff, Instruction.wellFormed_iff, Instruction.ArgumentsFit, he, hheader]
  rcases opcode_cases op with ⟨n, hn⟩ | rfl | rfl | rfl
  · by_cases hop : op = .nop
    · -- `nop` has its own branch, which validates nothing.
      subst hop
      refine (Parses.pure []).congr ?_
      intro args bs c
      simp only [Format.pure_iff, Format.coded_iff, Instruction.wellFormed_iff,
        Instruction.ArgumentsFit, getOpcodeArgumentCount]
      constructor
      · rintro ⟨rfl, rfl, rfl⟩
        simp
      · rintro ⟨⟨hlen, -⟩, rfl, rfl⟩
        have hnil : args = [] := List.length_eq_zero_iff.1 hlen
        simp [hnil]
    · rw [readArguments_of_count hn hop]
      refine (parses_fixedArguments n).congr ?_
      intro args bs c
      simp [Format.coded_iff, Instruction.wellFormed_iff, Instruction.ArgumentsFit, hn]
  · exact hcall 3 _ _ rfl rfl
  · exact hcall 2 _ _ rfl rfl
  · exact hcall 3 _ _ rfl rfl

theorem parses_readInstruction :
    Parses readInstruction
      (Format.coded Instruction.WellFormed Instruction.bytes Instruction.elements) := by
  have hbody : ∀ opcode : UInt8, Parses (if opcode > Opcode.array_rfindelement.toUInt8 then
        throw (.runtimeError "Instruction opcode is invalid.")
      else do
        let op := Opcode.ofUInt8 opcode
        let arguments ← readArguments op
        return { op, arguments })
      (Format.coded (fun i : Instruction => i.op.toUInt8 = opcode ∧ i.WellFormed)
        (fun i => i.arguments.flatMap VariableData.bytes) Instruction.elements) := by
    intro opcode
    split_ifs with hinvalid
    · -- a code without an enumerator
      refine Parses.reject ?_
      rintro i ⟨rfl, -⟩
      exact absurd i.op.toUInt8_le (UInt8.not_le.2 hinvalid)
    · have hcode := Opcode.toUInt8_ofUInt8 (UInt8.not_lt.1 hinvalid)
      refine ((parses_readArguments (Opcode.ofUInt8 opcode)).bind fun _ => Parses.pure _).congr ?_
      intro i bs c
      simp only [Format.bind_coded_iff, Format.pure_iff, Format.coded_iff]
      constructor
      · rintro ⟨args, hargs, _, _, ⟨rfl, rfl, rfl⟩, rfl, rfl⟩
        exact ⟨⟨hcode, hargs⟩, by simp, rfl⟩
      · rintro ⟨⟨rfl, hi⟩, rfl, rfl⟩
        refine ⟨i.arguments, ?_, _, _, ⟨?_, rfl, rfl⟩, by simp, rfl⟩
        · simpa using hi
        · simp
  refine (Parses.tagged _ _ _ parses_readUInt8 hbody).congr ?_
  intro i bs c
  simp [Format.coded_iff, Instruction.bytes_eq]

/-! ## Functions, properties, states -/

theorem parses_readVariableType :
    Parses readVariableType (Format.coded (fun _ => True) VariableType.bytes fun _ => 0) := by
  refine (parses_readUInt16BE.bind fun _ => parses_readUInt16BE.bind fun _ =>
    Parses.pure _).congr ?_
  rintro ⟨name, type⟩ bs c
  simp [Format.coded_iff, VariableType.bytes_eq]
  tauto

theorem parses_readFunction :
    Parses readFunction (Format.coded Function.WellFormed Function.bytes Function.elements) := by
  refine (parses_readUInt16BE.bind fun _ => parses_readUInt16BE.bind fun _ =>
    parses_readUInt32BE.bind fun _ => parses_readUInt8.bind fun _ =>
    parses_readUInt16BE.bind fun numParams =>
    (parses_readElements parses_readVariableType numParams ?_).bind fun _ =>
    parses_readUInt16BE.bind fun numLocals =>
    (parses_readElements parses_readVariableType numLocals ?_).bind fun _ =>
    parses_readUInt16BE.bind fun numInstructions =>
    (parses_readElements parses_readInstruction numInstructions ?_).bind fun _ =>
    Parses.pure _).congr ?_
  · simp [VariableType.bytes_eq]
  · simp [VariableType.bytes_eq]
  · simp [Instruction.bytes_eq]
  · rintro ⟨returnType, docString, userFlags, flags, numParams, params, numLocals, locals,
      numInstructions, instructions⟩ bs c
    simp [Format.coded_iff, Function.bytes_eq, Function.wellFormed_iff, Function.elements,
      Nat.add_assoc]
    tauto

theorem parses_readVariable :
    Parses readVariable (Format.coded Variable.WellFormed Variable.bytes fun _ => 0) := by
  refine (parses_readUInt16BE.bind fun _ => parses_readUInt16BE.bind fun _ =>
    parses_readUInt32BE.bind fun _ => (parses_readVariableData true).bind fun _ =>
    Parses.pure _).congr ?_
  rintro ⟨name, typeName, userFlags, data⟩ bs c
  simp [Format.coded_iff, Variable.bytes_eq, Variable.WellFormed]
  tauto

/-- An optional part: present in the bytes when `c` holds, else the value `d`. -/
theorem parses_optional {α : Type} {c : Prop} [Decidable c] {r : ReadM α} {d : α}
    {WF : α → Prop} {enc : α → List UInt8} {cost : α → Nat}
    (hr : Parses r (Format.coded WF enc cost)) (hd : WF d) (hcost : cost d = 0) :
    Parses (if c then r else pure d)
      (Format.coded (fun v => (¬ c → v = d) ∧ WF v) (fun v => if c then enc v else []) cost) := by
  split_ifs with hc
  · refine hr.congr ?_
    intro v bs n
    simp [Format.coded_iff, hc]
  · refine (Parses.pure d).congr ?_
    intro v bs n
    simp only [Format.pure_iff, Format.coded_iff, hc, not_false_eq_true, true_implies]
    constructor
    · rintro ⟨rfl, rfl, rfl⟩
      simp [hd, hcost]
    · rintro ⟨⟨rfl, -⟩, rfl, rfl⟩
      simp [hcost]

theorem parses_readProperty :
    Parses readProperty (Format.coded Property.WellFormed Property.bytes Property.elements) := by
  refine (parses_readUInt16BE.bind fun _ => parses_readUInt16BE.bind fun _ =>
    parses_readUInt16BE.bind fun _ => parses_readUInt32BE.bind fun _ =>
    parses_readUInt8.bind fun flags =>
    (parses_optional (c := flags &&& 4 ≠ 0) parses_readUInt16BE trivial rfl).bind fun _ =>
    (parses_optional (c := flags &&& 5 = 1) parses_readFunction Function.wellFormed_default
      rfl).bind fun _ =>
    (parses_optional (c := flags &&& 6 = 2) parses_readFunction Function.wellFormed_default
      rfl).bind fun _ =>
    Parses.pure _).congr ?_
  rintro ⟨name, type, docstring, userFlags, flags, autoVarName, readHandler, writeHandler⟩ bs c
  simp [Format.coded_iff, Property.bytes_eq, Property.wellFormed_iff, Property.elements]
  constructor
  · rintro ⟨⟨hauto, ⟨hnoRead, hread⟩, ⟨hnoWrite, hwrite⟩, hc⟩, hbs⟩
    exact ⟨⟨hauto, hnoRead, hnoWrite, hread, hwrite⟩, hbs, hc⟩
  · rintro ⟨⟨hauto, hnoRead, hnoWrite, hread, hwrite⟩, hbs, hc⟩
    exact ⟨⟨hauto, ⟨hnoRead, hread⟩, ⟨hnoWrite, hwrite⟩, hc⟩, hbs⟩

theorem parses_readNamedFunction :
    Parses readNamedFunction
      (Format.coded NamedFunction.WellFormed NamedFunction.bytes NamedFunction.elements) := by
  refine (parses_readUInt16BE.bind fun _ => parses_readFunction.bind fun _ =>
    Parses.pure _).congr ?_
  rintro ⟨functionName, function⟩ bs c
  simp [Format.coded_iff, NamedFunction.bytes_eq, NamedFunction.WellFormed,
    NamedFunction.elements]
  tauto

theorem parses_readState :
    Parses readState (Format.coded State.WellFormed State.bytes State.elements) := by
  refine (parses_readUInt16BE.bind fun _ => parses_readUInt16BE.bind fun count =>
    (parses_readElements parses_readNamedFunction count ?_).bind fun _ => Parses.pure _).congr ?_
  · simp [NamedFunction.bytes_eq, Function.bytes_eq]
    omega
  · rintro ⟨name, numFunctions, functions⟩ bs c
    simp [Format.coded_iff, State.bytes_eq, State.wellFormed_iff, State.elements]
    tauto

/-! ## Objects -/

theorem parses_readObjectData :
    Parses readObjectData
      (Format.coded ObjectData.WellFormed ObjectData.bytes ObjectData.elements) := by
  refine (parses_readUInt16BE.bind fun _ => parses_readUInt16BE.bind fun _ =>
    parses_readUInt32BE.bind fun _ => parses_readUInt16BE.bind fun _ =>
    parses_readUInt16BE.bind fun numVariables =>
    (parses_readElements parses_readVariable numVariables ?_).bind fun _ =>
    parses_readUInt16BE.bind fun numProperties =>
    (parses_readElements parses_readProperty numProperties ?_).bind fun _ =>
    parses_readUInt16BE.bind fun numStates =>
    (parses_readElements parses_readState numStates ?_).bind fun _ =>
    Parses.pure _).congr ?_
  · simp [Variable.bytes_eq, VariableData.bytes_eq]
    omega
  · simp [Property.bytes_eq]
    omega
  · simp [State.bytes_eq]
    omega
  · rintro ⟨parentClassName, docString, userFlags, autoStateName, numVariables, vars,
      numProperties, properties, numStates, states⟩ bs c
    simp [Format.coded_iff, ObjectData.bytes_eq, ObjectData.wellFormed_iff, ObjectData.elements,
      Nat.add_assoc]
    tauto

theorem admits_checkDataSize (dataSize : UInt32) :
    Admits (checkDataSize dataSize) 0 dataSize.toNat := by
  rw [← UInt32.toNat_toUInt64]
  refine admits_byteCheck
    (.error (.runtimeError "Object data size exceeds the remaining PEX input."))
    (fun _ _ => nofun) ?_
  intro guards s
  rw [checkDataSize, readThe_bind, get_bind]
  split_ifs <;> rfl

/-- The distance between two positions of the reader is the number of bytes in between. -/
theorem toNat_position_sub {s : PexBinaryReader} (hs : s.Valid) {n : Nat} (c : Nat)
    (hn : n ≤ s.stream.length) :
    ((s.advance n c).position - s.position).toNat = n := by
  have hposition := toNat_position_advance (c := c) hs hn
  calc
    ((s.advance n c).position - s.position).toNat
        = (s.advance n c).position.toNat - s.position.toNat :=
          UInt64.toNat_sub_of_le _ _ (position_le_advance c hs hn)
    _ = n := by omega

/-- The data of an object, which must fill `dataSize` bytes. -/
theorem parses_sizedObjectData (nameIndex : UInt16) (size dataSize : UInt32) :
    Parses (do
        let objectDataStart ← readerPosition
        let data ← readObjectData
        let objectDataEnd ← readerPosition
        if objectDataEnd - objectDataStart ≠ dataSize.toUInt64 then
          throw (.runtimeError "Object size does not match the parsed object data.")
        else
          return { nameIndex, size, data })
      (Format.coded (fun o : Object => (o.nameIndex = nameIndex ∧ o.size = size) ∧
          o.data.bytes.length = dataSize.toNat ∧ o.data.WellFormed)
        (fun o => o.data.bytes) Object.elements) := by
  -- `G` is the test behind the data, on the number of bytes that the data took.
  refine (Parses.measured (f := PexBinaryReader.position) (fun _ _ => rfl) parses_readObjectData
    (G := fun n data => if n ≠ dataSize.toNat then Format.none
      else Format.pure { nameIndex, size, data }) ?_).congr ?_
  · intro s n c data hs hn
    have hdistance := toNat_position_sub hs c hn
    have hiff : (s.advance n c).position - s.position ≠ dataSize.toUInt64 ↔
        n ≠ dataSize.toNat := by
      rw [ne_eq, ← UInt64.toNat_inj, hdistance, UInt32.toNat_toUInt64]
    split_ifs with hpos hn' hn'
    · exact Parses.throw _
    · exact absurd (hiff.1 hpos) hn'
    · exact absurd (hiff.2 hn') hpos
    · exact Parses.pure _
  · intro o bs c
    constructor
    · rintro ⟨data, _, _, bs₂, c₂, ⟨hdata, rfl, rfl⟩, hG, rfl, rfl⟩
      split_ifs at hG with hlen
      · exact hG.elim
      · rcases hG with ⟨rfl, rfl, rfl⟩
        exact ⟨⟨⟨rfl, rfl⟩, not_not.1 hlen, hdata⟩, by simp, rfl⟩
    · rintro ⟨⟨⟨rfl, rfl⟩, hlen, hdata⟩, rfl, rfl⟩
      refine ⟨o.data, _, _, [], 0, ⟨hdata, rfl, rfl⟩, ?_, by simp, rfl⟩
      simp only [hlen, ne_eq, not_true_eq_false, if_false]
      exact ⟨rfl, rfl, rfl⟩

theorem parses_readObject :
    Parses readObject (Format.coded Object.WellFormed Object.bytes Object.elements) := by
  have hbody : ∀ nameIndex size, Parses (if size < 4 then
        throw (.runtimeError "Object size field is invalid (less than 4).")
      else do
        let dataSize := size - 4
        checkDataSize dataSize
        let objectDataStart ← readerPosition
        let data ← readObjectData
        let objectDataEnd ← readerPosition
        if objectDataEnd - objectDataStart ≠ dataSize.toUInt64 then
          throw (.runtimeError "Object size does not match the parsed object data.")
        else
          return { nameIndex, size, data })
      (Format.coded (fun o : Object => (o.nameIndex = nameIndex ∧ o.size = size) ∧ o.WellFormed)
        (fun o => o.data.bytes) Object.elements) := by
    intro nameIndex size
    split_ifs with hsmall
    · refine Parses.reject ?_
      rintro o ⟨⟨-, rfl⟩, ho⟩
      have hsize := ho.size
      have hlt : o.size.toNat < 4 := UInt32.lt_iff_toNat_lt.1 hsmall
      omega
    · -- `size - 4` does not wrap, and the data must be exactly that long.
      have hle : 4 ≤ size := UInt32.not_lt.1 hsmall
      have hle' : 4 ≤ size.toNat := UInt32.le_iff_toNat_le.1 hle
      have hdata : (size - 4).toNat = size.toNat - 4 := UInt32.toNat_sub_of_le _ _ hle
      refine (Parses.guard (admits_checkDataSize _)
        (parses_sizedObjectData nameIndex size (size - 4)) ?_).congr ?_
      · rintro o bs c ⟨⟨-, hlen, -⟩, rfl, -⟩
        exact Nat.le_of_eq hlen.symm
      · intro o bs c
        simp only [Format.surcharge, Format.coded_iff, hdata, Object.wellFormed_iff]
        constructor
        · rintro ⟨_, ⟨⟨hfields, hlen, ho⟩, rfl, rfl⟩, rfl⟩
          exact ⟨⟨hfields, by rw [hfields.2]; omega, ho⟩, rfl, by omega⟩
        · rintro ⟨⟨hfields, hsize, ho⟩, rfl, rfl⟩
          rw [hfields.2] at hsize
          exact ⟨_, ⟨⟨hfields, by omega, ho⟩, rfl, rfl⟩, by omega⟩
  refine (parses_readUInt16BE.bind fun nameIndex => parses_readUInt32BE.bind fun size =>
    hbody nameIndex size).congr ?_
  rintro ⟨nameIndex, size, data⟩ bs c
  simp [Format.coded_iff, Object.bytes_eq]
  exact and_right_comm.trans and_assoc

theorem parses_readObjects :
    Parses readObjects
      (Format.coded (fun os => os.2.length = os.1.toNat ∧ ∀ o ∈ os.2, o.WellFormed)
        (fun os => be16 os.1 ++ os.2.flatMap Object.bytes)
        fun os => os.2.length + (os.2.map Object.elements).sum) := by
  refine (parses_readUInt16BE.bind fun count =>
    (parses_readElements parses_readObject count ?_).bind fun _ => Parses.pure _).congr ?_
  · simp [Object.bytes_eq]
    omega
  · rintro ⟨count, objects⟩ bs c
    simp [Format.coded_iff]
    tauto

/-! ## The whole file -/

/-- The five section readers accept exactly the encodings of well-formed scripts, with the size
guards or without them. -/
theorem parses_readSections :
    Parses readSections (Format.coded PexData.WellFormed PexData.bytes PexData.elements) := by
  refine (parses_readHeader.bind fun _ => parses_readStringTable.bind fun _ =>
    parses_readDebugInfo.bind fun _ => parses_readUserFlags.bind fun _ =>
    parses_readObjects.bind fun _ => Parses.pure _).congr ?_
  rintro ⟨header, stringTable, debugInfo, userFlagCount, userFlags, objectCount, objects⟩ bs c
  simp [Format.coded_iff, PexData.bytes_eq, PexData.wellFormed_iff, PexData.consistent_iff,
    PexData.elements, Nat.add_assoc]
  tauto

end PexReader
