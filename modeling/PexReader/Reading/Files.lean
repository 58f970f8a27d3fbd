import PexReader.Reading.Records

/-!
# Files — what `Load` accepts

`parses_readSections` read for whole files: a file of admissible size is accepted exactly when its
contents start with the encoding of a well-formed script whose elements fit the budget, and the
reader then stands behind that encoding.
-/

namespace PexReader

open Metered Metered.Cursor PexBinaryReader

/-! ## The reader at the start of a file -/

/-- The file can be opened and measured, and is at most `maxFileSize` bytes long. -/
structure InputFile.Admissible (file : InputFile) : Prop where
  isOpen : file.isOpen = true
  tells : file.tells = true
  seeks : file.seeks = true
  length_le : file.contents.length ≤ 67108864

/-- The reader as the constructor leaves it. -/
def PexBinaryReader.start (contents : List UInt8) : PexBinaryReader :=
  { stream := contents, size := UInt64.ofNat contents.length }

theorem toNat_ofNat_length {contents : List UInt8} (h : contents.length ≤ 67108864) :
    (UInt64.ofNat contents.length).toNat = contents.length := by
  have hlt : (67108864 : Nat) < UInt64.size := by decide
  exact UInt64.toNat_ofNat_of_lt' (Nat.lt_of_le_of_lt h hlt)

theorem PexBinaryReader.start_valid {contents : List UInt8} (h : contents.length ≤ 67108864) :
    (start contents).Valid where
  account := by
    simp [start, toNat_ofNat_length h]
  size_le := by
    refine UInt64.le_iff_toNat_le.2 ?_
    rw [start, toNat_ofNat_length h]
    exact h
  elements_le := by
    exact UInt64.le_iff_toNat_le.2 (Nat.zero_le _)

theorem gt_maxFileSize_iff {contents : List UInt8} (h : contents.length < 2 ^ 63) :
    UInt64.ofNat contents.length > maxFileSize ↔ 67108864 < contents.length := by
  have hlt : contents.length < UInt64.size := Nat.lt_trans h (by decide)
  rw [gt_iff_lt, UInt64.lt_iff_toNat_lt, UInt64.toNat_ofNat_of_lt' hlt]
  rfl

theorem ofFile_eq_ok {file : InputFile} {reader : PexBinaryReader} (hopen : file.isOpen = true) :
    PexBinaryReader.ofFile file = .ok reader ↔
      file.Admissible ∧ reader = start file.contents := by
  unfold ofFile InputFile.tellgEnd
  constructor
  · intro h
    -- The constructor throws in each of the other cases.
    by_cases htells : file.tells = true ∧ file.contents.length < 2 ^ 63
    · rw [if_pos htells] at h
      dsimp only at h
      split_ifs at h with hsize hseeks
      cases h
      rw [gt_maxFileSize_iff htells.2] at hsize
      exact ⟨⟨hopen, htells.1, by simpa using hseeks, Nat.not_lt.1 hsize⟩, rfl⟩
    · rw [if_neg htells] at h
      cases h
  · rintro ⟨hfile, rfl⟩
    have hlt : file.contents.length < 2 ^ 63 :=
      Nat.lt_of_le_of_lt hfile.length_le (by decide)
    have hsize : ¬ UInt64.ofNat file.contents.length > maxFileSize := by
      rw [gt_maxFileSize_iff hlt]
      exact Nat.not_lt.2 hfile.length_le
    rw [if_pos ⟨hfile.tells, hlt⟩]
    dsimp only
    rw [if_neg hsize, if_neg (by simp [hfile.seeks])]
    rfl

/-! ## Acceptance -/

/-- A successful run of the section readers, from any state the reader can be in. -/
theorem readSections_eq_ok {guards : SizeGuards} {s s' : PexBinaryReader} (hs : s.Valid)
    {d : PexData} :
    readSections guards s = .ok d s' ↔
      d.WellFormed ∧ d.bytes <+: s.stream ∧ s.aggregateElements.toNat + d.elements ≤ 1000000 ∧
        s' = s.advance d.bytes.length d.elements := by
  refine (parses_readSections guards s hs d s').trans ?_
  constructor
  · rintro ⟨_, _, ⟨hd, rfl, rfl⟩, hfront, helements, rfl⟩
    exact ⟨hd, hfront, helements, rfl⟩
  · rintro ⟨hd, hfront, helements, rfl⟩
    exact ⟨_, _, ⟨hd, rfl, rfl⟩, hfront, helements, rfl⟩

theorem parseFile_of_admissible (guards : SizeGuards) {file : InputFile}
    (hfile : file.Admissible) :
    parseFile guards file =
      match readSections guards (start file.contents) with
      | .ok parsed reader => .ok (parsed, reader)
      | .error exception reader =>
          .error (.runtimeError ("PEX parse failed at byte " ++ toString reader.position.toNat ++
            ": " ++ exception.what)) := by
  have hreader := (ofFile_eq_ok hfile.isOpen).2 ⟨hfile, rfl⟩
  cases hrun : readSections guards (start file.contents) with
  | ok parsed reader => simp [parseFile, hfile.isOpen, hreader, hrun]
  | error exception reader => simp [parseFile, hfile.isOpen, hreader, hrun]

theorem admissible_of_parseFile {guards : SizeGuards} {file : InputFile}
    {result : PexData × PexBinaryReader} (h : parseFile guards file = .ok result) :
    file.Admissible := by
  unfold parseFile at h
  split_ifs at h with hopen
  have hopen' : file.isOpen = true := by simpa using hopen
  cases hreader : PexBinaryReader.ofFile file with
  | error e =>
      simp [hreader] at h
  | ok reader =>
      exact ((ofFile_eq_ok hopen').1 hreader).1

/-- What `Load` accepts, and where it leaves the reader. -/
theorem parseFile_eq_ok {guards : SizeGuards} {file : InputFile} {d : PexData}
    {reader : PexBinaryReader} :
    parseFile guards file = .ok (d, reader) ↔
      file.Admissible ∧ d.WellFormed ∧ d.bytes <+: file.contents ∧ d.elements ≤ 1000000 ∧
        reader = (start file.contents).advance d.bytes.length d.elements := by
  have hsections : file.Admissible → (readSections guards (start file.contents) = .ok d reader ↔
      d.WellFormed ∧ d.bytes <+: file.contents ∧ d.elements ≤ 1000000 ∧
        reader = (start file.contents).advance d.bytes.length d.elements) := by
    intro hfile
    refine (readSections_eq_ok (start_valid hfile.length_le)).trans ?_
    -- At the start nothing of the budget is spent.
    have hzero : (start file.contents).aggregateElements.toNat = 0 := rfl
    rw [hzero, Nat.zero_add]
    rfl
  constructor
  · intro h
    have hfile := admissible_of_parseFile h
    refine ⟨hfile, (hsections hfile).1 ?_⟩
    rw [parseFile_of_admissible guards hfile] at h
    cases hrun : readSections guards (start file.contents) with
    | ok parsed reader₁ =>
        rw [hrun] at h
        cases h
        rfl
    | error e reader₁ =>
        rw [hrun] at h
        cases h
  · rintro ⟨hfile, h⟩
    rw [parseFile_of_admissible guards hfile, (hsections hfile).2 h]

/-- The sample is read to its end. -/
theorem parseFile_sampleScript :
    parseFile .enforced { contents := sampleScript.bytes } =
      .ok (sampleScript, (start sampleScript.bytes).advance 145 16) := by
  decide +kernel

/-! ## `Load` -/

/-- `Load` makes of an instance what the parse yields, and nothing if it fails. -/
theorem load_eq (self : PexData) (file : InputFile) :
    self.load file =
      match (parseFile .enforced file).map Prod.fst with
      | .ok parsed => .ok () parsed
      | .error exception => .error exception self := by
  unfold PexData.load
  cases parseFile .enforced file with
  | ok result => rfl
  | error exception => rfl

theorem load_of_parseFile {file : InputFile} {d : PexData} {reader : PexBinaryReader}
    (h : parseFile .enforced file = .ok (d, reader)) (self : PexData) :
    self.load file = .ok () d := by
  simp [PexData.load, h]

theorem parseFile_of_load {self d : PexData} {file : InputFile} (h : self.load file = .ok () d) :
    ∃ reader, parseFile .enforced file = .ok (d, reader) := by
  unfold PexData.load at h
  cases hparse : parseFile .enforced file with
  | ok result =>
      rw [hparse] at h
      cases h
      exact ⟨result.2, rfl⟩
  | error e =>
      rw [hparse] at h
      cases h

theorem load_of_parseFile_error {file : InputFile} {e : StdException}
    (h : parseFile .enforced file = .error e) (self : PexData) :
    self.load file = .error e self := by
  simp [PexData.load, h]

end PexReader
