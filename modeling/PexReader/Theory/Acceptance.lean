import PexReader.Reading.Files
import PexReader.Writing.Files

/-!
# Acceptance — which files `Load` accepts, and how much of them it reads

All results here are read off `parseFile_eq_ok`: a file is accepted exactly when it starts with the
encoding of a well-formed script that the budget affords, whatever the size guards do.  So the
guards cannot be noticed, the parse depends on the encoding alone, and what follows the encoding is
neither read nor looked at.
-/

namespace PexReader

open PexBinaryReader

/-! ## The reader behind an accepted script -/

theorem position_of_parseFile {guards : SizeGuards} {file : InputFile} {d : PexData}
    {reader : PexBinaryReader} (h : parseFile guards file = .ok (d, reader)) :
    reader.position.toNat = d.bytes.length := by
  rcases parseFile_eq_ok.1 h with ⟨hfile, -, hfront, -, rfl⟩
  calc
    ((start file.contents).advance d.bytes.length d.elements).position.toNat
        = (start file.contents).position.toNat + d.bytes.length :=
          toNat_position_advance (start_valid hfile.length_le) hfront.length_le
    _ = d.bytes.length := Nat.zero_add _

theorem remaining_of_parseFile {guards : SizeGuards} {file : InputFile} {d : PexData}
    {reader : PexBinaryReader} (h : parseFile guards file = .ok (d, reader)) :
    reader.remaining.toNat = file.contents.length - d.bytes.length := by
  rcases parseFile_eq_ok.1 h with ⟨hfile, -, hfront, helements, rfl⟩
  have hstart := start_valid hfile.length_le
  have hvalid := Valid.advance (c := d.elements) hstart hfront.length_le (by
    have hzero : (start file.contents).aggregateElements.toNat = 0 := rfl
    omega)
  calc
    ((start file.contents).advance d.bytes.length d.elements).remaining.toNat
        = (file.contents.drop d.bytes.length).length := hvalid.toNat_remaining
    _ = file.contents.length - d.bytes.length := List.length_drop

/-! ## The size guards -/

/-- The early size checks cannot be noticed: without them the same files are accepted, with the
same script and the same final reader. -/
theorem size_guards_unnoticed (file : InputFile) (d : PexData) (reader : PexBinaryReader) :
    parseFile .enforced file = .ok (d, reader) ↔ parseFile .lifted file = .ok (d, reader) :=
  parseFile_eq_ok.trans parseFile_eq_ok.symm

/-- So `Load` accepts what it would accept without them. -/
theorem load_iff_lifted {self d : PexData} {file : InputFile} :
    self.load file = .ok () d ↔ ∃ reader, parseFile .lifted file = .ok (d, reader) := by
  constructor
  · intro hload
    rcases parseFile_of_load hload with ⟨reader, hparse⟩
    exact ⟨reader, parseFile_eq_ok.2 (parseFile_eq_ok.1 hparse)⟩
  · rintro ⟨reader, hparse⟩
    exact load_of_parseFile (parseFile_eq_ok.2 (parseFile_eq_ok.1 hparse)) self

/-! ## Truncation -/

theorem parseFile_take_inside {file : InputFile} {d : PexData} {reader : PexBinaryReader}
    (h : parseFile .enforced file = .ok (d, reader)) {m : Nat} (hm : m < d.bytes.length) :
    ∃ e, parseFile .enforced { file with contents := file.contents.take m } = .error e := by
  rcases parseFile_eq_ok.1 h with ⟨hfile, -, -, -, -⟩
  cases hcut : parseFile .enforced { file with contents := file.contents.take m } with
  | error e =>
      exact ⟨e, rfl⟩
  | ok result =>
      -- What the cut file yields is also at the start of the whole file, so it is `d`.
      rcases result with ⟨d', reader'⟩
      rcases parseFile_eq_ok.1 hcut with ⟨-, hd', hfront', helements', -⟩
      have hfront_whole : d'.bytes <+: file.contents := hfront'.trans (List.take_prefix _ _)
      have hwhole : parseFile .enforced file = .ok (d', _) :=
        parseFile_eq_ok.2 ⟨hfile, hd', hfront_whole, helements', rfl⟩
      rw [h] at hwhole
      cases hwhole
      have hlength := hfront'.length_le
      simp only [List.length_take] at hlength
      omega

theorem parseFile_take_behind {file : InputFile} {d : PexData} {reader : PexBinaryReader}
    (h : parseFile .enforced file = .ok (d, reader)) {m : Nat} (hm : d.bytes.length ≤ m) :
    ∃ reader', parseFile .enforced { file with contents := file.contents.take m } =
      .ok (d, reader') ∧ reader'.position = reader.position := by
  rcases parseFile_eq_ok.1 h with ⟨hfile, hd, hfront, helements, hreader⟩
  -- The shorter file still starts with the encoding, and starts no other.
  have hfile' : InputFile.Admissible { file with contents := file.contents.take m } := by
    refine ⟨hfile.isOpen, hfile.tells, hfile.seeks, ?_⟩
    have hle := hfile.length_le
    simp only [List.length_take]
    omega
  have hfront' : d.bytes <+: file.contents.take m := by
    rw [List.prefix_take_iff]
    exact ⟨hfront, hm⟩
  refine ⟨_, parseFile_eq_ok.2 ⟨hfile', hd, hfront', helements, rfl⟩, ?_⟩
  rw [hreader]
  rfl

/-- Cutting an accepted file inside the encoding makes it unacceptable; cutting it behind the
encoding changes nothing. -/
theorem load_depends_on_consumed_bytes {file : InputFile} {d : PexData}
    {reader : PexBinaryReader} (h : parseFile .enforced file = .ok (d, reader)) (m : Nat) :
    (m < reader.position.toNat →
      ∃ e, parseFile .enforced { file with contents := file.contents.take m } = .error e) ∧
    (reader.position.toNat ≤ m → m ≤ file.contents.length →
      ∃ reader', parseFile .enforced { file with contents := file.contents.take m } =
        .ok (d, reader') ∧ reader'.position = reader.position) := by
  rw [position_of_parseFile h]
  exact ⟨parseFile_take_inside h, fun hm _ => parseFile_take_behind h hm⟩

theorem load_depends_on_consumed_bytes_sample :
    parseFile .enforced { contents := sampleScript.bytes } =
        .ok (sampleScript, (start sampleScript.bytes).advance 145 16) ∧
      (∃ e, parseFile .enforced { contents := sampleScript.bytes.take 144 } = .error e) :=
  ⟨parseFile_sampleScript,
    (load_depends_on_consumed_bytes parseFile_sampleScript 144).1 (by decide)⟩

/-- The same for `Load`, whatever the instance holds that loads the shorter file. -/
theorem load_take {self self' d : PexData} {file : InputFile} (h : self.load file = .ok () d)
    (m : Nat) :
    (m < d.bytes.length →
      ∃ e, self'.load { file with contents := file.contents.take m } = .error e self') ∧
    (d.bytes.length ≤ m →
      self'.load { file with contents := file.contents.take m } = .ok () d) := by
  rcases parseFile_of_load h with ⟨reader, hparse⟩
  constructor
  · intro hm
    rcases parseFile_take_inside hparse hm with ⟨e, herror⟩
    exact ⟨e, load_of_parseFile_error herror self'⟩
  · intro hm
    rcases parseFile_take_behind hparse hm with ⟨reader', hok, -⟩
    exact load_of_parseFile hok self'

/-! ## Bytes behind the last object -/

/-- An admissible file that goes on behind the encoding of a script `Load` can hold. -/
def InputFile.GoesOn (file : InputFile) : Prop :=
  file.Admissible ∧ ∃ d : PexData, d.WellFormed ∧ d.elements ≤ 1000000 ∧
    d.bytes <+: file.contents ∧ d.bytes ≠ file.contents

/-- A file that does not go on is accepted only as the encoding of the script. -/
theorem bytes_eq_contents {file : InputFile} (h : ¬ file.GoesOn) {d : PexData}
    {reader : PexBinaryReader} (hload : parseFile .enforced file = .ok (d, reader)) :
    d.bytes = file.contents := by
  rcases parseFile_eq_ok.1 hload with ⟨hfile, hd, hfront, helements, -⟩
  by_contra hne
  exact h ⟨hfile, d, hd, helements, hfront, hne⟩

/-- A file that goes on is accepted, and a save of what it loads writes the encoding alone. -/
theorem InputFile.GoesOn.shortened {file : InputFile} (h : file.GoesOn) :
    ∃ d reader, parseFile .enforced file = .ok (d, reader) ∧
      (d.save {}).destination ≠ some file.contents := by
  rcases h with ⟨hfile, d, hd, helements, hfront, hne⟩
  refine ⟨d, _, parseFile_eq_ok.2 ⟨hfile, hd, hfront, helements, rfl⟩, ?_⟩
  rw [save_lossless hd.toConsistent OutputDevice.lossless_default]
  exact fun hsame => hne (Option.some.inj hsame)

/-- `Load` reads a file to its end, so that a save writes all of it again, exactly when the file is
not a script followed by more bytes: nothing in `Load` asks whether anything is left. -/
theorem fully_read_iff (file : InputFile) :
    (∀ d reader, parseFile .enforced file = .ok (d, reader) →
      reader.remaining = 0 ∧ ∀ device : OutputDevice, device.Lossless →
        (d.save device).destination = some file.contents) ↔
      ¬ file.GoesOn := by
  constructor
  · intro h hgoesOn
    rcases hgoesOn.shortened with ⟨d, reader, hload, hshort⟩
    exact hshort ((h d reader hload).2 {} OutputDevice.lossless_default)
  · intro h d reader hload
    have hall := bytes_eq_contents h hload
    have hd := (parseFile_eq_ok.1 hload).2.1
    refine ⟨?_, ?_⟩
    · have hremaining := remaining_of_parseFile hload
      rw [hall, Nat.sub_self] at hremaining
      exact UInt64.toNat_inj.1 hremaining
    · intro device hdevice
      rw [save_lossless hd.toConsistent hdevice, hall]

/-- The same for `Load`: what is loaded is saved again as it was exactly when the file does not go
on. -/
theorem load_keeps_file_iff (file : InputFile) :
    (∀ self d : PexData, self.load file = .ok () d →
      ∀ device : OutputDevice, device.Lossless →
        (d.save device).destination = some file.contents) ↔
      ¬ file.GoesOn := by
  constructor
  · intro h hgoesOn
    rcases hgoesOn.shortened with ⟨d, reader, hload, hshort⟩
    exact hshort (h d d (load_of_parseFile hload d) {} OutputDevice.lossless_default)
  · intro h self d hload device hdevice
    rcases parseFile_of_load hload with ⟨reader, hparse⟩
    have hd := (parseFile_eq_ok.1 hparse).2.1
    rw [save_lossless hd.toConsistent hdevice, bytes_eq_contents h hparse]

/-- The shortest script and one byte more. -/
theorem accepted_with_byte_left :
    ¬ ∀ file d reader, parseFile .enforced file = .ok (d, reader) → reader.remaining = 0 := by
  intro h
  have hload : parseFile .enforced
      { contents := [0xFA, 0x57, 0xC0, 0xDE] ++ List.replicate 26 0 } =
      .ok ({ header := { magic := 0xFA57C0DE } },
        (start ([0xFA, 0x57, 0xC0, 0xDE] ++ List.replicate 26 0)).advance 29 0) := by
    decide +kernel
  have hremaining := h _ _ _ hload
  revert hremaining
  decide +kernel

end PexReader
