import PexReader.Theory.Acceptance
import PexReader.Theory.Runs

/-!
# RoundTrip — `Load`, edit and `Save` as one operation on files

`Load` undoes `Save` on every well-formed script within the limits, and `Save` after `Load` and any
edits in between writes the consumed part of the file with the edited strings in place.
-/

namespace PexReader

open LastWrite PexBinaryReader

theorem wellFormed_of_load {self d : PexData} {file : InputFile}
    (h : self.load file = .ok () d) : d.WellFormed := by
  rcases parseFile_of_load h with ⟨reader, hparse⟩
  exact (parseFile_eq_ok.1 hparse).2.1

/-! ## `Load` undoes `Save` -/

theorem admissible_of_length {contents : List UInt8} (h : contents.length ≤ 67108864) :
    InputFile.Admissible { contents } :=
  ⟨rfl, rfl, rfl, h⟩

/-- The encoding of a well-formed script within the limits is read to its end. -/
theorem parseFile_bytes {d : PexData} (hd : d.WellFormed) (helements : d.elements ≤ 1000000)
    (hlength : d.bytes.length ≤ 67108864) :
    parseFile .enforced { contents := d.bytes } =
      .ok (d, (start d.bytes).advance d.bytes.length d.elements) :=
  parseFile_eq_ok.2 ⟨admissible_of_length hlength, hd, List.prefix_rfl, helements, rfl⟩

/-- A well-formed script within the limits survives a save and a load, and the load reads the saved
file to its end. -/
theorem load_save {d : PexData} (hd : d.WellFormed) (helements : d.elements ≤ 1000000)
    (hlength : d.bytes.length ≤ 67108864) {device : OutputDevice} (hdevice : device.Lossless) :
    ∃ written, (d.save device).result = .ok () ∧ (d.save device).destination = some written ∧
      (∀ self : PexData, self.load { contents := written } = .ok () d) ∧
      ∃ reader, parseFile .enforced { contents := written } = .ok (d, reader) ∧
        reader.remaining = 0 := by
  have hparse := parseFile_bytes hd helements hlength
  have hremaining := remaining_of_parseFile hparse
  rw [Nat.sub_self] at hremaining
  refine ⟨d.bytes, ?_, ?_, load_of_parseFile hparse, _, hparse, UInt64.toNat_inj.1 hremaining⟩
  · rw [save_lossless hd.toConsistent hdevice]
  · rw [save_lossless hd.toConsistent hdevice]

theorem load_save_sample :
    ∃ written, (sampleScript.save {}).result = .ok () ∧
      (sampleScript.save {}).destination = some written ∧
      (∀ self : PexData, self.load { contents := written } = .ok () sampleScript) ∧
      ∃ reader, parseFile .enforced { contents := written } = .ok (sampleScript, reader) ∧
        reader.remaining = 0 := by
  rcases parseFile_eq_ok.1 parseFile_sampleScript with ⟨hfile, hd, -, helements, -⟩
  exact load_save hd helements hfile.length_le OutputDevice.lossless_default

/-! ## Edits -/

theorem document_withString (d : PexData) (i : Nat) (str : List UInt8) :
    (d.withString i str).document =
      { d.document with entries := d.document.entries.set i str } := rfl

/-- A row of `ModifyStringTable` calls keeps the instance consistent and does to its document what
the log of the accepted calls says. -/
theorem modifyAll_spec (calls : List (UInt16 × List UInt8)) {d : PexData} (hd : d.Consistent) :
    (d.modifyAll calls).1.Consistent ∧
      (d.modifyAll calls).1.document = d.document.edit (d.modifyAll calls).2 := by
  induction calls generalizing d with
  | nil =>
      exact ⟨hd, (Document.edit_nil _).symm⟩
  | cons call calls ih =>
      rcases call with ⟨index, str⟩
      rcases modifyStringTable_cases hd index str with ⟨-, hstr, hmodify⟩ | ⟨-, e, hmodify⟩
      · -- An accepted call is the first entry of the log and acts first.
        have hrest := ih (withString_consistent (i := index.toNat) hd hstr)
        simp only [PexData.modifyAll, hmodify]
        refine ⟨hrest.1, ?_⟩
        rw [hrest.2, document_withString]
        simp [Document.edit, overwrite_cons]
      · -- A rejected call leaves no trace.
        simp only [PexData.modifyAll, hmodify]
        exact ih hd

/-- Byte-exact editing: a save after a load and any `ModifyStringTable` calls writes the bytes the
load consumed, each string replaced by its last accepted replacement. -/
theorem save_after_edits {file : InputFile} {d : PexData} {reader : PexBinaryReader}
    (h : parseFile .enforced file = .ok (d, reader)) (calls : List (UInt16 × List UInt8))
    {device : OutputDevice} (hdevice : device.Lossless) :
    (∀ self : PexData, self.load file = .ok () d) ∧
      d.document.bytes = file.contents.take reader.position.toNat ∧
      ((d.modifyAll calls).1.save device).result = .ok () ∧
      ((d.modifyAll calls).1.save device).destination =
        some (d.document.edit (d.modifyAll calls).2).bytes ∧
      ((d.modifyAll calls).2 = [] → ((d.modifyAll calls).1.save device).destination =
        some (file.contents.take reader.position.toNat)) := by
  rcases parseFile_eq_ok.1 h with ⟨-, hd, hfront, -, -⟩
  rcases modifyAll_spec calls hd.toConsistent with ⟨hconsistent, hdocument⟩
  have hbytes : d.document.bytes = file.contents.take reader.position.toNat := by
    rw [PexData.bytes_document, position_of_parseFile h]
    exact List.prefix_iff_eq_take.1 hfront
  have hsave := save_lossless hconsistent hdevice
  rw [← PexData.bytes_document, hdocument] at hsave
  refine ⟨load_of_parseFile h, hbytes, by rw [hsave], by rw [hsave], ?_⟩
  intro hnone
  rw [hsave, hnone, Document.edit_nil, hbytes]

theorem save_after_edits_sample :
    ((sampleScript.modifyAll [(0, [0x59]), (7, [0x5A]), (1, [0x58])]).1.save {}).destination =
      some (sampleScript.document.edit [(0, [0x59]), (1, [0x58])]).bytes := by
  have hsave := (save_after_edits parseFile_sampleScript [(0, [0x59]), (7, [0x5A]), (1, [0x58])]
    OutputDevice.lossless_default).2.2.2.1
  rw [hsave]
  rfl

end PexReader
