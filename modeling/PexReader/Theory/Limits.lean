import PexReader.Theory.RoundTrip

/-!
# Limits — the element budget and the file size

`Load` enforces two limits on a whole file.  The element budget is charged for every element once,
and edits add no element, so no instance ever holds more than the budget.  The size limit is the
reader's alone: edits can make a script outgrow it, and `Save` writes it all the same.
-/

namespace PexReader

open LastWrite PexBinaryReader

/-! ## The element budget -/

/-- The reader has charged the elements of the script, no more and no less, so a script it accepts
is within the budget; and so is every instance, whatever calls it has been through. -/
theorem budget_exact :
    (∀ file d reader, parseFile .enforced file = .ok (d, reader) →
      reader.aggregateElements.toNat = d.elements ∧ d.elements ≤ 1000000) ∧
    ∀ calls : List ApiCall, (runCalls calls C_CreateInstance).elements ≤ 1000000 := by
  constructor
  · intro file d reader h
    rcases parseFile_eq_ok.1 h with ⟨-, -, -, helements, rfl⟩
    refine ⟨?_, helements⟩
    -- Nothing is spent before the first count is read.
    have hzero : (start file.contents).aggregateElements.toNat = 0 := rfl
    rw [toNat_elements_advance (by omega), hzero, Nat.zero_add]
  · intro calls
    have htracked := tracked_trackCalls calls
    rw [Tracked, trackCalls_fst] at htracked
    split_ifs at htracked
    · exact htracked.2
    · -- A new or closed instance has no element.
      rw [htracked]
      decide

/-- The sample has 16 elements; they are charged, and the instance that loads it holds them. -/
theorem budget_exact_sample :
    ((start sampleScript.bytes).advance 145 16).aggregateElements.toNat = sampleScript.elements ∧
      sampleScript.elements = 16 ∧
      (runCalls [.readPex (some { contents := sampleScript.bytes })] C_CreateInstance).elements ≤
        1000000 :=
  ⟨(budget_exact.1 _ _ _ parseFile_sampleScript).1, by decide, budget_exact.2 _⟩

/-- What `Load` makes of the instance is within the budget. -/
theorem elements_of_load {self d : PexData} {file : InputFile} (h : self.load file = .ok () d) :
    d.elements ≤ 1000000 := by
  rcases parseFile_of_load h with ⟨reader, hparse⟩
  exact (parseFile_eq_ok.1 hparse).2.2.2.1

/-! ## The size of an edited file -/

theorem length_flatMap_entryBytes (entries : List (List UInt8)) :
    (entries.flatMap entryBytes).length =
      2 * entries.length + (entries.map List.length).sum := by
  induction entries with
  | nil => rfl
  | cons entry entries ih =>
      simp only [List.flatMap_cons, List.length_append, ih, List.length_cons, List.map_cons,
        List.sum_cons, entryBytes, BigEndian.length_be16]
      omega

namespace Document

theorem length_bytes (doc : Document) :
    doc.bytes.length = doc.before.length +
      (2 * doc.entries.length + (doc.entries.map List.length).sum) + doc.after.length := by
  rw [bytes, List.length_append, List.length_append, length_flatMap_entryBytes]

/-- An edit changes the size of the file by what it adds to the entries. -/
theorem length_bytes_edit (doc : Document) (log : List Replacement) :
    (doc.edit log).bytes.length + (doc.entries.map List.length).sum =
      doc.bytes.length + ((overwrite log doc.entries).map List.length).sum := by
  have hentries : (overwrite log doc.entries).length = doc.entries.length := by
    simp [overwrite]
  rw [length_bytes, length_bytes]
  simp only [edit, hentries]
  omega

end Document

/-! ## `Load` on a saved file -/

/-- The calls in the form of a log. -/
def replacements (calls : List (UInt16 × List UInt8)) : List Replacement :=
  calls.map fun call => (call.1.toNat, call.2)

/-- Indices below the count and strings a 16-bit length can announce are all accepted, and what is
loaded stays loaded. -/
theorem modifyAll_of_accepted (calls : List (UInt16 × List UInt8)) {d : PexData}
    (hd : d.WellFormed)
    (hcalls : ∀ call ∈ calls, call.1 < d.stringTable.count ∧ EntryFits call.2) :
    (d.modifyAll calls).2 = replacements calls ∧ (d.modifyAll calls).1.WellFormed ∧
      (d.modifyAll calls).1.elements = d.elements := by
  induction calls generalizing d with
  | nil =>
      exact ⟨rfl, hd, rfl⟩
  | cons call calls ih =>
      rcases call with ⟨index, str⟩
      have hcall := hcalls (index, str) (by simp)
      rcases modifyStringTable_cases hd.toConsistent index str with ⟨-, -, hmodify⟩ | ⟨hnot, -⟩
      · -- The count is the same for the calls that follow.
        have hrest := ih (withString_wellFormed (i := index.toNat) hd hcall.2)
          fun call hmem => hcalls call (by simp [hmem])
        simp only [PexData.modifyAll, hmodify]
        refine ⟨?_, hrest.2.1, hrest.2.2.trans (elements_withString d _ str)⟩
        rw [hrest.1]
        rfl
      · exact absurd hcall hnot

/-- The encoding of a script within the budget is accepted up to the size limit, by every instance,
and as nothing else. -/
theorem load_bytes_iff {d : PexData} (hd : d.WellFormed) (helements : d.elements ≤ 1000000)
    (self d' : PexData) :
    self.load { contents := d.bytes } = .ok () d' ↔ d.bytes.length ≤ 67108864 ∧ d' = d := by
  have haccepted : d.bytes.length ≤ 67108864 → self.load { contents := d.bytes } = .ok () d :=
    fun hlength => load_of_parseFile (parseFile_bytes hd helements hlength) self
  constructor
  · intro hload
    rcases parseFile_of_load hload with ⟨reader, hparse⟩
    have hlength := (parseFile_eq_ok.1 hparse).1.length_le
    rw [haccepted hlength] at hload
    cases hload
    exact ⟨hlength, rfl⟩
  · rintro ⟨hlength, rfl⟩
    exact haccepted hlength

/-- A save after a load and accepted edits writes a file that `Load` accepts exactly when the edits
do not add more to the strings than is left to the size limit: nothing on the way looks at it.
Every instance then loads what was saved. -/
theorem saved_file_loads_iff {file : InputFile} {d : PexData} {reader : PexBinaryReader}
    (h : parseFile .enforced file = .ok (d, reader)) (calls : List (UInt16 × List UInt8))
    (hcalls : ∀ call ∈ calls, call.1 < d.stringTable.count ∧ call.2.length ≤ 65535)
    {device : OutputDevice} (hdevice : device.Lossless) :
    ∃ written, (d.modifyAll calls).2 = replacements calls ∧
      ((d.modifyAll calls).1.save device).result = .ok () ∧
      ((d.modifyAll calls).1.save device).destination = some written ∧
      (∀ self : PexData,
        (written.length ≤ 67108864 ∧
            ∃ d' : PexData, self.load { contents := written } = .ok () d') ↔
          reader.position.toNat +
              ((overwrite (replacements calls) d.stringTable.strings).map List.length).sum ≤
            67108864 + (d.stringTable.strings.map List.length).sum) ∧
      ∀ self d' : PexData, self.load { contents := written } = .ok () d' →
        d' = (d.modifyAll calls).1 := by
  rcases parseFile_eq_ok.1 h with ⟨-, hd, -, helements, -⟩
  rcases modifyAll_of_accepted calls hd hcalls with ⟨hlog, hwell, hsame⟩
  have hsave := save_lossless hwell.toConsistent hdevice
  have hload := load_bytes_iff hwell (by omega)
  -- The size of the saved file, from the size of the part of the old one that was read.
  have hsize := d.document.length_bytes_edit (replacements calls)
  rw [← hlog, ← (modifyAll_spec calls hd.toConsistent).2, PexData.bytes_document,
    PexData.bytes_document, ← position_of_parseFile h, hlog] at hsize
  have hentries : d.document.entries = d.stringTable.strings := rfl
  rw [hentries] at hsize
  refine ⟨(d.modifyAll calls).1.bytes, hlog, by rw [hsave], by rw [hsave], ?_, ?_⟩
  · intro self
    have haccepted : (∃ d', self.load { contents := (d.modifyAll calls).1.bytes } = .ok () d') ↔
        (d.modifyAll calls).1.bytes.length ≤ 67108864 := by
      simp [hload]
    rw [haccepted, and_self]
    omega
  · intro self d' hloaded
    exact ((hload self d').1 hloaded).2

theorem saved_file_loads_sample :
    ∃ written, ((sampleScript.modifyAll [(0, [0x59]), (1, [0x58, 0x58])]).1.save {}).destination =
        some written ∧
      written.length ≤ 67108864 ∧
      ∀ self : PexData, ∃ d' : PexData, self.load { contents := written } = .ok () d' := by
  rcases saved_file_loads_iff parseFile_sampleScript [(0, [0x59]), (1, [0x58, 0x58])]
    (by simp; decide) OutputDevice.lossless_default with ⟨written, -, -, hwritten, hiff, -⟩
  have haccepted := fun self => (hiff self).2 (by decide)
  exact ⟨written, hwritten, (haccepted {}).1, fun self => (haccepted self).2⟩

/-! ## A script that outgrows the limit -/

/-- The script that has these strings and nothing else. -/
def scriptOf (strings : List (List UInt8)) : PexData where
  header := { magic := 0xFA57C0DE }
  stringTable := { count := UInt16.ofNat strings.length, strings }

theorem scriptOf_wellFormed {strings : List (List UInt8)} (hlength : strings.length ≤ 65535)
    (hfits : ∀ entry ∈ strings, EntryFits entry) : (scriptOf strings).WellFormed where
  header := ⟨by simp [scriptOf, WStringFits], by simp [scriptOf, WStringFits],
    by simp [scriptOf, WStringFits]⟩
  stringTable := by
    refine ⟨?_, hfits⟩
    have hlt : strings.length < UInt16.size := Nat.lt_succ_of_le hlength
    exact (UInt16.toNat_ofNat_of_lt' hlt).symm
  debugInfo := empty_consistent.debugInfo
  userFlagCount := rfl
  objectCount := rfl
  objects := by simp [scriptOf]
  magic := rfl

theorem elements_scriptOf (strings : List (List UInt8)) :
    (scriptOf strings).elements = strings.length := by
  simp [PexData.elements, StringTable.elements, DebugInfo.elements, scriptOf]

theorem length_scriptOf (strings : List (List UInt8)) :
    (scriptOf strings).bytes.length =
      29 + (2 * strings.length + (strings.map List.length).sum) := by
  have hbefore : (scriptOf strings).document.before.length = 24 := rfl
  have hafter : (scriptOf strings).document.after.length = 5 := rfl
  have hentries : (scriptOf strings).document.entries = strings := rfl
  rw [← PexData.bytes_document, Document.length_bytes, hbefore, hafter, hentries]
  omega

theorem withString_scriptOf (strings : List (List UInt8)) (i : Nat) (str : List UInt8) :
    (scriptOf strings).withString i str = scriptOf (strings.set i str) := by
  simp [scriptOf, PexData.withString]

/-- As long as a string can be. -/
def longString : List UInt8 :=
  List.replicate 65535 0x41

theorem length_longString : longString.length = 65535 :=
  List.length_replicate

/-- The last string of 1024 is empty, the others are long. -/
def crowdedStrings : List (List UInt8) :=
  List.replicate 1023 longString ++ [[]]

theorem set_crowdedStrings : crowdedStrings.set 1023 longString =
    List.replicate 1023 longString ++ [longString] := by
  have hlength : (List.replicate 1023 longString).length = 1023 := List.length_replicate
  rw [crowdedStrings, List.set_append_right _ _ (Nat.le_of_eq hlength), hlength]
  rfl

theorem sum_length_crowded (last : List UInt8) :
    ((List.replicate 1023 longString ++ [last]).map List.length).sum =
      1023 * 65535 + last.length := by
  rw [List.map_append, List.sum_append, List.map_replicate, List.sum_replicate_nat,
    length_longString]
  rfl

/-- A script with crowded strings is loaded, its last string is replaced by a long one, and it is
saved: no instance can load what was written. -/
theorem crowded_script_outgrows_limit :
    (∀ self : PexData, self.load { contents := (scriptOf crowdedStrings).bytes } =
      .ok () (scriptOf crowdedStrings)) ∧
    ∃ d written, (scriptOf crowdedStrings).modifyStringTable 1023 longString = .ok () d ∧
      (d.save {}).result = .ok () ∧ (d.save {}).destination = some written ∧
      67108864 < written.length ∧
      ¬ ∃ self d' : PexData, self.load { contents := written } = .ok () d' := by
  have hcount : crowdedStrings.length = 1024 := by
    rw [crowdedStrings, List.length_append, List.length_replicate]
    rfl
  have hfits : EntryFits longString := Nat.le_of_eq length_longString
  have hd : (scriptOf crowdedStrings).WellFormed := by
    refine scriptOf_wellFormed (by omega) ?_
    intro entry hentry
    -- An entry is a long string or the empty one.
    rcases List.mem_append.1 hentry with hmem | hmem
    · rw [List.eq_of_mem_replicate hmem]
      exact hfits
    · rw [List.mem_singleton.1 hmem]
      exact Nat.zero_le _
  have helements : (scriptOf crowdedStrings).elements ≤ 1000000 := by
    rw [elements_scriptOf]
    omega
  have hlength : (scriptOf crowdedStrings).bytes.length = 67044382 := by
    rw [length_scriptOf, hcount, crowdedStrings, sum_length_crowded]
    rfl
  refine ⟨fun self => (load_bytes_iff hd helements self _).2 ⟨by omega, rfl⟩, ?_⟩
  -- The edit adds the whole string, since the one it replaces is empty.
  have hlength' : ((scriptOf crowdedStrings).withString 1023 longString).bytes.length =
      67109917 := by
    rw [withString_scriptOf, length_scriptOf, List.length_set, hcount, set_crowdedStrings,
      sum_length_crowded, length_longString]
  have hwell := withString_wellFormed (i := 1023) hd hfits
  have hsave := save_lossless hwell.toConsistent OutputDevice.lossless_default
  have hindex : (1023 : UInt16) < (scriptOf crowdedStrings).stringTable.count := by
    have hscript : (scriptOf crowdedStrings).stringTable.count =
        UInt16.ofNat crowdedStrings.length := rfl
    rw [hscript, hcount]
    decide
  rcases modifyStringTable_cases hd.toConsistent 1023 longString with ⟨-, -, hmodify⟩ | ⟨hnot, -⟩
  · have hindex' : (1023 : UInt16).toNat = 1023 := rfl
    rw [hindex'] at hmodify
    refine ⟨_, _, hmodify, by rw [hsave], by rw [hsave], ?_, ?_⟩
    · exact Nat.lt_of_lt_of_eq (by decide) hlength'.symm
    · rintro ⟨self, d', hload⟩
      have haccepted := load_bytes_iff hwell (by rw [elements_withString]; exact helements) self d'
      rw [hlength'] at haccepted
      exact absurd (haccepted.1 hload).1 (by decide)
  · exact absurd ⟨hindex, hfits⟩ hnot

end PexReader
