import PexReader.Theory.RoundTrip
import PexReader.Theory.SaveLoss

/-!
# TornSaves — a save that went wrong is not mistaken for a script

A save that loses bytes is reported as success, and leaves the front of an encoding behind, if
nothing more is stored once a write has failed.  The encodings are self-delimiting: none of them
starts with another, so such a front does not load.  What a save has left loads as the script that
was saved, or not at all.
-/

namespace PexReader

open BigEndian Metered Metered.Cursor PexBinaryReader OFStream

/-! ## What is stored -/

namespace OFStream

/-- Of the bytes that were written an intact stream has stored or buffered all, and a failed one has
stored the front. -/
def Holds (file : OFStream) (written : List UInt8) : Prop :=
  if file.failed then file.stored <+: written else file.stored ++ file.buffer = written

variable {device : OutputDevice} {file : OFStream} {written : List UInt8}

theorem stored_lose_prefix (file : OFStream) (pending : List UInt8) (kept : Nat)
    (buffer : List UInt8) :
    (file.lose pending kept buffer).stored <+: file.stored ++ pending :=
  (List.prefix_append_right_inj _).2 ((List.take_prefix _ _).trans (List.dropLast_prefix _))

theorem Holds.write (h : file.Holds written) (bytes : List UInt8) :
    (file.write device bytes).Holds (written ++ bytes) := by
  unfold Holds at h
  split_ifs at h with hfailed
  · rw [write_of_failed hfailed, Holds, if_pos hfailed]
    exact h.trans (List.prefix_append _ _)
  · have hintact : file.failed = false := by simpa using hfailed
    subst h
    cases houtcome : device.onWrite file.writes with
    | buffered => simp [OFStream.write, Holds, hintact, houtcome]
    | flushed => simp [OFStream.write, Holds, hintact, houtcome]
    | failed kept first held =>
        have hlost := stored_lose_prefix { file with writes := file.writes + 1 }
          (file.buffer ++ bytes) kept (((file.buffer ++ bytes).drop first).take held)
        simpa [OFStream.write, Holds, hintact, houtcome, lose] using hlost

theorem Holds.writeAll (device : OutputDevice) (pieces : List (List UInt8))
    (h : file.Holds written) :
    (writeAll device file pieces).Holds (written ++ pieces.flatten) := by
  induction pieces generalizing file written with
  | nil => simpa using h
  | cons bytes pieces ih =>
      rw [writeAll_cons, List.flatten_cons, ← List.append_assoc]
      exact ih (h.write bytes)

/-- On a device that stops on failure the front of what was written is stored. -/
theorem stored_close_prefix {device : OutputDevice} (hstops : device.StopsOnFailure)
    (pieces : List (List UInt8)) :
    ((writeAll device {} pieces).close device).stored <+: pieces.flatten := by
  have hstart : ({} : OFStream).Holds [] := rfl
  have hholds := hstart.writeAll device pieces
  rw [List.nil_append] at hholds
  unfold Holds at hholds
  split_ifs at hholds with hfailed
  · rw [stored_close_of_failed hstops hfailed]
    exact hholds
  · rw [← hholds]
    cases honClose : device.onClose with
    | none => simp [close, honClose]
    | some kept => simpa [close, honClose] using stored_lose_prefix _ _ kept []

end OFStream

/-! ## Encodings are self-delimiting -/

/-- Two spellings at the front of the same bytes that a reader can read are spellings of the same
value. -/
theorem unique_of_parses {α : Type} {r : ReadM α} {WF : α → Prop} {enc : α → List UInt8}
    {cost : α → Nat} (h : Parses r (Format.coded WF enc cost)) {v v' : α} (hv : WF v) (hv' : WF v')
    (hcost : cost v ≤ 1000000) (hcost' : cost v' ≤ 1000000)
    (hlength : (enc v).length ≤ 67108864) (hlength' : (enc v').length ≤ 67108864)
    {l : List UInt8} (hl : enc v <+: l) (hl' : enc v' <+: l) : v = v' := by
  have hvalid : (start (l.take 67108864)).Valid := start_valid (List.length_take_le _ _)
  refine h.unique .enforced hvalid ⟨hv, rfl, rfl⟩ ⟨hv', rfl, rfl⟩ ?_ ?_ ?_ ?_
  · exact List.prefix_take_iff.2 ⟨hl, hlength⟩
  · exact List.prefix_take_iff.2 ⟨hl', hlength'⟩
  · exact Nat.le_trans (Nat.le_of_eq (Nat.zero_add _)) hcost
  · exact Nat.le_trans (Nat.le_of_eq (Nat.zero_add _)) hcost'

theorem entry_unique {entry entry' : List UInt8} (h : EntryFits entry) (h' : EntryFits entry')
    {l : List UInt8} (hl : entryBytes entry <+: l) (hl' : entryBytes entry' <+: l) :
    entry = entry' := by
  unfold EntryFits at h h'
  refine unique_of_parses parses_readBytes h h' (Nat.zero_le _) (Nat.zero_le _) ?_ ?_ hl hl'
  · simp only [entryBytes, List.length_append, length_be16]
    omega
  · simp only [entryBytes, List.length_append, length_be16]
    omega

/-- The same for rows of as many entries, however long. -/
theorem entries_unique {entries entries' : List (List UInt8)}
    (hlength : entries.length = entries'.length) (h : ∀ entry ∈ entries, EntryFits entry)
    (h' : ∀ entry ∈ entries', EntryFits entry) {l : List UInt8}
    (hl : entries.flatMap entryBytes <+: l) (hl' : entries'.flatMap entryBytes <+: l) :
    entries = entries' := by
  induction entries generalizing entries' l with
  | nil => exact (List.length_eq_zero_iff.1 hlength.symm).symm
  | cons entry entries ih =>
      cases entries' with
      | nil => cases hlength
      | cons entry' entries' =>
          rw [List.flatMap_cons, append_prefix_iff] at hl hl'
          have hentry := entry_unique (h entry (by simp)) (h' entry' (by simp)) hl.1 hl'.1
          subst hentry
          have hrest := ih (Nat.succ.inj hlength) (fun e he => h e (by simp [he]))
            (fun e he => h' e (by simp [he])) hl.2 hl'.2
          rw [hrest]

theorem stringTable_unique {t t' : StringTable} (h : t.WellFormed) (h' : t'.WellFormed)
    {l : List UInt8} (hl : t.bytes <+: l) (hl' : t'.bytes <+: l) : t = t' := by
  rcases t with ⟨count, strings⟩
  rcases t' with ⟨count', strings'⟩
  rw [StringTable.bytes_eq, append_prefix_iff] at hl hl'
  have hcount : count = count' := unique_of_parses parses_readUInt16BE trivial trivial
    (Nat.zero_le _) (Nat.zero_le _) (by simp) (by simp) hl.1 hl'.1
  subst hcount
  have hstrings := entries_unique (h.count.trans h'.count.symm) h.entries h'.entries hl.2 hl'.2
  simp only at hstrings
  rw [hstrings]

namespace PexData

/-- The script without its strings. -/
def frame (d : PexData) : PexData :=
  { d with stringTable := {} }

/-- The sections behind the string table. -/
theorem bytes_frame (d : PexData) :
    d.frame.bytes = d.header.bytes ++ (be16 0 ++ d.document.after) := by
  rw [bytes_eq]
  rfl

theorem bytes_sections (d : PexData) :
    d.bytes = d.header.bytes ++ (d.stringTable.bytes ++ d.document.after) := by
  rw [bytes_eq]
  rfl

theorem length_frame_le (d : PexData) : d.frame.bytes.length ≤ d.bytes.length := by
  rw [bytes_frame, bytes_sections]
  simp only [StringTable.bytes_eq, List.length_append, length_be16]
  omega

theorem elements_frame_le (d : PexData) : d.frame.elements ≤ d.elements := by
  simp only [frame, elements, StringTable.elements, List.length_nil]
  omega

theorem WellFormed.frame {d : PexData} (hd : d.WellFormed) : d.frame.WellFormed where
  header := hd.header
  stringTable := ⟨rfl, by simp [PexData.frame]⟩
  debugInfo := hd.debugInfo
  userFlagCount := hd.userFlagCount
  objectCount := hd.objectCount
  objects := hd.objects
  magic := hd.magic

/-- A script that edits have made of a loaded one. -/
structure Loaded (d : PexData) : Prop where
  wellFormed : d.WellFormed
  elements_le : d.elements ≤ 1000000
  frame_le : d.frame.bytes.length ≤ 67108864

theorem Loaded.header_le {d : PexData} (hd : d.Loaded) : d.header.bytes.length ≤ 67108864 := by
  have hframe := hd.frame_le
  simp only [bytes_frame, List.length_append] at hframe
  omega

theorem Loaded.header_unique {d d' : PexData} (hd : d.Loaded) (hd' : d'.Loaded) {l : List UInt8}
    (hl : d.header.bytes <+: l) (hl' : d'.header.bytes <+: l) : d.header = d'.header :=
  unique_of_parses parses_readHeader ⟨hd.wellFormed.magic, hd.wellFormed.header⟩
    ⟨hd'.wellFormed.magic, hd'.wellFormed.header⟩ (Nat.zero_le _) (Nat.zero_le _) hd.header_le
    hd'.header_le hl hl'

theorem Loaded.frame_unique {d d' : PexData} (hd : d.Loaded) (hd' : d'.Loaded) {l : List UInt8}
    (hl : d.frame.bytes <+: l) (hl' : d'.frame.bytes <+: l) : d.frame = d'.frame :=
  unique_of_parses parses_readSections hd.wellFormed.frame hd'.wellFormed.frame
    (Nat.le_trans d.elements_frame_le hd.elements_le)
    (Nat.le_trans d'.elements_frame_le hd'.elements_le) hd.frame_le hd'.frame_le hl hl'

/-- No encoding starts with another one.  The strings may have outgrown what a reader takes, so they
are compared on their own; the rest is what it was when the script was loaded. -/
theorem Loaded.eq_of_prefix {d d' : PexData} (hd : d.Loaded) (hd' : d'.Loaded)
    (h : d'.bytes <+: d.bytes) : d' = d := by
  have hself : d.bytes <+: d.bytes := List.prefix_rfl
  rw [d'.bytes_sections, append_prefix_iff, append_prefix_iff] at h
  nth_rewrite 1 [d.bytes_sections] at hself
  rw [append_prefix_iff, append_prefix_iff] at hself
  have hheader := hd.header_unique hd' hself.1 h.1
  rw [← hheader] at h
  have htable := stringTable_unique hd.wellFormed.stringTable hd'.wellFormed.stringTable
    hself.2.1 h.2.1
  rw [← htable] at h
  -- Behind the strings stands the end of one script and, in front of it, that of the other.
  have hafter : d'.document.after <+: d.document.after := by
    have hdrop := h.2.2
    rw [d.bytes_sections, List.drop_left, List.drop_left] at hdrop
    exact hdrop
  have hfront : d'.frame.bytes <+: d.frame.bytes := by
    rw [bytes_frame, bytes_frame, ← hheader]
    exact (List.prefix_append_right_inj _).2 ((List.prefix_append_right_inj _).2 hafter)
  have hframe := hd.frame_unique hd' List.prefix_rfl hfront
  rcases d with ⟨header, stringTable, debugInfo, userFlagCount, userFlags, objectCount, objects⟩
  rcases d' with ⟨header', stringTable', debugInfo', userFlagCount', userFlags', objectCount',
    objects'⟩
  simp only [frame, mk.injEq, true_and] at hframe hheader htable
  rcases hframe with ⟨rfl, rfl, rfl, rfl, rfl, rfl⟩
  rw [htable]

theorem not_loaded_empty : ¬ ({} : PexData).Loaded := fun h =>
  absurd h.wellFormed.magic (by decide)

theorem loaded_of_parseFile {file : InputFile} {d : PexData} {reader : PexBinaryReader}
    (h : parseFile .enforced file = .ok (d, reader)) : d.Loaded := by
  rcases parseFile_eq_ok.1 h with ⟨hfile, hd, hfront, helements, -⟩
  have hlength := Nat.le_trans hfront.length_le hfile.length_le
  exact ⟨hd, helements, Nat.le_trans d.length_frame_le hlength⟩

theorem Loaded.withString {d : PexData} (hd : d.Loaded) {i : Nat} {str : List UInt8}
    (hstr : EntryFits str) : (d.withString i str).Loaded where
  wellFormed := withString_wellFormed hd.wellFormed hstr
  elements_le := by
    rw [elements_withString]
    exact hd.elements_le
  frame_le := hd.frame_le

/-- What an instance may hold: nothing, or a script. -/
def BlankOrLoaded (d : PexData) : Prop :=
  d = {} ∨ d.Loaded

theorem BlankOrLoaded.consistent {d : PexData} (hd : d.BlankOrLoaded) : d.Consistent := by
  rcases hd with rfl | hd
  · exact empty_consistent
  · exact hd.wellFormed.toConsistent

end PexData

open PexData

/-! ## What a save has left -/

/-- The script that `Load` finds in the file. -/
def scriptIn (contents : List UInt8) : Option PexData :=
  match parseFile .enforced { contents } with
  | .ok (d, _) => some d
  | .error _ => none

theorem scriptIn_iff_parseFile {contents : List UInt8} {d : PexData} :
    scriptIn contents = some d ↔ ∃ reader, parseFile .enforced { contents } = .ok (d, reader) := by
  unfold scriptIn
  cases hparse : parseFile .enforced { contents } with
  | ok result => simp [Prod.ext_iff]
  | error e => simp

theorem scriptIn_eq_some {contents : List UInt8} {d : PexData} :
    scriptIn contents = some d ↔ contents.length ≤ 67108864 ∧ d.WellFormed ∧
      d.bytes <+: contents ∧ d.elements ≤ 1000000 := by
  rw [scriptIn_iff_parseFile]
  constructor
  · rintro ⟨reader, hparse⟩
    rcases parseFile_eq_ok.1 hparse with ⟨hfile, hwf, hfront, helements, -⟩
    exact ⟨hfile.length_le, hwf, hfront, helements⟩
  · rintro ⟨hlength, hwf, hfront, helements⟩
    exact ⟨_, parseFile_eq_ok.2 ⟨admissible_of_length hlength, hwf, hfront, helements, rfl⟩⟩

theorem scriptIn_loaded {contents : List UInt8} {d : PexData} (h : scriptIn contents = some d) :
    d.Loaded := by
  rcases scriptIn_iff_parseFile.1 h with ⟨reader, hparse⟩
  exact loaded_of_parseFile hparse

/-- `Load` depends on the file's contents and on whether it can be opened and measured. -/
theorem load_eq_ok {self d : PexData} {file : InputFile} :
    self.load file = .ok () d ↔
      (file.isOpen = true ∧ file.tells = true ∧ file.seeks = true) ∧
        scriptIn file.contents = some d := by
  rw [scriptIn_eq_some]
  constructor
  · intro hload
    rcases parseFile_of_load hload with ⟨reader, hparse⟩
    rcases parseFile_eq_ok.1 hparse with ⟨hfile, hwf, hfront, helements, -⟩
    exact ⟨⟨hfile.isOpen, hfile.tells, hfile.seeks⟩, hfile.length_le, hwf, hfront, helements⟩
  · rintro ⟨⟨hopen, htells, hseeks⟩, hlength, hwf, hfront, helements⟩
    have hparse : parseFile .enforced file = .ok (d, _) :=
      parseFile_eq_ok.2 ⟨⟨hopen, htells, hseeks, hlength⟩, hwf, hfront, helements, rfl⟩
    exact load_of_parseFile hparse self

/-- What a save has stored at the destination is the script, or none at all. -/
theorem scriptIn_stored {d : PexData} (hd : d.BlankOrLoaded) {device : OutputDevice}
    (hstops : device.StopsOnFailure) (hopen : device.isOpen = true) {d' : PexData} :
    scriptIn ((writeAll device {} d.pieces).close device).stored = some d' ↔
      d' = d ∧ d.Loaded ∧ device.KeepsAll d.pieces.length ∧ d.bytes.length ≤ 67108864 := by
  have hkeeps : ((writeAll device {} d.pieces).close device).stored = d.bytes ↔
      device.KeepsAll d.pieces.length := by
    rw [PexData.bytes, stored_close_eq_iff hstops (noneEmpty_pieces d) (pieces_ne_nil d)]
    simp [OutputDevice.KeepsAll, hopen]
  have hfront : ((writeAll device {} d.pieces).close device).stored <+: d.bytes :=
    stored_close_prefix hstops d.pieces
  rw [← hkeeps]
  constructor
  · intro hscript
    have hloaded := scriptIn_loaded hscript
    rcases scriptIn_eq_some.1 hscript with ⟨hlength, hwf, hspelled, -⟩
    rcases hd with rfl | hd
    · -- The file of an empty instance does not start with the magic number.
      have hmagic : be32 0xFA57C0DE <+: d'.bytes := by
        rw [bytes_eq, RecordHeader.bytes_eq, hwf.magic, List.append_assoc]
        exact List.prefix_append _ _
      exact absurd (hmagic.trans (hspelled.trans hfront)) (by decide)
    · have hsame := hd.eq_of_prefix hloaded (hspelled.trans hfront)
      subst hsame
      have hstored := hfront.eq_of_length_le hspelled.length_le
      refine ⟨rfl, hd, hstored, ?_⟩
      rwa [← hstored]
  · rintro ⟨rfl, hloaded, hstored, hlength⟩
    rw [hstored]
    exact scriptIn_eq_some.2 ⟨hlength, hloaded.wellFormed, List.prefix_rfl, hloaded.elements_le⟩

/-! ## Runs -/

theorem run_blankOrLoaded {d : PexData} (hd : d.BlankOrLoaded) (call : ApiCall) :
    (call.run d).BlankOrLoaded := by
  cases call with
  | readPex pexPath =>
      cases pexPath with
      | none => exact hd
      | some file =>
          rcases load_cases d file with ⟨d', hload, -⟩ | ⟨e, hload⟩
          · have hloaded := scriptIn_loaded (load_eq_ok.1 hload).2
            exact Or.inr (by simpa [ApiCall.run, C_ReadPex, hload] using hloaded)
          · simpa [ApiCall.run, C_ReadPex, hload] using hd
  | modifyStringTable index utf8Str =>
      rcases run_modifyStringTable hd.consistent index utf8Str with hrun | ⟨i, str, hstr, hrun⟩
      · rwa [hrun]
      · rcases hd with rfl | hd
        · -- There is no string to replace.
          exact Or.inl hrun
        · rw [hrun]
          exact Or.inr (hd.withString hstr)
  | savePex pexPath => rwa [run_savePex hd.consistent]
  | close => exact Or.inl rfl

theorem reachable_blankOrLoaded (calls : List ApiCall) :
    (runCalls calls C_CreateInstance).BlankOrLoaded := by
  have hrun : ∀ d : PexData, d.BlankOrLoaded → (runCalls calls d).BlankOrLoaded := by
    induction calls with
    | nil => exact fun d hd => hd
    | cons call calls ih => exact fun d hd => ih _ (run_blankOrLoaded hd call)
  exact hrun C_CreateInstance (Or.inl rfl)

theorem loaded_iff_holdsFile (calls : List ApiCall) :
    (runCalls calls C_CreateInstance).Loaded ↔ (trackCalls calls).2 = true := by
  have htracked := tracked_trackCalls calls
  rw [Tracked, trackCalls_fst] at htracked
  split_ifs at htracked with hholds
  · refine iff_of_true ?_ hholds
    rcases reachable_blankOrLoaded calls with hempty | hloaded
    · rw [hempty] at htracked
      exact absurd htracked.1.magic (by decide)
    · exact hloaded
  · rw [htracked]
    exact iff_of_false not_loaded_empty hholds

/-- Whatever went wrong with the save of an instance, and whether the instance held a script or not:
if nothing more was stored once a write had failed, the file that the save has left loads exactly if
the instance held a script, the device kept all of it and it is within the size limit, and then it
loads as that script.  A torn file is never taken for another script. -/
theorem torn_save_never_loads (calls : List ApiCall) (device : OutputDevice)
    (hstops : device.StopsOnFailure) (stored : List UInt8)
    (h : (C_SavePex (some (runCalls calls C_CreateInstance)) (some device)).destination =
      some stored) (self d : PexData) (file : InputFile) (hfile : file.contents = stored) :
    self.load file = .ok () d ↔
      (file.isOpen = true ∧ file.tells = true ∧ file.seeks = true) ∧
        d = runCalls calls C_CreateInstance ∧ (trackCalls calls).2 = true ∧
        device.KeepsAll (runCalls calls C_CreateInstance).pieces.length ∧
        (runCalls calls C_CreateInstance).bytes.length ≤ 67108864 := by
  have hd := reachable_blankOrLoaded calls
  rw [savePex_of_consistent hd.consistent] at h
  split_ifs at h with hopen
  have hopen' : device.isOpen = true := by simpa using hopen
  cases h
  rw [load_eq_ok, hfile, scriptIn_stored hd hstops hopen', loaded_iff_holdsFile]

/-- A script is loaded and saved to a disk on which there is no room for its last bytes. -/
theorem torn_save_never_loads_fullDisk :
    ∃ stored, (C_SavePex (some (runCalls loadingCalls C_CreateInstance))
        (some (fullDisk 40))).destination = some stored ∧
      ∀ self d : PexData, self.load { contents := stored } ≠ .ok () d := by
  have hdestination := savePex_of_consistent (reachable_consistent loadingCalls) (fullDisk 40)
  rw [if_neg (by decide)] at hdestination
  refine ⟨_, by rw [hdestination], ?_⟩
  intro self d hload
  have hiff := torn_save_never_loads loadingCalls (fullDisk 40) (stopsOnFailure_fullDisk 40) _
    (by rw [hdestination]) self d { contents := _ } rfl
  rcases (hiff.1 hload).2.2.2.1 with hclosed | ⟨hgood, -⟩
  · cases hclosed
  · exact absurd (hgood 40 (by decide +kernel)) (by decide)

-- A stream that stores in `close` what a failed write has left may make another script of it: here
-- the one byte of a string that is stored twice.
example :
    (PexData.save
      { header := { magic := 0xFA57C0DE }, stringTable := { count := 1, strings := [[0x78, 0]] } }
      { onWrite := fun i => if i = 13 then .failed 27 26 7 else .buffered }).destination.bind
        scriptIn =
      some { header := { magic := 0xFA57C0DE },
             stringTable := { count := 1, strings := [[0x78, 0x78]] } } := by
  decide +kernel

end PexReader
