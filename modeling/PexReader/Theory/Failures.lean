import PexReader.Reading.Programs
import PexReader.Theory.Acceptance

/-!
# Failures — what a `Load` that fails has looked at, and what it has reserved

Every member of `Load` is put together from the basic readers (`Reading.Programs`), so three
things hold of every end of a parse:

* it is decided by the bytes in front of the offset that the error reports, and by the length of the
  file;
* more bytes behind the file change it only if the file has run out, which `Load` says in the text
  of its error;
* the elements that were announced, which are reserved before they are read, are at most six for
  each byte of the file, whatever counts the file contains.
-/

namespace PexReader

open Focus Metered Metered.Cursor PexBinaryReader

/-- The reader behind the sections, whether they were read or not. -/
def readerBehind (guards : SizeGuards) (reader : PexBinaryReader) : PexBinaryReader :=
  behind (readSections guards reader)

theorem readerBehind_valid {reader : PexBinaryReader} (h : reader.Valid) :
    (readerBehind .enforced reader).Valid :=
  ((member_readSections.frugal Primitive.charges).spent_le h).1

/-! ## Where a parse stops -/

/-- The reader has counted the bytes that it has taken from the stream. -/
theorem position_readerBehind {contents : List UInt8} (h : contents.length ≤ 67108864) {n : Nat}
    (hn : n ≤ contents.length)
    (hrest : (readerBehind .enforced (start contents)).stream = contents.drop n) :
    (readerBehind .enforced (start contents)).position.toNat = n := by
  have haccount := (readerBehind_valid (start_valid h)).account
  have hsize : (readerBehind .enforced (start contents)).size = UInt64.ofNat contents.length :=
    member_readSections.unchanged Primitive.size .enforced (start contents)
  rw [hrest, hsize, toNat_ofNat_length h, List.length_drop] at haccount
  omega

/-- A failure is reported at the offset at which the reader stopped. -/
def FailsAt (n : Nat) (e : StdException) : Prop :=
  ∃ reason, e = .runtimeError ("PEX parse failed at byte " ++ toString n ++ ": " ++ reason)

/-- The end of a parse is decided by the bytes in front of the offset at which it stops, and by the
length of the file: another file of this length that starts with these bytes ends in the same way,
with the same script or with the same error. -/
theorem parse_decided_by_front (file : InputFile) (hfile : file.Admissible) :
    ∃ n ≤ file.contents.length,
      (∀ d reader, parseFile .enforced file = .ok (d, reader) → reader.position.toNat = n) ∧
      (∀ e, parseFile .enforced file = .error e → FailsAt n e) ∧
      ∀ other : InputFile, other.Admissible →
        other.contents.length = file.contents.length →
        other.contents.take n = file.contents.take n →
        (parseFile .enforced other).map Prod.fst = (parseFile .enforced file).map Prod.fst := by
  have hlocal := member_readSections.isLocal Primitive.isLocal .enforced (start file.contents)
  rcases hlocal with ⟨n, hn, hrest, hsame⟩
  have hposition := position_readerBehind hfile.length_le hn hrest
  rw [parseFile_of_admissible .enforced hfile]
  refine ⟨n, hn, ?_, ?_, ?_⟩
  · intro d reader h
    rw [readerBehind] at hposition
    cases hrun : readSections .enforced (start file.contents) with
    | ok parsed reader₁ =>
        rw [hrun] at h hposition
        cases h
        exact hposition
    | error e reader₁ =>
        rw [hrun] at h
        cases h
  · intro e h
    rw [readerBehind] at hposition
    cases hrun : readSections .enforced (start file.contents) with
    | ok parsed reader₁ =>
        rw [hrun] at h
        cases h
    | error exception reader₁ =>
        rw [hrun] at h hposition
        cases h
        rw [behind_error] at hposition
        exact ⟨exception.what, by rw [hposition]⟩
  · intro other hother hlength htake
    rw [parseFile_of_admissible .enforced hother]
    -- The two readers differ in their streams alone.
    have hstart : start other.contents = Tape.onto other.contents (start file.contents) := by
      simp [start, Tape.onto, hlength]
    rw [hstart, hsame other.contents hlength htake]
    cases readSections .enforced (start file.contents) with
    | ok parsed reader => rfl
    | error exception reader => rfl

/-- A file that fails behind its fourth byte. -/
theorem parse_decided_by_front_wrongMagic :
    ∃ n ≤ 6,
      (∀ d reader, parseFile .enforced { contents := [0xFA, 0x57, 0xC0, 0xDF, 3, 2] } =
        .ok (d, reader) → reader.position.toNat = n) ∧
      (∀ e, parseFile .enforced { contents := [0xFA, 0x57, 0xC0, 0xDF, 3, 2] } = .error e →
        FailsAt n e) ∧
      ∀ other : InputFile, other.Admissible → other.contents.length = 6 →
        other.contents.take n = [0xFA, 0x57, 0xC0, 0xDF, 3, 2].take n →
        (parseFile .enforced other).map Prod.fst =
          (parseFile .enforced { contents := [0xFA, 0x57, 0xC0, 0xDF, 3, 2] }).map Prod.fst :=
  parse_decided_by_front { contents := [0xFA, 0x57, 0xC0, 0xDF, 3, 2] }
    ⟨rfl, rfl, rfl, by decide⟩

/-! ## Longer files -/

/-- `Load` fails because the file is too short for what is in it. -/
def InputFile.RunsOut (file : InputFile) : Prop :=
  ∃ n ≤ file.contents.length, ∃ context, parseFile .enforced file =
    .error (.runtimeError ("PEX parse failed at byte " ++ toString n ++ ": " ++
      (context ++ " exceeds the remaining PEX input.")))

/-- The file with more bytes behind it. -/
def InputFile.continued (file : InputFile) (more : List UInt8) : InputFile :=
  { file with contents := file.contents ++ more }

/-- The script and the offset, or the error. -/
def outcome (file : InputFile) : Except StdException (PexData × UInt64) :=
  (parseFile .enforced file).map fun result => (result.1, result.2.position)

theorem map_outcome (file : InputFile) :
    (outcome file).map Prod.fst = (parseFile .enforced file).map Prod.fst := by
  unfold outcome
  cases parseFile .enforced file with
  | ok result => rfl
  | error e => rfl

theorem start_eq_cut (contents more : List UInt8) :
    start contents = (start (contents ++ more)).cut more.length := by
  simp [start, PexBinaryReader.cut, UInt64.ofNat_add]

theorem position_readerBehind_le {contents : List UInt8} (h : contents.length ≤ 67108864) :
    (readerBehind .enforced (start contents)).position.toNat ≤ contents.length := by
  have haccount := (readerBehind_valid (start_valid h)).account
  have hsize : (readerBehind .enforced (start contents)).size = UInt64.ofNat contents.length :=
    member_readSections.unchanged Primitive.size .enforced (start contents)
  rw [hsize, toNat_ofNat_length h] at haccount
  omega

theorem InputFile.Admissible.of_continued {file : InputFile} {more : List UInt8}
    (h : (file.continued more).Admissible) : file.Admissible := by
  refine ⟨h.isOpen, h.tells, h.seeks, ?_⟩
  have hlength := h.length_le
  simp only [InputFile.continued, List.length_append] at hlength
  omega

/-- More bytes behind a file are not noticed, unless it has run out. -/
theorem outcome_continued {file : InputFile} {more : List UInt8}
    (h : (file.continued more).Admissible) :
    outcome (file.continued more) = outcome file ∨ file.RunsOut := by
  have hfile := h.of_continued
  have hstart : (start (file.continued more).contents).cut more.length = start file.contents :=
    (start_eq_cut file.contents more).symm
  have htracks := member_readSections.tracks (Primitive.tracks (j := more.length))
    (start (file.continued more).contents)
    ⟨start_valid h.length_le, by simp [start, InputFile.continued]⟩
  rw [hstart] at htracks
  rcases htracks with ⟨-, hsame⟩ | ⟨e, reader, hrun, context, rfl⟩
  · left
    unfold outcome
    rw [parseFile_of_admissible .enforced hfile, parseFile_of_admissible .enforced h, hsame]
    cases readSections .enforced (start (file.continued more).contents) with
    | ok parsed reader => rfl
    | error exception reader => rfl
  · right
    have hle := position_readerBehind_le hfile.length_le
    rw [readerBehind, hrun] at hle
    refine ⟨reader.position.toNat, hle, context, ?_⟩
    rw [parseFile_of_admissible .enforced hfile, hrun]
    rfl

/-- Every failure is final but one: unless a file has run out, more bytes behind it change nothing,
neither the script nor the error nor the offset.  And a file that starts an acceptable one has run
out exactly if it ends inside the encoding of the script. -/
theorem failures_are_final (file : InputFile) (more : List UInt8)
    (h : (file.continued more).Admissible) :
    (¬ file.RunsOut → outcome (file.continued more) = outcome file) ∧
      ∀ d reader, parseFile .enforced (file.continued more) = .ok (d, reader) →
        (file.RunsOut ↔ file.contents.length < reader.position.toNat) := by
  refine ⟨(outcome_continued h).resolve_right, ?_⟩
  intro d reader hlonger
  have hposition := position_of_parseFile hlonger
  rcases parseFile_eq_ok.1 hlonger with ⟨-, hd, hfront, helements, -⟩
  constructor
  · rintro ⟨n, -, context, herror⟩
    by_contra hinside
    -- The encoding is in the file itself.
    have hshort : d.bytes <+: file.contents :=
      List.prefix_of_prefix_length_le hfront (List.prefix_append _ _) (by omega)
    have hload : parseFile .enforced file = .ok (d, _) :=
      parseFile_eq_ok.2 ⟨h.of_continued, hd, hshort, helements, rfl⟩
    rw [hload] at herror
    cases herror
  · intro hinside
    rcases outcome_continued h with hsame | hrunsOut
    · have hload : outcome (file.continued more) = .ok (d, reader.position) := by
        rw [outcome, hlonger]
        rfl
      rw [hload] at hsame
      cases hfile : parseFile .enforced file with
      | error e =>
          rw [outcome, hfile] at hsame
          cases hsame
      | ok result =>
          rw [outcome, hfile] at hsame
          rcases Prod.mk.inj (Except.ok.inj hsame) with ⟨rfl, -⟩
          have hle := (parseFile_eq_ok.1 hfile).2.2.1.length_le
          omega
    · exact hrunsOut

/-- A script whose last byte is still to come. -/
theorem failures_are_final_lastByte :
    (¬ InputFile.RunsOut { contents := sampleScript.bytes.take 144 } →
        outcome (InputFile.continued { contents := sampleScript.bytes.take 144 }
            (sampleScript.bytes.drop 144)) =
          outcome { contents := sampleScript.bytes.take 144 }) ∧
      InputFile.RunsOut { contents := sampleScript.bytes.take 144 } := by
  have hjoin : InputFile.continued { contents := sampleScript.bytes.take 144 }
      (sampleScript.bytes.drop 144) = { contents := sampleScript.bytes } := by
    rw [InputFile.continued, List.take_append_drop]
  have hfile : InputFile.Admissible { contents := sampleScript.bytes } :=
    (parseFile_eq_ok.1 parseFile_sampleScript).1
  have hfinal := failures_are_final { contents := sampleScript.bytes.take 144 }
    (sampleScript.bytes.drop 144) (by rw [hjoin]; exact hfile)
  refine ⟨hfinal.1, (hfinal.2 sampleScript ((start sampleScript.bytes).advance 145 16) ?_).2 ?_⟩
  · rw [hjoin]
    exact parseFile_sampleScript
  · exact Nat.lt_of_le_of_lt (List.length_take_le _ _) (by decide)

/-- So `Load` makes the same of an instance. -/
theorem load_continued {file : InputFile} {more : List UInt8}
    (h : (file.continued more).Admissible) (hmore : ¬ file.RunsOut) (self : PexData) :
    self.load (file.continued more) = self.load file := by
  have hsame := (outcome_continued h).resolve_right hmore
  rw [load_eq, load_eq, ← map_outcome, ← map_outcome, hsame]

/-! ## What a parse reserves -/

/-- The elements that `Load` has announced to the reader, and made room for, when it ends. -/
def announced (guards : SizeGuards) (file : InputFile) : Nat :=
  if file.isOpen then
    match PexBinaryReader.ofFile file with
    | .ok reader => (readerBehind guards reader).aggregateElements.toNat
    | .error _ => 0
  else 0

/-- A count is accepted only if the input can still hold that many elements, and the vectors are
nested five deep: a file makes `Load` reserve at most six elements for each of its bytes, and at
most a million, whether it is accepted or not. -/
theorem announced_le (file : InputFile) :
    announced .enforced file ≤ 6 * file.contents.length ∧ announced .enforced file ≤ 1000000 := by
  unfold announced
  split_ifs with hopen
  · cases hreader : PexBinaryReader.ofFile file with
    | error e => exact ⟨Nat.zero_le _, Nat.zero_le _⟩
    | ok reader =>
        rcases (ofFile_eq_ok hopen).1 hreader with ⟨hfile, rfl⟩
        have hstart := start_valid hfile.length_le
        have hspent := (member_readSections.frugal Primitive.charges).spent_le hstart
        have hzero : spent (start file.contents) = 0 := rfl
        rw [hzero, Nat.zero_add] at hspent
        exact ⟨hspent.2, (readerBehind_valid hstart).elements_lt⟩
  · exact ⟨Nat.zero_le _, Nat.zero_le _⟩

/-- The sample announces its 16 elements. -/
theorem announced_le_sample :
    announced .enforced { contents := sampleScript.bytes } = 16 ∧
      announced .enforced { contents := sampleScript.bytes } ≤ 6 * sampleScript.bytes.length := by
  have hle := (announced_le { contents := sampleScript.bytes }).1
  dsimp only at hle
  exact ⟨by decide +kernel, hle⟩

-- The string count of this file is 65535.  Without the size guards all of them are reserved.
example : announced .lifted
      { contents := [0xFA, 0x57, 0xC0, 0xDE] ++ List.replicate 18 0 ++ [0xFF, 0xFF] } = 65535 ∧
    announced .enforced
      { contents := [0xFA, 0x57, 0xC0, 0xDE] ++ List.replicate 18 0 ++ [0xFF, 0xFF] } = 0 := by
  decide +kernel

end PexReader
