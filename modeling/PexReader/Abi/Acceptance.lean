import PexReader.Abi.Runs
import PexReader.Theory.TornSaves

/-!
# Acceptance — what `C_ReadPex` takes for a script

The reader, the size guards and the budget together accept a language: the encodings of well-formed
scripts, with anything behind them.  No file is two scripts, so the instance is determined by the
file, and what is not in the language is refused with a parse error.
-/

namespace PexReader

/-- The file can be read, and the script is at its front. -/
structure InputFile.Spells (file : InputFile) (d : PexData) : Prop where
  admissible : file.Admissible
  wellFormed : d.WellFormed
  elements_le : d.elements ≤ 1000000
  front : d.bytes <+: file.contents

theorem spells_iff {file : InputFile} {d : PexData} :
    file.Spells d ↔ (file.isOpen = true ∧ file.tells = true ∧ file.seeks = true) ∧
      scriptIn file.contents = some d := by
  rw [scriptIn_eq_some]
  constructor
  · rintro ⟨⟨hopen, htells, hseeks, hlength⟩, hd, helements, hfront⟩
    exact ⟨⟨hopen, htells, hseeks⟩, hlength, hd, hfront, helements⟩
  · rintro ⟨⟨hopen, htells, hseeks⟩, hlength, hd, hfront, helements⟩
    exact ⟨⟨hopen, htells, hseeks, hlength⟩, hd, helements, hfront⟩

theorem load_iff_spells {self d : PexData} {file : InputFile} :
    self.load file = .ok () d ↔ file.Spells d :=
  load_eq_ok.trans spells_iff.symm

theorem InputFile.Spells.unique {file : InputFile} {d d' : PexData} (h : file.Spells d)
    (h' : file.Spells d') : d = d' := by
  have hscript := (spells_iff.1 h).2
  rw [(spells_iff.1 h').2] at hscript
  exact (Option.some.inj hscript).symm

/-- Behind every run of calls and for every file: `C_ReadPex` on a live instance loads the script
that the file spells, and if it spells none reports a parse error and leaves every instance as it
is.  No file spells two scripts. -/
theorem readPex_accepts_exactly (mb : MultiByteToWideChar) (calls : List AbiCall)
    (h : PermittedRun mb calls) (handle : PexReaderHandle) (self : PexData)
    (hlive : (runAbi mb calls).heap handle = some self) (file : InputFile) :
    (∀ d, file.Spells d → Abi.C_ReadPex handle (some file) (runAbi mb calls) =
      .ok 1 { (runAbi mb calls).setInst handle (some d) with lastAbiError := {} }) ∧
    ((∀ d, ¬ file.Spells d) → Abi.C_ReadPex handle (some file) (runAbi mb calls) =
      .ok 0 { runAbi mb calls with
        lastAbiError := setAbiError .parseError "The PEX file could not be opened or parsed." }) ∧
    ∀ d d', file.Spells d → file.Spells d' → d = d' := by
  have hnull : handle ≠ 0 := by
    rintro rfl
    rw [(run_sound h).null] at hlive
    cases hlive
  unfold Abi.C_ReadPex
  refine ⟨fun d hd => ?_, fun hnone => ?_, fun d d' hd hd' => hd.unique hd'⟩
  · have hload : self.load file = .ok () d := load_iff_spells.2 hd
    exact pointerCall_live _ _ _ _ _ hnull hlive (by simp [C_ReadPex, hload]) rfl
  · rcases load_cases self file with ⟨d, hload, -⟩ | ⟨e, hload⟩
    · exact absurd (load_iff_spells.1 hload) (hnone d)
    · exact pointerCall_failed _ _ _ _ _ hnull hlive (by simp [C_ReadPex, hload]) rfl

/-- A file with a byte behind the script. -/
theorem readPex_accepts_exactly_scriptRun :
    Abi.C_ReadPex 8 (some { contents := sampleScript.bytes ++ [0] }) (runAbi .strict scriptRun) =
      .ok 1 { (runAbi .strict scriptRun).setInst 8 (some sampleScript) with
        lastAbiError := {} } := by
  rcases parseFile_eq_ok.1 parseFile_sampleScript with ⟨-, hwf, -, helements, -⟩
  have hlength : (sampleScript.bytes ++ [0]).length ≤ 67108864 := by
    decide +kernel
  exact (readPex_accepts_exactly .strict scriptRun scriptRun_permitted 8 sampleScript scriptRun_live
    { contents := sampleScript.bytes ++ [0] }).1 sampleScript
    ⟨admissible_of_length hlength, hwf, helements, List.prefix_append _ _⟩

end PexReader
