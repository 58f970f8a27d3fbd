import PexReader.Abi.Runs

/-!
# Lifecycle — what a save writes of an instance that holds no script

Nothing in the code asks whether an instance holds a script.  A new or closed instance is saved like
any other, as a file that starts with four zero bytes, which `ReadHeader` refuses; on an instance
that holds a script the file starts with the magic number.
-/

namespace PexReader

/-! ## Instances that hold a script -/

namespace AbiCall

/-- A successful `C_ReadPex` on the handle. -/
def Loads (handle : PexReaderHandle) (call : AbiCall) (w : AbiState) : Prop :=
  match call with
  | code (.readPex h pexPath) => h = handle ∧ returnsOne (Abi.C_ReadPex h pexPath w) = true
  | _ => False

/-- A `C_Close` or `C_DestroyInstance` on the handle. -/
def Drops (handle : PexReaderHandle) (call : AbiCall) : Prop :=
  match call with
  | close h => h = handle
  | destroyInstance h => h = handle
  | _ => False

end AbiCall

/-- Some `C_ReadPex` on the handle succeeded, and the instance was not closed or destroyed since. -/
def HoldsScript (mb : MultiByteToWideChar) (calls : List AbiCall) (handle : PexReaderHandle) :
    Prop :=
  Stepping.Since (AbiCall.next mb) (AbiCall.Loads handle) (AbiCall.Drops handle) calls {}

/-- An instance that holds a script is well-formed, and one that holds none is empty. -/
def Holding (holds : Prop) : Option PexData → Prop
  | none => ¬ holds
  | some d => (holds ∧ d.WellFormed) ∨ (¬ holds ∧ d = {})

variable {mb : MultiByteToWideChar} {handle : PexReaderHandle}

theorem Holding.congr {holds holds' : Prop} {inst : Option PexData} (h : Holding holds inst)
    (heq : holds ↔ holds') : Holding holds' inst := by
  rwa [← propext heq]

theorem loads_code_iff {call : CodeCall} {code : Int32} {w w' : AbiState}
    (hexec : call.exec mb w = .ok code w') :
    (AbiCall.code call).Loads handle w ↔
      (∃ pexPath, call = .readPex handle pexPath) ∧ code = 1 := by
  cases call with
  | readPex target pexPath =>
      have heq : Abi.C_ReadPex target pexPath w = .ok code w' := hexec
      constructor
      · rintro ⟨rfl, hone⟩
        rw [heq] at hone
        exact ⟨⟨pexPath, rfl⟩, by simpa [returnsOne] using hone⟩
      · rintro ⟨⟨path, hread⟩, rfl⟩
        cases hread
        exact ⟨rfl, by simp [heq, returnsOne]⟩
  | _ => simp [AbiCall.Loads]

/-- What an accepted call makes of the instance behind the handle. -/
theorem holding_effect {call : CodeCall} {d d' : PexData} {code : Int32} {holds loads : Prop}
    (hloads : loads ↔ (∃ pexPath, call = .readPex handle pexPath) ∧ code = 1)
    (hcall : call.handle = handle) (h : Holding holds (some d)) (heffect : call.Effect d code d') :
    Holding (loads ∨ holds) (some d') := by
  cases call with
  | readPex target pexPath =>
      subst hcall
      rcases heffect with ⟨hone, file, -, hload⟩
      have hloaded : loads := hloads.2 ⟨⟨pexPath, rfl⟩, hone⟩
      exact Or.inl ⟨Or.inl hloaded, wellFormed_of_load hload⟩
  | modifyStringTable target index utf8String =>
      rcases heffect with ⟨-, str, -, hindex, hfits, rfl⟩
      rcases h with ⟨hholds, hwf⟩ | ⟨-, rfl⟩
      · exact Or.inl ⟨Or.inr hholds, withString_wellFormed hwf hfits⟩
      · -- An empty instance has no index to replace.
        exact absurd hindex (UInt16.not_lt.2 UInt16.zero_le)
  -- The others neither load a script nor change the instance.
  | _ =>
      rw [heffect.2]
      exact h.congr (by simp [hloads])

/-- What a call makes of the instance behind the handle. -/
theorem holding_step (call : AbiCall) (w : AbiState) (holds : Prop) (hw : w.Sound)
    (h : call.Permitted w) (hbefore : Holding holds (w.heap handle)) :
    Holding (call.Loads handle w ∨ (holds ∧ ¬ call.Drops handle))
      ((call.next mb w).heap handle) := by
  have hleads := AbiCall.next_leads mb hw h
  generalize call.next mb w = w' at hleads
  cases call with
  | createInstance allocated =>
      cases allocated with
      | none =>
          rcases hleads with ⟨e, -, rfl⟩
          exact hbefore.congr (by simp [AbiCall.Loads, AbiCall.Drops])
      | some fresh =>
          cases hleads
          by_cases hsame : fresh = handle
          · -- The address was not in use, so no script was held there.
            subst hsame
            rw [Option.isNone_iff_eq_none.1 h.2] at hbefore
            have hnot : ¬ holds := hbefore
            simp [Holding, AbiCall.Loads, hnot]
          · simpa [Function.update_of_ne (Ne.symm hsame), AbiCall.Loads, AbiCall.Drops] using
              hbefore
  | destroyInstance target =>
      cases hleads
      by_cases hsame : target = handle
      · subst hsame
        simp [Holding, AbiCall.Loads, AbiCall.Drops]
      · simpa [Function.update_of_ne (Ne.symm hsame), AbiCall.Loads, AbiCall.Drops, hsame] using
          hbefore
  | close target =>
      cases hleads
      by_cases hsame : target = handle
      · subst hsame
        cases w.heap target with
        | none => simp [Holding, AbiCall.Loads, AbiCall.Drops]
        | some d => simp [Holding, AbiCall.Loads, AbiCall.Drops]
      · simpa [Function.update_of_ne (Ne.symm hsame), AbiCall.Loads, AbiCall.Drops, hsame] using
          hbefore
  | code call =>
      rcases hleads with ⟨code, hexec, hends⟩
      have hloads : (AbiCall.code call).Loads handle w ↔ _ := loads_code_iff hexec
      -- A call that fails loads nothing.
      have hfailed : ¬ ((∃ pexPath, call = .readPex handle pexPath) ∧ call.failureValue = 1) := by
        rintro ⟨⟨pexPath, rfl⟩, hone⟩
        have hne : (0 : Int32) ≠ 1 := by decide
        exact hne hone
      cases hends with
      | refused e _ _ _ => exact hbefore.congr (by simp [hloads, hfailed, AbiCall.Drops])
      | missed _ => exact hbefore.congr (by simp [hloads, hfailed, AbiCall.Drops])
      | accepted d code d' e hlive heffect _ _ =>
          by_cases hsame : call.handle = handle
          · rw [← hsame, hlive] at hbefore
            have hafter := holding_effect hloads hsame hbefore heffect
            simpa [← hsame, AbiCall.Drops] using hafter
          · have hother : ¬ ∃ pexPath, call = .readPex handle pexPath := by
              rintro ⟨pexPath, rfl⟩
              exact hsame rfl
            have hafter : Holding ((AbiCall.code call).Loads handle w ∨ holds) (w.heap handle) :=
              hbefore.congr (by simp [hloads, hother])
            simpa [Function.update_of_ne (Ne.symm hsame), AbiCall.Drops] using hafter
  | _ =>
      rcases hleads with ⟨e, -, rfl⟩
      exact hbefore.congr (by simp [AbiCall.Loads, AbiCall.Drops])

theorem holding_run {calls : List AbiCall} (h : PermittedRun mb calls) :
    Holding (HoldsScript mb calls handle) ((runAbi mb calls).heap handle) := by
  have hstart : Holding False (({} : AbiState).heap handle) := id
  have hcall : ∀ (call : AbiCall) (w : AbiState) (holds : Prop), w.Sound → call.Permitted w →
      Holding holds (w.heap handle) → Holding (call.Loads handle w ∨ (holds ∧ ¬ call.Drops handle))
        ((call.next mb w).heap handle) := holding_step
  exact Stepping.invariant_since (R := fun holds w => Holding holds (w.heap handle))
    AbiCall.next_sound hstart hcall AbiState.sound_start h

/-! ## Saved files -/

/-- What `ReadHeader` demands of a file. -/
def magicBytes : List UInt8 :=
  [0xFA, 0x57, 0xC0, 0xDE]

theorem magicBytes_iff {d : PexData} {holds : Prop} (h : Holding holds (some d)) :
    magicBytes <+: d.bytes ↔ holds := by
  rcases h with ⟨hholds, hwf⟩ | ⟨hnot, rfl⟩
  · refine iff_of_true ?_ hholds
    rw [d.bytes_eq, d.header.bytes_eq, hwf.magic]
    exact ⟨_, rfl⟩
  · refine iff_of_false ?_ hnot
    decide

theorem savePex_lossless {w : AbiState} (hw : w.Sound) {d : PexData}
    (hlive : w.heap handle = some d) {device : OutputDevice} (hdevice : device.Lossless) :
    Abi.C_SavePex handle (some device) w = .ok (1, some d.bytes) { w with lastAbiError := {} } := by
  have hd := AbiState.sound_iff.1 hw handle d hlive
  have hsave := save_lossless hd.2 hdevice
  unfold Abi.C_SavePex
  exact pointerCall_kept _ _ _ _ _ hd.1 hlive (by simp [C_SavePex, hsave]) rfl

/-- Of a live instance: `C_SavePex` returns 1 exactly when the path is not null and the destination
opens, whether the instance holds a script or not.  The file it leaves at a destination that loses
nothing starts with the magic number exactly when the instance holds a script. -/
theorem saved_with_or_without_script (mb : MultiByteToWideChar) (calls : List AbiCall)
    (h : PermittedRun mb calls) (handle : PexReaderHandle)
    (hlive : ((runAbi mb calls).heap handle).isSome = true) (pexPath : Option OutputDevice) :
    ∃ code destination w',
      Abi.C_SavePex handle pexPath (runAbi mb calls) = .ok (code, destination) w' ∧
      (code = 1 ↔ ∃ device, pexPath = some device ∧ device.isOpen = true) ∧
      ∀ device, pexPath = some device → device.Lossless →
        ∃ bytes, destination = some bytes ∧
          (magicBytes <+: bytes ↔ HoldsScript mb calls handle) := by
  have hw := run_sound h
  have hholding : Holding (HoldsScript mb calls handle) ((runAbi mb calls).heap handle) :=
    holding_run h
  rcases Option.isSome_iff_exists.1 hlive with ⟨d, hd⟩
  rw [hd] at hholding
  have hnull := (AbiState.sound_iff.1 hw handle d hd).1
  rcases savePex_ends hw (Or.inr hlive) pexPath with
    ⟨_, device, -, rfl, hopen, heq⟩ | ⟨e, -, hrefused, heq⟩
  · refine ⟨_, _, _, heq, iff_of_true rfl ⟨device, rfl, hopen⟩, ?_⟩
    rintro _ ⟨⟩ hdevice
    -- The file is the encoding of the instance.
    have hsaved := savePex_lossless hw hd hdevice
    rw [heq] at hsaved
    injection hsaved with hresult
    exact ⟨d.bytes, congrArg Prod.snd hresult, magicBytes_iff hholding⟩
  · have hclosed : ∀ device, pexPath = some device → device.isOpen = false := by
      rcases hrefused with hzero | hclosed
      · exact absurd hzero hnull
      · exact hclosed
    refine ⟨_, _, _, heq, iff_of_false (by decide) ?_, ?_⟩
    · rintro ⟨device, hpath, hopen⟩
      simp [hclosed device hpath] at hopen
    · intro device hpath hdevice
      have hopen := hdevice.isOpen
      simp [hclosed device hpath] at hopen

theorem saved_with_or_without_script_scriptRun :
    ∃ code destination w',
      Abi.C_SavePex 8 (some {}) (runAbi .strict scriptRun) = .ok (code, destination) w' ∧
      (code = 1 ↔ ∃ device, some ({} : OutputDevice) = some device ∧ device.isOpen = true) ∧
      ∀ device, some ({} : OutputDevice) = some device → device.Lossless →
        ∃ bytes, destination = some bytes ∧
          (magicBytes <+: bytes ↔ HoldsScript .strict scriptRun 8) :=
  saved_with_or_without_script .strict scriptRun scriptRun_permitted 8
    (Option.isSome_iff_exists.2 ⟨_, scriptRun_live⟩) (some {})

/-- A new instance holds no script.  It is saved, and the file does not start with the magic
number. -/
theorem new_instance_saved :
    PermittedRun .strict [.createInstance (some 8)] ∧
      ¬ HoldsScript .strict [.createInstance (some 8)] 8 ∧
      ∃ bytes w', Abi.C_SavePex 8 (some {}) (runAbi .strict [.createInstance (some 8)]) =
        .ok (1, some bytes) w' ∧ ¬ magicBytes <+: bytes := by
  have hrun : PermittedRun .strict [.createInstance (some 8)] := ⟨⟨by decide, rfl⟩, trivial⟩
  refine ⟨hrun, ?_, ?_⟩
  · intro hholds
    rcases (Stepping.since_snoc _ [] _ _).1 hholds with hloads | ⟨hnone, -⟩
    · exact hloads
    · exact Stepping.not_since_nil _ _ hnone
  · have hlive : (runAbi .strict [.createInstance (some 8)]).heap 8 = some {} := rfl
    have hsaved := savePex_lossless (run_sound hrun) hlive OutputDevice.lossless_default
    refine ⟨({} : PexData).bytes, _, hsaved, ?_⟩
    decide

end PexReader
