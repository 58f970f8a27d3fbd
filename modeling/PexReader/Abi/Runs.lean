import PexReader.Abi.Outcomes
import PexReader.Theory.Runs

/-!
# Runs — what a run of calls across the ABI leaves behind

`AbiCall.Leads` lists the state behind each call a caller may make, so the instances stay consistent
through every run, and each of them is in a state that the implementation functions reach.  All but
a few calls leave the instances as they are; a run in which only those few are made leaves the same
instances behind.
-/

namespace PexReader

/-! ## One call -/

/-- What an accepted call makes of a consistent instance is consistent. -/
theorem CodeCall.Effect.consistent {call : CodeCall} {d d' : PexData} {code : Int32}
    (hd : d.Consistent) (h : call.Effect d code d') : d'.Consistent := by
  cases call with
  | readPex handle pexPath =>
      rcases h with ⟨-, file, -, hload⟩
      exact (wellFormed_of_load hload).toConsistent
  | modifyStringTable handle index utf8String =>
      rcases h with ⟨-, str, -, -, hfits, rfl⟩
      exact withString_consistent hd hfits
  -- The others leave the instance as it is.
  | _ => exact h.2 ▸ hd

namespace AbiCall

/-- The state behind a call. -/
def Leads (mb : MultiByteToWideChar) (w w' : AbiState) : AbiCall → Prop
  | createInstance (some handle) => w' = { w.setInst handle (some {}) with lastAbiError := {} }
  | destroyInstance handle => w' = { w.setInst handle none with lastAbiError := {} }
  | close handle =>
      w' = { w.setInst handle ((w.heap handle).map fun _ => {}) with lastAbiError := {} }
  | code call => ∃ code, call.exec mb w = .ok code w' ∧ call.Ends w code w'
  | _ => ∃ e, (e = w.lastAbiError ∨ e.status ≠ .internalError) ∧ w' = { w with lastAbiError := e }

variable {mb : MultiByteToWideChar} {call : AbiCall} {w w' : AbiState}

theorem exec_destroyInstance (hw : w.Sound) {handle : PexReaderHandle} (h : w.Accepts handle) :
    Abi.C_DestroyInstance handle w =
      .ok () { w.setInst handle none with lastAbiError := {} } := by
  rcases AbiState.Accepts.cases hw h with rfl | ⟨hnull, d, hlive, -⟩
  · rw [AbiState.setInst_self hw.null]
    rfl
  · simp [Abi.C_DestroyInstance, invokeAbi, onInst, hnull, hlive, settle, C_DestroyInstance,
      AbiState.setInst]

theorem exec_close (hw : w.Sound) {handle : PexReaderHandle} (h : w.Accepts handle) :
    Abi.C_Close handle w =
      .ok () { w.setInst handle ((w.heap handle).map fun _ => {}) with lastAbiError := {} } := by
  rcases AbiState.Accepts.cases hw h with rfl | ⟨hnull, d, hlive, -⟩
  · rw [hw.null, Option.map_none, AbiState.setInst_self hw.null]
    rfl
  · simp [Abi.C_Close, invokeAbi, onInst, hnull, hlive, settle, C_Close, AbiState.setInst]

theorem exec_getLastErrorUtf8 (buffer : Option (List UInt8)) (bufferSize : Int32) :
    ∃ result, Abi.C_GetLastErrorUtf8 buffer bufferSize w = .ok result w := by
  dsimp only [Abi.C_GetLastErrorUtf8, bind, EStateM.bind, get, getThe, MonadStateOf.get,
    EStateM.get]
  split_ifs
  · exact ⟨_, rfl⟩
  · exact ⟨_, rfl⟩

/-- A call that a caller may make returns, in the state that is listed. -/
theorem exec_leads (mb : MultiByteToWideChar) (hw : w.Sound) (h : call.Permitted w) :
    ∃ w', call.exec mb w = .ok () w' ∧ call.Leads mb w w' := by
  cases call with
  | getLastErrorUtf8 buffer bufferSize =>
      rcases exec_getLastErrorUtf8 buffer bufferSize with ⟨result, hexec⟩
      exact ⟨w, discard_of_ok hexec, w.lastAbiError, Or.inl rfl, rfl⟩
  | createInstance allocated =>
      cases allocated with
      | none => exact ⟨_, rfl, _, Or.inr (by simp [setAbiError]), rfl⟩
      | some handle => exact ⟨_, rfl, rfl⟩
  | destroyInstance handle => exact ⟨_, exec_destroyInstance hw h, rfl⟩
  | close handle => exact ⟨_, exec_close hw h, rfl⟩
  | code call =>
      rcases call.exec_ends mb hw h with ⟨code, w', hexec, hends⟩
      exact ⟨w', discard_of_ok hexec, code, hexec, hends⟩
  | value handle call =>
      rcases value_ends hw h call with ⟨e, hstatus, hexec⟩
      exact ⟨_, hexec, e, Or.inr hstatus, rfl⟩
  | getAbiVersion => exact ⟨w, rfl, w.lastAbiError, Or.inl rfl, rfl⟩
  | getLastStatus => exact ⟨w, rfl, w.lastAbiError, Or.inl rfl, rfl⟩
  | getVersion => exact ⟨_, rfl, {}, Or.inr (by simp), rfl⟩
  | getVersionLength => exact ⟨_, rfl, {}, Or.inr (by simp), rfl⟩
  | freeBuffer buffer => exact ⟨_, rfl, {}, Or.inr (by simp), rfl⟩

theorem next_leads (mb : MultiByteToWideChar) (hw : w.Sound) (h : call.Permitted w) :
    call.Leads mb w (call.next mb w) := by
  rcases exec_leads mb hw h with ⟨w', hexec, hleads⟩
  have hnext : call.next mb w = w' := by
    unfold next
    rw [hexec]
  rwa [hnext]

/-! ## Invariants of a run -/

/-- What holds of an empty instance, and of what an accepted call makes of one of which it holds,
stays true of every instance. -/
theorem next_each {P : PexReaderHandle → PexData → Prop}
    (hempty : ∀ handle, handle ≠ 0 → P handle {})
    (heffect : ∀ (call : CodeCall) handle d code d', P handle d → call.Effect d code d' →
      P handle d')
    (hw : w.Sound) (hall : w.Each P) (h : call.Permitted w) : (call.next mb w).Each P := by
  have hleads := next_leads mb hw h
  generalize call.next mb w = w' at hleads
  cases call with
  | createInstance allocated =>
      cases allocated with
      | none =>
          rcases hleads with ⟨e, -, rfl⟩
          exact hall
      | some handle =>
          cases hleads
          apply hall.setInst
          rintro d ⟨⟩
          exact hempty handle h.1
  | destroyInstance handle =>
      cases hleads
      apply hall.setInst
      rintro d ⟨⟩
  | close handle =>
      cases hleads
      apply hall.setInst
      intro d hd
      rcases Option.map_eq_some_iff.1 hd with ⟨d₀, hlive, rfl⟩
      exact hempty handle (AbiState.sound_iff.1 hw handle d₀ hlive).1
  | code call =>
      rcases hleads with ⟨code, -, hends⟩
      cases hends with
      | refused e _ _ _ => exact hall
      | missed _ => exact hall
      | accepted d code d' e hlive heff _ _ =>
          apply hall.setInst
          rintro d ⟨⟩
          exact heffect call _ _ code _ (hall _ _ hlive) heff
  -- The others leave the instances as they are.
  | _ =>
      rcases hleads with ⟨e, -, rfl⟩
      exact hall

theorem next_sound (call : AbiCall) (w : AbiState) (hw : w.Sound) (h : call.Permitted w) :
    (call.next mb w).Sound := by
  refine AbiState.sound_iff.2 (next_each ?_ ?_ hw (AbiState.sound_iff.1 hw) h)
  · intro handle hnull
    exact ⟨hnull, empty_consistent⟩
  · rintro call handle d code d' ⟨hnull, hd⟩ heffect
    exact ⟨hnull, heffect.consistent hd⟩

end AbiCall

section

variable {mb : MultiByteToWideChar} {calls : List AbiCall}

theorem runAbi_snoc (call : AbiCall) :
    runAbi mb (calls ++ [call]) = call.next mb (runAbi mb calls) := by
  rw [runAbi, Stepping.run_append]
  rfl

theorem permittedRun_snoc {call : AbiCall} :
    PermittedRun mb (calls ++ [call]) ↔
      PermittedRun mb calls ∧ call.Permitted (runAbi mb calls) := by
  rw [PermittedRun, Stepping.each_append]
  simp [Stepping.Each, PermittedRun, runAbi]

theorem run_sound (h : PermittedRun mb calls) : (runAbi mb calls).Sound :=
  Stepping.invariant AbiCall.next_sound AbiState.sound_start h

end

/-! ## Instances behind handles -/

theorem Reachable.run {d : PexData} (hd : Reachable d) (call : ApiCall) :
    Reachable (call.run d) := by
  rcases hd with ⟨calls, rfl⟩
  refine ⟨calls ++ [call], ?_⟩
  simp [runCalls]

theorem CodeCall.Effect.reachable {call : CodeCall} {d d' : PexData} {code : Int32}
    (hd : Reachable d) (h : call.Effect d code d') : Reachable d' := by
  cases call with
  | readPex handle pexPath =>
      rcases h with ⟨-, file, rfl, hload⟩
      have hrun : (ApiCall.readPex (some file)).run d = d' := by
        simp [ApiCall.run, C_ReadPex, hload]
      exact hrun ▸ hd.run _
  | modifyStringTable handle index utf8String =>
      rcases h with ⟨-, str, rfl, hindex, hfits, rfl⟩
      have hmodify := modifyStringTable_accepted hd.consistent hindex hfits
      have hrun : (ApiCall.modifyStringTable index (some str)).run d =
          d.withString index.toNat (cString str) := by
        simp [ApiCall.run, C_ModifyStringTable, hmodify]
      exact hrun ▸ hd.run _
  | _ => exact h.2 ▸ hd

/-- Behind a handle there is what the implementation functions make of a new instance. -/
theorem live_reachable {mb : MultiByteToWideChar} {calls : List AbiCall}
    (h : PermittedRun mb calls) {handle : PexReaderHandle} {d : PexData}
    (hlive : (runAbi mb calls).heap handle = some d) : Reachable d := by
  have hempty : Reachable {} := ⟨[], rfl⟩
  have hstep : ∀ (call : AbiCall) (w : AbiState),
      (w.Sound ∧ w.Each fun _ d => Reachable d) → call.Permitted w →
        (call.next mb w).Sound ∧ (call.next mb w).Each fun _ d => Reachable d := by
    rintro call w ⟨hw, hreachable⟩ hpermitted
    exact ⟨call.next_sound w hw hpermitted, AbiCall.next_each (fun _ _ => hempty)
      (fun _ _ _ _ _ hd heffect => heffect.reachable hd) hw hreachable hpermitted⟩
  have hstart : ({} : AbiState).Each fun _ d => Reachable d := by simp [AbiState.Each]
  exact (Stepping.invariant hstep ⟨AbiState.sound_start, hstart⟩ h).2 handle d hlive

/-! ## Calls that leave no trace -/

/-- The call returns 1. -/
def returnsOne : EStateM.Result Undefined AbiState Int32 → Bool
  | .ok code _ => code == 1
  | .error _ _ => false

/-- Creation and destruction of an instance, successful `C_ReadPex` and `C_ModifyStringTable` calls,
and `C_Close` calls. -/
def AbiCall.effective (call : AbiCall) (w : AbiState) : Bool :=
  match call with
  | createInstance _ => true
  | destroyInstance _ => true
  | close _ => true
  | code (.readPex handle pexPath) => returnsOne (Abi.C_ReadPex handle pexPath w)
  | code (.modifyStringTable handle index utf8String) =>
      returnsOne (Abi.C_ModifyStringTable handle index utf8String w)
  | _ => false

/-- Only the effective calls of a run. -/
def effectiveCalls (mb : MultiByteToWideChar) (calls : List AbiCall) : List AbiCall :=
  Stepping.kept (AbiCall.next mb) AbiCall.effective calls {}

namespace AbiCall

variable {mb : MultiByteToWideChar} {call : AbiCall} {w t : AbiState}

/-- A call that is not effective leaves the instances as they are. -/
theorem heap_next (hw : w.Sound) (h : call.Permitted w) (hidle : call.effective w = false) :
    (call.next mb w).heap = w.heap := by
  have hleads := next_leads mb hw h
  generalize call.next mb w = w' at hleads
  cases call with
  | createInstance allocated => cases hidle
  | destroyInstance handle => cases hidle
  | close handle => cases hidle
  | code call =>
      rcases hleads with ⟨code, hexec, hends⟩
      cases hends with
      | refused e _ _ _ => rfl
      | missed _ => rfl
      | accepted d code d' e hlive heffect _ _ =>
          cases call with
          | readPex handle pexPath =>
              -- It would have returned 1.
              have heq : Abi.C_ReadPex handle pexPath w = _ := hexec
              simp [effective, heq, returnsOne, heffect.1] at hidle
          | modifyStringTable handle index utf8String =>
              have heq : Abi.C_ModifyStringTable handle index utf8String w = _ := hexec
              simp [effective, heq, returnsOne, heffect.1] at hidle
          | _ =>
              rw [heffect.2, AbiState.setInst_self hlive]
  | _ =>
      rcases hleads with ⟨e, -, rfl⟩
      rfl

theorem permitted_congr (h : w.heap = t.heap) : call.Permitted w ↔ call.Permitted t := by
  cases call with
  | createInstance allocated => cases allocated <;> simp [Permitted, h]
  | _ => simp [Permitted, AbiState.Accepts, h]

/-- What an effective call does depends on the instances alone. -/
theorem next_congr (h : w.heap = t.heap) (heffective : call.effective w = true) :
    call.next mb w = call.next mb t := by
  have hexec : call.exec mb w = call.exec mb t := by
    cases call with
    | createInstance allocated => exact discard_congr (invokeAbi_congr _ _ h)
    | destroyInstance handle => exact invokeAbi_congr _ _ h
    | close handle => exact invokeAbi_congr _ _ h
    | code call =>
        cases call with
        | readPex handle pexPath => exact discard_congr (invokeAbi_congr _ _ h)
        | modifyStringTable handle index utf8String =>
            exact discard_congr (invokeAbi_congr _ _ h)
        | _ => cases heffective
    | _ => cases heffective
  unfold next
  rw [hexec]

/-- What is kept of a run may be called, and leaves the same instances. -/
theorem kept_step {call : AbiCall} {w t : AbiState} (hpermitted : call.Permitted w)
    (heffective : call.effective w = true) (h : w.heap = t.heap) :
    call.Permitted t ∧ (call.next mb w).heap = (call.next mb t).heap :=
  ⟨(permitted_congr h).1 hpermitted, by rw [next_congr h heffective]⟩

end AbiCall

/-- Saves, getters and failed calls leave every instance as it was.  The instances behind a run are
those behind its effective calls alone.  A successful `C_ReadPex` leaves the script of its file
behind the handle, whatever was there before. -/
theorem failed_calls_leave_no_trace (mb : MultiByteToWideChar) (calls : List AbiCall)
    (h : PermittedRun mb calls) :
    (∀ call : AbiCall, call.Permitted (runAbi mb calls) → call.effective (runAbi mb calls) = false →
      (call.next mb (runAbi mb calls)).heap = (runAbi mb calls).heap) ∧
    (PermittedRun mb (effectiveCalls mb calls) ∧
      (runAbi mb (effectiveCalls mb calls)).heap = (runAbi mb calls).heap) ∧
    ∀ handle pexPath w', (runAbi mb calls).Accepts handle →
      Abi.C_ReadPex handle pexPath (runAbi mb calls) = .ok 1 w' →
      ∃ file d reader, pexPath = some file ∧ parseFile .enforced file = .ok (d, reader) ∧
        w'.heap = Function.update (runAbi mb calls).heap handle (some d) := by
  have hsound := run_sound h
  refine ⟨?_, ?_, ?_⟩
  · intro call hpermitted hidle
    exact AbiCall.heap_next hsound hpermitted hidle
  · refine Stepping.run_kept AbiCall.next_sound ?_ ?_ AbiState.sound_start h rfl
    · intro call w hw hpermitted hidle
      exact AbiCall.heap_next hw hpermitted hidle
    · intro call w t _ hpermitted heffective hheap
      exact AbiCall.kept_step hpermitted heffective hheap
  · intro handle pexPath w' haccepts hread
    rcases readPex_ends hsound haccepts pexPath with
      ⟨d, d', file, -, hfile, hload, heq⟩ | ⟨status, message, -, heq⟩
    · rcases parseFile_of_load hload with ⟨reader, hparse⟩
      rw [hread] at heq
      cases heq
      exact ⟨file, d', reader, hfile, hparse, rfl⟩
    · rw [hread] at heq
      injection heq with hcode
      exact absurd hcode (by decide)

/-- A script with two strings and one object is loaded. -/
def scriptRun : List AbiCall :=
  [.createInstance (some 8), .code (.readPex 8 (some { contents := sampleScript.bytes }))]

theorem scriptRun_evaluated : PermittedRun .strict scriptRun ∧
    (runAbi .strict scriptRun).heap 8 = some sampleScript ∧
    (runAbi .strict scriptRun).lastAbiError = {} := by
  decide +kernel

theorem scriptRun_permitted : PermittedRun .strict scriptRun :=
  scriptRun_evaluated.1

theorem scriptRun_live : (runAbi .strict scriptRun).heap 8 = some sampleScript :=
  scriptRun_evaluated.2.1

theorem scriptRun_accepts : (runAbi .strict scriptRun).Accepts 8 :=
  Or.inr (Option.isSome_iff_exists.2 ⟨_, scriptRun_live⟩)

/-- A script whose first string is replaced. -/
def accentRun (utf8String : List UInt8) : List AbiCall :=
  scriptRun ++ [.code (.modifyStringTable 8 0 (some utf8String))]

theorem accentRun_evaluated :
    (PermittedRun .strict (accentRun [0xE9]) ∧
      (runAbi .strict (accentRun [0xE9])).heap 8 = some (sampleScript.withString 0 [0xE9])) ∧
    (PermittedRun .strict (accentRun [0xC3, 0xA9]) ∧
      (runAbi .strict (accentRun [0xC3, 0xA9])).heap 8 =
        some (sampleScript.withString 0 [0xC3, 0xA9])) := by
  decide +kernel

/-- The index does not exist, the script is saved and counted, and the second file is no script. -/
def noisyRun : List AbiCall :=
  scriptRun ++ [.code (.modifyStringTable 8 2 (some [0x41])), .code (.savePex 8 (some {})),
    .value 8 .getObjectCount, .code (.readPex 8 (some { contents := [0xFA] })), .close 8]

theorem noisyRun_evaluated :
    PermittedRun .strict noisyRun ∧ (effectiveCalls .strict noisyRun).length = 3 := by
  decide +kernel

theorem failed_calls_leave_no_trace_noisyRun :
    (effectiveCalls .strict noisyRun).length = 3 ∧
      (runAbi .strict (effectiveCalls .strict noisyRun)).heap = (runAbi .strict noisyRun).heap :=
  ⟨noisyRun_evaluated.2, (failed_calls_leave_no_trace .strict noisyRun
    noisyRun_evaluated.1).2.1.2⟩

end PexReader
