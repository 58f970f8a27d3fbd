import PexReader.Abi.Runs

/-!
# Status — what the status says about the call before it

* A failure value comes with an error status, and a status without one, except where a record getter
  finds no element: it returns 0 and the status is clear.
* The one mistake of a caller that ends as an internal error is a replacement string of more than
  65535 bytes: `CaptureAbiException` has no clause for `length_error`.
-/

namespace PexReader

/-! ## Codes and the status behind them -/

/-- A call, and `C_GetLastStatus` after it. -/
def CodeCall.withStatus (mb : MultiByteToWideChar) (call : CodeCall) :
    AbiM (Int32 × PexReaderStatus) := do
  let code ← call.exec mb
  let status ← Abi.C_GetLastStatus
  return (code, status)

namespace AbiCall

/-- The call returns its failure value exactly when the status is that of an error; this is said of
calls that return a code. -/
def StatusTells (mb : MultiByteToWideChar) (call : AbiCall) (w : AbiState) : Prop :=
  match call with
  | code call => ∃ code status w', call.withStatus mb w = .ok (code, status) w' ∧
      (code = call.failureValue ↔ status.IsError)
  | _ => True

/-- A record getter that finds no element. -/
def Misses (call : AbiCall) (w : AbiState) : Prop :=
  match call with
  | code call => call.Misses w
  | _ => False

end AbiCall

namespace CodeCall

variable {mb : MultiByteToWideChar} {call : CodeCall} {code : Int32} {w w' : AbiState}

theorem withStatus_of_exec (h : call.exec mb w = .ok code w') :
    call.withStatus mb w = .ok (code, w'.lastAbiError.status) w' := by
  change EStateM.bind _ _ w = _
  simp only [EStateM.bind, h]
  rfl

theorem Effect.ne_failureValue {d d' : PexData} (h : call.Effect d code d') :
    code ≠ call.failureValue := by
  have hone : (1 : Int32) ≠ 0 := by decide
  cases call with
  | readPex handle pexPath => exact h.1 ▸ hone
  | modifyStringTable handle index utf8String => exact h.1 ▸ hone
  | _ => exact h.1

/-- Where a record getter finds nothing its failure is not reported, and nowhere else. -/
theorem Ends.status_tells_iff (h : call.Ends w code w') :
    (code = call.failureValue ↔ w'.lastAbiError.status.IsError) ↔ ¬ call.Misses w := by
  cases h with
  | refused e hstatus hmiss _ => simp [hstatus, hmiss]
  | missed hmiss => simp [hmiss]
  | accepted d code d' e _ heffect hstatus hmiss => simp [hstatus, hmiss, heffect.ne_failureValue]

/-- An accepted string is short enough, and an element that is not found is no string. -/
theorem Ends.internalError_iff (h : call.Ends w code w') :
    w'.lastAbiError.status = .internalError ↔ call.Overlong w := by
  cases h with
  | refused e _ _ hinternal => exact hinternal
  | missed hmiss =>
      cases call with
      | record handle call => simp [Overlong]
      | _ => exact hmiss.elim
  | accepted d code d' e hlive heffect hstatus _ =>
      have hnot : ¬ call.Overlong w := by
        cases call with
        | modifyStringTable handle index utf8String =>
            rcases heffect with ⟨-, str, rfl, -, hfits, -⟩
            rintro ⟨d₁, str₁, -, hstr, -, hlong⟩
            cases hstr
            exact hlong hfits
        | _ => exact id
      have hne : e.status ≠ .internalError := by
        intro heq
        exact hstatus (by simp [PexReaderStatus.IsError, heq])
      simp [hne, hnot]

/-- A record getter that finds nothing fails, and the status is clear. -/
theorem withStatus_of_misses (hw : w.Sound) (h : w.Accepts call.handle) (hmiss : call.Misses w) :
    call.withStatus mb w = .ok (call.failureValue, .ok) { w with lastAbiError := {} } := by
  rcases call.exec_ends mb hw h with ⟨code, w', hexec, hends⟩
  cases hends with
  | refused e _ hnot _ => exact absurd hmiss hnot
  | missed _ => exact withStatus_of_exec hexec
  | accepted d code d' e _ _ _ hnot => exact absurd hmiss hnot

end CodeCall

theorem AbiCall.statusTells_iff {mb : MultiByteToWideChar} (call : AbiCall) (w : AbiState)
    (hw : w.Sound) (h : call.Permitted w) : call.StatusTells mb w ↔ ¬ call.Misses w := by
  cases call with
  | code call =>
      rcases call.exec_ends mb hw h with ⟨code, w', hexec, hends⟩
      have hstatus := CodeCall.withStatus_of_exec hexec
      simpa [StatusTells, Misses, hstatus] using hends.status_tells_iff
  | _ => simp [StatusTells, Misses]

/-! ## Failures and the status -/

/-- Of every call of a run: the code and the status agree, except where a record getter finds no
element. -/
theorem status_tells_unless_missed (mb : MultiByteToWideChar) (calls : List AbiCall)
    (h : PermittedRun mb calls) :
    Stepping.Each (AbiCall.next mb)
      (fun call w => call.StatusTells mb w ↔ ¬ call.Misses w) calls {} :=
  Stepping.each_of_invariant AbiCall.next_sound AbiCall.statusTells_iff AbiState.sound_start h

theorem status_tells_unless_missed_scriptRun :
    Stepping.Each (AbiCall.next .strict)
      (fun call w => call.StatusTells .strict w ↔ ¬ call.Misses w) scriptRun {} :=
  status_tells_unless_missed .strict scriptRun scriptRun_permitted

/-- Object 5 of one. -/
def missingObject : RecordCall :=
  .getObjectInfo 5 { nameIndex := some 0, size := some 0 }

theorem missing_object_reported_ok :
    PermittedRun .strict (scriptRun ++ [.code (.record 8 missingObject)]) ∧
      (∃ w', CodeCall.withStatus .strict (.record 8 missingObject) (runAbi .strict scriptRun) =
        .ok (0, .ok) w') ∧
      ¬ (AbiCall.code (.record 8 missingObject)).StatusTells .strict
        (runAbi .strict scriptRun) := by
  have hw : (runAbi .strict scriptRun).Sound := run_sound scriptRun_permitted
  have hmiss : CodeCall.Misses (runAbi .strict scriptRun) (.record 8 missingObject) :=
    ⟨sampleScript, scriptRun_live, by decide⟩
  refine ⟨permittedRun_snoc.2 ⟨scriptRun_permitted, scriptRun_accepts⟩,
    ⟨_, CodeCall.withStatus_of_misses hw scriptRun_accepts hmiss⟩, ?_⟩
  intro htells
  exact (AbiCall.statusTells_iff (.code (.record 8 missingObject)) _ hw scriptRun_accepts).1 htells
    hmiss

/-! ## Internal errors -/

namespace AbiCall

/-- A replacement string that is too long for an entry that exists. -/
def Overlong (call : AbiCall) (w : AbiState) : Prop :=
  match call with
  | code call => call.Overlong w
  | _ => False

variable {mb : MultiByteToWideChar}

/-- Where the status is not that of an internal error, a call makes it so exactly if it brings a
string that is too long. -/
theorem internalError_next_iff (call : AbiCall) (w : AbiState) (hw : w.Sound)
    (h : call.Permitted w) (hbefore : ¬ w.lastAbiError.status = .internalError) :
    (call.next mb w).lastAbiError.status = .internalError ↔ call.Overlong w := by
  have hleads := next_leads mb hw h
  generalize call.next mb w = w' at hleads
  cases call with
  | createInstance allocated =>
      cases allocated with
      | none =>
          rcases hleads with ⟨e, rfl | hstatus, rfl⟩
          · simpa [Overlong] using hbefore
          · simpa [Overlong] using hstatus
      | some handle =>
          cases hleads
          simp [Overlong]
  | destroyInstance handle =>
      cases hleads
      simp [Overlong]
  | close handle =>
      cases hleads
      simp [Overlong]
  | code call =>
      rcases hleads with ⟨code, -, hends⟩
      exact hends.internalError_iff
  -- The status is as it was, or another one.
  | _ =>
      rcases hleads with ⟨e, rfl | hstatus, rfl⟩
      · simpa [Overlong] using hbefore
      · simpa [Overlong] using hstatus

end AbiCall

/-- No call of a run ends as an internal error exactly when none brings a replacement string of more
than 65535 bytes for an entry that exists. -/
theorem no_internal_error_iff (mb : MultiByteToWideChar) (calls : List AbiCall)
    (h : PermittedRun mb calls) :
    Stepping.Each (AbiCall.next mb)
        (fun call w => (call.next mb w).lastAbiError.status ≠ .internalError) calls {} ↔
      Stepping.Each (AbiCall.next mb) (fun call w => ¬ call.Overlong w) calls {} :=
  Stepping.each_not_flagged_iff AbiCall.next_sound AbiCall.internalError_next_iff
    AbiState.sound_start h (by decide)

theorem no_internal_error_iff_noisyRun :
    Stepping.Each (AbiCall.next .strict)
        (fun call w => (call.next .strict w).lastAbiError.status ≠ .internalError) noisyRun {} ↔
      Stepping.Each (AbiCall.next .strict) (fun call w => ¬ call.Overlong w) noisyRun {} :=
  no_internal_error_iff .strict noisyRun noisyRun_evaluated.1

/-- No 16-bit length announces it. -/
def overlongString : List UInt8 :=
  List.replicate 65536 0x41

theorem cString_overlongString : cString overlongString = overlongString := by
  refine List.takeWhile_eq_self_iff.2 ?_
  intro b hb
  rw [List.eq_of_mem_replicate hb]
  decide

def overlongCall : AbiCall :=
  .code (.modifyStringTable 8 0 (some overlongString))

theorem overlong_string_reported_internal :
    PermittedRun .strict (scriptRun ++ [overlongCall]) ∧
      (runAbi .strict (scriptRun ++ [overlongCall])).lastAbiError.status = .internalError := by
  have hfits : ¬ EntryFits (cString overlongString) := by
    rw [EntryFits, cString_overlongString, overlongString, List.length_replicate]
    decide
  have hlong : overlongCall.Overlong (runAbi .strict scriptRun) :=
    ⟨sampleScript, overlongString, scriptRun_live, rfl, by decide, hfits⟩
  have hok : ¬ (runAbi .strict scriptRun).lastAbiError.status = .internalError := by
    rw [scriptRun_evaluated.2.2]
    decide
  have hnext : (overlongCall.next .strict (runAbi .strict scriptRun)).lastAbiError.status =
      .internalError :=
    (overlongCall.internalError_next_iff _ (run_sound scriptRun_permitted) scriptRun_accepts hok).2
      hlong
  rw [runAbi_snoc]
  exact ⟨permittedRun_snoc.2 ⟨scriptRun_permitted, scriptRun_accepts⟩, hnext⟩

end PexReader
