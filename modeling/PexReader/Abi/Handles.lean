import PexReader.Abi.Threads

/-!
# Handles — the instances of one thread do not notice each other either

The threads of `Threads` have a status each; the instances of one thread share it.  But every call
on an instance clears the status first, so what a caller learns from the call, and from the status
directly behind it, depends on the calls on that instance alone: work on several instances may be
interleaved at will.
-/

namespace PexReader

open Focus

/-- What a caller notices of a call: the reply, and the error state that can be asked for. -/
def AbiCall.noticed (mb : MultiByteToWideChar) (call : AbiCall) (w : AbiState) :
    Heard × AbiErrorState :=
  (call.heard mb w, (call.next mb w).lastAbiError)

/-- The calls on one instance. -/
def callsOn (handle : PexReaderHandle) (calls : List AbiCall) : List AbiCall :=
  calls.filter fun call => call.target = handle

/-- What is noticed of the calls on one instance in a run of calls. -/
def noticedOn (mb : MultiByteToWideChar) (handle : PexReaderHandle) (calls : List AbiCall) :
    List (Heard × AbiErrorState) :=
  Stepping.heard (AbiCall.next mb)
    (fun call w => if call.target = handle then some (call.noticed mb w) else none) calls {}

section Step

variable (mb : MultiByteToWideChar) {call : AbiCall} {w v : AbiState}

/-- `InvokeAbi` clears the status before anything else. -/
theorem call_clears (h : call.target ≠ 0) (w : AbiState) :
    call.call mb w = call.call mb { w with lastAbiError := {} } := by
  cases call with
  | createInstance allocated => rfl
  | destroyInstance handle => rfl
  | close handle => rfl
  | code call =>
      cases call with
      | record handle call => cases call <;> rfl
      | _ => rfl
  | value handle call => cases call <;> rfl
  | _ => exact absurd rfl h

theorem next_clears (h : call.target ≠ 0) (w : AbiState) :
    call.next mb w = call.next mb { w with lastAbiError := {} } := by
  rw [next_eq_behind, next_eq_behind, call_clears mb h w]

theorem noticed_clears (h : call.target ≠ 0) (w : AbiState) :
    call.noticed mb w = call.noticed mb { w with lastAbiError := {} } := by
  simp only [AbiCall.noticed, AbiCall.heard]
  rw [call_clears mb h w, next_clears mb h w]

/-- Of a call on an instance the same is noticed wherever the instance is the same. -/
theorem noticed_congr (h : call.target ≠ 0) (hheap : w.heap call.target = v.heap call.target) :
    (call.next mb w).heap call.target = (call.next mb v).heap call.target ∧
      call.noticed mb w = call.noticed mb v := by
  rcases call_congr mb call (w := { w with lastAbiError := {} })
    (v := { v with lastAbiError := {} }) hheap rfl with ⟨hreply, hinst, herror⟩
  rw [next_clears mb h w, next_clears mb h v, noticed_clears mb h w, noticed_clears mb h v]
  refine ⟨hinst, ?_⟩
  simp only [AbiCall.noticed, AbiCall.heard, hreply, herror]

end Step

/-- Each instance is alone: with the calls on all others left out, and those that only ask for the
status, the calls on it may still be made, the same is noticed of each of them, and the instance is
the same behind them. -/
theorem handles_are_alone (mb : MultiByteToWideChar) (calls : List AbiCall)
    (h : PermittedRun mb calls) (handle : PexReaderHandle) (hnull : handle ≠ 0) :
    PermittedRun mb (callsOn handle calls) ∧
      noticedOn mb handle calls = noticedOn mb handle (callsOn handle calls) ∧
      (runAbi mb calls).heap handle = (runAbi mb (callsOn handle calls)).heap handle := by
  have hidle : ∀ (call : AbiCall) (w : AbiState), w.Sound → call.Permitted w →
      decide (call.target = handle) = false → (call.next mb w).heap handle = w.heap handle := by
    intro call w _ _ hother
    exact heap_next_apart mb call w (Ne.symm (of_decide_eq_false hother))
  have hkeep : ∀ (call : AbiCall) (w v : AbiState), w.Sound → call.Permitted w →
      decide (call.target = handle) = true → w.heap handle = v.heap handle →
      call.Permitted v ∧ (call.next mb w).heap handle = (call.next mb v).heap handle ∧
        call.noticed mb w = call.noticed mb v := by
    intro call w v _ hpermitted htarget hheap
    have htarget := of_decide_eq_true htarget
    subst htarget
    exact ⟨(AbiCall.permitted_congr_target hheap).1 hpermitted, noticed_congr mb hnull hheap⟩
  have hkept := Stepping.kept_const (AbiCall.next mb)
    (fun call : AbiCall => decide (call.target = handle)) calls {}
  have hrun := Stepping.run_kept AbiCall.next_sound hidle
    (fun call w v hw hpermitted htarget hheap =>
      have hcall := hkeep call w v hw hpermitted htarget hheap
      ⟨hcall.1, hcall.2.1⟩)
    AbiState.sound_start h rfl
  rw [hkept] at hrun
  refine ⟨hrun.1, ?_, hrun.2.symm⟩
  rw [noticedOn, noticedOn, callsOn, ← hkept]
  refine Stepping.heard_kept AbiCall.next_sound (fun w => w.heap handle) ?_ ?_
    AbiState.sound_start h rfl
  · intro call w hw hpermitted hother
    exact ⟨hidle call w hw hpermitted hother, if_neg (of_decide_eq_false hother)⟩
  · intro call w v hw hpermitted htarget hheap
    rcases hkeep call w v hw hpermitted htarget hheap with ⟨-, hinst, hnoticed⟩
    exact ⟨hinst, by rw [hnoticed]⟩

/-- Work on two instances, one of which is refused a file. -/
def twoHandles : List AbiCall :=
  [.createInstance (some 8), .createInstance (some 16), .code (.readPex 16 none), .getLastStatus,
    .value 8 .getHeaderMagic, .destroyInstance 16]

theorem handles_are_alone_twoHandles :
    PermittedRun .strict (callsOn 8 twoHandles) ∧
      noticedOn .strict 8 twoHandles = noticedOn .strict 8 (callsOn 8 twoHandles) ∧
      (runAbi .strict twoHandles).heap 8 = (runAbi .strict (callsOn 8 twoHandles)).heap 8 :=
  handles_are_alone .strict twoHandles (by decide) 8 (by decide)

end PexReader
