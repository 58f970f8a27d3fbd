import PexReader.Abi.Runs
import PexReader.Model.Process

/-!
# Borrowing — how long what the library hands out is good

A header getter returns a pointer into a buffer that belongs to the calling thread, and
`C_GetDebugFunctionInfo` allocates an array that belongs to the caller.  Neither is tied to the
instance that the values are from: it may be closed, destroyed or loaded anew.  The buffer keeps the
text until the thread calls the same getter again, and the array its values until it is freed.
-/

namespace PexReader

/-- Two states with the same instances are both consistent. -/
theorem AbiState.Sound.congr {w v : AbiState} (hw : w.Sound) (h : w.heap = v.heap) : v.Sound := by
  refine AbiState.sound_iff.2 fun handle d hlive => ?_
  rw [← h] at hlive
  exact AbiState.sound_iff.1 hw handle d hlive

variable {τ : Type}

/-! ## Processes -/

def Process.Sound (p : Process τ) : Prop :=
  ∀ thread, (p.view thread).Sound

theorem Process.sound_start : ({} : Process τ).Sound :=
  fun _ => AbiState.sound_start

section

variable [DecidableEq τ] {mb : MultiByteToWideChar}

theorem ThreadCall.next_sound (c : ThreadCall τ) (p : Process τ) (hp : p.Sound)
    (h : c.Permitted p) : (c.next mb p).Sound :=
  fun _ => (c.call.next_sound _ (hp c.thread) h.1).congr rfl

end

/-! ## Header strings -/

namespace HeaderString

/-- and what it gives its caller to read. -/
def call (handle : PexReaderHandle) : HeaderString → AbiM (List UInt16)
  | sourceFileName => Abi.C_GetHeaderSourceFileName handle
  | username => Abi.C_GetHeaderUsername handle
  | machineName => Abi.C_GetHeaderMachineName handle

variable {w : AbiState} {handle : PexReaderHandle}

end HeaderString

section

variable [DecidableEq τ] {mb : MultiByteToWideChar} {c : ThreadCall τ} {p : Process τ}
  {thread : τ} {string : HeaderString}

end

section

variable [DecidableEq τ] {mb : MultiByteToWideChar}

end

theorem copyLineNumbers_eq_some {lineNumbers lines : List UInt16} :
    DebugFunctionOut.copyLineNumbers lineNumbers = some lines ↔
      lineNumbers = lines ∧ lines ≠ [] := by
  unfold DebugFunctionOut.copyLineNumbers
  split_ifs with hempty
  · simp [hempty, eq_comm]
  · constructor
    · rintro ⟨⟩
      exact ⟨rfl, hempty⟩
    · rintro ⟨rfl, -⟩
      rfl

theorem lineNumbers_fill {out : DebugFunctionOut} {func : DebugFunction} {lines : List UInt16} :
    (out.reset.fill func).lineNumbers.join = some lines ↔
      (out.lineNumbers.isSome = true ∧ out.lineCount.isSome = true) ∧
        func.lineNumbers = lines ∧ lines ≠ [] := by
  rw [← copyLineNumbers_eq_some]
  unfold DebugFunctionOut.fill DebugFunctionOut.reset store
  cases out.lineNumbers <;> cases out.lineCount <;> simp

/-- The array that is handed out: the function has line numbers, and the caller has asked for them
and for their count. -/
theorem handedOut_eq_some {w : AbiState} (hw : w.Sound) {handle : PexReaderHandle}
    (h : w.Accepts handle) {index : UInt16} {out : DebugFunctionOut} {lines : List UInt16} :
    handedOut (Abi.C_GetDebugFunctionInfo handle index out w) = some lines ↔
      ∃ d func, w.heap handle = some d ∧ d.debugInfo.functions[index.toNat]? = some func ∧
        (out.lineNumbers.isSome = true ∧ out.lineCount.isSome = true) ∧
        func.lineNumbers = lines ∧ lines ≠ [] := by
  rcases AbiState.Accepts.cases hw h with rfl | ⟨hnull, d, hlive, hd⟩
  · have hcall : Abi.C_GetDebugFunctionInfo 0 index out w = _ := handleReturn_null _ _
    rw [hcall]
    simp [handedOut, hw.null]
  · have hcall : Abi.C_GetDebugFunctionInfo handle index out w = _ :=
      handleReturn_live hnull hlive _ (hd.exposed.debugFunctionInfo index out)
    rw [hcall, hlive]
    cases hfunc : d.debugInfo.functions[index.toNat]? with
    | none => simp [handedOut, Lookup.delivered, hfunc]
    | some func => simpa [handedOut, Lookup.delivered, hfunc] using lineNumbers_fill

namespace ThreadCall

/-- The call hands out an array with these line numbers at this address. -/
def HandsOut (address : Address) (lines : List UInt16) (c : ThreadCall τ) (p : Process τ) : Prop :=
  c.address = address ∧ ∃ handle index out d func,
    c.call = .code (.record handle (.getDebugFunctionInfo index out)) ∧
      p.inst handle = some d ∧ d.debugInfo.functions[index.toNat]? = some func ∧
      (out.lineNumbers.isSome = true ∧ out.lineCount.isSome = true) ∧
      func.lineNumbers = lines ∧ lines ≠ []

/-- The call frees the array at this address. -/
def Frees (address : Address) (c : ThreadCall τ) : Prop :=
  c.address = address ∧ ∃ lines, c.call = .freeBuffer (some lines)

end ThreadCall

section

variable {p : Process τ} {address : Address} {lines : List UInt16}

theorem Process.Sound.inst_eq (hp : p.Sound) (thread : τ) (handle : PexReaderHandle) :
    p.inst handle = (p.view thread).heap handle := by
  unfold Process.inst
  split_ifs with hnull
  · rw [hnull, (hp thread).null]
  · rfl

theorem ThreadCall.handsOut_iff {c : ThreadCall τ} (hp : p.Sound) (h : c.Permitted p)
    {handle : PexReaderHandle} {index : UInt16} {out : DebugFunctionOut}
    (hcall : c.call = .code (.record handle (.getDebugFunctionInfo index out))) :
    c.HandsOut address lines p ↔ c.address = address ∧
      handedOut (Abi.C_GetDebugFunctionInfo handle index out (p.view c.thread)) = some lines := by
  have haccepts : (p.view c.thread).Accepts handle := by
    have hpermitted := h.1
    rwa [hcall] at hpermitted
  rw [handedOut_eq_some (hp c.thread) haccepts, ← hp.inst_eq c.thread]
  simp [HandsOut, hcall]

variable [DecidableEq τ] {mb : MultiByteToWideChar}

/-- What a call does to one address. -/
theorem arrays_next (c : ThreadCall τ) (p : Process τ) (holds : Prop) (hp : p.Sound)
    (h : c.Permitted p) (hbefore : p.arrays address = some lines ↔ holds) :
    (c.next mb p).arrays address = some lines ↔
      c.HandsOut address lines p ∨ (holds ∧ ¬ c.Frees address) := by
  change c.arrays p address = some lines ↔ _
  rcases c with ⟨thread, call, place⟩
  cases call with
  | code call =>
      cases call with
      | record handle call =>
          cases call with
          | getDebugFunctionInfo index out =>
              rw [ThreadCall.handsOut_iff hp h rfl]
              have hfree : p.arrays place = none := h.2.2
              simp only [ThreadCall.arrays]
              cases hout : handedOut (Abi.C_GetDebugFunctionInfo handle index out
                (p.view thread)) with
              | none => simpa [ThreadCall.Frees] using hbefore
              | some handed =>
                  by_cases hsame : address = place
                  · -- No array has been there.
                    have hnot : ¬ holds := by simp [← hbefore, hsame, hfree]
                    simp [hsame, hnot]
                  · simpa [ThreadCall.Frees, Function.update_of_ne hsame, Ne.symm hsame] using
                      hbefore
          | _ => simpa [ThreadCall.arrays, ThreadCall.HandsOut, ThreadCall.Frees] using hbefore
      | _ => simpa [ThreadCall.arrays, ThreadCall.HandsOut, ThreadCall.Frees] using hbefore
  | freeBuffer buffer =>
      cases buffer with
      | none => simpa [ThreadCall.arrays, ThreadCall.HandsOut, ThreadCall.Frees] using hbefore
      | some freed =>
          by_cases hsame : address = place
          · simp [ThreadCall.arrays, ThreadCall.HandsOut, ThreadCall.Frees, hsame]
          · simpa [ThreadCall.arrays, ThreadCall.HandsOut, ThreadCall.Frees,
              Function.update_of_ne hsame, Ne.symm hsame] using hbefore
  | _ => simpa [ThreadCall.arrays, ThreadCall.HandsOut, ThreadCall.Frees] using hbefore

/-- An array is there exactly if it was handed out there and has not been freed since, with the line
numbers that the function had in the instance at the time: nothing else ends it or changes it. -/
theorem array_there_iff (mb : MultiByteToWideChar) (calls : List (ThreadCall τ))
    (h : PermittedCalls mb calls) (address : Address) (lines : List UInt16) :
    (runProcess mb calls).arrays address = some lines ↔
      Stepping.Since (ThreadCall.next mb) (ThreadCall.HandsOut address lines)
        (ThreadCall.Frees address) calls {} := by
  have hstart : ({} : Process τ).arrays address = some lines ↔ False := by simp
  have hcall : ∀ (c : ThreadCall τ) (p : Process τ) (holds : Prop), p.Sound → c.Permitted p →
      (p.arrays address = some lines ↔ holds) → ((c.next mb p).arrays address = some lines ↔
        c.HandsOut address lines p ∨ (holds ∧ ¬ c.Frees address)) := arrays_next
  exact Stepping.invariant_since (R := fun holds p => p.arrays address = some lines ↔ holds)
    ThreadCall.next_sound hstart hcall Process.sound_start h

end

/-- The line numbers of a function are asked for, and the instance is destroyed. -/
def lineNumbersRun : List (ThreadCall Unit) :=
  scriptRun.map (fun call => { thread := (), call := call }) ++
    [{ thread := (), address := 24, call := .code (.record 8 (.getDebugFunctionInfo 0
        { objectNameIndex := none, stateNameIndex := none, functionNameIndex := none,
          functionType := none, lineNumbers := some none, lineCount := some 0 })) },
      { thread := (), call := .destroyInstance 8 }]

theorem array_there_iff_lineNumbersRun :
    (runProcess .strict lineNumbersRun).arrays 24 = some [7] ↔
      Stepping.Since (ThreadCall.next .strict) (ThreadCall.HandsOut 24 [7])
        (ThreadCall.Frees 24) lineNumbersRun {} :=
  array_there_iff .strict lineNumbersRun (by decide +kernel) 24 [7]

end PexReader
