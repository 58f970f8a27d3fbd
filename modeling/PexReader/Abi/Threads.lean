import PexReader.Abi.Borrowing
import PexReader.Abi.Confinement

/-!
# Threads — each thread is alone with the instances it has created

The status is `thread_local` and every call works on one instance, so threads that leave each
other's instances alone do not notice each other: whatever the order in which their calls are made,
each of them gets the replies, and finds its instances and its status, as if no other thread had
made a call.  What is proved of runs of calls of one caller holds of each thread of a process.
-/

namespace PexReader

open Focus

/-! ## Ownership -/

/-- A process, and the thread that has created each live instance. -/
structure Owned (τ : Type) where
  process : Process τ := {}
  owner : PexReaderHandle → Option τ := fun _ => none

/-- `C_CreateInstance`. -/
def AbiCall.creates : AbiCall → Bool
  | createInstance _ => true
  | _ => false

variable {τ : Type}

namespace ThreadCall

/-- The owners behind a call. -/
def owners (c : ThreadCall τ) (o : Owned τ) : PexReaderHandle → Option τ :=
  match c.call with
  | .createInstance (some handle) => Function.update o.owner handle (some c.thread)
  | .destroyInstance handle => Function.update o.owner handle none
  | _ => o.owner

def nextOwned [DecidableEq τ] (mb : MultiByteToWideChar) (c : ThreadCall τ) (o : Owned τ) :
    Owned τ where
  process := c.next mb o.process
  owner := c.owners o

/-- The call is on null, on an instance of its thread, or on the one that it creates. -/
def OnOwn (c : ThreadCall τ) (o : Owned τ) : Prop :=
  c.call.creates = true ∨ c.call.target = 0 ∨ o.owner c.call.target = some c.thread

instance [DecidableEq τ] (c : ThreadCall τ) (o : Owned τ) : Decidable (c.OnOwn o) :=
  inferInstanceAs (Decidable (_ ∨ _ ∨ _))

end ThreadCall

namespace Owned

/-- What a thread owns: its instances and its error state. -/
def own [DecidableEq τ] (o : Owned τ) (thread : τ) : AbiState where
  heap handle := if o.owner handle = some thread then o.process.heap handle else none
  lastAbiError := (o.process.locals thread).lastAbiError

/-- The instances are consistent, and the live ones are those that have an owner. -/
structure Sound (o : Owned τ) : Prop where
  view : o.process.Sound
  owner : ∀ handle, (o.owner handle).isSome = (o.process.heap handle).isSome

theorem Sound.owner_eq_none {o : Owned τ} (ho : o.Sound) {handle : PexReaderHandle}
    (h : o.process.heap handle = none) : o.owner handle = none := by
  have hlive := ho.owner handle
  rw [h] at hlive
  exact Option.isNone_iff_eq_none.1 (Option.isSome_eq_false_iff.1 hlive)

theorem sound_start : ({} : Owned τ).Sound where
  view := Process.sound_start
  owner _ := rfl

variable [DecidableEq τ]

theorem own_heap_self {o : Owned τ} {thread : τ} {handle : PexReaderHandle}
    (h : o.owner handle = some thread) : (o.own thread).heap handle = o.process.heap handle :=
  if_pos h

theorem own_heap_other {o : Owned τ} {thread : τ} {handle : PexReaderHandle}
    (h : o.owner handle ≠ some thread) : (o.own thread).heap handle = none :=
  if_neg h

/-- The instances of a thread are those that have no other owner. -/
theorem Sound.own_heap {o : Owned τ} (ho : o.Sound) {thread : τ} {handle : PexReaderHandle}
    (h : ∀ owner, o.owner handle = some owner → owner = thread) :
    (o.own thread).heap handle = o.process.heap handle := by
  cases howner : o.owner handle with
  | none =>
      have hlive := ho.owner handle
      rw [howner] at hlive
      rw [own_heap_other (by simp [howner])]
      exact (Option.isNone_iff_eq_none.1 (Option.isSome_eq_false_iff.1 hlive.symm)).symm
  | some owner =>
      cases h owner howner
      exact own_heap_self howner

end Owned

/-- Two states with the same instances and the same error state. -/
theorem AbiState.eq_of_parts {w v : AbiState} (hheap : ∀ handle, w.heap handle = v.heap handle)
    (herror : w.lastAbiError = v.lastAbiError) : w = v := by
  cases w
  cases v
  cases herror
  cases funext hheap
  rfl

/-! ## Which instances are live -/

/-- A call makes an instance live if it creates it, and ends its life if it destroys it. -/
def AbiCall.livesBehind (call : AbiCall) (handle : PexReaderHandle) (live : Bool) : Bool :=
  match call with
  | createInstance (some created) => if handle = created then true else live
  | destroyInstance destroyed => if handle = destroyed then false else live
  | _ => live

theorem isSome_heap_next {mb : MultiByteToWideChar} {call : AbiCall} {w : AbiState} (hw : w.Sound)
    (h : call.Permitted w) (handle : PexReaderHandle) :
    ((call.next mb w).heap handle).isSome =
      call.livesBehind handle (w.heap handle).isSome := by
  have hleads := AbiCall.next_leads mb hw h
  generalize call.next mb w = w' at hleads
  cases call with
  | createInstance allocated =>
      cases allocated with
      | none =>
          rcases hleads with ⟨e, -, rfl⟩
          rfl
      | some created =>
          cases hleads
          by_cases hsame : handle = created
          · simp [AbiCall.livesBehind, hsame]
          · simp [AbiCall.livesBehind, hsame]
  | destroyInstance destroyed =>
      cases hleads
      by_cases hsame : handle = destroyed
      · simp [AbiCall.livesBehind, hsame]
      · simp [AbiCall.livesBehind, hsame]
  | close closed =>
      cases hleads
      by_cases hsame : handle = closed
      · simp [AbiCall.livesBehind, hsame]
      · simp [AbiCall.livesBehind, hsame]
  | code call =>
      rcases hleads with ⟨code, -, hends⟩
      cases hends with
      | refused e _ _ _ => rfl
      | missed _ => rfl
      | accepted d code d' e hlive heffect _ _ =>
          by_cases hsame : handle = call.handle
          · simp [AbiCall.livesBehind, hsame, hlive]
          · simp [AbiCall.livesBehind, hsame]
  | _ =>
      rcases hleads with ⟨e, -, rfl⟩
      rfl

/-- What a caller may do depends on the instance that the call works on. -/
theorem AbiCall.permitted_congr_target {call : AbiCall} {w v : AbiState}
    (h : w.heap call.target = v.heap call.target) : call.Permitted w ↔ call.Permitted v := by
  cases call with
  | createInstance allocated =>
      cases allocated with
      | none => exact Iff.rfl
      | some handle =>
          have hsame : w.heap handle = v.heap handle := h
          simp [Permitted, hsame]
  | destroyInstance handle =>
      have hsame : w.heap handle = v.heap handle := h
      simp [Permitted, AbiState.Accepts, hsame]
  | close handle =>
      have hsame : w.heap handle = v.heap handle := h
      simp [Permitted, AbiState.Accepts, hsame]
  | code call =>
      have hsame : w.heap call.handle = v.heap call.handle := h
      simp [Permitted, AbiState.Accepts, hsame]
  | value handle call =>
      have hsame : w.heap handle = v.heap handle := h
      simp [Permitted, AbiState.Accepts, hsame]
  | _ => exact Iff.rfl

/-! ## One call -/

section Step

variable {mb : MultiByteToWideChar} {c : ThreadCall τ} {o : Owned τ}

theorem ThreadCall.owners_apart {handle : PexReaderHandle} (h : handle ≠ c.call.target) :
    c.owners o handle = o.owner handle := by
  rcases c with ⟨thread, call, address⟩
  cases call with
  | createInstance allocated =>
      cases allocated with
      | none => rfl
      | some created => exact Function.update_of_ne h _ _
  | destroyInstance destroyed => exact Function.update_of_ne h _ _
  | _ => rfl

theorem ThreadCall.isSome_owners (handle : PexReaderHandle) :
    (c.owners o handle).isSome = c.call.livesBehind handle (o.owner handle).isSome := by
  rcases c with ⟨thread, call, address⟩
  cases call with
  | createInstance allocated =>
      cases allocated with
      | none => rfl
      | some created =>
          by_cases hsame : handle = created
          · simp [owners, AbiCall.livesBehind, hsame]
          · simp [owners, AbiCall.livesBehind, hsame]
  | destroyInstance destroyed =>
      by_cases hsame : handle = destroyed
      · simp [owners, AbiCall.livesBehind, hsame]
      · simp [owners, AbiCall.livesBehind, hsame]
  | _ => rfl

variable (ho : o.Sound) (h : c.Permitted o.process ∧ c.OnOwn o)

include ho h

/-- Only the thread that makes the call can own the instance that the call works on, -/
theorem ThreadCall.owner_target {owner : τ} (howner : o.owner c.call.target = some owner) :
    owner = c.thread := by
  rcases h with ⟨⟨hpermitted, -⟩, hown⟩
  have hothers : c.call.target = 0 ∨ o.owner c.call.target = some c.thread →
      owner = c.thread := by
    rintro (hnull | hself)
    · rw [hnull, ho.owner_eq_none (ho.view c.thread).null] at howner
      cases howner
    · rw [hself] at howner
      exact (Option.some.inj howner).symm
  rcases c with ⟨thread, call, address⟩
  cases call with
  | createInstance allocated =>
      cases allocated with
      | none => exact hothers (Or.inl rfl)
      | some created =>
          -- No instance has been there.
          have hfree := ho.owner_eq_none (Option.isNone_iff_eq_none.1 hpermitted.2)
          rw [show o.owner created = some owner from howner] at hfree
          cases hfree
  | _ => exact hothers (Or.resolve_left hown Bool.false_ne_true)

/-- before the call and after it. -/
theorem ThreadCall.owners_target {owner : τ} (howner : c.owners o c.call.target = some owner) :
    owner = c.thread := by
  have hbefore : o.owner c.call.target = some owner → owner = c.thread := owner_target ho h
  rcases c with ⟨thread, call, address⟩
  cases call with
  | createInstance allocated =>
      cases allocated with
      | none => exact hbefore howner
      | some created =>
          have hself : Function.update o.owner created (some thread) created = some owner := howner
          rw [Function.update_self] at hself
          exact (Option.some.inj hself).symm
  | destroyInstance destroyed =>
      have hnone : Function.update o.owner destroyed none destroyed = some owner := howner
      rw [Function.update_self] at hnone
      cases hnone
  | _ => exact hbefore howner

variable [DecidableEq τ]

theorem Owned.Sound.next : (c.nextOwned mb o).Sound where
  view := c.next_sound _ ho.view h.1
  owner handle :=
    calc
      (c.owners o handle).isSome
          = c.call.livesBehind handle (o.owner handle).isSome := c.isSome_owners handle
      _ = c.call.livesBehind handle (o.process.heap handle).isSome := by rw [ho.owner handle]
      _ = ((c.call.next mb (o.process.view c.thread)).heap handle).isSome :=
        (isSome_heap_next (ho.view c.thread) h.1.1 handle).symm

/-- What another thread owns is as it was. -/
theorem ThreadCall.own_apart {thread : τ} (hne : thread ≠ c.thread) :
    (c.nextOwned mb o).own thread = o.own thread := by
  refine AbiState.eq_of_parts (fun handle => ?_) ?_
  · by_cases htarget : handle = c.call.target
    · -- The call works on an instance of its own thread.
      rw [htarget, Owned.own_heap_other fun howner => hne (owners_target ho h howner),
        Owned.own_heap_other fun howner => hne (owner_target ho h howner)]
    · have howners := c.owners_apart (o := o) htarget
      have hheap := heap_next_apart mb c.call (o.process.view c.thread) htarget
      change (if c.owners o handle = some thread then
        (c.call.next mb (o.process.view c.thread)).heap handle else none) = _
      rw [howners, hheap]
      rfl
  · exact congrArg ThreadLocals.lastAbiError (Function.update_of_ne hne _ _)

/-- The call finds what it works on. -/
theorem ThreadCall.own_target :
    (o.process.view c.thread).heap c.call.target = (o.own c.thread).heap c.call.target :=
  (ho.own_heap fun _ howner => owner_target ho h howner).symm

/-- To its thread the call is a call of a caller who has nothing else. -/
theorem ThreadCall.own_self :
    c.call.Permitted (o.own c.thread) ∧
      (c.nextOwned mb o).own c.thread = c.call.next mb (o.own c.thread) := by
  have hparts := call_congr mb c.call (own_target ho h) rfl
  refine ⟨(AbiCall.permitted_congr_target (own_target ho h)).1 h.1.1, ?_⟩
  refine AbiState.eq_of_parts (fun handle => ?_) ?_
  · by_cases htarget : handle = c.call.target
    · rw [htarget, (ho.next h).own_heap fun _ howner => owners_target ho h howner]
      exact hparts.2.1
    · have howners := c.owners_apart (o := o) htarget
      have hheap := heap_next_apart mb c.call (o.process.view c.thread) htarget
      change (if c.owners o handle = some c.thread then
        (c.call.next mb (o.process.view c.thread)).heap handle else none) = _
      rw [howners, hheap, heap_next_apart mb c.call _ htarget]
      rfl
  · have hlocal : (c.nextOwned mb o).process.locals c.thread = _ := Function.update_self _ _ _
    exact (congrArg ThreadLocals.lastAbiError hlocal).trans hparts.2.2

end Step

/-! ## Runs -/

section Runs

variable [DecidableEq τ]

def runOwned (mb : MultiByteToWideChar) (calls : List (ThreadCall τ)) : Owned τ :=
  Stepping.run (ThreadCall.nextOwned mb) calls {}

/-- Calls that the threads may make, each of them on instances of its own. -/
def OwnCalls (mb : MultiByteToWideChar) (calls : List (ThreadCall τ)) : Prop :=
  Stepping.Each (ThreadCall.nextOwned mb) (fun c o => c.Permitted o.process ∧ c.OnOwn o) calls {}

instance (mb : MultiByteToWideChar) (calls : List (ThreadCall τ)) : Decidable (OwnCalls mb calls) :=
  inferInstanceAs (Decidable (Stepping.Each _ _ _ _))

/-- The call, if the thread makes it. -/
def ThreadCall.madeBy (thread : τ) (c : ThreadCall τ) : Option AbiCall :=
  if c.thread = thread then some c.call else none

/-- The calls of one thread. -/
def callsOf (thread : τ) (calls : List (ThreadCall τ)) : List AbiCall :=
  calls.filterMap (ThreadCall.madeBy thread)

/-- A call and the reply to it. -/
abbrev Heard : Type := Σ call : AbiCall, Except Undefined call.Reply

def AbiCall.heard (mb : MultiByteToWideChar) (call : AbiCall) (w : AbiState) : Heard :=
  ⟨call, reply (call.call mb w)⟩

/-- The replies that a caller gets in a run of calls. -/
def replies (mb : MultiByteToWideChar) (calls : List AbiCall) : List Heard :=
  Stepping.heard (AbiCall.next mb) (fun call w => some (call.heard mb w)) calls {}

/-- The replies that a thread gets in a run of calls of all threads. -/
def repliesTo (mb : MultiByteToWideChar) (thread : τ) (calls : List (ThreadCall τ)) : List Heard :=
  Stepping.heard (ThreadCall.next mb)
    (fun c p => if c.thread = thread then some (c.call.heard mb (p.view thread)) else none) calls {}

variable {mb : MultiByteToWideChar} {calls : List (ThreadCall τ)}

theorem ThreadCall.madeBy_eq_some {thread : τ} {c : ThreadCall τ} {call : AbiCall}
    (h : c.madeBy thread = some call) : c.thread = thread ∧ c.call = call := by
  unfold madeBy at h
  split_ifs at h with hthread
  exact ⟨hthread, Option.some.inj h⟩

theorem ThreadCall.madeBy_eq_none {thread : τ} {c : ThreadCall τ} (h : c.madeBy thread = none) :
    thread ≠ c.thread := by
  unfold madeBy at h
  split_ifs at h with hthread
  exact Ne.symm hthread

theorem nextOwned_sound (c : ThreadCall τ) (o : Owned τ) (ho : o.Sound)
    (h : c.Permitted o.process ∧ c.OnOwn o) : (c.nextOwned mb o).Sound :=
  ho.next h

/-- The owners are a record: no call looks at them. -/
theorem runOwned_process (h : OwnCalls mb calls) :
    (runOwned mb calls).process = runProcess mb calls ∧ PermittedCalls mb calls := by
  have hsame := Stepping.run_simulates nextOwned_sound Owned.process (ThreadCall.next mb)
    ThreadCall.Permitted some (fun _ _ _ _ hnone => nomatch hnone)
    (fun c _ o _ hallowed hcall => Option.some.inj hcall ▸ ⟨hallowed.1, rfl⟩)
    Owned.sound_start h
  rw [List.filterMap_some] at hsame
  exact ⟨hsame.2, hsame.1⟩

theorem heard_process {α : Type} (listen : ThreadCall τ → Process τ → Option α)
    (h : OwnCalls mb calls) :
    Stepping.heard (ThreadCall.nextOwned mb) (fun c o => listen c o.process) calls {} =
      Stepping.heard (ThreadCall.next mb) listen calls {} := by
  have hsame := Stepping.heard_simulates nextOwned_sound Owned.process (ThreadCall.next mb) some
    (fun c o => listen c o.process) listen (fun _ _ _ _ hnone => nomatch hnone)
    (fun c _ o _ _ hcall => Option.some.inj hcall ▸ ⟨rfl, rfl⟩) Owned.sound_start h
  rwa [List.filterMap_some] at hsame

/-- Where every thread keeps to the instances that it has created, each of them is alone: in
whatever order the calls of all threads are made, its own calls may be made without the others, it
gets the replies that it would get without them, and finds its instances and its status in the
process as it would find them. -/
theorem threads_are_alone (mb : MultiByteToWideChar) (calls : List (ThreadCall τ))
    (h : OwnCalls mb calls) (thread : τ) :
    PermittedRun mb (callsOf thread calls) ∧
      repliesTo mb thread calls = replies mb (callsOf thread calls) ∧
      (runOwned mb calls).process = runProcess mb calls ∧
      (runOwned mb calls).own thread = runAbi mb (callsOf thread calls) := by
  have hidle : ∀ (c : ThreadCall τ) (o : Owned τ), o.Sound → c.Permitted o.process ∧ c.OnOwn o →
      c.madeBy thread = none → (c.nextOwned mb o).own thread = o.own thread :=
    fun c o ho hallowed hnone => c.own_apart ho hallowed (ThreadCall.madeBy_eq_none hnone)
  have hself : ∀ (c : ThreadCall τ) (call : AbiCall) (o : Owned τ), o.Sound →
      c.Permitted o.process ∧ c.OnOwn o → c.madeBy thread = some call →
      call.Permitted (o.own thread) ∧
        (c.nextOwned mb o).own thread = call.next mb (o.own thread) := by
    intro c call o ho hallowed hcall
    rcases ThreadCall.madeBy_eq_some hcall with ⟨rfl, rfl⟩
    exact c.own_self ho hallowed
  have hrun := Stepping.run_simulates nextOwned_sound (fun o : Owned τ => o.own thread)
    (AbiCall.next mb) AbiCall.Permitted (ThreadCall.madeBy thread) hidle hself Owned.sound_start h
  refine ⟨hrun.1, ?_, (runOwned_process h).1, hrun.2⟩
  rw [repliesTo, ← heard_process _ h]
  refine Stepping.heard_simulates nextOwned_sound (fun o : Owned τ => o.own thread)
    (AbiCall.next mb) (ThreadCall.madeBy thread) _ (fun call w => some (call.heard mb w)) ?_ ?_
    Owned.sound_start h
  · intro c o ho hallowed hnone
    exact ⟨hidle c o ho hallowed hnone,
      if_neg (Ne.symm (ThreadCall.madeBy_eq_none hnone))⟩
  · intro c call o ho hallowed hcall
    refine ⟨(hself c call o ho hallowed hcall).2, ?_⟩
    rcases ThreadCall.madeBy_eq_some hcall with ⟨rfl, rfl⟩
    have hreply := (call_congr mb c.call (c.own_target ho hallowed) rfl).1
    simp only [AbiCall.heard, if_true, hreply]

end Runs

/-- One thread is refused a file while the other looks at its instance. -/
def twoThreads : List (ThreadCall Bool) :=
  [{ thread := true, call := .createInstance (some 8) },
    { thread := false, call := .createInstance (some 16) },
    { thread := true, call := .code (.readPex 8 none) },
    { thread := false, call := .value 16 .getHeaderMagic }]

theorem threads_are_alone_twoThreads :
    PermittedRun .strict (callsOf false twoThreads) ∧
      repliesTo .strict false twoThreads = replies .strict (callsOf false twoThreads) ∧
      (runOwned .strict twoThreads).process = runProcess .strict twoThreads ∧
      (runOwned .strict twoThreads).own false = runAbi .strict (callsOf false twoThreads) :=
  threads_are_alone .strict twoThreads (by decide) false

end PexReader
