import PexReader.Abi.Threads
import PexReader.Model.Session

/-!
# Sharing — to a thread the other threads are other programs

Threads that leave each other's instances alone still share the files.  What a thread notices of the
others is that files are written, as other programs write them: the calls of all threads, in
whatever order, are to each thread a session of its own calls and of files that are replaced between
them.  So what is proved of sessions holds of each thread of a process.
-/

namespace PexReader

open Focus

/-- The file that a call writes, and what it is then. -/
def SessionCall.written {π : Type} (c : SessionCall π) (s : Session π) :
    Option (π × Option (List UInt8)) :=
  match c with
  | savePex handle (some path) device =>
      -- What has been there is truncated, also where the save then fails.
      (savedBytes (Abi.C_SavePex handle (some device) s.abi)).map fun stored => (path, some stored)
  | replaceFile path contents => some (path, contents)
  | _ => none

/-- The reply of the library to the call. -/
def SessionCall.reply {π : Type} (mb : MultiByteToWideChar) (c : SessionCall π) (s : Session π) :
    Option Heard :=
  (c.abiCall s).map fun call => call.heard mb s.abi

/-- A process whose threads work on files, and the owners of its instances. -/
structure SharedSession (τ π : Type) where
  owned : Owned τ := {}
  files : π → Option (List UInt8) := fun _ => none

namespace SharedSession

variable {τ π : Type}

/-- What a thread can reach. -/
def view (S : SharedSession τ π) (thread : τ) : Session π where
  abi := S.owned.process.view thread
  files := S.files

/-- The files, and what the thread owns. -/
def own [DecidableEq τ] (S : SharedSession τ π) (thread : τ) : Session π where
  abi := S.owned.own thread
  files := S.files

end SharedSession

/-- A call that a thread makes, or a file that another program replaces. -/
structure SharedCall (τ π : Type) where
  thread : τ
  call : SessionCall π
  address : Address := 0

namespace SharedCall

variable {τ π : Type}

/-- The call that the library sees. -/
def threadCall (c : SharedCall τ π) (S : SharedSession τ π) : Option (ThreadCall τ) :=
  (c.call.abiCall (S.view c.thread)).map fun call =>
    { thread := c.thread, call := call, address := c.address }

/-- The thread may make the call, and keeps to its own instances. -/
def Permitted (c : SharedCall τ π) (S : SharedSession τ π) : Prop :=
  c.call.Permitted (S.view c.thread) ∧
    ∀ call ∈ c.threadCall S, call.Permitted S.owned.process ∧ call.OnOwn S.owned

variable [DecidableEq τ] [DecidableEq π]

instance (c : SharedCall τ π) (S : SharedSession τ π) : Decidable (c.Permitted S) :=
  inferInstanceAs (Decidable (_ ∧ ∀ call ∈ c.threadCall S, _))

/-- The process and its files behind the call. -/
def next (mb : MultiByteToWideChar) (c : SharedCall τ π) (S : SharedSession τ π) :
    SharedSession τ π where
  owned := (c.threadCall S).elim S.owned fun call => call.nextOwned mb S.owned
  files := c.call.files (S.view c.thread)

/-- What a thread notices of the call: that it makes it, or that a file is written. -/
def asSeenBy (thread : τ) (c : SharedCall τ π) (S : SharedSession τ π) : Option (SessionCall π) :=
  if c.thread = thread then some c.call
  else (c.call.written (S.view c.thread)).map fun file => .replaceFile file.1 file.2

/-- The reply to the call, if the thread makes it. -/
def replyTo (mb : MultiByteToWideChar) (thread : τ) (c : SharedCall τ π)
    (S : SharedSession τ π) : Option Heard :=
  if c.thread = thread then c.call.reply mb (S.view thread) else none

end SharedCall

/-! ## One call -/

theorem files_eq {π : Type} [DecidableEq π] (c : SessionCall π) (s : Session π) :
    c.files s = (c.written s).elim s.files fun file => Function.update s.files file.1 file.2 := by
  cases c with
  | savePex handle pexPath device =>
      cases pexPath with
      | none => rfl
      | some path =>
          simp only [SessionCall.files, SessionCall.written]
          cases SessionCall.savedBytes (Abi.C_SavePex handle (some device) s.abi) <;> rfl
  | _ => rfl

theorem abiCall_own {τ π : Type} [DecidableEq τ] (call : SessionCall π) (S : SharedSession τ π)
    (thread : τ) : call.abiCall (S.own thread) = call.abiCall (S.view thread) := by
  cases call <;> rfl

theorem savedBytes_congr {r r' : EStateM.Result Undefined AbiState (Int32 × Option (List UInt8))}
    (h : Focus.reply r = Focus.reply r') :
    SessionCall.savedBytes r = SessionCall.savedBytes r' := by
  cases r with
  | ok a w =>
      cases r' with
      | ok a' w' =>
          cases h
          rfl
      | error e' w' => cases h
  | error e w =>
      cases r' with
      | ok a' w' => cases h
      | error e' w' => rfl

section Step

variable {τ π : Type} [DecidableEq τ] [DecidableEq π] {mb : MultiByteToWideChar}
  {c : SharedCall τ π} {S : SharedSession τ π}

theorem SharedCall.next_sound (c : SharedCall τ π) (S : SharedSession τ π) (hS : S.owned.Sound)
    (h : c.Permitted S) : (c.next mb S).owned.Sound := by
  cases hcall : c.threadCall S with
  | none => simpa [SharedCall.next, hcall] using hS
  | some call => simpa [SharedCall.next, hcall] using hS.next (h.2 call hcall)

variable (hS : S.owned.Sound) (h : c.Permitted S)

include hS h

/-- What another thread owns is as it was. -/
theorem SharedCall.own_apart (mb : MultiByteToWideChar) {thread : τ} (hne : thread ≠ c.thread) :
    (c.next mb S).owned.own thread = S.owned.own thread := by
  cases hcall : c.threadCall S with
  | none => simp [SharedCall.next, hcall]
  | some call =>
      rcases Option.map_eq_some_iff.1 hcall with ⟨abiCall, -, rfl⟩
      simpa [SharedCall.next, hcall] using ThreadCall.own_apart hS (h.2 _ hcall) hne

/-- The files behind a call are those behind it for a caller who has nothing else. -/
theorem SharedCall.files_own : c.call.files (S.view c.thread) = c.call.files (S.own c.thread) := by
  rcases c with ⟨thread, call, address⟩
  cases call with
  | savePex handle pexPath device =>
      cases pexPath with
      | none => rfl
      | some path =>
          have htarget := ThreadCall.own_target hS (h.2 _ rfl)
          -- A save converts no text: any conversion will do.
          have hsaved := savedBytes_congr
            (call_congr .strict (.code (.savePex handle (some device))) htarget rfl).1
          have hsame : SessionCall.savedBytes
              (Abi.C_SavePex handle (some device) (S.view thread).abi) =
                SessionCall.savedBytes
                  (Abi.C_SavePex handle (some device) (S.own thread).abi) := hsaved
          simp only [SessionCall.files, hsame]
          rfl
  | _ => rfl

/-- The thread finds what it owns as a caller who has nothing else would find it. -/
theorem SharedCall.own_call (mb : MultiByteToWideChar) {call : AbiCall}
    (hcall : c.call.abiCall (S.view c.thread) = some call) :
    call.Permitted (S.own c.thread).abi ∧
      (c.next mb S).owned.own c.thread = call.next mb (S.own c.thread).abi ∧
      call.heard mb (S.view c.thread).abi = call.heard mb (S.own c.thread).abi := by
  have hthread : c.threadCall S =
      some { thread := c.thread, call := call, address := c.address } := by
    simp [SharedCall.threadCall, hcall]
  have hallowed := h.2 _ hthread
  have hreply := (call_congr mb call (ThreadCall.own_target hS hallowed) rfl).1
  have hself : call.Permitted (S.own c.thread).abi ∧
      (ThreadCall.nextOwned mb { thread := c.thread, call := call, address := c.address }
        S.owned).own c.thread = call.next mb (S.own c.thread).abi :=
    ThreadCall.own_self hS hallowed
  refine ⟨hself.1, ?_, ?_⟩
  · simpa [SharedCall.next, hthread] using hself.2
  · exact congrArg (Sigma.mk call) hreply

theorem SharedCall.own_permitted : c.call.Permitted (S.own c.thread) := by
  have hcall : ∀ call, c.call.abiCall (S.view c.thread) = some call →
      call.Permitted (S.own c.thread).abi := fun _ hcall => (own_call hS h .strict hcall).1
  have hpath := h.1
  rcases c with ⟨thread, call, address⟩
  cases call with
  | readPex handle pexPath access => exact hcall _ rfl
  | savePex handle pexPath device => exact hcall _ rfl
  | other call => exact ⟨hcall call rfl, hpath.2⟩
  | replaceFile path contents => exact trivial

/-- To its thread the call is a call of a caller who has nothing else. -/
theorem SharedCall.own_self :
    (c.next mb S).own c.thread = c.call.next mb (S.own c.thread) ∧
      c.call.reply mb (S.view c.thread) = c.call.reply mb (S.own c.thread) := by
  have hfiles := files_own hS h
  have hsame := abiCall_own c.call S c.thread
  cases hcall : c.call.abiCall (S.view c.thread) with
  | none =>
      -- Another program replaces a file.
      rw [hcall] at hsame
      constructor
      · simp only [SessionCall.next, hsame, Option.elim_none, ← hfiles]
        simp [SharedCall.next, SharedCall.threadCall, hcall, SharedSession.own]
      · simp only [SessionCall.reply, hcall, hsame, Option.map_none]
  | some call =>
      rcases own_call hS h mb hcall with ⟨-, hnext, hheard⟩
      rw [hcall] at hsame
      constructor
      · simp only [SessionCall.next, hsame, Option.elim_some, ← hnext, ← hfiles]
        rfl
      · simp only [SessionCall.reply, hcall, hsame, Option.map_some, hheard]

/-- Of a call of another thread a thread notices what it writes. -/
theorem SharedCall.own_other (mb : MultiByteToWideChar) {thread : τ} (hne : thread ≠ c.thread) :
    (c.next mb S).own thread =
      (c.asSeenBy thread S).elim (S.own thread) fun call => call.next mb (S.own thread) := by
  have hown := own_apart hS h mb hne
  have hfiles : (c.next mb S).files =
      (c.call.written (S.view c.thread)).elim S.files fun file =>
        Function.update S.files file.1 file.2 :=
    files_eq c.call (S.view c.thread)
  have hseen : c.asSeenBy thread S = _ := if_neg (Ne.symm hne)
  rw [hseen]
  cases hwritten : c.call.written (S.view c.thread) with
  | none =>
      rw [hwritten] at hfiles
      exact congrArg₂ Session.mk hown hfiles
  | some file =>
      rw [hwritten] at hfiles
      exact congrArg₂ Session.mk hown hfiles

/-- Of a call that is not noticed nothing changes. -/
theorem SharedCall.unseen {thread : τ} (hseen : c.asSeenBy thread S = none) :
    (c.next mb S).own thread = S.own thread ∧ c.replyTo mb thread S = none := by
  by_cases hthread : c.thread = thread
  · simp [SharedCall.asSeenBy, hthread] at hseen
  · have hother := own_other hS h mb (Ne.symm hthread)
    rw [hseen] at hother
    exact ⟨hother, if_neg hthread⟩

/-- What is noticed of a call is a call of a caller who has nothing else. -/
theorem SharedCall.seen {thread : τ} {call : SessionCall π}
    (hseen : c.asSeenBy thread S = some call) :
    call.Permitted (S.own thread) ∧ (c.next mb S).own thread = call.next mb (S.own thread) ∧
      c.replyTo mb thread S = call.reply mb (S.own thread) := by
  by_cases hthread : c.thread = thread
  · have hcall : c.asSeenBy thread S = some c.call := if_pos hthread
    rw [hcall] at hseen
    cases hseen
    have hreply : c.replyTo mb thread S = c.call.reply mb (S.view thread) := if_pos hthread
    rw [hreply, ← hthread]
    exact ⟨own_permitted hS h, own_self hS h⟩
  · have hother := own_other hS h mb (Ne.symm hthread)
    rw [hseen] at hother
    have hwritten : c.asSeenBy thread S = _ := if_neg hthread
    rw [hseen] at hwritten
    rcases Option.map_eq_some_iff.1 hwritten.symm with ⟨file, -, rfl⟩
    exact ⟨trivial, hother, if_neg hthread⟩

end Step

/-! ## Runs -/

section Runs

variable {τ π : Type} [DecidableEq τ] [DecidableEq π]

/-- The process behind a run of calls of all threads. -/
def runShared (mb : MultiByteToWideChar) (calls : List (SharedCall τ π)) : SharedSession τ π :=
  Stepping.run (SharedCall.next mb) calls {}

def PermittedShared (mb : MultiByteToWideChar) (calls : List (SharedCall τ π)) : Prop :=
  Stepping.Each (SharedCall.next mb) SharedCall.Permitted calls {}

instance (mb : MultiByteToWideChar) (calls : List (SharedCall τ π)) :
    Decidable (PermittedShared mb calls) :=
  inferInstanceAs (Decidable (Stepping.Each _ _ _ _))

/-- What a thread notices of the run: its own calls, and the files that are written between them. -/
def sessionOf (mb : MultiByteToWideChar) (thread : τ) (calls : List (SharedCall τ π)) :
    List (SessionCall π) :=
  Stepping.heard (SharedCall.next mb) (SharedCall.asSeenBy thread) calls {}

/-- The replies that a thread gets in the run. -/
def repliesWithin (mb : MultiByteToWideChar) (thread : τ) (calls : List (SharedCall τ π)) :
    List Heard :=
  Stepping.heard (SharedCall.next mb) (SharedCall.replyTo mb thread) calls {}

/-- The replies that a caller gets in a session. -/
def sessionReplies (mb : MultiByteToWideChar) (calls : List (SessionCall π)) : List Heard :=
  Stepping.heard (SessionCall.next mb) (SessionCall.reply mb) calls {}

/-- To each thread the others are other programs: where every thread keeps to the instances that it
has created, what a thread notices of the calls of all threads, in whatever order they are made, is
a session that it may have, it gets the replies that it would get there, and it finds its instances,
its status and the files as it would find them. -/
theorem others_are_other_programs (mb : MultiByteToWideChar) (calls : List (SharedCall τ π))
    (h : PermittedShared mb calls) (thread : τ) :
    PermittedSession mb (sessionOf mb thread calls) ∧
      repliesWithin mb thread calls = sessionReplies mb (sessionOf mb thread calls) ∧
      (runShared mb calls).own thread = runSession mb (sessionOf mb thread calls) := by
  have hrun := Stepping.run_translates SharedCall.next_sound
    (fun S : SharedSession τ π => S.own thread) (SessionCall.next mb) SessionCall.Permitted
    (SharedCall.asSeenBy thread)
    (fun c S hS hallowed hseen => (c.unseen hS hallowed hseen).1)
    (fun c call S hS hallowed hseen =>
      have hcall := c.seen hS hallowed hseen
      ⟨hcall.1, hcall.2.1⟩)
    Owned.sound_start h
  have hreplies := Stepping.heard_translates SharedCall.next_sound
    (fun S : SharedSession τ π => S.own thread) (SessionCall.next mb)
    (SharedCall.asSeenBy thread) (SharedCall.replyTo mb thread) (SessionCall.reply mb)
    (fun c S hS hallowed hseen => c.unseen hS hallowed hseen)
    (fun c call S hS hallowed hseen => (c.seen hS hallowed hseen).2)
    Owned.sound_start h
  exact ⟨hrun.1, hreplies, hrun.2⟩

end Runs

/-- One thread changes a script and saves it over the file that the other then loads. -/
def sharedFile : List (SharedCall Bool Unit) :=
  [{ thread := true, call := .replaceFile () (some sampleScript.bytes) },
    { thread := true, call := .other (.createInstance (some 8)) },
    { thread := false, call := .other (.createInstance (some 16)) },
    { thread := true, call := .readPex 8 (some ()) {} },
    { thread := true, call := .other (.code (.modifyStringTable 8 0 (some [0x59]))) },
    { thread := true, call := .savePex 8 (some ()) {} },
    { thread := false, call := .readPex 16 (some ()) {} }]

theorem others_are_other_programs_sharedFile :
    PermittedSession .strict (sessionOf .strict false sharedFile) ∧
      repliesWithin .strict false sharedFile =
        sessionReplies .strict (sessionOf .strict false sharedFile) ∧
      (runShared .strict sharedFile).own false =
        runSession .strict (sessionOf .strict false sharedFile) :=
  others_are_other_programs .strict sharedFile (by decide +kernel) false

end PexReader
