import PexReader.Model.Replies

/-!
# Process — the library in a process with several threads

The instances and the line-number arrays belong to the process.  What the source declares
`thread_local` each thread has for itself: the error state, and the buffers of the three header
getters, which return a pointer into their buffer.

The calls of all threads are taken one after the other, in any order.  A call is an `AbiCall` with
the thread that makes it, and with the address of the line-number array that it hands out or takes
back.
-/

namespace PexReader

/-! ## Thread-local data -/

/-- The getters that return a pointer into a buffer of their own. -/
inductive HeaderString
  | sourceFileName | username | machineName
  deriving DecidableEq, Repr

def HeaderString.text (string : HeaderString) (header : RecordHeader) : List UInt16 :=
  match string with
  | sourceFileName => header.sourceFileName
  | username => header.username
  | machineName => header.machinename

def ValueCall.headerString : ValueCall → Option HeaderString
  | getHeaderSourceFileName => some .sourceFileName
  | getHeaderUsername => some .username
  | getHeaderMachineName => some .machineName
  | _ => none

/-- `static thread_local std::wstring Buf` of one getter. The pointers into it are good until it is
assigned again. -/
structure HeaderBuffer where
  text : List UInt16 := []
  assignments : Nat := 0
  deriving DecidableEq, Repr

structure ThreadLocals where
  lastAbiError : AbiErrorState := {}
  buf : HeaderString → HeaderBuffer := fun _ => {}

/-! ## Processes -/

/-- The address of a line-number array; 0 is null. -/
abbrev Address : Type := Int64

structure Process (τ : Type) where
  heap : PexReaderHandle → Option PexData := fun _ => none
  locals : τ → ThreadLocals := fun _ => {}
  /-- The line-number arrays that have been handed out and not taken back. -/
  arrays : Address → Option (List UInt16) := fun _ => none

namespace Process

variable {τ : Type}

/-- What a thread sees of the process: a caller of the exported functions sees no more. -/
def view (p : Process τ) (thread : τ) : AbiState where
  heap := p.heap
  lastAbiError := (p.locals thread).lastAbiError

/-- `GetInst`. -/
def inst (p : Process τ) (handle : PexReaderHandle) : Option PexData :=
  if handle = 0 then none else p.heap handle

end Process

/-! ## Pointers to header strings -/

/-- What a header getter returns: `L""`, or `Buf.c_str()` behind one of the assignments. -/
inductive HeaderPointer (τ : Type)
  | literal
  | intoBuffer (thread : τ) (string : HeaderString) (assignments : Nat)
  deriving DecidableEq

/-- The text behind the pointer, if it is still good. -/
def HeaderPointer.read {τ : Type} (p : Process τ) : HeaderPointer τ → Option (List UInt16)
  | literal => some []
  | intoBuffer thread string assignments =>
      if ((p.locals thread).buf string).assignments = assignments then
        some ((p.locals thread).buf string).text
      else none

/-- The common body of `C_GetHeaderSourceFileName`, `C_GetHeaderUsername` and
`C_GetHeaderMachineName`: what becomes of the buffer. -/
def headerBuffer (string : HeaderString) (inst : Option PexData) (buf : HeaderBuffer) :
    HeaderBuffer :=
  match inst with
  -- `return L"";`
  | none => buf
  | some self => { text := string.text self.header, assignments := buf.assignments + 1 }

/-- The array that `C_GetDebugFunctionInfo` has allocated, if it has. -/
def handedOut : EStateM.Result Undefined AbiState (Int32 × DebugFunctionOut) →
    Option (List UInt16)
  | .ok (code, out) _ => if code = 1 then out.lineNumbers.join else none
  | .error _ _ => none

structure ThreadCall (τ : Type) where
  thread : τ
  call : AbiCall
  /-- Where the array is that the call hands out or takes back. -/
  address : Address := 0

namespace ThreadCall

variable {τ : Type} [DecidableEq τ]

/-- The buffers of the thread behind the call. -/
def buffers (c : ThreadCall τ) (p : Process τ) : HeaderString → HeaderBuffer :=
  let buf := (p.locals c.thread).buf
  match c.call with
  | .value handle call =>
      match call.headerString with
      | some string =>
          Function.update buf string (headerBuffer string (p.inst handle) (buf string))
      | none => buf
  | _ => buf

/-- The arrays behind the call. -/
def arrays (c : ThreadCall τ) (p : Process τ) : Address → Option (List UInt16) :=
  match c.call with
  | .code (.record handle (.getDebugFunctionInfo index out)) =>
      match handedOut (Abi.C_GetDebugFunctionInfo handle index out (p.view c.thread)) with
      | some lines => Function.update p.arrays c.address (some lines)
      | none => p.arrays
  -- `FreeLineNumbers`; null is accepted and does nothing.
  | .freeBuffer (some _) => Function.update p.arrays c.address none
  | _ => p.arrays

/-- The process behind the call. -/
def next (mb : MultiByteToWideChar) (c : ThreadCall τ) (p : Process τ) : Process τ :=
  let w := c.call.next mb (p.view c.thread)
  { heap := w.heap
    locals := Function.update p.locals c.thread
      { lastAbiError := w.lastAbiError, buf := c.buffers p }
    arrays := c.arrays p }

/-- What a caller may do: as in `AbiCall.Permitted`, and an array is placed where none is, and taken
back where it is. -/
def Permitted (c : ThreadCall τ) (p : Process τ) : Prop :=
  c.call.Permitted (p.view c.thread) ∧
    match c.call with
    | .code (.record _ (.getDebugFunctionInfo _ _)) => c.address ≠ 0 ∧ p.arrays c.address = none
    | .freeBuffer (some lines) => p.arrays c.address = some lines
    | _ => True

instance (c : ThreadCall τ) (p : Process τ) : Decidable (c.Permitted p) := by
  unfold Permitted
  split <;> infer_instance

end ThreadCall

/-! ## Runs -/

section

variable {τ : Type} [DecidableEq τ]

/-- The process behind a run of calls that starts without an instance. -/
def runProcess (mb : MultiByteToWideChar) (calls : List (ThreadCall τ)) : Process τ :=
  Stepping.run (ThreadCall.next mb) calls {}

def PermittedCalls (mb : MultiByteToWideChar) (calls : List (ThreadCall τ)) : Prop :=
  Stepping.Each (ThreadCall.next mb) ThreadCall.Permitted calls {}

instance (mb : MultiByteToWideChar) (calls : List (ThreadCall τ)) :
    Decidable (PermittedCalls mb calls) :=
  inferInstanceAs (Decidable (Stepping.Each _ _ _ _))

end

end PexReader
