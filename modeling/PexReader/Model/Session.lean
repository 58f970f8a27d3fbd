import PexReader.Model.AbiCalls

/-!
# Session — the library and the files that its paths name

`C_ReadPex` and `C_SavePex` take paths, and what a save has stored under a path is what a load finds
there.  How opening a file for reading fares, and what the device does to a save, may be different
at each call; between the calls other programs may replace files.
-/

namespace PexReader

structure Session (π : Type) where
  abi : AbiState := {}
  /-- The contents of the files that exist. -/
  files : π → Option (List UInt8) := fun _ => none

/-- How `std::ifstream` fares with a file that exists. -/
structure Access where
  isOpen : Bool := true
  tells : Bool := true
  seeks : Bool := true
  deriving DecidableEq, Repr

/-- The file as `std::ifstream` presents it; a file that does not exist is not opened. -/
def inputFile (contents : Option (List UInt8)) (access : Access) : InputFile :=
  match contents with
  | none => { contents := [], isOpen := false }
  | some contents =>
      { contents, isOpen := access.isOpen, tells := access.tells, seeks := access.seeks }

inductive SessionCall (π : Type)
  | readPex (handle : PexReaderHandle) (pexPath : Option π) (access : Access)
  | savePex (handle : PexReaderHandle) (pexPath : Option π) (device : OutputDevice)
  /-- A call of a function that takes no path. -/
  | other (call : AbiCall)
  /-- Another program writes a file, or removes it. -/
  | replaceFile (path : π) (contents : Option (List UInt8))

/-- The function takes no path. -/
def AbiCall.pathless : AbiCall → Bool
  | code (.readPex _ _) => false
  | code (.savePex _ _) => false
  | _ => true

namespace SessionCall

variable {π : Type}

/-- The call that the library sees. -/
def abiCall (c : SessionCall π) (s : Session π) : Option AbiCall :=
  match c with
  | readPex handle pexPath access =>
      some (.code (.readPex handle (pexPath.map fun path => inputFile (s.files path) access)))
  | savePex handle pexPath device =>
      some (.code (.savePex handle (pexPath.map fun _ => device)))
  | other call => some call
  | replaceFile _ _ => none

/-- What `C_SavePex` has left at its destination, if it was opened. -/
def savedBytes : EStateM.Result Undefined AbiState (Int32 × Option (List UInt8)) →
    Option (List UInt8)
  | .ok (_, destination) _ => destination
  | .error _ _ => none

variable [DecidableEq π]

/-- The files behind a call. -/
def files (c : SessionCall π) (s : Session π) : π → Option (List UInt8) :=
  match c with
  | savePex handle (some path) device =>
      match savedBytes (Abi.C_SavePex handle (some device) s.abi) with
      | some stored => Function.update s.files path (some stored)
      | none => s.files
  | replaceFile path contents => Function.update s.files path contents
  | _ => s.files

def next (mb : MultiByteToWideChar) (c : SessionCall π) (s : Session π) : Session π where
  abi := (c.abiCall s).elim s.abi fun call => call.next mb s.abi
  files := c.files s

def Permitted (c : SessionCall π) (s : Session π) : Prop :=
  match c with
  | readPex handle _ _ => s.abi.Accepts handle
  | savePex handle _ _ => s.abi.Accepts handle
  | other call => call.Permitted s.abi ∧ call.pathless = true
  | replaceFile _ _ => True

instance (c : SessionCall π) (s : Session π) : Decidable (c.Permitted s) := by
  unfold Permitted
  split <;> infer_instance

end SessionCall

/-! ## Runs -/

section

variable {π : Type} [DecidableEq π]

/-- The session behind a run of calls that starts without an instance and without a file. -/
def runSession (mb : MultiByteToWideChar) (calls : List (SessionCall π)) : Session π :=
  Stepping.run (SessionCall.next mb) calls {}

def PermittedSession (mb : MultiByteToWideChar) (calls : List (SessionCall π)) : Prop :=
  Stepping.Each (SessionCall.next mb) SessionCall.Permitted calls {}

instance (mb : MultiByteToWideChar) (calls : List (SessionCall π)) :
    Decidable (PermittedSession mb calls) :=
  inferInstanceAs (Decidable (Stepping.Each _ _ _ _))

end

end PexReader
