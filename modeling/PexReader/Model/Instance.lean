import PexReader.Model.Load
import PexReader.Model.Save

/-!
# Instance — one `PexData` and the calls that change it

`PexData::ModifyStringTable`, and the implementation functions of `PexReader.cpp` that create, read,
edit, save and close an instance.  A handle is the instance it refers to, if any; a path is what the
file system has behind it, if it is not null; a null-terminated string is the bytes from its start.
-/

namespace PexReader

/-! ## `ModifyStringTable` -/

/-- `PexData::ModifyStringTable`. The assignment indexes `strings` without a check of its own. -/
def PexData.modifyStringTable (self : PexData) (index : UInt16) (utf8Str : List UInt8) :
    EStateM.Result Fault PexData Unit :=
  if index ≥ self.stringTable.count then
    .error (.thrown (.outOfRange ("StringTable index out of range: " ++ toString index.toNat))) self
  else
    match checkedUInt16Length utf8Str.length "String table entry" with
    | .error exception => .error (.thrown exception) self
    | .ok _ =>
        -- `memcpy` into a vector of the same size
        let newBytes := utf8Str
        if index.toNat < self.stringTable.strings.length then
          .ok () { self with
            stringTable := { self.stringTable with
              strings := self.stringTable.strings.set index.toNat newBytes } }
        else
          .error .outOfBounds self

/-! ## Instance lifecycle -/

/-- Allocation succeeds. -/
def C_CreateInstance : PexData := {}

/-- The instance is gone afterwards. -/
def C_DestroyInstance (_inst : Option PexData) : Option PexData :=
  none

/-- Load a PEX file into the instance. Returns 1 on success, 0 on failure. -/
def C_ReadPex (inst : Option PexData) (pexPath : Option InputFile) : Int32 × Option PexData :=
  match inst, pexPath with
  | some self, some file =>
      match self.load file with
      | .ok _ self => (1, some self)
      -- `catch (...)`
      | .error _ self => (0, some self)
  | inst, _ => (0, inst)

/-- `std::string(Utf8Str)` of a null-terminated string. -/
def cString (utf8Str : List UInt8) : List UInt8 :=
  utf8Str.takeWhile (· ≠ 0)

/-- Replace the string at the given index in the string table. Exceptions pass through. -/
def C_ModifyStringTable (inst : Option PexData) (index : UInt16) (utf8Str : Option (List UInt8)) :
    Except Fault Int32 × Option PexData :=
  match inst, utf8Str with
  | some self, some str =>
      match self.modifyStringTable index (cString str) with
      | .ok _ self => (.ok 1, some self)
      -- No try block here.
      | .error fault self => (.error fault, some self)
  | inst, _ => (.ok 0, inst)

/-- What `C_SavePex` leaves behind: its result, the instance, and the destination's contents, unless
nothing was opened. -/
structure SavePexOutcome where
  result : Int32
  inst : Option PexData
  destination : Option (List UInt8)

/-- Write the current PEX data to the given file path. Returns 1 on success, 0 on failure. -/
def C_SavePex (inst : Option PexData) (pexPath : Option OutputDevice) : SavePexOutcome :=
  match inst, pexPath with
  | some self, some device =>
      let outcome := self.save device
      match outcome.result with
      | .ok _ =>
          { result := 1, inst := some outcome.self, destination := outcome.destination }
      -- `catch (...)`
      | .error _ =>
          { result := 0, inst := some outcome.self, destination := outcome.destination }
  | inst, _ => { result := 0, inst, destination := none }

/-- Reset the file state inside the instance without freeing the instance itself. -/
def C_Close (inst : Option PexData) : Option PexData :=
  inst.map fun _ => {}

/-! ## Runs -/

/-- The calls that may change a live instance, with their arguments. -/
inductive ApiCall
  | readPex (pexPath : Option InputFile)
  | modifyStringTable (index : UInt16) (utf8Str : Option (List UInt8))
  | savePex (pexPath : Option OutputDevice)
  | close

/-- The instance after a call. -/
def ApiCall.run (call : ApiCall) (self : PexData) : PexData :=
  let inst := match call with
    | .readPex pexPath => (C_ReadPex (some self) pexPath).2
    | .modifyStringTable index utf8Str => (C_ModifyStringTable (some self) index utf8Str).2
    | .savePex pexPath => (C_SavePex (some self) pexPath).inst
    | .close => C_Close (some self)
  inst.getD self

/-- The instance after a run of calls. -/
def runCalls (calls : List ApiCall) (self : PexData) : PexData :=
  calls.foldl (fun self call => call.run self) self

/-- The states of an instance between `C_CreateInstance` and `C_DestroyInstance`. -/
def Reachable (d : PexData) : Prop :=
  ∃ calls, d = runCalls calls C_CreateInstance

/-- Whether the instance holds a loaded file after a call: a successful `C_ReadPex` loads one, a
`C_Close` drops it. -/
def ApiCall.holdsFile (call : ApiCall) (self : PexData) (before : Bool) : Bool :=
  match call with
  | .readPex pexPath => before || (C_ReadPex (some self) pexPath).1 == 1
  | .close => false
  | _ => before

/-- The instance after a run of calls on a new instance, and whether it holds a loaded file. -/
def trackCalls (calls : List ApiCall) : PexData × Bool :=
  calls.foldl (fun s call => (call.run s.1, call.holdsFile s.1 s.2)) (C_CreateInstance, false)

end PexReader
