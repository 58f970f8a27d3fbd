import PexReader.Format.BigEndian
import PexReader.Format.Emission
import PexReader.Model.Types

/-!
# Writer — the output stream and the primitive writers of `Record.h`

`std::ofstream` with its default `exceptions()`: an operation that fails sets the error state and
throws nothing, and a stream in its error state takes nothing more.  The stream may keep written
bytes in its put area until a later operation sends them on, at the latest `close`, which flushes
the put area whatever the state of the stream.  What the destination makes of each operation, and
what an operation that fails leaves in the put area, is the `OutputDevice`.
-/

namespace PexReader

open BigEndian Emission

/-! ## Output streams -/

/-- What becomes of one `f.write`: its bytes are buffered, or everything pending is sent on, or the
operation fails after `kept` pending bytes.  Standard libraries differ in what is in the put area
then: `held` of the pending bytes, from the one at `first` on. -/
inductive WriteOutcome
  | buffered
  | flushed
  | failed (kept first held : Nat)
  deriving DecidableEq, Repr

/-- The destination of one save: whether the file can be opened, how the writes fare one by one,
and whether the flush of `close` fails, and after how many pending bytes. -/
structure OutputDevice where
  isOpen : Bool := true
  onWrite : Nat → WriteOutcome := fun _ => .buffered
  onClose : Option Nat := none

structure OFStream where
  stored : List UInt8 := []
  buffer : List UInt8 := []
  writes : Nat := 0
  failed : Bool := false
  deriving DecidableEq, Repr

namespace OFStream

/-- A failing operation on `pending` bytes: it stores less than all of them, and leaves `buffer` in
the put area. -/
def lose (file : OFStream) (pending : List UInt8) (kept : Nat) (buffer : List UInt8) : OFStream :=
  { file with
    stored := file.stored ++ pending.dropLast.take kept
    buffer
    failed := true }

/-- `f.write(bytes, n)`. -/
def write (device : OutputDevice) (file : OFStream) (bytes : List UInt8) : OFStream :=
  -- A stream in its error state takes nothing.
  if file.failed then file
  else
    let file' := { file with writes := file.writes + 1 }
    let pending := file.buffer ++ bytes
    match device.onWrite file.writes with
    | .buffered => { file' with buffer := pending }
    | .flushed => { file' with stored := file.stored ++ pending, buffer := [] }
    | .failed kept first held => file'.lose pending kept ((pending.drop first).take held)

/-- `file.close()`: the put area is flushed whether the stream has failed or not. -/
def close (device : OutputDevice) (file : OFStream) : OFStream :=
  match device.onClose with
  | none => { file with stored := file.stored ++ file.buffer, buffer := [] }
  | some kept => file.lose file.buffer kept []

end OFStream

/-! ## The writers' state -/

/-- A `Write*` member runs on the stream and on the object it is a member of. -/
structure SaveState where
  file : OFStream := {}
  self : PexData := {}

instance : Sink OutputDevice SaveState (List UInt8) where
  put device s bytes := { s with file := s.file.write device bytes }

abbrev WriteM : Type → Type := Writer OutputDevice StdException SaveState

def writeBytes (bytes : List UInt8) : WriteM Unit :=
  fun device => modify fun s => Sink.put device s bytes

/-! ## Primitive writers -/

def writeUInt16BE (value : UInt16) : WriteM Unit :=
  writeBytes (be16 value)

def writeUInt32BE (value : UInt32) : WriteM Unit :=
  writeBytes (be32 value)

def writeUInt64BE (value : UInt64) : WriteM Unit :=
  writeBytes (be64 value)

def writeUInt8 (value : UInt8) : WriteM Unit :=
  writeBytes [value]

def writeInt32BE (value : Int32) : WriteM Unit :=
  writeUInt32BE value.toUInt32

/-- The float is its bit pattern. -/
def writeFloatBE (value : UInt32) : WriteM Unit :=
  writeUInt32BE value

def checkedUInt16Length (length : Nat) (context : String) : Except StdException UInt16 :=
  if length > 65535 then
    .error (.lengthError (context ++ " exceeds the PEX 16-bit length limit."))
  else
    .ok (UInt16.ofNat length)

def writeWString (str : List UInt16) : WriteM Unit := do
  let length ← MonadExcept.ofExcept (checkedUInt16Length str.length "PEX string")
  writeUInt16BE length
  -- One `f.write` for each character, of its low byte.
  str.forM fun wc => writeBytes [wc.toUInt8]

end PexReader
