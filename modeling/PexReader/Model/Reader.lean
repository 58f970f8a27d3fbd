import Mathlib.Algebra.GroupWithZero.Nat
import PexReader.Format.BigEndian
import PexReader.Format.Metered
import PexReader.Model.Types

/-!
# Reader — the bounded binary reader of `Record.h`

`PexBinaryReader` wraps an input stream and keeps its own account of the file size, the position
and the number of elements announced so far, all in 64-bit arithmetic (`size_t` on x64).  The
unread part of the stream is a field of its own: nothing but an invariant (`Valid`) says that it
agrees with the account.

Every early size check is behind `SizeGuards`.  The library is built with them `enforced`; the
`lifted` reader differs from it in exactly these checks and is only there to be compared with it.
-/

namespace PexReader

open BigEndian Metered

/-! ## Input files -/

/-- A file as `std::ifstream` presents it: what it holds, whether it could be opened, and whether
the stream answers `tellg` and `seekg`. -/
structure InputFile where
  contents : List UInt8
  isOpen : Bool := true
  tells : Bool := true
  seeks : Bool := true
  deriving DecidableEq, Repr

/-- `tellg` at the end of the file. A stream offset is a signed 64-bit number; a negative one
reports a failure. -/
def InputFile.tellgEnd (file : InputFile) : Option UInt64 :=
  if file.tells ∧ file.contents.length < 2 ^ 63 then some (UInt64.ofNat file.contents.length)
  else none

/-! ## The reader object -/

structure PexBinaryReader where
  stream : List UInt8
  size : UInt64
  position : UInt64 := 0
  aggregateElements : UInt64 := 0
  failed : Bool := false
  deriving DecidableEq, Repr

/-- Whether the reader refuses sizes that the remaining input cannot hold before reading on. -/
inductive SizeGuards
  | enforced
  | lifted
  deriving DecidableEq, Repr

abbrev ReadM : Type → Type := Reader SizeGuards StdException PexBinaryReader

namespace PexBinaryReader

def maxFileSize : UInt64 := 64 * 1024 * 1024

def maxAggregateElements : UInt64 := 1000000

/-- `std::numeric_limits<std::streamsize>::max()`. -/
def maxStreamSize : UInt64 := 0x7FFFFFFFFFFFFFFF

/-- The constructor. -/
def ofFile (file : InputFile) : Except StdException PexBinaryReader :=
  -- `seekg(0, end)` and `tellg()`
  match file.tellgEnd with
  | none => .error (.runtimeError "Unable to determine the PEX file size.")
  | some size =>
      if size > maxFileSize then
        .error (.runtimeError "PEX file exceeds the configured size limit.")
      -- `seekg(0, beg)`
      else if !file.seeks then
        .error (.runtimeError "Unable to seek to the start of the PEX file.")
      else
        .ok { stream := file.contents, size := size }

def remaining (reader : PexBinaryReader) : UInt64 :=
  reader.size - reader.position

def fail {α : Type} (message : String) : ReadM α := do
  modify fun reader => { reader with failed := true }
  throw (.runtimeError message)

def read (byteCount : UInt64) (context : String) : ReadM (List UInt8) := do
  let reader ← get
  if byteCount > reader.remaining then
    fail (context ++ " exceeds the remaining PEX input.")
  else if byteCount = 0 then
    pure []
  else if byteCount > maxStreamSize then
    fail (context ++ " exceeds the stream read limit.")
  else
    -- `_stream.read` takes what there is, also when that is too little.
    let destination := reader.stream.take byteCount.toNat
    set { reader with stream := reader.stream.drop byteCount.toNat }
    -- `gcount()`; the end of the stream is the only way it can fall short here
    if destination.length ≠ byteCount.toNat then
      fail (context ++ " could not be read completely.")
    else
      modify fun reader => { reader with position := reader.position + byteCount }
      pure destination

def validateCount (count minimumBytesPerElement : UInt64) (context : String) : ReadM Unit := do
  let guards ← readThe SizeGuards
  let reader ← get
  if count > maxAggregateElements - reader.aggregateElements then
    fail (context ++ " exceeds the aggregate element limit.")
  -- The size guard; the aggregate limit above is not one.
  else if guards = .enforced ∧ minimumBytesPerElement ≠ 0 ∧
      count > reader.remaining / minimumBytesPerElement then
    fail (context ++ " exceeds the remaining PEX input.")
  else
    modify fun reader => { reader with aggregateElements := reader.aggregateElements + count }

def validateByteLength (byteCount : UInt64) (context : String) : ReadM Unit := do
  let guards ← readThe SizeGuards
  let reader ← get
  if guards = .enforced ∧ byteCount > reader.remaining then
    fail (context ++ " exceeds the remaining PEX input.")
  else
    pure ()

end PexBinaryReader

open PexBinaryReader

def readerPosition : ReadM UInt64 := do
  return (← get).position

/-! ## Primitive readers -/

def readUInt8 : ReadM UInt8 := do
  let bytes ← PexBinaryReader.read 1 "8-bit value"
  return bytes.getD 0 0

def readUInt16BE : ReadM UInt16 := do
  let bytes ← PexBinaryReader.read 2 "16-bit value"
  return ofBe16 (bytes.getD 0 0) (bytes.getD 1 0)

def readUInt32BE : ReadM UInt32 := do
  let bytes ← PexBinaryReader.read 4 "32-bit value"
  return ofBe32 (bytes.getD 0 0) (bytes.getD 1 0) (bytes.getD 2 0) (bytes.getD 3 0)

def readUInt64BE : ReadM UInt64 := do
  let bytes ← PexBinaryReader.read 8 "64-bit value"
  return ofBe64 (bytes.getD 0 0) (bytes.getD 1 0) (bytes.getD 2 0) (bytes.getD 3 0)
    (bytes.getD 4 0) (bytes.getD 5 0) (bytes.getD 6 0) (bytes.getD 7 0)

def readInt32BE : ReadM Int32 := do
  return (← readUInt32BE).toInt32

/-- The bit pattern of the float. -/
def readFloatBE : ReadM UInt32 :=
  readUInt32BE

/-- PEX strings use length-prefixed bytes rather than UTF-16 code units. -/
def readWString : ReadM (List UInt16) := do
  let length ← readUInt16BE
  if length = 0 then
    pure []
  else
    validateByteLength length.toUInt64 "PEX string"
    let buffer ← PexBinaryReader.read length.toUInt64 "PEX string"
    pure (buffer.map UInt8.toUInt16)

def readBytes : ReadM (List UInt8) := do
  let length ← readUInt16BE
  if length = 0 then
    pure []
  else
    validateByteLength length.toUInt64 "PEX byte string"
    PexBinaryReader.read length.toUInt64 "PEX byte string"

end PexReader
