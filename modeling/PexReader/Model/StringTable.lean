import PexReader.Model.Types

/-!
# StringTable — `PexStringTable.cpp` and `UTF8ToWString`

How the bytes of a string table entry become text.  A `std::string` is a list of bytes.  The
recogniser runs by index, as in the source, and reads the buffer through `readAt`, which fails past
its end; `fuel` bounds the loop, and each round moves the index forward.  No index that is formed
is more than two past the end of the buffer, far from the end of `size_t`, so indices are numbers.
-/

namespace PexReader

/-! ## Windows-1252 -/

def CP1252_TABLE : List UInt16 :=
  [0x20AC, 0x0081, 0x201A, 0x0192, 0x201E, 0x2026, 0x2020, 0x2021,
    0x02C6, 0x2030, 0x0160, 0x2039, 0x0152, 0x008D, 0x017D, 0x008F,
    0x0090, 0x2018, 0x2019, 0x201C, 0x201D, 0x2022, 0x2013, 0x2014,
    0x02DC, 0x2122, 0x0161, 0x203A, 0x0153, 0x009D, 0x017E, 0x0178]

/-- `0xC0 | (u >> 6)`, `0x80 | (u & 0x3F)`. -/
def twoByteForm (u : UInt16) : List UInt8 :=
  [((0xC0 : UInt16) ||| u >>> 6).toUInt8, ((0x80 : UInt16) ||| (u &&& 0x3F)).toUInt8]

/-- `0xE0 | (u >> 12)`, `0x80 | ((u >> 6) & 0x3F)`, `0x80 | (u & 0x3F)`. -/
def threeByteForm (u : UInt16) : List UInt8 :=
  [((0xE0 : UInt16) ||| u >>> 12).toUInt8, ((0x80 : UInt16) ||| (u >>> 6 &&& 0x3F)).toUInt8,
    ((0x80 : UInt16) ||| (u &&& 0x3F)).toUInt8]

/-- The bytes the loop body of `Windows1252ToUTF8` appends for `c`. -/
def windows1252Byte (c : UInt8) : List UInt8 :=
  if c < 0x80 then
    [c]
  else if c ≥ 0x80 ∧ c ≤ 0x9F then
    let unicode := CP1252_TABLE.getD (c - 0x80).toNat 0
    if unicode < 0x800 then twoByteForm unicode else threeByteForm unicode
  else
    twoByteForm c.toUInt16

/-- The conversion stops at the first NUL. -/
def windows1252ToUTF8 : List UInt8 → List UInt8
  | [] => []
  | c :: data =>
      if c = 0 then []
      else windows1252Byte c ++ windows1252ToUTF8 data

/-! ## The recogniser -/

/-- `Data[i]`, where `data` is all there is. -/
def readAt (data : List UInt8) (i : Nat) : Except Fault UInt8 :=
  match data[i]? with
  | some b => .ok b
  | none => .error .outOfBounds

/-- The tests `(Data[i] & 0xC0) != 0x80`, `(Data[i + 1] & 0xC0) != 0x80` and so on, `n` of them, in
short-circuit order. -/
def areContinuations (data : List UInt8) (i : Nat) : Nat → Except Fault Bool
  | 0 => .ok true
  | n + 1 => do
      let b ← readAt data i
      if b &&& 0xC0 ≠ 0x80 then
        return false
      else
        areContinuations data (i + 1) n

/-- The condition on which a lead byte at `i` that announces `n` more bytes goes on. -/
def isFollowedBy (data : List UInt8) (i n : Nat) : Except Fault Bool :=
  if i + n ≥ data.length then .ok false
  else areContinuations data (i + 1) n

/-- The loop of `IsLikelyUTF8` from index `i`. -/
def isLikelyUTF8From (data : List UInt8) : Nat → Nat → Except Fault Bool
  | 0, _ => .ok true
  | fuel + 1, i =>
      if i < data.length then do
        let c ← readAt data i
        -- the loop condition `Data[i] != 0`
        if c = 0 then
          return true
        else if c ≥ 0x80 then
          -- The index moves past the continuation bytes, and by one more with `++i`.
          if c &&& 0xE0 = 0xC0 then
            if ← isFollowedBy data i 1 then isLikelyUTF8From data fuel (i + 2) else return false
          else if c &&& 0xF0 = 0xE0 then
            if ← isFollowedBy data i 2 then isLikelyUTF8From data fuel (i + 3) else return false
          else if c &&& 0xF8 = 0xF0 then
            if ← isFollowedBy data i 3 then isLikelyUTF8From data fuel (i + 4) else return false
          else
            return false
        else
          isLikelyUTF8From data fuel (i + 1)
      else
        .ok true

def isLikelyUTF8 (data : List UInt8) : Except Fault Bool :=
  isLikelyUTF8From data (data.length + 1) 0

/-! ## `RawString` -/

inductive StrType
  | char | wchar | bzstring | bstring | wstring | wzstring | zstring | string | list
  deriving DecidableEq, Repr

structure RawString where
  data : List UInt8 := []
  encoding : String := "utf8"
  deriving DecidableEq, Repr

/-- The bytes the loop of the wide branches appends for `wc`. -/
def wideCharBytes (wc : UInt16) : List UInt8 :=
  if wc < 0x80 then
    [wc.toUInt8]
  else if wc < 0x800 then
    twoByteForm wc
  else
    threeByteForm wc

/-- The loop of the wide branches: little-endian units up to a zero unit; a last odd byte is not
looked at. -/
def wideBytes : List UInt8 → List UInt8
  | a :: b :: bytes =>
      let wc := a.toUInt16 ||| (b.toUInt16 <<< 8)
      if wc = 0 then [] else wideCharBytes wc ++ wideBytes bytes
  | _ => []

/-- The index of the first zero byte, 0 when there is none. -/
def firstZero (bytes : List UInt8) : Nat :=
  (bytes.findIdx? (· = 0)).getD 0

namespace RawString

/-- `RawString::Parse(Bytes, Size, Type)` on the `Size` bytes. -/
def parse (bytes : List UInt8) (type : StrType) : Except Fault RawString :=
  match type with
  -- one byte, without a look at `Size`
  | .char => do
      return { data := [← readAt bytes 0] }
  | .wchar | .wstring | .wzstring =>
      if bytes.length < 2 then .ok { data := [] }
      else .ok { data := wideBytes bytes }
  | _ => do
      -- 0 stands for "no zero byte" too, so a leading one does not cut.
      let actualSize := if firstZero bytes = 0 then bytes.length else firstZero bytes
      if ← isLikelyUTF8 (bytes.take actualSize) then
        return { data := bytes.take actualSize }
      else
        return { data := windows1252ToUTF8 (bytes.take actualSize) }

def fromBytes (bytes : List UInt8) : Except Fault RawString :=
  parse bytes .string

def toUTF8String (str : RawString) : List UInt8 :=
  str.data

end RawString

/-! ## `StringTable::ToUtf8` -/

/-- The index is checked against `count` alone. -/
def StringTable.toUtf8 (t : StringTable) (index : UInt16) : Except Fault (List UInt8) :=
  if index ≥ t.count then
    .error (.thrown (.outOfRange "Index out of range"))
  else
    match t.strings[index.toNat]? with
    | none => .error .outOfBounds
    | some data => do
        let rawStr ← RawString.fromBytes data
        return rawStr.toUTF8String

/-! ## Wide strings -/

/-- `MultiByteToWideChar(CP_UTF8, MB_ERR_INVALID_CHARS, ..)`: the count it returns when asked for
the size, and the count and the buffer afterwards when given a buffer of `n` units. -/
structure MultiByteToWideChar where
  query : List UInt8 → Int32
  convert : List UInt8 → (n : Nat) → Int32 × Vector UInt16 n

/-- Convert a UTF-8 `std::string` to a `std::wstring`. -/
def utf8ToWString (mb : MultiByteToWideChar) (str : List UInt8) :
    Except StdException (List UInt16) :=
  if str = [] then .ok []
  else
    let len := mb.query str
    -- 0 on ill-formed input, because of `MB_ERR_INVALID_CHARS`
    if len ≤ 0 then
      .error (.invalidArgument "The PEX string is not valid UTF-8.")
    else
      let (converted, result) := mb.convert str len.toNatClampNeg
      if converted ≠ len then
        .error (.invalidArgument "The PEX string could not be converted to UTF-16.")
      else
        .ok result.toList

/-! ## The string getters of `PexReader.cpp` -/

/-- `if (Buffer && BufferSize > Length) memcpy(Buffer, Str.c_str(), Length + 1)`, for the contents
of the caller's buffer. -/
def copyOut {α : Type} (terminator : α) (str : List α) (length : Int32) (buffer : Option (List α))
    (bufferSize : Int32) : Option (List α) :=
  buffer.map fun contents =>
    if bufferSize > length then str ++ terminator :: contents.drop (str.length + 1) else contents

/-- Returns the length and the caller's buffer afterwards; -1 on error. -/
def C_GetStringUtf8 (inst : Option PexData) (index : UInt16) (buffer : Option (List UInt8))
    (bufferSize : Int32) : Except Fault (Int32 × Option (List UInt8)) :=
  match inst with
  | none => .ok (-1, buffer)
  | some self =>
      if index ≥ self.stringTable.count then .ok (-1, buffer)
      else do
        let str ← self.stringTable.toUtf8 index
        let length := Int32.ofNat str.length
        return (length, copyOut 0 str length buffer bufferSize)

/-- Returns the length in units and the caller's buffer afterwards; -1 on error. -/
def C_GetStringWide (mb : MultiByteToWideChar) (inst : Option PexData) (index : UInt16)
    (buffer : Option (List UInt16)) (bufferSize : Int32) :
    Except Fault (Int32 × Option (List UInt16)) :=
  match inst with
  | none => .ok (-1, buffer)
  | some self =>
      if index ≥ self.stringTable.count then .ok (-1, buffer)
      else do
        let str ← self.stringTable.toUtf8 index
        let wide ← (utf8ToWString mb str).mapError Fault.thrown
        let length := Int32.ofNat wide.length
        return (length, copyOut 0 wide length buffer bufferSize)

end PexReader
