import PexReader.Format.Stepping
import PexReader.Reading.Files

/-!
# Arithmetic — what the reader counts in 64 bits

The size checks of the reader rest on two differences of unsigned words, and `ReadObjects` takes two
more.  None of them wraps:

* `AccountExact` is what holds of the reader after any calls of `Read`, `ValidateCount` and
  `ValidateByteLength`, with any arguments and whatever the stream delivers: the position and the
  element count are exact sums, and stay within their limits;
* a `Load` that would throw where a difference of `ReadObjects` wraps is `Load` itself.
-/

namespace PexReader

open Metered PexBinaryReader

/-! ## Calls -/

/-- A call of a member of `PexBinaryReader` that moves it or checks a size. -/
inductive ReaderCall
  | read (byteCount : UInt64) (context : String)
  | validateCount (count minimumBytesPerElement : UInt64) (context : String)
  | validateByteLength (byteCount : UInt64) (context : String)
  deriving DecidableEq, Repr

namespace ReaderCall

/-- The call, without the bytes it delivers. -/
def perform : ReaderCall → ReadM Unit
  | .read byteCount context => do
      let _ ← PexBinaryReader.read byteCount context
      return ()
  | .validateCount count minimumBytesPerElement context =>
      PexBinaryReader.validateCount count minimumBytesPerElement context
  | .validateByteLength byteCount context => PexBinaryReader.validateByteLength byteCount context

/-- The reader behind the call, also when the call throws. -/
def next (call : ReaderCall) (reader : PexBinaryReader) : PexBinaryReader :=
  match call.perform .enforced reader with
  | .ok _ reader => reader
  | .error _ reader => reader

def succeeds (call : ReaderCall) (reader : PexBinaryReader) : Bool :=
  match call.perform .enforced reader with
  | .ok _ _ => true
  | .error _ _ => false

/-- The bytes that a successful call moves past. -/
def byteCount : ReaderCall → Nat
  | .read byteCount _ => byteCount.toNat
  | _ => 0

/-- The elements that a successful call charges. -/
def elementCount : ReaderCall → Nat
  | .validateCount count _ _ => count.toNat
  | _ => 0

end ReaderCall

/-! ## One call -/

namespace PexBinaryReader

/-- The account is within its limits. -/
structure Bounded (reader : PexBinaryReader) : Prop where
  position_le : reader.position ≤ reader.size
  elements_le : reader.aggregateElements ≤ maxAggregateElements

theorem bounded_of_zero {reader : PexBinaryReader} (hposition : reader.position = 0)
    (helements : reader.aggregateElements = 0) : reader.Bounded where
  position_le := by
    rw [hposition]
    exact UInt64.zero_le
  elements_le := by
    rw [helements]
    exact UInt64.zero_le

/-- A difference of words of which the second is not above the first does not wrap. -/
theorem toNat_sub_add {x limit : UInt64} (hx : x ≤ limit) :
    (limit - x).toNat + x.toNat = limit.toNat := by
  have hle := UInt64.le_iff_toNat_le.1 hx
  calc
    (limit - x).toNat + x.toNat
        = limit.toNat - x.toNat + x.toNat := by rw [UInt64.toNat_sub_of_le _ _ hx]
    _ = limit.toNat := Nat.sub_add_cancel hle

/-- What both accounts do: below the limit, the test against the difference lets exactly the words
through that can be added without passing the limit, let alone wrapping. -/
theorem toNat_add_of_guard {x n limit : UInt64} (hx : x ≤ limit) (hn : ¬ n > limit - x) :
    (x + n).toNat = x.toNat + n.toNat ∧ x + n ≤ limit := by
  have hsub := toNat_sub_add hx
  have hguard := UInt64.le_iff_toNat_le.1 (UInt64.not_lt.1 hn)
  have hlimit := limit.toNat_lt
  have hadd := toNat_add_of_lt (x := x) (n := n) (by omega)
  refine ⟨hadd, UInt64.le_iff_toNat_le.2 ?_⟩
  omega

end PexBinaryReader

namespace ReaderCall

/-- How a call ends: it throws and leaves the account alone, or it has counted exactly what it was
asked for, within the limits. -/
inductive Ends (call : ReaderCall) (reader : PexBinaryReader) :
    EStateM.Result StdException PexBinaryReader Unit → Prop
  | refused (e : StdException) (reader' : PexBinaryReader) : reader'.size = reader.size →
      reader'.position = reader.position →
      reader'.aggregateElements = reader.aggregateElements → Ends call reader (.error e reader')
  | counted (reader' : PexBinaryReader) : reader'.size = reader.size → reader'.Bounded →
      reader'.position.toNat = reader.position.toNat + call.byteCount →
      reader'.aggregateElements.toNat = reader.aggregateElements.toNat + call.elementCount →
      Ends call reader (.ok () reader')

/-- One call, from any account that is within its limits. -/
theorem perform_ends (call : ReaderCall) {reader : PexBinaryReader} (h : reader.Bounded) :
    call.Ends reader (call.perform .enforced reader) := by
  cases call with
  | read byteCount context =>
      rw [perform, bind_run, read_eq]
      split_ifs with hleft hzero hstream hshort
      · exact .refused _ _ rfl rfl rfl
      · -- Nothing is read, and nothing is counted.
        exact .counted _ rfl h (by simp [hzero, ReaderCall.byteCount]) rfl
      · exact .refused _ _ rfl rfl rfl
      · exact .refused _ _ rfl rfl rfl
      · have hadd := toNat_add_of_guard h.position_le hleft
        exact .counted _ rfl ⟨hadd.2, h.elements_le⟩ hadd.1 rfl
  | validateCount count minimumBytesPerElement context =>
      rw [perform, validateCount_eq, advance_count]
      split_ifs with hbudget hleft
      · exact .refused _ _ rfl rfl rfl
      · exact .refused _ _ rfl rfl rfl
      · have hadd := toNat_add_of_guard h.elements_le hbudget
        exact .counted _ rfl ⟨h.position_le, hadd.2⟩ rfl hadd.1
  | validateByteLength byteCount context =>
      rw [perform, validateByteLength_eq]
      split_ifs with hleft
      · exact .refused _ _ rfl rfl rfl
      · exact .counted _ rfl h rfl rfl

/-- The step of a run: what a call adds to the account if it succeeds, and nothing if it throws. -/
theorem next_spec (call : ReaderCall) {reader : PexBinaryReader} (h : reader.Bounded) :
    (call.next reader).Bounded ∧ (call.next reader).size = reader.size ∧
      (call.next reader).position.toNat =
        reader.position.toNat + (if call.succeeds reader then call.byteCount else 0) ∧
      (call.next reader).aggregateElements.toNat = reader.aggregateElements.toNat +
        (if call.succeeds reader then call.elementCount else 0) := by
  have hends := call.perform_ends h
  unfold next succeeds
  generalize call.perform .enforced reader = result at hends
  cases hends with
  | refused e reader' hsize hposition helements =>
      refine ⟨⟨?_, ?_⟩, hsize, by simp [hposition], by simp [helements]⟩
      · rw [hposition, hsize]
        exact h.position_le
      · rw [helements]
        exact h.elements_le
  | counted reader' hsize hbounded hposition helements =>
      exact ⟨hbounded, hsize, by simpa using hposition, by simpa using helements⟩

/-- What a run keeps: the limits, and the size of the file. -/
theorem next_keeps {size : UInt64} (call : ReaderCall) (reader : PexBinaryReader)
    (h : reader.Bounded ∧ reader.size = size) (_ : True) :
    (call.next reader).Bounded ∧ (call.next reader).size = size := by
  have hnext := call.next_spec h.1
  exact ⟨hnext.1, hnext.2.1.trans h.2⟩

/-- A call that throws leaves the account alone. -/
theorem refused_account (call : ReaderCall) {reader reader' : PexBinaryReader} {e : StdException}
    (h : reader.Bounded) (hrun : call.perform .enforced reader = .error e reader') :
    reader'.position = reader.position ∧
      reader'.aggregateElements = reader.aggregateElements := by
  have hends := call.perform_ends h
  rw [hrun] at hends
  cases hends with
  | refused _ _ _ hposition helements => exact ⟨hposition, helements⟩

end ReaderCall

/-! ## Runs -/

/-- The calls of a run that do not throw. -/
def successful (calls : List ReaderCall) (start : PexBinaryReader) : List ReaderCall :=
  Stepping.kept ReaderCall.next ReaderCall.succeeds calls start

/-- The account of a reader of `size` bytes behind a run of calls. -/
structure AccountExact (size : Nat) (calls : List ReaderCall) (start reader : PexBinaryReader) :
    Prop where
  size_eq : reader.size.toNat = size
  bounded : reader.Bounded
  /-- `Remaining()` does not wrap. -/
  remaining : reader.remaining.toNat + reader.position.toNat = size
  /-- Nor does what is left of the element budget. -/
  available : (maxAggregateElements - reader.aggregateElements).toNat +
    reader.aggregateElements.toNat = 1000000
  position : reader.position.toNat = ((successful calls start).map ReaderCall.byteCount).sum
  elements : reader.aggregateElements.toNat =
    ((successful calls start).map ReaderCall.elementCount).sum
  /-- A further call that throws moves nothing. -/
  refused : ∀ (call : ReaderCall) e reader', call.perform .enforced reader = .error e reader' →
    reader'.position = reader.position ∧ reader'.aggregateElements = reader.aggregateElements

theorem accountExact_run (start : PexBinaryReader) (calls : List ReaderCall)
    (hposition : start.position = 0) (helements : start.aggregateElements = 0) :
    AccountExact start.size.toNat calls start (Stepping.run ReaderCall.next calls start) := by
  have hstart : start.Bounded ∧ start.size = start.size :=
    ⟨bounded_of_zero hposition helements, rfl⟩
  have hall : Stepping.Each ReaderCall.next (fun _ _ => True) calls start :=
    Stepping.each_of_forall _ (fun _ _ => trivial) calls start
  rcases Stepping.invariant ReaderCall.next_keeps hstart hall with ⟨hbounded, hsize⟩
  -- Both counts start at zero, and each call adds its share.
  have hbytes := Stepping.run_counted ReaderCall.next_keeps
    (fun reader => reader.position.toNat) (fun call _ h _ => (call.next_spec h.1).2.2.1) hstart hall
  have hcharged := Stepping.run_counted ReaderCall.next_keeps
    (fun reader => reader.aggregateElements.toNat)
    (fun call _ h _ => (call.next_spec h.1).2.2.2) hstart hall
  simp only [hposition, helements, UInt64.toNat_zero, Nat.zero_add] at hbytes hcharged
  exact {
    size_eq := by rw [hsize]
    bounded := hbounded
    remaining := by
      rw [← hsize]
      exact toNat_sub_add hbounded.position_le
    available := toNat_sub_add hbounded.elements_le
    position := hbytes
    elements := hcharged
    refused := fun call _ _ hrun => call.refused_account hbounded hrun }

-- The two calls in the middle throw, and the last one goes on where the first one stopped.
example : (Stepping.run ReaderCall.next [.read 2 "", .validateCount 0xFFFFFFFFFFFFFFFF 1 "",
    .read 0xFFFFFFFFFFFFFFFF "", .read 1 ""] (start [1, 2, 3])).position = 3 := by
  decide

/-- The account that the constructor opens. -/
theorem account_ofFile {file : InputFile} {opened : PexBinaryReader}
    (h : PexBinaryReader.ofFile file = .ok opened) :
    opened.size.toNat = file.contents.length ∧ opened.position = 0 ∧
      opened.aggregateElements = 0 := by
  -- The constructor does not ask whether the file was opened.
  have hopen : PexBinaryReader.ofFile { file with isOpen := true } = .ok opened := h
  rcases (ofFile_eq_ok rfl).1 hopen with ⟨hfile, rfl⟩
  exact ⟨toNat_ofNat_length hfile.length_le, rfl, rfl⟩

/-! ## The differences of `ReadObjects` -/

/-- `a - b`, but an exception where that would wrap. -/
def checkedSub {α : Type} [Sub α] [LT α] [DecidableLT α] (wrapped : StdException) (a b : α) :
    ReadM α :=
  if a < b then throw wrapped else pure (a - b)

/-- `readObject` with its two differences checked. -/
def readObjectChecked (wrapped : StdException) : ReadM Object := do
  let nameIndex ← readUInt16BE
  let size ← readUInt32BE
  if size < 4 then
    throw (.runtimeError "Object size field is invalid (less than 4).")
  else
    let dataSize ← checkedSub wrapped size 4
    checkDataSize dataSize
    let objectDataStart ← readerPosition
    let data ← readObjectData
    let objectDataEnd ← readerPosition
    let consumed ← checkedSub wrapped objectDataEnd objectDataStart
    if consumed ≠ dataSize.toUInt64 then
      throw (.runtimeError "Object size does not match the parsed object data.")
    else
      return { nameIndex, size, data }

def readObjectsChecked (wrapped : StdException) : ReadM (UInt16 × List Object) := do
  let objectCount ← readUInt16BE
  let objects ← readElements objectCount 6 "Object count" (readObjectChecked wrapped)
  return (objectCount, objects)

def readSectionsChecked (wrapped : StdException) : ReadM PexData := do
  let header ← readHeader
  let stringTable ← readStringTable
  let debugInfo ← readDebugInfo
  let (userFlagCount, userFlags) ← readUserFlags
  let (objectCount, objects) ← readObjectsChecked wrapped
  return { header, stringTable, debugInfo, userFlagCount, userFlags, objectCount, objects }

/-- `Load` with the checked differences, up to its last statement. -/
def parseFileChecked (wrapped : StdException) (guards : SizeGuards) (file : InputFile) :
    Except StdException (PexData × PexBinaryReader) :=
  if !file.isOpen then
    .error (.runtimeError "Open File Error")
  else
    match PexBinaryReader.ofFile file with
    | .error exception => .error exception
    | .ok reader =>
        match readSectionsChecked wrapped guards reader with
        | .ok parsed reader => .ok (parsed, reader)
        | .error exception reader =>
            .error (.runtimeError ("PEX parse failed at byte " ++ toString reader.position.toNat ++
              ": " ++ exception.what))

theorem checkedSub_of_not_lt {α : Type} [Sub α] [LT α] [DecidableLT α] (wrapped : StdException)
    {a b : α} (h : ¬ a < b) : checkedSub wrapped a b = pure (a - b) :=
  if_neg h

section

variable (wrapped : StdException)

theorem agrees_readObject : Agrees (readObjectChecked wrapped) readObject := by
  refine .after parses_readUInt16BE.keeps fun nameIndex => .after parses_readUInt32BE.keeps ?_
  intro size
  dsimp only
  split_ifs with hsmall
  · exact .refl _
  · -- The size has been tested against 4.
    rw [checkedSub_of_not_lt wrapped hsmall, pure_bind]
    refine .after (admits_checkDataSize _).keeps fun _ => ?_
    refine .measured (fun _ _ => rfl) parses_readObjectData ?_
    intro s n c data hs hn
    -- The reader has moved forward.
    have hmoved : ¬ (Cursor.advance n c s).position < s.position :=
      UInt64.not_lt.2 (position_le_advance c hs hn)
    rw [checkedSub_of_not_lt wrapped hmoved, pure_bind]
    exact .refl _

theorem agrees_readElements {α : Type} {element element' : ReadM α}
    (h : Agrees element element') (hkeeps : Keeps element') (count : UInt16) (minimum : UInt64)
    (context : String) :
    Agrees (readElements count minimum context element)
      (readElements count minimum context element') :=
  .after (admits_validateCount _ _ _).keeps fun _ => h.readLoop hkeeps count.toNat

theorem agrees_readObjects : Agrees (readObjectsChecked wrapped) readObjects := by
  refine .after parses_readUInt16BE.keeps fun objectCount => ?_
  exact (agrees_readElements (agrees_readObject wrapped) parses_readObject.keeps _ _ _).before _

theorem agrees_readSections : Agrees (readSectionsChecked wrapped) readSections := by
  refine .after parses_readHeader.keeps fun _ => .after parses_readStringTable.keeps fun _ =>
    .after parses_readDebugInfo.keeps fun _ => .after parses_readUserFlags.keeps fun _ => ?_
  exact (agrees_readObjects wrapped).before _

/-- The state of the reader is valid wherever `Load` takes the differences, so that checking them
changes nothing: neither what is accepted, nor the error of a file that is not. -/
theorem parseFileChecked_eq (guards : SizeGuards) (file : InputFile) :
    parseFileChecked wrapped guards file = parseFile guards file := by
  unfold parseFileChecked parseFile
  split_ifs with hopen
  · rfl
  · cases hreader : PexBinaryReader.ofFile file with
    | error e => rfl
    | ok reader =>
        have hisOpen : file.isOpen = true := by simpa using hopen
        rcases (ofFile_eq_ok hisOpen).1 hreader with ⟨hfile, rfl⟩
        have hsections := agrees_readSections wrapped guards _ (start_valid hfile.length_le)
        cases hrun : readSections guards (start file.contents) with
        | ok parsed reader => simp [hsections, hrun]
        | error exception reader => simp [hsections, hrun]

end

/-! ## Both -/

/-- The reader's arithmetic never wraps, and a call that throws moves nothing: for every file that
can be opened within the size limit, whatever its stream delivers, and every sequence of calls with
any arguments, whether they throw or not.  And in a `Load` of any file, no difference that
`ReadObjects` takes wraps: no exception that is thrown in such a case is ever seen. -/
theorem reader_arithmetic_exact :
    (∀ (file : InputFile) (opened : PexBinaryReader), PexBinaryReader.ofFile file = .ok opened →
      ∀ (stream : List UInt8) (calls : List ReaderCall),
        AccountExact file.contents.length calls { opened with stream }
          (Stepping.run ReaderCall.next calls { opened with stream })) ∧
    ∀ (wrapped : StdException) (file : InputFile),
      parseFileChecked wrapped .enforced file = parseFile .enforced file := by
  constructor
  · intro file opened hopened stream calls
    rcases account_ofFile hopened with ⟨hsize, hposition, helements⟩
    rw [← hsize]
    exact accountExact_run { opened with stream } calls hposition helements
  · intro wrapped file
    exact parseFileChecked_eq wrapped .enforced file

end PexReader
