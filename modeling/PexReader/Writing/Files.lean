import PexReader.Writing.Records

/-!
# Files — what a save leaves at the destination

First the stream on its own: after a row of writes it is either intact, with every byte stored or
still in the buffer, or it has failed and fewer bytes are stored than were written.  What `close`
adds to the latter depends on what the failed write has left in the put area; on a device that stops
on failure it adds nothing.  Then `Save`, which hands the stream the pieces of the script and closes
it.
-/

namespace PexReader

open Emission

/-! ## Devices -/

def WriteOutcome.fails : WriteOutcome → Bool
  | .failed _ _ _ => true
  | _ => false

/-- What a write that fails leaves in the put area. -/
def WriteOutcome.held : WriteOutcome → Nat
  | .failed _ _ held => held
  | _ => 0

namespace OutputDevice

/-- No operation fails. -/
structure Lossless (device : OutputDevice) : Prop where
  isOpen : device.isOpen = true
  onWrite : ∀ i, (device.onWrite i).fails = false
  onClose : device.onClose = none

theorem lossless_default : Lossless {} :=
  ⟨rfl, fun _ => rfl, rfl⟩

/-- When a write has failed, nothing more is stored: it has left nothing in the put area, or the
flush of `close` fails as well and at once, as on a disk that stays full. -/
def StopsOnFailure (device : OutputDevice) : Prop :=
  (∀ i, (device.onWrite i).held = 0) ∨ device.onClose = some 0

theorem stopsOnFailure_default : StopsOnFailure {} :=
  Or.inl fun _ => rfl

end OutputDevice

/-! ## Rows of writes -/

namespace OFStream

variable {device : OutputDevice}

/-- The row of writes that hands over `pieces`. -/
def writeAll (device : OutputDevice) (file : OFStream) (pieces : List (List UInt8)) : OFStream :=
  pieces.foldl (write device) file

@[simp] theorem writeAll_nil (file : OFStream) : writeAll device file [] = file := rfl

@[simp] theorem writeAll_cons (file : OFStream) (bytes : List UInt8)
    (pieces : List (List UInt8)) :
    writeAll device file (bytes :: pieces) = writeAll device (file.write device bytes) pieces :=
  rfl

theorem write_of_failed {file : OFStream} (h : file.failed = true) (bytes : List UInt8) :
    file.write device bytes = file := by
  simp [write, h]

theorem writeAll_of_failed {file : OFStream} (h : file.failed = true)
    (pieces : List (List UInt8)) : writeAll device file pieces = file := by
  induction pieces with
  | nil => rfl
  | cons bytes pieces ih =>
      rw [writeAll_cons, write_of_failed h]
      exact ih

/-- What a write that goes well does: it keeps every byte, and empties the buffer if it flushes. -/
theorem write_of_good {file : OFStream} (h : file.failed = false) (bytes : List UInt8)
    (hgood : (device.onWrite file.writes).fails = false) :
    (file.write device bytes).failed = false ∧
      (file.write device bytes).writes = file.writes + 1 ∧
      (file.write device bytes).stored ++ (file.write device bytes).buffer =
        file.stored ++ file.buffer ++ bytes ∧
      ((file.write device bytes).buffer = [] ↔
        device.onWrite file.writes = .flushed ∨ (file.buffer = [] ∧ bytes = [])) := by
  cases houtcome : device.onWrite file.writes with
  | buffered => simp [write, h, houtcome]
  | flushed => simp [write, h, houtcome]
  | failed kept first held => simp [houtcome, WriteOutcome.fails] at hgood

/-- A write that fails does not store all of what is pending. -/
theorem write_of_fails {file : OFStream} (h : file.failed = false) {bytes : List UInt8}
    (hbytes : bytes ≠ []) (hfails : (device.onWrite file.writes).fails = true) :
    (file.write device bytes).failed = true ∧
      (file.write device bytes).stored.length <
        (file.stored ++ file.buffer ++ bytes).length := by
  have hpos : 0 < bytes.length := List.length_pos_iff.2 hbytes
  cases houtcome : device.onWrite file.writes with
  | failed kept first held =>
      -- At least the last pending byte is not stored.
      simp only [write, h, houtcome, lose, Bool.false_eq_true, if_false, true_and,
        List.length_append, List.length_take, List.length_dropLast]
      omega
  | buffered => simp [houtcome, WriteOutcome.fails] at hfails
  | flushed => simp [houtcome, WriteOutcome.fails] at hfails

/-- What is known of the writes from the first one on is known of those behind it. -/
theorem onWrite_behind {file : OFStream} {bytes : List UInt8}
    (hwrites : (file.write device bytes).writes = file.writes + 1) (i : Nat) :
    device.onWrite ((file.write device bytes).writes + i) =
      device.onWrite (file.writes + (i + 1)) := by
  rw [hwrites, Nat.add_assoc, Nat.add_comm 1 i]

/-- A row of writes that all go well. -/
theorem writeAll_of_good (pieces : List (List UInt8)) :
    ∀ file : OFStream, file.failed = false →
      (∀ i < pieces.length, (device.onWrite (file.writes + i)).fails = false) →
      (writeAll device file pieces).failed = false ∧
        (writeAll device file pieces).stored ++ (writeAll device file pieces).buffer =
          file.stored ++ file.buffer ++ pieces.flatten := by
  induction pieces with
  | nil =>
      intro file h _
      simp [h]
  | cons bytes pieces ih =>
      intro file h hgood
      -- Stored and buffered bytes together are the invariant: a flush only moves them.
      rcases write_of_good h bytes (hgood 0 (by simp)) with ⟨hfailed, hwrites, hbytes, -⟩
      have hrest := ih (file.write device bytes) hfailed (by
        intro i hi
        rw [onWrite_behind hwrites]
        exact hgood (i + 1) (by simpa using hi))
      rw [hbytes] at hrest
      simpa using hrest

/-- A row of writes one of which fails. -/
theorem writeAll_of_fails (pieces : List (List UInt8)) (hpieces : ∀ bytes ∈ pieces, bytes ≠ []) :
    ∀ file : OFStream, file.failed = false →
      (∃ i < pieces.length, (device.onWrite (file.writes + i)).fails = true) →
      (writeAll device file pieces).failed = true ∧
        (writeAll device file pieces).stored.length <
          (file.stored ++ file.buffer ++ pieces.flatten).length := by
  induction pieces with
  | nil =>
      rintro file h ⟨i, hi, -⟩
      simp at hi
  | cons bytes pieces ih =>
      rintro file h ⟨i, hi, hfails⟩
      have hbytes : bytes ≠ [] := hpieces bytes (by simp)
      -- Either this write is the one that fails, or one behind it.
      cases hfirst : (device.onWrite file.writes).fails with
      | true =>
          rcases write_of_fails h hbytes hfirst with ⟨hfailed, hlost⟩
          rw [writeAll_cons, writeAll_of_failed hfailed]
          refine ⟨hfailed, Nat.lt_of_lt_of_le hlost ?_⟩
          simp
      | false =>
          rcases write_of_good h bytes hfirst with ⟨hfailed, hwrites, hkept, -⟩
          cases i with
          | zero =>
              rw [Nat.add_zero, hfirst] at hfails
              cases hfails
          | succ i =>
              have hrest := ih (fun b hb => hpieces b (by simp [hb])) (file.write device bytes)
                hfailed ⟨i, by simpa using hi, by rwa [onWrite_behind hwrites]⟩
              rw [hkept] at hrest
              simpa using hrest

/-- After a row of writes that all go well the buffer is empty exactly when the last one flushed. -/
theorem buffer_writeAll (pieces : List (List UInt8)) (bytes : List UInt8) (hbytes : bytes ≠ []) :
    ∀ file : OFStream, file.failed = false →
      (∀ i < pieces.length + 1, (device.onWrite (file.writes + i)).fails = false) →
      ((writeAll device file (pieces ++ [bytes])).buffer = [] ↔
        device.onWrite (file.writes + pieces.length) = .flushed) := by
  induction pieces with
  | nil =>
      intro file h hgood
      have hlast := (write_of_good h bytes (hgood 0 (by simp))).2.2.2
      simpa [hbytes] using hlast
  | cons first pieces ih =>
      intro file h hgood
      rcases write_of_good h first (hgood 0 (by simp)) with ⟨hfailed, hwrites, -, -⟩
      have hrest := ih (file.write device first) hfailed (by
        intro i hi
        rw [onWrite_behind hwrites]
        exact hgood (i + 1) (by simpa using hi))
      rw [onWrite_behind hwrites] at hrest
      simpa using hrest

/-! ## Streams that have failed -/

/-- `close` finds nothing to flush, or the flush stores nothing. -/
def AtRest (device : OutputDevice) (file : OFStream) : Prop :=
  file.buffer = [] ∨ device.onClose = some 0

theorem AtRest.stored_close {file : OFStream} (h : file.AtRest device) :
    (file.close device).stored = file.stored := by
  rcases h with hbuffer | honClose
  · cases honClose : device.onClose with
    | none => simp [close, honClose, hbuffer]
    | some kept => simp [close, honClose, lose, hbuffer]
  · simp [close, honClose, lose]

/-- On a device that stops on failure a stream that a write has made fail is at rest. -/
theorem atRest_write (hstops : device.StopsOnFailure) {file : OFStream}
    (h : file.failed = true → file.AtRest device) (bytes : List UInt8)
    (hfailed : (file.write device bytes).failed = true) :
    (file.write device bytes).AtRest device := by
  cases hbefore : file.failed with
  | true =>
      rw [write_of_failed hbefore]
      exact h hbefore
  | false =>
      rcases hstops with hheld | honClose
      · have hnone := hheld file.writes
        cases houtcome : device.onWrite file.writes with
        | buffered => simp [write, hbefore, houtcome] at hfailed
        | flushed => simp [write, hbefore, houtcome] at hfailed
        | failed kept first held =>
            rw [houtcome] at hnone
            have hzero : held = 0 := hnone
            left
            simp [write, hbefore, houtcome, lose, hzero]
      · exact Or.inr honClose

theorem atRest_writeAll (hstops : device.StopsOnFailure) (pieces : List (List UInt8)) :
    ∀ file : OFStream, (file.failed = true → file.AtRest device) →
      (writeAll device file pieces).failed = true →
        (writeAll device file pieces).AtRest device := by
  induction pieces with
  | nil => exact fun file h => h
  | cons bytes pieces ih => exact fun file h => ih _ (atRest_write hstops h bytes)

/-- What a row of writes has made of a new stream is what is stored in the end, if it has failed. -/
theorem stored_close_of_failed (hstops : device.StopsOnFailure) {pieces : List (List UInt8)}
    (hfailed : (writeAll device {} pieces).failed = true) :
    ((writeAll device {} pieces).close device).stored = (writeAll device {} pieces).stored :=
  (atRest_writeAll hstops pieces {} (fun h => nomatch h) hfailed).stored_close

end OFStream

/-! ## No piece is empty -/

/-- Every `f.write` has something to write. -/
def NoneEmpty (ps : Pieces) : Prop :=
  ∀ bytes ∈ ps, bytes ≠ []

@[simp] theorem noneEmpty_nil : NoneEmpty [] := by
  simp [NoneEmpty]

@[simp] theorem noneEmpty_cons {bytes : List UInt8} {ps : Pieces} :
    NoneEmpty (bytes :: ps) ↔ bytes ≠ [] ∧ NoneEmpty ps := by
  simp [NoneEmpty]

@[simp] theorem noneEmpty_append {ps qs : Pieces} :
    NoneEmpty (ps ++ qs) ↔ NoneEmpty ps ∧ NoneEmpty qs := by
  simp [NoneEmpty, or_imp, forall_and]

theorem noneEmpty_flatMap {α : Type} {f : α → Pieces} {l : List α}
    (hf : ∀ x ∈ l, NoneEmpty (f x)) : NoneEmpty (l.flatMap f) := by
  intro bytes hbytes
  rcases List.mem_flatMap.1 hbytes with ⟨x, hx, hmem⟩
  exact hf x hx bytes hmem

theorem noneEmpty_optional {c : Prop} [Decidable c] {ps : Pieces} (h : NoneEmpty ps) :
    NoneEmpty (if c then ps else []) := by
  split_ifs
  · exact h
  · exact noneEmpty_nil

theorem noneEmpty_wstringPieces (str : List UInt16) : NoneEmpty (wstringPieces str) := by
  simp [wstringPieces, NoneEmpty]

theorem noneEmpty_header (h : RecordHeader) : NoneEmpty h.pieces := by
  simp [RecordHeader.pieces, noneEmpty_wstringPieces]

theorem noneEmpty_entryPieces (entry : List UInt8) : NoneEmpty (entryPieces entry) := by
  by_cases hempty : entry = []
  · simp [entryPieces, hempty]
  · simp [entryPieces, hempty]

theorem noneEmpty_debugFunction (f : DebugFunction) : NoneEmpty f.pieces := by
  simp [DebugFunction.pieces, NoneEmpty]

theorem noneEmpty_debugInfo (d : DebugInfo) : NoneEmpty d.pieces := by
  have hfunctions : NoneEmpty (d.functions.flatMap DebugFunction.pieces) :=
    noneEmpty_flatMap fun f _ => noneEmpty_debugFunction f
  unfold DebugInfo.pieces
  split_ifs
  · simp
  · simp [hfunctions]

theorem noneEmpty_variableData (d : VariableData) : NoneEmpty d.pieces := by
  have hdata : d.data.bytes ≠ [] := by
    cases d.data <;> simp [VariantValue.bytes]
  unfold VariableData.pieces
  split_ifs
  · simp
  · simp [hdata]

theorem noneEmpty_instruction (i : Instruction) : NoneEmpty i.pieces := by
  have harguments : NoneEmpty (i.arguments.flatMap VariableData.pieces) :=
    noneEmpty_flatMap fun a _ => noneEmpty_variableData a
  simp [Instruction.pieces, harguments]

theorem noneEmpty_variableTypes (vs : List VariableType) :
    NoneEmpty (vs.flatMap VariableType.pieces) :=
  noneEmpty_flatMap fun v _ => by simp [VariableType.pieces]

theorem noneEmpty_function (f : Function) : NoneEmpty f.pieces := by
  have hinstructions : NoneEmpty (f.instructions.flatMap Instruction.pieces) :=
    noneEmpty_flatMap fun i _ => noneEmpty_instruction i
  simp [Function.pieces, noneEmpty_variableTypes, hinstructions]

theorem noneEmpty_property (p : Property) : NoneEmpty p.pieces := by
  simp only [Property.pieces, noneEmpty_append]
  refine ⟨⟨⟨?_, noneEmpty_optional ?_⟩, noneEmpty_optional (noneEmpty_function _)⟩,
    noneEmpty_optional (noneEmpty_function _)⟩
  · simp
  · simp

theorem noneEmpty_state (s : State) : NoneEmpty s.pieces := by
  have hfunctions : NoneEmpty (s.functions.flatMap NamedFunction.pieces) :=
    noneEmpty_flatMap fun f _ => by
      simp [NamedFunction.pieces, noneEmpty_function]
  simp [State.pieces, hfunctions]

theorem noneEmpty_object (o : Object) : NoneEmpty o.pieces := by
  have hvars : NoneEmpty (o.data.vars.flatMap Variable.pieces) :=
    noneEmpty_flatMap fun v _ => by
      simp [Variable.pieces, noneEmpty_variableData]
  have hproperties : NoneEmpty (o.data.properties.flatMap Property.pieces) :=
    noneEmpty_flatMap fun p _ => noneEmpty_property p
  have hstates : NoneEmpty (o.data.states.flatMap State.pieces) :=
    noneEmpty_flatMap fun s _ => noneEmpty_state s
  simp [Object.pieces, ObjectData.pieces, hvars, hproperties, hstates]

theorem noneEmpty_pieces (d : PexData) : NoneEmpty d.pieces := by
  have hstrings : NoneEmpty (d.stringTable.strings.flatMap entryPieces) :=
    noneEmpty_flatMap fun entry _ => noneEmpty_entryPieces entry
  have hflags : NoneEmpty (d.userFlags.flatMap UserFlag.pieces) :=
    noneEmpty_flatMap fun f _ => by simp [UserFlag.pieces]
  have hobjects : NoneEmpty (d.objects.flatMap Object.pieces) :=
    noneEmpty_flatMap fun o _ => noneEmpty_object o
  simp [PexData.pieces, StringTable.pieces, noneEmpty_header, hstrings, noneEmpty_debugInfo,
    hflags, hobjects]

/-! ## `Save` -/

section Save

open OFStream

variable {device : OutputDevice} {d : PexData}

theorem putAll_eq (s : SaveState) (pieces : Pieces) :
    putAll device s pieces = { s with file := writeAll device s.file pieces } := by
  induction pieces generalizing s with
  | nil => rfl
  | cons bytes pieces ih =>
      rw [putAll_cons, ih]
      rfl

/-- On a consistent script `Save` fails only where the destination cannot be opened; it leaves the
script as it is and the destination with what the stream stored. -/
theorem save_of_consistent (hd : d.Consistent) (device : OutputDevice) :
    d.save device = if device.isOpen = false then
        { result := .error (.runtimeError "Save File Error"), self := d, destination := none }
      else
        { result := .ok (), self := d
          destination := some ((writeAll device {} d.pieces).close device).stored } := by
  -- The writers end normally, whatever the stream made of their pieces.
  have hrun := (emits_writeSections hd device { self := d } rfl).1
  rw [putAll_eq] at hrun
  cases hopen : device.isOpen with
  | false => simp [PexData.save, hopen]
  | true => simp [PexData.save, hopen, hrun]

theorem writeAll_start_of_good (pieces : Pieces)
    (hgood : ∀ i < pieces.length, (device.onWrite i).fails = false) :
    (writeAll device {} pieces).failed = false ∧
      (writeAll device {} pieces).stored ++ (writeAll device {} pieces).buffer =
        pieces.flatten := by
  have hrun := writeAll_of_good pieces {} rfl (by simpa using hgood)
  simpa using hrun

/-- The bytes a writer hands to a stream that keeps everything. -/
def emitted (w : WriteM Unit) : List UInt8 :=
  match w {} {} with
  | .ok _ s => s.file.stored ++ s.file.buffer
  | .error _ s => s.file.stored ++ s.file.buffer

theorem emitted_of_emits {w : WriteM Unit} {pieces : Pieces}
    (hw : Emits (fun _ => True) w pieces) : emitted w = pieces.flatten := by
  have hrun := (hw {} {} trivial).1
  rw [putAll_eq] at hrun
  rw [emitted, hrun]
  exact (writeAll_start_of_good pieces fun _ _ => rfl).2

/-- On a device that loses nothing the destination holds the complete encoding. -/
theorem save_lossless (hd : d.Consistent) (hdevice : device.Lossless) :
    d.save device = { result := .ok (), self := d, destination := some d.bytes } := by
  have hbytes := (writeAll_start_of_good d.pieces fun i _ => hdevice.onWrite i).2
  rw [save_of_consistent hd device, if_neg (by simp [hdevice.isOpen])]
  simp [close, hdevice.onClose, hbytes, PexData.bytes]

end Save

end PexReader
