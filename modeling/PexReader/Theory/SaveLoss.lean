import PexReader.Theory.Runs

/-!
# SaveLoss — when a save that reports success has stored everything

`Save` asks the stream for its state once, when it opens it.  A write that fails, or a final flush
that fails, leaves a truncated file behind and is reported as success.  The exact condition on the
destination under which this cannot happen is `OutputDevice.KeepsAll`, provided that a stream stores
nothing more when a write has failed.
-/

namespace PexReader

open OFStream

/-- The destination cannot be opened at all, or it keeps what `n` writes hand over: none of them
fails, and the flush of `close` succeeds or finds the buffer empty, because the last write flushed
it. -/
def OutputDevice.KeepsAll (device : OutputDevice) (n : Nat) : Prop :=
  device.isOpen = false ∨
    (∀ i < n, (device.onWrite i).fails = false) ∧
      (device.onClose = none ∨ device.onWrite (n - 1) = .flushed)

namespace OFStream

/-- A failing flush loses a byte unless there is none to lose. -/
theorem stored_lose_eq_iff (file : OFStream) (kept : Nat) :
    (file.lose file.buffer kept []).stored = file.stored ++ file.buffer ↔ file.buffer = [] := by
  constructor
  · intro h
    by_contra hbuffer
    have hpos : 0 < file.buffer.length := List.length_pos_iff.2 hbuffer
    have hlength := congrArg List.length h
    simp only [lose, List.length_append, List.length_take, List.length_dropLast] at hlength
    omega
  · intro h
    simp [lose, h]

/-- After `close` everything written is stored exactly when the device keeps all of it. -/
theorem stored_close_eq_iff {device : OutputDevice} (hstops : device.StopsOnFailure)
    {pieces : Pieces} (hpieces : NoneEmpty pieces) (hne : pieces ≠ []) :
    ((writeAll device {} pieces).close device).stored = pieces.flatten ↔
      (∀ i < pieces.length, (device.onWrite i).fails = false) ∧
        (device.onClose = none ∨ device.onWrite (pieces.length - 1) = .flushed) := by
  by_cases hgood : ∀ i < pieces.length, (device.onWrite i).fails = false
  · -- All bytes are stored or buffered before `close`; the flush matters only if some are buffered.
    have hbytes := (writeAll_start_of_good pieces hgood).2
    have hclose : ((writeAll device {} pieces).close device).stored = pieces.flatten ↔
        device.onClose = none ∨ (writeAll device {} pieces).buffer = [] := by
      rw [← hbytes]
      cases honClose : device.onClose with
      | none => simp [close, honClose]
      | some kept => simpa [close, honClose] using stored_lose_eq_iff _ kept
    rcases List.eq_nil_or_concat pieces with hnil | ⟨init, last, rfl⟩
    · exact absurd hnil hne
    · have hlast : last ≠ [] := hpieces last (by simp)
      have hbuffer := buffer_writeAll init last hlast {} rfl (by simpa using hgood)
      rw [hclose, List.concat_eq_append, hbuffer]
      simpa using fun _ => hgood
  · -- The first write that fails does not store all, and `close` adds nothing.
    have hfails : ∃ i < pieces.length, (device.onWrite (0 + i)).fails = true := by
      simpa using hgood
    rcases writeAll_of_fails pieces hpieces {} rfl hfails with ⟨hfailed, hlost⟩
    constructor
    · intro h
      rw [stored_close_of_failed hstops hfailed] at h
      rw [h] at hlost
      simp at hlost
    · rintro ⟨h, -⟩
      exact absurd h hgood

end OFStream

/-! ## `C_SavePex` -/

theorem pieces_ne_nil (d : PexData) : d.pieces ≠ [] := by
  simp [PexData.pieces, RecordHeader.pieces]

theorem savePex_of_consistent {d : PexData} (hd : d.Consistent) (device : OutputDevice) :
    C_SavePex (some d) (some device) = if device.isOpen = false then
        { result := 0, inst := some d, destination := none }
      else
        { result := 1, inst := some d
          destination := some ((writeAll device {} d.pieces).close device).stored } := by
  have hsave := save_of_consistent hd device
  cases hopen : device.isOpen with
  | false =>
      rw [hopen, if_pos rfl] at hsave
      simp [C_SavePex, hsave]
  | true =>
      rw [hopen, if_neg (by simp)] at hsave
      simp [C_SavePex, hsave]

/-- In every reachable state: a save that returns 1 has stored the complete encoding exactly when
the destination keeps all the writes it makes. -/
theorem save_reported_complete_iff (calls : List ApiCall) (device : OutputDevice)
    (hstops : device.StopsOnFailure) :
    ((C_SavePex (some (runCalls calls C_CreateInstance)) (some device)).result = 1 →
      (C_SavePex (some (runCalls calls C_CreateInstance)) (some device)).destination =
        some (runCalls calls C_CreateInstance).bytes) ↔
      device.KeepsAll (runCalls calls C_CreateInstance).pieces.length := by
  have hclose := stored_close_eq_iff hstops (noneEmpty_pieces _)
    (pieces_ne_nil (runCalls calls C_CreateInstance))
  rw [savePex_of_consistent (reachable_consistent calls)]
  cases hopen : device.isOpen with
  | false => simp [OutputDevice.KeepsAll, hopen]
  | true => simpa [OutputDevice.KeepsAll, hopen, PexData.bytes] using hclose

/-- A disk that is full from the `n`-th write on: a byte of it is stored, and `close` stores no
more, although the write has left its bytes in the put area. -/
def fullDisk (n : Nat) : OutputDevice where
  onWrite i := if i < n then .flushed else .failed 1 0 2
  onClose := some 0

theorem stopsOnFailure_fullDisk (n : Nat) : (fullDisk n).StopsOnFailure :=
  Or.inr rfl

/-- A script is loaded. -/
def loadingCalls : List ApiCall :=
  [.readPex (some { contents := sampleScript.bytes })]

theorem save_reported_complete_iff_fullDisk :
    ¬ ((C_SavePex (some (runCalls loadingCalls C_CreateInstance)) (some (fullDisk 5))).result = 1 →
      (C_SavePex (some (runCalls loadingCalls C_CreateInstance)) (some (fullDisk 5))).destination =
        some (runCalls loadingCalls C_CreateInstance).bytes) := by
  rw [save_reported_complete_iff loadingCalls (fullDisk 5) (stopsOnFailure_fullDisk 5)]
  rintro (hclosed | ⟨hgood, -⟩)
  · cases hclosed
  · exact absurd (hgood 5 (by decide +kernel)) (by decide)

/-- The sixth write fails, the call returns 1, and the file has 17 bytes. -/
theorem truncated_save_reported :
    ¬ ∀ (calls : List ApiCall) (device : OutputDevice), device.StopsOnFailure →
      (C_SavePex (some (runCalls calls C_CreateInstance)) (some device)).result = 1 →
        (C_SavePex (some (runCalls calls C_CreateInstance)) (some device)).destination =
          some (runCalls calls C_CreateInstance).bytes := by
  intro h
  have hsave := h loadingCalls (fullDisk 5) (stopsOnFailure_fullDisk 5) (by decide +kernel)
  revert hsave
  decide +kernel

end PexReader
