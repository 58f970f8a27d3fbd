import PexReader.Reading.Files
import PexReader.Spec.Editor
import PexReader.Writing.Files

/-!
# Runs — what holds in every reachable state

The invariant of an instance is `PexData.Consistent`: all a loaded script satisfies but for the
magic number, which a closed instance has not.  Each operation keeps it, so it holds after every
run; and in a consistent state each operation is described by one equation.
-/

namespace PexReader

open PexBinaryReader

/-! ## `Load` -/

/-- `Load` gives the instance a well-formed script within the budget, or leaves it as it was. -/
theorem load_cases (self : PexData) (file : InputFile) :
    (∃ d, self.load file = .ok () d ∧ d.WellFormed ∧ d.elements ≤ 1000000) ∨
      ∃ e, self.load file = .error e self := by
  unfold PexData.load
  cases hparse : parseFile .enforced file with
  | ok result =>
      rcases result with ⟨d, reader⟩
      rcases parseFile_eq_ok.1 hparse with ⟨-, hd, -, helements, -⟩
      exact Or.inl ⟨d, rfl, hd, helements⟩
  | error e =>
      exact Or.inr ⟨e, rfl⟩

/-! ## `ModifyStringTable` -/

/-- The instance with one string replaced. -/
def PexData.withString (d : PexData) (i : Nat) (str : List UInt8) : PexData :=
  { d with stringTable := { d.stringTable with strings := d.stringTable.strings.set i str } }

/-- In a consistent state `ModifyStringTable` accepts exactly the indices below the count and the
strings a 16-bit length can announce; a rejected call changes nothing, and no call indexes past the
end of the strings. -/
theorem modifyStringTable_cases {self : PexData} (hself : self.Consistent) (index : UInt16)
    (str : List UInt8) :
    (index < self.stringTable.count ∧ EntryFits str ∧
      self.modifyStringTable index str = .ok () (self.withString index.toNat str)) ∨
    (¬ (index < self.stringTable.count ∧ EntryFits str) ∧
      ∃ e, self.modifyStringTable index str = .error (.thrown e) self) := by
  unfold PexData.modifyStringTable checkedUInt16Length
  by_cases hindex : index ≥ self.stringTable.count
  · -- `out_of_range`
    right
    rw [if_pos hindex]
    exact ⟨fun h => UInt16.not_lt.2 hindex h.1, _, rfl⟩
  · rw [if_neg hindex]
    have hlt := UInt16.not_le.1 hindex
    by_cases hlength : str.length > 65535
    · -- `length_error`
      right
      rw [if_pos hlength]
      exact ⟨fun h => Nat.not_le.2 hlength h.2, _, rfl⟩
    · -- The count that was checked is the number of strings, so the assignment is in bounds.
      left
      have hbound : index.toNat < self.stringTable.strings.length := by
        rw [hself.stringTable.count]
        exact UInt16.lt_iff_toNat_lt.1 hlt
      rw [if_neg hlength]
      dsimp only
      rw [if_pos hbound]
      exact ⟨hlt, Nat.not_lt.1 hlength, rfl⟩

theorem withString_consistent {d : PexData} (hd : d.Consistent) {i : Nat} {str : List UInt8}
    (hstr : EntryFits str) : (d.withString i str).Consistent where
  header := hd.header
  stringTable := by
    refine ⟨by simpa [PexData.withString] using hd.stringTable.count, ?_⟩
    intro entry hentry
    -- An entry of the new table is an old one or the new one.
    rcases List.mem_or_eq_of_mem_set hentry with hmem | rfl
    · exact hd.stringTable.entries entry hmem
    · exact hstr
  debugInfo := hd.debugInfo
  userFlagCount := hd.userFlagCount
  objectCount := hd.objectCount
  objects := hd.objects

theorem elements_withString (d : PexData) (i : Nat) (str : List UInt8) :
    (d.withString i str).elements = d.elements := by
  simp [PexData.withString, PexData.elements, StringTable.elements]

/-! ## Calls -/

/-- A new or closed instance. -/
theorem empty_consistent : ({} : PexData).Consistent where
  header := ⟨by simp [WStringFits], by simp [WStringFits], by simp [WStringFits]⟩
  stringTable := ⟨rfl, by simp⟩
  debugInfo := ⟨by decide, fun _ => rfl, rfl, by simp⟩
  userFlagCount := rfl
  objectCount := rfl
  objects := by simp

theorem self_save {d : PexData} (hd : d.Consistent) (device : OutputDevice) :
    (d.save device).self = d := by
  rw [save_of_consistent hd]
  split_ifs <;> rfl

/-- `C_ReadPex` returns 1 and gives the instance a well-formed script within the budget, or returns
0 and changes nothing. -/
theorem readPex_cases (d : PexData) (pexPath : Option InputFile) :
    (∃ d', C_ReadPex (some d) pexPath = (1, some d') ∧ d'.WellFormed ∧ d'.elements ≤ 1000000) ∨
      C_ReadPex (some d) pexPath = (0, some d) := by
  cases pexPath with
  | none => exact Or.inr rfl
  | some file =>
      rcases load_cases d file with ⟨d', hload, hd'⟩ | ⟨e, hload⟩
      · exact Or.inl ⟨d', by simp [C_ReadPex, hload], hd'⟩
      · exact Or.inr (by simp [C_ReadPex, hload])

/-- `C_ModifyStringTable` replaces a string or changes nothing. -/
theorem run_modifyStringTable {d : PexData} (hd : d.Consistent) (index : UInt16)
    (utf8Str : Option (List UInt8)) :
    (ApiCall.modifyStringTable index utf8Str).run d = d ∨
      ∃ i str, EntryFits str ∧
        (ApiCall.modifyStringTable index utf8Str).run d = d.withString i str := by
  cases utf8Str with
  | none => exact Or.inl rfl
  | some str =>
      rcases modifyStringTable_cases hd index (cString str) with
        ⟨-, hstr, hmodify⟩ | ⟨-, e, hmodify⟩
      · exact Or.inr ⟨index.toNat, _, hstr, by simp [ApiCall.run, C_ModifyStringTable, hmodify]⟩
      · exact Or.inl (by simp [ApiCall.run, C_ModifyStringTable, hmodify])

/-- `C_SavePex` changes nothing. -/
theorem run_savePex {d : PexData} (hd : d.Consistent) (pexPath : Option OutputDevice) :
    (ApiCall.savePex pexPath).run d = d := by
  cases pexPath with
  | none => rfl
  | some device =>
      have hself := self_save hd device
      unfold ApiCall.run C_SavePex
      cases hresult : (d.save device).result with
      | ok _ => simp [hresult, hself]
      | error e => simp [hresult, hself]

theorem run_consistent {d : PexData} (hd : d.Consistent) (call : ApiCall) :
    (call.run d).Consistent := by
  cases call with
  | readPex pexPath =>
      rcases readPex_cases d pexPath with ⟨d', hread, hd', -⟩ | hread
      · simpa [ApiCall.run, hread] using hd'.toConsistent
      · simpa [ApiCall.run, hread] using hd
  | modifyStringTable index utf8Str =>
      rcases run_modifyStringTable hd index utf8Str with hrun | ⟨i, str, hstr, hrun⟩
      · rw [hrun]
        exact hd
      · rw [hrun]
        exact withString_consistent hd hstr
  | savePex pexPath =>
      rw [run_savePex hd]
      exact hd
  | close =>
      exact empty_consistent

/-! ## Runs -/

theorem runCalls_consistent (calls : List ApiCall) {d : PexData} (hd : d.Consistent) :
    (runCalls calls d).Consistent := by
  induction calls generalizing d with
  | nil => exact hd
  | cons call calls ih => exact ih (run_consistent hd call)

theorem reachable_consistent (calls : List ApiCall) :
    (runCalls calls C_CreateInstance).Consistent :=
  runCalls_consistent calls empty_consistent

theorem Reachable.consistent {d : PexData} (hd : Reachable d) : d.Consistent := by
  rcases hd with ⟨calls, rfl⟩
  exact reachable_consistent calls

/-- The invariant in every state of an instance, with the two things the encoder relies on: size
fields that agree with what `WriteObjectData` emits, and no `length_error` and no
`bad_variant_access` (or any other exception) on the way. -/
theorem representation_invariant (calls : List ApiCall) :
    (runCalls calls C_CreateInstance).Consistent ∧
      (∀ o ∈ (runCalls calls C_CreateInstance).objects,
        o.size.toNat = 4 + (emitted (writeObjectData o.data)).length) ∧
      ∀ device file e s,
        writeSections device { file, self := runCalls calls C_CreateInstance } ≠ .error e s := by
  have hd := reachable_consistent calls
  refine ⟨hd, ?_, ?_⟩
  · intro o ho
    have hobject := hd.objects o ho
    rw [emitted_of_emits (emits_writeObjectData (fun _ _ _ h => h) hobject.data)]
    exact hobject.size
  · intro device file e s hrun
    have hok := (emits_writeSections hd device
      { file, self := runCalls calls C_CreateInstance } rfl).1
    rw [hok] at hrun
    cases hrun

/-! ## Which instances hold a file -/

/-- An instance that holds a loaded file is a well-formed script within the budget; one that does
not is empty. -/
def Tracked (s : PexData × Bool) : Prop :=
  if s.2 then s.1.WellFormed ∧ s.1.elements ≤ 1000000 else s.1 = {}

theorem withString_wellFormed {d : PexData} (hd : d.WellFormed) {i : Nat} {str : List UInt8}
    (hstr : EntryFits str) : (d.withString i str).WellFormed :=
  { withString_consistent hd.toConsistent hstr with magic := hd.magic }

theorem tracked_step {s : PexData × Bool} (hs : Tracked s) (call : ApiCall) :
    Tracked (call.run s.1, call.holdsFile s.1 s.2) := by
  rcases s with ⟨d, holds⟩
  -- Loaded or empty, the instance is consistent, so each call is one of its few cases.
  have hd : d.Consistent := by
    cases holds with
    | true => exact hs.1.toConsistent
    | false =>
        have hempty : d = {} := hs
        rw [hempty]
        exact empty_consistent
  cases call with
  | readPex pexPath =>
      rcases readPex_cases d pexPath with ⟨d', hread, hd'⟩ | hread
      · simpa [ApiCall.run, ApiCall.holdsFile, hread, Tracked] using hd'
      · have hzero : ((0 : Int32) == 1) = false := by decide
        simpa [ApiCall.run, ApiCall.holdsFile, hread, hzero] using hs
  | modifyStringTable index utf8Str =>
      rcases run_modifyStringTable hd index utf8Str with hrun | ⟨i, str, hstr, hrun⟩
      · simpa [hrun, ApiCall.holdsFile] using hs
      · cases holds with
        | true =>
            have hloaded : d.WellFormed ∧ d.elements ≤ 1000000 := hs
            simp only [hrun, ApiCall.holdsFile, Tracked, elements_withString]
            exact ⟨withString_wellFormed hloaded.1 hstr, hloaded.2⟩
        | false =>
            -- An empty instance has no index to replace.
            have hempty : d = {} := hs
            subst hempty
            exact hrun
  | savePex pexPath =>
      simpa [run_savePex hd, ApiCall.holdsFile] using hs
  | close =>
      rfl

theorem tracked_trackCalls (calls : List ApiCall) : Tracked (trackCalls calls) := by
  refine List.foldlRecOn calls _ ?_ ?_
  · -- A new instance holds no file and is empty.
    rfl
  · intro s hs call _
    exact tracked_step hs call

theorem trackCalls_fst (calls : List ApiCall) :
    (trackCalls calls).1 = runCalls calls C_CreateInstance := by
  -- The flag does not act on the instance, so any start will do.
  have hfold : ∀ s : PexData × Bool,
      (calls.foldl (fun s call => (call.run s.1, call.holdsFile s.1 s.2)) s).1 =
        runCalls calls s.1 := by
    induction calls with
    | nil => exact fun _ => rfl
    | cons call calls ih => exact fun s => ih _
  exact hfold _

end PexReader
