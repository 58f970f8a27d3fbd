import PexReader.Model.Save
import PexReader.Spec.Document

/-!
# Records — what the record writers emit

One theorem for each `Write*` member: on a consistent record it ends normally and hands the stream
exactly the pieces that spell the record.  The writers trust the counts and the tags they find;
these theorems say what that trust amounts to.
-/

namespace PexReader

open BigEndian Emission

/-! ## Primitives and strings -/

section Records

variable {P : SaveState → Prop} (hP : Stable OutputDevice P)

include hP

theorem emits_writeBytes (bytes : List UInt8) : Emits P (writeBytes bytes) [bytes] :=
  Emits.piece hP bytes

theorem emits_writeUInt16BE (v : UInt16) : Emits P (writeUInt16BE v) [be16 v] :=
  emits_writeBytes hP _

theorem emits_writeUInt32BE (v : UInt32) : Emits P (writeUInt32BE v) [be32 v] :=
  emits_writeBytes hP _

theorem emits_writeUInt64BE (v : UInt64) : Emits P (writeUInt64BE v) [be64 v] :=
  emits_writeBytes hP _

theorem emits_writeUInt8 (v : UInt8) : Emits P (writeUInt8 v) [[v]] :=
  emits_writeBytes hP _

omit hP in
theorem checkedUInt16Length_of_le {length : Nat} {context : String} (h : length ≤ 65535) :
    checkedUInt16Length length context = .ok (UInt16.ofNat length) :=
  if_neg (Nat.not_lt.2 h)

theorem emits_writeWString {str : List UInt16} (hstr : WStringFits str) :
    Emits P (writeWString str) (wstringPieces str) := by
  refine Emits.value (checkedUInt16Length_of_le hstr.1) ?_
  refine ((emits_writeUInt16BE hP _).seq (Emits.forM fun wc _ =>
    emits_writeBytes hP [wc.toUInt8])).congr ?_
  simp [wstringPieces, List.map_eq_flatMap]

theorem emits_writeEntry {entry : List UInt8} (hentry : EntryFits entry) :
    Emits P (writeEntry entry) (entryPieces entry) := by
  refine Emits.value (checkedUInt16Length_of_le hentry) ?_
  refine ((emits_writeUInt16BE hP _).seq (Emits.optional fun _ =>
    emits_writeBytes hP entry)).congr ?_
  simp [entryPieces]

/-! ## Debug info and user flags -/

theorem emits_writeDebugFunction (f : DebugFunction) :
    Emits P (writeDebugFunction f) f.pieces := by
  refine ((emits_writeUInt16BE hP _).seq <| (emits_writeUInt16BE hP _).seq <|
    (emits_writeUInt16BE hP _).seq <| (emits_writeUInt8 hP _).seq <|
    (emits_writeUInt16BE hP _).seq <|
    Emits.forM fun lineNum _ => emits_writeUInt16BE hP lineNum).congr ?_
  simp [DebugFunction.pieces, List.map_eq_flatMap]

/-! ## Values and instructions -/

theorem emits_writeVariableData (integer_unsigned : Bool) {d : VariableData} (hd : d.WellFormed) :
    Emits P (writeVariableData integer_unsigned d) d.pieces := by
  rcases d with ⟨type, data⟩
  -- The tag decides the branch and the alternative that `std::get` finds there.
  rcases VariableData.wellFormed_cases.1 hd with ⟨rfl, rfl⟩ | ⟨rfl | rfl, v, rfl⟩ |
    ⟨rfl, v, rfl⟩ | ⟨rfl, b, rfl⟩ | ⟨rfl, v, rfl⟩
  · exact (emits_writeUInt8 hP _).seq Emits.nothing
  · exact (emits_writeUInt8 hP _).seq (Emits.value rfl (emits_writeUInt16BE hP v))
  · exact (emits_writeUInt8 hP _).seq (Emits.value rfl (emits_writeUInt16BE hP v))
  · cases integer_unsigned with
    | true => exact (emits_writeUInt8 hP _).seq (Emits.value rfl (emits_writeUInt32BE hP _))
    | false => exact (emits_writeUInt8 hP _).seq (Emits.value rfl (emits_writeUInt32BE hP _))
  · exact (emits_writeUInt8 hP _).seq (Emits.value rfl (emits_writeUInt32BE hP b))
  · exact (emits_writeUInt8 hP _).seq (Emits.value rfl (emits_writeUInt8 hP v))

theorem emits_writeVariable {v : Variable} (hv : v.WellFormed) :
    Emits P (writeVariable v) v.pieces := by
  refine ((emits_writeUInt16BE hP _).seq <| (emits_writeUInt16BE hP _).seq <|
    (emits_writeUInt32BE hP _).seq <| emits_writeVariableData hP true hv).congr ?_
  simp [Variable.pieces]

theorem emits_writeInstruction {i : Instruction} (hi : i.WellFormed) :
    Emits P (writeInstruction i) i.pieces := by
  refine ((emits_writeUInt8 hP _).seq <| Emits.forM fun a ha =>
    emits_writeVariableData hP false (hi.arguments a ha)).congr ?_
  simp [Instruction.pieces]

/-! ## Functions, properties, states -/

theorem emits_writeVariableType (v : VariableType) : Emits P (writeVariableType v) v.pieces :=
  (emits_writeUInt16BE hP _).seq (emits_writeUInt16BE hP _)

theorem emits_writeFunction {f : Function} (hf : f.WellFormed) :
    Emits P (writeFunction f) f.pieces := by
  refine ((emits_writeUInt16BE hP _).seq <| (emits_writeUInt16BE hP _).seq <|
    (emits_writeUInt32BE hP _).seq <| (emits_writeUInt8 hP _).seq <|
    (emits_writeUInt16BE hP _).seq <|
    (Emits.forM fun param _ => emits_writeVariableType hP param).seq <|
    (emits_writeUInt16BE hP _).seq <|
    (Emits.forM fun local_ _ => emits_writeVariableType hP local_).seq <|
    (emits_writeUInt16BE hP _).seq <|
    Emits.forM fun instr hinstr =>
      emits_writeInstruction hP (hf.instructions instr hinstr)).congr ?_
  simp [Function.pieces]

theorem emits_writeProperty {p : Property} (hp : p.WellFormed) :
    Emits P (writeProperty p) p.pieces := by
  refine ((emits_writeUInt16BE hP _).seq <| (emits_writeUInt16BE hP _).seq <|
    (emits_writeUInt16BE hP _).seq <| (emits_writeUInt32BE hP _).seq <|
    (emits_writeUInt8 hP _).seq <|
    (Emits.optional fun _ => emits_writeUInt16BE hP _).seq <|
    (Emits.optional fun _ => emits_writeFunction hP hp.readHandler).seq <|
    Emits.optional fun _ => emits_writeFunction hP hp.writeHandler).congr ?_
  simp [Property.pieces]

theorem emits_writeNamedFunction {f : NamedFunction} (hf : f.WellFormed) :
    Emits P (writeNamedFunction f) f.pieces :=
  (emits_writeUInt16BE hP _).seq (emits_writeFunction hP hf)

theorem emits_writeState {s : State} (hs : s.WellFormed) : Emits P (writeState s) s.pieces := by
  refine ((emits_writeUInt16BE hP _).seq <| (emits_writeUInt16BE hP _).seq <|
    Emits.forM fun f hf => emits_writeNamedFunction hP (hs.functions f hf)).congr ?_
  simp [State.pieces]

/-! ## Objects -/

theorem emits_writeObjectData {d : ObjectData} (hd : d.WellFormed) :
    Emits P (writeObjectData d) d.pieces := by
  refine ((emits_writeUInt16BE hP _).seq <| (emits_writeUInt16BE hP _).seq <|
    (emits_writeUInt32BE hP _).seq <| (emits_writeUInt16BE hP _).seq <|
    (emits_writeUInt16BE hP _).seq <|
    (Emits.forM fun var hvar => emits_writeVariable hP (hd.vars var hvar)).seq <|
    (emits_writeUInt16BE hP _).seq <|
    (Emits.forM fun prop hprop => emits_writeProperty hP (hd.properties prop hprop)).seq <|
    (emits_writeUInt16BE hP _).seq <|
    Emits.forM fun state hstate => emits_writeState hP (hd.states state hstate)).congr ?_
  simp [ObjectData.pieces]

theorem emits_writeObject {o : Object} (ho : o.WellFormed) : Emits P (writeObject o) o.pieces :=
  (emits_writeUInt16BE hP _).seq <| (emits_writeUInt32BE hP _).seq <|
    emits_writeObjectData hP ho.data

end Records

/-! ## Members -/

section Members

variable {d : PexData}

/-- The object the members belong to is `d`. -/
def SaveState.Of (d : PexData) (s : SaveState) : Prop :=
  s.self = d

theorem stable_of : Stable OutputDevice (SaveState.Of d) :=
  fun _ _ _ h => h

theorem emits_writeHeader (hd : d.Consistent) :
    Emits (SaveState.Of d) writeHeader d.header.pieces := by
  refine Emits.look fun s hs => ?_
  rw [show s.self = d from hs]
  refine ((emits_writeUInt32BE stable_of _).seq <| (emits_writeUInt8 stable_of _).seq <|
    (emits_writeUInt8 stable_of _).seq <| (emits_writeUInt16BE stable_of _).seq <|
    (emits_writeUInt64BE stable_of _).seq <|
    (emits_writeWString stable_of hd.header.sourceFileName).seq <|
    (emits_writeWString stable_of hd.header.username).seq <|
    emits_writeWString stable_of hd.header.machinename).congr ?_
  simp [RecordHeader.pieces]

/-- With as many strings as counted, nothing is resized. -/
theorem StringTable.grow_eq_self {t : StringTable} (h : t.WellFormed) : t.grow = t :=
  if_neg (Nat.not_lt.2 (Nat.le_of_eq h.count.symm))

theorem map_range_getD {α : Type} (l : List α) (x : α) :
    (List.range l.length).map (fun i => l.getD i x) = l := by
  refine List.ext_getElem (by simp) ?_
  intro i h₁ h₂
  simp [h₂]

theorem emits_writeStringTable (hd : d.Consistent) :
    Emits (SaveState.Of d) writeStringTable d.stringTable.pieces := by
  -- The indices below the count run through the strings once.
  have hstrings := map_range_getD d.stringTable.strings []
  rw [hd.stringTable.count] at hstrings
  have hentry : ∀ i ∈ List.range d.stringTable.count.toNat,
      EntryFits (d.stringTable.strings.getD i []) := by
    intro i hi
    refine hd.stringTable.entries _ ?_
    rw [← hstrings]
    exact List.mem_map.2 ⟨i, hi, by rw [hstrings]⟩
  have hloop : Emits (SaveState.Of d)
      ((List.range d.stringTable.count.toNat).forM fun i =>
        writeEntry (d.stringTable.strings.getD i []))
      (d.stringTable.strings.flatMap entryPieces) := by
    refine (Emits.forM fun i hi => emits_writeEntry stable_of (hentry i hi)).congr ?_
    have hflat := List.flatMap_map (f := fun i => d.stringTable.strings.getD i [])
      (g := entryPieces) (l := List.range d.stringTable.count.toNat)
    rw [← hflat, hstrings]
  refine Emits.look fun s hs => ?_
  rw [show s.self = d from hs]
  refine (emits_writeUInt16BE stable_of _).seq (Emits.adjust ?_ (Emits.look fun t ht => ?_))
  · rintro t rfl
    rw [StringTable.grow_eq_self hd.stringTable]
  · rw [show t.self = d from ht]
    exact hloop

theorem emits_writeDebugInfo :
    Emits (SaveState.Of d) writeDebugInfo d.debugInfo.pieces := by
  refine Emits.look fun s hs => ?_
  rw [show s.self = d from hs]
  refine ((emits_writeUInt8 stable_of _).seq <| Emits.optional fun _ =>
    (emits_writeUInt64BE stable_of _).seq <| (emits_writeUInt16BE stable_of _).seq <|
    Emits.forM fun func _ => emits_writeDebugFunction stable_of func).congr ?_
  simp [DebugInfo.pieces]

theorem emits_writeUserFlags :
    Emits (SaveState.Of d) writeUserFlags
      (be16 d.userFlagCount :: d.userFlags.flatMap UserFlag.pieces) := by
  refine Emits.look fun s hs => ?_
  rw [show s.self = d from hs]
  exact (emits_writeUInt16BE stable_of _).seq <| Emits.forM fun flag _ =>
    (emits_writeUInt16BE stable_of _).seq (emits_writeUInt8 stable_of _)

theorem emits_writeObjects (hd : d.Consistent) :
    Emits (SaveState.Of d) writeObjects
      (be16 d.objectCount :: d.objects.flatMap Object.pieces) := by
  refine Emits.look fun s hs => ?_
  rw [show s.self = d from hs]
  exact (emits_writeUInt16BE stable_of _).seq <| Emits.forM fun obj hobj =>
    emits_writeObject stable_of (hd.objects obj hobj)

/-- The five section writers emit the pieces of a consistent script, throw nothing, and leave the
script as it is. -/
theorem emits_writeSections (hd : d.Consistent) :
    Emits (SaveState.Of d) writeSections d.pieces := by
  refine ((emits_writeHeader hd).seq <| (emits_writeStringTable hd).seq <|
    emits_writeDebugInfo.seq <| emits_writeUserFlags.seq <|
    emits_writeObjects hd).congr ?_
  simp [PexData.pieces]

end Members

end PexReader
