import Mathlib.Data.List.Basic

/-!
# BigEndian — fixed-width integers, most significant byte first

The three widths a byte format needs, each with its spelling `beN`, its reading `ofBeN`, and the
two laws that make them inverse: reading a spelling gives the value back, and spelling what was
read gives the bytes back.
-/

namespace BigEndian

/-! ## Spelling -/

def be16 (v : UInt16) : List UInt8 :=
  [(v >>> 8).toUInt8, v.toUInt8]

def be32 (v : UInt32) : List UInt8 :=
  [(v >>> 24).toUInt8, (v >>> 16).toUInt8, (v >>> 8).toUInt8, v.toUInt8]

def be64 (v : UInt64) : List UInt8 :=
  [(v >>> 56).toUInt8, (v >>> 48).toUInt8, (v >>> 40).toUInt8, (v >>> 32).toUInt8,
    (v >>> 24).toUInt8, (v >>> 16).toUInt8, (v >>> 8).toUInt8, v.toUInt8]

@[simp] theorem length_be16 (v : UInt16) : (be16 v).length = 2 := rfl

@[simp] theorem length_be32 (v : UInt32) : (be32 v).length = 4 := rfl

@[simp] theorem length_be64 (v : UInt64) : (be64 v).length = 8 := rfl

@[simp] theorem be16_ne_nil (v : UInt16) : be16 v ≠ [] :=
  List.cons_ne_nil _ _

@[simp] theorem be32_ne_nil (v : UInt32) : be32 v ≠ [] :=
  List.cons_ne_nil _ _

@[simp] theorem be64_ne_nil (v : UInt64) : be64 v ≠ [] :=
  List.cons_ne_nil _ _

/-! ## Reading -/

def ofBe16 (a b : UInt8) : UInt16 :=
  (a.toUInt16 <<< 8) ||| b.toUInt16

def ofBe32 (a b c d : UInt8) : UInt32 :=
  (a.toUInt32 <<< 24) ||| (b.toUInt32 <<< 16) ||| (c.toUInt32 <<< 8) ||| d.toUInt32

def ofBe64 (a b c d e f g h : UInt8) : UInt64 :=
  (a.toUInt64 <<< 56) ||| (b.toUInt64 <<< 48) ||| (c.toUInt64 <<< 40) ||| (d.toUInt64 <<< 32) |||
    (e.toUInt64 <<< 24) ||| (f.toUInt64 <<< 16) ||| (g.toUInt64 <<< 8) ||| h.toUInt64

/-! ## Spelling what was read

One goal for each byte of the spelling: bit `i` of it comes from the byte that was shifted there. -/

theorem be16_ofBe16 (a b : UInt8) : be16 (ofBe16 a b) = [a, b] := by
  simp only [be16, ofBe16, List.cons.injEq, and_true]
  refine ⟨?_, ?_⟩
  all_goals
    apply UInt8.toBitVec_inj.1
    ext i hi
    simp <;> grind

theorem be32_ofBe32 (a b c d : UInt8) : be32 (ofBe32 a b c d) = [a, b, c, d] := by
  simp only [be32, ofBe32, List.cons.injEq, and_true]
  refine ⟨?_, ?_, ?_, ?_⟩
  all_goals
    apply UInt8.toBitVec_inj.1
    ext i hi
    simp <;> grind

theorem be64_ofBe64 (a b c d e f g h : UInt8) :
    be64 (ofBe64 a b c d e f g h) = [a, b, c, d, e, f, g, h] := by
  simp only [be64, ofBe64, List.cons.injEq, and_true]
  refine ⟨?_, ?_, ?_, ?_, ?_, ?_, ?_, ?_⟩
  all_goals
    apply UInt8.toBitVec_inj.1
    ext i hi
    simp <;> grind

/-! ## Reading a spelling

Bit `i` of the value comes from the byte that holds it; `simp` reduces both sides to that bit
(without the rule that turns a byte of a word into a remainder) and `grind` finds the byte. -/

theorem ofBe16_bytes (v : UInt16) : ofBe16 (v >>> 8).toUInt8 v.toUInt8 = v := by
  apply UInt16.toBitVec_inj.1
  ext i hi
  simp [ofBe16, -UInt16.toUInt16_toUInt8]
  grind

theorem ofBe32_bytes (v : UInt32) :
    ofBe32 (v >>> 24).toUInt8 (v >>> 16).toUInt8 (v >>> 8).toUInt8 v.toUInt8 = v := by
  apply UInt32.toBitVec_inj.1
  ext i hi
  simp [ofBe32, -UInt32.toUInt32_toUInt8]
  grind

theorem ofBe64_bytes (v : UInt64) :
    ofBe64 (v >>> 56).toUInt8 (v >>> 48).toUInt8 (v >>> 40).toUInt8 (v >>> 32).toUInt8
      (v >>> 24).toUInt8 (v >>> 16).toUInt8 (v >>> 8).toUInt8 v.toUInt8 = v := by
  apply UInt64.toBitVec_inj.1
  ext i hi
  simp [ofBe64, -UInt64.toUInt64_toUInt8]
  grind

end BigEndian
