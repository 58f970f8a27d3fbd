import PexReader.Text.Decoding

/-!
# WideStrings — `UTF8ToWString` over a documented `MultiByteToWideChar`

`MultiByteToWideChar` is a function of the operating system.  `Documented` is what the library
relies on, and `strict` is a function that satisfies it.
-/

namespace PexReader

open Utf8

namespace MultiByteToWideChar

/-- With `MB_ERR_INVALID_CHARS`, and for a text whose length is an `int`, the query counts at least
one unit if the text is well-formed and fails if it is not; and given a buffer of the size it asked
for, the conversion fills it. -/
structure Documented (mb : MultiByteToWideChar) : Prop where
  query : ∀ str, str ≠ [] → str.length ≤ 2147483647 → (0 < mb.query str ↔ WellFormed str)
  convert : ∀ str, str.length ≤ 2147483647 → 0 < mb.query str →
    (mb.convert str (mb.query str).toNatClampNeg).1 = mb.query str

/-- The query counts at least one unit, and the conversion counts as many; an empty text is not
passed on. -/
def Converts (mb : MultiByteToWideChar) (str : List UInt8) : Prop :=
  str = [] ∨
    0 < mb.query str ∧ (mb.convert str (mb.query str).toNatClampNeg).1 = mb.query str

/-- What the conversion writes into a buffer of the size that the query asks for. -/
def units (mb : MultiByteToWideChar) (str : List UInt8) : List UInt16 :=
  if str = [] then [] else (mb.convert str (mb.query str).toNatClampNeg).2.toList

instance (mb : MultiByteToWideChar) (str : List UInt8) : Decidable (mb.Converts str) :=
  inferInstanceAs (Decidable (_ ∨ _))

/-- There are as many of them as the query counts. -/
theorem length_units_le (mb : MultiByteToWideChar) (str : List UInt8) :
    (mb.units str).length ≤ (mb.query str).toNatClampNeg := by
  unfold units
  split_ifs
  · exact Nat.zero_le _
  · rw [Vector.length_toList]

theorem Documented.converts {mb : MultiByteToWideChar} (hmb : mb.Documented) {str : List UInt8}
    (hlength : str.length ≤ 2147483647) (hstr : WellFormed str) : mb.Converts str := by
  by_cases hempty : str = []
  · exact Or.inl hempty
  · have hpos := (hmb.query str hempty hlength).2 hstr
    exact Or.inr ⟨hpos, hmb.convert str hlength hpos⟩

end MultiByteToWideChar

variable {mb : MultiByteToWideChar}

/-! ## `UTF8ToWString` -/

/-- `UTF8ToWString` yields what the conversion writes, if it converts the text. -/
theorem utf8ToWString_eq_ok {str : List UInt8} {wide : List UInt16} :
    utf8ToWString mb str = .ok wide ↔ mb.Converts str ∧ wide = mb.units str := by
  unfold utf8ToWString MultiByteToWideChar.Converts MultiByteToWideChar.units
  dsimp only
  split_ifs with hempty hpos hsame
  · simp [hempty, eq_comm]
  · simp [hempty, Int32.not_lt.2 hpos]
  · simp [hempty, hsame]
  · simp [hempty, Int32.not_le.1 hpos, not_not.1 hsame, eq_comm]

/-- A well-formed text is converted, and its length in units is an `int`. -/
theorem utf8ToWString_of_wellFormed (hmb : mb.Documented) {str : List UInt8}
    (hlength : str.length ≤ 2147483647) (hstr : WellFormed str) :
    ∃ wide, utf8ToWString mb str = .ok wide ∧ wide.length ≤ 2147483647 :=
  ⟨mb.units str, utf8ToWString_eq_ok.2 ⟨hmb.converts hlength hstr, rfl⟩,
    (mb.length_units_le str).trans (Nat.le_of_lt_succ (mb.query str).toNatClampNeg_lt)⟩

/-- `MB_ERR_INVALID_CHARS` guards against the rest. -/
theorem utf8ToWString_of_not_wellFormed (hmb : mb.Documented) {str : List UInt8}
    (hlength : str.length ≤ 2147483647) (hstr : ¬ WellFormed str) :
    utf8ToWString mb str = .error (.invalidArgument "The PEX string is not valid UTF-8.") := by
  have hempty : str ≠ [] := by
    rintro rfl
    exact hstr wellFormed_nil
  have hpos := mt (hmb.query str hempty hlength).1 hstr
  unfold utf8ToWString
  rw [if_neg hempty]
  dsimp only
  rw [if_pos (Int32.not_lt.1 hpos)]

/-! ## A strict converter -/

namespace MultiByteToWideChar

/-- Decode UTF-8, encode UTF-16; 0 for what is not well-formed or does not fit the buffer. -/
def strict : MultiByteToWideChar where
  query str :=
    match decode? str with
    | none => 0
    | some cs => Int32.ofNat (cs.flatMap utf16EncodeChar).length
  convert str n :=
    match decode? str with
    | none => (0, Vector.replicate n 0)
    | some cs =>
        let units := cs.flatMap utf16EncodeChar
        if units.length ≤ n then
          (Int32.ofNat units.length, Vector.ofFn fun i => units.getD i 0)
        else
          (0, Vector.replicate n 0)

theorem query_strict {str : List UInt8} {cs : List Char} (h : decode? str = some cs) :
    strict.query str = Int32.ofNat (cs.flatMap utf16EncodeChar).length := by
  simp [strict, h]

theorem strict_documented : strict.Documented where
  query := by
    intro str hempty hlength
    rw [wellFormed_iff_decode?]
    cases hdecode : decode? str with
    | none =>
        simp [strict, hdecode]
    | some cs =>
        have hstr := decode?_eq_some_iff.1 hdecode
        have hle := length_flatMap_utf16EncodeChar_le cs
        rw [← hstr] at hle
        -- A text that is not empty has a character, and that has a unit.
        have hpos : 0 < (cs.flatMap utf16EncodeChar).length := by
          cases cs with
          | nil => exact absurd hstr hempty
          | cons c cs =>
              have hc := List.length_pos_iff.2 (utf16EncodeChar_ne_nil c)
              simp only [List.flatMap_cons, List.length_append]
              omega
        rw [query_strict hdecode, Int32.lt_iff_toInt_lt, Int32.toInt_ofNat_of_lt (by omega)]
        exact iff_of_true (Int.natCast_pos.2 hpos) ⟨cs, rfl⟩
  convert := by
    intro str hlength hpos
    cases hdecode : decode? str with
    | none =>
        simp [strict, hdecode] at hpos
    | some cs =>
        have hle := length_flatMap_utf16EncodeChar_le cs
        rw [← decode?_eq_some_iff.1 hdecode] at hle
        have hfits : (cs.flatMap utf16EncodeChar).length ≤
            (Int32.ofNat (cs.flatMap utf16EncodeChar).length).toNatClampNeg := by
          rw [Int32.toNatClampNeg_ofNat_of_lt (by omega)]
        rw [query_strict hdecode]
        simp only [strict, hdecode, if_pos hfits]

end MultiByteToWideChar

end PexReader
