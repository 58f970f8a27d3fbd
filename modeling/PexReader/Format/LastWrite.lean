import Mathlib.Data.List.Basic

/-!
# LastWrite — a log of replacements, position by position

A log replaces elements of a list one after the other.  Read position by position, what counts is
the last replacement at that position; the positions do not interact.  `overwrite_cons` is the
step from which a run of replacements is followed.
-/

namespace LastWrite

variable {α : Type}

/-- The last replacement at position `i`, if there is one. -/
def lastWrite : List (Nat × α) → Nat → Option α
  | [], _ => none
  | w :: log, i => (lastWrite log i).or (if w.1 = i then some w.2 else none)

/-- The list with every position replaced by its last replacement. -/
def overwrite (log : List (Nat × α)) (l : List α) : List α :=
  l.mapIdx fun i x => (lastWrite log i).getD x

@[simp] theorem overwrite_nil (l : List α) : overwrite [] l = l := by
  refine List.ext_getElem (by simp [overwrite]) ?_
  intro i h₁ h₂
  simp [overwrite, lastWrite]

theorem getElem?_overwrite (log : List (Nat × α)) (l : List α) (i : Nat) :
    (overwrite log l)[i]? = l[i]?.map fun x => (lastWrite log i).getD x := by
  simp [overwrite]

/-- The first entry of a log acts first. -/
theorem overwrite_cons (w : Nat × α) (log : List (Nat × α)) (l : List α) :
    overwrite (w :: log) l = overwrite log (l.set w.1 w.2) := by
  refine List.ext_getElem? ?_
  intro i
  rw [getElem?_overwrite, getElem?_overwrite]
  by_cases hi : w.1 = i
  · subst hi
    -- At the position of `w`: a later replacement hides it, and without one it is what `set` put.
    cases hlast : lastWrite log w.1 with
    | none =>
        by_cases hlt : w.1 < l.length
        · simp [lastWrite, hlast, hlt]
        · simp [lastWrite, hlt]
    | some y =>
        by_cases hlt : w.1 < l.length
        · simp [lastWrite, hlast, hlt]
        · simp [hlt]
  · -- Elsewhere neither side sees `w`.
    simp [lastWrite, hi, List.getElem?_set_ne]

end LastWrite
