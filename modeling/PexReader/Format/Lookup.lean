import Mathlib.Data.List.Basic
import Mathlib.Data.List.Forall2

/-!
# Lookup — indexing behind a stored count

A search of nested vectors compares each index with a count that is stored apart from the vector,
then indexes the vector without a check.  It ends in one of three ways: with an element, with the
refusal of an index, or with a fault.

* `found` is a search without a fault;
* `checked` is one comparison and one access, and `checked_eq` says that it is `found` where the
  count is the size;
* `found_bind` chains searches, and `checked_map` and `report_map` are for vectors of images;
* `walk` asks for the elements at the indices below a count, one by one.
-/

namespace Lookup

variable {ε α β : Type}

/-! ## Searches -/

/-- `none` is the refusal of an index. -/
abbrev Search (ε α : Type) : Type :=
  OptionT (Except ε) α

def found (x : Option α) : Search ε α :=
  OptionT.mk (.ok x)

/-- `index >= count` refuses the index; otherwise `xs[index]`, which is a fault past the size. -/
def checked (fault : ε) (xs : List α) (count index : Nat) : Search ε α :=
  if index ≥ count then found none
  else match xs[index]? with
    | some x => found (some x)
    | none => OptionT.mk (.error fault)

/-- A count that is the size rules the fault out. -/
theorem checked_eq {fault : ε} {xs : List α} {count : Nat} (h : xs.length = count) (index : Nat) :
    checked fault xs count index = found xs[index]? := by
  unfold checked
  split_ifs with hindex
  · -- Past the count is past the end.
    rw [List.getElem?_eq_none (by omega)]
  · rw [List.getElem?_eq_getElem (by omega)]

/-- Searches without a fault, one behind the other. -/
theorem found_bind {x : Option α} {f : α → Search ε β} {g : α → Option β}
    (h : ∀ a, x = some a → f a = found (g a)) :
    (found x >>= f) = (found (x.bind g) : Search ε β) := by
  cases x with
  | none => rfl
  | some a => exact h a rfl

/-- A search of the images is the image of the search. -/
theorem checked_map (g : α → β) (fault : ε) (xs : List α) (count index : Nat) :
    checked fault (xs.map g) count index = g <$> checked fault xs count index := by
  unfold checked
  rw [List.getElem?_map]
  split_ifs
  · rfl
  · cases xs[index]? <;> rfl

/-! ## Reports -/

/-- A result code and the caller's storage: 0 and the storage as it was when the search refuses an
index, 1 and the storage with the element in it when it finds one. -/
def report (search : Search ε α) (out : β) (fill : α → Except ε β) : Except ε (Int32 × β) := do
  match ← search.run with
  | none => return (0, out)
  | some x => return (1, ← fill x)

def delivered (x : Option α) (out : β) (fill : α → β) : Int32 × β :=
  match x with
  | none => (0, out)
  | some x => (1, fill x)

theorem report_found {x : Option α} {out : β} {f : α → Except ε β} {fill : α → β}
    (h : ∀ a, x = some a → f a = .ok (fill a)) :
    report (found x) out f = .ok (delivered x out fill) := by
  cases x with
  | none => rfl
  | some a =>
      -- The element is stored before the result code is returned.
      change (do return ((1 : Int32), ← f a)) = Except.ok (1, fill a)
      rw [h a rfl]
      rfl

theorem report_map {γ : Type} (g : α → β) (search : Search ε α) (out : γ)
    (fill : β → Except ε γ) :
    report (g <$> search) out fill = report search out fun x => fill (g x) := by
  unfold report
  rw [OptionT.run_map, bind_map_left]
  refine congrArg _ (funext fun x => ?_)
  cases x <;> rfl

/-! ## Walks -/

/-- The outcome of `get` at each index below `count`. -/
def walk (count : UInt16) (get : UInt16 → Except ε β) : Except ε (List β) :=
  (List.range count.toNat).mapM fun i => get (UInt16.ofNat i)

theorem mapM_eq_ok {f : α → Except ε β} {l : List α} {r : List β}
    (h : List.Forall₂ (fun x y => f x = .ok y) l r) : l.mapM f = .ok r := by
  induction h with
  | nil => rfl
  | cons hx _ ih =>
      rw [List.mapM_cons, hx, ih]
      rfl

/-- A walk up to the size meets every element once, in order: the index at each step is below
`2 ^ 16`, so it is not changed when it is narrowed. -/
theorem walk_eq {xs : List α} {count : UInt16} {get : UInt16 → Except ε β} {f : α → β}
    (hcount : xs.length = count.toNat)
    (hget : ∀ (i : UInt16) x, xs[i.toNat]? = some x → get i = .ok (f x)) :
    walk count get = .ok (xs.map f) := by
  refine mapM_eq_ok (List.forall₂_iff_get.2 ⟨by simp [hcount], ?_⟩)
  intro i hi hmap
  have hlt : i < count.toNat := by simpa using hi
  have hindex : (UInt16.ofNat i).toNat = i :=
    UInt16.toNat_ofNat_of_lt' (Nat.lt_trans hlt count.toNat_lt)
  simp only [List.get_eq_getElem, List.getElem_range, List.getElem_map]
  exact hget _ _ (by rw [hindex]; exact List.getElem?_eq_getElem _)

/-- A walk whose calls deliver the elements themselves gives the list back. -/
theorem walk_self {xs : List α} {count : UInt16} {get : UInt16 → Except ε α}
    (hcount : xs.length = count.toNat)
    (hget : ∀ (i : UInt16) x, xs[i.toNat]? = some x → get i = .ok x) :
    walk count get = .ok xs := by
  have hwalk := walk_eq (f := id) hcount hget
  simpa using hwalk

end Lookup
