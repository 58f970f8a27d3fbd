import Mathlib.Tactic.SplitIfs

/-!
# Emission — writers that feed a sink in pieces

A writer runs in an environment, over a state that survives exceptions, and hands pieces of output
to a sink that is part of that state.  `Emits P w chunks` says that from every state that satisfies
`P` the writer ends normally, having done nothing but hand over `chunks` one by one, and that `P`
still holds.  The rules follow the structure of writers: nothing, one piece, a sequence, a look at
the state, a loop over a list.
-/

namespace Emission

/-- A writer with an environment `ρ`, exceptions `ε` and a state `σ` that survives exceptions. -/
abbrev Writer (ρ ε σ α : Type) : Type := ReaderT ρ (EStateM ε σ) α

/-- A state that takes pieces of output. -/
class Sink (ρ σ : Type) (κ : outParam Type) where
  put : ρ → σ → κ → σ

open Sink

variable {ρ ε σ κ α : Type} [Sink ρ σ κ]

/-- The state after the sink took all of `chunks`. -/
def putAll (env : ρ) (s : σ) (chunks : List κ) : σ :=
  chunks.foldl (put env) s

@[simp] theorem putAll_cons (env : ρ) (s : σ) (c : κ) (chunks : List κ) :
    putAll env s (c :: chunks) = putAll env (put env s c) chunks := rfl

theorem putAll_append (env : ρ) (s : σ) (xs ys : List κ) :
    putAll env s (xs ++ ys) = putAll env (putAll env s xs) ys :=
  List.foldl_append

/-- `w` hands over exactly `chunks` and keeps `P`. -/
def Emits (P : σ → Prop) (w : Writer ρ ε σ Unit) (chunks : List κ) : Prop :=
  ∀ env s, P s → w env s = .ok () (putAll env s chunks) ∧ P (putAll env s chunks)

/-- `P` says nothing about the sink. -/
def Stable (ρ : Type) {σ κ : Type} [Sink ρ σ κ] (P : σ → Prop) : Prop :=
  ∀ (env : ρ) s c, P s → P (put env s c)

namespace Emits

variable {P : σ → Prop}

theorem congr {w : Writer ρ ε σ Unit} {xs ys : List κ} (h : Emits P w xs) (hxy : xs = ys) :
    Emits P w ys :=
  hxy ▸ h

theorem nothing : Emits P (pure () : Writer ρ ε σ Unit) ([] : List κ) := by
  intro env s hs
  exact ⟨rfl, hs⟩

theorem piece (hP : Stable ρ P) (c : κ) :
    Emits P (fun env => modify fun s => put env s c : Writer ρ ε σ Unit) [c] := by
  intro env s hs
  exact ⟨rfl, hP env s c hs⟩

theorem seq {w : Writer ρ ε σ Unit} {k : Unit → Writer ρ ε σ Unit} {xs ys : List κ}
    (hw : Emits P w xs) (hk : Emits P (k ()) ys) : Emits P (w >>= k) (xs ++ ys) := by
  intro env s hs
  have hbind : (w >>= k) env s = EStateM.bind (w env) (fun a => k a env) s := rfl
  -- `k` starts in the state that took all of `xs`, and `P` holds there.
  rcases hw env s hs with ⟨hrun, hs₁⟩
  rw [hbind, EStateM.bind, hrun, putAll_append]
  exact hk env _ hs₁

/-- Looking at the state first. -/
theorem look {k : σ → Writer ρ ε σ Unit} {xs : List κ} (hk : ∀ s, P s → Emits P (k s) xs) :
    Emits P (get >>= k) xs := by
  intro env s hs
  exact hk s hs env s hs

/-- An update of the state first, where it changes nothing. -/
theorem adjust {f : σ → σ} {k : Unit → Writer ρ ε σ Unit} {xs : List κ}
    (hf : ∀ s, P s → f s = s) (hk : Emits P (k ()) xs) : Emits P (modify f >>= k) xs := by
  intro env s hs
  have hrun : ((modify f : Writer ρ ε σ Unit) >>= k) env s = k () env (f s) := rfl
  rw [hrun, hf s hs]
  exact hk env s hs

/-- A computation that cannot throw first. -/
theorem value {x : Except ε α} {a : α} {k : α → Writer ρ ε σ Unit} {xs : List κ}
    (hx : x = .ok a) (hk : Emits P (k a) xs) :
    Emits P ((MonadExcept.ofExcept x : Writer ρ ε σ α) >>= k) xs := by
  intro env s hs
  rw [hx]
  exact hk env s hs

/-- A part that is written only when `c` holds. -/
theorem optional {c : Prop} [Decidable c] {w : Writer ρ ε σ Unit} {xs : List κ}
    (hw : c → Emits P w xs) : Emits P (if c then w else pure ()) (if c then xs else []) := by
  split_ifs with hc
  · exact hw hc
  · exact nothing

theorem forM {f : α → Writer ρ ε σ Unit} {g : α → List κ} {l : List α}
    (hf : ∀ x ∈ l, Emits P (f x) (g x)) : Emits P (l.forM f) (l.flatMap g) := by
  induction l with
  | nil =>
      exact nothing
  | cons x l ih =>
      have hx : Emits P (f x) (g x) := hf x (by simp)
      have hl : Emits P (l.forM f) (l.flatMap g) := ih fun y hy => hf y (by simp [hy])
      exact (hx.seq hl).congr (by simp)

end Emits

end Emission
