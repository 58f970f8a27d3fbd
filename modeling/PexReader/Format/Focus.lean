import Mathlib.Tactic.Choose

/-!
# Focus — actions that touch one part of a state

An action with state and exceptions may touch no more than a part of its state.

* `Lens σ τ` is such a part: how it is read off and how it is put back;
* `l.Confines x` says that `x` is an action on the part `l` and on nothing else;
* `Keeps P x` says that `P` holds behind `x` if it holds before, however `x` ends;
* `Respects observe see x` says that `x` does not tell states apart that look alike.

Confined actions are closed under sequencing, and what a confined action answers depends on its part
alone (`Confines.reply_congr`); a part that is disjoint from it is as it was (`Confines.apart`).
-/

namespace Focus

/-! ## Ends -/

section Ends

variable {ε σ τ α β : Type}

/-- The state behind a run, however it ended. -/
def behind : EStateM.Result ε σ α → σ
  | .ok _ s => s
  | .error _ s => s

/-- How a run ended. -/
def reply : EStateM.Result ε σ α → Except ε α
  | .ok a _ => .ok a
  | .error e _ => .error e

/-- The same end with another state behind it. -/
def relocate (f : σ → τ) : EStateM.Result ε σ α → EStateM.Result ε τ α
  | .ok a s => .ok a (f s)
  | .error e s => .error e (f s)

@[simp] theorem behind_ok (a : α) (s : σ) : behind (.ok a s : EStateM.Result ε σ α) = s := rfl

@[simp] theorem behind_error (e : ε) (s : σ) :
    behind (.error e s : EStateM.Result ε σ α) = s := rfl

theorem behind_relocate (f : σ → τ) (r : EStateM.Result ε σ α) :
    behind (relocate f r) = f (behind r) := by
  cases r <;> rfl

theorem reply_relocate (f : σ → τ) (r : EStateM.Result ε σ α) :
    reply (relocate f r) = reply r := by
  cases r <;> rfl

/-- The run of a sequence, part by part. -/
theorem bind_run (x : EStateM ε σ α) (f : α → EStateM ε σ β) (s : σ) :
    (x >>= f) s = match x s with
      | .ok a s₁ => f a s₁
      | .error e s₁ => .error e s₁ := by
  change EStateM.bind x f s = _
  unfold EStateM.bind
  cases x s <;> rfl

theorem map_run (f : α → β) (x : EStateM ε σ α) (s : σ) :
    (f <$> x) s = match x s with
      | .ok a s₁ => .ok (f a) s₁
      | .error e s₁ => .error e s₁ := by
  change EStateM.map f x s = _
  unfold EStateM.map
  cases x s <;> rfl

theorem behind_map (f : α → β) (x : EStateM ε σ α) (s : σ) :
    behind ((f <$> x) s) = behind (x s) := by
  rw [map_run]
  cases x s <;> rfl

end Ends

/-! ## Invariants of actions -/

/-- `P` holds of the state behind `x` if it holds of the state before. -/
def Keeps {ε σ α : Type} (P : σ → Prop) (x : EStateM ε σ α) : Prop :=
  ∀ s, P s → P (behind (x s))

namespace Keeps

variable {ε σ α β : Type} {P : σ → Prop}

theorem pure (a : α) : Keeps P (Pure.pure a : EStateM ε σ α) :=
  fun _ hs => hs

theorem bind {x : EStateM ε σ α} {f : α → EStateM ε σ β} (hx : Keeps P x)
    (hf : ∀ a, Keeps P (f a)) : Keeps P (x >>= f) := by
  intro s hs
  have hbehind := hx s hs
  rw [bind_run]
  cases hrun : x s with
  | ok a s₁ =>
      rw [hrun] at hbehind
      exact hf a s₁ hbehind
  | error e s₁ =>
      rw [hrun] at hbehind
      exact hbehind

end Keeps

/-! ## What an observer sees -/

/-- Where the same is observed of two states, the same is seen of the replies of `x`, and the same
is observed behind it. -/
def Respects {ε σ α ω γ : Type} (observe : σ → ω) (see : α → γ) (x : EStateM ε σ α) : Prop :=
  ∀ s t, observe s = observe t →
    (reply (x s)).map see = (reply (x t)).map see ∧ observe (behind (x s)) = observe (behind (x t))

namespace Respects

variable {ε σ α β ω γ : Type} {observe : σ → ω} {see : β → γ}

theorem pure (b : β) : Respects observe see (Pure.pure b : EStateM ε σ β) :=
  fun _ _ hst => ⟨rfl, hst⟩

/-- What is used of a reply has to be the same as a whole. -/
theorem bind {x : EStateM ε σ α} {f : α → EStateM ε σ β} (hx : Respects observe id x)
    (hf : ∀ a, Respects observe see (f a)) : Respects observe see (x >>= f) := by
  intro s t hst
  rcases hx s t hst with ⟨hreply, hbehind⟩
  rw [bind_run, bind_run]
  cases hs : x s with
  | ok a s₁ =>
      cases ht : x t with
      | ok a' t₁ =>
          rw [hs, ht] at hreply hbehind
          cases hreply
          exact hf a s₁ t₁ hbehind
      | error e t₁ =>
          rw [hs, ht] at hreply
          cases hreply
  | error e s₁ =>
      cases ht : x t with
      | ok a' t₁ =>
          rw [hs, ht] at hreply
          cases hreply
      | error e' t₁ =>
          rw [hs, ht] at hreply hbehind
          cases hreply
          exact ⟨rfl, hbehind⟩

end Respects

/-! ## Parts of a state -/

/-- A part of the states `σ` with values in `τ`. -/
structure Lens (σ τ : Type) where
  get : σ → τ
  put : τ → σ → σ
  get_put : ∀ t s, get (put t s) = t
  put_get : ∀ s, put (get s) s = s
  put_put : ∀ t t' s, put t (put t' s) = put t s

namespace Lens

variable {ε σ τ τ' : Type} {α β : Type}

/-- An action on the part, as an action on the state. -/
def zoom (l : Lens σ τ) (y : EStateM ε τ α) : EStateM ε σ α :=
  fun s => relocate (fun t => l.put t s) (y (l.get s))

/-- The action touches the part and nothing else. -/
def Confines (l : Lens σ τ) (x : EStateM ε σ α) : Prop :=
  ∃ y : EStateM ε τ α, x = l.zoom y

/-- Putting back one part and then the other is the same in either order. -/
def Disjoint (l : Lens σ τ) (m : Lens σ τ') : Prop :=
  ∀ t t' s, l.put t (m.put t' s) = m.put t' (l.put t s)

theorem Disjoint.get_put {l : Lens σ τ} {m : Lens σ τ'} (h : l.Disjoint m) (t : τ) (s : σ) :
    m.get (l.put t s) = m.get s :=
  calc
    m.get (l.put t s)
        = m.get (l.put t (m.put (m.get s) s)) := by rw [m.put_get]
    _ = m.get (m.put (m.get s) (l.put t s)) := by rw [h]
    _ = m.get s := m.get_put _ _

namespace Confines

variable {l : Lens σ τ}

/-! Closure. -/

theorem pure (a : α) : l.Confines (Pure.pure a : EStateM ε σ α) := by
  refine ⟨Pure.pure a, ?_⟩
  funext s
  change EStateM.Result.ok a s = .ok a (l.put (l.get s) s)
  rw [l.put_get]

theorem bind {x : EStateM ε σ α} {f : α → EStateM ε σ β} (hx : l.Confines x)
    (hf : ∀ a, l.Confines (f a)) : l.Confines (x >>= f) := by
  rcases hx with ⟨y, rfl⟩
  choose g hg using hf
  refine ⟨y >>= g, ?_⟩
  funext s
  rw [bind_run, zoom, zoom, bind_run]
  cases y (l.get s) with
  | ok a t =>
      -- The second action finds the part as the first one left it.
      simp only [relocate, hg a, zoom, l.get_put]
      cases g a t with
      | ok b t' => simp only [l.put_put]
      | error e t' => simp only [l.put_put]
  | error e t => rfl

/-- An action that is given by what it makes of the part. -/
theorem of_part {x : EStateM ε σ α} (y : EStateM ε τ α)
    (h : ∀ s, x s = relocate (fun t => l.put t s) (y (l.get s))) : l.Confines x :=
  ⟨y, funext h⟩

/-! What follows. -/

variable {x : EStateM ε σ α}

theorem reply_congr (hx : l.Confines x) {s s' : σ} (h : l.get s = l.get s') :
    reply (x s) = reply (x s') ∧ l.get (behind (x s)) = l.get (behind (x s')) := by
  rcases hx with ⟨y, rfl⟩
  simp only [zoom, reply_relocate, behind_relocate, l.get_put, h, and_self]

/-- Nothing else has changed. -/
theorem behind_eq (hx : l.Confines x) (s : σ) :
    behind (x s) = l.put (l.get (behind (x s))) s := by
  rcases hx with ⟨y, rfl⟩
  simp only [zoom, behind_relocate, l.get_put]

/-- A part that is disjoint is as it was. -/
theorem apart (hx : l.Confines x) {m : Lens σ τ'} (h : l.Disjoint m) (s : σ) :
    m.get (behind (x s)) = m.get s := by
  rw [hx.behind_eq s]
  exact h.get_put _ s

end Confines

end Lens

end Focus
