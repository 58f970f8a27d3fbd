import PexReader.Format.Focus
import PexReader.Format.Metered

/-!
# Footprint — what a reader leaves behind when it fails

`Parses` speaks of successes alone.  A reader that fails has also looked at some of its input and
paid for some of what it announced, and its failure is a result like any other.  What is known of
every end of a reader is known of the few readers that it is put together from:

* `Program basic depth paid r` says that `r` is put together from `basic` readers by returning,
  throwing and sequencing.  A charge is outstanding until as many bytes have been read: at most
  `depth` charges are outstanding at a time, and a success has read `paid` bytes more than it was
  charged for.
* `Local r` says that `r`, whether it succeeds or fails, depends on the part of the input that it
  moves past and on the length of the rest.
* `Tracks P change gaveUp env r` says that `r` does not notice that a state is changed, unless it
  gives up.
* `Frugal env depth paid r` bounds what `r` has spent by what it has read, also where it fails:
  there each outstanding charge counts for the whole input.

`Program.isLocal`, `Program.tracks` and `Program.frugal` carry the three from the basic readers to
all programs.
-/

namespace Metered

open Cursor Focus

/-- A cursor whose input can be exchanged. -/
class Tape (σ : Type) [Cursor σ] where
  onto : List UInt8 → σ → σ
  rest_onto : ∀ l s, rest (onto l s) = l
  onto_rest : ∀ s, onto (rest s) s = s
  onto_onto : ∀ l l' s, onto l (onto l' s) = onto l s

attribute [simp] Tape.rest_onto Tape.onto_rest Tape.onto_onto

section Readers

variable {ρ ε σ : Type} {α β : Type}

/-- A sequence that fails fails in one of its parts. -/
theorem bind_eq_error {r : Reader ρ ε σ α} {k : α → Reader ρ ε σ β} {env : ρ} {s s' : σ} {e : ε} :
    (r >>= k) env s = .error e s' ↔
      r env s = .error e s' ∨ ∃ a s₁, r env s = .ok a s₁ ∧ k a env s₁ = .error e s' := by
  rw [bind_run]
  cases r env s with
  | ok a s₁ =>
      simp
  | error e₁ s₁ =>
      simp

/-- What the parts of a sequence leave as it is. -/
theorem behind_bind {τ : Type} {f : σ → τ} {r : Reader ρ ε σ α} {k : α → Reader ρ ε σ β} {env : ρ}
    {s : σ} (hr : f (behind (r env s)) = f s) (hk : ∀ a s, f (behind (k a env s)) = f s) :
    f (behind ((r >>= k) env s)) = f s := by
  rw [bind_run]
  cases hrun : r env s with
  | ok a s₁ =>
      rw [hrun] at hr
      exact (hk a s₁).trans hr
  | error e s₁ =>
      rw [hrun] at hr
      exact hr

/-! ## Programs -/

/-- `r` is put together from basic readers. A basic reader comes with what it charges and with the
bytes that it reads, if it succeeds. -/
inductive Program (basic : ∀ ⦃α : Type⦄, Nat → Nat → Reader ρ ε σ α → Prop) :
    ∀ {α : Type}, Nat → Nat → Reader ρ ε σ α → Prop
  | basic {α : Type} {paid : Nat} {r : Reader ρ ε σ α} (h : basic 0 paid r) :
      Program basic 0 paid r
  | pure {α : Type} (a : α) : Program basic 0 0 (pure a)
  | throw {α : Type} (e : ε) (paid : Nat) :
      Program basic 0 paid (MonadExcept.throw e : Reader ρ ε σ α)
  | bind {α β : Type} {depth m n : Nat} {r : Reader ρ ε σ α} {k : α → Reader ρ ε σ β}
      (hr : Program basic depth m r) (hk : ∀ a, Program basic depth n (k a)) :
      Program basic depth (m + n) (r >>= k)
  /-- What follows the charge reads the bytes that settle it. -/
  | charged {β : Type} {depth n paid : Nat} {check : Reader ρ ε σ Unit}
      {r : Unit → Reader ρ ε σ β} (h : basic n 0 check)
      (hr : Program basic depth (n + paid) (r ())) :
      Program basic (depth + 1) paid (check >>= r)
  | weaken {α : Type} {depth depth' paid paid' : Nat} {r : Reader ρ ε σ α}
      (hr : Program basic depth paid r) (hdepth : depth ≤ depth') (hpaid : paid' ≤ paid) :
      Program basic depth' paid' r

namespace Program

variable {basic : ∀ ⦃α : Type⦄, Nat → Nat → Reader ρ ε σ α → Prop} {depth paid : Nat}

/-- A part in front that reads something or nothing. -/
theorem before {m n : Nat} {r : Reader ρ ε σ α} {k : α → Reader ρ ε σ β}
    (hr : Program basic depth m r) (hk : ∀ a, Program basic depth n (k a)) :
    Program basic depth n (r >>= k) :=
  (hr.bind hk).weaken (Nat.le_refl _) (Nat.le_add_left _ _)

/-- What follows a part that has read something need not read anything. -/
theorem leading {r : Reader ρ ε σ α} {k : α → Reader ρ ε σ β} (hr : Program basic depth 1 r)
    (hk : ∀ a, Program basic depth 0 (k a)) : Program basic depth 1 (r >>= k) :=
  hr.bind hk

theorem result (a : α) : Program basic depth 0 (Pure.pure a : Reader ρ ε σ α) :=
  (Program.pure a).weaken (Nat.zero_le _) (Nat.le_refl _)

theorem failure (e : ε) : Program basic depth paid (MonadExcept.throw e : Reader ρ ε σ α) :=
  (Program.throw e paid).weaken (Nat.zero_le _) (Nat.le_refl _)

theorem ofExcept (x : Except ε α) :
    Program basic depth 0 (MonadExcept.ofExcept x : Reader ρ ε σ α) := by
  cases x with
  | ok a => exact result a
  | error e => exact failure e

theorem readLoop {r : Reader ρ ε σ α} (hr : Program basic depth paid r) (n : Nat) :
    Program basic depth (n * paid) (readLoop n r) := by
  induction n with
  | zero =>
      rw [Nat.zero_mul]
      exact result []
  | succ n ih =>
      rw [Nat.succ_mul, Nat.add_comm]
      exact hr.bind fun x => ih.bind fun xs => result (x :: xs)

/-- What no basic reader changes is as it was behind every program. -/
theorem unchanged {τ : Type} {f : σ → τ}
    (hbasic : ∀ {α : Type} {charged paid : Nat} {r : Reader ρ ε σ α}, basic charged paid r →
      ∀ env s, f (behind (r env s)) = f s)
    {r : Reader ρ ε σ α} (h : Program basic depth paid r) (env : ρ) (s : σ) :
    f (behind (r env s)) = f s := by
  induction h generalizing s with
  | basic h => exact hbasic h env s
  | pure a => rfl
  | throw e paid => rfl
  | bind _ _ ihr ihk => exact behind_bind (ihr s) ihk
  | charged h _ ihr => exact behind_bind (hbasic h env s) fun _ => ihr
  | weaken _ _ _ ihr => exact ihr s

end Program

/-! ## Readers that give up -/

section Tracks

/-- In a state that is changed by `change` the reader does what it does in the state itself, or it
gives up with one of some errors. -/
def Tracks (P : σ → Prop) (change : σ → σ) (gaveUp : ε → Prop) (env : ρ) (r : Reader ρ ε σ α) :
    Prop :=
  ∀ s, P s → (P (behind (r env s)) ∧ r env (change s) = relocate change (r env s)) ∨
    ∃ e s', r env (change s) = .error e s' ∧ gaveUp e

namespace Tracks

variable {P : σ → Prop} {change : σ → σ} {gaveUp : ε → Prop} {env : ρ}

theorem pure (a : α) : Tracks P change gaveUp env (Pure.pure a : Reader ρ ε σ α) :=
  fun _ hs => Or.inl ⟨hs, rfl⟩

theorem throw (e : ε) :
    Tracks P change gaveUp env (MonadExcept.throw e : Reader ρ ε σ α) :=
  fun _ hs => Or.inl ⟨hs, rfl⟩

theorem bind {r : Reader ρ ε σ α} {k : α → Reader ρ ε σ β} (hr : Tracks P change gaveUp env r)
    (hk : ∀ a, Tracks P change gaveUp env (k a)) : Tracks P change gaveUp env (r >>= k) := by
  intro s hs
  simp only [bind_run]
  rcases hr s hs with ⟨hbehind, hsame⟩ | ⟨e, s', hrun, hgaveUp⟩
  · rw [hsame]
    cases hrun : r env s with
    | ok a s₁ =>
        rw [hrun] at hbehind
        exact hk a s₁ hbehind
    | error e s₁ =>
        rw [hrun] at hbehind
        exact Or.inl ⟨hbehind, rfl⟩
  · rw [hrun]
    exact Or.inr ⟨e, s', rfl, hgaveUp⟩

end Tracks

theorem Program.tracks {basic : ∀ ⦃α : Type⦄, Nat → Nat → Reader ρ ε σ α → Prop} {P : σ → Prop}
    {change : σ → σ} {gaveUp : ε → Prop} {env : ρ}
    (hbasic : ∀ {α : Type} {charged paid : Nat} {r : Reader ρ ε σ α}, basic charged paid r →
      Tracks P change gaveUp env r)
    {depth paid : Nat} {r : Reader ρ ε σ α} (h : Program basic depth paid r) :
    Tracks P change gaveUp env r := by
  induction h with
  | basic h => exact hbasic h
  | pure a => exact Tracks.pure a
  | throw e paid => exact Tracks.throw e
  | bind _ _ ihr ihk => exact ihr.bind ihk
  | charged h _ ihr => exact (hbasic h).bind fun _ => ihr
  | weaken _ _ _ ihr => exact ihr

end Tracks

/-! ## What a reader looks at -/

section Local

variable [Cursor σ] [Tape σ]

/-- The reader moves past `n` bytes, be it on the way to a success or to a failure, and does the
same on every input of this length that starts with these bytes. -/
def Local (r : Reader ρ ε σ α) : Prop :=
  ∀ env s, ∃ n ≤ (rest s).length, rest (behind (r env s)) = (rest s).drop n ∧
    ∀ l, l.length = (rest s).length → l.take n = (rest s).take n →
      r env (Tape.onto l s) = relocate (Tape.onto (l.drop n)) (r env s)

namespace Local

/-- A reader that moves nowhere and only looks at the account. -/
theorem of_still {r : Reader ρ ε σ α} (hrest : ∀ env s, rest (behind (r env s)) = rest s)
    (h : ∀ env s l, r env (Tape.onto l s) = relocate (Tape.onto l) (r env s)) : Local r := by
  intro env s
  refine ⟨0, Nat.zero_le _, hrest env s, ?_⟩
  intro l _ _
  exact h env s l

theorem pure (a : α) : Local (Pure.pure a : Reader ρ ε σ α) :=
  of_still (fun _ _ => rfl) (fun _ _ _ => rfl)

theorem throw (e : ε) : Local (MonadExcept.throw e : Reader ρ ε σ α) :=
  of_still (fun _ _ => rfl) (fun _ _ _ => rfl)

theorem bind {r : Reader ρ ε σ α} {k : α → Reader ρ ε σ β} (hr : Local r)
    (hk : ∀ a, Local (k a)) : Local (r >>= k) := by
  intro env s
  rcases hr env s with ⟨m, hm, hrest, hsame⟩
  simp only [bind_run]
  cases hrun : r env s with
  | error e s₁ =>
      rw [hrun] at hrest hsame
      refine ⟨m, hm, hrest, ?_⟩
      intro l hlength htake
      rw [hsame l hlength htake]
      rfl
  | ok a s₁ =>
      rw [hrun] at hrest hsame
      have hrest₁ : rest s₁ = (rest s).drop m := hrest
      rcases hk a env s₁ with ⟨n, hn, hrest', hsame'⟩
      rw [hrest₁, List.length_drop] at hn
      refine ⟨m + n, by omega, ?_, ?_⟩
      · simpa only [hrest₁, List.drop_drop] using hrest'
      · intro l hlength htake
        -- The first part sees its own bytes, and the second part those behind them.
        have hfront : l.take m = (rest s).take m := by
          have hcut := congrArg (List.take m) htake
          simpa only [List.take_take, Nat.min_eq_left (Nat.le_add_right m n)] using hcut
        have hback : (l.drop m).take n = (rest s₁).take n := by
          have hcut := congrArg (List.drop m) htake
          simpa only [hrest₁, List.drop_take, Nat.add_sub_cancel_left] using hcut
        rw [hsame l hlength hfront]
        have hnext := hsame' (l.drop m) (by simp [hrest₁, hlength]) hback
        simpa only [relocate, List.drop_drop] using hnext

end Local

theorem Program.isLocal {basic : ∀ ⦃α : Type⦄, Nat → Nat → Reader ρ ε σ α → Prop}
    (hbasic : ∀ {α : Type} {charged paid : Nat} {r : Reader ρ ε σ α}, basic charged paid r →
      Local r)
    {depth paid : Nat} {r : Reader ρ ε σ α} (h : Program basic depth paid r) : Local r := by
  induction h with
  | basic h => exact hbasic h
  | pure a => exact Local.pure a
  | throw e paid => exact Local.throw e
  | bind _ _ ihr ihk => exact ihr.bind ihk
  | charged h _ ihr => exact (hbasic h).bind fun _ => ihr
  | weaken _ _ _ ihr => exact ihr

end Local

/-! ## What a reader spends -/

section Frugal

variable [Cursor σ]

/-- `s'` is a valid state that lies behind `s`. -/
def Ahead (s s' : σ) : Prop :=
  Valid s' ∧ (rest s').length ≤ (rest s).length

theorem Ahead.refl {s : σ} (hs : Valid s) : Ahead s s :=
  ⟨hs, Nat.le_refl _⟩

theorem Ahead.trans {s₁ s₂ s₃ : σ} (h : Ahead s₁ s₂) (h' : Ahead s₂ s₃) : Ahead s₁ s₃ :=
  ⟨h'.1, Nat.le_trans h'.2 h.2⟩

/-- A basic reader: it charges what the input can still hold, and nothing if it fails. -/
structure Charges (env : ρ) (charged paid : Nat) (r : Reader ρ ε σ α) : Prop where
  ok : ∀ s, Valid s → ∀ a s', r env s = .ok a s' → Ahead s s' ∧ charged ≤ (rest s).length ∧
    spent s' + (rest s').length + paid ≤ spent s + charged + (rest s).length
  error : ∀ s, Valid s → ∀ e s', r env s = .error e s' → Ahead s s' ∧ spent s' ≤ spent s

/-- A success has spent at most what it has read, less what it has paid in advance; a failure may
have spent the length of the input once more for each charge that is outstanding. -/
structure Frugal (env : ρ) (depth paid : Nat) (r : Reader ρ ε σ α) : Prop where
  ok : ∀ s, Valid s → ∀ a s', r env s = .ok a s' → Ahead s s' ∧
    spent s' + (rest s').length + paid ≤ spent s + (rest s).length
  error : ∀ s, Valid s → ∀ e s', r env s = .error e s' → Ahead s s' ∧
    spent s' + (rest s').length ≤ spent s + (rest s).length + depth * (rest s).length

namespace Frugal

variable {env : ρ} {depth m n paid : Nat}

theorem basic {r : Reader ρ ε σ α} (h : Charges env 0 paid r) : Frugal env 0 paid r where
  ok := by
    intro s hs a s' hrun
    rcases h.ok s hs a s' hrun with ⟨hahead, -, hspent⟩
    exact ⟨hahead, hspent⟩
  error := by
    intro s hs e s' hrun
    rcases h.error s hs e s' hrun with ⟨hahead, hspent⟩
    have hle := hahead.2
    exact ⟨hahead, by omega⟩

theorem pure (a : α) : Frugal env 0 0 (Pure.pure a : Reader ρ ε σ α) where
  ok := by
    rintro s hs _ _ ⟨⟩
    exact ⟨.refl hs, Nat.le_refl _⟩
  error := by
    rintro s hs _ _ ⟨⟩

theorem throw (e : ε) (paid : Nat) :
    Frugal env 0 paid (MonadExcept.throw e : Reader ρ ε σ α) where
  ok := by
    rintro s hs _ _ ⟨⟩
  error := by
    rintro s hs _ _ ⟨⟩
    exact ⟨.refl hs, by omega⟩

theorem weaken {depth' paid' : Nat} {r : Reader ρ ε σ α} (h : Frugal env depth paid r)
    (hdepth : depth ≤ depth') (hpaid : paid' ≤ paid) : Frugal env depth' paid' r where
  ok := by
    intro s hs a s' hrun
    rcases h.ok s hs a s' hrun with ⟨hahead, hspent⟩
    exact ⟨hahead, by omega⟩
  error := by
    intro s hs e s' hrun
    rcases h.error s hs e s' hrun with ⟨hahead, hspent⟩
    have hmul := Nat.mul_le_mul_right (rest s).length hdepth
    exact ⟨hahead, by omega⟩

theorem bind {r : Reader ρ ε σ α} {k : α → Reader ρ ε σ β} (hr : Frugal env depth m r)
    (hk : ∀ a, Frugal env depth n (k a)) : Frugal env depth (m + n) (r >>= k) where
  ok := by
    intro s hs b s' hrun
    rcases bind_eq_ok.1 hrun with ⟨a, s₁, hrun₁, hrun₂⟩
    rcases hr.ok s hs a s₁ hrun₁ with ⟨hahead₁, hspent₁⟩
    rcases (hk a).ok s₁ hahead₁.1 b s' hrun₂ with ⟨hahead₂, hspent₂⟩
    exact ⟨hahead₁.trans hahead₂, by omega⟩
  error := by
    intro s hs e s' hrun
    rcases bind_eq_error.1 hrun with hrun₁ | ⟨a, s₁, hrun₁, hrun₂⟩
    · exact hr.error s hs e s' hrun₁
    · rcases hr.ok s hs a s₁ hrun₁ with ⟨hahead₁, hspent₁⟩
      rcases (hk a).error s₁ hahead₁.1 e s' hrun₂ with ⟨hahead₂, hspent₂⟩
      -- What the second part may leave outstanding counts for less behind the first.
      have hmul := Nat.mul_le_mul_left depth hahead₁.2
      exact ⟨hahead₁.trans hahead₂, by omega⟩

theorem charged {check : Reader ρ ε σ Unit} {r : Unit → Reader ρ ε σ β}
    (hcheck : Charges env n 0 check) (hr : Frugal env depth (n + paid) (r ())) :
    Frugal env (depth + 1) paid (check >>= r) where
  ok := by
    intro s hs b s' hrun
    rcases bind_eq_ok.1 hrun with ⟨⟨⟩, s₁, hrun₁, hrun₂⟩
    rcases hcheck.ok s hs () s₁ hrun₁ with ⟨hahead₁, -, hspent₁⟩
    rcases hr.ok s₁ hahead₁.1 b s' hrun₂ with ⟨hahead₂, hspent₂⟩
    exact ⟨hahead₁.trans hahead₂, by omega⟩
  error := by
    intro s hs e s' hrun
    rw [Nat.succ_mul]
    rcases bind_eq_error.1 hrun with hrun₁ | ⟨⟨⟩, s₁, hrun₁, hrun₂⟩
    · rcases hcheck.error s hs e s' hrun₁ with ⟨hahead, hspent⟩
      have hle := hahead.2
      exact ⟨hahead, by omega⟩
    · rcases hcheck.ok s hs () s₁ hrun₁ with ⟨hahead₁, hcharged, hspent₁⟩
      rcases hr.error s₁ hahead₁.1 e s' hrun₂ with ⟨hahead₂, hspent₂⟩
      -- The charge itself is outstanding, and no larger than the input.
      have hmul := Nat.mul_le_mul_left depth hahead₁.2
      exact ⟨hahead₁.trans hahead₂, by omega⟩

/-- However the reader ends, it has spent a fixed number of times the length of its input. -/
theorem spent_le {r : Reader ρ ε σ α} (h : Frugal env depth paid r) {s : σ} (hs : Valid s) :
    Valid (behind (r env s)) ∧
      spent (behind (r env s)) ≤ spent s + (depth + 1) * (rest s).length := by
  rw [Nat.succ_mul]
  cases hrun : r env s with
  | ok a s' =>
      rcases h.ok s hs a s' hrun with ⟨hahead, hspent⟩
      exact ⟨hahead.1, by simp only [behind_ok]; omega⟩
  | error e s' =>
      rcases h.error s hs e s' hrun with ⟨hahead, hspent⟩
      exact ⟨hahead.1, by simp only [behind_error]; omega⟩

end Frugal

theorem Program.frugal {basic : ∀ ⦃α : Type⦄, Nat → Nat → Reader ρ ε σ α → Prop} {env : ρ}
    (hbasic : ∀ {α : Type} {charged paid : Nat} {r : Reader ρ ε σ α}, basic charged paid r →
      Charges env charged paid r)
    {depth paid : Nat} {r : Reader ρ ε σ α} (h : Program basic depth paid r) :
    Frugal env depth paid r := by
  induction h with
  | basic h => exact .basic (hbasic h)
  | pure a => exact .pure a
  | throw e paid => exact .throw e paid
  | bind _ _ ihr ihk => exact ihr.bind ihk
  | charged h _ ihr => exact .charged (hbasic h) ihr
  | weaken _ hdepth hpaid ihr => exact ihr.weaken hdepth hpaid

end Frugal

end Readers

end Metered
