import Mathlib.Algebra.GroupWithZero.Nat
import Mathlib.Data.List.Basic

/-!
# Metered — byte formats whose values have a price

A reader takes bytes off the front of its input and pays, out of a bounded budget, for what it
builds.  This module relates such readers to the formats they accept:

* `Format α` says which bytes spell which value, and at what cost;
* `Cursor σ` is what a reader's state must offer: the bytes left, the budget spent, and one way to
  move forward;
* `Parses r F` says that `r` succeeds *exactly* when the input starts with a spelling of `F` that
  the budget affords, and that it then moves past that spelling and pays its cost.

`Parses` is an equivalence, so soundness (what was accepted is a spelling) and completeness (every
affordable spelling is accepted) are carried through the rules together.  A check that looks ahead
(`Admits`) needs no rule for its failures: `Parses.guard` shows that it cannot be noticed when the
bytes it asks for are consumed afterwards anyway.

`Agrees r r'` compares two readers from the states that can occur, failures included: they may
differ in what never happens there.
-/

namespace Metered

/-! ## Formats -/

/-- `F v bs c`: the bytes `bs` spell the value `v` at cost `c`. -/
abbrev Format (α : Type) : Type := α → List UInt8 → Nat → Prop

namespace Format

variable {α β : Type}

/-- The format given by an encoder on the values that satisfy `WF`. -/
def coded (WF : α → Prop) (enc : α → List UInt8) (cost : α → Nat) : Format α :=
  fun v bs c => WF v ∧ bs = enc v ∧ c = cost v

/-- No bytes, no cost, one value. -/
protected def pure (a : α) : Format α :=
  fun v bs c => v = a ∧ bs = [] ∧ c = 0

/-- No spelling at all. -/
def none : Format α :=
  fun _ _ _ => False

/-- A spelling of `F` followed by one of the format its value selects. -/
protected def bind (F : Format α) (G : α → Format β) : Format β :=
  fun v bs c => ∃ a bs₁ c₁ bs₂ c₂,
    F a bs₁ c₁ ∧ G a v bs₂ c₂ ∧ bs = bs₁ ++ bs₂ ∧ c = c₁ + c₂

/-- `F` at a price raised by `n`. -/
def surcharge (n : Nat) (F : Format α) : Format α :=
  fun v bs c => ∃ c₁, F v bs c₁ ∧ c = n + c₁

/-- A spelling of `F` followed by one of the format that its length and its value select. -/
def measured (F : Format α) (G : Nat → α → Format β) : Format β :=
  fun v bs c => ∃ a bs₁ c₁ bs₂ c₂,
    F a bs₁ c₁ ∧ G bs₁.length a v bs₂ c₂ ∧ bs = bs₁ ++ bs₂ ∧ c = c₁ + c₂

/-- Every spelling of `F` has at least `n` bytes. -/
def AtLeast (n : Nat) (F : Format α) : Prop :=
  ∀ v bs c, F v bs c → n ≤ bs.length

/-! A sequence of coded parts, spelled out. -/

theorem coded_iff {WF : α → Prop} {enc : α → List UInt8} {cost : α → Nat} {v : α}
    {bs : List UInt8} {c : Nat} : coded WF enc cost v bs c ↔ WF v ∧ bs = enc v ∧ c = cost v :=
  Iff.rfl

@[simp] theorem pure_iff {a v : α} {bs : List UInt8} {c : Nat} :
    Format.pure a v bs c ↔ v = a ∧ bs = [] ∧ c = 0 :=
  Iff.rfl

@[simp] theorem none_iff {v : α} {bs : List UInt8} {c : Nat} : Format.none v bs c ↔ False :=
  Iff.rfl

@[simp] theorem bind_coded_iff {WF : α → Prop} {enc : α → List UInt8} {cost : α → Nat}
    {G : α → Format β} {v : β} {bs : List UInt8} {c : Nat} :
    (coded WF enc cost).bind G v bs c ↔
      ∃ a, WF a ∧ ∃ bs₂ c₂, G a v bs₂ c₂ ∧ bs = enc a ++ bs₂ ∧ c = cost a + c₂ := by
  constructor
  · rintro ⟨a, _, _, bs₂, c₂, ⟨ha, rfl, rfl⟩, hG, rfl, rfl⟩
    exact ⟨a, ha, bs₂, c₂, hG, rfl, rfl⟩
  · rintro ⟨a, ha, bs₂, c₂, hG, rfl, rfl⟩
    exact ⟨a, _, _, bs₂, c₂, ⟨ha, rfl, rfl⟩, hG, rfl, rfl⟩

end Format

/-! ## Cursors -/

/-- What a metered reader's state offers. `advance n c` moves past `n` bytes and pays `c`; the laws
hold in the states the reader reaches, which `Valid` describes. -/
class Cursor (σ : Type) where
  rest : σ → List UInt8
  spent : σ → Nat
  limit : Nat
  Valid : σ → Prop
  advance : Nat → Nat → σ → σ
  spent_le : ∀ s, Valid s → spent s ≤ limit
  advance_zero : ∀ s, advance 0 0 s = s
  advance_advance : ∀ m c n d s, advance n d (advance m c s) = advance (m + n) (c + d) s
  rest_advance : ∀ n c s, rest (advance n c s) = (rest s).drop n
  spent_advance : ∀ n c s, Valid s → spent s + c ≤ limit → spent (advance n c s) = spent s + c
  valid_advance : ∀ n c s, Valid s → n ≤ (rest s).length → spent s + c ≤ limit →
    Valid (advance n c s)

namespace Cursor

attribute [simp] advance_zero advance_advance rest_advance

variable {σ : Type} [Cursor σ] {α β : Type}

/-- `s` offers a spelling of `v` that the budget affords, and `s'` is the state behind it. -/
def Takes (F : Format α) (s : σ) (v : α) (s' : σ) : Prop :=
  ∃ bs c, F v bs c ∧ bs <+: rest s ∧ spent s + c ≤ limit σ ∧ s' = advance bs.length c s

theorem Takes.valid {F : Format α} {s s' : σ} {v : α} (h : Takes F s v s') (hs : Valid s) :
    Valid s' := by
  rcases h with ⟨bs, c, -, hpre, hspent, rfl⟩
  exact valid_advance bs.length c s hs hpre.length_le hspent

/-- Two pieces start a list when the first starts it and the second starts what is left. -/
theorem append_prefix_iff {xs ys l : List UInt8} :
    xs ++ ys <+: l ↔ xs <+: l ∧ ys <+: l.drop xs.length := by
  constructor
  · rintro ⟨t, rfl⟩
    refine ⟨⟨ys ++ t, by simp⟩, ⟨t, ?_⟩⟩
    simp
  · rintro ⟨⟨t, rfl⟩, hys⟩
    have hys' : ys <+: t := by simpa using hys
    rcases hys' with ⟨u, rfl⟩
    exact ⟨u, by simp⟩

/-- Taking a sequence is taking its parts one after the other. -/
theorem takes_measured {F : Format α} {G : Nat → α → Format β} {s s' : σ} {v : β}
    (hs : Valid s) :
    Takes (F.measured G) s v s' ↔ ∃ a bs₁ c₁, F a bs₁ c₁ ∧ bs₁ <+: rest s ∧
      spent s + c₁ ≤ limit σ ∧ Takes (G bs₁.length a) (advance bs₁.length c₁ s) v s' := by
  constructor
  · rintro ⟨bs, c, ⟨a, bs₁, c₁, bs₂, c₂, hF, hG, rfl, rfl⟩, hpre, hspent, rfl⟩
    -- A budget that affords both parts affords the first.
    rcases append_prefix_iff.1 hpre with ⟨hpre₁, hpre₂⟩
    have hspent₁ : spent s + c₁ ≤ limit σ := by omega
    refine ⟨a, bs₁, c₁, hF, hpre₁, hspent₁, ⟨bs₂, c₂, hG, ?_, ?_, ?_⟩⟩
    · simpa using hpre₂
    · rw [spent_advance _ _ _ hs hspent₁]
      omega
    · simp
  · rintro ⟨a, bs₁, c₁, hF, hpre₁, hspent₁, ⟨bs₂, c₂, hG, hpre₂, hspent₂, rfl⟩⟩
    -- What the second part may cost was counted behind the first.
    rw [spent_advance _ _ _ hs hspent₁] at hspent₂
    refine ⟨bs₁ ++ bs₂, c₁ + c₂, ⟨a, bs₁, c₁, bs₂, c₂, hF, hG, rfl, rfl⟩, ?_, ?_, ?_⟩
    · exact append_prefix_iff.2 ⟨hpre₁, by simpa using hpre₂⟩
    · omega
    · simp

theorem takes_bind {F : Format α} {G : α → Format β} {s s' : σ} {v : β} (hs : Valid s) :
    Takes (F.bind G) s v s' ↔ ∃ a s₁, Takes F s a s₁ ∧ Takes (G a) s₁ v s' := by
  refine (takes_measured (G := fun _ => G) hs).trans ?_
  constructor
  · rintro ⟨a, bs₁, c₁, hF, hpre₁, hspent₁, hG⟩
    exact ⟨a, _, ⟨bs₁, c₁, hF, hpre₁, hspent₁, rfl⟩, hG⟩
  · rintro ⟨a, s₁, ⟨bs₁, c₁, hF, hpre₁, hspent₁, rfl⟩, hG⟩
    exact ⟨a, bs₁, c₁, hF, hpre₁, hspent₁, hG⟩

end Cursor

open Cursor

/-! ## Readers -/

section Readers

variable {ρ ε σ : Type} {α β : Type}

/-- A reader with an environment `ρ`, exceptions `ε` and a state `σ` that survives exceptions. -/
abbrev Reader (ρ ε σ α : Type) : Type := ReaderT ρ (EStateM ε σ) α

/-- The run of a sequence, part by part. -/
theorem bind_run (r : Reader ρ ε σ α) (k : α → Reader ρ ε σ β) (env : ρ) (s : σ) :
    (r >>= k) env s = match r env s with
      | .ok a s₁ => k a env s₁
      | .error e s₁ => .error e s₁ := rfl

/-- A successful run of a sequence is a successful run of each part. -/
theorem bind_eq_ok {r : Reader ρ ε σ α} {k : α → Reader ρ ε σ β} {env : ρ} {s s' : σ} {v : β} :
    (r >>= k) env s = .ok v s' ↔ ∃ a s₁, r env s = .ok a s₁ ∧ k a env s₁ = .ok v s' := by
  rw [bind_run]
  cases r env s with
  | ok a s₁ =>
      simp
  | error e s₁ =>
      simp

theorem get_bind (k : σ → Reader ρ ε σ β) (env : ρ) (s : σ) :
    ((get : Reader ρ ε σ σ) >>= k) env s = k s env s := rfl

theorem readThe_bind (k : ρ → Reader ρ ε σ β) (env : ρ) (s : σ) :
    ((readThe ρ : Reader ρ ε σ ρ) >>= k) env s = k env env s := rfl

variable [Cursor σ]

/-- `r` accepts exactly the affordable spellings of `F`, in every environment. -/
def Parses (r : Reader ρ ε σ α) (F : Format α) : Prop :=
  ∀ env s, Valid s → ∀ v s', r env s = .ok v s' ↔ Takes F s v s'

/-- `check` pays `n` and moves nowhere; it may fail only when fewer than `need` bytes are left or
the budget is exceeded. -/
def Admits (check : Reader ρ ε σ Unit) (n need : Nat) : Prop :=
  ∀ env s, Valid s →
    (∀ s', check env s = .ok () s' → spent s + n ≤ limit σ ∧ s' = advance 0 n s) ∧
    (spent s + n ≤ limit σ → need ≤ (rest s).length → check env s = .ok () (advance 0 n s))

/-- `query` reads the state and changes nothing. -/
def Queries (query : Reader ρ ε σ α) (f : σ → α) : Prop :=
  ∀ env s, query env s = .ok (f s) s

omit [Cursor σ] in
theorem Queries.bind {query : Reader ρ ε σ α} {f : σ → α} (hq : Queries query f)
    (k : α → Reader ρ ε σ β) (env : ρ) (s : σ) : (query >>= k) env s = k (f s) env s := by
  rw [bind_run, hq env s]

namespace Parses

theorem congr {r : Reader ρ ε σ α} {F G : Format α} (h : Parses r F)
    (hFG : ∀ v bs c, F v bs c ↔ G v bs c) : Parses r G := by
  have hFG' : F = G := by
    funext v bs c
    exact propext (hFG v bs c)
  exact hFG' ▸ h

theorem pure (a : α) : Parses (pure a : Reader ρ ε σ α) (Format.pure a) := by
  intro env s hs v s'
  have hrun : (Pure.pure a : Reader ρ ε σ α) env s = .ok a s := rfl
  rw [hrun]
  constructor
  · rintro ⟨⟩
    exact ⟨[], 0, ⟨rfl, rfl, rfl⟩, List.nil_prefix, spent_le s hs, (advance_zero s).symm⟩
  · rintro ⟨bs, c, ⟨rfl, rfl, rfl⟩, -, -, rfl⟩
    simp

/-- No input that can be read has two spellings at its front. -/
theorem unique {r : Reader ρ ε σ α} {F : Format α} (h : Parses r F) (env : ρ) {s : σ}
    (hs : Valid s) {v v' : α} {bs bs' : List UInt8} {c c' : Nat} (hv : F v bs c)
    (hv' : F v' bs' c') (hbs : bs <+: rest s) (hbs' : bs' <+: rest s)
    (hc : spent s + c ≤ limit σ) (hc' : spent s + c' ≤ limit σ) : v = v' := by
  have hrun := (h env s hs v _).2 ⟨bs, c, hv, hbs, hc, rfl⟩
  rw [(h env s hs v' _).2 ⟨bs', c', hv', hbs', hc', rfl⟩] at hrun
  injection hrun with hvalue
  exact hvalue.symm

theorem throw (e : ε) : Parses (throw e : Reader ρ ε σ α) Format.none := by
  intro env s _ v s'
  have hrun : (MonadExcept.throw e : Reader ρ ε σ α) env s = .error e s := rfl
  rw [hrun]
  constructor
  · rintro ⟨⟩
  · rintro ⟨bs, c, ⟨⟩, -⟩

/-- Throwing is right where no value is well-formed. -/
theorem reject {e : ε} {WF : α → Prop} {enc : α → List UInt8} {cost : α → Nat}
    (h : ∀ v, ¬ WF v) :
    Parses (MonadExcept.throw e : Reader ρ ε σ α) (Format.coded WF enc cost) := by
  refine (Parses.throw e).congr ?_
  intro v bs c
  simp [Format.coded_iff, h v]

theorem bind {r : Reader ρ ε σ α} {k : α → Reader ρ ε σ β} {F : Format α} {G : α → Format β}
    (hr : Parses r F) (hk : ∀ a, Parses (k a) (G a)) : Parses (r >>= k) (F.bind G) := by
  intro env s hs v s'
  rw [bind_eq_ok, takes_bind hs]
  constructor
  · rintro ⟨a, s₁, hr₁, hk₁⟩
    have ht := (hr env s hs a s₁).1 hr₁
    exact ⟨a, s₁, ht, (hk a env s₁ (ht.valid hs) v s').1 hk₁⟩
  · rintro ⟨a, s₁, ht, hk₁⟩
    exact ⟨a, s₁, (hr env s hs a s₁).2 ht, (hk a env s₁ (ht.valid hs) v s').2 hk₁⟩

/-- Reading the state first does not change what is accepted when every answer leads to the same
format. -/
theorem query {q : Reader ρ ε σ α} {f : σ → α} {k : α → Reader ρ ε σ β} {F : Format β}
    (hq : Queries q f) (hk : ∀ a, Parses (k a) F) : Parses (q >>= k) F := by
  intro env s hs v s'
  rw [hq.bind]
  exact hk (f s) env s hs v s'

/-- A value that starts with its tag: the tag is read first, and the rest of the value by a reader
for the values that carry this tag. -/
theorem tagged {τ : Type} {r : Reader ρ ε σ τ} {k : τ → Reader ρ ε σ α}
    {encTag : τ → List UInt8} {cost : α → Nat} (tag : α → τ) (WF : α → Prop)
    (encRest : α → List UInt8)
    (hr : Parses r (Format.coded (fun _ => True) encTag fun _ => 0))
    (hk : ∀ t, Parses (k t) (Format.coded (fun v => tag v = t ∧ WF v) encRest cost)) :
    Parses (r >>= k) (Format.coded WF (fun v => encTag (tag v) ++ encRest v) cost) := by
  refine (hr.bind hk).congr ?_
  intro v bs c
  constructor
  · rintro ⟨t, _, _, _, _, ⟨-, rfl, rfl⟩, ⟨⟨rfl, hv⟩, rfl, rfl⟩, rfl, rfl⟩
    exact ⟨hv, rfl, by simp⟩
  · rintro ⟨hv, rfl, rfl⟩
    exact ⟨tag v, _, _, _, _, ⟨trivial, rfl, rfl⟩, ⟨⟨rfl, hv⟩, rfl, rfl⟩, rfl, by simp⟩

/-- Reading the state before and after a part tells its length: what follows may depend on it. -/
theorem measured {τ : Type} {q : Reader ρ ε σ τ} {f : σ → τ} {r : Reader ρ ε σ α}
    {k : τ → α → τ → Reader ρ ε σ β} {F : Format α} {G : Nat → α → Format β} (hq : Queries q f)
    (hr : Parses r F)
    (hk : ∀ s n c a, Valid s → n ≤ (rest s).length →
      Parses (k (f s) a (f (advance n c s))) (G n a)) :
    Parses (q >>= fun start => r >>= fun a => q >>= fun stop => k start a stop)
      (F.measured G) := by
  intro env s hs v s'
  rw [hq.bind, bind_eq_ok, takes_measured hs]
  constructor
  · rintro ⟨a, s₁, hr₁, hk₁⟩
    -- `s₁` is `s` moved past the spelling, so the two queries are as far apart as it is long.
    have ht := (hr env s hs a s₁).1 hr₁
    have hs₁ := ht.valid hs
    rcases ht with ⟨bs₁, c₁, hF, hpre₁, hspent₁, rfl⟩
    rw [hq.bind] at hk₁
    exact ⟨a, bs₁, c₁, hF, hpre₁, hspent₁,
      (hk s bs₁.length c₁ a hs hpre₁.length_le env _ hs₁ v s').1 hk₁⟩
  · rintro ⟨a, bs₁, c₁, hF, hpre₁, hspent₁, hG⟩
    have ht : Takes F s a (advance bs₁.length c₁ s) := ⟨bs₁, c₁, hF, hpre₁, hspent₁, rfl⟩
    refine ⟨a, _, (hr env s hs a _).2 ht, ?_⟩
    rw [hq.bind]
    exact (hk s bs₁.length c₁ a hs hpre₁.length_le env _ (ht.valid hs) v s').2 hG

/-- A look-ahead check is only a payment when the bytes it asks for are consumed anyway. -/
theorem guard {check : Reader ρ ε σ Unit} {n need : Nat} {r : Unit → Reader ρ ε σ α}
    {F : Format α} (hcheck : Admits check n need) (hr : Parses (r ()) F)
    (hneed : F.AtLeast need) : Parses (check >>= r) (F.surcharge n) := by
  intro env s hs v s'
  rw [bind_eq_ok]
  have hsound := (hcheck env s hs).1
  have hcomplete := (hcheck env s hs).2
  constructor
  · rintro ⟨⟨⟩, s₁, hcheck₁, hr₁⟩
    -- A check that passed has paid `n`; the rest is paid behind it.
    rcases hsound s₁ hcheck₁ with ⟨hspent, rfl⟩
    have hs₁ : Valid (advance 0 n s) := valid_advance 0 n s hs (Nat.zero_le _) hspent
    rcases (hr env _ hs₁ v s').1 hr₁ with ⟨bs, c, hF, hpre, hspent₁, rfl⟩
    rw [spent_advance _ _ _ hs hspent] at hspent₁
    refine ⟨bs, n + c, ⟨c, hF, rfl⟩, by simpa using hpre, by omega, by simp⟩
  · rintro ⟨bs, c, ⟨c₁, hF, rfl⟩, hpre, hspent, rfl⟩
    -- The spelling itself is long enough, so the check has no reason to fail.
    have hspent₁ : spent s + n ≤ limit σ := by omega
    have hs₁ : Valid (advance 0 n s) := valid_advance 0 n s hs (Nat.zero_le _) hspent₁
    have hlen : need ≤ (rest s).length :=
      Nat.le_trans (hneed v bs c₁ hF) hpre.length_le
    refine ⟨(), advance 0 n s, hcomplete hspent₁ hlen, (hr env _ hs₁ v _).2 ?_⟩
    refine ⟨bs, c₁, hF, by simpa using hpre, ?_, by simp⟩
    rw [spent_advance _ _ _ hs hspent₁]
    omega

end Parses

/-! ## Loops -/

/-- `n` readings in a row. -/
def readLoop : Nat → Reader ρ ε σ α → Reader ρ ε σ (List α)
  | 0, _ => pure []
  | n + 1, r => do
      let x ← r
      let xs ← readLoop n r
      pure (x :: xs)

namespace Format

/-- A list of `n` values of a coded format, one spelling after the other. -/
def vector (n : Nat) (WF : α → Prop) (enc : α → List UInt8) (cost : α → Nat) : Format (List α) :=
  coded (fun vs => vs.length = n ∧ ∀ v ∈ vs, WF v) (fun vs => vs.flatMap enc)
    (fun vs => (vs.map cost).sum)

end Format

theorem Parses.readLoop {r : Reader ρ ε σ α} {WF : α → Prop} {enc : α → List UInt8}
    {cost : α → Nat} (hr : Parses r (Format.coded WF enc cost)) (n : Nat) :
    Parses (readLoop n r) (Format.vector n WF enc cost) := by
  induction n with
  | zero =>
      refine (Parses.pure []).congr ?_
      intro vs bs c
      constructor
      · rintro ⟨rfl, rfl, rfl⟩
        simp [Format.vector, Format.coded]
      · rintro ⟨⟨hlen, -⟩, rfl, rfl⟩
        have hnil : vs = [] := List.length_eq_zero_iff.1 hlen
        simp [hnil, Format.pure]
  | succ n ih =>
      refine (hr.bind fun x => ih.bind fun xs => Parses.pure (x :: xs)).congr ?_
      intro vs bs c
      constructor
      · rintro ⟨x, _, _, _, _, ⟨hx, rfl, rfl⟩,
          ⟨xs, _, _, _, _, ⟨⟨hlen, hxs⟩, rfl, rfl⟩, ⟨rfl, rfl, rfl⟩, rfl, rfl⟩, rfl, rfl⟩
        refine ⟨⟨by simp [hlen], ?_⟩, by simp, by simp⟩
        simpa using ⟨hx, hxs⟩
      · rintro ⟨⟨hlen, hvs⟩, rfl, rfl⟩
        -- A list of `n + 1` values has a first one.
        cases vs with
        | nil =>
            simp at hlen
        | cons x xs =>
            have hx : WF x := hvs x (by simp)
            have hxs : ∀ y ∈ xs, WF y := fun y hy => hvs y (by simp [hy])
            exact ⟨x, _, _, _, _, ⟨hx, rfl, rfl⟩,
              ⟨xs, _, _, _, _, ⟨⟨by simpa using hlen, hxs⟩, rfl, rfl⟩, ⟨rfl, rfl, rfl⟩, rfl, rfl⟩,
              by simp, by simp⟩

/-! ## Readers that agree -/

/-- A success leaves a valid state behind. -/
def Keeps (r : Reader ρ ε σ α) : Prop :=
  ∀ env s, Valid s → ∀ v s', r env s = .ok v s' → Valid s'

theorem Parses.keeps {r : Reader ρ ε σ α} {F : Format α} (hr : Parses r F) : Keeps r := by
  intro env s hs v s' h
  exact ((hr env s hs v s').1 h).valid hs

theorem Admits.keeps {check : Reader ρ ε σ Unit} {n need : Nat} (hcheck : Admits check n need) :
    Keeps check := by
  rintro env s hs ⟨⟩ s' h
  rcases (hcheck env s hs).1 s' h with ⟨hspent, rfl⟩
  exact valid_advance 0 n s hs (Nat.zero_le _) hspent

/-- From a valid state the two readers end in the same way, be it a success or a failure. -/
def Agrees (r r' : Reader ρ ε σ α) : Prop :=
  ∀ env s, Valid s → r env s = r' env s

namespace Agrees

theorem refl (r : Reader ρ ε σ α) : Agrees r r :=
  fun _ _ _ => rfl

theorem bind {r r' : Reader ρ ε σ α} {k k' : α → Reader ρ ε σ β} (hr : Agrees r r')
    (hkeeps : Keeps r') (hk : ∀ a, Agrees (k a) (k' a)) : Agrees (r >>= k) (r' >>= k') := by
  intro env s hs
  rw [bind_run, bind_run, hr env s hs]
  cases hrun : r' env s with
  | ok a s₁ => exact hk a env s₁ (hkeeps env s hs a s₁ hrun)
  | error e s₁ => rfl

/-- Two readers that end alike. -/
theorem before {r r' : Reader ρ ε σ α} (hr : Agrees r r') (k : α → Reader ρ ε σ β) :
    Agrees (r >>= k) (r' >>= k) := by
  intro env s hs
  rw [bind_run, bind_run, hr env s hs]

/-- Two readers that start alike. -/
theorem after {r : Reader ρ ε σ α} {k k' : α → Reader ρ ε σ β} (hkeeps : Keeps r)
    (hk : ∀ a, Agrees (k a) (k' a)) : Agrees (r >>= k) (r >>= k') :=
  bind (refl r) hkeeps hk

/-- What follows a part that is measured need only agree where the part has moved forward. -/
theorem measured {τ : Type} {q : Reader ρ ε σ τ} {f : σ → τ} {r : Reader ρ ε σ α}
    {k k' : τ → α → τ → Reader ρ ε σ β} {F : Format α} (hq : Queries q f) (hr : Parses r F)
    (hk : ∀ s n c a, Valid s → n ≤ (rest s).length →
      Agrees (k (f s) a (f (advance n c s))) (k' (f s) a (f (advance n c s)))) :
    Agrees (q >>= fun start => r >>= fun a => q >>= fun stop => k start a stop)
      (q >>= fun start => r >>= fun a => q >>= fun stop => k' start a stop) := by
  intro env s hs
  rw [hq.bind, hq.bind, bind_run, bind_run]
  cases hrun : r env s with
  | ok a s₁ =>
      have ht := (hr env s hs a s₁).1 hrun
      have hs₁ := ht.valid hs
      rcases ht with ⟨bs₁, c₁, -, hpre₁, -, rfl⟩
      dsimp only
      rw [hq.bind, hq.bind]
      exact hk s bs₁.length c₁ a hs hpre₁.length_le env _ hs₁
  | error e s₁ => rfl

theorem readLoop {r r' : Reader ρ ε σ α} (hr : Agrees r r') (hkeeps : Keeps r') (n : Nat) :
    Agrees (readLoop n r) (readLoop n r') := by
  induction n with
  | zero => exact refl _
  | succ n ih => exact hr.bind hkeeps fun x => ih.before _

end Agrees

end Readers

/-! ## Sizes of spelled lists -/

theorem length_flatMap_ge {α : Type} {enc : α → List UInt8} {WF : α → Prop} {m : Nat}
    (henc : ∀ v, WF v → m ≤ (enc v).length) :
    ∀ vs : List α, (∀ v ∈ vs, WF v) → vs.length * m ≤ (vs.flatMap enc).length := by
  intro vs
  induction vs with
  | nil =>
      intro _
      simp
  | cons v vs ih =>
      intro hvs
      have hv : m ≤ (enc v).length := henc v (hvs v (by simp))
      have hrest : vs.length * m ≤ (vs.flatMap enc).length :=
        ih fun w hw => hvs w (by simp [hw])
      simp only [List.length_cons, List.flatMap_cons, List.length_append, Nat.succ_mul]
      omega

theorem Format.vector_atLeast {α : Type} {n m : Nat} {WF : α → Prop} {enc : α → List UInt8}
    {cost : α → Nat} (henc : ∀ v, WF v → m ≤ (enc v).length) :
    (Format.vector n WF enc cost).AtLeast (n * m) := by
  rintro vs bs c ⟨⟨rfl, hvs⟩, rfl, rfl⟩
  exact length_flatMap_ge henc vs hvs

end Metered
