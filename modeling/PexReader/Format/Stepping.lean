import Mathlib.Algebra.GroupWithZero.Nat
import Mathlib.Data.List.Induction

/-!
# Stepping — runs of calls against a state

A deterministic system: `step` gives the state after a call.  A run is a list of calls, each made in
the state the ones before it left, and `Each` says of every call of a run what holds of it in the
state in which it is made: that the caller may make it, say.

* `invariant` is the induction on a run: what every allowed call keeps holds after an allowed run,
  and `each_of_invariant` reads off it what holds of every call of the run;
* `invariant_since` is the same for what depends on the run: whether a call of one kind was made
  with none of another kind after it;
* `run_counted` is for a count: if some calls add to it and the others leave it alone, it is the sum
  of what the former add;
* `run_version` is for a version number: behind a run it is the one before the run exactly when no
  call has raised it, and then what it is the version of is as it was;
* `run_kept` says that calls which do not change what is observed can be left out of a run: what
  remains is an allowed run, and the same is observed behind it; `heard_kept` is the same for what
  is heard of the calls, and `heard_congr` compares two runs of the same calls;
* `run_translates` is for an abstraction of the state: calls that it does not see are dropped, and
  the others are calls of another system that starts from the abstract state; `heard_translates` is
  the same for what is heard of the calls, and `run_simulates` and `heard_simulates` are the case in
  which a call is the same call of the other system in every state;
* `each_not_flagged_iff` is for a flag that some calls raise and others do not touch: no call of a
  run leaves it up exactly when none raises it.
-/

namespace Stepping

variable {σ κ ω : Type*}

/-! ## Runs -/

section Runs

variable (step : κ → σ → σ)

def run : List κ → σ → σ
  | [], s => s
  | call :: calls, s => run calls (step call s)

/-- Every call of the run satisfies `p` in the state in which it is made. -/
def Each (p : κ → σ → Prop) : List κ → σ → Prop
  | [], _ => True
  | call :: calls, s => p call s ∧ Each p calls (step call s)

instance decidableEach (p : κ → σ → Prop) [∀ call s, Decidable (p call s)] :
    ∀ (calls : List κ) (s : σ), Decidable (Each step p calls s)
  | [], _ => isTrue trivial
  | call :: calls, s =>
      have := decidableEach p calls (step call s)
      inferInstanceAs (Decidable (_ ∧ _))

theorem each_of_forall {p : κ → σ → Prop} (h : ∀ call s, p call s) (calls : List κ) (s : σ) :
    Each step p calls s := by
  induction calls generalizing s with
  | nil => exact trivial
  | cons call calls ih => exact ⟨h call s, ih _⟩

theorem each_imp {p q : κ → σ → Prop} (h : ∀ call s, p call s → q call s) {calls : List κ} {s : σ}
    (hcalls : Each step p calls s) : Each step q calls s := by
  induction calls generalizing s with
  | nil => exact trivial
  | cons call calls ih => exact ⟨h call s hcalls.1, ih hcalls.2⟩

theorem each_and {p : κ → σ → Prop} {q : κ → Prop} {calls : List κ} {s : σ}
    (hp : Each step p calls s) (hq : ∀ call ∈ calls, q call) :
    Each step (fun call s => p call s ∧ q call) calls s := by
  induction calls generalizing s with
  | nil => exact trivial
  | cons call calls ih =>
      exact ⟨⟨hp.1, hq call (by simp)⟩, ih hp.2 fun other hmem => hq other (by simp [hmem])⟩

/-- The calls of the run that `keep` picks in the states in which they are made. -/
def kept (keep : κ → σ → Bool) : List κ → σ → List κ
  | [], _ => []
  | call :: calls, s =>
      if keep call s then call :: kept keep calls (step call s)
      else kept keep calls (step call s)

theorem kept_const (keep : κ → Bool) (calls : List κ) (s : σ) :
    kept step (fun call _ => keep call) calls s = calls.filter keep := by
  induction calls generalizing s with
  | nil => rfl
  | cons call calls ih => simp only [kept, List.filter_cons, ih]

/-- What is heard of the calls of a run; of some calls nothing is heard. -/
def heard {α : Type*} (listen : κ → σ → Option α) : List κ → σ → List α
  | [], _ => []
  | call :: calls, s => (listen call s).toList ++ heard listen calls (step call s)

theorem heard_const {α : Type*} (image : κ → Option α) (calls : List κ) (s : σ) :
    heard step (fun call _ => image call) calls s = calls.filterMap image := by
  induction calls generalizing s with
  | nil => rfl
  | cons call calls ih =>
      rw [heard, ih, List.filterMap_cons]
      cases image call <;> rfl

theorem run_append (calls calls' : List κ) (s : σ) :
    run step (calls ++ calls') s = run step calls' (run step calls s) := by
  induction calls generalizing s with
  | nil => rfl
  | cons call calls ih => exact ih _

theorem each_append {p : κ → σ → Prop} (calls calls' : List κ) (s : σ) :
    Each step p (calls ++ calls') s ↔
      Each step p calls s ∧ Each step p calls' (run step calls s) := by
  induction calls generalizing s with
  | nil => simp [Each, run]
  | cons call calls ih => simp [Each, run, ih, and_assoc]

/-- A call of the run satisfies `p` in the state in which it is made, and none after it satisfies
`q`. -/
def Since (p : κ → σ → Prop) (q : κ → Prop) (calls : List κ) (s : σ) : Prop :=
  ∃ earlier call later, calls = earlier ++ call :: later ∧ p call (run step earlier s) ∧
    ∀ other ∈ later, ¬ q other

theorem not_since_nil {p : κ → σ → Prop} {q : κ → Prop} (s : σ) : ¬ Since step p q [] s := by
  rintro ⟨earlier, call, later, hcalls, -⟩
  simp at hcalls

theorem since_snoc {p : κ → σ → Prop} {q : κ → Prop} (calls : List κ) (call : κ) (s : σ) :
    Since step p q (calls ++ [call]) s ↔
      p call (run step calls s) ∨ (Since step p q calls s ∧ ¬ q call) := by
  constructor
  · rintro ⟨earlier, found, later, hcalls, hp, hq⟩
    rcases List.eq_nil_or_concat later with rfl | ⟨later, last, rfl⟩
    · -- The call is the last one.
      rcases List.append_inj' hcalls rfl with ⟨rfl, hlast⟩
      cases hlast
      exact Or.inl hp
    · rw [List.concat_eq_append, ← List.cons_append, ← List.append_assoc] at hcalls
      rcases List.append_inj' hcalls rfl with ⟨rfl, hlast⟩
      cases hlast
      exact Or.inr ⟨⟨earlier, found, later, rfl, hp, fun other hmem => hq other (by simp [hmem])⟩,
        hq call (by simp)⟩
  · rintro (hp | ⟨⟨earlier, found, later, rfl, hp, hq⟩, hnot⟩)
    · exact ⟨calls, call, [], rfl, hp, by simp⟩
    · refine ⟨earlier, found, later ++ [call], by simp, hp, ?_⟩
      intro other hmem
      rcases List.mem_append.1 hmem with hmem | hmem
      · exact hq other hmem
      · rw [List.mem_singleton.1 hmem]
        exact hnot

end Runs

/-! ## Invariants -/

section Invariants

variable {step : κ → σ → σ} {allowed : κ → σ → Prop} {Inv : σ → Prop}
  (hstep : ∀ call s, Inv s → allowed call s → Inv (step call s))

include hstep

/-- What every allowed call keeps holds after an allowed run. -/
theorem invariant {calls : List κ} {s : σ} (hs : Inv s) (hcalls : Each step allowed calls s) :
    Inv (run step calls s) := by
  induction calls generalizing s with
  | nil => exact hs
  | cons call calls ih => exact ih (hstep call s hs hcalls.1) hcalls.2

/-- What holds of every allowed call where the invariant does holds of every call of an allowed
run. -/
theorem each_of_invariant {p : κ → σ → Prop} (hp : ∀ call s, Inv s → allowed call s → p call s)
    {calls : List κ} {s : σ} (hs : Inv s) (hcalls : Each step allowed calls s) :
    Each step p calls s := by
  induction calls generalizing s with
  | nil => exact trivial
  | cons call calls ih =>
      exact ⟨hp call s hs hcalls.1, ih (hstep call s hs hcalls.1) hcalls.2⟩

/-- What is known of the state as long as `Since` holds, and as long as it does not. -/
theorem invariant_since {p : κ → σ → Prop} {q : κ → Prop} {R : Prop → σ → Prop} {s : σ}
    (hstart : R False s)
    (hcall : ∀ call s holds, Inv s → allowed call s → R holds s →
      R (p call s ∨ (holds ∧ ¬ q call)) (step call s))
    (hs : Inv s) {calls : List κ} (hcalls : Each step allowed calls s) :
    R (Since step p q calls s) (run step calls s) := by
  induction calls using List.reverseRecOn with
  | nil =>
      have hnone : Since step p q [] s ↔ False := iff_false_intro (not_since_nil step s)
      simpa only [hnone, run] using hstart
  | append_singleton calls call ih =>
      rcases (each_append step calls [call] s).1 hcalls with ⟨hearlier, hlast⟩
      have hbefore := invariant hstep hs hearlier
      have hafter := hcall call _ _ hbefore hlast.1 (ih hearlier)
      simpa only [since_snoc, run_append, run] using hafter

/-- A count that a call raises by its weight if `keep` picks the call, and leaves alone if not. -/
theorem run_counted (count : σ → ℕ) {keep : κ → σ → Bool} {weight : κ → ℕ}
    (hcount : ∀ call s, Inv s → allowed call s →
      count (step call s) = count s + if keep call s then weight call else 0)
    {calls : List κ} {s : σ} (hs : Inv s) (hcalls : Each step allowed calls s) :
    count (run step calls s) = count s + ((kept step keep calls s).map weight).sum := by
  induction calls generalizing s with
  | nil => rfl
  | cons call calls ih =>
      have hcall := hcount call s hs hcalls.1
      have hrest := ih (hstep call s hs hcalls.1) hcalls.2
      cases hkeep : keep call s with
      | false => simpa [run, kept, hkeep, hcall] using hrest
      | true => simpa [run, kept, hkeep, hcall, Nat.add_assoc] using hrest

/-- Calls that do not change what is observed can be left out, if what the others do to it depends
on what is observed alone. -/
theorem run_kept {observe : σ → ω} {keep : κ → σ → Bool}
    (hidle : ∀ call s, Inv s → allowed call s → keep call s = false →
      observe (step call s) = observe s)
    (hkeep : ∀ call s t, Inv s → allowed call s → keep call s = true → observe s = observe t →
      allowed call t ∧ observe (step call s) = observe (step call t))
    {calls : List κ} {s t : σ} (hs : Inv s) (hcalls : Each step allowed calls s)
    (hst : observe s = observe t) :
    Each step allowed (kept step keep calls s) t ∧
      observe (run step (kept step keep calls s) t) = observe (run step calls s) := by
  induction calls generalizing s t with
  | nil => exact ⟨trivial, hst.symm⟩
  | cons call calls ih =>
      have hs' := hstep call s hs hcalls.1
      cases hkept : keep call s with
      | false =>
          -- The call is left out: nothing is observed of it.
          have hsame := hidle call s hs hcalls.1 hkept
          simpa [kept, hkept, run] using ih hs' hcalls.2 (hsame.trans hst)
      | true =>
          -- The call is made on both sides, with the same effect.
          rcases hkeep call s t hs hcalls.1 hkept hst with ⟨hallowed, heffect⟩
          have hrest := ih hs' hcalls.2 heffect
          simpa [kept, hkept, run, Each, hallowed] using hrest

/-- Nothing is missed of the calls that are left, if nothing is heard of the others. -/
theorem heard_kept {α : Type*} (observe : σ → ω) {keep : κ → σ → Bool}
    {listen : κ → σ → Option α}
    (hidle : ∀ call s, Inv s → allowed call s → keep call s = false →
      observe (step call s) = observe s ∧ listen call s = none)
    (hkeep : ∀ call s t, Inv s → allowed call s → keep call s = true → observe s = observe t →
      observe (step call s) = observe (step call t) ∧ listen call s = listen call t)
    {calls : List κ} {s t : σ} (hs : Inv s) (hcalls : Each step allowed calls s)
    (hst : observe s = observe t) :
    heard step listen calls s = heard step listen (kept step keep calls s) t := by
  induction calls generalizing s t with
  | nil => rfl
  | cons call calls ih =>
      have hs' := hstep call s hs hcalls.1
      cases hkept : keep call s with
      | false =>
          rcases hidle call s hs hcalls.1 hkept with ⟨hsame, hnone⟩
          simpa [kept, hkept, heard, hnone] using ih hs' hcalls.2 (hsame.trans hst)
      | true =>
          rcases hkeep call s t hs hcalls.1 hkept hst with ⟨heffect, hheard⟩
          have hrest := ih hs' hcalls.2 heffect
          simpa [kept, hkept, heard, hheard] using hrest

/-- The same is heard of the calls from two states that look alike, if calls keep them so. -/
theorem heard_congr {α : Type*} (observe : σ → ω) {listen : κ → σ → Option α}
    (hcall : ∀ call s t, Inv s → allowed call s → observe s = observe t →
      observe (step call s) = observe (step call t) ∧ listen call s = listen call t)
    {calls : List κ} {s t : σ} (hs : Inv s) (hcalls : Each step allowed calls s)
    (hst : observe s = observe t) :
    heard step listen calls s = heard step listen calls t := by
  induction calls generalizing s t with
  | nil => rfl
  | cons call calls ih =>
      rcases hcall call s t hs hcalls.1 hst with ⟨heffect, hheard⟩
      rw [heard, heard, hheard, ih (hstep call s hs hcalls.1) hcalls.2 heffect]

/-- What is observed of a run is a run of another system.  A call has an image there or none, and
the image may depend on the state in which the call is made. -/
theorem run_translates {κ' : Type*} (observe : σ → ω) (step' : κ' → ω → ω)
    (allowed' : κ' → ω → Prop) (image : κ → σ → Option κ')
    (hidle : ∀ call s, Inv s → allowed call s → image call s = none →
      observe (step call s) = observe s)
    (himage : ∀ call call' s, Inv s → allowed call s → image call s = some call' →
      allowed' call' (observe s) ∧ observe (step call s) = step' call' (observe s))
    {calls : List κ} {s : σ} (hs : Inv s) (hcalls : Each step allowed calls s) :
    Each step' allowed' (heard step image calls s) (observe s) ∧
      observe (run step calls s) = run step' (heard step image calls s) (observe s) := by
  induction calls generalizing s with
  | nil => exact ⟨trivial, rfl⟩
  | cons call calls ih =>
      have hrest := ih (hstep call s hs hcalls.1) hcalls.2
      cases hcall : image call s with
      | none =>
          rw [hidle call s hs hcalls.1 hcall] at hrest
          simpa [heard, hcall, run] using hrest
      | some call' =>
          rcases himage call call' s hs hcalls.1 hcall with ⟨hallowed, heffect⟩
          rw [heffect] at hrest
          simpa [heard, hcall, run, Each, hallowed] using hrest

/-- What is heard of a run is what is heard of the run of its images. -/
theorem heard_translates {κ' α : Type*} (observe : σ → ω) (step' : κ' → ω → ω)
    (image : κ → σ → Option κ') (listen : κ → σ → Option α) (listen' : κ' → ω → Option α)
    (hidle : ∀ call s, Inv s → allowed call s → image call s = none →
      observe (step call s) = observe s ∧ listen call s = none)
    (himage : ∀ call call' s, Inv s → allowed call s → image call s = some call' →
      observe (step call s) = step' call' (observe s) ∧ listen call s = listen' call' (observe s))
    {calls : List κ} {s : σ} (hs : Inv s) (hcalls : Each step allowed calls s) :
    heard step listen calls s = heard step' listen' (heard step image calls s) (observe s) := by
  induction calls generalizing s with
  | nil => rfl
  | cons call calls ih =>
      have hrest := ih (hstep call s hs hcalls.1) hcalls.2
      cases hcall : image call s with
      | none =>
          rcases hidle call s hs hcalls.1 hcall with ⟨hsame, hnone⟩
          rw [hsame] at hrest
          simpa [heard, hcall, hnone] using hrest
      | some call' =>
          rcases himage call call' s hs hcalls.1 hcall with ⟨heffect, hheard⟩
          rw [heffect] at hrest
          simpa [heard, hcall, hheard] using hrest

/-- The same where the image of a call is the same in every state. -/
theorem run_simulates {κ' : Type*} (observe : σ → ω) (step' : κ' → ω → ω)
    (allowed' : κ' → ω → Prop) (image : κ → Option κ')
    (hidle : ∀ call s, Inv s → allowed call s → image call = none →
      observe (step call s) = observe s)
    (himage : ∀ call call' s, Inv s → allowed call s → image call = some call' →
      allowed' call' (observe s) ∧ observe (step call s) = step' call' (observe s))
    {calls : List κ} {s : σ} (hs : Inv s) (hcalls : Each step allowed calls s) :
    Each step' allowed' (calls.filterMap image) (observe s) ∧
      observe (run step calls s) = run step' (calls.filterMap image) (observe s) := by
  rw [← heard_const step image calls s]
  exact run_translates hstep observe step' allowed' (fun call _ => image call) hidle himage hs
    hcalls

theorem heard_simulates {κ' α : Type*} (observe : σ → ω) (step' : κ' → ω → ω)
    (image : κ → Option κ') (listen : κ → σ → Option α) (listen' : κ' → ω → Option α)
    (hidle : ∀ call s, Inv s → allowed call s → image call = none →
      observe (step call s) = observe s ∧ listen call s = none)
    (himage : ∀ call call' s, Inv s → allowed call s → image call = some call' →
      observe (step call s) = step' call' (observe s) ∧ listen call s = listen' call' (observe s))
    {calls : List κ} {s : σ} (hs : Inv s) (hcalls : Each step allowed calls s) :
    heard step listen calls s = heard step' listen' (calls.filterMap image) (observe s) := by
  rw [← heard_const step image calls s]
  exact heard_translates hstep observe step' (fun call _ => image call) listen listen' hidle himage
    hs hcalls

/-- A flag that is down at first and that a call puts up exactly when it raises it: no call of the
run leaves the flag up exactly when none of them raises it. -/
theorem each_not_flagged_iff {flag : σ → Prop} {raises : κ → σ → Prop}
    (hflag : ∀ call s, Inv s → allowed call s → ¬ flag s → (flag (step call s) ↔ raises call s))
    {calls : List κ} {s : σ} (hs : Inv s) (hcalls : Each step allowed calls s) (hdown : ¬ flag s) :
    Each step (fun call s => ¬ flag (step call s)) calls s ↔
      Each step (fun call s => ¬ raises call s) calls s := by
  induction calls generalizing s with
  | nil => exact Iff.rfl
  | cons call calls ih =>
      have hcall := hflag call s hs hcalls.1 hdown
      have hs' := hstep call s hs hcalls.1
      -- As long as no call raises the flag, the next one finds it down.
      constructor
      · rintro ⟨hnot, hrest⟩
        exact ⟨mt hcall.2 hnot, (ih hs' hcalls.2 hnot).1 hrest⟩
      · rintro ⟨hnot, hrest⟩
        have hdown' := mt hcall.1 hnot
        exact ⟨hdown', (ih hs' hcalls.2 hdown').2 hrest⟩

end Invariants

end Stepping
