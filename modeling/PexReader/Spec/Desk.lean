import Mathlib.Logic.Function.Basic
import PexReader.Format.Stepping

/-!
# Desk — documents in hand and documents on file

What a library with handles and files is for, without bytes, streams or status codes.  On a desk
there are handles, each with a document or with none, and files, each of which is a document or
nothing that can be taken up.  A document is taken up from a file, amended in hand, and filed; the
files may also be replaced behind the back of the one who sits at the desk.

Documents are of any type, and so are handles and the paths of files.
-/

open Stepping

variable {η π δ : Type}

/-- The documents behind the handles in use, and those on file. -/
structure Desk (η π δ : Type) where
  held : η → Option (Option δ) := fun _ => none
  filed : π → Option δ := fun _ => none

namespace Desk

def setHeld [DecidableEq η] (desk : Desk η π δ) (handle : η) (document : Option (Option δ)) :
    Desk η π δ :=
  { desk with held := Function.update desk.held handle document }

def setFiled [DecidableEq π] (desk : Desk η π δ) (path : π) (document : Option δ) : Desk η π δ :=
  { desk with filed := Function.update desk.filed path document }

end Desk

inductive DeskCall (η π δ : Type)
  | create (handle : η)
  | destroy (handle : η)
  | clear (handle : η)
  /-- Take up what is on file there; `readable` says whether the file can be read just now. -/
  | takeUp (handle : η) (path : Option π) (readable : Bool)
  | amend (handle : η) (edit : δ → Option δ)
  /-- File what is in hand; a file that opens is overwritten, and `keeps` says of which documents
  the file keeps all. -/
  | file (handle : η) (path : Option π) (opens : Bool) (keeps : δ → Bool)
  | replace (path : π) (document : Option δ)

namespace DeskCall

/-- The call succeeds. -/
def accepted (call : DeskCall η π δ) (desk : Desk η π δ) : Bool :=
  match call with
  | takeUp handle path readable =>
      (desk.held handle).isSome && readable && (path.bind desk.filed).isSome
  | amend handle edit => ((desk.held handle).bind fun document => document.bind edit).isSome
  | file handle path opens _ => (desk.held handle).isSome && path.isSome && opens
  | _ => true

/-- What the one who calls is told; of most calls there is nothing to tell. -/
def told (call : DeskCall η π δ) (desk : Desk η π δ) : Option Bool :=
  match call with
  | takeUp _ _ _ => some (call.accepted desk)
  | amend _ _ => some (call.accepted desk)
  | file _ _ _ _ => some (call.accepted desk)
  | _ => none

variable [DecidableEq η] [DecidableEq π]

/-- The desk behind a call. -/
def next (call : DeskCall η π δ) (desk : Desk η π δ) : Desk η π δ :=
  match call with
  | create handle => desk.setHeld handle (some none)
  | destroy handle => desk.setHeld handle none
  | clear handle => desk.setHeld handle ((desk.held handle).map fun _ => none)
  | takeUp handle path readable =>
      if (takeUp handle path readable).accepted desk then
        desk.setHeld handle (some (path.bind desk.filed))
      else desk
  | amend handle edit =>
      match (desk.held handle).bind fun document => document.bind edit with
      | some document => desk.setHeld handle (some (some document))
      | none => desk
  | file handle path opens keeps =>
      match desk.held handle, path with
      | some document, some path =>
          if opens then desk.setFiled path (document.filter keeps) else desk
      | _, _ => desk
  | replace path document => desk.setFiled path document

/-- A call that fails changes nothing. -/
theorem next_of_refused {call : DeskCall η π δ} {desk : Desk η π δ}
    (h : call.accepted desk = false) : call.next desk = desk := by
  cases call with
  | takeUp handle path readable => simp [next, h]
  | amend handle edit =>
      have hnone : ((desk.held handle).bind fun document => document.bind edit) = none := by
        simpa [accepted] using h
      simp [next, hnone]
  | file handle path opens keeps =>
      cases hheld : desk.held handle with
      | none => simp [next, hheld]
      | some document =>
          cases path with
          | none => simp [next, hheld]
          | some path =>
              have hopens : opens = false := by simpa [accepted, hheld] using h
              simp [next, hheld, hopens]
  | _ => cases h

/-- What is on file behind a filing: what was kept of the document in hand, or what was there, if
the file was not written. -/
theorem filed_file {desk : Desk η π δ} {handle : η} {path : Option π} {opens : Bool}
    {keeps : δ → Bool} {target : π} {document : δ} :
    ((file handle path opens keeps).next desk).filed target = some document ↔
      (path = some target ∧ opens = true ∧ desk.held handle = some (some document) ∧
        keeps document = true) ∨
      (desk.filed target = some document ∧
        ¬ (path = some target ∧ (desk.held handle).isSome = true ∧ opens = true)) := by
  cases hheld : desk.held handle with
  | none => simp [next, hheld]
  | some inHand =>
      cases path with
      | none => simp [next, hheld]
      | some path =>
          cases opens with
          | false => simp [next, hheld]
          | true =>
              by_cases hsame : target = path
              · simp [next, hheld, Desk.setFiled, hsame, Option.filter_eq_some_iff]
              · simp [next, hheld, Desk.setFiled, hsame, Ne.symm hsame]

end DeskCall

namespace Desk

/-! ## What is said of every document -/

/-- Every document in hand and on file satisfies `P`. -/
structure All (desk : Desk η π δ) (P : δ → Prop) : Prop where
  held : ∀ handle document, desk.held handle = some (some document) → P document
  filed : ∀ path document, desk.filed path = some document → P document

/-- The call brings no document from outside that does not satisfy `P`, and amends none that does
to one that does not. -/
def Keeps (P : δ → Prop) : DeskCall η π δ → Prop
  | .amend _ edit => ∀ document document', P document → edit document = some document' → P document'
  | .replace _ document => ∀ document', document = some document' → P document'
  | _ => True

variable {desk : Desk η π δ} {P : δ → Prop}

theorem All.setHeld [DecidableEq η] (h : desk.All P) {handle : η} {document : Option (Option δ)}
    (hdocument : ∀ document', document = some (some document') → P document') :
    (desk.setHeld handle document).All P where
  held other document' hother := by
    by_cases hsame : other = handle
    · subst hsame
      simp only [Desk.setHeld, Function.update_self] at hother
      exact hdocument document' hother
    · simp only [Desk.setHeld, Function.update_of_ne hsame] at hother
      exact h.held other document' hother
  filed := h.filed

theorem All.setFiled [DecidableEq π] (h : desk.All P) {path : π} {document : Option δ}
    (hdocument : ∀ document', document = some document' → P document') :
    (desk.setFiled path document).All P where
  held := h.held
  filed other document' hother := by
    by_cases hsame : other = path
    · subst hsame
      simp only [Desk.setFiled, Function.update_self] at hother
      exact hdocument document' hother
    · simp only [Desk.setFiled, Function.update_of_ne hsame] at hother
      exact h.filed other document' hother

variable [DecidableEq η] [DecidableEq π]

theorem All.next (h : desk.All P) {call : DeskCall η π δ} (hcall : Keeps P call) :
    (call.next desk).All P := by
  cases call with
  | create handle => exact h.setHeld (by simp)
  | destroy handle => exact h.setHeld (by simp)
  | clear handle =>
      apply h.setHeld
      intro document hclear
      simp at hclear
  | takeUp handle path readable =>
      simp only [DeskCall.next]
      split_ifs
      · apply h.setHeld
        intro document htaken
        rcases Option.bind_eq_some_iff.1 (Option.some.inj htaken) with ⟨taken, -, hfiled⟩
        exact h.filed taken document hfiled
      · exact h
  | amend handle edit =>
      simp only [DeskCall.next]
      cases hedit : (desk.held handle).bind fun document => document.bind edit with
      | none => exact h
      | some amended =>
          apply h.setHeld
          rintro _ ⟨⟩
          rcases Option.bind_eq_some_iff.1 hedit with ⟨inHand, hheld, hamended⟩
          rcases Option.bind_eq_some_iff.1 hamended with ⟨document, rfl, hdocument⟩
          exact hcall document _ (h.held handle document hheld) hdocument
  | file handle path opens keeps =>
      simp only [DeskCall.next]
      cases hheld : desk.held handle with
      | none => exact h
      | some inHand =>
          cases path with
          | none => exact h
          | some path =>
              dsimp only
              split_ifs
              · apply h.setFiled
                intro document hkept
                rcases Option.filter_eq_some_iff.1 hkept with ⟨rfl, -⟩
                exact h.held handle document hheld
              · exact h
  | replace path document => exact h.setFiled hcall

/-- What is true of every document at first, of every document from outside, and kept by every
amendment, is true of every document at the end. -/
theorem All.run {calls : List (DeskCall η π δ)} (h : desk.All P)
    (hcalls : ∀ call ∈ calls, Keeps P call) : (Stepping.run DeskCall.next calls desk).All P := by
  induction calls generalizing desk with
  | nil => exact h
  | cons call calls ih =>
      exact ih (h.next (hcalls call (by simp))) fun other hmem => hcalls other (by simp [hmem])

end Desk
