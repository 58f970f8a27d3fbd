import Mathlib.Logic.Relation
import PexReader.Abi.Sessions

/-!
# Editing — what the calls can make of the scripts

`Sessions` says that nothing but strings ever changes.  Here it is exact: from the scripts that a
session has in hand and on file the calls can put on file those with some of the strings replaced by
null-terminated ones, as far as they are not too large to be loaded again, and no others.  A string
with a terminator in it, once replaced, is lost, unless the script is still on file.
-/

namespace PexReader

open Relation

/-! ## Replacements -/

/-- A string that `C_ModifyStringTable` can put in place: the end of its argument is the first
terminator, and the length has 16 bits. -/
structure Passable (entry : List UInt8) : Prop where
  unterminated : 0 ∉ entry
  fits : EntryFits entry

def ReplacedBy (entry₀ entry : List UInt8) : Prop :=
  entry = entry₀ ∨ Passable entry

/-- Each string is as it was, or has been replaced. -/
structure Rewritten (d₀ d : PexData) : Prop where
  same : SameButStrings d₀ d
  strings : List.Forall₂ ReplacedBy d₀.stringTable.strings d.stringTable.strings

/-- The one is made of the other by replacements that are accepted. -/
def Amended : PexData → PexData → Prop :=
  ReflTransGen fun d d' => ∃ index utf8String, replaceString index utf8String d = some d'

def PexData.withStrings (d : PexData) (strings : List (List UInt8)) : PexData :=
  { d with stringTable := { d.stringTable with strings } }

theorem passable_cString {str : List UInt8} (h : EntryFits (cString str)) :
    Passable (cString str) where
  unterminated hmem := Utf8.ne_zero_of_mem_untilNul hmem rfl
  fits := h

theorem Passable.cString_eq {entry : List UInt8} (h : Passable entry) : cString entry = entry :=
  Utf8.untilNul_of_ne_zero fun _ hmem hzero => h.unterminated (hzero ▸ hmem)

theorem replaceString_eq_some {index : UInt16} {utf8String : Option (List UInt8)}
    {d d' : PexData} : replaceString index utf8String d = some d' ↔
      ∃ str, utf8String = some str ∧ index < d.stringTable.count ∧ EntryFits (cString str) ∧
        d' = d.withString index.toNat (cString str) := by
  cases utf8String with
  | none => simp [replaceString]
  | some str => simp [replaceString, and_assoc, eq_comm]

/-- Once replaced, a string may be replaced again. -/
theorem forall₂_set {old strings : List (List UInt8)} {entry : List UInt8} (hentry : Passable entry)
    (h : List.Forall₂ ReplacedBy old strings) (i : Nat) :
    List.Forall₂ ReplacedBy old (strings.set i entry) := by
  induction h generalizing i with
  | nil => exact .nil
  | cons hhead htail ih =>
      cases i with
      | zero => exact .cons (Or.inr hentry) htail
      | succ i => exact .cons hhead (ih i)

theorem Rewritten.refl (d : PexData) : Rewritten d d where
  same := ⟨rfl, rfl⟩
  strings := List.forall₂_same.2 fun _ _ => Or.inl rfl

theorem Amended.rewritten {d₀ d : PexData} (h : Amended d₀ d) : Rewritten d₀ d := by
  induction h with
  | refl => exact .refl d₀
  | tail _ hstep ih =>
      rcases hstep with ⟨index, utf8String, hreplace⟩
      refine ⟨ih.same.replaceString hreplace, ?_⟩
      rcases replaceString_eq_some.1 hreplace with ⟨str, -, -, hfits, rfl⟩
      exact forall₂_set (passable_cString hfits) ih.strings index.toNat

/-- The strings behind `done` are replaced one after the other. -/
theorem amended_withStrings {old new : List (List UInt8)}
    (h : List.Forall₂ ReplacedBy old new) (done : List (List UInt8)) (d : PexData)
    (hd : d.stringTable.strings = done ++ old)
    (hcount : d.stringTable.strings.length = d.stringTable.count.toNat) :
    Amended d (d.withStrings (done ++ new)) := by
  induction h generalizing done d with
  | nil =>
      rw [PexData.withStrings, ← hd]
      exact .refl
  | @cons entry₀ entry old new hhead htail ih =>
      rcases hhead with rfl | hentry
      · simpa using ih (done ++ [entry]) d (by simpa using hd) hcount
      · have hlength : done.length < d.stringTable.count.toNat := by
          rw [← hcount, hd]
          simp
        have hindex : (UInt16.ofNat done.length).toNat = done.length :=
          UInt16.toNat_ofNat_of_lt' (Nat.lt_trans hlength d.stringTable.count.toNat_lt)
        have hreplace : replaceString (UInt16.ofNat done.length) (some entry) d =
            some (d.withString done.length entry) := by
          refine replaceString_eq_some.2 ⟨entry, rfl, ?_, ?_, ?_⟩
          · rwa [UInt16.lt_iff_toNat_lt, hindex]
          · rw [hentry.cString_eq]
            exact hentry.fits
          · rw [hentry.cString_eq, hindex]
        have hrest := ih (done ++ [entry]) (d.withString done.length entry)
          (by simp [PexData.withString, hd]) (by simpa [PexData.withString] using hcount)
        rw [List.append_assoc] at hrest
        exact .head ⟨_, _, hreplace⟩ hrest

theorem SameButStrings.eq_withStrings {d₀ d : PexData} (h : SameButStrings d₀ d) :
    d = d₀.withStrings d.stringTable.strings := by
  rcases h with ⟨hframe, hcount⟩
  rcases d with ⟨header, ⟨count, strings⟩, debugInfo, userFlagCount, userFlags, objectCount,
    objects⟩
  simp only [PexData.frame, PexData.mk.injEq, true_and] at hframe
  rcases hframe with ⟨rfl, rfl, rfl, rfl, rfl, rfl⟩
  cases hcount
  rfl

/-- What replacements can make of a script. -/
theorem amended_iff_rewritten {d₀ d : PexData} (hd₀ : d₀.Loaded) :
    Amended d₀ d ↔ Rewritten d₀ d := by
  refine ⟨Amended.rewritten, fun h => ?_⟩
  rw [h.same.eq_withStrings]
  exact amended_withStrings h.strings [] d₀ rfl hd₀.wellFormed.stringTable.count

/-! ## Sessions -/

variable {π : Type}

/-- A call of the library. -/
def SessionCall.ofLibrary : SessionCall π → Bool
  | replaceFile _ _ => false
  | _ => true

namespace Session

/-- The script is in hand or on file. -/
def Has (s : Session π) (d : PexData) : Prop :=
  (∃ handle, (s.abi.heap handle).bind PexData.script = some d) ∨
    ∃ path, (s.files path).bind scriptIn = some d

/-- Calls of the library lead from the one session to the other, and none of them stores more once a
write has failed. -/
def Leads [DecidableEq π] (mb : MultiByteToWideChar) : Session π → Session π → Prop :=
  ReflTransGen fun s s' => ∃ c : SessionCall π, c.ofLibrary = true ∧ c.Behaved s ∧
    s' = c.next mb s

variable {mb : MultiByteToWideChar} {s s' : Session π}

theorem has_iff_held {d : PexData} : s.Has d ↔
    (∃ handle, s.desk.held handle = some (some d)) ∨ ∃ path, s.desk.filed path = some d := by
  have hheld : ∀ handle, (s.abi.heap handle).bind PexData.script = some d ↔
      s.desk.held handle = some (some d) := by
    intro handle
    cases hlive : s.abi.heap handle with
    | none => simp [desk, hlive]
    | some inst => simp [desk, hlive]
  simp only [Has, hheld]
  rfl

theorem accepts_of_held {handle : PexReaderHandle} {script : Option PexData}
    (h : s.desk.held handle = some script) : s.abi.Accepts handle := by
  rcases Option.map_eq_some_iff.1 h with ⟨d, hlive, -⟩
  exact Or.inr (by rw [hlive]; rfl)

theorem Sound.loaded_of_has (hs : s.Sound) {d : PexData} (h : s.Has d) : d.Loaded := by
  rcases h with ⟨handle, hheld⟩ | ⟨path, hfiled⟩
  · rcases Option.bind_eq_some_iff.1 hheld with ⟨inst, hlive, hscript⟩
    rcases (script_eq_some (hs.scripts handle inst hlive)).1 hscript with ⟨rfl, hloaded⟩
    exact hloaded
  · exact loaded_of_bind hfiled

variable [DecidableEq π]

theorem Leads.sound (h : Leads mb s s') (hs : s.Sound) : s'.Sound := by
  induction h with
  | refl => exact hs
  | tail _ hstep ih =>
      rcases hstep with ⟨c, -, hbehaved, rfl⟩
      exact behaved_sound c _ ih hbehaved

/-- A call of the library that is one on the desk. -/
theorem leads_call (mb : MultiByteToWideChar) (hs : s.Sound) (c : SessionCall π)
    (hc : c.ofLibrary = true) (h : c.Behaved s) {call : DeskCall PexReaderHandle π PexData}
    (hcall : c.deskCall = some call) :
    ∃ s', Leads mb s s' ∧ s'.desk = call.next s.desk :=
  ⟨c.next mb s, .single ⟨c, hc, h, rfl⟩, (desk_follows c call s hs h hcall).1⟩

/-- No call makes a script but by replacements. -/
theorem Leads.amended (h : Leads mb s s') (hs : s.Sound) :
    s'.desk.All fun d => ∃ d₀, s.Has d₀ ∧ Amended d₀ d := by
  induction h with
  | refl =>
      refine ⟨fun handle d hheld => ?_, fun path d hfiled => ?_⟩
      · exact ⟨d, has_iff_held.2 (Or.inl ⟨handle, hheld⟩), .refl⟩
      · exact ⟨d, has_iff_held.2 (Or.inr ⟨path, hfiled⟩), .refl⟩
  | @tail s' s'' hleads hstep ih =>
      have hs' : s'.Sound := Leads.sound hleads hs
      rcases hstep with ⟨c, hc, hbehaved, rfl⟩
      cases hcall : c.deskCall with
      | none => rwa [(desk_idle c s' hs' hbehaved hcall).1]
      | some call =>
          rw [(desk_follows c call s' hs' hbehaved hcall).1]
          refine ih.next (keeps_of_replaceString hcall ?_ ?_)
          · rintro index utf8String d d' ⟨d₀, hhas, hamended⟩ hreplace
            exact ⟨d₀, hhas, hamended.tail ⟨index, utf8String, hreplace⟩⟩
          · rintro path contents d rfl -
            cases hc

/-- There is an instance, or one can be created. -/
theorem leads_instance (mb : MultiByteToWideChar) (hs : s.Sound) :
    ∃ s' handle script, Leads mb s s' ∧ s'.desk.held handle = some script ∧
      s'.desk.filed = s.desk.filed := by
  cases hheld : s.desk.held 1 with
  | some script => exact ⟨s, 1, script, .refl, hheld, rfl⟩
  | none =>
      have hfree : s.abi.heap 1 = none := Option.map_eq_none_iff.1 hheld
      have hpermitted : (AbiCall.createInstance (some 1)).Permitted s.abi :=
        ⟨by decide, by rw [hfree]; rfl⟩
      have hbehaved : (SessionCall.other (.createInstance (some 1))).Behaved s :=
        ⟨⟨hpermitted, rfl⟩, trivial⟩
      rcases leads_call mb hs (.other (.createInstance (some 1))) rfl hbehaved rfl with
        ⟨s', hleads, hdesk⟩
      refine ⟨s', 1, none, hleads, ?_, ?_⟩
      · simp [hdesk, DeskCall.next, Desk.setHeld]
      · rw [hdesk]
        rfl

/-- A script on file can be taken in hand. -/
theorem leads_held (mb : MultiByteToWideChar) (hs : s.Sound) {d : PexData} (h : s.Has d) :
    ∃ s' handle, Leads mb s s' ∧ s'.desk.held handle = some (some d) := by
  rcases has_iff_held.1 h with ⟨handle, hheld⟩ | ⟨path, hfiled⟩
  · exact ⟨s, handle, .refl, hheld⟩
  · rcases leads_instance mb hs with ⟨s', handle, script, hleads, hheld, hsame⟩
    rcases leads_call mb (hleads.sound hs) (.readPex handle (some path) {}) rfl
      ⟨accepts_of_held hheld, trivial⟩ rfl with ⟨s'', hread, hdesk⟩
    refine ⟨s'', handle, hleads.trans hread, ?_⟩
    have hreadable : ({} : Access).readable = true := rfl
    rw [hdesk]
    simp [DeskCall.next, DeskCall.accepted, Desk.setHeld, hheld, hsame, hfiled, hreadable]

theorem leads_amended (mb : MultiByteToWideChar) (hs : s.Sound) {handle : PexReaderHandle}
    {d₀ d : PexData} (hheld : s.desk.held handle = some (some d₀)) (h : Amended d₀ d) :
    ∃ s', Leads mb s s' ∧ s'.desk.held handle = some (some d) := by
  induction h with
  | refl => exact ⟨s, .refl, hheld⟩
  | tail _ hstep ih =>
      rcases ih with ⟨s', hleads, hheld'⟩
      rcases hstep with ⟨index, utf8String, hreplace⟩
      rcases leads_call mb (hleads.sound hs)
        (.other (.code (.modifyStringTable handle index utf8String))) rfl
        ⟨⟨accepts_of_held hheld', rfl⟩, trivial⟩ rfl with ⟨s'', hmodify, hdesk⟩
      refine ⟨s'', hleads.trans hmodify, ?_⟩
      rw [hdesk]
      simp [DeskCall.next, hheld', hreplace, Desk.setHeld]

theorem leads_filed (mb : MultiByteToWideChar) (hs : s.Sound) {handle : PexReaderHandle}
    {d : PexData} (hheld : s.desk.held handle = some (some d))
    (hlength : d.bytes.length ≤ 67108864) (path : π) :
    ∃ s', Leads mb s s' ∧ s'.desk.filed path = some d := by
  rcases leads_call mb hs (.savePex handle (some path) {}) rfl
    ⟨accepts_of_held hheld, OutputDevice.stopsOnFailure_default⟩ rfl with ⟨s', hsave, hdesk⟩
  have hkept : keepsScript {} d = true := by
    simp [keepsScript, OutputDevice.KeepsAll, WriteOutcome.fails, hlength]
  refine ⟨s', hsave, ?_⟩
  rw [hdesk]
  simp [DeskCall.next, hheld, Desk.setFiled, hkept]

end Session

/-- What the library can put on file.  From any session the calls of the library, as long as nothing
more is stored once a write has failed, can lead to one in which the file loads as a script exactly
if the script is not too large and is one of those in hand or on file, but for strings that have
been replaced by texts without a terminator, of at most 65535 bytes. -/
theorem can_be_filed_iff [DecidableEq π] (mb : MultiByteToWideChar) (calls : List (SessionCall π))
    (h : PermittedSession mb calls) (path : π) (d : PexData) :
    (∃ s', (runSession mb calls).Leads mb s' ∧ (s'.files path).bind scriptIn = some d) ↔
      d.bytes.length ≤ 67108864 ∧ ∃ d₀, (runSession mb calls).Has d₀ ∧ Rewritten d₀ d := by
  have hs : (runSession mb calls).Sound :=
    Stepping.invariant SessionCall.next_sound Session.sound_start h
  constructor
  · rintro ⟨s', hleads, hfiled⟩
    rcases Option.bind_eq_some_iff.1 hfiled with ⟨contents, -, hscript⟩
    rcases scriptIn_eq_some.1 hscript with ⟨hlength, -, hfront, -⟩
    rcases (hleads.amended hs).filed path d hfiled with ⟨d₀, hhas, hamended⟩
    exact ⟨Nat.le_trans hfront.length_le hlength, d₀, hhas, hamended.rewritten⟩
  · rintro ⟨hlength, d₀, hhas, hrewritten⟩
    rcases Session.leads_held mb hs hhas with ⟨s₁, handle, hleads₁, hheld₁⟩
    rcases Session.leads_amended mb (hleads₁.sound hs) hheld₁
      ((amended_iff_rewritten (hs.loaded_of_has hhas)).2 hrewritten) with ⟨s₂, hleads₂, hheld₂⟩
    rcases Session.leads_filed mb (hleads₂.sound (hleads₁.sound hs)) hheld₂ hlength path with
      ⟨s₃, hleads₃, hfiled⟩
    exact ⟨s₃, (hleads₁.trans hleads₂).trans hleads₃, hfiled⟩

theorem can_be_filed_iff_editingSession :
    (∃ s', (runSession .strict editingSession).Leads .strict s' ∧
        (s'.files ()).bind scriptIn = some (sampleScript.withString 0 [0x5A])) ↔
      (sampleScript.withString 0 [0x5A]).bytes.length ≤ 67108864 ∧
        ∃ d₀, (runSession .strict editingSession).Has d₀ ∧
          Rewritten d₀ (sampleScript.withString 0 [0x5A]) :=
  can_be_filed_iff .strict editingSession editingSession_permitted () _

end PexReader
