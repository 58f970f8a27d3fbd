import PexReader.Abi.Runs
import PexReader.Model.Session
import PexReader.Spec.Desk
import PexReader.Theory.TornSaves

/-!
# Sessions — the library and its files are a desk

A session is seen as a desk: an instance holds a script or none, and a file is a script if `Load`
accepts it.  Every call then is a call on the desk or is not noticed there, and it reports success
when the desk says so.  So over whole runs the bytes, the streams and what goes wrong on the way are
no more than this: a file that is not completely saved is nothing that can be loaded.  The streams
may fail in any way but one: nothing more is stored once a write has failed.
-/

namespace PexReader

open OFStream

/-! ## What is observed -/

/-- The script that the instance holds. -/
def PexData.script (d : PexData) : Option PexData :=
  if d.header.magic = 0xFA57C0DE then some d else none

instance (entry : List UInt8) : Decidable (EntryFits entry) :=
  inferInstanceAs (Decidable (_ ≤ _))

instance (device : OutputDevice) (n : Nat) : Decidable (device.KeepsAll n) :=
  inferInstanceAs (Decidable (_ ∨ _))

/-- `ModifyStringTable` as an amendment. -/
def replaceString (index : UInt16) (utf8String : Option (List UInt8)) (d : PexData) :
    Option PexData :=
  match utf8String with
  | none => none
  | some str =>
      if index < d.stringTable.count ∧ EntryFits (cString str) then
        some (d.withString index.toNat (cString str))
      else none

/-- The device stores all of the script, and the file is not too large to be loaded. -/
def keepsScript (device : OutputDevice) (d : PexData) : Bool :=
  decide (device.KeepsAll d.pieces.length ∧ d.bytes.length ≤ 67108864)

def Access.readable (access : Access) : Bool :=
  access.isOpen && access.tells && access.seeks

/-- The functions whose success is followed on the desk. -/
def CodeCall.onDesk : CodeCall → Bool
  | readPex _ _ => true
  | modifyStringTable _ _ _ => true
  | savePex _ _ => true
  | _ => false

variable {π : Type}

namespace SessionCall

/-- The call on the desk, if it is noticed there. -/
def deskCall (c : SessionCall π) : Option (DeskCall PexReaderHandle π PexData) :=
  match c with
  | readPex handle pexPath access => some (.takeUp handle pexPath access.readable)
  | savePex handle pexPath device =>
      some (.file handle pexPath device.isOpen (keepsScript device))
  | other (.createInstance (some handle)) => some (.create handle)
  | other (.destroyInstance handle) => some (.destroy handle)
  | other (.close handle) => some (.clear handle)
  | other (.code (.modifyStringTable handle index utf8String)) =>
      some (.amend handle (replaceString index utf8String))
  | other _ => none
  | replaceFile path contents => some (.replace path (contents.bind scriptIn))

/-- If a write of the call fails, nothing more is stored. -/
def StopsOnFailure (c : SessionCall π) : Prop :=
  match c with
  | savePex _ _ device => device.StopsOnFailure
  | _ => True

/-- The caller may make the call, and nothing more is stored once a write has failed. -/
def Behaved (c : SessionCall π) (s : Session π) : Prop :=
  c.Permitted s ∧ c.StopsOnFailure

/-- Whether `C_ReadPex`, `C_ModifyStringTable` or `C_SavePex` reports success. -/
def told (mb : MultiByteToWideChar) (c : SessionCall π) (s : Session π) : Option Bool :=
  match c.abiCall s with
  | some (.code call) => if call.onDesk then some (returnsOne (call.exec mb s.abi)) else none
  | _ => none

end SessionCall

namespace Session

/-- The session as a desk. -/
def desk (s : Session π) : Desk PexReaderHandle π PexData where
  held handle := (s.abi.heap handle).map PexData.script
  filed path := (s.files path).bind scriptIn

structure Sound (s : Session π) : Prop where
  abi : s.abi.Sound
  scripts : s.abi.Each fun _ d => d.BlankOrLoaded

theorem sound_start : ({} : Session π).Sound where
  abi := AbiState.sound_start
  scripts := by simp [AbiState.Each]

variable {s : Session π} {w : AbiState}

theorem desk_same (h : w.heap = s.abi.heap) :
    ({ abi := w, files := s.files } : Session π).desk = s.desk := by
  simp only [desk, h]

theorem desk_setInst (handle : PexReaderHandle) (inst : Option PexData)
    (h : w.heap = Function.update s.abi.heap handle inst) :
    ({ abi := w, files := s.files } : Session π).desk =
      s.desk.setHeld handle (inst.map PexData.script) := by
  have hheld : (fun other => (Function.update s.abi.heap handle inst other).map PexData.script) =
      Function.update (fun other => (s.abi.heap other).map PexData.script) handle
        (inst.map PexData.script) := by
    funext other
    by_cases hother : other = handle
    · simp [hother]
    · simp [hother]
  simp only [desk, h, hheld, Desk.setHeld]

theorem desk_setFile [DecidableEq π] (h : w.heap = s.abi.heap) {path : π}
    {contents : Option (List UInt8)} :
    ({ abi := w, files := Function.update s.files path contents } : Session π).desk =
      s.desk.setFiled path (contents.bind scriptIn) := by
  have hfiled : (fun other => (Function.update s.files path contents other).bind scriptIn) =
      Function.update (fun other => (s.files other).bind scriptIn) path
        (contents.bind scriptIn) := by
    funext other
    by_cases hother : other = path
    · simp [hother]
    · simp [hother]
  simp only [desk, h, hfiled, Desk.setFiled]

end Session

theorem script_eq_some {d d' : PexData} (hd : d.BlankOrLoaded) :
    d.script = some d' ↔ d' = d ∧ d.Loaded := by
  unfold PexData.script
  rcases hd with rfl | hd
  · rw [if_neg (by decide)]
    simp [PexData.not_loaded_empty]
  · rw [if_pos hd.wellFormed.magic]
    simp [hd, eq_comm]

theorem loaded_of_bind {contents : Option (List UInt8)} {d : PexData}
    (h : contents.bind scriptIn = some d) : d.Loaded := by
  rcases Option.bind_eq_some_iff.1 h with ⟨bytes, -, hscript⟩
  exact scriptIn_loaded hscript

theorem script_loaded {d : PexData} (hd : d.Loaded) : d.script = some d :=
  (script_eq_some (Or.inr hd)).2 ⟨rfl, hd⟩

theorem Session.held_eq_none {s : Session π} (hs : s.Sound) {handle : PexReaderHandle}
    (h : s.abi.Accepts handle) : s.desk.held handle = none ↔ handle = 0 := by
  rcases AbiState.Accepts.cases hs.abi h with rfl | ⟨hnull, d, hlive, -⟩
  · simp [desk, hs.abi.null]
  · simp [desk, hlive, hnull]

/-! ## Amended and filed scripts -/

theorem replaceString_blank (index : UInt16) (utf8String : Option (List UInt8)) :
    replaceString index utf8String {} = none := by
  cases utf8String with
  | none => rfl
  | some str =>
      have hnot : ¬ (index < ({} : PexData).stringTable.count ∧ EntryFits (cString str)) :=
        fun h => UInt16.not_lt.2 UInt16.zero_le h.1
      simp only [replaceString, if_neg hnot]

theorem replaceString_loaded {index : UInt16} {utf8String : Option (List UInt8)} {d d' : PexData}
    (hd : d.Loaded) (h : replaceString index utf8String d = some d') : d'.Loaded := by
  cases utf8String with
  | none => cases h
  | some str =>
      unfold replaceString at h
      dsimp only at h
      split_ifs at h with haccepted
      cases h
      exact hd.withString haccepted.2

/-- To amend what is in hand is to amend the instance. -/
theorem amended_eq {s : Session π} (hs : s.Sound) (handle : PexReaderHandle) (index : UInt16)
    (utf8String : Option (List UInt8)) :
    ((s.desk.held handle).bind fun script => script.bind (replaceString index utf8String)) =
      (s.abi.heap handle).bind (replaceString index utf8String) := by
  simp only [Session.desk]
  cases hlive : s.abi.heap handle with
  | none => rfl
  | some d =>
      rcases hs.scripts handle d hlive with rfl | hd
      · rw [Option.bind_some, replaceString_blank]
        rfl
      · simp [script_loaded hd]

/-- What a save has left on file is the script if all of it is kept. -/
theorem filed_eq {d : PexData} (hd : d.BlankOrLoaded) {device : OutputDevice}
    (hstops : device.StopsOnFailure) (hopen : device.isOpen = true) :
    scriptIn ((writeAll device {} d.pieces).close device).stored =
      d.script.filter (keepsScript device) := by
  refine Option.ext fun d' => ?_
  rw [scriptIn_stored hd hstops hopen, Option.filter_eq_some_iff, script_eq_some hd]
  unfold keepsScript
  constructor
  · rintro ⟨rfl, hloaded, hkept⟩
    exact ⟨⟨rfl, hloaded⟩, decide_eq_true hkept⟩
  · rintro ⟨⟨rfl, hloaded⟩, hkept⟩
    exact ⟨rfl, hloaded, of_decide_eq_true hkept⟩

/-! ## Calls of the library -/

section Calls

variable {mb : MultiByteToWideChar} {w : AbiState} {handle : PexReaderHandle}

theorem next_code {call : CodeCall} {code : Int32} {w' : AbiState}
    (h : call.exec mb w = .ok code w') : (AbiCall.code call).next mb w = w' := by
  have hexec : (AbiCall.code call).exec mb w = .ok () w' := discard_of_ok h
  unfold AbiCall.next
  rw [hexec]

/-- The file loads, for what the stream makes of it. -/
theorem load_inputFile {self d : PexData} {contents : Option (List UInt8)} {access : Access} :
    self.load (inputFile contents access) = .ok () d ↔
      access.readable = true ∧ contents.bind scriptIn = some d := by
  rw [load_eq_ok]
  cases contents with
  | none => simp [inputFile]
  | some contents => simp [inputFile, Access.readable, and_assoc]

variable (hw : w.Sound) (h : w.Accepts handle)

include hw h

/-- `C_ReadPex` returns 1 exactly if there is an instance and the file loads. -/
theorem readPex_answer (pexPath : Option InputFile) :
    (∃ d file d', w.heap handle = some d ∧ pexPath = some file ∧ d.load file = .ok () d' ∧
      Abi.C_ReadPex handle pexPath w =
        .ok 1 { w.setInst handle (some d') with lastAbiError := {} }) ∨
    ((∀ d file d', w.heap handle = some d → pexPath = some file → d.load file ≠ .ok () d') ∧
      ∃ e, Abi.C_ReadPex handle pexPath w = .ok 0 { w with lastAbiError := e }) := by
  unfold Abi.C_ReadPex
  rcases pointer_cases hw h pexPath with hrefused | ⟨d, file, hnull, hlive, -, rfl⟩
  · rcases pointerCall_refused (w := w) _ _ _ _ _ hrefused with ⟨text, heq⟩
    refine Or.inr ⟨?_, _, heq⟩
    intro d file d' hlive hpath
    rcases hrefused with rfl | hnone
    · rw [hw.null] at hlive
      cases hlive
    · simp [hpath] at hnone
  · rcases load_cases d file with ⟨d', hload, -⟩ | ⟨e, hload⟩
    · exact Or.inl ⟨d, file, d', hlive, rfl, hload,
        pointerCall_live _ _ _ _ _ hnull hlive (by simp [C_ReadPex, hload]) rfl⟩
    · refine Or.inr ⟨?_, _,
        pointerCall_failed _ _ _ _ _ hnull hlive (by simp [C_ReadPex, hload]) rfl⟩
      rintro _ _ d' hlive' ⟨⟩ hloaded
      rw [hlive] at hlive'
      cases hlive'
      rw [hload] at hloaded
      cases hloaded

/-- `C_ModifyStringTable` returns 1 exactly if there is an instance in which the string can be
replaced. -/
theorem modifyStringTable_answer (index : UInt16) (utf8String : Option (List UInt8)) :
    (∃ d d', w.heap handle = some d ∧ replaceString index utf8String d = some d' ∧
      Abi.C_ModifyStringTable handle index utf8String w =
        .ok 1 { w.setInst handle (some d') with lastAbiError := {} }) ∨
    ((∀ d, w.heap handle = some d → replaceString index utf8String d = none) ∧
      ∃ e, Abi.C_ModifyStringTable handle index utf8String w =
        .ok 0 { w with lastAbiError := e }) := by
  unfold Abi.C_ModifyStringTable
  rcases pointer_cases hw h utf8String with hrefused | ⟨d, str, hnull, hlive, hd, rfl⟩
  · rcases pointerCall_refused (w := w) _ _ _ _ _ hrefused with ⟨text, heq⟩
    refine Or.inr ⟨?_, _, heq⟩
    intro d hlive
    rcases hrefused with rfl | hnone
    · rw [hw.null] at hlive
      cases hlive
    · rw [Option.isNone_iff_eq_none.1 hnone]
      rfl
  · rcases modifyStringTable_cases hd index (cString str) with
      ⟨hindex, hfits, hmodify⟩ | ⟨hnot, e, hmodify⟩
    · exact Or.inl ⟨d, _, hlive, if_pos ⟨hindex, hfits⟩,
        pointerCall_live _ _ _ _ _ hnull hlive (by simp [C_ModifyStringTable, hmodify]) rfl⟩
    · have hthrown : C_ModifyStringTable (some d) index (some str) =
          (.error (.thrown e), some d) := by simp [C_ModifyStringTable, hmodify]
      refine Or.inr ⟨?_, _, pointerCall_thrown _ _ _ _ _ hnull hlive hthrown⟩
      intro d' hlive'
      rw [hlive] at hlive'
      cases hlive'
      exact if_neg hnot

end Calls

/-! ## One call -/

section Step

variable [DecidableEq π] {mb : MultiByteToWideChar} {s : Session π}

theorem CodeCall.Effect.blankOrLoaded {call : CodeCall} {d d' : PexData} {code : Int32}
    (hd : d.BlankOrLoaded) (h : call.Effect d code d') : d'.BlankOrLoaded := by
  cases call with
  | readPex handle pexPath =>
      rcases h with ⟨-, file, -, hload⟩
      exact Or.inr (scriptIn_loaded (load_eq_ok.1 hload).2)
  | modifyStringTable handle index utf8String =>
      rcases h with ⟨-, str, -, hindex, hfits, rfl⟩
      rcases hd with rfl | hd
      · -- An empty instance has no index to replace.
        exact absurd hindex (UInt16.not_lt.2 UInt16.zero_le)
      · exact Or.inr (hd.withString hfits)
  | _ => exact h.2 ▸ hd

/-- An instance holds nothing or a script, through every call. -/
theorem SessionCall.next_sound (c : SessionCall π) (s : Session π) (hs : s.Sound)
    (h : c.Permitted s) : (c.next mb s).Sound := by
  have hcall : ∀ call : AbiCall, call.Permitted s.abi →
      (call.next mb s.abi).Sound ∧ (call.next mb s.abi).Each fun _ d => d.BlankOrLoaded := by
    intro call hpermitted
    exact ⟨call.next_sound _ hs.abi hpermitted,
      AbiCall.next_each (fun _ _ => Or.inl rfl) (fun _ _ _ _ _ hd heffect =>
        heffect.blankOrLoaded hd) hs.abi hs.scripts hpermitted⟩
  cases c with
  | readPex handle pexPath access =>
      have hnext := hcall (.code (.readPex handle (pexPath.map fun path =>
        inputFile (s.files path) access))) h
      exact ⟨hnext.1, hnext.2⟩
  | savePex handle pexPath device =>
      have hnext := hcall (.code (.savePex handle (pexPath.map fun _ => device))) h
      exact ⟨hnext.1, hnext.2⟩
  | other call =>
      have hnext := hcall call h.1
      exact ⟨hnext.1, hnext.2⟩
  | replaceFile path contents => exact ⟨hs.abi, hs.scripts⟩

/-- The call does on the desk what `call'` does there, and reports success when it does. -/
def SessionCall.Follows (mb : MultiByteToWideChar) (c : SessionCall π) (s : Session π)
    (call' : DeskCall PexReaderHandle π PexData) : Prop :=
  (c.next mb s).desk = call'.next s.desk ∧ c.told mb s = call'.told s.desk

/-- A call whose result and state are known. -/
theorem follows_of_exec {c : SessionCall π} {call : CodeCall} {code : Int32} {w : AbiState}
    {call' : DeskCall PexReaderHandle π PexData} (hcall : c.abiCall s = some (.code call))
    (hon : call.onDesk = true) (hexec : call.exec mb s.abi = .ok code w)
    (hdesk : ({ abi := w, files := c.files s } : Session π).desk = call'.next s.desk)
    (htold : call'.told s.desk = some (code == 1)) : c.Follows mb s call' := by
  have hnext : c.next mb s = { abi := w, files := c.files s } := by
    simp [SessionCall.next, hcall, next_code hexec]
  refine ⟨hnext ▸ hdesk, ?_⟩
  rw [htold]
  simp [SessionCall.told, hcall, hon, hexec, returnsOne]

theorem readPex_follows (hs : s.Sound) {handle : PexReaderHandle} (h : s.abi.Accepts handle)
    (pexPath : Option π) (access : Access) :
    (SessionCall.readPex handle pexPath access).Follows mb s
      (.takeUp handle pexPath access.readable) := by
  rcases readPex_answer hs.abi h (pexPath.map fun path => inputFile (s.files path) access) with
    ⟨d, file, d', hlive, hpath, hload, heq⟩ | ⟨hnone, e, heq⟩
  · rcases Option.map_eq_some_iff.1 hpath with ⟨path, rfl, rfl⟩
    rcases load_inputFile.1 hload with ⟨hreadable, hscript⟩
    have hfiled : (some path).bind s.desk.filed = some d' := hscript
    have hheld : (s.desk.held handle).isSome = true := by simp [Session.desk, hlive]
    have haccepted : (DeskCall.takeUp handle (some path) access.readable).accepted s.desk =
        true := by
      simp only [DeskCall.accepted, hheld, hreadable, hfiled, Option.isSome_some, Bool.and_self]
    refine follows_of_exec rfl rfl heq ?_ (congrArg some haccepted)
    refine (Session.desk_setInst handle (some d') rfl).trans ?_
    rw [Option.map_some, script_loaded (loaded_of_bind hscript)]
    simp only [DeskCall.next, haccepted, if_true, hfiled]
  · have hrefused : (DeskCall.takeUp handle pexPath access.readable).accepted s.desk = false := by
      by_contra haccepted
      simp only [DeskCall.accepted, Bool.not_eq_false, Bool.and_eq_true] at haccepted
      rcases haccepted with ⟨⟨hheld, hreadable⟩, hfiled⟩
      rcases Option.isSome_iff_exists.1 hfiled with ⟨d', hfiled⟩
      rcases Option.bind_eq_some_iff.1 hfiled with ⟨path, rfl, hscript⟩
      have hlive : (s.abi.heap handle).isSome = true := by simpa [Session.desk] using hheld
      rcases Option.isSome_iff_exists.1 hlive with ⟨d, hlive⟩
      exact hnone d _ d' hlive rfl (load_inputFile.2 ⟨hreadable, hscript⟩)
    refine follows_of_exec rfl rfl heq ?_ (congrArg some hrefused)
    rw [DeskCall.next_of_refused hrefused]
    exact Session.desk_same rfl

theorem modifyStringTable_follows (hs : s.Sound) {handle : PexReaderHandle}
    (h : s.abi.Accepts handle) (index : UInt16) (utf8String : Option (List UInt8)) :
    (SessionCall.other (.code (.modifyStringTable handle index utf8String))).Follows mb s
      (.amend handle (replaceString index utf8String)) := by
  have hamended := amended_eq hs handle index utf8String
  rcases modifyStringTable_answer hs.abi h index utf8String with
    ⟨d, d', hlive, hreplace, heq⟩ | ⟨hnone, e, heq⟩
  · rw [hlive, Option.bind_some, hreplace] at hamended
    have hd' : d'.Loaded := by
      rcases hs.scripts handle d hlive with rfl | hd
      · rw [replaceString_blank] at hreplace
        cases hreplace
      · exact replaceString_loaded hd hreplace
    refine follows_of_exec rfl rfl heq ?_ ?_
    · refine (Session.desk_setInst handle (some d') rfl).trans ?_
      simp only [DeskCall.next, hamended, Option.map_some, script_loaded hd']
    · simp only [DeskCall.told, DeskCall.accepted, hamended]
      rfl
  · have hrefused : (DeskCall.amend handle (replaceString index utf8String) :
        DeskCall PexReaderHandle π PexData).accepted s.desk = false := by
      simp only [DeskCall.accepted, hamended]
      cases hlive : s.abi.heap handle with
      | none => rfl
      | some d => simp [hnone d hlive]
    refine follows_of_exec rfl rfl heq ?_ (congrArg some hrefused)
    rw [DeskCall.next_of_refused hrefused]
    exact Session.desk_same rfl

theorem savePex_follows (mb : MultiByteToWideChar) (hs : s.Sound) {handle : PexReaderHandle}
    (h : s.abi.Accepts handle) (pexPath : Option π) {device : OutputDevice}
    (hstops : device.StopsOnFailure) :
    (SessionCall.savePex handle pexPath device).Follows mb s
      (.file handle pexPath device.isOpen (keepsScript device)) := by
  rcases savePex_ends hs.abi h (pexPath.map fun _ => device) with
    ⟨d, opened, hlive, hpath, hopen, heq⟩ | ⟨e, -, hrefused, heq⟩
  · rcases Option.map_eq_some_iff.1 hpath with ⟨path, rfl, rfl⟩
    have hheld : s.desk.held handle = some d.script := by simp [Session.desk, hlive]
    have hfiles : (SessionCall.savePex handle (some path) device).files s = Function.update s.files
        path (some ((writeAll device {} d.pieces).close device).stored) := by
      have heq' : Abi.C_SavePex handle (some device) s.abi = _ := heq
      simp only [SessionCall.files, heq', SessionCall.savedBytes]
    refine follows_of_exec rfl rfl (map_of_ok _ heq) ?_ ?_
    · rw [hfiles]
      refine (Session.desk_setFile rfl).trans ?_
      rw [Option.bind_some, filed_eq (hs.scripts handle d hlive) hstops hopen]
      simp only [DeskCall.next, hheld, hopen, if_true]
    · simp only [DeskCall.told, DeskCall.accepted, hheld, hopen]
      rfl
  · have hfiles : (SessionCall.savePex handle pexPath device).files s = s.files := by
      cases pexPath with
      | none => rfl
      | some path =>
          have heq' : Abi.C_SavePex handle (some device) s.abi = _ := heq
          simp only [SessionCall.files, heq', SessionCall.savedBytes]
    have hrefused' : (DeskCall.file handle pexPath device.isOpen (keepsScript device)).accepted
        s.desk = false := by
      rcases hrefused with rfl | hclosed
      · simp [DeskCall.accepted, Session.desk, hs.abi.null]
      · cases pexPath with
        | none => simp [DeskCall.accepted]
        | some path => simp [DeskCall.accepted, hclosed device rfl]
    refine follows_of_exec rfl rfl (map_of_ok _ heq) ?_ (congrArg some hrefused')
    rw [hfiles, DeskCall.next_of_refused hrefused']
    exact Session.desk_same rfl

/-- A call of a function that is not followed on the desk, with the instances it leaves. -/
theorem follows_of_heap {call : AbiCall} {inst : Option PexData} {handle : PexReaderHandle}
    {call' : DeskCall PexReaderHandle π PexData}
    (hheap : (call.next mb s.abi).heap = Function.update s.abi.heap handle inst)
    (hdesk : s.desk.setHeld handle (inst.map PexData.script) = call'.next s.desk)
    (htold : (SessionCall.other call).told mb s = call'.told s.desk) :
    (SessionCall.other call).Follows mb s call' :=
  ⟨(Session.desk_setInst _ _ hheap).trans hdesk, htold⟩

/-- Every call is a call on the desk, or is not noticed there. -/
theorem session_follows (mb : MultiByteToWideChar) (c : SessionCall π) (s : Session π)
    (hs : s.Sound) (hbehaved : c.Behaved s) :
    match c.deskCall with
    | some call' => c.Follows mb s call'
    | none => (c.next mb s).desk = s.desk ∧ c.told mb s = none := by
  rcases hbehaved with ⟨h, hstops⟩
  cases c with
  | readPex handle pexPath access => exact readPex_follows hs h pexPath access
  | savePex handle pexPath device => exact savePex_follows mb hs h pexPath hstops
  | replaceFile path contents => exact ⟨Session.desk_setFile rfl, rfl⟩
  | other call =>
      have hleads := AbiCall.next_leads mb hs.abi h.1
      have hidle : call.effective s.abi = false →
          ((SessionCall.other call).next mb s).desk = s.desk :=
        fun hnot => Session.desk_same (AbiCall.heap_next hs.abi h.1 hnot)
      cases call with
      | createInstance allocated =>
          cases allocated with
          | none =>
              rcases hleads with ⟨e, -, hnext⟩
              have hheap : ((AbiCall.createInstance none).next mb s.abi).heap = s.abi.heap := by
                rw [hnext]
              exact ⟨Session.desk_same hheap, rfl⟩
          | some handle => exact follows_of_heap (congrArg AbiState.heap hleads) rfl rfl
      | destroyInstance handle => exact follows_of_heap (congrArg AbiState.heap hleads) rfl rfl
      | close handle =>
          refine follows_of_heap (congrArg AbiState.heap hleads) ?_ rfl
          -- What is cleared holds nothing, whatever it has held.
          have hcleared : PexData.script {} = none := rfl
          simp [DeskCall.next, Session.desk, Function.comp_def, hcleared]
      | code call =>
          cases call with
          | readPex handle pexPath => cases h.2
          | savePex handle pexPath => cases h.2
          | modifyStringTable handle index utf8String =>
              exact modifyStringTable_follows hs h.1 index utf8String
          | _ => exact ⟨hidle rfl, rfl⟩
      | _ => exact ⟨hidle rfl, rfl⟩

end Step

/-- The calls on the desk. -/
def deskCalls (calls : List (SessionCall π)) : List (DeskCall PexReaderHandle π PexData) :=
  calls.filterMap SessionCall.deskCall

/-! ## Where scripts come from -/

/-- The scripts differ in their strings alone, and have as many of them. -/
structure SameButStrings (d₀ d : PexData) : Prop where
  frame : d.frame = d₀.frame
  count : d.stringTable.count = d₀.stringTable.count

/-- Another program has written a file with the script, but for the strings, in the run. -/
def FromOutside (calls : List (SessionCall π)) (d : PexData) : Prop :=
  ∃ path contents d₀, SessionCall.replaceFile path contents ∈ calls ∧
    contents.bind scriptIn = some d₀ ∧ SameButStrings d₀ d

theorem SameButStrings.replaceString {d₀ d d' : PexData} (h : SameButStrings d₀ d)
    {index : UInt16} {utf8String : Option (List UInt8)}
    (hreplace : PexReader.replaceString index utf8String d = some d') : SameButStrings d₀ d' := by
  cases utf8String with
  | none => cases hreplace
  | some str =>
      unfold PexReader.replaceString at hreplace
      dsimp only at hreplace
      split_ifs at hreplace with haccepted
      cases hreplace
      exact ⟨h.frame, h.count⟩

/-- What replacements keep, and what is true of the scripts that other programs put on file, every
call keeps. -/
theorem keeps_of_replaceString {P : PexData → Prop} {c : SessionCall π}
    {call : DeskCall PexReaderHandle π PexData} (hcall : c.deskCall = some call)
    (hedit : ∀ index utf8String d d', P d → replaceString index utf8String d = some d' → P d')
    (hfile : ∀ path contents d, c = .replaceFile path contents → contents.bind scriptIn = some d →
      P d) : Desk.Keeps P call := by
  cases c with
  | readPex handle pexPath access =>
      cases hcall
      exact trivial
  | savePex handle pexPath device =>
      cases hcall
      exact trivial
  | replaceFile path contents =>
      cases hcall
      exact fun d hd => hfile path contents d rfl hd
  | other call =>
      cases call with
      | createInstance allocated =>
          cases allocated with
          | none => cases hcall
          | some handle =>
              cases hcall
              exact trivial
      | destroyInstance handle =>
          cases hcall
          exact trivial
      | close handle =>
          cases hcall
          exact trivial
      | code call =>
          cases call with
          | modifyStringTable handle index utf8String =>
              cases hcall
              exact hedit index utf8String
          | _ => cases hcall
      | _ => cases hcall

theorem keeps_fromOutside {calls : List (SessionCall π)} {call : DeskCall PexReaderHandle π PexData}
    (h : call ∈ deskCalls calls) : Desk.Keeps (FromOutside calls) call := by
  rcases List.mem_filterMap.1 h with ⟨c, hmem, hcall⟩
  refine keeps_of_replaceString hcall ?_ ?_
  · rintro index utf8String d d' ⟨path, contents, d₀, hreplaced, hd₀, hsame⟩ hreplace
    exact ⟨path, contents, d₀, hreplaced, hd₀, hsame.replaceString hreplace⟩
  · rintro path contents d rfl hd
    exact ⟨path, contents, d, hmem, hd, rfl, rfl⟩

/-! ## Runs -/

section Runs

variable [DecidableEq π] {mb : MultiByteToWideChar} {calls : List (SessionCall π)}

theorem behaved_sound (c : SessionCall π) (s : Session π) (hs : s.Sound) (h : c.Behaved s) :
    (c.next mb s).Sound :=
  c.next_sound s hs h.1

theorem each_behaved (h : PermittedSession mb calls) (hstops : ∀ c ∈ calls, c.StopsOnFailure) :
    Stepping.Each (SessionCall.next mb) SessionCall.Behaved calls {} :=
  Stepping.each_and _ h hstops

theorem desk_idle (c : SessionCall π) (s : Session π) (hs : s.Sound) (h : c.Behaved s)
    (hnone : c.deskCall = none) : (c.next mb s).desk = s.desk ∧ c.told mb s = none := by
  have hfollows := session_follows mb c s hs h
  rwa [hnone] at hfollows

theorem desk_follows (c : SessionCall π) (call' : DeskCall PexReaderHandle π PexData)
    (s : Session π) (hs : s.Sound) (h : c.Behaved s) (hcall : c.deskCall = some call') :
    (c.next mb s).desk = call'.next s.desk ∧ c.told mb s = call'.told s.desk := by
  have hfollows := session_follows mb c s hs h
  rwa [hcall] at hfollows

theorem desk_run (h : Stepping.Each (SessionCall.next mb) SessionCall.Behaved calls {}) :
    (runSession mb calls).desk = Stepping.run DeskCall.next (deskCalls calls) {} :=
  (Stepping.run_simulates behaved_sound Session.desk DeskCall.next (fun _ _ => True)
    SessionCall.deskCall
    (fun c s hs hbehaved hnone => (desk_idle c s hs hbehaved hnone).1)
    (fun c call' s hs hbehaved hcall => ⟨trivial, (desk_follows c call' s hs hbehaved hcall).1⟩)
    Session.sound_start h).2

/-- The library and its files are a desk.  Over every run of calls, whatever goes wrong with the
streams, the devices and the arguments, if only nothing more is stored once a write has failed: the
instances hold the scripts that are in hand, and what loads from the files is what is on file; and
each load, replacement of a string and save reports success exactly when the desk says so. -/
theorem session_is_desk (mb : MultiByteToWideChar) (calls : List (SessionCall π))
    (h : PermittedSession mb calls) (hstops : ∀ c ∈ calls, c.StopsOnFailure) :
    (runSession mb calls).desk = Stepping.run DeskCall.next (deskCalls calls) {} ∧
      Stepping.heard (SessionCall.next mb) (SessionCall.told mb) calls {} =
        Stepping.heard DeskCall.next DeskCall.told (deskCalls calls) {} := by
  have hbehaved := each_behaved h hstops
  refine ⟨desk_run hbehaved, ?_⟩
  exact Stepping.heard_simulates behaved_sound Session.desk DeskCall.next
    SessionCall.deskCall (SessionCall.told mb) DeskCall.told
    (fun c s hs hbehaved hnone => desk_idle c s hs hbehaved hnone)
    (fun c call' s hs hbehaved hcall => desk_follows c call' s hs hbehaved hcall)
    Session.sound_start hbehaved

/-! ### What is on file -/

namespace SessionCall

/-- The call puts the script on file: an instance that holds it is saved, and all of it is kept, or
another program writes a file that has it. -/
def Puts (path : π) (d : PexData) (c : SessionCall π) (s : Session π) : Prop :=
  match c with
  | savePex handle (some target) device =>
      target = path ∧ device.isOpen = true ∧ s.desk.held handle = some (some d) ∧
        keepsScript device d = true
  | replaceFile target contents => target = path ∧ contents.bind scriptIn = some d
  | _ => False

/-- The call writes the file. -/
def Overwrites (path : π) (c : SessionCall π) : Prop :=
  match c with
  | savePex handle (some target) device =>
      target = path ∧ handle ≠ 0 ∧ device.isOpen = true
  | replaceFile target _ => target = path
  | _ => False

end SessionCall

/-- What a call does to one file. -/
theorem filed_next (c : SessionCall π) (s : Session π) (path : π) (d : PexData) (holds : Prop)
    (hs : s.Sound) (h : c.Behaved s) (hbefore : s.desk.filed path = some d ↔ holds) :
    (c.next mb s).desk.filed path = some d ↔
      c.Puts path d s ∨ (holds ∧ ¬ c.Overwrites path) := by
  cases c with
  | readPex handle pexPath access =>
      have hsame : ((SessionCall.readPex handle pexPath access).next mb s).desk.filed =
        s.desk.filed := rfl
      simpa [hsame, SessionCall.Puts, SessionCall.Overwrites] using hbefore
  | other call =>
      have hsame : ((SessionCall.other call).next mb s).desk.filed = s.desk.filed := rfl
      simpa [hsame, SessionCall.Puts, SessionCall.Overwrites] using hbefore
  | replaceFile target contents =>
      have hdesk : ((SessionCall.replaceFile target contents).next mb s).desk =
        s.desk.setFiled target (contents.bind scriptIn) := Session.desk_setFile rfl
      rw [hdesk]
      by_cases hsame : path = target
      · simp [Desk.setFiled, SessionCall.Puts, SessionCall.Overwrites, hsame]
      · simpa [Desk.setFiled, SessionCall.Puts, SessionCall.Overwrites, hsame, Ne.symm hsame]
          using hbefore
  | savePex handle pexPath device =>
      have hdesk := (savePex_follows mb hs h.1 pexPath h.2).1
      have hlive : (s.desk.held handle).isSome = true ↔ handle ≠ 0 := by
        rw [Option.isSome_iff_ne_none, Ne, Session.held_eq_none hs h.1]
      rw [hdesk, DeskCall.filed_file, hbefore, hlive]
      cases pexPath with
      | none => simp [SessionCall.Puts, SessionCall.Overwrites]
      | some target => simp [SessionCall.Puts, SessionCall.Overwrites]

/-- A file loads as a script exactly if that script was put there, whole, by a save or by another
program, and nothing has written the file since.  A save that is torn or too large leaves nothing
that loads, and never what an older save or another instance held, if only nothing more is stored
once a write has failed. -/
theorem file_is_last_save (mb : MultiByteToWideChar) (calls : List (SessionCall π))
    (h : PermittedSession mb calls) (hstops : ∀ c ∈ calls, c.StopsOnFailure) (path : π)
    (d : PexData) :
    ((runSession mb calls).files path).bind scriptIn = some d ↔
      Stepping.Since (SessionCall.next mb) (SessionCall.Puts path d)
        (SessionCall.Overwrites path) calls {} := by
  have hstart : ({} : Session π).desk.filed path = some d ↔ False := by simp [Session.desk]
  have hcall : ∀ (c : SessionCall π) (s : Session π) (holds : Prop), s.Sound → c.Behaved s →
      (s.desk.filed path = some d ↔ holds) → ((c.next mb s).desk.filed path = some d ↔
        c.Puts path d s ∨ (holds ∧ ¬ c.Overwrites path)) :=
    fun c s holds => filed_next c s path d holds
  exact Stepping.invariant_since (R := fun holds s => s.desk.filed path = some d ↔ holds)
    behaved_sound hstart hcall Session.sound_start (each_behaved h hstops)

/-- The library makes no script up: in every session in which nothing more is stored once a write
has failed, each script that an instance holds or that loads from a file is one of those that other
programs have put on file, but for its strings. -/
theorem only_strings_change (mb : MultiByteToWideChar) (calls : List (SessionCall π))
    (h : PermittedSession mb calls) (hstops : ∀ c ∈ calls, c.StopsOnFailure) :
    (∀ handle d, (runSession mb calls).abi.heap handle = some d →
      d = {} ∨ FromOutside calls d) ∧
    ∀ path d, ((runSession mb calls).files path).bind scriptIn = some d → FromOutside calls d := by
  have hstart : ({} : Desk PexReaderHandle π PexData).All (FromOutside calls) :=
    ⟨by simp, by simp⟩
  have hall := hstart.run fun call hcall => keeps_fromOutside hcall
  rw [← desk_run (each_behaved h hstops)] at hall
  have hsound := Stepping.invariant SessionCall.next_sound Session.sound_start h
  refine ⟨?_, hall.filed⟩
  intro handle d hlive
  rcases hsound.scripts handle d hlive with hblank | hd
  · exact Or.inl hblank
  · refine Or.inr (hall.held handle d ?_)
    simp [Session.desk, hlive, script_loaded hd]

end Runs

/-- A file is loaded, its first string is replaced, and it is saved in its place, the first time to
a disk that is full. -/
def editingSession : List (SessionCall Unit) :=
  [.replaceFile () (some sampleScript.bytes), .other (.createInstance (some 8)),
    .readPex 8 (some ()) {}, .other (.code (.modifyStringTable 8 0 (some [0x59]))),
    .savePex 8 (some ()) (fullDisk 20), .savePex 8 (some ()) {}]

theorem editingSession_permitted : PermittedSession .strict editingSession := by
  decide +kernel

theorem editingSession_stopsOnFailure : ∀ c ∈ editingSession, c.StopsOnFailure := by
  simp [editingSession, SessionCall.StopsOnFailure, stopsOnFailure_fullDisk,
    OutputDevice.stopsOnFailure_default]

theorem session_is_desk_editingSession :
    (runSession .strict editingSession).desk =
        Stepping.run DeskCall.next (deskCalls editingSession) {} ∧
      Stepping.heard (SessionCall.next .strict) (SessionCall.told .strict) editingSession {} =
        Stepping.heard DeskCall.next DeskCall.told (deskCalls editingSession) {} :=
  session_is_desk .strict editingSession editingSession_permitted editingSession_stopsOnFailure

theorem file_is_last_save_editingSession :
    ((runSession .strict editingSession).files ()).bind scriptIn =
        some (sampleScript.withString 0 [0x59]) ↔
      Stepping.Since (SessionCall.next .strict)
        (SessionCall.Puts () (sampleScript.withString 0 [0x59])) (SessionCall.Overwrites ())
        editingSession {} :=
  file_is_last_save .strict editingSession editingSession_permitted editingSession_stopsOnFailure ()
    _

theorem only_strings_change_editingSession :
    (∀ handle d, (runSession .strict editingSession).abi.heap handle = some d →
      d = {} ∨ FromOutside editingSession d) ∧
    ∀ path d, ((runSession .strict editingSession).files path).bind scriptIn = some d →
      FromOutside editingSession d :=
  only_strings_change .strict editingSession editingSession_permitted editingSession_stopsOnFailure

end PexReader
