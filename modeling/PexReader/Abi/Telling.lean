import PexReader.Abi.Buffers
import PexReader.Abi.Handles
import PexReader.Abi.Lifecycle
import PexReader.Theory.Published
import PexReader.Theory.TornSaves

/-!
# Telling — which instances a caller can tell apart

Two instances that are the same but for what the getters do not tell cannot be told apart by any
sequence of calls, as long as neither is saved: not by the getters, and not by replacing strings,
loading files and closing either.  All others can.  Saving tells everything.
-/

namespace PexReader

open Focus

/-! ## What a caller learns -/

/-- What the caller sees of a reply. -/
def AbiCall.seen : (call : AbiCall) → call.Reply → call.Reply
  | value _ call, reply => call.seen reply
  | getAbiVersion, reply => reply
  | getLastStatus, reply => reply
  | getLastErrorUtf8 _ _, reply => reply
  | getVersion, reply => reply
  | getVersionLength, reply => reply
  | createInstance _, reply => reply
  | destroyInstance _, reply => reply
  | close _, reply => reply
  | code _, reply => reply
  | freeBuffer _, reply => reply

/-- What is seen of the reply to a call, and the error state that can be asked for. -/
def AbiCall.learned (mb : MultiByteToWideChar) (call : AbiCall) (w : AbiState) :
    Heard × AbiErrorState :=
  (⟨call, (reply (call.call mb w)).map call.seen⟩, (call.next mb w).lastAbiError)

/-- `C_SavePex`. -/
def AbiCall.saves : AbiCall → Bool
  | code (.savePex _ _) => true
  | _ => false

/-- Calls that the caller may make, on the instance and of the kind. -/
def CallsOnly (mb : MultiByteToWideChar) (handle : PexReaderHandle) (kind : AbiCall → Bool)
    (calls : List AbiCall) (w : AbiState) : Prop :=
  Stepping.Each (AbiCall.next mb)
    (fun call w => call.Permitted w ∧ call.target = handle ∧ kind call = true) calls w

/-- What a caller learns from calls that are made one after the other. -/
def learnedFrom (mb : MultiByteToWideChar) (calls : List AbiCall) (w : AbiState) :
    List (Heard × AbiErrorState) :=
  Stepping.heard (AbiCall.next mb) (fun call w => some (call.learned mb w)) calls w

/-- No calls of the kind on the instance tell one state from the other. -/
def Indistinguishable (mb : MultiByteToWideChar) (handle : PexReaderHandle) (kind : AbiCall → Bool)
    (w v : AbiState) : Prop :=
  ∀ calls, CallsOnly mb handle kind calls w → learnedFrom mb calls w = learnedFrom mb calls v

/-- What the getters tell of the instance, and the error state. -/
def AbiState.told (handle : PexReaderHandle) (w : AbiState) : Option PexData × AbiErrorState :=
  ((w.heap handle).map PexData.published, w.lastAbiError)

open AbiState

/-! ## Alike instances answer alike -/

section Wrappers

variable {α γ : Type} {handle : PexReaderHandle} {see : α → γ}

theorem told_setInst (w : AbiState) (inst : Option PexData) :
    told handle (w.setInst handle inst) = (inst.map PexData.published, w.lastAbiError) := by
  simp [told, setInst]

theorem respects_setError (status : PexReaderStatus) (message : String) :
    Respects (told handle) id (setError status message) := by
  intro w v hsame
  exact ⟨rfl, Prod.ext (congrArg Prod.fst hsame :) rfl⟩

theorem respects_validateHandle : Respects (told handle) id (validateHandle handle) := by
  unfold validateHandle
  split_ifs
  · exact .pure true
  · exact (respects_setError _ _).bind fun _ => .pure false

/-- The implementation does not tell instances apart that are published alike. -/
def Discreet (see : α → γ) (implementation : Option PexData → Except Fault α × Option PexData) :
    Prop :=
  ∀ d d' : PexData, d.published = d'.published →
    (implementation (some d)).1.map see = (implementation (some d')).1.map see ∧
      (implementation (some d)).2.map PexData.published =
        (implementation (some d')).2.map PexData.published

theorem reply_settle (outcome : Except Fault α) (w : AbiState) :
    (reply (settle outcome w)).map see = (outcome.map see).mapError Fault.interruption := by
  cases outcome <;> rfl

theorem behind_settle (outcome : Except Fault α) (w : AbiState) :
    behind (settle outcome w) = w := by
  cases outcome <;> rfl

theorem respects_onInst {implementation : Option PexData → Except Fault α × Option PexData}
    (h : Discreet see implementation) :
    Respects (told handle) see (onInst handle implementation) := by
  intro w v hsame
  have hinst : (w.heap handle).map PexData.published = (v.heap handle).map PexData.published :=
    congrArg Prod.fst hsame
  have herror : w.lastAbiError = v.lastAbiError := congrArg Prod.snd hsame
  unfold onInst
  split_ifs with hnull
  · simp only [reply_settle, behind_settle]
    exact ⟨trivial, hsame⟩
  · cases hw : w.heap handle with
    | none =>
        rw [hw, Option.map_none, eq_comm, Option.map_eq_none_iff] at hinst
        rw [hinst]
        exact ⟨rfl, hsame⟩
    | some d =>
        rw [hw, Option.map_some, eq_comm, Option.map_eq_some_iff] at hinst
        rcases hinst with ⟨d', hv, hpublished⟩
        rcases h d d' hpublished.symm with ⟨hreply, hbehind⟩
        simp only [hv, reply_settle, behind_settle, told_setInst, hreply, hbehind, herror,
          and_self]

/-- `InvokeAbi` clears the error state before the action and sets it behind an exception. -/
theorem respects_invokeAbi {action : AbiAction α} (h : Respects (told handle) see action)
    (failureValue : α) : Respects (told handle) see (invokeAbi failureValue action) := by
  intro w v hsame
  have hcleared : told handle { w with lastAbiError := {} } =
      told handle { v with lastAbiError := {} } := Prod.ext (congrArg Prod.fst hsame :) rfl
  rcases h _ _ hcleared with ⟨hreply, hbehind⟩
  unfold invokeAbi
  cases hw : action { w with lastAbiError := {} } with
  | ok result w' =>
      cases hv : action { v with lastAbiError := {} } with
      | ok result' v' =>
          rw [hw, hv] at hreply hbehind
          exact ⟨congrArg Except.ok (Except.ok.inj hreply), hbehind⟩
      | error e v' =>
          rw [hw, hv] at hreply
          cases hreply
  | error e w' =>
      cases hv : action { v with lastAbiError := {} } with
      | ok result' v' =>
          rw [hw, hv] at hreply
          cases hreply
      | error e' v' =>
          rw [hw, hv] at hreply hbehind
          cases hreply
          cases e with
          | undefined u => exact ⟨rfl, hbehind⟩
          | exception e => exact ⟨rfl, Prod.ext (congrArg Prod.fst hbehind :) rfl⟩

theorem respects_handleReturn {implementation : Option PexData → Except Fault α}
    (h : ∀ d d' : PexData, d.published = d'.published →
      (implementation (some d)).map see = (implementation (some d')).map see)
    (failureValue : α) :
    Respects (told handle) see (handleReturn failureValue handle implementation) := by
  refine respects_invokeAbi (respects_validateHandle.bind fun valid => ?_) failureValue
  split_ifs
  · exact respects_onInst fun d d' hsame => ⟨h d d' hsame, congrArg some hsame⟩
  · exact .pure failureValue

theorem respects_pointerCall {implementation : Option PexData → Except Fault α × Option PexData}
    (h : Discreet id implementation) (failureValue : α) (isNull : Bool) (nullMessage : String)
    (failed : α → Bool) (status : PexReaderStatus) (message : String) :
    Respects (told handle) id (pointerCall failureValue handle isNull nullMessage implementation
      failed status message) := by
  refine respects_invokeAbi (respects_validateHandle.bind fun valid => ?_) failureValue
  split_ifs
  · exact (respects_setError _ _).bind fun _ => .pure failureValue
  · exact .pure failureValue
  · refine (respects_onInst h).bind fun result => ?_
    dsimp only
    split_ifs
    · exact (respects_setError _ _).bind fun _ => .pure result
    · exact .pure result

theorem respects_stringCall
    {implementation : Option PexData → Except Fault (Int32 × Option (List α))}
    (h : ∀ d d' : PexData, d.published = d'.published →
      implementation (some d) = implementation (some d'))
    (buffer : Option (List α)) (bufferSize : Int32) (invalidMessage tooSmallMessage : String) :
    Respects (told handle) id (stringCall handle buffer bufferSize invalidMessage tooSmallMessage
      implementation) := by
  have honInst : Respects (told handle) id
      (onInst handle fun inst => (implementation inst, inst)) :=
    respects_onInst fun d d' hsame => ⟨congrArg _ (h d d' hsame), congrArg some hsame⟩
  refine respects_invokeAbi (respects_validateHandle.bind fun valid => ?_) _
  dsimp only
  split_ifs
  · exact (respects_setError _ _).bind fun _ => .pure _
  · refine honInst.bind fun result => ?_
    split_ifs
    · exact (respects_setError _ _).bind fun _ => .pure result
    · exact (respects_setError _ _).bind fun _ => .pure result
    · exact .pure result

end Wrappers

/-! ## Calls -/

section Calls

variable {handle : PexReaderHandle}

theorem respects_record (call : RecordCall) :
    Respects (told handle) id (call.call handle) := by
  have hget : ∀ d d' : PexData, d.published = d'.published →
      (call.get (some d)).map id = (call.get (some d')).map id := by
    intro d d' hsame
    rw [← call.get_published d, ← call.get_published d', hsame]
  cases call <;> exact respects_handleReturn hget _

theorem respects_value (call : ValueCall) :
    Respects (told handle) call.seen (call.call handle) := by
  have hget : ∀ d d' : PexData, d.published = d'.published →
      (call.get (some d)).map call.seen = (call.get (some d')).map call.seen := by
    intro d d' hsame
    rw [← call.seen_published d, ← call.seen_published d', hsame]
  cases call <;> exact respects_handleReturn hget _

theorem respects_place (handle : PexReaderHandle) :
    Respects (told handle) id
      (modify fun w => w.setInst handle (some C_CreateInstance) : AbiAction Unit) := by
  intro w v hsame
  refine ⟨rfl, ?_⟩
  change told handle (w.setInst handle _) = told handle (v.setInst handle _)
  rw [told_setInst, told_setInst, show w.lastAbiError = v.lastAbiError from congrArg Prod.snd hsame]

/-- A call that saves nothing. -/
theorem respects_call (mb : MultiByteToWideChar) (call : AbiCall) (hnull : call.target ≠ 0)
    (hsaves : call.saves = false) : Respects (told call.target) call.seen (call.call mb) := by
  cases call with
  | createInstance allocated =>
      cases allocated with
      | none => exact absurd rfl hnull
      | some handle =>
          exact respects_invokeAbi ((respects_place handle).bind fun _ => .pure handle) 0
  | destroyInstance handle =>
      exact respects_invokeAbi (respects_onInst fun _ _ _ => ⟨rfl, rfl⟩) ()
  | close handle =>
      refine respects_invokeAbi ?_ ()
      split_ifs
      · exact respects_onInst fun _ _ _ => ⟨rfl, rfl⟩
      · exact .pure ()
  | code call =>
      cases call with
      | readPex handle pexPath =>
          refine respects_pointerCall (fun d d' hsame => ?_) _ _ _ _ _ _
          have hread := readPex_published hsame pexPath
          exact ⟨congrArg Except.ok hread.1, hread.2⟩
      | modifyStringTable handle index utf8String =>
          refine respects_pointerCall (fun d d' hsame => ?_) _ _ _ _ _ _
          have hmodify := modifyStringTable_published hsame index utf8String
          exact ⟨congrArg (Except.map id) hmodify.1, hmodify.2⟩
      | savePex handle pexPath => cases hsaves
      | getStringUtf8 handle index buffer bufferSize =>
          refine respects_stringCall (fun d d' hsame => ?_) _ _ _ _
          rw [← getStringUtf8_published d, ← getStringUtf8_published d', hsame]
      | getStringWide handle index buffer bufferSize =>
          refine respects_stringCall (fun d d' hsame => ?_) _ _ _ _
          rw [← getStringWide_published d, ← getStringWide_published d', hsame]
      | record handle call => exact respects_record call
  | value handle call => exact respects_value call
  | _ => exact absurd rfl hnull

/-- Of a call that saves nothing the same is learned wherever the same is published. -/
theorem learned_published (mb : MultiByteToWideChar) {call : AbiCall} {w v : AbiState}
    (hnull : call.target ≠ 0) (hsaves : call.saves = false)
    (h : (w.heap call.target).map PexData.published =
      (v.heap call.target).map PexData.published) :
    ((call.next mb w).heap call.target).map PexData.published =
        ((call.next mb v).heap call.target).map PexData.published ∧
      call.learned mb w = call.learned mb v := by
  have htold : told call.target { w with lastAbiError := {} } =
      told call.target { v with lastAbiError := {} } := Prod.ext h rfl
  rcases respects_call mb call hnull hsaves _ _ htold with ⟨hreply, hbehind⟩
  rw [← next_eq_behind, ← next_eq_behind, ← next_clears mb hnull, ← next_clears mb hnull] at hbehind
  rw [← call_clears mb hnull, ← call_clears mb hnull] at hreply
  refine ⟨congrArg Prod.fst hbehind, ?_⟩
  have herror : (call.next mb w).lastAbiError = (call.next mb v).lastAbiError :=
    congrArg Prod.snd hbehind
  simp only [AbiCall.learned, hreply, herror]

/-- Of any call the same is learned wherever the instance is the same. -/
theorem learned_congr (mb : MultiByteToWideChar) {call : AbiCall} {w v : AbiState}
    (hnull : call.target ≠ 0) (h : w.heap call.target = v.heap call.target) :
    (call.next mb w).heap call.target = (call.next mb v).heap call.target ∧
      call.learned mb w = call.learned mb v := by
  rcases noticed_congr mb hnull h with ⟨hinst, hnoticed⟩
  refine ⟨hinst, ?_⟩
  have hheard : call.heard mb w = call.heard mb v := congrArg Prod.fst hnoticed
  have herror : (call.next mb w).lastAbiError = (call.next mb v).lastAbiError :=
    congrArg Prod.snd hnoticed
  have hreply : reply (call.call mb w) = reply (call.call mb v) := eq_of_heq (Sigma.mk.inj hheard).2
  simp only [AbiCall.learned, hreply, herror]

end Calls

/-! ## Runs -/

section Runs

variable {mb : MultiByteToWideChar} {handle : PexReaderHandle} {w v : AbiState}

theorem indistinguishable_of_published (hnull : handle ≠ 0) (hw : w.Sound)
    (h : (w.heap handle).map PexData.published = (v.heap handle).map PexData.published) :
    Indistinguishable mb handle (fun call => !call.saves) w v := by
  intro calls hcalls
  refine Stepping.heard_congr (fun call w hw hallowed => AbiCall.next_sound call w hw hallowed.1)
    (fun w => (w.heap handle).map PexData.published) ?_ hw hcalls h
  rintro call w v _ ⟨-, rfl, hsaves⟩ hsame
  rcases learned_published mb hnull (by simpa using hsaves) hsame with ⟨hinst, hlearned⟩
  exact ⟨hinst, congrArg some hlearned⟩

theorem indistinguishable_of_eq (hnull : handle ≠ 0) (hw : w.Sound)
    (h : w.heap handle = v.heap handle) :
    Indistinguishable mb handle (fun _ => true) w v := by
  intro calls hcalls
  refine Stepping.heard_congr (fun call w hw hallowed => AbiCall.next_sound call w hw hallowed.1)
    (fun w => w.heap handle) ?_ hw hcalls h
  rintro call w v _ ⟨-, rfl, -⟩ hsame
  rcases learned_congr mb hnull hsame with ⟨hinst, hlearned⟩
  exact ⟨hinst, congrArg some hlearned⟩

/-- What one call tells. -/
theorem Indistinguishable.reply_eq {kind : AbiCall → Bool}
    (h : Indistinguishable mb handle kind w v) (call : AbiCall) (hpermitted : call.Permitted w)
    (htarget : call.target = handle) (hkind : kind call = true) :
    (reply (call.call mb w)).map call.seen = (reply (call.call mb v)).map call.seen := by
  have hone := h [call] ⟨⟨hpermitted, htarget, hkind⟩, trivial⟩
  have hlearned : call.learned mb w = call.learned mb v := (List.cons.inj hone).1
  exact eq_of_heq (Sigma.mk.inj (congrArg Prod.fst hlearned)).2

/-- All is seen of the reply to a call that returns a code. -/
theorem Indistinguishable.code_eq {kind : AbiCall → Bool}
    (h : Indistinguishable mb handle kind w v) (call : CodeCall)
    (hpermitted : w.Accepts call.handle) (htarget : call.handle = handle)
    (hkind : kind (.code call) = true) :
    reply (call.call mb w) = reply (call.call mb v) := by
  have hreply := h.reply_eq (.code call) hpermitted htarget hkind
  have hseen : (AbiCall.code call).seen = id := rfl
  rwa [hseen, Except.map_id] at hreply

end Runs

/-! ## What the getters tell -/

section Live

variable {mb : MultiByteToWideChar} {handle : PexReaderHandle} {w : AbiState} {d : PexData}
  (hnull : handle ≠ 0) (hlive : w.heap handle = some d)

include hnull hlive

theorem reply_record {call : RecordCall} {result : Int32 × call.Out}
    (h : call.get (some d) = .ok result) : reply (call.call handle w) = .ok result := by
  cases call <;> exact congrArg reply (handleReturn_live hnull hlive _ h)

theorem reply_value {call : ValueCall} {result : call.Reply}
    (h : call.get (some d) = .ok result) : reply (call.call handle w) = .ok result := by
  cases call <;> exact congrArg reply (handleReturn_live hnull hlive _ h)

/-- A buffer that has room for every text. -/
theorem reply_text (hd : d.Consistent) {index : UInt16} {entry : List UInt8}
    (hindex : index < d.stringTable.count)
    (hentry : d.stringTable.strings[index.toNat]? = some entry) (contents : List UInt8) :
    reply (Abi.C_GetStringUtf8 handle index (some contents) 200000 w) =
      .ok (Int32.ofNat (decoded entry).length,
        some (decoded entry ++ 0 :: contents.drop ((decoded entry).length + 1))) := by
  have hfits : entry.length ≤ 65535 :=
    hd.stringTable.entries entry (List.mem_of_getElem? hentry)
  have hdecoded := length_decoded_le entry
  have hlt : Int32.ofNat (decoded entry).length < 200000 := by
    rw [Int32.lt_iff_toInt_lt, Int32.toInt_ofNat_of_lt (by omega)]
    change ((decoded entry).length : Int) < 200000
    omega
  have hget := getStringUtf8_eq hindex hentry (some contents) 200000
  rw [copyOut_of_lt hlt] at hget
  exact congrArg reply (stringCall_live _ _ hnull hlive (by decide) (by simp) hget)

end Live

theorem accepts_live {w : AbiState} {handle : PexReaderHandle} {d : PexData}
    (hlive : w.heap handle = some d) : w.Accepts handle :=
  Or.inr (Option.isSome_of_eq_some hlive)

/-- A text and its length in a buffer. -/
theorem eq_of_written {text text' rest rest' : List UInt8} (hle : text.length ≤ 2147483647)
    (hle' : text'.length ≤ 2147483647)
    (hlength : Int32.ofNat text.length = Int32.ofNat text'.length)
    (h : text ++ rest = text' ++ rest') : text = text' := by
  have hint := congrArg Int32.toInt hlength
  rw [Int32.toInt_ofNat_of_lt (by omega), Int32.toInt_ofNat_of_lt (by omega)] at hint
  exact List.append_inj_left h (by omega)

section

variable {mb : MultiByteToWideChar} {handle : PexReaderHandle} {w v : AbiState} {d d' : PexData}
  (hnull : handle ≠ 0) (hw : w.Sound) (hv : v.Sound) (hd : w.heap handle = some d)
  (hd' : v.heap handle = some d')
  (h : Indistinguishable mb handle (fun call => !call.saves) w v)

include hnull hw hv hd hd' h

theorem Indistinguishable.alike : d.Alike d' where
  record call := by
    rcases call.get_ok (hw.consistent handle d hd) with ⟨result, hresult⟩
    rcases call.get_ok (hv.consistent handle d' hd') with ⟨result', hresult'⟩
    have hreply := h.code_eq (.record handle call) (accepts_live hd) rfl rfl
    have hleft := reply_record hnull hd hresult
    have hright := reply_record hnull hd' hresult'
    rw [hresult, hresult']
    exact congrArg Except.ok (Except.ok.inj (hleft.symm.trans (hreply.trans hright)))
  value call := by
    rcases call.get_ok (hw.consistent handle d hd) with ⟨result, hresult⟩
    rcases call.get_ok (hv.consistent handle d' hd') with ⟨result', hresult'⟩
    have hreply := h.reply_eq (.value handle call) (accepts_live hd) rfl rfl
    have hleft : reply ((AbiCall.value handle call).call mb w) = .ok result :=
      reply_value hnull hd hresult
    have hright : reply ((AbiCall.value handle call).call mb v) = .ok result' :=
      reply_value hnull hd' hresult'
    rw [hleft, hright] at hreply
    rw [hresult, hresult']
    exact congrArg Except.ok (Except.ok.inj hreply)

theorem Indistinguishable.text_eq (index : UInt16) :
    d.stringTable.toUtf8 index = d'.stringTable.toUtf8 index := by
  have hcons := hw.consistent handle d hd
  have hcons' := hv.consistent handle d' hd'
  have halike := Indistinguishable.alike hnull hw hv hd hd' h
  have hcount : d.stringTable.count = d'.stringTable.count :=
    Except.ok.inj (halike.number .getStringTableCount rfl)
  by_cases hindex : index < d.stringTable.count
  · have hindex' : index < d'.stringTable.count := hcount ▸ hindex
    rcases hcons.entry hindex with ⟨entry, hentry, hfits⟩
    rcases hcons'.entry hindex' with ⟨entry', hentry', hfits'⟩
    have hreply := h.code_eq (.getStringUtf8 handle index (some (List.replicate 200000 0)) 200000)
      (accepts_live hd) rfl rfl
    have hleft := reply_text hnull hd hcons hindex hentry (List.replicate 200000 0)
    have hright := reply_text hnull hd' hcons' hindex' hentry' (List.replicate 200000 0)
    have hsame := hleft.symm.trans (hreply.trans hright)
    rcases Prod.mk.inj (Except.ok.inj hsame) with ⟨hlength, hwritten⟩
    rw [toUtf8_eq hindex hentry, toUtf8_eq hindex' hentry',
      eq_of_written (length_decoded_of_fits hfits) (length_decoded_of_fits hfits') hlength
        (Option.some.inj hwritten)]
  · simp [StringTable.toUtf8, UInt16.not_lt.1 hindex, UInt16.not_lt.1 (hcount ▸ hindex)]

theorem Indistinguishable.published_eq : d.published = d'.published :=
  (Indistinguishable.alike hnull hw hv hd hd' h).published_eq (hw.consistent handle d hd)
    (hv.consistent handle d' hd') (Indistinguishable.text_eq hnull hw hv hd hd' h)

end

/-! ## What saving tells -/

/-- Fewer calls tell less. -/
theorem Indistinguishable.without_saving {mb : MultiByteToWideChar} {handle : PexReaderHandle}
    {w v : AbiState} (h : Indistinguishable mb handle (fun _ => true) w v) :
    Indistinguishable mb handle (fun call => !call.saves) w v := by
  intro calls hcalls
  exact h calls (Stepping.each_imp _ (fun _ _ hcall => ⟨hcall.1, hcall.2.1, rfl⟩) hcalls)

section

variable {mb : MultiByteToWideChar} {handle : PexReaderHandle} {w v : AbiState} {d d' : PexData}

theorem Indistinguishable.bytes_eq (hw : w.Sound) (hv : v.Sound) (hd : w.heap handle = some d)
    (hd' : v.heap handle = some d') (h : Indistinguishable mb handle (fun _ => true) w v) :
    d.bytes = d'.bytes := by
  have hreply := h.code_eq (.savePex handle (some {})) (accepts_live hd) rfl rfl
  have hleft := congrArg reply (savePex_lossless hw hd OutputDevice.lossless_default)
  have hright := congrArg reply (savePex_lossless hv hd' OutputDevice.lossless_default)
  have hsame := hleft.symm.trans (hreply.trans hright)
  exact Option.some.inj (Prod.mk.inj (Except.ok.inj hsame)).2

/-- The magic number tells whether there is a script, and its bytes tell which. -/
theorem eq_of_bytes_eq (hd : d.BlankOrLoaded) (hd' : d'.BlankOrLoaded)
    (hmagic : d.header.magic = d'.header.magic) (hbytes : d.bytes = d'.bytes) : d = d' := by
  rcases hd with rfl | hloaded
  · rcases hd' with rfl | hloaded'
    · rfl
    · rw [hloaded'.wellFormed.magic] at hmagic
      exact absurd hmagic (by decide)
  · rcases hd' with rfl | hloaded'
    · rw [hloaded.wellFormed.magic] at hmagic
      exact absurd hmagic (by decide)
    · exact hloaded'.eq_of_prefix hloaded (hbytes ▸ List.prefix_rfl)

end

/-- Two instances cannot be told apart by calls that save neither exactly if they are the same but
for what the getters do not tell: the bytes behind a text, the handlers of properties, and what
follows a NUL in a header string.  If they may be saved, they cannot be told apart exactly if they
are the same. -/
theorem indistinguishable_iff (mb : MultiByteToWideChar) (calls calls' : List AbiCall)
    (h : PermittedRun mb calls) (h' : PermittedRun mb calls') (handle : PexReaderHandle)
    (d d' : PexData) (hd : (runAbi mb calls).heap handle = some d)
    (hd' : (runAbi mb calls').heap handle = some d') :
    (Indistinguishable mb handle (fun call => !call.saves) (runAbi mb calls) (runAbi mb calls') ↔
        d.published = d'.published) ∧
      (Indistinguishable mb handle (fun _ => true) (runAbi mb calls) (runAbi mb calls') ↔
        d = d') := by
  have hw := run_sound h
  have hv := run_sound h'
  have hnull : handle ≠ 0 := (AbiState.sound_iff.1 hw handle d hd).1
  constructor
  · constructor
    · intro halike
      exact halike.published_eq hnull hw hv hd hd'
    · intro hpublished
      have hinst : (some d).map PexData.published = (some d').map PexData.published :=
        congrArg some hpublished
      exact indistinguishable_of_published hnull hw (by rw [hd, hd', hinst])
  · constructor
    · intro hall
      have hpublished := hall.without_saving.published_eq hnull hw hv hd hd'
      rcases live_reachable h hd with ⟨history, rfl⟩
      rcases live_reachable h' hd' with ⟨history', rfl⟩
      exact eq_of_bytes_eq (reachable_blankOrLoaded history) (reachable_blankOrLoaded history')
        (congrArg (fun d : PexData => d.header.magic) hpublished :) (hall.bytes_eq hw hv hd hd')
    · intro hsame
      exact indistinguishable_of_eq hnull hw (by rw [hd, hd', hsame])

/-- One text, spelled in one byte and in two. -/
theorem indistinguishable_iff_accents :
    Indistinguishable .strict 8 (fun call => !call.saves) (runAbi .strict (accentRun [0xE9]))
        (runAbi .strict (accentRun [0xC3, 0xA9])) ∧
      ¬ Indistinguishable .strict 8 (fun _ => true) (runAbi .strict (accentRun [0xE9]))
        (runAbi .strict (accentRun [0xC3, 0xA9])) := by
  rcases accentRun_evaluated with ⟨⟨h, hd⟩, ⟨h', hd'⟩⟩
  have hiff := indistinguishable_iff .strict _ _ h h' 8 _ _ hd hd'
  exact ⟨hiff.1.2 (by decide +kernel), mt hiff.2.1 (by decide +kernel)⟩

end PexReader
