import PexReader.Model.Replies
import PexReader.Theory.Decoding
import PexReader.Theory.Enumeration

/-!
# Published — what the getters tell of an instance

Of a string the getters tell the text and not the bytes, of a header string what stands before its
first NUL, and of the handlers of properties nothing.  `published` is what is left of an instance
when all this is forgotten.  No getter distinguishes an instance from what is left of it, and the
answers of all getters together determine what is left.
-/

namespace PexReader

open Lookup

/-! ## What is left of an instance -/

/-- `const wchar_t*`, as its reader takes it. -/
def wideCString (text : List UInt16) : List UInt16 :=
  text.takeWhile (· ≠ 0)

def RecordHeader.published (h : RecordHeader) : RecordHeader :=
  { h with
    sourceFileName := wideCString h.sourceFileName
    username := wideCString h.username
    machinename := wideCString h.machinename }

def PexData.published (d : PexData) : PexData :=
  { d with
    header := d.header.published
    stringTable := { d.stringTable with strings := d.stringTable.strings.map decoded }
    objects := d.objects.map Object.exposed }

/-! ## The getters as functions of an instance -/

/-- What the implementation answers. -/
def RecordCall.get (inst : Option PexData) : (call : RecordCall) → Except Fault (Int32 × call.Out)
  | getDebugFunctionInfo index out => C_GetDebugFunctionInfo inst index out
  | getUserFlagInfo index out => C_GetUserFlagInfo inst index out
  | getObjectInfo index out => C_GetObjectInfo inst index out
  | getObjectData o out => C_GetObjectData inst o out
  | getVariableInfo o v out => C_GetVariableInfo inst o v out
  | getPropertyInfo o p out => C_GetPropertyInfo inst o p out
  | getStateInfo o s out => C_GetStateInfo inst o s out
  | getStateFunctionInfo o s f out => C_GetStateFunctionInfo inst o s f out
  | getInstructionInfo o s f i out => C_GetInstructionInfo inst o s f i out
  | getInstructionArgument o s f i a out => C_GetInstructionArgument inst o s f i a out
  | getFunctionParamInfo o s f p out => C_GetFunctionParamInfo inst o s f p out
  | getFunctionLocalInfo o s f l out => C_GetFunctionLocalInfo inst o s f l out

def ValueCall.get (inst : Option PexData) : (call : ValueCall) → Except Fault call.Reply
  | getHeaderSourceFileName => .ok (C_GetHeaderSourceFileName inst)
  | getHeaderUsername => .ok (C_GetHeaderUsername inst)
  | getHeaderMachineName => .ok (C_GetHeaderMachineName inst)
  | getHeaderMagic => .ok (C_GetHeaderMagic inst)
  | getHeaderMajorVersion => .ok (C_GetHeaderMajorVersion inst)
  | getHeaderMinorVersion => .ok (C_GetHeaderMinorVersion inst)
  | getHeaderGameId => .ok (C_GetHeaderGameId inst)
  | getHeaderCompilationTime => .ok (C_GetHeaderCompilationTime inst)
  | getStringTableCount => .ok (C_GetStringTableCount inst)
  | hasDebugInfo => .ok (C_HasDebugInfo inst)
  | getDebugModificationTime => .ok (C_GetDebugModificationTime inst)
  | getDebugFunctionCount => .ok (C_GetDebugFunctionCount inst)
  | getUserFlagCount => .ok (C_GetUserFlagCount inst)
  | getObjectCount => .ok (C_GetObjectCount inst)
  | getVariableCount o => C_GetVariableCount inst o
  | getPropertyCount o => C_GetPropertyCount inst o
  | getStateCount o => C_GetStateCount inst o
  | getFunctionParamCount o s f => C_GetFunctionParamCount inst o s f
  | getFunctionLocalCount o s f => C_GetFunctionLocalCount inst o s f

/-- What the caller reads of the answer: of a text what stands before the first NUL. -/
def ValueCall.seen : (call : ValueCall) → call.Reply → call.Reply
  | getHeaderSourceFileName, text => wideCString text
  | getHeaderUsername, text => wideCString text
  | getHeaderMachineName, text => wideCString text
  | getHeaderMagic, value => value
  | getHeaderMajorVersion, value => value
  | getHeaderMinorVersion, value => value
  | getHeaderGameId, value => value
  | getHeaderCompilationTime, value => value
  | getStringTableCount, value => value
  | hasDebugInfo, value => value
  | getDebugModificationTime, value => value
  | getDebugFunctionCount, value => value
  | getUserFlagCount, value => value
  | getObjectCount, value => value
  | getVariableCount _, value => value
  | getPropertyCount _, value => value
  | getStateCount _, value => value
  | getFunctionParamCount _ _ _, value => value
  | getFunctionLocalCount _ _ _, value => value

/-! ## The getters tell no more -/

section

variable (d : PexData) (o s f i : UInt16)

theorem wideCString_wideCString (text : List UInt16) :
    wideCString (wideCString text) = wideCString text :=
  List.takeWhile_idem

theorem objectAt_published :
    objectAt (some d.published) o = Object.exposed <$> objectAt (some d) o :=
  checked_map Object.exposed _ d.objects _ _

theorem variableAt_published (v : UInt16) :
    variableAt (some d.published) o v = variableAt (some d) o v := by
  rw [variableAt, objectAt_published, bind_map_left]
  rfl

theorem propertyAt_published (p : UInt16) :
    propertyAt (some d.published) o p = Property.exposed <$> propertyAt (some d) o p := by
  rw [propertyAt, objectAt_published, bind_map_left, propertyAt, map_bind]
  exact congrArg _ (funext fun obj => checked_map Property.exposed _ obj.data.properties _ _)

theorem stateAt_published : stateAt (some d.published) o s = stateAt (some d) o s := by
  rw [stateAt, objectAt_published, bind_map_left]
  rfl

theorem namedFunctionAt_published :
    namedFunctionAt (some d.published) o s f = namedFunctionAt (some d) o s f := by
  rw [namedFunctionAt, stateAt_published]
  rfl

theorem RecordCall.get_published (call : RecordCall) :
    call.get (some d.published) = call.get (some d) := by
  cases call with
  | getDebugFunctionInfo index out => rfl
  | getUserFlagInfo index out => rfl
  | getObjectInfo o out =>
      simp only [get, C_GetObjectInfo]
      rw [objectAt_published, report_map]
      rfl
  | getObjectData o out =>
      simp only [get, C_GetObjectData]
      rw [objectAt_published, report_map]
      rfl
  | getVariableInfo o v out =>
      simp only [get, C_GetVariableInfo]
      rw [variableAt_published]
  | getPropertyInfo o p out =>
      simp only [get, C_GetPropertyInfo]
      rw [propertyAt_published, report_map]
      rfl
  | getStateInfo o s out =>
      simp only [get, C_GetStateInfo]
      rw [stateAt_published]
  | getStateFunctionInfo o s f out =>
      simp only [get, C_GetStateFunctionInfo]
      rw [namedFunctionAt_published]
  | getInstructionInfo o s f i out =>
      simp only [get, C_GetInstructionInfo, instructionAt]
      rw [namedFunctionAt_published]
  | getInstructionArgument o s f i a out =>
      simp only [get, C_GetInstructionArgument, argumentAt, instructionAt]
      rw [namedFunctionAt_published]
  | getFunctionParamInfo o s f p out =>
      simp only [get, C_GetFunctionParamInfo, paramAt]
      rw [namedFunctionAt_published]
  | getFunctionLocalInfo o s f l out =>
      simp only [get, C_GetFunctionLocalInfo, localAt]
      rw [namedFunctionAt_published]

theorem countOf_map {α β : Type} (g : α → β) (search : Search Fault α) (count : β → UInt16) :
    countOf (g <$> search) count = countOf search fun x => count (g x) := by
  unfold countOf
  rw [OptionT.run_map, bind_map_left]
  refine congrArg _ (funext fun x => ?_)
  cases x <;> rfl

theorem ValueCall.seen_published (call : ValueCall) :
    (call.get (some d.published)).map call.seen = (call.get (some d)).map call.seen := by
  cases call with
  | getHeaderSourceFileName => exact congrArg Except.ok (wideCString_wideCString _)
  | getHeaderUsername => exact congrArg Except.ok (wideCString_wideCString _)
  | getHeaderMachineName => exact congrArg Except.ok (wideCString_wideCString _)
  | getVariableCount o =>
      simp only [get, C_GetVariableCount]
      rw [objectAt_published, countOf_map]
      rfl
  | getPropertyCount o =>
      simp only [get, C_GetPropertyCount]
      rw [objectAt_published, countOf_map]
      simp [Object.exposed]
  | getStateCount o =>
      simp only [get, C_GetStateCount]
      rw [objectAt_published, countOf_map]
      rfl
  | getFunctionParamCount o s f =>
      simp only [get, C_GetFunctionParamCount]
      rw [namedFunctionAt_published]
  | getFunctionLocalCount o s f =>
      simp only [get, C_GetFunctionLocalCount]
      rw [namedFunctionAt_published]
  | _ => rfl

/-! Strings. -/

theorem toUtf8_published (index : UInt16) :
    d.published.stringTable.toUtf8 index = d.stringTable.toUtf8 index := by
  simp only [StringTable.toUtf8, PexData.published, List.getElem?_map]
  cases d.stringTable.strings[index.toNat]? with
  | none => rfl
  | some entry => simp [fromBytes_eq, decoded_decoded, RawString.toUTF8String]

theorem getStringUtf8_published (index : UInt16) (buffer : Option (List UInt8))
    (bufferSize : Int32) :
    C_GetStringUtf8 (some d.published) index buffer bufferSize =
      C_GetStringUtf8 (some d) index buffer bufferSize := by
  simp only [C_GetStringUtf8]
  rw [toUtf8_published]
  rfl

theorem getStringWide_published (mb : MultiByteToWideChar) (index : UInt16)
    (buffer : Option (List UInt16)) (bufferSize : Int32) :
    C_GetStringWide mb (some d.published) index buffer bufferSize =
      C_GetStringWide mb (some d) index buffer bufferSize := by
  simp only [C_GetStringWide]
  rw [toUtf8_published]
  rfl

/-! Calls that change the instance. -/

theorem PexData.published_withString (i : Nat) (entry : List UInt8) :
    (d.withString i entry).published = d.published.withString i (decoded entry) := by
  simp [withString, published]

end

/-- Where the same is published, a call ends alike and leaves the same published. -/
theorem readPex_published {d d' : PexData} (h : d.published = d'.published)
    (pexPath : Option InputFile) :
    (C_ReadPex (some d) pexPath).1 = (C_ReadPex (some d') pexPath).1 ∧
      (C_ReadPex (some d) pexPath).2.map PexData.published =
        (C_ReadPex (some d') pexPath).2.map PexData.published := by
  cases pexPath with
  | none => exact ⟨rfl, congrArg some h⟩
  | some file =>
      simp only [C_ReadPex, PexData.load]
      cases parseFile .enforced file with
      | ok result => exact ⟨rfl, rfl⟩
      | error e => exact ⟨rfl, congrArg some h⟩

theorem modifyStringTable_published {d d' : PexData} (h : d.published = d'.published)
    (index : UInt16) (utf8Str : Option (List UInt8)) :
    (C_ModifyStringTable (some d) index utf8Str).1 =
        (C_ModifyStringTable (some d') index utf8Str).1 ∧
      (C_ModifyStringTable (some d) index utf8Str).2.map PexData.published =
        (C_ModifyStringTable (some d') index utf8Str).2.map PexData.published := by
  have hcount : d.stringTable.count = d'.stringTable.count :=
    (congrArg (fun p : PexData => p.stringTable.count) h :)
  have hlength : d.stringTable.strings.length = d'.stringTable.strings.length := by
    have hmap := congrArg (fun p : PexData => p.stringTable.strings.length) h
    simpa [PexData.published] using hmap
  cases utf8Str with
  | none => exact ⟨rfl, congrArg some h⟩
  | some str =>
      have hedited : (d.withString index.toNat (cString str)).published =
          (d'.withString index.toNat (cString str)).published := by
        rw [d.published_withString, d'.published_withString, h]
      dsimp only [C_ModifyStringTable, PexData.modifyStringTable]
      by_cases hindex : index ≥ d'.stringTable.count
      · rw [if_pos hindex, if_pos (hcount ▸ hindex)]
        exact ⟨rfl, congrArg some h⟩
      · rw [if_neg hindex, if_neg (hcount ▸ hindex)]
        cases checkedUInt16Length (cString str).length "String table entry" with
        | error e => exact ⟨rfl, congrArg some h⟩
        | ok n =>
            by_cases hroom : index.toNat < d'.stringTable.strings.length
            · simp only [if_pos hroom, if_pos (hlength ▸ hroom)]
              exact ⟨trivial, congrArg some hedited⟩
            · simp only [if_neg hroom, if_neg (hlength ▸ hroom)]
              exact ⟨trivial, congrArg some h⟩

/-! ## The getters tell as much -/

theorem RecordCall.get_ok {d : PexData} (hd : d.Consistent) (call : RecordCall) :
    ∃ result, call.get (some d) = .ok result := by
  cases call with
  | getDebugFunctionInfo index out => exact ⟨_, hd.exposed.debugFunctionInfo index out⟩
  | getUserFlagInfo index out => exact ⟨_, hd.exposed.userFlagInfo index out⟩
  | getObjectInfo o out => exact ⟨_, hd.exposed.objectInfo o out⟩
  | getObjectData o out => exact ⟨_, hd.exposed.objectData o out⟩
  | getVariableInfo o v out => exact ⟨_, hd.exposed.variableInfo o v out⟩
  | getPropertyInfo o p out => exact ⟨_, hd.exposed.propertyInfo o p out⟩
  | getStateInfo o s out => exact ⟨_, hd.exposed.stateInfo o s out⟩
  | getStateFunctionInfo o s f out => exact ⟨_, hd.exposed.stateFunctionInfo o s f out⟩
  | getInstructionInfo o s f i out => exact ⟨_, hd.exposed.instructionInfo o s f i out⟩
  | getInstructionArgument o s f i a out =>
      exact ⟨_, hd.exposed.instructionArgument o s f i a out⟩
  | getFunctionParamInfo o s f p out => exact ⟨_, hd.exposed.functionParamInfo o s f p out⟩
  | getFunctionLocalInfo o s f l out => exact ⟨_, hd.exposed.functionLocalInfo o s f l out⟩

theorem ValueCall.get_ok {d : PexData} (hd : d.Consistent) (call : ValueCall) :
    ∃ result, call.get (some d) = .ok result := by
  cases call with
  | getVariableCount o => exact (hd.exposed.variableCount o).imp fun _ hn => hn.1
  | getPropertyCount o => exact (hd.exposed.propertyCount o).imp fun _ hn => hn.1
  | getStateCount o => exact (hd.exposed.stateCount o).imp fun _ hn => hn.1
  | getFunctionParamCount o s f => exact (hd.exposed.functionParamCount o s f).imp fun _ hn => hn.1
  | getFunctionLocalCount o s f => exact (hd.exposed.functionLocalCount o s f).imp fun _ hn => hn.1
  | _ => exact ⟨_, rfl⟩

/-- The getters of values and of records answer alike. -/
structure PexData.Alike (d d' : PexData) : Prop where
  record : ∀ call : RecordCall, call.get (some d) = call.get (some d')
  value : ∀ call : ValueCall,
    (call.get (some d)).map call.seen = (call.get (some d')).map call.seen

section

variable {d d' : PexData} (h : d.Alike d')

include h

/-- Of a number all is seen. -/
theorem PexData.Alike.number (call : ValueCall) (hseen : call.seen = id) :
    call.get (some d) = call.get (some d') := by
  have hvalue := h.value call
  rwa [hseen, Except.map_id] at hvalue

theorem listDebugFunctions_congr : listDebugFunctions (some d) = listDebugFunctions (some d') := by
  have hcount := Except.ok.inj (h.number .getDebugFunctionCount rfl)
  have hinfo : ∀ index out,
      C_GetDebugFunctionInfo (some d) index out = C_GetDebugFunctionInfo (some d') index out :=
    fun index out => h.record (.getDebugFunctionInfo index out)
  simp only [listDebugFunctions, hcount, hinfo]

theorem listUserFlags_congr : listUserFlags (some d) = listUserFlags (some d') := by
  have hcount := Except.ok.inj (h.number .getUserFlagCount rfl)
  have hinfo : ∀ index out,
      C_GetUserFlagInfo (some d) index out = C_GetUserFlagInfo (some d') index out :=
    fun index out => h.record (.getUserFlagInfo index out)
  simp only [listUserFlags, hcount, hinfo]

theorem listInstructions_congr (o s f count : UInt16) :
    listInstructions (some d) o s f count = listInstructions (some d') o s f count := by
  have hinfo : ∀ i out,
      C_GetInstructionInfo (some d) o s f i out = C_GetInstructionInfo (some d') o s f i out :=
    fun i out => h.record (.getInstructionInfo o s f i out)
  have hargument : ∀ i a out, C_GetInstructionArgument (some d) o s f i a out =
      C_GetInstructionArgument (some d') o s f i a out :=
    fun i a out => h.record (.getInstructionArgument o s f i a out)
  simp only [listInstructions, listArguments, hinfo, hargument]

theorem listParams_congr (o s f : UInt16) :
    listParams (some d) o s f = listParams (some d') o s f := by
  have hcount : C_GetFunctionParamCount (some d) o s f = C_GetFunctionParamCount (some d') o s f :=
    h.number (.getFunctionParamCount o s f) rfl
  have hinfo : ∀ p out, C_GetFunctionParamInfo (some d) o s f p out =
      C_GetFunctionParamInfo (some d') o s f p out :=
    fun p out => h.record (.getFunctionParamInfo o s f p out)
  simp only [listParams, hcount, hinfo]

theorem listLocals_congr (o s f : UInt16) :
    listLocals (some d) o s f = listLocals (some d') o s f := by
  have hcount : C_GetFunctionLocalCount (some d) o s f = C_GetFunctionLocalCount (some d') o s f :=
    h.number (.getFunctionLocalCount o s f) rfl
  have hinfo : ∀ l out, C_GetFunctionLocalInfo (some d) o s f l out =
      C_GetFunctionLocalInfo (some d') o s f l out :=
    fun l out => h.record (.getFunctionLocalInfo o s f l out)
  simp only [listLocals, hcount, hinfo]

theorem listStates_congr (o : UInt16) : listStates (some d) o = listStates (some d') o := by
  have hcount : C_GetStateCount (some d) o = C_GetStateCount (some d') o :=
    h.number (.getStateCount o) rfl
  have hstate : ∀ s out, C_GetStateInfo (some d) o s out = C_GetStateInfo (some d') o s out :=
    fun s out => h.record (.getStateInfo o s out)
  have hfunction : ∀ s f out,
      C_GetStateFunctionInfo (some d) o s f out = C_GetStateFunctionInfo (some d') o s f out :=
    fun s f out => h.record (.getStateFunctionInfo o s f out)
  simp only [listStates, listFunctions, hcount, hstate, hfunction, listParams_congr h,
    listLocals_congr h, listInstructions_congr h]

theorem listObjects_congr : listObjects (some d) = listObjects (some d') := by
  have hobjects := Except.ok.inj (h.number .getObjectCount rfl)
  have hinfo : ∀ o out, C_GetObjectInfo (some d) o out = C_GetObjectInfo (some d') o out :=
    fun o out => h.record (.getObjectInfo o out)
  have hdata : ∀ o out, C_GetObjectData (some d) o out = C_GetObjectData (some d') o out :=
    fun o out => h.record (.getObjectData o out)
  have hvars : ∀ o, C_GetVariableCount (some d) o = C_GetVariableCount (some d') o :=
    fun o => h.number (.getVariableCount o) rfl
  have hvar : ∀ o v out, C_GetVariableInfo (some d) o v out = C_GetVariableInfo (some d') o v out :=
    fun o v out => h.record (.getVariableInfo o v out)
  have hproperties : ∀ o, C_GetPropertyCount (some d) o = C_GetPropertyCount (some d') o :=
    fun o => h.number (.getPropertyCount o) rfl
  have hproperty : ∀ o p out,
      C_GetPropertyInfo (some d) o p out = C_GetPropertyInfo (some d') o p out :=
    fun o p out => h.record (.getPropertyInfo o p out)
  have hstates : ∀ o, C_GetStateCount (some d) o = C_GetStateCount (some d') o :=
    fun o => h.number (.getStateCount o) rfl
  simp only [listObjects, listVariables, listProperties, hobjects, hinfo, hdata, hvars, hvar,
    hproperties, hproperty, hstates, listStates_congr h]

end

/-- The texts of the strings, one by one. -/
theorem texts_eq {t t' : StringTable} (ht : t.strings.length = t.count.toNat)
    (ht' : t'.strings.length = t'.count.toNat) (hcount : t.count = t'.count)
    (h : ∀ index, t.toUtf8 index = t'.toUtf8 index) :
    t.strings.map decoded = t'.strings.map decoded := by
  refine List.ext_getElem (by simp [ht, ht', hcount]) ?_
  intro i hi hi'
  simp only [List.length_map] at hi hi'
  have hindex : (UInt16.ofNat i).toNat = i :=
    UInt16.toNat_ofNat_of_lt' (Nat.lt_trans (ht ▸ hi) t.count.toNat_lt)
  have hentry : t.strings[(UInt16.ofNat i).toNat]? = some t.strings[i] := by simp [hindex, hi]
  have hentry' : t'.strings[(UInt16.ofNat i).toNat]? = some t'.strings[i] := by simp [hindex, hi']
  have htext := h (UInt16.ofNat i)
  rw [toUtf8_eq (UInt16.lt_iff_toNat_lt.2 (by omega)) hentry,
    toUtf8_eq (UInt16.lt_iff_toNat_lt.2 (by omega)) hentry'] at htext
  simpa using htext

theorem PexData.Alike.header_eq {d d' : PexData} (h : d.Alike d') :
    d.header.published = d'.header.published := by
  have hmagic := Except.ok.inj (h.number .getHeaderMagic rfl)
  have hmajor := Except.ok.inj (h.number .getHeaderMajorVersion rfl)
  have hminor := Except.ok.inj (h.number .getHeaderMinorVersion rfl)
  have hgame := Except.ok.inj (h.number .getHeaderGameId rfl)
  have htime := Except.ok.inj (h.number .getHeaderCompilationTime rfl)
  have hsource := Except.ok.inj (h.value .getHeaderSourceFileName)
  have huser := Except.ok.inj (h.value .getHeaderUsername)
  have hmachine := Except.ok.inj (h.value .getHeaderMachineName)
  simp only [RecordHeader.published, RecordHeader.mk.injEq]
  exact ⟨hmagic, hmajor, hminor, hgame, htime, hsource, huser, hmachine⟩

theorem PexData.Alike.debugInfo_eq {d d' : PexData} (h : d.Alike d') (hd : d.Consistent)
    (hd' : d'.Consistent) : d.debugInfo = d'.debugInfo := by
  have hhas := Except.ok.inj (h.number .hasDebugInfo rfl)
  have htime := Except.ok.inj (h.number .getDebugModificationTime rfl)
  have hcount := Except.ok.inj (h.number .getDebugFunctionCount rfl)
  have hlist := listDebugFunctions_congr h
  rw [listDebugFunctions_eq hd, listDebugFunctions_eq hd'] at hlist
  have hfunctions := Except.ok.inj hlist
  calc d.debugInfo
      = ⟨C_HasDebugInfo (some d), C_GetDebugModificationTime (some d),
          C_GetDebugFunctionCount (some d), d.debugInfo.functions⟩ := rfl
    _ = ⟨C_HasDebugInfo (some d'), C_GetDebugModificationTime (some d'),
          C_GetDebugFunctionCount (some d'), d'.debugInfo.functions⟩ := by
        rw [hhas, htime, hcount, hfunctions]

/-- Two instances that answer alike are the same but for what the getters do not tell. -/
theorem PexData.Alike.published_eq {d d' : PexData} (h : d.Alike d') (hd : d.Consistent)
    (hd' : d'.Consistent)
    (htext : ∀ index, d.stringTable.toUtf8 index = d'.stringTable.toUtf8 index) :
    d.published = d'.published := by
  have hcount := Except.ok.inj (h.number .getStringTableCount rfl)
  have hstrings := texts_eq hd.stringTable.count hd'.stringTable.count hcount htext
  have hflags := listUserFlags_congr h
  have hobjects := listObjects_congr h
  rw [listUserFlags_eq hd, listUserFlags_eq hd'] at hflags
  rw [listObjects_eq hd, listObjects_eq hd'] at hobjects
  simp only [published, PexData.mk.injEq]
  exact ⟨h.header_eq, congrArg₂ StringTable.mk hcount hstrings, h.debugInfo_eq hd hd',
    Except.ok.inj (h.number .getUserFlagCount rfl), Except.ok.inj hflags,
    Except.ok.inj (h.number .getObjectCount rfl), Except.ok.inj hobjects⟩

end PexReader
