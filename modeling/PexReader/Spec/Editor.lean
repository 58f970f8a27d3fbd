import PexReader.Format.LastWrite
import PexReader.Model.Instance
import PexReader.Spec.Document

/-!
# Editor — a script file with replaceable strings

To a user who only edits strings a script file is a list of strings between two runs of bytes that
never change.  `Document` is that view: its bytes, and what a log of replacements makes of it.  The
instance is compared with it in `Theory`.
-/

namespace PexReader

open BigEndian LastWrite

/-- The bytes up to and with the string count, the strings, and the bytes behind them. -/
structure Document where
  before : List UInt8
  entries : List (List UInt8)
  after : List UInt8
  deriving DecidableEq, Repr

/-- A replacement: a string index and the bytes to put there. -/
abbrev Replacement : Type := Nat × List UInt8

namespace Document

/-- The file: each string behind its length. -/
def bytes (doc : Document) : List UInt8 :=
  doc.before ++ doc.entries.flatMap entryBytes ++ doc.after

/-- The document in which every string with a replacement is its last replacement. -/
def edit (doc : Document) (log : List Replacement) : Document :=
  { doc with entries := overwrite log doc.entries }

@[simp] theorem edit_nil (doc : Document) : doc.edit [] = doc := by
  simp [edit]

end Document

/-! ## The document of an instance -/

namespace PexData

def document (d : PexData) : Document where
  before := d.header.bytes ++ be16 d.stringTable.count
  entries := d.stringTable.strings
  after := d.debugInfo.bytes ++ ((be16 d.userFlagCount ++ d.userFlags.flatMap UserFlag.bytes) ++
    (be16 d.objectCount ++ d.objects.flatMap Object.bytes))

theorem bytes_document (d : PexData) : d.document.bytes = d.bytes := by
  simp [Document.bytes, document, bytes_eq, StringTable.bytes_eq]

/-! ## Runs of `ModifyStringTable` -/

/-- The instance after a row of `ModifyStringTable` calls, and the calls that returned normally. -/
def modifyAll (self : PexData) : List (UInt16 × List UInt8) → PexData × List Replacement
  | [] => (self, [])
  | (index, str) :: calls =>
      match self.modifyStringTable index str with
      -- The call returned normally and goes into the log.
      | .ok _ self =>
          let rest := self.modifyAll calls
          (rest.1, (index.toNat, str) :: rest.2)
      | .error _ self => self.modifyAll calls

end PexData

end PexReader
