import PexReader.Format.BigEndian
import PexReader.Format.Focus
import PexReader.Format.Metered
import PexReader.Format.Footprint
import PexReader.Format.Emission
import PexReader.Format.LastWrite
import PexReader.Format.Lookup
import PexReader.Format.Utf8
import PexReader.Format.Stepping
import PexReader.Model.Types
import PexReader.Model.Reader
import PexReader.Model.Load
import PexReader.Model.Writer
import PexReader.Model.Save
import PexReader.Model.Instance
import PexReader.Model.StringTable
import PexReader.Model.Accessors
import PexReader.Model.Abi
import PexReader.Model.AbiCalls
import PexReader.Model.Replies
import PexReader.Model.Process
import PexReader.Model.Session
import PexReader.Spec.Document
import PexReader.Spec.Editor
import PexReader.Spec.Elements
import PexReader.Spec.Desk
import PexReader.Reading.Primitives
import PexReader.Reading.Records
import PexReader.Reading.Programs
import PexReader.Reading.Files
import PexReader.Writing.Records
import PexReader.Writing.Files
import PexReader.Text.Decoding
import PexReader.Text.WideStrings
import PexReader.Theory.Acceptance
import PexReader.Theory.Runs
import PexReader.Theory.SaveLoss
import PexReader.Theory.TornSaves
import PexReader.Theory.RoundTrip
import PexReader.Theory.Accessors
import PexReader.Theory.Enumeration
import PexReader.Theory.Strings
import PexReader.Theory.Decoding
import PexReader.Theory.Published
import PexReader.Theory.Limits
import PexReader.Theory.Arithmetic
import PexReader.Theory.Failures
import PexReader.Abi.Wrappers
import PexReader.Abi.Confinement
import PexReader.Abi.Outcomes
import PexReader.Abi.Runs
import PexReader.Abi.Acceptance
import PexReader.Abi.Status
import PexReader.Abi.Lifecycle
import PexReader.Abi.Buffers
import PexReader.Abi.Borrowing
import PexReader.Abi.Threads
import PexReader.Abi.Handles
import PexReader.Abi.Sharing
import PexReader.Abi.Telling
import PexReader.Abi.Sessions
import PexReader.Abi.Editing
import PexReader.Abi.ErrorText
