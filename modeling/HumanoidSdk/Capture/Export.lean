import HumanoidSdk.Capture.Live
import HumanoidSdk.Capture.Sanitize
import HumanoidSdk.Foundation.BufferedStream

/-
This file translates `metadata_checked`, `decode` and `export_mcap` of
python/locomotion_aorta/brainco_capture.py. A row is the dictionary that becomes a line of the trace.
-/

namespace HumanoidSdk.Capture
open Foundation

/-- The keys of `MODULES`. The last two kinds are only in archives. -/
inductive ArchiveKind where
  | live (kind : Kind)
  | lowstate
  | externalCommand
  deriving DecidableEq

def Side.name : Side → String
  | .left => "left"
  | .right => "right"

def Kind.name : Kind → String
  | .bodyState => "body_state"
  | .bodyCmd => "body_cmd"
  | .controlStatus => "control_status"
  | .handCmd side => side.name ++ "_hand_cmd"
  | .handState side => side.name ++ "_hand_state"
  | .handTouch side => side.name ++ "_hand_touch"
  | .handInfo side => side.name ++ "_hand_info"
  | .gripperCmd side => side.name ++ "_gripper_cmd"
  | .gripperState side => side.name ++ "_gripper_state"
  | .gripperInfo side => side.name ++ "_gripper_info"

/-- The name of the schema without its package. -/
def Kind.schema : Kind → String
  | .bodyState => "lowlevel.BodyState"
  | .bodyCmd => "lowlevel.BodyCmd"
  | .controlStatus => "locomotion_sdk.ControlStatus"
  | .handCmd _ => "lowlevel.HandCmd"
  | .handState _ => "lowlevel.HandState"
  | .handTouch _ => "lowlevel.HandTouch"
  | .handInfo _ => "lowlevel.HandInfo"
  | .gripperCmd _ => "lowlevel.GripperCmd"
  | .gripperState _ => "lowlevel.GripperState"
  | .gripperInfo _ => "lowlevel.GripperInfo"

namespace ArchiveKind

def name : ArchiveKind → String
  | .live kind => kind.name
  | .lowstate => "lowstate"
  | .externalCommand => "external_command"

def schema : ArchiveKind → String
  | .live kind => kind.schema
  | .lowstate => "lowlevel.HumanoidLowState"
  | .externalCommand => "lowlevel.LowCmd"

/-- The kinds with `MODULES[kind]`. -/
def MODULES : List ArchiveKind := TOPICS.map .live ++ [.lowstate, .externalCommand]

def find (name : String) : Option ArchiveKind := MODULES.find? fun kind => kind.name = name

def isHandTouch : ArchiveKind → Bool
  | .live (.handTouch _) => true
  | _ => false

/-- The kinds whose floats may be infinite or NaN. -/
def tolerant : ArchiveKind → Bool
  | .live .controlStatus | .lowstate | .externalCommand => false
  | .live _ => true

end ArchiveKind

section Metadata

/-- The characters that `str.strip` takes away. -/
def isSpace (c : Char) : Bool :=
  let code := c.toNat
  (9 ≤ code && code ≤ 13) || (28 ≤ code && code ≤ 32) || code = 0x85 || code = 0xa0 || code = 0x1680 ||
    (0x2000 ≤ code && code ≤ 0x200a) || code = 0x2028 || code = 0x2029 || code = 0x202f || code = 0x205f ||
      code = 0x3000

def isHexDigit (c : Char) : Bool := ('0' ≤ c && c ≤ '9') || ('a' ≤ c && c ≤ 'f')

def isHex (size : ℕ) (text : String) : Bool := text.length = size && text.toList.all isHexDigit

/-- A field that is a text. -/
def textOf (fields : Fields) (field : String) : Option String :=
  match fields.lookup field with
  | some (.leaf (.str text)) => some text
  | _ => none

def checkText (fields : Fields) (field : String) (good : String → Bool) (message : String) : Except Failure Unit :=
  if (textOf fields field).any good then .ok () else .error (.valueError message)

def checkPresent (fields : Fields) (field : String) : Except Failure Unit :=
  checkText fields field (fun text => text.toList.any fun c => !isSpace c) s!"metadata.{field} required"

def checkDigest (fields : Fields) (field : String) (size : ℕ) : Except Failure Unit :=
  checkText fields field (isHex size) s!"metadata.{field} requires {size} hex digits"

def checkSides (fields : Fields) : Except Failure Unit :=
  match fields.lookup "expected_sides" with
  | some (.list [.leaf (.int 1)]) | some (.list [.leaf (.int 2)])
  | some (.list [.leaf (.int 1), .leaf (.int 2)]) => .ok ()
  | _ => .error (.valueError "expected_sides must be [1], [2], or [1,2]")

def metadataChecked (metadata : Document Scalar) : Except Failure Fields :=
  match metadata with
  | .dict fields =>
      match fields.lookup "format_version" with
      | some (.leaf (.int 1)) => do
          checkPresent fields "device"
          checkPresent fields "boot_id"
          checkDigest fields "source_commit" 40
          checkDigest fields "config_sha256" 64
          checkDigest fields "schema_sha256" 64
          checkSides fields
          return fields
      | _ => .error (.valueError "metadata format_version=1 required")
  | _ => .error (.valueError "metadata format_version=1 required")

end Metadata

/-- What comes from other code: the record of a message before its floats are looked at, the digest, and
`json.dumps` with the text of its error. -/
structure Codecs where
  record : ArchiveKind → List UInt8 → Except Failure Fields
  sha256 : List UInt8 → String
  dumps : Fields → List Char
  complaint : Fields → String

variable (codecs : Codecs)

def Codecs.decode (kind : ArchiveKind) (payload : List UInt8) : Except Failure Fields :=
  if payload.length < 8 ∨ 65536 < payload.length then
    .error (.valueError "invalid or oversized FlatBuffer payload")
  else do
    let result ← codecs.record kind payload
    if kind.tolerant then return jsonFeedback result
    else if dumpable (.dict result) then return result
    else .error (.valueError (codecs.complaint result))

/-- The dictionary `{**fields, **updates}`. -/
def update (fields updates : Fields) : Fields :=
  updates.foldl (fun fields entry => Document.assign entry.1 entry.2 fields) fields

def text (value : String) : Document Scalar := .leaf (.str value)

def number (value : ℤ) : Document Scalar := .leaf (.int value)

/-- The counts of a writer by their kinds. -/
abbrev Counts := List (String × ℕ)

structure ExportSchema where
  name : String
  encoding : String
  data : List UInt8
  deriving DecidableEq

/-- What the reader yields. -/
structure Message where
  schema : Option ExportSchema
  topic : String
  messageEncoding : String
  data : List UInt8
  logTime : ℤ
  sequence : ℤ
  deriving DecidableEq

/-- The text of a line. -/
def Codecs.line (fields : Fields) : List Char := codecs.dumps fields ++ ['\n']

/-- A writer with its stream. -/
structure TraceFile where
  stream : BufferedStream Char := {}
  counts : Counts := []

namespace TraceFile

variable (file : TraceFile)

/-- A line reaches the stream only if JSON can write it. -/
def write (line : Fields) (ending : StreamEnding Failure) : TraceFile × Option Failure :=
  if dumpable (.dict line) then
    ({ file with stream := file.stream.write (codecs.line line) ending }, ending.raised)
  else (file, some (.valueError (codecs.complaint line)))

/-- The first line. -/
def header (metadata : Fields) (digest : String) : Fields :=
  update (Document.assign "source_mcap_sha256" (text digest) metadata)
    [("type", text "metadata"), ("capture_format", text "brainco_capture_v3"),
      ("capture_clock", text "mcap_log_time_ns"), ("transport_loss", text "not_measured")]

def sampleLine (kind : ArchiveKind) (message : Message) (record : Fields) : Fields :=
  update record
    [("type", text kind.name), ("capture_timestamp_ns", number message.logTime),
      ("payload_sha256", text (codecs.sha256 message.data)), ("mcap_sequence", number message.sequence),
      ("topic", text message.topic)]

/-- The statement `counts[kind] = counts.get(kind, 0) + 1`. -/
def bump (counts : Counts) (kind : String) : Counts :=
  Document.assign kind ((counts.lookup kind).getD 0 + 1) counts

def sample (kind : ArchiveKind) (message : Message) (ending : StreamEnding Failure) : TraceFile × Option Failure :=
  match codecs.decode kind message.data with
  | .error failure => (file, some failure)
  | .ok record =>
      match file.write codecs (sampleLine codecs kind message record) ending with
      | (file, none) => ({ file with counts := bump file.counts kind.name }, none)
      | (file, some failure) => (file, some failure)

/-- The last line. -/
def endLine (complete : Bool) (counts : Counts) (error : Option String) : Fields :=
  [("type", text "end"), ("complete", .leaf (.bool complete)), ("dropped_messages", number 0),
    ("counts", .dict (counts.map fun entry => (entry.1, number entry.2))),
    ("error", error.elim (.leaf .null) text), ("transport_loss", text "not_measured")]

/-- The last line is written and the stream is flushed. -/
def finish (complete : Bool) (error : Option String) (last flushed : StreamEnding Failure) :
    TraceFile × Option Failure :=
  match file.write codecs (endLine complete file.counts error) last with
  | (file, some failure) => (file, some failure)
  | (file, none) => ({ file with stream := file.stream.flush flushed }, flushed.raised)

end TraceFile

/-- The maps from exact topics to kinds and from kinds to the digests of their schemas. -/
structure Selection where
  topicMap : List (String × String)
  schemaHashes : List (String × String)

namespace Selection

variable (selection : Selection)

/-- The kinds that are asked for. -/
def kinds : List String := selection.topicMap.map Prod.snd

def hashOf (kind : ArchiveKind) : String := (selection.schemaHashes.lookup kind.name).getD ""

def checkTopics : Except Failure (List ArchiveKind) :=
  let known := selection.kinds.filterMap ArchiveKind.find
  if selection.topicMap = [] ∨ known.length ≠ selection.topicMap.length ∨ ¬ selection.kinds.Nodup then
    .error (.valueError "topic_map must map distinct exact topics to distinct known kinds")
  else .ok known

def checkHash (kind : ArchiveKind) : Except Failure Unit :=
  if isHex 64 (selection.hashOf kind) then .ok ()
  else .error (.valueError s!"expected BFBS sha256 required for {kind.name}")

/-- The digest of the metadata is compared first. -/
def checkBinding (schemaHash : ArchiveKind → Except Failure String) (metadata : Fields) (kind : ArchiveKind) :
    Except Failure Unit :=
  if kind.isHandTouch ∧ some (selection.hashOf kind) ≠ textOf metadata "schema_sha256" then
    .error (.valueError "metadata HandTouch schema_sha256 differs from requested BFBS")
  else do
    let found ← schemaHash kind
    if selection.hashOf kind ≠ found then
      .error (.valueError s!"recorded BFBS differs from loaded binding for {kind.name}; use its matching SDK")

end Selection

/-- The schema is the one of the kind, and its digest is the expected one. -/
def Message.fits (message : Message) (kind : ArchiveKind) (hash : String) : Bool :=
  message.schema.any fun schema =>
    schema.name = kind.schema && schema.encoding = "flatbuffer" && message.messageEncoding = "flatbuffer" &&
      codecs.sha256 schema.data = hash

/-- What a message says about itself. A topic that is not asked for has no kind. -/
def Selection.examine (selection : Selection) (message : Message) : Except Failure (Option ArchiveKind) :=
  match (selection.topicMap.lookup message.topic).bind ArchiveKind.find with
  | none => .ok none
  | some kind =>
      if message.fits codecs kind (selection.hashOf kind) then .ok (some kind)
      else .error (.valueError s!"schema/encoding mismatch for {message.topic}")

namespace TraceFile

variable (selection : Selection) (file : TraceFile)

/-- One pass of the loop over the messages. -/
def take (message : Message) (written : StreamEnding Failure) : TraceFile × Option Failure :=
  match selection.examine codecs message with
  | .error failure => (file, some failure)
  | .ok none => (file, none)
  | .ok (some kind) => file.sample codecs kind message written

/-- The loop takes the messages in the order of the archive. The reader may fail after any of them. -/
def takeAll (file : TraceFile) :
    List (Message × StreamEnding Failure) → Option Failure → TraceFile × Option Failure
  | [], ending => (file, ending)
  | (message, written) :: rest, ending =>
      match file.take codecs selection message written with
      | (file, none) => takeAll file rest ending
      | (file, some failure) => (file, some failure)

/-- The comparison of two sets of keys. -/
def sameKeys (first second : List String) : Bool := first.all second.contains && second.all first.contains

/-- What the block under `try` does. -/
def collect (messages : List (Message × StreamEnding Failure)) (ending : Option Failure) :
    TraceFile × Option Failure :=
  match file.takeAll codecs selection messages ending with
  | (file, some failure) => (file, some failure)
  | (file, none) =>
      if sameKeys (file.counts.map Prod.fst) selection.kinds then (file, none)
      else (file, some (.valueError "requested MCAP topics contain no messages"))

/-- The end of the trace after the block. An error of the end line comes before the one that it reports. -/
def conclude (last flushed : StreamEnding Failure) :
    TraceFile × Option Failure → TraceFile × Except Failure Counts
  | (file, some failure) =>
      let (file, error) := file.finish codecs false (some failure.text) last flushed
      (file, .error (error.getD failure))
  | (file, none) =>
      let (file, error) := file.finish codecs true none last flushed
      (file, error.elim (.ok file.counts) .error)

end TraceFile

/-- How the statements end that reach other code: the digests of the bindings, the opening of both files with the
bindings, the digest of the archive, the writes, the flush and the close of the trace, and the close of the archive. -/
structure Archive where
  schemaHash : ArchiveKind → Except Failure String
  opens : Except Failure Codecs
  digest : Except Failure String
  header : StreamEnding Failure
  messages : List (Message × StreamEnding Failure)
  ending : Option Failure
  last : StreamEnding Failure
  flushed : StreamEnding Failure
  closed : StreamEnding Failure
  incoming : Option Failure

def checkExport (selection : Selection) (metadata : Document Scalar) (archive : Archive) :
    Except Failure (Fields × Codecs) := do
  let fields ← metadataChecked metadata
  let kinds ← selection.checkTopics
  kinds.forM selection.checkHash
  kinds.forM (selection.checkBinding archive.schemaHash fields)
  let codecs ← archive.opens
  return (fields, codecs)

/-- The block of the `with` statement. The trace is empty before the digest of the archive is known. -/
def exportBlock (selection : Selection) (fields : Fields) (archive : Archive) : TraceFile × Except Failure Counts :=
  match archive.digest with
  | .error failure => ({}, .error failure)
  | .ok digest =>
      match ({} : TraceFile).write codecs (TraceFile.header fields digest) archive.header with
      | (file, some failure) => (file, .error failure)
      | (file, none) => TraceFile.conclude codecs archive.last archive.flushed
          (file.collect codecs selection archive.messages archive.ending)

/-- The text of the trace on the disk with the result of `export_mcap`. There is no trace before it is opened. The
`with` statement closes the trace and then the archive, and the last error counts. -/
def exportMcap (selection : Selection) (metadata : Document Scalar) (archive : Archive) :
    Option (List Char) × Except Failure Counts :=
  match checkExport selection metadata archive with
  | .error failure => (none, .error failure)
  | .ok (fields, codecs) =>
      let (file, result) := exportBlock codecs selection fields archive
      (some (file.stream.close archive.closed).disk, (archive.incoming.or archive.closed.raised).elim result .error)

end HumanoidSdk.Capture
