import HumanoidSdk.Value.Float
import Mathlib.Logic.Function.Basic

/-
This file translates JoyReader in python/locomotion_aorta/joy.py. The generated getters of a frame
run before anything changes, so a payload is the frame they decode or none when one of them raises.
-/

namespace HumanoidSdk.Joy

structure JoyHeader where
  sequence : UInt64
  publisherNode : Option String
  publishStampNs : ℤ
  deriving DecidableEq

structure JoyFrame where
  axes : List FloatValue
  buttons : List ℤ
  header : Option JoyHeader
  deriving DecidableEq

/-- A sample is a pulled payload with the local clock at its receipt. -/
structure Sample where
  payload : Option JoyFrame
  receivedNs : ℤ
  deriving DecidableEq

inductive Diagnostic where
  | sourceChanged
  | sequenceUnavailable
  | duplicate
  | resetOrReorder
  | buttonCountChanged
  | decodeError
  deriving DecidableEq

/-- A key that a dictionary of counts misses counts zero. -/
def bump {Key : Type*} [DecidableEq Key] (counts : Key → ℕ) (key : Key) : Key → ℕ :=
  Function.update counts key (counts key + 1)

/-- The counters that one read hands out and resets. -/
@[ext] structure Pending where
  pressed : ℕ → ℕ := fun _ => 0
  released : ℕ → ℕ := fun _ => 0
  missing : ℕ := 0
  samples : ℕ := 0
  incomplete : Bool := false
  diagnostics : Diagnostic → ℕ := fun _ => 0

namespace Pending

def diagnose (pending : Pending) (name : Diagnostic) : Pending :=
  { pending with diagnostics := bump pending.diagnostics name, incomplete := true }

/-- One button counts an edge when exactly one of its two values is nonzero. -/
def edge (pending : Pending) (index : ℕ) (before after : ℤ) : Pending :=
  if decide (before ≠ 0) = decide (after ≠ 0) then pending
  else if after ≠ 0 then { pending with pressed := bump pending.pressed index }
  else { pending with released := bump pending.released index }

/-- The loop over the buttons that both frames have. -/
def edges (pending : Pending) (previous buttons : List ℤ) : Pending :=
  (previous.zip buttons).zipIdx.foldl
    (fun pending entry => pending.edge entry.2 entry.1.1 entry.1.2) pending

end Pending

structure JoyReader where
  closed : Bool := false
  axes : List FloatValue := []
  buttons : Option (List ℤ) := none
  source : Option String := none
  sequences : String → Option UInt64 := fun _ => none
  receivedNs : Option ℤ := none
  publishedNs : Option ℤ := none
  decodeErrorsTotal : ℕ := 0
  samplesTotal : ℕ := 0
  missingTotal : ℕ := 0
  sequenceAvailable : Bool := false
  historyComplete : Bool := false
  pending : Pending := {}

structure JoySnapshot where
  axes : List FloatValue
  buttons : List ℤ
  pressedCounts : ℕ → ℕ
  releasedCounts : ℕ → ℕ
  receivedRealtimeNs : Option ℤ
  missingSamplesSinceRead : ℕ
  missingSamplesTotal : ℕ
  sequenceAvailable : Bool
  eventHistoryComplete : Bool
  samplesSinceRead : ℕ
  samplesTotal : ℕ
  sequenceDiagnostics : Diagnostic → ℕ
  publishedRealtimeNs : Option ℤ
  decodeErrorsTotal : ℕ

/-- An empty publisher name is no name. -/
def JoyFrame.source (frame : JoyFrame) : Option String :=
  (frame.header.bind JoyHeader.publisherNode).filter fun name => name ≠ ""

def JoyFrame.sequence (frame : JoyFrame) : Option UInt64 := frame.header.map JoyHeader.sequence

def JoyFrame.publishedNs (frame : JoyFrame) : Option ℤ := frame.header.map JoyHeader.publishStampNs

namespace JoyReader

def diagnose (reader : JoyReader) (name : Diagnostic) : JoyReader :=
  { reader with pending := reader.pending.diagnose name }

/-- Another source than that of the last accepted frame leaves no buttons to compare with. -/
def rebase (reader : JoyReader) (source : Option String) : JoyReader × Option (List ℤ) :=
  if reader.samplesTotal ≠ 0 ∧ source ≠ reader.source then (reader.diagnose .sourceChanged, none)
  else (reader, reader.buttons)

def remember (reader : JoyReader) (source : String) (sequence : UInt64) : JoyReader :=
  { reader with sequences := Function.update reader.sequences source (some sequence) }

/-- The samples between two sequence numbers are missing. -/
def skip (reader : JoyReader) (distance : ℕ) : JoyReader :=
  { reader with
    missingTotal := reader.missingTotal + (distance - 1)
    pending := { reader.pending with
      missing := reader.pending.missing + (distance - 1), incomplete := true } }

/-- The sequence of a frame is compared with the last one of its source, and the distance wraps around like
the numbers. A duplicate ends the frame. -/
def follow (reader : JoyReader) (previous : Option (List ℤ)) (sequence : Option UInt64)
    (source : Option String) : Except JoyReader (JoyReader × Option (List ℤ)) :=
  match sequence, source with
  | some sequence, some source =>
      match reader.sequences source with
      | none => .ok (reader.remember source sequence, previous)
      | some prior =>
          let distance := (sequence - prior).toNat
          if distance = 0 then .error (reader.diagnose .duplicate)
          else if distance ≥ 2 ^ 63 then
            .ok ((reader.diagnose .resetOrReorder).remember source sequence, none)
          else if distance > 1 then .ok ((reader.skip distance).remember source sequence, previous)
          else .ok (reader.remember source sequence, previous)
  | _, _ => .ok ({ reader.diagnose .sequenceUnavailable with sequences := fun _ => none }, previous)

/-- The buttons of a frame are compared with the previous ones. -/
def compare (reader : JoyReader) (previous : Option (List ℤ)) (buttons : List ℤ) : JoyReader :=
  match previous with
  | none => { reader with pending := { reader.pending with incomplete := true } }
  | some previous =>
      let reader := if previous.length ≠ buttons.length then reader.diagnose .buttonCountChanged else reader
      { reader with pending := reader.pending.edges previous buttons }

/-- The frame becomes the latest accepted one. -/
def commit (reader : JoyReader) (frame : JoyFrame) (receivedNs : ℤ) : JoyReader :=
  { reader with
    axes := frame.axes, buttons := some frame.buttons, source := frame.source
    receivedNs := some receivedNs, publishedNs := frame.publishedNs
    sequenceAvailable := frame.sequence.isSome && frame.source.isSome
    samplesTotal := reader.samplesTotal + 1
    pending := { reader.pending with samples := reader.pending.samples + 1 } }

def accept (reader : JoyReader) (frame : JoyFrame) (receivedNs : ℤ) : JoyReader :=
  let rebased := reader.rebase frame.source
  match rebased.1.follow rebased.2 frame.sequence frame.source with
  | .error reader => reader
  | .ok (reader, previous) => (reader.compare previous frame.buttons).commit frame receivedNs

/-- A payload that cannot be decoded is counted and skipped. -/
def receive (reader : JoyReader) (sample : Sample) : JoyReader :=
  match sample.payload with
  | some frame => reader.accept frame sample.receivedNs
  | none => { reader.diagnose .decodeError with decodeErrorsTotal := reader.decodeErrorsTotal + 1 }

/-- The samples that `try_recv` returns one after the other. -/
def drain (reader : JoyReader) (samples : List Sample) : JoyReader := samples.foldl receive reader

def complete (reader : JoyReader) : Bool :=
  if reader.pending.samples ≠ 0 then reader.sequenceAvailable && !reader.pending.incomplete
  else reader.historyComplete && !reader.pending.incomplete

def snapshot (reader : JoyReader) : JoySnapshot where
  axes := reader.axes
  buttons := reader.buttons.getD []
  pressedCounts := reader.pending.pressed
  releasedCounts := reader.pending.released
  receivedRealtimeNs := reader.receivedNs
  missingSamplesSinceRead := reader.pending.missing
  missingSamplesTotal := reader.missingTotal
  sequenceAvailable := reader.sequenceAvailable
  eventHistoryComplete := reader.complete
  samplesSinceRead := reader.pending.samples
  samplesTotal := reader.samplesTotal
  sequenceDiagnostics := reader.pending.diagnostics
  publishedRealtimeNs := reader.publishedNs
  decodeErrorsTotal := reader.decodeErrorsTotal

/-- The read hands out its counters and remembers whether they were complete. -/
def settle (reader : JoyReader) : JoyReader :=
  { reader with historyComplete := reader.complete, pending := {} }

/-- A closed reader raises RuntimeError. An open one drains the ring until it is empty. -/
def read (reader : JoyReader) (samples : List Sample) : Except String (JoySnapshot × JoyReader) :=
  if reader.closed then .error "JoyReader is closed"
  else .ok ((reader.drain samples).snapshot, (reader.drain samples).settle)

/-- A read whose `try_recv` raises after these samples keeps what it has counted. -/
def readAborted (reader : JoyReader) (samples : List Sample) : JoyReader :=
  if reader.closed then reader else reader.drain samples

/-- Consecutive reads, each of which drains its own samples. -/
def readAll : JoyReader → List (List Sample) → Except String (List JoySnapshot × JoyReader)
  | reader, [] => .ok ([], reader)
  | reader, samples :: rest => do
      let first ← reader.read samples
      let others ← first.2.readAll rest
      return (first.1 :: others.1, others.2)

end JoyReader

end HumanoidSdk.Joy
