import HumanoidSdk.Foundation.Monitor
import HumanoidSdk.Value.PyValue

/-
This file translates TraceWriter and capture_live of python/locomotion_aorta/brainco_capture.py. The
callbacks are the threads of a pool, and the thread that runs capture_live moves by signals, each of
which says how its next statement ends.
-/

namespace HumanoidSdk.Capture
open Foundation

inductive Side where
  | left
  | right
  deriving DecidableEq

inductive Kind where
  | bodyState
  | bodyCmd
  | controlStatus
  | handCmd (side : Side)
  | handState (side : Side)
  | handTouch (side : Side)
  | handInfo (side : Side)
  | gripperCmd (side : Side)
  | gripperState (side : Side)
  | gripperInfo (side : Side)
  deriving DecidableEq

/-- The subscriptions in their order. -/
def TOPICS : List Kind :=
  [.bodyState, .bodyCmd, .controlStatus] ++ [Side.left, Side.right].flatMap fun side =>
    [.handCmd side, .handState side, .handTouch side, .handInfo side, .gripperCmd side, .gripperState side,
      .gripperInfo side]

/-- Errors of other code and interrupts keep only their text. -/
inductive Failure where
  | valueError (message : String)
  | external (message : String)
  deriving DecidableEq

/-- The conversion `str` of an error. -/
def Failure.text : Failure → String
  | .valueError message => message
  | .external message => message

/-- A capacity that passed the check. -/
structure Capacity where
  slots : ℕ
  positive : 1 ≤ slots
  bounded : slots ≤ 256

def Capacity.check : PyValue → Except Failure Capacity
  | .int value =>
      if inside : 1 ≤ value ∧ value ≤ 256 then .ok ⟨value.toNat, by omega, by omega⟩
      else .error (.valueError "queue capacity must be in [1,256] (maximum 16 MiB raw payload)")
  | _ => .error (.valueError "queue capacity must be in [1,256] (maximum 16 MiB raw payload)")

/-- The arguments of one callback. The attributes of the context may be missing. -/
structure Delivery where
  kind : Kind
  payload : List UInt8
  sequence : Option ℤ
  publisherNode : Option String
  deriving DecidableEq

/-- An entry of the queue. -/
structure Item where
  kind : Kind
  payload : List UInt8
  stamp : ℤ
  sequence : ℤ
  publisher : String
  deriving DecidableEq

def Delivery.item (delivery : Delivery) (stamp : ℤ) : Item :=
  ⟨delivery.kind, delivery.payload, stamp, delivery.sequence.getD 0, delivery.publisherNode.getD ""⟩

structure SampleRow (Record : Type) where
  record : Record
  kind : Kind
  captureTimestampNs : ℤ
  payloadSha256 : String
  publisher : String
  transportSequence : ℤ
  deriving DecidableEq

structure EndRow where
  complete : Bool
  droppedMessages : ℕ
  counts : List (Kind × ℕ)
  error : Option String
  deriving DecidableEq

/-- The lines of a trace by their types. -/
inductive Row (Record : Type) where
  | metadata
  | marker (label : String) (captureTimestampNs : ℤ)
  | sample (row : SampleRow Record)
  | finish (row : EndRow)
  deriving DecidableEq

/-- The bindings with the codecs over them, and the digest. -/
structure Bindings (Record : Type) where
  parse : Kind → List UInt8 → Except Failure Record
  sha256 : List UInt8 → String

variable {Record : Type} (bindings : Bindings Record)

def decode (kind : Kind) (payload : List UInt8) : Except Failure Record :=
  if payload.length < 8 ∨ 65536 < payload.length then
    .error (.valueError "invalid or oversized FlatBuffer payload")
  else bindings.parse kind payload

/-- A write that raises may have reached the stream. -/
inductive Written where
  | returns
  | raises (failure : Failure) (landed : Bool)
  deriving DecidableEq

structure TraceWriter (Record : Type) where
  rows : List (Row Record)
  counts : List (Kind × ℕ)
  deriving DecidableEq

/-- The statement `counts[kind] = counts.get(kind, 0) + 1`. -/
def increment (kind : Kind) : List (Kind × ℕ) → List (Kind × ℕ)
  | [] => [(kind, 1)]
  | (key, count) :: rest => if key = kind then (key, count + 1) :: rest else (key, count) :: increment kind rest

/-- The row that a queued payload becomes. -/
def Item.row (item : Item) : Except Failure (SampleRow Record) := do
  let record ← decode bindings item.kind item.payload
  return ⟨record, item.kind, item.stamp, bindings.sha256 item.payload, item.publisher, item.sequence⟩

namespace TraceWriter

variable (writer : TraceWriter Record)

/-- The writer after a write, with the error of the write. -/
def write (row : Row Record) : Written → TraceWriter Record × Option Failure
  | .returns => ({ writer with rows := writer.rows ++ [row] }, none)
  | .raises failure landed => ({ writer with rows := writer.rows ++ if landed then [row] else [] }, some failure)

/-- A sample is counted after its write has returned. -/
def sample (item : Item) (written : Written) : TraceWriter Record × Option Failure :=
  match item.row bindings with
  | .error failure => (writer, some failure)
  | .ok row =>
      match writer.write (.sample row) written with
      | (writer, none) => ({ writer with counts := increment item.kind writer.counts }, none)
      | (writer, some failure) => (writer, some failure)

end TraceWriter

/-- Where the thread of `capture_live` stands, from the creation of the node to its return. -/
inductive Phase where
  | creating
  | grouping
  | subscribing (rest : List Kind)
  | looping
  | marking
  | writing (label : String) (captureTimestampNs : ℤ)
  | getting
  | sampling (item : Item)
  | refusing
  | closing
  | draining
  | drained (item : Item)
  | finishing
  | recording (row : EndRow)
  | returned
  | raised
  deriving DecidableEq

/-- The variables of `capture_live`. -/
structure Shared (Record : Type) where
  capacity : Capacity
  locked : Bool := false
  accepting : Bool := true
  dropped : ℕ := 0
  pending : List Item := []
  failure : Option Failure := none
  writer : TraceWriter Record := ⟨[.metadata], []⟩
  phase : Phase := .creating

/-- A marker is a text or anything else. -/
inductive Marker where
  | text (label : String)
  | other

/-- How a statement ends, with the values that it gets from outside. -/
inductive Outcome where
  | returns
  | raises (failure : Failure)
  | test (more : Bool)
  | label (marker : Option Marker) (captureTimestampNs : ℤ)
  | timeout
  | written (written : Written)

namespace Shared

variable (shared : Shared Record)

/-- An error in the first block leads to the second one, an error there to the end record, and an error
outside of both leaves the function. The first failure stays. -/
def raises (failure : Failure) : Shared Record :=
  match shared.phase with
  | .refusing | .finishing | .recording _ => { shared with phase := .raised }
  | .closing | .draining | .drained _ =>
      { shared with failure := some (shared.failure.getD failure), phase := .finishing }
  | .returned | .raised => shared
  | _ => { shared with failure := some failure, phase := .refusing }

/-- A write goes on with the next statement unless it raises. -/
def proceed (next : Phase) : TraceWriter Record × Option Failure → Shared Record
  | (writer, none) => { shared with writer, phase := next }
  | (writer, some failure) => { shared with writer }.raises failure

/-- A marker has 1 to 512 characters. -/
def mark (captureTimestampNs : ℤ) : Option Marker → Shared Record
  | none => { shared with phase := .getting }
  | some (.text label) =>
      if 1 ≤ label.length ∧ label.length ≤ 512 then { shared with phase := .writing label captureTimestampNs }
      else shared.raises (.valueError "marker must contain 1..512 characters")
  | some .other => shared.raises (.valueError "marker must contain 1..512 characters")

/-- The end record that `finish` is about to write. -/
def endRow : EndRow where
  complete := shared.failure.isNone
  droppedMessages := shared.dropped
  counts := shared.writer.counts
  error := shared.failure.map Failure.text

/-- The next statement of `capture_live`. An outcome that it cannot have changes nothing. -/
def advance (outcome : Outcome) : Shared Record :=
  match shared.phase, outcome with
  | _, .raises failure => shared.raises failure
  | .creating, .returns => { shared with phase := .grouping }
  | .grouping, .returns => { shared with phase := .subscribing TOPICS }
  | .subscribing (_ :: rest), .returns => { shared with phase := .subscribing rest }
  | .subscribing [], .returns => { shared with phase := .looping }
  | .looping, .test more => { shared with phase := if more then .marking else .refusing }
  | .marking, .label marker captureTimestampNs => shared.mark captureTimestampNs marker
  | .writing label captureTimestampNs, .written written =>
      shared.proceed .getting (shared.writer.write (.marker label captureTimestampNs) written)
  | .getting, .returns =>
      match shared.pending with
      | [] => shared
      | item :: rest => { shared with pending := rest, phase := .sampling item }
  | .getting, .timeout => if shared.pending = [] then { shared with phase := .looping } else shared
  | .sampling item, .written written => shared.proceed .looping (shared.writer.sample bindings item written)
  | .refusing, .returns =>
      if shared.locked then shared else { shared with accepting := false, phase := .closing }
  -- without a node there is nothing to close
  | .closing, .returns =>
      { shared with phase := if shared.failure = none then .draining else .finishing }
  -- no other thread takes items, so that `get_nowait` finds what `empty` has seen
  | .draining, .returns =>
      match shared.pending with
      | [] => { shared with phase := .finishing }
      | item :: rest => { shared with pending := rest, phase := .drained item }
  | .drained item, .written written => shared.proceed .draining (shared.writer.sample bindings item written)
  | .finishing, .returns => { shared with phase := .recording shared.endRow }
  | .recording row, .written written =>
      shared.proceed (if shared.failure = none then .returned else .raised)
        (shared.writer.write (.finish row) written)
  | _, _ => shared

end Shared

/-- Where a callback stands. It holds the lock once it has entered. -/
inductive Callback where
  | idle
  | called (delivery : Delivery)
  | entered (delivery : Delivery)
  | putting (delivery : Delivery)
  | dropping (delivery : Delivery)
  | leaving
  deriving DecidableEq

/-- What a callback does with its delivery. A delivery is made when its callback, which then holds the
lock, looks at `accepting`. -/
inductive Event where
  | accepted (delivery : Delivery)
  | refused (delivery : Delivery)
  | queued (delivery : Delivery) (stamp : ℤ)
  | dropped (delivery : Delivery)
  deriving DecidableEq

/-- The next statement of a callback, with the clock at that moment. -/
def Shared.receive (shared : Shared Record) (callback : Callback) (clock : ℤ) :
    Option (Shared Record × Callback × List Event) :=
  match callback with
  | .idle => none
  | .called delivery =>
      if shared.locked then none else some ({ shared with locked := true }, .entered delivery, [])
  | .entered delivery =>
      if shared.accepting = false then some (shared, .leaving, [.refused delivery])
      else if 65536 < delivery.payload.length then some (shared, .dropping delivery, [.accepted delivery])
      else some (shared, .putting delivery, [.accepted delivery])
  | .putting delivery =>
      if shared.capacity.slots ≤ shared.pending.length then some (shared, .dropping delivery, [])
      else some ({ shared with pending := shared.pending ++ [delivery.item clock] }, .leaving,
        [.queued delivery clock])
  | .dropping delivery => some ({ shared with dropped := shared.dropped + 1 }, .leaving, [.dropped delivery])
  | .leaving => some ({ shared with locked := false }, .idle, [])

/-- All callbacks and the thread of `capture_live`. -/
def captureLive : Program (Shared Record) Callback Delivery ℤ Outcome Event where
  idle callback := callback = .idle
  call delivery := (.called delivery, [])
  step := Shared.receive
  react shared outcome := (shared.advance bindings outcome, [])

/-- The capture after its trace is open. -/
def start (Record Thread : Type) (capacity : Capacity) : Pool Thread (Shared Record) Callback :=
  ⟨{ capacity }, fun _ => .idle⟩

end HumanoidSdk.Capture
