import HumanoidSdk.Foundation.Monitor
import HumanoidSdk.Value.PyValue

/-
This file translates wait_state, _wait_body_state and _receive_state of PullTransport in
python/locomotion_aorta/pull.py. A step is one statement between two points where another thread,
a frame or a close can come in. A statement that calls out of the SDK may raise.
-/

namespace HumanoidSdk.Pull

/-- Frames are numbered in the order of their arrival. -/
structure Frame (Payload : Type*) where
  arrival : ℕ
  payload : Payload
  receiveStampNs : ℕ
  deriving DecidableEq

/-- A receipt is the tuple that `_receive_state` builds for a pulled sample. -/
structure Receipt (Payload : Type*) where
  sample : Frame Payload
  wall : ℤ
  mono : ℤ
  deriving DecidableEq

/-- The array state is the decoded payload with the receipt clocks that `replace` sets. -/
structure BodyStateArrays (Arrays : Type*) where
  decoded : Arrays
  receivedMonotonicNs : ℤ
  receivedRealtimeNs : ℤ
  pullContextReceiveStampNs : ℕ
  deriving DecidableEq

inductive View (Arrays Body : Type*) where
  | arrays (state : BodyStateArrays Arrays)
  | body (state : Body)
  deriving DecidableEq

inductive Method where
  | waitState
  | waitBodyState
  deriving DecidableEq

/-- Both decoders raise on a payload without a value. -/
structure Codec (Payload Arrays Body : Type*) where
  decodeBodyStateArrays : Payload → Option Arrays
  decodeBodyStateNative : Payload → Option Body

/-- The view of a receipt under one of the two methods. -/
def Codec.decode {Payload Arrays Body : Type*} (codec : Codec Payload Arrays Body) (method : Method)
    (receipt : Receipt Payload) : Option (View Arrays Body) :=
  match method with
  | .waitState => (codec.decodeBodyStateArrays receipt.sample.payload).map fun decoded =>
      .arrays ⟨decoded, receipt.mono, receipt.wall, receipt.sample.receiveStampNs⟩
  | .waitBodyState => (codec.decodeBodyStateNative receipt.sample.payload).map .body

structure PullTransport (Payload Arrays Body : Type*) where
  closed : Bool := false
  ring : Option (Frame Payload) := none
  arrived : ℕ := 0
  stateLock : Bool := false
  latestSample : Option (Receipt Payload) := none
  latestState : Option (BodyStateArrays Arrays) := none
  latestBodyState : Option Body := none

/-- A thread stands before one statement of a method. The tuple in hand is fresh when it is not
the tuple `_latest_sample`. -/
inductive Position (Payload Arrays Body : Type*) where
  | idle
  | called (method : Method) (timeout : PyValue)
  | entered (method : Method) (timeout : PyValue)
  | polling (method : Method) (patient : Bool)
  | polled (method : Method) (patient : Bool) (sample : Option (Frame Payload))
  | receiving (method : Method)
  | stamping (method : Method) (sample : Option (Frame Payload))
  | received (method : Method) (receipt : Receipt Payload) (fresh : Bool)
  | decoded (receipt : Receipt Payload) (fresh : Bool) (view : View Arrays Body)

/-- The environment lets a statement pass, makes it raise, lets a wait expire or reads the clocks. -/
inductive Choice where
  | go
  | raise
  | expire
  | clocks (wall mono : ℤ)

inductive Event (Payload Arrays Body : Type*) where
  | pulled (receipt : Receipt Payload)
  | decodeFailed (receipt : Receipt Payload)
  | returned (view : View Arrays Body) (receipt : Receipt Payload)
  | raised
  deriving DecidableEq

inductive Signal (Payload : Type*) where
  | arrive (payload : Payload) (receiveStampNs : ℕ)
  | close

/-- A zero timeout never waits, a positive finite one may, every other one raises. -/
def patience : PyValue → Option Bool
  | .int value =>
      if value = 0 then some false
      else if PyValue.doubleOverflows value then none
      else if 0 < value then some true else none
  | .float (.finite value) =>
      if value = 0 then some false else if 0 < value then some true else none
  | _ => none

namespace PullTransport

variable {Payload Arrays Body : Type*} (transport : PullTransport Payload Arrays Body)

def cached : Method → Option (View Arrays Body)
  | .waitState => transport.latestState.map .arrays
  | .waitBodyState => transport.latestBodyState.map .body

/-- A new sample empties the cache of the other method. -/
def store (receipt : Receipt Payload) (fresh : Bool) : View Arrays Body → PullTransport Payload Arrays Body
  | .arrays state =>
      { transport with
        latestBodyState := if fresh then none else transport.latestBodyState
        latestSample := some receipt
        latestState := some state }
  | .body state =>
      { transport with
        latestState := if fresh then none else transport.latestState
        latestSample := some receipt
        latestBodyState := some state }

def unlock : PullTransport Payload Arrays Body := { transport with stateLock := false }

/-- What a statement leaves behind: the transport, the next position and the events. -/
abbrev Outcome (Payload Arrays Body : Type*) :=
  PullTransport Payload Arrays Body × Position Payload Arrays Body × List (Event Payload Arrays Body)

/-- An exception leaves the `with` block and the method. -/
def fail (events : List (Event Payload Arrays Body)) : Outcome Payload Arrays Body :=
  (transport.unlock, .idle, events ++ [.raised])

/-- A statement behind `_ensure_open` raises on a closed transport. -/
def whenOpen (next : Outcome Payload Arrays Body) : Outcome Payload Arrays Body :=
  if transport.closed then transport.fail [] else next

/-- Without a pending sample the latest one is reused, and only the first one is waited for. -/
def fallBack (method : Method) (waits : Bool) : Outcome Payload Arrays Body :=
  match transport.latestSample with
  | some receipt => (transport, .received method receipt false, [])
  | none => if waits then (transport, .receiving method, []) else transport.fail []

/-- A stale tuple with a cached view is returned at once, every other tuple is decoded. -/
def reuse (method : Method) (fresh : Bool) : Option (View Arrays Body) :=
  if fresh then none else transport.cached method

variable (codec : Codec Payload Arrays Body)

def step : Position Payload Arrays Body → Choice → Option (Outcome Payload Arrays Body)
  | .called method timeout, .go =>
      if transport.stateLock then none
      else some ({ transport with stateLock := true }, .entered method timeout, [])
  | .entered method timeout, .go =>
      match patience timeout with
      | none => some (transport.fail [])
      | some patient => some (transport.whenOpen (transport, .polling method patient, []))
  | .polling method patient, .go =>
      some ({ transport with ring := none }, .polled method patient transport.ring, [])
  | .polled method _ (some sample), .go =>
      some (transport.whenOpen (transport, .stamping method (some sample), []))
  | .polled method patient none, .go => some (transport.whenOpen (transport.fallBack method patient))
  | .polled method _ none, .expire => some (transport.whenOpen (transport.fallBack method false))
  | .receiving method, .go =>
      transport.ring.map fun sample =>
        ({ transport with ring := none }, .stamping method (some sample), [])
  | .receiving method, .expire => some (transport, .stamping method none, [])
  | .stamping method sample, .clocks wall mono =>
      match sample with
      | none => some (transport.fail [])
      | some frame => some (transport.whenOpen
          (transport, .received method ⟨frame, wall, mono⟩ true, [.pulled ⟨frame, wall, mono⟩]))
  | .received method receipt fresh, .go =>
      match transport.reuse method fresh with
      | some view => some (transport.unlock, .idle, [.returned view receipt])
      | none =>
          match codec.decode method receipt with
          | some view => some (transport, .decoded receipt fresh view, [])
          | none => some (transport.fail [.decodeFailed receipt])
  | .received method receipt fresh, .raise =>
      match transport.reuse method fresh with
      | some _ => none
      | none => some (transport.fail [.decodeFailed receipt])
  | .decoded receipt fresh view, .go =>
      some (transport.whenOpen
        ((transport.store receipt fresh view).unlock, .idle, [.returned view receipt]))
  | .polling .., .raise | .receiving _, .raise => some (transport.fail [])
  | _, _ => none

def react : Signal Payload → PullTransport Payload Arrays Body
  | .arrive payload receiveStampNs =>
      { transport with
        ring := some ⟨transport.arrived, payload, receiveStampNs⟩
        arrived := transport.arrived + 1 }
  | .close => { transport with closed := true }

end PullTransport

/-- The threads of a client call the two methods in any order while frames arrive. -/
def pullProgram {Payload Arrays Body : Type*} (codec : Codec Payload Arrays Body) :
    Foundation.Program (PullTransport Payload Arrays Body) (Position Payload Arrays Body)
      (Method × PyValue) Choice (Signal Payload) (Event Payload Arrays Body) where
  idle
    | .idle => true
    | _ => false
  call request := (.called request.1 request.2, [])
  step transport := transport.step codec
  react transport signal := (transport.react signal, [])

end HumanoidSdk.Pull
