import HumanoidSdk.Foundation.Monitor
import HumanoidSdk.Value.PyValue

/-
This file translates what HandClient in python/locomotion_aorta/hand.py and the gripper client in
_gripper_lifecycle.py and gripper.py share: the feedback cache with its failure, the pull rings of
_ee_pull.py, the waits, and a publish as a list of statements under the re-entrant `_publish_lock`.
A thread is a stack of calls, because a poll runs feedback callbacks and a callback may call the
client again. A step is one section under `_condition` or one statement that calls out of the SDK.
-/

namespace HumanoidSdk.EndEffector
open Foundation

inductive Kind where
  | info
  | state
  | touch
  deriving DecidableEq

inductive ErrorKind where
  | runtimeError
  | valueError
  | overflowError
  | timeoutError
  | typeError
  | external
  deriving DecidableEq

structure PyError where
  kind : ErrorKind
  message : String
  deriving DecidableEq

def UINT64_MAX : ℕ := 2 ^ 64 - 1

/-- The dictionary `_latest` holds the last accepted message of each kind. -/
abbrev Latest (Message : Kind → Type) := (kind : Kind) → Option (Message kind)

/-- A statement of a publish that leaves the feedback cache alone. -/
inductive Plain (Scratch : Type) where
  | ensureOpen
  | check (run : Scratch → Except PyError Scratch)
  | clock (keep : Scratch → ℤ → Scratch)
  | createPublisher

/-- A read of a feedback property, unless it is skipped, or a plain statement. -/
inductive Statement (Message : Kind → Type) (Scratch : Type) where
  | plain (statement : Plain Scratch)
  | get (kind : Kind) (skip : Scratch → Bool) (keep : Scratch → Option (Message kind) → Scratch)

structure WaitRequest where
  timeout : PyValue
  afterStateId : Option ℤ := none
  afterInfo : Bool := false

/-- What one client class adds to the shared parts. Its publish first runs `preparing`, then takes
the next sequence, runs `finishing`, stores the sequence, runs `late` and hands the command over. -/
structure Client where
  View : Type
  Message : Kind → Type
  Args : Type
  Scratch : Type
  Command : Type
  pullFeedback : Bool
  rings : List Kind
  hasCallback : Kind → Bool
  checksClosedFirst : Bool
  decode : (kind : Kind) → View → Except PyError (Message kind)
  agrees : Latest Message → Except PyError Unit
  refusesWait : WaitRequest → Option PyError
  isAfter : (kind : Kind) → Message kind → ℤ → Bool
  closedError : PyError
  feedbackError : PyError
  exhaustedError : PyError
  timeoutError : Kind → PyError
  start : Args → Scratch
  cmdId : Args → PyValue
  preparing : List (Statement Message Scratch)
  finishing : List (Plain Scratch)
  late : List (Plain Scratch)
  command : Scratch → ℕ → ℤ → Command
  sequenceOf : Command → ℕ
  cmdIdOf : Command → ℤ
  sequenceOf_command : ∀ scratch sequence commandId, sequenceOf (command scratch sequence commandId) = sequence
  cmdIdOf_command : ∀ scratch sequence commandId, cmdIdOf (command scratch sequence commandId) = commandId

/-- The fields of a client that its threads share. The tickets number the publishes that held the
lock. -/
structure Shared (client : Client) where
  closed : Bool := false
  failed : Bool := false
  latest : Latest client.Message := fun _ => none
  sequence : ℕ := 0
  publishing : Bool := false
  publisher : Bool := false
  polling : Bool := false
  rings : Kind → Option client.View := fun _ => none
  tickets : ℕ := 0

inductive UserCall (client : Client) where
  | get (kind : Kind)
  | wait (kind : Kind) (request : WaitRequest)
  | publish (args : client.Args)
  | close

/-- A worker of the transport delivers a message, every other call is one of the user. In pull mode
there are no workers, and runs without deliveries are among those of the program. -/
inductive Request (client : Client) where
  | user (call : UserCall client)
  | deliver (kind : Kind) (view : client.View)

inductive WaitPhase where
  | begin
  | loop
  | test
  | draining
  | drained (polled : Bool)
  deriving DecidableEq

/-- A poll visits the rings in order and may wait at one of them. -/
inductive PollPhase where
  | enter
  | next (todo : List Kind)
  | receiving (kind : Kind) (todo : List Kind)
  deriving DecidableEq

inductive ReceivePhase (client : Client) (kind : Kind) where
  | begin (view : client.View)
  | store (message : client.Message kind)
  | calling (message : client.Message kind)
  | fail

/-- A publish waits for the lock or runs one of its three lists of statements. -/
inductive PublishPhase (client : Client) where
  | acquire (args : client.Args)
  | preparing (ticket : ℕ) (args : client.Args) (scratch : client.Scratch) (polled : Bool)
      (rest : List (Statement client.Message client.Scratch))
  | finishing (ticket : ℕ) (args : client.Args) (scratch : client.Scratch) (sequence : ℕ) (commandId : ℤ)
      (rest : List (Plain client.Scratch))
  | late (ticket : ℕ) (args : client.Args) (scratch : client.Scratch) (sequence : ℕ) (commandId : ℤ)
      (rest : List (Plain client.Scratch))

/-- A frame is one call in progress. A delivery notes whether it has stored its message. -/
inductive Frame (client : Client) where
  | get (kind : Kind) (polled : Bool)
  | wait (kind : Kind) (request : WaitRequest) (phase : WaitPhase)
  | poll (waiting : Option Kind) (phase : PollPhase)
  | receive (kind : Kind) (stored : Bool) (phase : ReceivePhase client kind)
  | publish (phase : PublishPhase client)
  | close

/-- The environment lets a step pass, makes it raise, spoils a pulled sample, lets a wait expire, reads
the clock or lets a callback call the client. -/
inductive Choice (client : Client) where
  | go
  | raise
  | spoil
  | expire
  | clock (now : ℤ)
  | call (request : UserCall client)

inductive Event (client : Client) where
  | stored (kind : Kind) (message : client.Message kind)
  | rejected (kind : Kind) (stored : Bool)
  | failed
  | returned (kind : Kind) (entry : Option (client.Message kind))
  | raised (error : PyError)
  | read (ticket : ℕ) (kind : Kind) (entry : Option (client.Message kind))
  | consumed (ticket sequence : ℕ)
  | handed (ticket : ℕ) (args : client.Args) (command : client.Command) (raises : Bool)
  | refused (ticket : ℕ) (error : PyError)

inductive Signal (client : Client) where
  | arrive (kind : Kind) (view : client.View)

variable {client : Client}

def UserCall.frame : UserCall client → Frame client
  | .get kind => .get kind false
  | .wait kind request => .wait kind request .begin
  | .publish args => .publish (.acquire args)
  | .close => .close

namespace Frame

/-- The frame holds `_publish_lock`. -/
def holdsPublish : Frame client → Bool
  | .publish (.acquire _) => false
  | .publish _ => true
  | _ => false

/-- The frame holds the lock of the pull rings. -/
def holdsPoll : Frame client → Bool
  | .poll _ .enter => false
  | .poll .. => true
  | _ => false

/-- A wait learns whether its poll was the one that drained the rings. -/
def resume (polled : Bool) : Frame client → Frame client
  | .wait kind request .draining => .wait kind request (.drained polled)
  | frame => frame

end Frame

/-- A step replaces the top frame, calls from it or ends it. -/
inductive Answer (client : Client) where
  | stay (frame : Frame client)
  | push (frame called : Frame client)
  | pop (polled : Bool)

def Answer.stack (below : List (Frame client)) : Answer client → List (Frame client)
  | .stay frame => frame :: below
  | .push frame called => called :: frame :: below
  | .pop polled => below.modifyHead (Frame.resume polled)

namespace Shared

variable (shared : Shared client)

/-- A step leaves the shared state, an answer and its events. -/
abbrev Outcome (client : Client) := Shared client × Answer client × List (Event client)

def ensureOpen : Except PyError Unit :=
  if shared.closed then .error client.closedError
  else if shared.failed then .error client.feedbackError
  else .ok ()

/-- A section behind `_ensure_open` raises or goes on. -/
def guarded (next : Outcome client) : Outcome client :=
  match shared.ensureOpen with
  | .error error => (shared, .pop true, [.raised error])
  | .ok () => next

/-- `_get` polls first in pull mode and then reads its entry. -/
def getStep (kind : Kind) (polled : Bool) : Choice client → Option (Outcome client)
  | .go => some (shared.guarded
      (if client.pullFeedback && !polled then (shared, .push (.get kind true) (.poll none .enter), [])
      else (shared, .pop true, [.returned kind (shared.latest kind)])))
  | _ => none

/-- An entry ends a wait unless it is too old; whether it is the object of `after_info` is decided
by the environment. -/
def endsWait (kind : Kind) (request : WaitRequest) : Bool :=
  match shared.latest kind with
  | none => false
  | some message => request.afterStateId.all fun bound => client.isAfter kind message bound

/-- The section in the loop of `_wait` returns, raises or goes on waiting. -/
def testWait (kind : Kind) (request : WaitRequest) : Choice client → Option (Outcome client)
  | .go =>
      if shared.endsWait kind request then
        some (shared.guarded (shared, .pop true, [.returned kind (shared.latest kind)]))
      else some (shared.guarded (keepWaiting shared))
  | .expire =>
      if shared.endsWait kind request && !request.afterInfo then none
      else some (shared.guarded
        (shared, .pop true, [.raised (client.timeoutError kind)]))
  | .raise =>
      if shared.endsWait kind request && request.afterInfo then some (shared.guarded (keepWaiting shared))
      else none
  | _ => none
where
  keepWaiting (shared : Shared client) : Outcome client :=
    if client.pullFeedback then
      (shared, .push (.wait kind request .draining) (.poll (some kind) .enter), [])
    else (shared, .stay (.wait kind request .loop), [])

def waitStep (kind : Kind) (request : WaitRequest) (phase : WaitPhase) (choice : Choice client) :
    Option (Outcome client) :=
  match phase, choice with
  | .begin, .go =>
      match client.refusesWait request with
      | some error => some (shared, .pop true, [.raised error])
      | none => some (shared, .stay (.wait kind request .loop), [])
  | .loop, choice =>
      if client.pullFeedback then
        match choice with
        | .go => some (shared.guarded (shared, .push (.wait kind request .test) (.poll none .enter), []))
        | _ => none
      else shared.testWait kind request choice
  | .test, choice => shared.testWait kind request choice
  | .drained true, .go => some (shared, .stay (.wait kind request .loop), [])
  | .drained false, .go => some (shared.guarded (shared, .stay (.wait kind request .loop), []))
  | _, _ => none

/-- A pulled sample is decoded and received like a delivered one. -/
def take (waiting : Option Kind) (kind : Kind) (todo : List Kind) (view : client.View) : Outcome client :=
  ({ shared with rings := Function.update shared.rings kind none },
    .push (.poll waiting (.next todo)) (.receive kind false (.begin view)), [])

/-- `FeedbackPulls.poll` lets one thread drain the rings and records what raises. -/
def pollStep (below : List (Frame client)) (waiting : Option Kind) (phase : PollPhase)
    (choice : Choice client) : Option (Outcome client) :=
  match phase, choice with
  | .enter, .go =>
      if shared.polling && !below.any Frame.holdsPoll then some (shared, .pop false, [])
      else some ({ shared with polling := true }, .stay (.poll waiting (.next client.rings)), [])
  | .next [], .go => some ({ shared with polling := below.any Frame.holdsPoll }, .pop true, [])
  | .next (kind :: todo), .go =>
      match shared.rings kind with
      | some view => some (shared.take waiting kind todo view)
      | none =>
          if waiting = some kind then some (shared, .stay (.poll waiting (.receiving kind todo)), [])
          else some (shared, .stay (.poll waiting (.next todo)), [])
  | .receiving kind todo, .go => (shared.rings kind).map fun view => shared.take waiting kind todo view
  | .receiving _ todo, .expire => some (shared, .stay (.poll waiting (.next todo)), [])
  | .next (_ :: todo), .raise | .receiving _ todo, .raise =>
      some ({ shared with failed := true }, .stay (.poll waiting (.next todo)), [.failed])
  | .next (kind :: todo), .spoil | .receiving kind todo, .spoil =>
      some ({ shared with failed := true, rings := Function.update shared.rings kind none },
        .stay (.poll waiting (.next todo)), [.failed])
  | _, _ => none

/-- `_receive` decodes and checks a message, stores it in one section and calls the user back. -/
def receiveStep (kind : Kind) (stored : Bool) (phase : ReceivePhase client kind) (choice : Choice client) :
    Option (Outcome client) :=
  match phase, choice with
  | .begin view, .go =>
      if client.checksClosedFirst && shared.closed then some (shared, .pop true, [])
      else
        match client.decode kind view with
        | .error _ => some (shared, .stay (.receive kind stored .fail), [.rejected kind stored])
        | .ok message => some (shared, .stay (.receive kind stored (.store message)), [])
  | .store message, .go =>
      let latest := Function.update shared.latest kind (some message)
      if shared.closed then some (shared, .pop true, [])
      else
        match client.agrees latest with
        | .error _ => some (shared, .stay (.receive kind stored .fail), [.rejected kind stored])
        | .ok () => some ({ shared with latest := latest },
            if client.hasCallback kind then .stay (.receive kind true (.calling message)) else .pop true,
            [.stored kind message])
  | .calling _, .go => some (shared, .pop true, [])
  | .calling _, .raise => some (shared, .stay (.receive kind stored .fail), [])
  | .calling message, .call request =>
      some (shared, .push (.receive kind stored (.calling message)) request.frame, [])
  | .fail, .go => some ({ shared with failed := true }, .pop true, [.failed])
  | _, _ => none

/-- A plain statement changes the locals or raises. -/
def plainStep (scratch : client.Scratch) (statement : Plain client.Scratch) (choice : Choice client) :
    Option (Shared client × Except PyError client.Scratch) :=
  match statement, choice with
  | .ensureOpen, .go => some (shared, shared.ensureOpen.map fun _ => scratch)
  | .check run, .go => some (shared, run scratch)
  | .clock keep, .clock now => some (shared, .ok (keep scratch now))
  | .createPublisher, .go => some ({ shared with publisher := true }, .ok scratch)
  | .clock _, .raise => some (shared, .error ⟨.external, "node.now"⟩)
  | .createPublisher, .raise =>
      if shared.publisher then none else some (shared, .error ⟨.external, "create_publisher_typed"⟩)
  | _, _ => none

/-- The lock stays taken while an outer call of the same thread holds it. -/
def release (below : List (Frame client)) : Shared client :=
  { shared with publishing := below.any Frame.holdsPublish }

/-- An exception leaves the `with` block of a publish. -/
def refuse (below : List (Frame client)) (ticket : ℕ) (error : PyError) : Outcome client :=
  (shared.release below, .pop true, [.refused ticket error])

/-- A publish without `cmd_id` takes the low bits of its sequence. -/
def commandId (cmdId : PyValue) (sequence : ℕ) : Except PyError ℤ :=
  match cmdId with
  | .none => .ok (sequence % 2 ^ 16 : ℕ)
  | .int value =>
      if 0 ≤ value ∧ value ≤ 0xffff then .ok value else .error ⟨.valueError, "cmd_id must be uint16"⟩
  | _ => .error ⟨.valueError, "cmd_id must be uint16"⟩

def publishStep (below : List (Frame client)) (phase : PublishPhase client) (choice : Choice client) :
    Option (Outcome client) :=
  match phase, choice with
  | .acquire args, .go =>
      if shared.publishing && !below.any Frame.holdsPublish then none
      else some ({ shared with publishing := true, tickets := shared.tickets + 1 },
        .stay (.publish (.preparing (shared.tickets + 1) args (client.start args) false client.preparing)), [])
  | .preparing ticket args scratch _ (.plain statement :: rest), choice =>
      (shared.plainStep scratch statement choice).map fun result =>
        match result.2 with
        | .error error => result.1.refuse below ticket error
        | .ok next => (result.1, .stay (.publish (.preparing ticket args next false rest)), [])
  | .preparing ticket args scratch polled (.get kind skip keep :: rest), .go =>
      if skip scratch then some (shared, .stay (.publish (.preparing ticket args scratch false rest)), [])
      else
        match shared.ensureOpen with
        | .error error => some (shared.refuse below ticket error)
        | .ok () =>
            if client.pullFeedback && !polled then
              some (shared, .push (.publish (.preparing ticket args scratch true (.get kind skip keep :: rest)))
                (.poll none .enter), [])
            else some (shared, .stay (.publish (.preparing ticket args (keep scratch (shared.latest kind)) false rest)),
              [.read ticket kind (shared.latest kind)])
  | .preparing ticket args scratch _ [], .go =>
      if shared.sequence + 1 > UINT64_MAX then some (shared.refuse below ticket client.exhaustedError)
      else
        match commandId (client.cmdId args) (shared.sequence + 1) with
        | .error error => some (shared.refuse below ticket error)
        | .ok number => some (shared,
            .stay (.publish (.finishing ticket args scratch (shared.sequence + 1) number client.finishing)), [])
  | .finishing ticket args scratch sequence number (statement :: rest), choice =>
      (shared.plainStep scratch statement choice).map fun result =>
        match result.2 with
        | .error error => result.1.refuse below ticket error
        | .ok next => (result.1, .stay (.publish (.finishing ticket args next sequence number rest)), [])
  | .finishing ticket args scratch sequence number [], .go =>
      some ({ shared with sequence := sequence },
        .stay (.publish (.late ticket args scratch sequence number client.late)), [.consumed ticket sequence])
  | .late ticket args scratch sequence number (statement :: rest), choice =>
      (shared.plainStep scratch statement choice).map fun result =>
        match result.2 with
        | .error error => result.1.refuse below ticket error
        | .ok next => (result.1, .stay (.publish (.late ticket args next sequence number rest)), [])
  | .late ticket args scratch sequence number [], .go =>
      some (shared.release below, .pop true,
        [.handed ticket args (client.command scratch sequence number) false])
  | .late ticket args scratch sequence number [], .raise =>
      some (shared.release below, .pop true,
        [.handed ticket args (client.command scratch sequence number) true])
  | _, _ => none

/-- `close` waits for the publishes of other threads. -/
def closeStep (below : List (Frame client)) : Choice client → Option (Outcome client)
  | .go =>
      if shared.publishing && !below.any Frame.holdsPublish then none
      else some ({ shared with closed := true }, .pop true, [])
  | _ => none

def frameStep (below : List (Frame client)) (frame : Frame client) (choice : Choice client) :
    Option (Outcome client) :=
  match frame with
  | .get kind polled => shared.getStep kind polled choice
  | .wait kind request phase => shared.waitStep kind request phase choice
  | .poll waiting phase => shared.pollStep below waiting phase choice
  | .receive kind stored phase => shared.receiveStep kind stored phase choice
  | .publish phase => shared.publishStep below phase choice
  | .close => shared.closeStep below choice

def step : List (Frame client) → Choice client → Option (Shared client × List (Frame client) × List (Event client))
  | [], _ => none
  | frame :: below, choice =>
      (shared.frameStep below frame choice).map fun outcome =>
        (outcome.1, outcome.2.1.stack below, outcome.2.2)

end Shared

def Request.frame : Request client → Frame client
  | .user call => call.frame
  | .deliver kind view => .receive kind false (.begin view)

/-- The threads of one client and the rings that its topics fill. -/
def clientProgram (client : Client) :
    Program (Shared client) (List (Frame client)) (Request client) (Choice client) (Signal client)
      (Event client) where
  idle stack := stack.isEmpty
  call request := ([request.frame], [])
  step shared := shared.step
  react shared
    | .arrive kind view => ({ shared with rings := Function.update shared.rings kind (some view) }, [])

end HumanoidSdk.EndEffector
