import HumanoidSdk.EndEffector.Hand
import HumanoidSdk.Foundation.Custody

/-
This file translates how the examples open and close what they use: `main` of velocity_mode.py,
wbc_tracking_mode.py, teleop_policy.py, external_control.py, body_state_subscriber.py, gripper_external.py and
brainco_hand_external.py under examples/, and the constructors and `close` methods under python/locomotion_aorta/
that they call. A call that opens something has opened it when it returns and not when it raises. A statement that
neither opens nor closes anything is named by what it uses.
-/

namespace HumanoidSdk.Demo
open EndEffector Foundation Script

/-- Whose node it is. -/
inductive Holder where
  | controller
  | source
  | client (side : Side)
  deriving DecidableEq

/-- The topics of the controller. -/
inductive Topic where
  | ack
  | status
  deriving DecidableEq

/-- The kinds of the feedback of a client. -/
inductive Feed where
  | state
  | touch
  | info
  deriving DecidableEq

/-- A session is open from the statement after which the example asks for its end. -/
inductive Resource where
  | handlers
  | log
  | node (holder : Holder)
  | subscription (topic : Topic)
  | joy
  | session
  | feedback (holder : Holder) (side : Side) (feed : Feed)
  | service (side : Side)
  | command (side : Side)
  | trace (topic : Topic)
  deriving DecidableEq

/-- The resource that has to outlive the other one. -/
def Resource.owner : Resource → Option Resource
  | .subscription _ | .joy | .session | .service _ | .command _ | .trace _ => some (.node .controller)
  | .feedback holder _ _ => some (.node holder)
  | .handlers | .log | .node _ => none

/-- The variables that the cleanups test. -/
inductive Name where
  | transport
  | controller
  | transportClosed (holder : Holder)
  | controllerClosed
  | clientClosed (side : Side)
  | failure
  deriving DecidableEq

/-- The rest of a constructor after it has opened a resource, an `__enter__` and the loop over `signal.SIG_IGN` are
statements of their own. -/
inductive Statement where
  | opening (resource : Resource)
  | constructing (resource : Resource)
  | entering (resource : Resource)
  | ignoring
  | closing (resource : Resource)
  | relying (resources : List Resource)
  | set (name : Name)
  | unset (name : Name)
  deriving DecidableEq

def handling : Handling Statement Resource where
  opens
    | .opening resource => some resource
    | _ => none
  closes
    | .closing resource => some resource
    | _ => none
  uses
    | .relying resources => resources
    | .constructing resource | .entering resource => [resource]
    | _ => []
  owner := Resource.owner

/-- The open resources with those that were opened at any time, and the variables. -/
structure Scene where
  custody : Custody Resource := {}
  opened : List Resource := []
  assigned : List Name := []
  deriving DecidableEq

namespace Scene

def effect (scene : Scene) (happened : Happened Statement) : Scene where
  custody := scene.custody.step handling happened
  opened :=
    match happened with
    | ⟨.opening resource, none⟩ => scene.opened.insert resource
    | _ => scene.opened
  assigned :=
    match happened with
    | ⟨.set name, _⟩ => scene.assigned.insert name
    | ⟨.unset name, _⟩ => scene.assigned.erase name
    | _ => scene.assigned

def has (name : Name) (scene : Scene) : Bool := scene.assigned.contains name

def made (resource : Resource) (scene : Scene) : Bool := scene.opened.contains resource

end Scene

abbrev Code := Script Scene Statement

section Statements

def opening (resource : Resource) : Code := act (.opening resource)

def constructing (resource : Resource) : Code := act (.constructing resource)

def entering (resource : Resource) : Code := act (.entering resource)

def closing (resource : Resource) : Code := act (.closing resource)

def relying (resources : List Resource) : Code := act (.relying resources)

/-- The statement `if test:`. -/
def when' (test : Scene → Bool) (body : Code) : Code := cond test body skip

/-- The statement `if call: return`. -/
def unless' (body : Code) : Code := ask (.relying []) skip body

/-- A close that runs at most once. -/
def once (closed : Name) (body : Code) : Code := cond (Scene.has closed) skip (seq (note (.set closed)) body)

end Statements

section Transports

variable (holder : Holder)

def transportClose : Code := once (.transportClosed holder) (closing (.node holder))

/-- The constructors of `_AortaTransport` and `PullTransport`, each with its `try`. -/
def pullTransport : Code :=
  block [
    relying [],
    opening (.node holder),
    constructing (.node holder),
    unwind (relying [.node holder]) (closing (.node holder)),
    constructing (.node holder),
    unwind (relying [.node holder]) (transportClose holder)]

def ACK : Resource := .subscription .ack

def STATUS : Resource := .subscription .status

def closeSubscriptions : Code :=
  block [when' (Scene.made ACK) (quiet (closing ACK)), when' (Scene.made STATUS) (quiet (closing STATUS))]

/-- The constructor of `ExternalController` after it has a transport. -/
def externalController : Code :=
  block [
    constructing (.node .controller),
    unwind (block [opening ACK, opening STATUS])
      (block [closeSubscriptions, quiet (transportClose .controller)])]

def pullController : Code := block [pullTransport .controller, externalController]

/-- The cancel is tried only if a request was made. -/
def controllerClose : Code :=
  once .controllerClosed
    (block [quiet (relying [.node .controller]), closeSubscriptions, quiet (transportClose .controller)])

/-- The statement `with PullController() as controller:`. -/
def withController (body : Code) : Code :=
  block [pullController, entering (.node .controller), protect body controllerClose]

def withSource (body : Code) : Code :=
  block [pullTransport .source, entering (.node .source), protect body (transportClose .source)]

/-- The statement `with stop_signals():`. -/
def withHandlers (body : Code) : Code :=
  block [opening .handlers, entering .handlers, protect body (closing .handlers)]

end Transports

section Clients

inductive Device where
  | hand
  | gripper
  deriving DecidableEq

/-- The subscriptions of a client in their order. -/
def Device.feeds : Device → List Feed
  | .hand => [.state, .touch, .info]
  | .gripper => [.state, .info]

variable (device : Device) (holder : Holder) (side : Side)

/-- The handles in the order in which `close` closes them. -/
def handles : List Resource :=
  device.feeds.map (.feedback holder side) ++ [.service side, .command side]

/-- One handle is closed. The first exception waits until all handles are closed. -/
def tryClose (handle : Resource) : Code :=
  when' (Scene.made handle)
    (recover (fun thrown => thrown = .exception) (unwind (closing handle) (note (.set .failure))))

/-- The method `close` of a client, which owns its node unless it was given one. -/
def clientClose : Code :=
  once (.clientClosed side) (block [
    note (.unset .failure),
    block ((handles device holder side).map tryClose),
    if holder = .client side then tryClose (.node holder) else skip,
    when' (Scene.has .failure) (raise .exception)])

/-- The constructor of a client. -/
def clientOpen : Code :=
  block [
    relying [],
    if holder = .client side then block [opening (.node holder), constructing (.node holder)]
    else relying [.node holder],
    unwind
      (block (relying [.node holder] :: device.feeds.map fun feed => opening (.feedback holder side feed)))
      (clientClose device holder side)]

/-- The statement `stack.enter_context(Client(side))`. -/
def withClient (body : Code) : Code :=
  block [clientOpen device holder side, entering (.node holder), protect body (clientClose device holder side)]

/-- A command of a client, which opens its publisher at the first one. -/
def publishing : Code :=
  block [
    cond (Scene.made (.command side)) skip (opening (.command side)),
    relying [.session, .feedback holder side .state, .command side]]

end Clients

section Examples

/-- The end of an example that has a session: the request to end it and what is told about that. -/
def exitExternal (told : List Resource) : Code :=
  when' (Scene.made .session) (block [closing .session, relying told])

/-- The end of an example that first ignores the signals. -/
def exitIgnoring : Code := when' (Scene.made .session) (block [act .ignoring, closing .session, relying []])

/-- What is opened, with the rest of its constructor. One expression installs both signal handlers. -/
def construct (resource : Resource) : Code := block [opening resource, constructing resource]

/-- `main` of velocity_mode.py. The variable `entered` is set after the entry has returned. -/
def velocityMain (live : Bool) : Code :=
  block [
    relying [],
    construct .handlers,
    protect
      (block [
        pullTransport .controller,
        note (.set .transport),
        if live then block [externalController, note (.set .controller)] else skip,
        relying [.node .controller],
        construct .log,
        relying [.log],
        construct .joy,
        relying [.log],
        if live then opening .session else skip,
        relying (if live then [.node .controller, .log, .joy, .session] else [.node .controller, .log, .joy])])
      (protect (exitExternal [.log])
        (protect (when' (Scene.made .joy) (protect (relying [.log, .joy]) (closing .joy)))
          (protect
            (cond (Scene.has .controller) controllerClose
              (when' (Scene.has .transport) (transportClose .controller)))
            (protect (when' (Scene.made .log) (closing .log)) (closing .handlers)))))]

/-- `live` of wbc_tracking_mode.py. The variable `attempted` is set before the entry. -/
def trackingLive : Code :=
  block [
    relying [.node .source],
    unless' (block [
      relying [.node .source],
      protect
        (unless' (block [
          note (.opening .session),
          relying [.node .controller],
          relying [.node .source],
          unless' (relying [.session, .node .source, .log])]))
        (unwind (exitExternal [.log]) (relying [.log]))])]

/-- `main` of wbc_tracking_mode.py. -/
def trackingMain (live : Bool) : Code :=
  block [
    relying [],
    construct .log,
    protect
      (unwind
        (block [
          if live then
            block [
              relying [],
              construct .handlers,
              protect
                (withController (withSource
                  (block [relying [.node .controller], relying [.log], trackingLive])))
                (closing .handlers)]
          else relying [.log],
          relying [.log]])
        (relying [.log]))
      (closing .log)]

/-- `live` of teleop_policy.py. -/
def teleopLive (logged : Bool) : Code :=
  block [
    relying [.node .controller],
    protect
      (unless' (block [
        note (.opening .session),
        relying [.node .controller],
        relying ([.session, .joy] ++ if logged then [.log] else [])]))
      (exitExternal [])]

/-- `main` of teleop_policy.py. -/
def teleopMain (logged : Bool) : Code :=
  block [
    relying [],
    construct .handlers,
    protect
      (block [
        if logged then construct .log else skip,
        withController (block [construct .joy, entering .joy, protect (teleopLive logged) (closing .joy)])])
      (block [when' (Scene.made .log) (closing .log), closing .handlers])]

/-- `main` of external_control.py with `run`. -/
def externalMain : Code :=
  withController (block [
    relying [.node .controller],
    protect (block [opening .session, relying [.session]]) (exitExternal [])])

/-- `main` of body_state_subscriber.py. -/
def subscriberMain : Code := withSource (relying [.node .source])

/-- `run_external` of gripper_external.py. The two traces are opened for the zero pose. -/
def runExternal (zero : Bool) (commandLoop : Code) : Code :=
  withHandlers (block [
    relying [.node .controller],
    protect
      (block [
        if zero then block [opening (.trace .ack), opening (.trace .status)] else skip,
        note (.opening .session),
        relying [.node .controller],
        relying [.session],
        commandLoop])
      (protect (relying [])
        (protect exitIgnoring
          (block [
            when' (Scene.made (.trace .ack)) (closing (.trace .ack)),
            when' (Scene.made (.trace .status)) (closing (.trace .status))])))])

def Interrupted (thrown : Thrown) : Bool := thrown = .interrupt

/-- The clients of an example one inside the other. -/
def withClients (device : Device) (holder : Side → Holder) (sides : List Side) (body : Code) : Code :=
  sides.foldr (fun side body => withClient device (holder side) side body) body

/-- `main` of gripper_external.py without and with motion. -/
def gripperObserve (sides : List Side) : Code :=
  sides.foldr (fun side rest => withClient .gripper (.client side) side
    (block [relying [.feedback (.client side) side .state], rest])) skip

def gripperMain (zero : Bool) (sides : List Side) : Code :=
  withController (withClients .gripper (fun _ => .controller) sides
    (recover Interrupted (block [
      relying (sides.map fun side => .feedback .controller side .info),
      runExternal zero (block [relying [.session], block (sides.map (publishing .controller))]),
      relying (sides.map fun side => .feedback .controller side .state)])))

/-- `main` of brainco_hand_external.py without and with motion. -/
def handObserve (sides : List Side) : Code :=
  withClients .hand Holder.client sides
    (relying (sides.map fun side => .feedback (.client side) side .state))

def handMain (touch : Bool) (sides : List Side) : Code :=
  withController (withClients .hand (fun _ => .controller) sides
    (block [
      if touch then
        block (sides.map fun side =>
          block [opening (.service side), relying [.service side], relying [.feedback .controller side .info]])
      else skip,
      recover Interrupted (withHandlers (block [
        relying (sides.map fun side => .feedback .controller side .info),
        relying [.node .controller],
        protect
          (block [
            note (.opening .session),
            relying [.node .controller],
            relying [.session],
            block (sides.map (publishing .controller))])
          exitIgnoring]))]))

end Examples

/-- The option `--side`. -/
inductive Sides where
  | only (side : Side)
  | both

def Sides.sides : Sides → List Side
  | .only side => [side]
  | .both => [.left, .right]

/-- The examples with the options that change what they open. -/
inductive Example where
  | velocity (live : Bool)
  | tracking (live : Bool)
  | teleop (logged : Bool)
  | external
  | subscriber
  | gripperObserve (side : Sides)
  | gripper (zero : Bool) (side : Sides)
  | handObserve (side : Sides)
  | hand (touch : Bool) (side : Sides)

namespace Example

def main : Example → Code
  | .velocity live => velocityMain live
  | .tracking live => trackingMain live
  | .teleop logged => teleopMain logged
  | .external => externalMain
  | .subscriber => subscriberMain
  | .gripperObserve side => Demo.gripperObserve side.sides
  | .gripper zero side => gripperMain zero side.sides
  | .handObserve side => Demo.handObserve side.sides
  | .hand touch side => handMain touch side.sides

/-- The handlers of these examples set an event instead of raising. -/
def deaf : Example → Bool
  | .velocity _ | .tracking _ | .teleop _ => true
  | _ => false

/-- What the examples do not clean up after is not raised. The rest of a constructor and an `__enter__` run before the
`try` that closes what was opened, and a first stop signal before SIG_IGN is set skips the end of the session. The log
of teleop_policy.py and the traces of gripper_external.py are closed one after the other without a `try`, and a
client that is interrupted while it closes a handle leaves the rest. -/
def allowed (example' : Example) (scene : Scene) (statement : Statement) (thrown : Thrown) : Bool :=
  match example', statement with
  | _, .constructing _ | _, .entering _ | _, .ignoring => false
  | .teleop _, .closing .log => false
  | .gripper _ _, .closing (.trace _) => false
  | _, .closing (.feedback _ _ _) | _, .closing (.service _) | _, .closing (.command _) => thrown ≠ .interrupt
  | _, _ => !(thrown = .interrupt && example'.deaf && scene.custody.held.contains .handlers)

end Example

/-- An example ends without a resource, and everything was in order. -/
def Tidy (example' : Example) : Prop :=
  ∀ e ∈ explore Scene.effect example'.allowed example'.main [{}], e.1.custody = {}

instance (example' : Example) : Decidable (Tidy example') := List.decidableBAll _ _

/-- Each example is explored with each of its options. -/
theorem tidy (example' : Example) : Tidy example' := by
  cases example' with
  | velocity live => cases live <;> decide +kernel
  | tracking live => cases live <;> decide +kernel
  | teleop logged => cases logged <;> decide +kernel
  | external => decide +kernel
  | subscriber => decide +kernel
  | gripperObserve side => rcases side with ⟨- | -⟩ | - <;> decide +kernel
  | gripper zero side => cases zero <;> rcases side with ⟨- | -⟩ | - <;> decide +kernel
  | handObserve side => rcases side with ⟨- | -⟩ | - <;> decide +kernel
  | hand touch side => cases touch <;> rcases side with ⟨- | -⟩ | - <;> decide +kernel

theorem custody_stateOf (log : List (Happened Statement)) :
    (stateOf Scene.effect {} log).custody = Custody.after handling log := by
  induction log using List.reverseRecOn with
  | nil => rfl
  | append_singleton log happened ih =>
      rw [stateOf_snoc, Custody.after_snoc, ← ih]
      rfl

/-- Whatever a call raises at whatever time, an example closes each resource as often as it has opened it. What
belongs to a node is closed before the node, nothing is used after it was closed, and the end of a session is asked
for while the controller is open. -/
theorem examples_clean_up (example' : Example) (world : List (Happened Statement) → Statement → Except Thrown Bool)
    (respects : Respects Scene.effect example'.allowed {} world) :
    let log := (run Scene.effect {} world example'.main []).1
    (∀ resource, log.countP (handling.taking resource) = log.countP (handling.dropping resource)) ∧
      ∀ before happened rest, log = before ++ happened :: rest →
        InOrder handling (Custody.after handling before).held happened := by
  intro log
  have ended : Custody.after handling log = {} := by
    rw [← custody_stateOf]
    exact run_always (fun (scene : Scene) _ => scene.custody = {}) respects (tidy example')
  have fine : (Custody.after handling log).lawful = true := by rw [ended]
  have even := balanced fine
  rw [ended] at even
  exact ⟨even.settled, fun before happened rest => Custody.inOrder fine⟩

/-- The second subscription fails, and so does the release of the first one after it. -/
def failingWorld (log : List (Happened Statement)) : Statement → Except Thrown Bool
  | .opening (.subscription _) | .closing (.subscription _) =>
      if log.length = 8 ∨ log.length = 9 then .error .exception else .ok false
  | _ => .ok false

theorem failingWorld_respects : Respects Scene.effect Example.external.allowed {} failingWorld := by
  intro log statement thrown raised
  unfold failingWorld at raised
  split at raised
  · split at raised
    · cases raised
      rfl
    · cases raised
  · split at raised
    · cases raised
      rfl
    · cases raised
  · cases raised

/-- Both errors happen, and the node and the subscription that was open are closed. -/
theorem examples_clean_up_external :
    let log := (run Scene.effect {} failingWorld Example.external.main []).1
    log.countP (fun happened => happened.thrown ≠ none) = 2 ∧
      (∀ resource, log.countP (handling.taking resource) = log.countP (handling.dropping resource)) ∧
      ∀ before happened rest, log = before ++ happened :: rest →
        InOrder handling (Custody.after handling before).held happened :=
  ⟨by decide +kernel, examples_clean_up .external failingWorld failingWorld_respects⟩

end HumanoidSdk.Demo
