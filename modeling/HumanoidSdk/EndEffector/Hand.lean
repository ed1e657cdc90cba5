import HumanoidSdk.EndEffector.Client
import HumanoidSdk.Message.Encoder

/-
This file translates validate_info and HandClient of python/locomotion_aorta/hand.py with the messages
of hand_types.py. The flat buffer accessors behind `codec.decode_*` are a parameter.
-/

namespace HumanoidSdk.EndEffector

/-- The exact number behind a Python number. -/
def exact : PyValue → Option ℚ
  | .bool value => some (if value then 1 else 0)
  | .int value | .index value => some value
  | .float (.finite value) | .real (.finite value) => some value
  | _ => none

/-- The chained comparison `low <= value <= high`. -/
def within (low high : FloatValue) (value : PyValue) : Bool :=
  match exact value with
  | some number => low.le (.finite number) && FloatValue.le (.finite number) high
  | none => false

/-- A conversion to a double overflows on an integer, and refuses what is no number. -/
def conversionError : PyValue → ErrorKind
  | .int _ | .index _ => .overflowError
  | _ => .typeError

/-- `math.isfinite` as a check that may raise. -/
def pyIsfinite (value : PyValue) : Except PyError Bool :=
  match value.isfinite with
  | .ok finite => .ok finite
  | .error message => .error ⟨conversionError value, message⟩

/-- `float(value)` rounds an integer like the cast of the encoder. -/
def pyFloat (value : PyValue) : Except PyError FloatValue :=
  match Native.castDouble value with
  | .ok number => .ok number
  | .error message => .error ⟨conversionError value, message⟩

inductive Side where
  | left
  | right
  deriving DecidableEq

def Side.wire : Side → ℤ
  | .left => 1
  | .right => 2

structure HandJointState where
  q : FloatValue
  dq : FloatValue

structure FingerTouchMeta where
  sampleSeq : ℤ

structure HandInfo where
  handType : ℤ
  side : ℤ
  dof : ℕ
  jointNames : List String
  qMin : List FloatValue
  qMax : List FloatValue
  dqMax : List FloatValue
  touchFingers : ℕ
  touchWordsPerFinger : ℕ

structure HandState where
  stateId : ℤ
  handType : ℤ
  side : ℤ
  joints : List HandJointState
  tsStateRealUs : ℤ

structure HandTouch where
  stateId : ℤ
  handType : ℤ
  side : ℤ
  fingers : List FingerTouchMeta
  rawWords : List ℤ

structure HandJointCmd where
  q : FloatValue
  dq : FloatValue

structure HandCmd where
  sessionId : ℤ
  sequence : ℕ
  handType : ℤ
  side : ℤ
  joints : List HandJointCmd
  cmdId : ℤ
  inputStateId : ℤ
  inputStateTsRealUs : ℤ
  tsClientCreatedUs : ℤ
  tsClientSendUs : ℤ

@[reducible] def HandMessage : Kind → Type
  | .info => HandInfo
  | .state => HandState
  | .touch => HandTouch

def valueError (message : String) : PyError := ⟨.valueError, message⟩

namespace HandInfo

/-- The limits of one joint are finite, ordered and nonnegative in speed. -/
def limitsValid (limits : FloatValue × FloatValue × FloatValue) : Bool :=
  limits.1.isFinite && limits.2.1.isFinite && limits.2.2.isFinite &&
    limits.1.le limits.2.1 && FloatValue.le (.finite 0) limits.2.2

def limits (info : HandInfo) : List (FloatValue × FloatValue × FloatValue) :=
  info.qMin.zip (info.qMax.zip info.dqMax)

end HandInfo

def validateInfo (info : Option HandInfo) : Except PyError Unit := do
  let some info := info | .error (valueError "valid HandInfo with nonzero dof is required")
  if info.dof = 0 then .error (valueError "valid HandInfo with nonzero dof is required")
  if info.jointNames.length ≠ info.dof ∨ info.qMin.length ≠ info.dof ∨ info.qMax.length ≠ info.dof ∨
      info.dqMax.length ≠ info.dof then
    .error (valueError "HandInfo per-joint lengths differ from dof")
  if info.jointNames.any (· = "") ∨ info.jointNames.dedup.length ≠ info.dof then
    .error (valueError "HandInfo joint names are invalid")
  if !info.limits.all HandInfo.limitsValid then .error (valueError "HandInfo limits are invalid")

/-- How the accessors of a view yield the messages, or which of them raises. -/
structure HandCodec (View : Type) where
  decodeInfo : View → Except PyError HandInfo
  decodeState : View → Except PyError HandState
  decodeTouch : View → Except PyError HandTouch

/-- The arguments of the constructor that the modelled methods read. -/
structure HandConfig where
  View : Type
  codec : HandCodec View
  side : Side
  sessionId : ℤ
  readOnly : Bool
  pullFeedback : Bool
  hasCallback : Kind → Bool

/-- The arguments of `publish`. A sequence is none when `tuple` refuses it. -/
structure HandArgs where
  q : Option (List PyValue)
  dq : Option (Option (List PyValue)) := none
  cmdId : PyValue := .none
  inputState : Option HandState := none

/-- The local variables of `publish`. -/
structure HandScratch where
  args : HandArgs
  info : Option HandInfo := none
  positions : List PyValue := []
  speeds : List PyValue := []
  state : Option HandState
  joints : List HandJointCmd := []
  createdUs : ℤ := 0
  sendUs : ℤ := 0

namespace HandClient

variable (config : HandConfig)

def onSide (side : ℤ) : Except PyError Unit :=
  if side = config.side.wire then .ok () else .error (valueError "hand feedback side differs from topic")

/-- `_receive` up to its locked section. -/
def decode (kind : Kind) (view : config.View) : Except PyError (HandMessage kind) :=
  match kind with
  | .info => do
      let value ← config.codec.decodeInfo view
      onSide config value.side
      validateInfo (some value)
      return value
  | .state => do
      let value ← config.codec.decodeState view
      onSide config value.side
      return value
  | .touch => do
      let value ← config.codec.decodeTouch view
      onSide config value.side
      return value

def stateAgrees (info : HandInfo) (state : HandState) : Bool :=
  state.handType = info.handType && state.joints.length = info.dof

def touchAgrees (info : HandInfo) (touch : HandTouch) : Bool :=
  touch.handType = info.handType && touch.fingers.length = info.touchFingers &&
    touch.rawWords.length = info.touchFingers * info.touchWordsPerFinger

/-- The locked section of `_receive` compares the messages that would be cached together. -/
def agrees (latest : Latest HandMessage) : Except PyError Unit :=
  match latest .info with
  | none => .ok ()
  | some info => do
      if !(latest .state).all (stateAgrees info) then
        .error (valueError "HandState identity/joint count differs from Info")
      if !(latest .touch).all (touchAgrees info) then
        .error (valueError "HandTouch geometry differs from Info")

/-- `not math.isfinite(timeout) or timeout <= 0` -/
def refusesWait (request : WaitRequest) : Option PyError :=
  match pyIsfinite request.timeout with
  | .error error => some error
  | .ok finite =>
      if finite && (exact request.timeout).any (0 < ·) then none
      else some (valueError "timeout must be finite and positive")

def isAfter (kind : Kind) (message : HandMessage kind) (bound : ℤ) : Bool :=
  match kind with
  | .info => true
  | .state => bound < message.stateId
  | .touch => bound < message.stateId

def checkReadOnly (scratch : HandScratch) : Except PyError HandScratch :=
  if config.readOnly then .error ⟨.runtimeError, "read-only HandClient cannot publish"⟩ else .ok scratch

/-- One joint of a command has to be a finite number within the limits of Info. -/
def checkJoint (entry : (PyValue × PyValue) × FloatValue × FloatValue × FloatValue) : Except PyError Unit := do
  let refusal := valueError "hand command is nonfinite or outside info limits"
  let (position, speed) := entry.1
  if (position matches .bool _) || (speed matches .bool _) then .error refusal
  if !(← pyIsfinite position) then .error refusal
  if !(← pyIsfinite speed) then .error refusal
  if !within entry.2.1 entry.2.2.1 position || !within (.finite 0) entry.2.2.2 speed then .error refusal

/-- Info is validated again and the target is checked against it. -/
def checkTarget (scratch : HandScratch) : Except PyError HandScratch := do
  validateInfo scratch.info
  let some info := scratch.info | .error (valueError "valid HandInfo with nonzero dof is required")
  let some positions := scratch.args.q | .error ⟨.typeError, "object is not iterable"⟩
  let some speeds := scratch.args.dq.elim (some (List.replicate info.dof (.float (.finite 0)))) id
    | .error ⟨.typeError, "object is not iterable"⟩
  if positions.length ≠ info.dof ∨ speeds.length ≠ info.dof then
    .error (valueError "hand command length must equal info.dof")
  ((positions.zip speeds).zip info.limits).forM checkJoint
  return { scratch with positions := positions, speeds := speeds }

def checkState (scratch : HandScratch) : Except PyError HandScratch :=
  if scratch.state.all fun state =>
      state.side = config.side.wire && scratch.info.any (state.handType = ·.handType) then .ok scratch
  else .error (valueError "input state belongs to another hand")

/-- The joints of the command are built with `float`. -/
def buildJoints (scratch : HandScratch) : Except PyError HandScratch := do
  let joints ← (scratch.positions.zip scratch.speeds).mapM fun entry => do
    return HandJointCmd.mk (← pyFloat entry.1) (← pyFloat entry.2)
  return { scratch with joints := joints }

def checkStamps (scratch : HandScratch) : Except PyError HandScratch :=
  if 0 ≤ scratch.createdUs ∧ scratch.createdUs ≤ UINT64_MAX ∧ 0 ≤ scratch.sendUs ∧
      scratch.sendUs ≤ UINT64_MAX then .ok scratch
  else .error (valueError "VitaNow client timestamps must fit uint64")

/-- The statements of `publish` up to the next sequence number. -/
def preparing : List (Statement HandMessage HandScratch) :=
  [.plain .ensureOpen,
    .plain (.check (checkReadOnly config)),
    .get .info (fun _ => false) fun scratch info => { scratch with info := info },
    .plain (.check checkTarget),
    .get .state (fun scratch => scratch.args.inputState.isSome) fun scratch state =>
      { scratch with state := state },
    .plain (.check (checkState config))]

/-- The statements of `publish` between the sequence number and its storage. -/
def finishing : List (Plain HandScratch) :=
  [.clock fun scratch now => { scratch with createdUs := now / 1000 },
    .createPublisher,
    .check buildJoints,
    .clock fun scratch now => { scratch with sendUs := now / 1000 },
    .check checkStamps]

def command (scratch : HandScratch) (sequence : ℕ) (commandId : ℤ) : HandCmd where
  sessionId := config.sessionId
  sequence := sequence
  handType := scratch.info.elim 0 HandInfo.handType
  side := config.side.wire
  joints := scratch.joints
  cmdId := commandId
  inputStateId := scratch.state.elim 0 HandState.stateId
  inputStateTsRealUs := scratch.state.elim 0 HandState.tsStateRealUs
  tsClientCreatedUs := scratch.createdUs
  tsClientSendUs := scratch.sendUs

end HandClient

def kindName : Kind → String
  | .info => "info"
  | .state => "state"
  | .touch => "touch"

def handClient (config : HandConfig) : Client where
  View := config.View
  Message := HandMessage
  Args := HandArgs
  Scratch := HandScratch
  Command := HandCmd
  pullFeedback := config.pullFeedback
  rings := [.info, .state, .touch]
  hasCallback := config.hasCallback
  checksClosedFirst := false
  decode := HandClient.decode config
  agrees := HandClient.agrees
  refusesWait := HandClient.refusesWait
  isAfter := HandClient.isAfter
  closedError := ⟨.runtimeError, "HandClient is closed"⟩
  feedbackError := ⟨.runtimeError, "invalid hand feedback"⟩
  exhaustedError := ⟨.overflowError, "hand sequence exhausted; create a new client/session"⟩
  timeoutError kind := ⟨.timeoutError, "timed out waiting for hand " ++ kindName kind⟩
  start args := { args := args, state := args.inputState }
  cmdId := HandArgs.cmdId
  preparing := HandClient.preparing config
  finishing := HandClient.finishing
  late := []
  command := HandClient.command config
  sequenceOf := HandCmd.sequence
  cmdIdOf := HandCmd.cmdId
  sequenceOf_command _ _ _ := rfl
  cmdIdOf_command _ _ _ := rfl

end HumanoidSdk.EndEffector
