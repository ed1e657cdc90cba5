import HumanoidSdk.EndEffector.Hand

/-
This file translates validate_info, validate_target and publish_target of
python/locomotion_aorta/gripper.py with reserve_envelope of _gripper_lifecycle.py and the messages of
gripper_types.py. The numbers of the generated enumerations and the decoders of the wire are
parameters.
-/

namespace HumanoidSdk.EndEffector

/-- The numbers of `lowlevel.GripperType` and `lowlevel.GripperLimitSource`. -/
structure GripperNumbers where
  AGX : ℤ
  CONFIG : ℤ
  DEVICE_READBACK : ℤ
  PROTOCOL_DOCUMENT : ℤ

structure GripperInfo where
  gripperType : ℤ
  side : ℤ
  openingMinM : FloatValue
  openingMaxM : FloatValue
  maxOpeningRateMS : FloatValue
  holdTorqueNm : FloatValue
  openingMinSource : ℤ
  openingMaxSource : ℤ
  maxOpeningRateSource : ℤ
  torqueLimitNm : FloatValue
  torqueLimitSource : ℤ
  holdTorqueSource : ℤ
  deriving DecidableEq

structure GripperState where
  stateId : ℤ
  gripperType : ℤ
  side : ℤ
  tsStateRealUs : ℤ

structure GripperCmd where
  sessionId : ℤ
  sequence : ℕ
  gripperType : ℤ
  side : ℤ
  q : FloatValue
  dq : FloatValue
  torqueCmdNm : Option FloatValue
  cmdId : ℤ
  inputStateId : ℤ
  inputStateTsRealUs : ℤ
  tsClientCreatedUs : ℤ
  tsClientSendUs : ℤ

/-- A gripper has no touch topic. -/
@[reducible] def GripperMessage : Kind → Type
  | .info => GripperInfo
  | .state => GripperState
  | .touch => Empty

/-- A Python float is a double, an infinity or a NaN. -/
def IsDouble : FloatValue → Prop
  | .finite value => Native.binary64.round value = value
  | _ => True

/-- The limits of an Info are Python floats. -/
def GripperInfo.Doubles (info : GripperInfo) : Prop :=
  IsDouble info.openingMinM ∧ IsDouble info.openingMaxM ∧ IsDouble info.maxOpeningRateMS ∧
    IsDouble info.torqueLimitNm

/-- How the decoders of the wire yield the messages, or which of them raises. -/
structure GripperCodec (View : Type) where
  decodeInfo : View → Except PyError GripperInfo
  decodeState : View → Except PyError GripperState
  doubles : ∀ view info, decodeInfo view = .ok info → info.Doubles

structure GripperConfig where
  View : Type
  codec : GripperCodec View
  numbers : GripperNumbers
  side : Side
  sessionId : ℤ
  readOnly : Bool
  pullFeedback : Bool
  hasCallback : Kind → Bool

structure GripperArgs where
  q : PyValue
  dq : PyValue := .float (.finite 0)
  torqueCmdNm : PyValue := .none
  cmdId : PyValue := .none
  inputState : Option GripperState := none

/-- The local variables of `publish_target` and of `reserve_envelope` within it, whose Info and state
are its own. An Info is unread until its read yields an entry or None. -/
structure GripperScratch where
  args : GripperArgs
  info : Option (Option GripperInfo) := none
  state : Option GripperState
  envelopeInfo : Option (Option GripperInfo) := none
  envelopeState : Option GripperState := none
  createdUs : ℤ := 0
  sendUs : ℤ := 0
  q : FloatValue := .nan
  dq : FloatValue := .nan
  torqueCmdNm : Option FloatValue := none

/-- The function `_finite` of gripper.py. -/
def pyFinite (value : PyValue) : Except PyError Bool :=
  if value.isNumber then pyIsfinite value else .ok false

def absolute : FloatValue → FloatValue
  | .finite value => .finite |value|
  | .infinity _ => .infinity false
  | .nan => .nan

namespace GripperInfo

variable (numbers : GripperNumbers) (info : GripperInfo)

def sourcesKnown : Bool :=
  [info.openingMinSource, info.openingMaxSource, info.maxOpeningRateSource].all
    ([numbers.CONFIG, numbers.DEVICE_READBACK, numbers.PROTOCOL_DOCUMENT].contains ·)

def torqueSourcesConfigured : Bool :=
  info.torqueLimitSource = numbers.CONFIG && info.holdTorqueSource = numbers.CONFIG

def limitsFinite : Bool :=
  [info.openingMinM, info.openingMaxM, info.maxOpeningRateMS, info.holdTorqueNm,
    info.torqueLimitNm].all FloatValue.isFinite

def limitsOrdered : Bool :=
  info.openingMinM.le info.openingMaxM && FloatValue.le (.finite 0) info.maxOpeningRateMS &&
    FloatValue.le (.finite 0) info.torqueLimitNm && (absolute info.holdTorqueNm).le info.torqueLimitNm

end GripperInfo

namespace GripperClient

/-- `validate_info` of gripper.py. -/
def validateInfo (numbers : GripperNumbers) (info : Option GripperInfo) : Except PyError Unit := do
  let some info := info | .error (valueError "AGX GripperInfo is required")
  if info.gripperType ≠ numbers.AGX then .error (valueError "AGX GripperInfo is required")
  if !info.sourcesKnown numbers then
    .error (valueError "GripperInfo opening/speed limits have unknown sources")
  if !info.torqueSourcesConfigured numbers then
    .error (valueError "GripperInfo torque limits/default must come from CONFIG")
  if !info.limitsFinite then .error (valueError "GripperInfo limits must be finite")
  if !info.limitsOrdered then .error (valueError "GripperInfo limits are invalid")

/-- The comparison `abs(torque_cmd_nm) > limit` is false only for a torque within the limit. -/
def withinTorque (limit : FloatValue) (torque : PyValue) : Bool :=
  match exact torque with
  | some number => FloatValue.le (.finite |number|) limit
  | none => false

def validateTarget (numbers : GripperNumbers) (info : Option GripperInfo) (q dq torque : PyValue) :
    Except PyError Unit := do
  validateInfo numbers info
  let some info := info | .error (valueError "AGX GripperInfo is required")
  let refusal := valueError "gripper q/dq is nonfinite or outside Info limits"
  if !(← pyFinite q) then .error refusal
  if !(← pyFinite dq) then .error refusal
  if !within info.openingMinM info.openingMaxM q || !within (.finite 0) info.maxOpeningRateMS dq then
    .error refusal
  if torque ≠ .none then
    let refusal := valueError "torque_cmd_nm must be finite and within configured absolute limit"
    if !(← pyFinite torque) then .error refusal
    if !withinTorque info.torqueLimitNm torque then .error refusal

variable (config : GripperConfig)

def onSide (side : ℤ) : Except PyError Unit :=
  if side = config.side.wire then .ok () else .error (valueError "gripper feedback side differs from topic")

/-- `_receive` between its two locked sections. -/
def decode (kind : Kind) (view : config.View) : Except PyError (GripperMessage kind) :=
  match kind with
  | .info => do
      let value ← config.codec.decodeInfo view
      onSide config value.side
      return value
  | .state => do
      let value ← config.codec.decodeState view
      onSide config value.side
      return value
  | .touch => .error (valueError "touch")

def refusesWait (request : WaitRequest) : Option PyError :=
  if request.timeout matches .bool _ then some (valueError "timeout must be finite and positive")
  else match HandClient.refusesWait request with
    | some error => some error
    | none =>
        if request.afterStateId.all fun bound : ℤ => 0 ≤ bound ∧ bound ≤ UINT64_MAX then none
        else some (valueError "after_state_id must fit uint64")

def isAfter (kind : Kind) (message : GripperMessage kind) (bound : ℤ) : Bool :=
  match kind with
  | .info => true
  | .state => bound < message.stateId
  | .touch => true

def checkReadOnly (message : String) (scratch : GripperScratch) : Except PyError GripperScratch :=
  if config.readOnly then .error ⟨.runtimeError, message⟩ else .ok scratch

def checkTarget (scratch : GripperScratch) : Except PyError GripperScratch := do
  validateTarget config.numbers (scratch.info.getD none) scratch.args.q scratch.args.dq
    scratch.args.torqueCmdNm
  return scratch

def stateMatches (info : Option GripperInfo) (state : GripperState) : Bool :=
  state.side = config.side.wire && info.any (state.gripperType = ·.gripperType)

def checkState (scratch : GripperScratch) : Except PyError GripperScratch :=
  if scratch.state.all (stateMatches config (scratch.info.getD none)) then .ok scratch
  else .error (valueError "input state belongs to another gripper")

def checkCmdId (scratch : GripperScratch) : Except PyError GripperScratch :=
  match scratch.args.cmdId with
  | .none => .ok scratch
  | .int value =>
      if 0 ≤ value ∧ value ≤ 0xffff then .ok scratch else .error (valueError "cmd_id must be uint16")
  | _ => .error (valueError "cmd_id must be uint16")

/-- `reserve_envelope` needs an Info and receives the state of its caller. -/
def checkEnvelopeInfo (scratch : GripperScratch) : Except PyError GripperScratch :=
  if (scratch.envelopeInfo.getD none).isNone then
    .error (valueError "GripperInfo is required before preparing a command")
  else .ok { scratch with envelopeState := scratch.state }

def uint64 (value : ℤ) (name : String) : Except PyError Unit :=
  if 0 ≤ value ∧ value ≤ UINT64_MAX then .ok () else .error (valueError (name ++ " must fit uint64"))

def checkEnvelopeState (scratch : GripperScratch) : Except PyError GripperScratch := do
  match scratch.envelopeState with
  | none => return scratch
  | some state =>
      if !stateMatches config (scratch.envelopeInfo.getD none) state then
        .error (valueError "input state belongs to another gripper")
      uint64 state.stateId "input_state_id"
      uint64 state.tsStateRealUs "input_state_ts_real_us"
      return scratch

def checkCreated (scratch : GripperScratch) : Except PyError GripperScratch := do
  uint64 scratch.createdUs "ts_client_created_us"
  return scratch

def checkSend (scratch : GripperScratch) : Except PyError GripperScratch := do
  uint64 scratch.sendUs "ts_client_send_us"
  return scratch

/-- The fields of the command are built with `float` after the envelope has taken the sequence. -/
def buildFields (scratch : GripperScratch) : Except PyError GripperScratch := do
  let q ← pyFloat scratch.args.q
  let dq ← pyFloat scratch.args.dq
  match scratch.args.torqueCmdNm with
  | .none => return { scratch with q := q, dq := dq, torqueCmdNm := none }
  | torque => do
      let torque ← pyFloat torque
      return { scratch with q := q, dq := dq, torqueCmdNm := some torque }

/-- The statements of `publish_target` before it calls `reserve_envelope`. -/
def targetStatements : List (Statement GripperMessage GripperScratch) :=
  [.plain .ensureOpen,
    .plain (.check (checkReadOnly config "read-only GripperClient cannot publish")),
    .get .info (fun _ => false) fun scratch info => { scratch with info := some info },
    .plain (.check (checkTarget config)),
    .get .state (fun scratch => scratch.args.inputState.isSome) fun scratch state =>
      { scratch with state := state },
    .plain (.check (checkState config)),
    .plain (.check checkCmdId),
    .plain .createPublisher]

/-- The statements of `reserve_envelope` up to the next sequence number. The lock is held already. -/
def envelopeStatements : List (Statement GripperMessage GripperScratch) :=
  [.plain .ensureOpen,
    .plain (.check (checkReadOnly config "read-only GripperClient cannot prepare commands")),
    .get .info (fun _ => false) fun scratch info => { scratch with envelopeInfo := some info },
    .plain (.check checkEnvelopeInfo),
    .get .state (fun scratch => scratch.state.isSome) fun scratch state =>
      { scratch with envelopeState := state },
    .plain (.check (checkEnvelopeState config))]

/-- The statements of `reserve_envelope` between the sequence number and its storage. -/
def finishing : List (Plain GripperScratch) :=
  [.clock fun scratch now => { scratch with createdUs := now / 1000 },
    .check checkCreated,
    .clock fun scratch now => { scratch with sendUs := now / 1000 },
    .check checkSend]

def command (scratch : GripperScratch) (sequence : ℕ) (commandId : ℤ) : GripperCmd where
  sessionId := config.sessionId
  sequence := sequence
  gripperType := (scratch.envelopeInfo.getD none).elim 0 GripperInfo.gripperType
  side := config.side.wire
  q := scratch.q
  dq := scratch.dq
  torqueCmdNm := scratch.torqueCmdNm
  cmdId := commandId
  inputStateId := scratch.envelopeState.elim 0 GripperState.stateId
  inputStateTsRealUs := scratch.envelopeState.elim 0 GripperState.tsStateRealUs
  tsClientCreatedUs := scratch.createdUs
  tsClientSendUs := scratch.sendUs

end GripperClient

def gripperClient (config : GripperConfig) : Client where
  View := config.View
  Message := GripperMessage
  Args := GripperArgs
  Scratch := GripperScratch
  Command := GripperCmd
  pullFeedback := config.pullFeedback
  rings := [.info, .state]
  hasCallback := config.hasCallback
  checksClosedFirst := true
  decode := GripperClient.decode config
  agrees _ := .ok ()
  refusesWait := GripperClient.refusesWait
  isAfter := GripperClient.isAfter
  closedError := ⟨.runtimeError, "GripperClient is closed"⟩
  feedbackError := ⟨.runtimeError, "invalid gripper feedback"⟩
  exhaustedError := ⟨.overflowError, "gripper sequence exhausted; create a new client/session"⟩
  timeoutError kind := ⟨.timeoutError, "timed out waiting for gripper " ++ kindName kind⟩
  start args := { args := args, state := args.inputState }
  cmdId := GripperArgs.cmdId
  preparing := GripperClient.targetStatements config ++ GripperClient.envelopeStatements config
  finishing := GripperClient.finishing
  late := [.check GripperClient.buildFields]
  command := GripperClient.command config
  sequenceOf := GripperCmd.sequence
  cmdIdOf := GripperCmd.cmdId
  sequenceOf_command _ _ _ := rfl
  cmdIdOf_command _ _ _ := rfl

end HumanoidSdk.EndEffector
