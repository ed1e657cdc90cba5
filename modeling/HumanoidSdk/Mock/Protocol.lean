import HumanoidSdk.Value.Float

/-
This file translates the mock robot of tools/production_topic_mock/protocol.h and protocol.cpp.
-/

namespace HumanoidSdk.Mock

/-- The body has this many command slots. -/
def kSlots : Nat := 31

/-- The source names the largest uint64 value through `numeric_limits`. -/
def maxUint64 : UInt64 := 18446744073709551615

structure JointLimits where
  qMin : FloatValue
  qMax : FloatValue
  dqMin : FloatValue
  dqMax : FloatValue
  tauMin : FloatValue
  tauMax : FloatValue
  kpMin : FloatValue
  kpMax : FloatValue
  kdMin : FloatValue
  kdMax : FloatValue

/-- RobotInfo and command admission share these synthetic limits. -/
def kJointLimits : JointLimits where
  qMin := .finite (-10)
  qMax := .finite 10
  dqMin := .finite (-50)
  dqMax := .finite 50
  tauMin := .finite (-100)
  tauMax := .finite 100
  kpMin := .finite 0
  kpMax := .finite 600
  kdMin := .finite 0
  kdMax := .finite 60

/-- A decoded control request keeps the operation as the wire integer. -/
structure Request where
  version : UInt32 := 0
  operation : Int := 0
  requestId : String := ""
  clientId : String := ""
  leaseId : String := ""
  action : String := ""
  deriving DecidableEq

structure Ack where
  requestId : String := ""
  leaseId : String := ""
  reason : String := ""
  operation : Int := 0
  error : Int := 0
  accepted : Bool := false
  deriving DecidableEq

structure Status where
  statusSeq : UInt64 := 1
  generation : UInt64 := 0
  acceptedSequence : UInt64 := 0
  rejectCount : UInt64 := 0
  lastValidNs : UInt64 := 0
  phase : Nat := 0
  rejectCode : Int := 0
  requestId : String := ""
  clientId : String := ""
  leaseId : String := ""
  deriving DecidableEq

/-- A decoded body command holds one float per slot and field. -/
structure Command where
  session : UInt64 := 0
  sequence : UInt64 := 0
  inputStateId : UInt64 := 0
  inputStateRealUs : UInt64 := 0
  clientCreatedUs : UInt64 := 0
  clientSendUs : UInt64 := 0
  q : Fin kSlots → FloatValue := fun _ => .finite 0
  dq : Fin kSlots → FloatValue := fun _ => .finite 0
  tau : Fin kSlots → FloatValue := fun _ => .finite 0
  kp : Fin kSlots → FloatValue := fun _ => .finite 0
  kd : Fin kSlots → FloatValue := fun _ => .finite 0

structure Output where
  session : UInt64 := 0
  sequence : UInt64 := 0
  firstOutputUs : UInt64 := 0
  q : Fin kSlots → FloatValue := fun _ => .finite 0

/-- The members of the source class appear in their declaration order. -/
structure Protocol where
  status : Status := {}
  output : Output := {}
  pending : Command := {}
  hasPending : Bool := false
  generation : UInt64
  commandTimeoutNs : UInt64
  prepareTimeoutNs : UInt64
  preparedNs : UInt64 := 0
  overwritten : UInt64 := 0
  rejectOperation : Int

/-- The constructor refuses a zero seed and zero timeouts. -/
def Protocol.create (seed streamTimeout prepareTimeout : UInt64) (rejectOperation : Int) :
    Option Protocol :=
  if seed = 0 ∨ streamTimeout = 0 ∨ prepareTimeout = 0 then none
  else some {
    generation := seed
    commandTimeoutNs := streamTimeout
    prepareTimeoutNs := prepareTimeout
    rejectOperation := rejectOperation }

/-- A lease name carries the number that the counter has just reached. -/
def leaseName (number : UInt64) : String := "mock-lease-" ++ toString number

namespace Protocol

def reply (p : Protocol) (r : Request) (error : Int) (reason : String) : Ack where
  requestId := r.requestId
  leaseId := if error ≠ 0 then "" else p.status.leaseId
  reason := reason
  operation := r.operation
  error := error
  accepted := error = 0

/-- The last positions stay, while the evidence of a current command goes. -/
def invalidateApplied (p : Protocol) : Protocol :=
  { p with output := { p.output with session := 0, sequence := 0, firstOutputUs := 0 } }

def clear (p : Protocol) : Protocol :=
  invalidateApplied { p with
    status := { statusSeq := p.status.statusSeq + 1, rejectCount := p.status.rejectCount }
    hasPending := false
    preparedNs := 0 }

/-- The second branch of the watchdog enters TIMEOUT_HOLD. -/
def hold (p : Protocol) : Protocol :=
  invalidateApplied { p with
    status := { p.status with phase := 5, statusSeq := p.status.statusSeq + 1 }
    hasPending := false }

/-- Both subtractions wrap as the unsigned C++ subtraction does. -/
def watchdog (p : Protocol) (now : UInt64) : Protocol :=
  let p := if p.status.phase = 2 ∧ now - p.preparedNs ≥ p.prepareTimeoutNs then p.clear else p
  if p.status.phase = 4 ∧ now - p.status.lastValidNs ≥ p.commandTimeoutNs then p.hold else p

/-- An accepted PREPARE takes the next number for its lease. -/
def arm (p : Protocol) (r : Request) (now : UInt64) : Protocol :=
  { p with
    generation := p.generation + 1
    status := { p.status with
      requestId := r.requestId
      clientId := r.clientId
      leaseId := leaseName (p.generation + 1)
      phase := 2
      statusSeq := p.status.statusSeq + 1 }
    preparedNs := now }

/-- An accepted COMMIT takes the next number for its generation. -/
def start (p : Protocol) (now : UInt64) : Protocol :=
  { p with
    generation := p.generation + 1
    status := { p.status with
      generation := p.generation + 1
      phase := 4
      lastValidNs := now
      statusSeq := p.status.statusSeq + 1 } }

/-- The checks after `Watchdog(now)` keep the order of the source. -/
def answer (p : Protocol) (r : Request) (now : UInt64) : Ack × Protocol :=
  if r.version ≠ 2 then (p.reply r 1001 "unsupported request version", p)
  else if r.requestId = "" ∨ r.clientId = "" ∨ r.requestId.utf8ByteSize > 256 ∨
      r.clientId.utf8ByteSize > 256 ∨ r.operation < 1 ∨ r.operation > 3 then
    (p.reply r 1002 "invalid request identity/operation", p)
  else if r.action ≠ "EXTERNAL" then (p.reply r 1003 "only EXTERNAL is simulated", p)
  else if r.operation = p.rejectOperation then (p.reply r 1003 "scripted rejection", p)
  else if r.operation = 1 then
    if p.status.clientId ≠ "" then
      if r.clientId ≠ p.status.clientId then (p.reply r 1008 "mock busy", p)
      else if r.requestId ≠ p.status.requestId then (p.reply r 1004 "request conflict", p)
      else (p.reply r 0 "idempotent PREPARE", p)
    else if p.generation = maxUint64 then (p.reply r 1009 "generation exhausted", p)
    else ((p.arm r now).reply r 0 "armed; no automatic running lease expiry", p.arm r now)
  else if r.operation = 3 ∧ p.status.clientId = "" then (p.reply r 0 "already idle", p)
  else if p.status.clientId ≠ r.clientId then (p.reply r 1005 "identity mismatch", p)
  else if p.status.requestId ≠ r.requestId then (p.reply r 1004 "request conflict", p)
  else if r.leaseId ≠ p.status.leaseId then (p.reply r 1006 "lease mismatch", p)
  else if r.operation = 3 then (p.reply r 0 "cancelled to PASSIVE", p.clear)
  else if p.status.phase = 4 ∨ p.status.phase = 5 then (p.reply r 0 "idempotent COMMIT", p)
  else if p.status.phase ≠ 2 then (p.reply r 1007 "not armed", p)
  else if p.generation = maxUint64 then (p.reply r 1009 "generation exhausted", p)
  else ((p.start now).reply r 0 "EXTERNAL RUNNING", p.start now)

def requestControl (p : Protocol) (r : Request) (now : UInt64) : Ack × Protocol :=
  (p.watchdog now).answer r now

/-- One slot passes when its five fields are finite and inside the shared limits. -/
def slotValid (cmd : Command) (slot : Fin kSlots) : Bool :=
  (cmd.q slot).isFinite && (cmd.dq slot).isFinite && (cmd.tau slot).isFinite &&
    (cmd.kp slot).isFinite && (cmd.kd slot).isFinite &&
    kJointLimits.qMin.le (cmd.q slot) && (cmd.q slot).le kJointLimits.qMax &&
    kJointLimits.dqMin.le (cmd.dq slot) && (cmd.dq slot).le kJointLimits.dqMax &&
    kJointLimits.tauMin.le (cmd.tau slot) && (cmd.tau slot).le kJointLimits.tauMax &&
    kJointLimits.kpMin.le (cmd.kp slot) && (cmd.kp slot).le kJointLimits.kpMax &&
    kJointLimits.kdMin.le (cmd.kd slot) && (cmd.kd slot).le kJointLimits.kdMax

/-- Slot 14 is not installed and is never checked. -/
def valid (p : Protocol) (cmd : Command) : Bool :=
  (p.status.phase = 4 || p.status.phase = 5) && cmd.session = p.status.generation &&
    cmd.sequence > p.status.acceptedSequence && cmd.sequence ≠ 0 && cmd.inputStateRealUs ≠ 0 &&
    (List.finRange kSlots).all fun slot => slot.val = 14 || slotValid cmd slot

def refuse (p : Protocol) : Protocol :=
  { p with status := { p.status with
      rejectCount := p.status.rejectCount + 1
      rejectCode := 1
      statusSeq := p.status.statusSeq + 1 } }

def store (p : Protocol) (cmd : Command) (now : UInt64) : Protocol :=
  { p with
    overwritten := if p.hasPending then p.overwritten + 1 else p.overwritten
    pending := cmd
    hasPending := true
    status := { p.status with
      acceptedSequence := cmd.sequence
      lastValidNs := now
      phase := 4
      rejectCode := 0
      statusSeq := p.status.statusSeq + 1 } }

def accept (p : Protocol) (cmd : Command) (now : UInt64) : Bool × Protocol :=
  let p := p.watchdog now
  if p.valid cmd then (true, p.store cmd now) else (false, p.refuse)

def apply (p : Protocol) (wallUs : UInt64) : Protocol :=
  { p with
    output := { session := p.pending.session, sequence := p.pending.sequence,
                q := p.pending.q, firstOutputUs := wallUs }
    hasPending := false }

def tick (p : Protocol) (now wallUs : UInt64) : Bool × Protocol :=
  let p := p.watchdog now
  if p.hasPending = false ∨ p.status.phase ≠ 4 then (false, p) else (true, p.apply wallUs)

end Protocol

end HumanoidSdk.Mock
