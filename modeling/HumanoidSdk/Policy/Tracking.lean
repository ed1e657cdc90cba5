import HumanoidSdk.Foundation.Window
import HumanoidSdk.Policy.Feedback
import HumanoidSdk.Policy.Roster

/-
This file translates WbcTrackingPolicy of python/locomotion_aorta/wbc_tracking_policy.py. The arrays
of actions live in a memory, since the policy overwrites one of them in place.
-/

namespace HumanoidSdk.Policy
open Arithmetic Foundation

variable {S D : Type} [Arithmetic S D]

/-- A dictionary holds every key once. -/
structure Dict (Value : Type) where
  entries : List (String × Value)
  unique : (entries.map Prod.fst).Nodup

structure FixedJoint (D : Type) where
  q : D
  kp : D
  kd : D

/-- A profile with all its keys. -/
structure Profile (D : Type) where
  bodyJointOrder : List String
  schemaVersion : Option ℤ
  commandSlots : Option ℤ
  stateSlots : Option ℤ
  jointLimits : Dict (List D)
  fixedJoints : Dict (FixedJoint D)
  fallTiltThresholdRad : D
  ankleClampFeedforward : Bool

/-- The names of the fixed joints in the order of the profile. -/
def Profile.fixedNames (profile : Profile D) : List String := profile.fixedJoints.entries.map Prod.fst

/-- The five terms of one frame. The actions are the address of an array. -/
structure Terms (S : Type) where
  gyro : Vector S 3
  jointPos : Vector S 28
  jointVel : Vector S 28
  actions : ℕ
  gravity : Vector S 3

structure WbcTrackingPolicy (S D : Type) where
  contract : Contract D
  names : List String
  profile : Profile D
  order : List String
  mapping : List ℕ
  lower : Vector D 28
  upper : Vector D 28
  ankles : List ℕ
  history : List (Terms S)
  lastAction : ℕ
  memory : List (Vector S 28)

/-- `np.zeros` in single precision. -/
def zeros (D : Type) [Arithmetic S D] : Vector S 28 := Vector.replicate 28 (narrow (literal 0 : D))

def textOf : Json D → Except Raised String
  | .str text => .ok text
  | _ => .error .typeError

/-- The limits of a joint are a pair. -/
def limitsOf (profile : Profile D) (name : String) : Except Raised (List D) :=
  match profile.jointLimits.entries.lookup name with
  | some limits => .ok limits
  | none => .error (.keyError name)

def checkFixed (profile : Profile D) : Except Raised Unit :=
  profile.fixedJoints.entries.forM fun entry =>
    if entry.1 ∉ profile.bodyJointOrder ∨
        !([entry.2.q, entry.2.kp, entry.2.kd].all isFinite) ∨ lt entry.2.kp (literal 0) ∨
        lt entry.2.kd (literal 0) then .error (.valueError "invalid fixed joint")
    else .ok ()

/-- The double next to the number pi. -/
def PI : D := literal (884279719003555 / 281474976710656)

/-- The test `'ankle_' in name`. -/
def isAnkle (name : String) : Bool := "ankle_".toList <:+: name.toList

/-- A name of the contract that is no text fails here, where the source fails at its first use as a
text at the latest. -/
def WbcTrackingPolicy.new (contract : Contract D) (profile : Profile D) :
    Except Raised (WbcTrackingPolicy S D) := do
  let names ← contract.names.mapM textOf
  let order := profile.bodyJointOrder
  if profile.schemaVersion ≠ some 1 ∨ profile.commandSlots ≠ some 31 ∨ profile.stateSlots ≠ some 31 ∨
      order.length ≠ 31 ∨ ¬order.Nodup then
    .error (.valueError "expected the explicit 31-command/31-state A-sample profile")
  let mapping ← names.mapM (indexOf order)
  let limits ← names.mapM (limitsOf profile)
  if !(limits.flatten.all isFinite) then .error (.valueError "profile limits contains NaN or infinity")
  match sized 28 (limits.filterMap (sized 2)) with
  | none => .error (.valueError "profile limits must contain one pair per policy joint")
  | some limits => do
      let lower := Vector.zipWith maximum contract.lower (limits.map (·[0]))
      let upper := Vector.zipWith minimum contract.upper (limits.map (·[1]))
      if anyPair (fun low high => le high low) lower upper || anyPair lt contract.default lower ||
          anyPair (fun value high => lt high value) contract.default upper then
        .error (.valueError "ONNX and hardware limits have an invalid intersection")
      if profile.fixedNames.any (· ∈ names) then
        .error (.valueError "fixed joints must not overlap policy joints")
      checkFixed profile
      if !(isFinite profile.fallTiltThresholdRad) || !(lt (literal 0) profile.fallTiltThresholdRad) ||
          !(lt profile.fallTiltThresholdRad PI) then
        .error (.valueError "invalid body tilt limit")
      let ankles := (names.zipIdx.filter fun entry => isAnkle entry.1).map Prod.snd
      if ankles.length ≠ 4 then .error (.valueError "expected four virtual ankle joints")
      return ⟨contract, names, profile, order, mapping, lower, upper, ankles, [], 0, [zeros D]⟩

namespace WbcTrackingPolicy

variable (policy : WbcTrackingPolicy S D)

def bindBodyInfo (info : RosterInfo) : Except Raised (WbcTrackingPolicy S D) := do
  let order ← bodyJointOrder (some info) (policy.names ++ policy.profile.fixedNames)
  let mapping ← policy.names.mapM (indexOf order)
  return { policy with order, mapping }

def state (feedback : BodyFeedback S D) : Except Raised (Measured D) :=
  measure policy.mapping policy.profile.fallTiltThresholdRad feedback

/-- The last action is cleared in place. -/
def reset : WbcTrackingPolicy S D :=
  { policy with history := [], memory := policy.memory.set policy.lastAction (zeros D) }

/-- The array at an address. -/
def arrayAt (D : Type) [Arithmetic S D] (memory : List (Vector S 28)) (address : ℕ) : Vector S 28 :=
  memory.getD address (zeros D)

/-- The five arrays of one frame with the actions in place of their address. -/
structure Values (S : Type) where
  gyro : Vector S 3
  jointPos : Vector S 28
  jointVel : Vector S 28
  actions : Vector S 28
  gravity : Vector S 3

/-- The values of one term by its number. -/
def Values.term (values : Values S) : ℕ → List S
  | 0 => values.gyro.toList
  | 1 => values.jointPos.toList
  | 2 => values.jointVel.toList
  | 3 => values.actions.toList
  | _ => values.gravity.toList

/-- The arguments of a call of `observe`. -/
structure ObserveArgs (D : Type) where
  motion : Motion D
  refTime : D
  q : NdArray D
  dq : NdArray D
  quat : NdArray D
  gyro : NdArray D
  yawOffset : D

/-- The arguments after the checks at the start of `observe`. -/
structure Checked (D : Type) where
  q : Vector D 28
  dq : Vector D 28
  quat : Vector D 4
  gyro : Vector D 3

def check (args : ObserveArgs D) : Except Raised (Checked D) := do
  let q ← finite args.q "q"
  let dq ← finite args.dq "dq"
  let gyro ← finite args.gyro "gyro"
  match vectorOf 28 q, vectorOf 28 dq, vectorOf 3 gyro with
  | some q, some dq, some gyro => do return ⟨q, dq, ← quaternion args.quat, gyro⟩
  | _, _, _ => .error (.valueError "observation state dimensions disagree")

/-- The first two columns of the rotation from the body to a reference frame. -/
def orientation (motion : Motion D) (quat offset : Vector D 4) (index : ℕ) : Except Raised (Vector D 6) := do
  let reference ← element motion.quat index
  let r ← rotation (multiply (conjugate quat) (multiply offset reference))
  return #v[partX (partX r), partY (partX r), partX (partY r), partY (partY r), partX (partZ r), partY (partZ r)]

/-- The heights are a part only of some contracts. -/
def heightsOf (contract : Contract D) (motion : Motion D) (indices : List ℕ) : Except Raised (List D) :=
  if contract.includeZ then indices.mapM fun index => do return partZ (← element motion.base index)
  else .ok []

/-- The parts of an observation that look ahead along the motion. -/
def future (contract : Contract D) (args : ObserveArgs D) (quat : Vector D 4) : Except Raised (List D) := do
  let motion := args.motion
  let indices ← motion.indices args.refTime contract.futureFrames contract.futureDt
  let positions ← indices.mapM (element motion.q)
  let velocities ← motion.velocities indices
  let heights ← heightsOf contract motion indices
  let offset ← yawQuaternion args.yawOffset
  let orientations ← indices.mapM (orientation motion quat offset)
  return positions.flatMap Vector.toList ++ velocities.flatMap Vector.toList ++ heights ++
    orientations.flatMap Vector.toList

/-- The terms of one frame with the actions that they copy. -/
def values (contract : Contract D) (actions : Vector S 28) (checked : Checked D) :
    Except Raised (Values S) := do
  let gravity ← gravityOf checked.quat
  return ⟨checked.gyro.map narrow, (Vector.zipWith sub checked.q contract.default).map narrow,
    checked.dq.map narrow, actions, gravity.map narrow⟩

/-- Everything that a call computes before it touches the history. -/
def prepare (contract : Contract D) (actions : Vector S 28) (args : ObserveArgs D) :
    Except Raised (List D × Values S) := do
  let checked ← check args
  let parts ← future contract args checked.quat
  return (parts, ← values contract actions checked)

/-- The copy of the actions gets a new address, and the first frame fills the whole history. -/
def remember (values : Values S) : WbcTrackingPolicy S D :=
  let terms : Terms S := ⟨values.gyro, values.jointPos, values.jointVel, policy.memory.length, values.gravity⟩
  { policy with
    history := fill policy.contract.historyLength policy.history terms
    memory := policy.memory ++ [values.actions] }

/-- The arrays of a remembered frame. -/
def valuesOf (D : Type) [Arithmetic S D] (memory : List (Vector S 28)) (terms : Terms S) : Values S :=
  ⟨terms.gyro, terms.jointPos, terms.jointVel, arrayAt D memory terms.actions, terms.gravity⟩

/-- Each term of the whole history becomes one block. -/
def blocks : List S :=
  (List.range 5).flatMap fun k => policy.history.flatMap fun terms =>
    (valuesOf D policy.memory terms).term k

/-- The observation is concatenated in double and converted to single precision. -/
def assemble (parts : List D) : Except Raised (List S) :=
  let obs := (parts ++ policy.blocks.map widen).map narrow
  if obs.length ≠ policy.contract.inputDim ∨ !(obs.all fun value => isFinite (widen value : D)) then
    .error (.valueError "constructed observation is invalid")
  else .ok obs

/-- A call that raises before the history changes leaves the policy as it was. -/
def observe (args : ObserveArgs D) : Except Raised (List S) × WbcTrackingPolicy S D :=
  match prepare policy.contract (arrayAt D policy.memory policy.lastAction) args with
  | .error raised => (.error raised, policy)
  | .ok (parts, values) => ((policy.remember values).assemble parts, policy.remember values)

/-- The action of a model output within the clip of the contract. -/
def clipped (contract : Contract D) (rawAction : NdArray D) : Except Raised (Vector S 28) := do
  let action ← finite rawAction "model action"
  match vectorOf 28 action with
  | none => .error (.valueError "model output must have 28 actions")
  | some action =>
      .ok (action.map fun value => narrow (clip value (neg contract.actionClip) contract.actionClip))

end WbcTrackingPolicy

/-- A joint command in the numbers of the policy. -/
structure JointCmd (D : Type) where
  q : D
  dq : D
  tau : D
  kp : D
  kd : D

/-- A command without arguments. -/
def JointCmd.zero : JointCmd D := ⟨literal 0, literal 0, literal 0, literal 0, literal 0⟩

/-- The command and the record of a decoded action. The timing passes through. -/
structure Decoded (S D Timing : Type) where
  joints : List (JointCmd D)
  timing : Timing
  action : Vector S 28
  rawTarget : Vector D 28
  target : Vector D 28
  tauFf : Vector D 28

namespace WbcTrackingPolicy

variable (policy : WbcTrackingPolicy S D)

/-- The new action is a new array. -/
def act (action : Vector S 28) : WbcTrackingPolicy S D :=
  { policy with memory := policy.memory ++ [action], lastAction := policy.memory.length }

def rawTarget (action : Vector S 28) : Vector D 28 :=
  Vector.zipWith add policy.contract.default (Vector.zipWith mul policy.contract.scale (action.map widen))

def target (action : Vector S 28) : Vector D 28 :=
  Vector.ofFn fun p => clip (policy.rawTarget action)[p] policy.lower[p] policy.upper[p]

/-- Clamped ankles are held by a feedforward torque. -/
def tauFf (action : Vector S 28) : Vector D 28 :=
  Vector.ofFn fun p =>
    if policy.profile.ankleClampFeedforward && policy.ankles.contains p.val then
      mul policy.contract.kp[p] (sub (policy.rawTarget action)[p] (policy.target action)[p])
    else literal 0

/-- The command of one policy joint. -/
def jointCmd (action : Vector S 28) (p : Fin 28) : JointCmd D where
  q := widen (narrow (policy.target action)[p])
  dq := literal 0
  tau := widen (narrow (policy.tauFf action)[p])
  kp := widen (narrow policy.contract.kp[p])
  kd := widen (narrow policy.contract.kd[p])

def fixedCmd (fixed : FixedJoint D) : JointCmd D where
  q := fixed.q
  dq := literal 0
  tau := literal 0
  kp := fixed.kp
  kd := fixed.kd

/-- The assignments to slots in their order, first the policy joints and then the fixed joints. -/
def assignments (action : Vector S 28) : Except Raised (List (ℕ × JointCmd D)) := do
  let fixed ← policy.profile.fixedJoints.entries.mapM fun entry => do
    return (← indexOf policy.order entry.1, fixedCmd entry.2)
  return policy.mapping.zip ((List.finRange 28).map (policy.jointCmd action)) ++ fixed

/-- An assignment to a slot beyond the end raises. -/
def assign (motors : List (JointCmd D)) (assignment : ℕ × JointCmd D) : Except Raised (List (JointCmd D)) :=
  if assignment.1 < motors.length then .ok (motors.set assignment.1 assignment.2) else .error .indexError

def command {Timing : Type} (action : Vector S 28) (timing : Timing) : Except Raised (Decoded S D Timing) := do
  let motors ← (← policy.assignments action).foldlM assign (List.replicate 31 .zero)
  return ⟨motors, timing, action, policy.rawTarget action, policy.target action, policy.tauFf action⟩

/-- The action is remembered before the command is built. -/
def decode {Timing : Type} (rawAction : NdArray D) (timing : Timing) :
    Except Raised (Decoded S D Timing) × WbcTrackingPolicy S D :=
  match clipped policy.contract rawAction with
  | .error raised => (.error raised, policy)
  | .ok action => ((policy.act action).command action timing, policy.act action)

end WbcTrackingPolicy

end HumanoidSdk.Policy
