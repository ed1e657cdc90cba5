import HumanoidSdk.Message.Body

namespace HumanoidSdk.Controller

/-- The exception classes of controller.py, the built-in ones it lets through, and whatever
`transport.publish` raises. -/
inductive ErrorKind where
  | externalControl
  | externalControlTimeout
  | controlRejected
  | invalidCommand
  | notRunning
  | controllerClosed
  | valueError
  | overflowError
  | transport
  deriving DecidableEq

structure PyError where
  kind : ErrorKind
  message : String
  deriving DecidableEq

def MAX_UINT64 : ℤ := 2 ^ 64 - 1

/-- The three integer fields must be uint64 values. -/
def validateIndex (name : String) (value : PyValue) : Except PyError Unit :=
  match value.asIndex with
  | none => .error ⟨.invalidCommand, name ++ " must be a uint64"⟩
  | some number =>
      if 0 ≤ number ∧ number < 2 ^ 64 then .ok ()
      else .error ⟨.invalidCommand, name ++ " must be a uint64"⟩

/-- An `int` beyond the doubles makes `math.isfinite` raise instead of answering. -/
def validateField (index : Nat) (field : String × PyValue) : Except PyError Unit :=
  let place := "joints[" ++ toString index ++ "]." ++ field.1
  if !field.2.isNumber then .error ⟨.invalidCommand, place ++ " must be numeric"⟩
  else match field.2.isfinite with
    | .error message => .error ⟨.overflowError, message⟩
    | .ok true => .ok ()
    | .ok false => .error ⟨.invalidCommand, place ++ " must be finite"⟩

/-- A slot that discovery reports as unpopulated is skipped after its type check. -/
def validateJoint (populated : Option (List Bool)) (index : Nat) (motor : Option BodyJointCmd) :
    Except PyError Unit :=
  match motor with
  | none => .error ⟨.invalidCommand, "joints[" ++ toString index ++ "] must be a BodyJointCmd"⟩
  | some motor =>
      if (populated.map fun mask => mask.getD index true) = some false then .ok ()
      else [("q", motor.q), ("dq", motor.dq), ("tau", motor.tau), ("kp", motor.kp),
        ("kd", motor.kd)].forM (validateField index)

/-- The argument is none when the caller passed something that is no `BodyCmd`. -/
def validateCommand (command : Option BodyCmd) (populated : Option (List Bool)) :
    Except PyError BodyCmd := do
  let some command := command | .error ⟨.invalidCommand, "command must be a BodyCmd"⟩
  let some joints := command.joints | .error ⟨.invalidCommand, "joints must be a 31-slot tuple"⟩
  if joints.length ≠ BODY_SLOTS then .error ⟨.invalidCommand, "joints must be a 31-slot tuple"⟩
  if !command.action.equalsInt EXTERNAL_ACTION then
    .error ⟨.invalidCommand, "ExternalController requires EXTERNAL action"⟩
  validateIndex "input_state_id" command.inputStateId
  validateIndex "input_state_ts_real_us" command.inputStateTsRealUs
  -- publish fills unset creation times
  validateIndex "ts_client_created_us" (command.tsClientCreatedUs.orElse (.int 0))
  joints.zipIdx.forM fun entry => validateJoint populated entry.2 entry.1
  return command

/-- `_deadline` refuses every timeout that is no finite positive number. -/
def deadlineError (timeout : PyValue) : Option PyError :=
  if !timeout.isNumber then some ⟨.valueError, "timeout must be a finite positive number"⟩
  else match timeout.isfinite with
    | .error message => some ⟨.overflowError, message⟩
    | .ok finite =>
        if !finite || !timeout.isPositive then
          some ⟨.valueError, "timeout must be a finite positive number"⟩
        else none

end HumanoidSdk.Controller
