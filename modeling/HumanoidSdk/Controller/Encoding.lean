import HumanoidSdk.Controller.Handshake
import HumanoidSdk.Message.Encoder

namespace HumanoidSdk.Controller
open Foundation Native

/-- What is wrong with one field or slot: it is no finite number or it is an `int` beyond the doubles. -/
inductive Fault where
  | malformed
  | oversized
  deriving DecidableEq

/-- An oversized `int` raises the exception of `math.isfinite`. -/
def Fault.kind : Fault → ErrorKind
  | .malformed => .invalidCommand
  | .oversized => .overflowError

def fieldFaults : PyValue → List Fault
  | .int value => if PyValue.doubleOverflows value then [.oversized] else []
  | .float value => if value.isFinite then [] else [.malformed]
  | _ => [.malformed]

def fields (motor : BodyJointCmd) : List PyValue := [motor.q, motor.dq, motor.tau, motor.kp, motor.kd]

/-- A slot without a joint is always a fault, the fields count only in a populated slot. -/
def slotFaults (populated : Option (List Bool)) (slot : Option BodyJointCmd × ℕ) : List Fault :=
  match slot.1 with
  | none => [.malformed]
  | some motor =>
      if (populated.map fun mask => mask.getD slot.2 true) = some false then []
      else (fields motor).flatMap fieldFaults

/-- The faults of a command in the order of its slots and fields. -/
def faults (populated : Option (List Bool)) (joints : List (Option BodyJointCmd)) : List Fault :=
  joints.zipIdx.flatMap (slotFaults populated)

def IsUint64 (value : PyValue) : Prop := ∃ number, value.asIndex = some number ∧ 0 ≤ number ∧ number < 2 ^ 64

/-- The parts of a command outside of its joint fields are as they have to be. -/
structure Framed (command : BodyCmd) (joints : List (Option BodyJointCmd)) : Prop where
  tuple : command.joints = some joints
  slots : joints.length = BODY_SLOTS
  action : command.action.equalsInt EXTERNAL_ACTION = true
  inputStateId : IsUint64 command.inputStateId
  inputStateTsRealUs : IsUint64 command.inputStateTsRealUs
  tsClientCreatedUs : IsUint64 (command.tsClientCreatedUs.orElse (.int 0))

/-- A check answers for a list of faults when it raises for the first of them. -/
def AnswersFor (checked : Except PyError Unit) (faults : List Fault) : Prop :=
  match checked with
  | .ok _ => faults = []
  | .error error => faults.head?.map Fault.kind = some error.kind

/-- Checks in a row answer for their faults in a row. -/
theorem answersFor_forM {Value : Type} {check : Value → Except PyError Unit} {found : Value → List Fault}
    (each : ∀ value, AnswersFor (check value) (found value)) (values : List Value) :
    AnswersFor (values.forM check) (values.flatMap found) := by
  induction values with
  | nil => rfl
  | cons value rest ih =>
      have head := each value
      rw [List.flatMap_cons]
      change AnswersFor (check value >>= fun _ => rest.forM check) _
      cases checked : check value with
      | ok _ =>
          rw [checked, AnswersFor] at head
          rw [head, List.nil_append]
          exact ih
      | error error =>
          rw [checked, AnswersFor, Option.map_eq_some_iff] at head
          obtain ⟨fault, first, same⟩ := head
          rw [AnswersFor.eq_def]
          simp only [bind, Except.bind, List.head?_append, first, Option.some_or, Option.map_some, same]

theorem validateField_answersFor (index : ℕ) (field : String × PyValue) :
    AnswersFor (validateField index field) (fieldFaults field.2) := by
  obtain ⟨name, value⟩ := field
  cases value with
  | int number =>
      cases large : PyValue.doubleOverflows number <;>
        simp [validateField, PyValue.isNumber, PyValue.isfinite, fieldFaults, large, AnswersFor, Fault.kind]
  | float number =>
      cases finite : number.isFinite <;>
        simp [validateField, PyValue.isNumber, PyValue.isfinite, fieldFaults, finite, AnswersFor, Fault.kind]
  | none | bool | index | real | other => rfl

theorem validateJoint_answersFor (populated : Option (List Bool)) (slot : Option BodyJointCmd × ℕ) :
    AnswersFor (validateJoint populated slot.2 slot.1) (slotFaults populated slot) := by
  obtain ⟨motor, index⟩ := slot
  cases motor with
  | none => rfl
  | some motor =>
      simp only [validateJoint, slotFaults]
      split
      · rfl
      · exact answersFor_forM (validateField_answersFor index)
          [("q", motor.q), ("dq", motor.dq), ("tau", motor.tau), ("kp", motor.kp), ("kd", motor.kd)]

theorem validateIndex_ok {name : String} {value : PyValue} :
    validateIndex name value = .ok () ↔ IsUint64 value := by
  unfold validateIndex IsUint64
  cases value.asIndex with
  | none => simp
  | some number =>
      by_cases within : 0 ≤ number ∧ number < 2 ^ 64 <;> simp [within]

theorem validateIndex_error {name : String} {value : PyValue} {error : PyError}
    (refused : validateIndex name value = .error error) : error.kind = .invalidCommand := by
  unfold validateIndex at refused
  split at refused
  · cases refused
    rfl
  · split at refused <;> cases refused
    rfl

/-- A command with a sound frame is refused exactly for its first fault. -/
theorem validateCommand_framed {command : BodyCmd} {joints : List (Option BodyJointCmd)}
    (framed : Framed command joints) (populated : Option (List Bool)) :
    validateCommand (some command) populated =
      (joints.zipIdx.forM fun entry => validateJoint populated entry.2 entry.1).map fun _ => command := by
  have slots : ¬ joints.length ≠ BODY_SLOTS := not_not.mpr framed.slots
  simp only [validateCommand, framed.tuple, if_neg slots, framed.action, Bool.not_true, Bool.false_eq_true,
    if_false, validateIndex_ok.mpr framed.inputStateId, validateIndex_ok.mpr framed.inputStateTsRealUs,
    validateIndex_ok.mpr framed.tsClientCreatedUs, bind, Except.bind, pure, Except.pure, Except.map]

/-- A command with a broken frame is refused with the documented exception. -/
theorem validateCommand_unframed {command : BodyCmd} (broken : ∀ joints, ¬ Framed command joints)
    (populated : Option (List Bool)) :
    ∃ error, validateCommand (some command) populated = .error error ∧ error.kind = .invalidCommand := by
  cases tuple : command.joints with
  | none => exact ⟨_, by simp [validateCommand, tuple]; rfl, rfl⟩
  | some joints =>
  by_cases slots : joints.length = BODY_SLOTS
  case neg => exact ⟨_, by simp [validateCommand, tuple, slots, bind, Except.bind]; rfl, rfl⟩
  cases action : command.action.equalsInt EXTERNAL_ACTION with
  | false => exact ⟨_, by simp [validateCommand, tuple, slots, action, bind, Except.bind]; rfl, rfl⟩
  | true =>
  cases first : validateIndex "input_state_id" command.inputStateId with
  | error error =>
      exact ⟨error, by simp [validateCommand, tuple, slots, action, first, bind, Except.bind], validateIndex_error first⟩
  | ok _ =>
  cases second : validateIndex "input_state_ts_real_us" command.inputStateTsRealUs with
  | error error =>
      exact ⟨error, by simp [validateCommand, tuple, slots, action, first, second, bind, Except.bind],
        validateIndex_error second⟩
  | ok _ =>
  cases third : validateIndex "ts_client_created_us" (command.tsClientCreatedUs.orElse (.int 0)) with
  | error error =>
      exact ⟨error, by simp [validateCommand, tuple, slots, action, first, second, third, bind, Except.bind],
        validateIndex_error third⟩
  | ok _ =>
      exact absurd ⟨tuple, slots, action, validateIndex_ok.mp first, validateIndex_ok.mp second,
        validateIndex_ok.mp third⟩ (broken joints)

theorem castUnsigned_accepts {bits : ℕ} {value : PyValue} {number : ℤ} (index : value.asIndex = some number)
    (within : 0 ≤ number ∧ number < 2 ^ bits) : Accepts (castUnsigned bits value) := by
  rw [castUnsigned, index]
  simp [within]

theorem IsUint64.accepts {value : PyValue} (uint64 : IsUint64 value) : Accepts (castUnsigned 64 value) := by
  obtain ⟨number, index, within⟩ := uint64
  exact castUnsigned_accepts index within

/-- A joint is converted when all of its fields fit. -/
theorem encodeJoint_accepts (motor : BodyJointCmd) :
    Accepts (encodeJoint (some motor)) ↔ ∀ field ∈ fields motor, Fits field := by
  simp only [fields, List.forall_mem_cons, List.not_mem_nil, false_implies, implies_true, and_true,
    ← float_accepts, encodeJoint]
  simp only [accepts_bind]
  constructor
  · rintro ⟨q, first, dq, second, tau, third, kp, fourth, kd, fifth, _⟩
    exact ⟨⟨q, first⟩, ⟨dq, second⟩, ⟨tau, third⟩, ⟨kp, fourth⟩, kd, fifth⟩
  · rintro ⟨⟨q, first⟩, ⟨dq, second⟩, ⟨tau, third⟩, ⟨kp, fourth⟩, kd, fifth⟩
    exact ⟨q, first, dq, second, tau, third, kp, fourth, kd, fifth, accepts_ok _⟩

/-- A command whose other parts are sound is encoded when all joints are converted. -/
theorem encode_accepts {command : BodyCmd} {joints : List (Option BodyJointCmd)}
    (tuple : command.joints = some joints) (slots : joints.length = BODY_SLOTS)
    (protocol : Accepts (castUnsigned 32 (.int command.protocolVersion)))
    (session : Accepts (castUnsigned 64 (.int command.sessionId)))
    (sequence : Accepts (castUnsigned 64 (.int command.sequence)))
    (inputStateId : Accepts (castUnsigned 64 command.inputStateId))
    (inputStateTs : Accepts (castUnsigned 64 command.inputStateTsRealUs))
    (created : Accepts (castUnsigned 64 command.tsClientCreatedUs))
    (send : Accepts (castUnsigned 64 command.tsClientSendUs))
    (action : Accepts (castUnsigned 8 command.action)) (rootless : command.rootQuat = none) :
    Accepts (encode command) ↔ ∀ joint ∈ joints, Accepts (encodeJoint joint) := by
  rw [← accepts_mapM]
  obtain ⟨_, protocol⟩ := protocol
  obtain ⟨_, session⟩ := session
  obtain ⟨_, sequence⟩ := sequence
  obtain ⟨_, inputStateId⟩ := inputStateId
  obtain ⟨_, inputStateTs⟩ := inputStateTs
  obtain ⟨_, created⟩ := created
  obtain ⟨_, send⟩ := send
  obtain ⟨_, action⟩ := action
  have full : ¬ joints.length ≠ BODY_SLOTS := not_not.mpr slots
  simp only [encode, tuple, if_neg full, protocol, session, sequence, inputStateId, inputStateTs, created,
    send, action, rootless, bind, Except.bind, pure, Except.pure]
  cases joints.mapM encodeJoint <;> simp

/-- The sequence of the next command is positive after every step. -/
theorem Transition.sequence_positive {host after : Host} {pc next : Pc} {events : List Event}
    (step : Transition host pc events after next) (before : 1 ≤ host.controller.nextExternalSequence) :
    1 ≤ after.controller.nextExternalSequence := by
  cases step with
  | failClaimed claimed | exitClaimed claimed =>
      obtain ⟨_, _, _, rfl⟩ := ExternalController.claimCancel_some claimed
      exact before
  | closedQuietly quiet =>
      obtain ⟨_, rfl⟩ := ExternalController.closeSection_none quiet
      exact before
  | closedClaimed claims =>
      obtain ⟨_, _, _, _, rfl⟩ := ExternalController.closeSection_some claims
      exact before
  | built published =>
      obtain ⟨checked, status, session, _, _, _, _, changed, _, _, rfl⟩ :=
        ExternalController.publishSection_ok published
      show 1 ≤ session.nextExternalSequence + 1
      rcases (ExternalController.publishSession_ok changed).2 with rfl | ⟨_, _, _, rfl⟩
      · omega
      · show (1 : ℤ) ≤ 1 + 1
        omega
  | _ => first | exact before | exact le_refl 1

/-- Every field of every slot can be packed, populated or not. -/
def AllFit (joints : List (Option BodyJointCmd)) : Prop :=
  ∀ motor, some motor ∈ joints → ∀ field ∈ fields motor, Fits field

/-- A publish agrees with the encoder when it raises the documented exception and keeps the controller,
or when it builds a command that the encoder accepts. -/
def Agrees (host : Host) (command : Option BodyCmd) (choice : Choice) : Prop :=
  ∃ after next events, publishStep host (.publishStart command) choice = some (after, next, events) ∧
    ((after = host ∧ ∃ error, error.kind = .invalidCommand ∧ events = [.finished .publish (.raised error)]) ∨
      ∃ built, next = .publishSend built ∧ Accepts (encode built))

/-- The commands on which both checks decide alike under a cached RUNNING status. -/
inductive Meets (c : ExternalController) (status : ControlStatus) : Option BodyCmd → Prop
  | foreign : Meets c status none
  | unframed {command : BodyCmd} (broken : ∀ joints, ¬ Framed command joints) : Meets c status (some command)
  | malformed {command : BodyCmd} {joints : List (Option BodyJointCmd)} (framed : Framed command joints)
      (first : (faults c.population joints).head? = some .malformed) : Meets c status (some command)
  | encodable {command : BodyCmd} {joints : List (Option BodyJointCmd)} (framed : Framed command joints)
      (faultless : faults c.population joints = []) (fit : AllFit joints)
      (generation : validGeneration status.generation = true)
      (room : status.generation ≠ c.externalSessionId ∨ c.nextExternalSequence ≤ MAX_UINT64) :
      Meets c status (some command)

theorem agrees_refused {host : Host} {command : Option BodyCmd} {choice : Choice} {error : PyError}
    (refused : host.controller.publishSection command choice.createdUs choice.sendUs = .error error) :
    Agrees host command choice ↔ error.kind = .invalidCommand := by
  simp only [Agrees, publishStep, refused, Option.some.injEq, Prod.mk.injEq]
  constructor
  · rintro ⟨_, _, _, ⟨rfl, rfl, rfl⟩, ⟨_, _, kind, same⟩ | ⟨built, impossible, _⟩⟩
    · simp only [List.cons.injEq, Event.finished.injEq, Outcome.raised.injEq, true_and, and_true] at same
      exact same ▸ kind
    · cases impossible
  · exact fun kind => ⟨_, _, _, ⟨rfl, rfl, rfl⟩, .inl ⟨rfl, error, kind, rfl⟩⟩

theorem agrees_built {host : Host} {command : Option BodyCmd} {choice : Choice} {built : BodyCmd}
    {next : ExternalController}
    (published : host.controller.publishSection command choice.createdUs choice.sendUs = .ok (built, next)) :
    Agrees host command choice ↔ Accepts (encode built) := by
  simp only [Agrees, publishStep, published, Option.some.injEq, Prod.mk.injEq]
  constructor
  · rintro ⟨_, _, _, ⟨rfl, rfl, rfl⟩, ⟨_, _, _, same⟩ | ⟨_, same, accepts⟩⟩
    · simp at same
    · rwa [Pc.publishSend.inj same]
  · exact fun accepts => ⟨_, _, _, ⟨rfl, rfl, rfl⟩, .inr ⟨built, rfl, accepts⟩⟩

/-- A faultless command has a joint in every slot. -/
theorem encode_slots {populated : Option (List Bool)} {joints : List (Option BodyJointCmd)}
    (faultless : faults populated joints = []) :
    (∀ joint ∈ joints, Accepts (encodeJoint joint)) ↔ AllFit joints := by
  constructor
  · intro accepts motor member
    exact (encodeJoint_accepts motor).mp (accepts _ member)
  · intro fit joint member
    cases joint with
    | some motor => exact (encodeJoint_accepts motor).mpr (fit motor member)
    | none =>
        obtain ⟨index, place⟩ := List.mem_iff_getElem?.mp member
        have entry : (none, index) ∈ joints.zipIdx := List.mk_mem_zipIdx_iff_getElem?.mpr place
        simpa [slotFaults] using List.flatMap_eq_nil_iff.mp faultless _ entry

/-- The section of an open controller under a status that allows a publish. -/
theorem publishSection_allowed {c : ExternalController} {status : ControlStatus} (opened : c.closed = false)
    (cached : c.latestStatus = some status) (allowed : c.statusAllowsPublish (some status) = true)
    (command : Option BodyCmd) (createdUs sendUs : ℤ) :
    c.publishSection command createdUs sendUs =
      (validateCommand command c.population).bind fun checked => (c.publishSession status).bind fun session =>
        if session.nextExternalSequence > MAX_UINT64 then .error ⟨.externalControl, "external sequence exhausted"⟩
        else .ok (session.externalCommand checked createdUs sendUs,
          { session with nextExternalSequence := session.nextExternalSequence + 1 }) := by
  have kept : c.latestStatus.filter (fun status => c.statusAllowsPublish (some status)) = some status :=
    Option.filter_eq_some_iff.mpr ⟨cached, allowed⟩
  simp only [ExternalController.publishSection, c.ensureOpen_ok.mpr opened, kept, bind, Except.bind, pure,
    Except.pure]

/-- A RUNNING status with a valid generation leaves the session or starts it again. -/
theorem publishSession_running {c : ExternalController} {status : ControlStatus}
    (running : status.phase = .RUNNING) (generation : validGeneration status.generation = true) :
    c.publishSession status =
      .ok (if status.generation ≠ c.externalSessionId then c.establish status else c) := by
  simp only [ExternalController.publishSession, if_pos running, generation, Bool.not_true,
    Bool.false_eq_true, if_false]
  split <;> rfl

/-- The command of a running session carries only numbers that the encoder casts. -/
theorem encode_external {session : ExternalController} {command : BodyCmd}
    {joints : List (Option BodyJointCmd)} {createdUs sendUs : ℤ} (framed : Framed command joints)
    (generation : validGeneration session.externalSessionId = true)
    (positive : 1 ≤ session.nextExternalSequence) (room : session.nextExternalSequence ≤ MAX_UINT64)
    (created : IsUint64 (.int createdUs)) (send : IsUint64 (.int sendUs)) :
    Accepts (encode (session.externalCommand command createdUs sendUs)) ↔
      ∀ joint ∈ joints, Accepts (encodeJoint joint) := by
  simp only [validGeneration, Bool.decide_and, Bool.and_eq_true, decide_eq_true_eq] at generation
  simp only [MAX_UINT64] at generation room
  have stamp : IsUint64 (command.tsClientCreatedUs.orElse (.int createdUs)) := by
    have checked := framed.tsClientCreatedUs
    unfold PyValue.orElse at checked ⊢
    split
    · rename_i truthy
      rwa [if_pos truthy] at checked
    · exact created
  have protocol : Accepts (castUnsigned 32 (.int BODY_PROTOCOL_VERSION)) :=
    castUnsigned_accepts rfl (by decide)
  have identity : IsUint64 (.int session.externalSessionId) := ⟨_, rfl, by omega, by omega⟩
  have sequence : IsUint64 (.int session.nextExternalSequence) := ⟨_, rfl, by omega, by omega⟩
  have action : Accepts (castUnsigned 8 (.int EXTERNAL_ACTION)) := castUnsigned_accepts rfl (by decide)
  exact encode_accepts framed.tuple framed.slots protocol identity.accepts sequence.accepts
    framed.inputStateId.accepts framed.inputStateTsRealUs.accepts stamp.accepts send.accepts action rfl

/-- The session of the next command carries the generation of the status and has room for it. -/
theorem session_facts (c : ExternalController) (status : ControlStatus) (positive : 1 ≤ c.nextExternalSequence) :
    let session := if status.generation ≠ c.externalSessionId then c.establish status else c
    session.externalSessionId = status.generation ∧ 1 ≤ session.nextExternalSequence ∧
      (session.nextExternalSequence ≤ MAX_UINT64 ↔
        status.generation ≠ c.externalSessionId ∨ c.nextExternalSequence ≤ MAX_UINT64) := by
  by_cases same : status.generation = c.externalSessionId
  · simp [same, positive]
  · simp [same, ExternalController.establish, MAX_UINT64]

/-- A framed command without faults is published and then has to fit. -/
theorem faultless_agrees {host : Host} {status : ControlStatus} {command : BodyCmd}
    {joints : List (Option BodyJointCmd)} {choice : Choice} (opened : host.controller.closed = false)
    (cached : host.controller.latestStatus = some status)
    (allowed : host.controller.statusAllowsPublish (some status) = true)
    (running : status.phase = .RUNNING) (positive : 1 ≤ host.controller.nextExternalSequence)
    (created : IsUint64 (.int choice.createdUs)) (send : IsUint64 (.int choice.sendUs))
    (framed : Framed command joints) (faultless : faults host.controller.population joints = [])
    (checked : validateCommand (some command) host.controller.population = .ok command) :
    Agrees host (some command) choice ↔ AllFit joints ∧ validGeneration status.generation = true ∧
      (status.generation ≠ host.controller.externalSessionId ∨
        host.controller.nextExternalSequence ≤ MAX_UINT64) := by
  have section' := publishSection_allowed opened cached allowed (some command) choice.createdUs choice.sendUs
  rw [checked, Except.bind] at section'
  cases generation : validGeneration status.generation with
  | false =>
      have refused : host.controller.publishSession status =
          .error ⟨.notRunning, "RUNNING status did not provide a valid generation"⟩ := by
        simp [ExternalController.publishSession, running, generation]
      rw [refused, Except.bind] at section'
      rw [agrees_refused section']
      simp
  | true =>
      rw [publishSession_running running generation, Except.bind] at section'
      obtain ⟨identity, first, limit⟩ := session_facts host.controller status positive
      generalize (if status.generation ≠ host.controller.externalSessionId then host.controller.establish status
        else host.controller) = session at section' identity first limit
      by_cases exhausted : session.nextExternalSequence > MAX_UINT64
      · rw [if_pos exhausted] at section'
        rw [agrees_refused section']
        refine iff_of_false (by simp) ?_
        rintro ⟨_, _, room⟩
        exact absurd (limit.mpr room) (not_le.mpr exhausted)
      · rw [if_neg exhausted] at section'
        have room := not_lt.mp exhausted
        rw [agrees_built section', encode_external framed (identity ▸ generation) first room created send,
          encode_slots faultless]
        exact ⟨fun fit => ⟨fit, rfl, limit.mp room⟩, fun all => all.1⟩

/-- Validation and encoder agree on a command exactly when it meets the condition. -/
theorem agrees_iff {host : Host} {status : ControlStatus} {choice : Choice}
    (cached : host.controller.latestStatus = some status)
    (allowed : host.controller.statusAllowsPublish (some status) = true)
    (running : status.phase = .RUNNING) (positive : 1 ≤ host.controller.nextExternalSequence)
    (created : IsUint64 (.int choice.createdUs)) (send : IsUint64 (.int choice.sendUs))
    (command : Option BodyCmd) :
    Agrees host command choice ↔
      host.controller.closed = false ∧ Meets host.controller status command := by
  cases closed : host.controller.closed with
  | true =>
      have refused : host.controller.publishSection command choice.createdUs choice.sendUs =
          .error ⟨.controllerClosed, "controller is closed"⟩ := by
        simp only [ExternalController.publishSection, ExternalController.ensureOpen, closed, if_true, bind,
          Except.bind]
      rw [agrees_refused refused]
      simp
  | false =>
  rw [and_iff_right rfl]
  have section' (command : Option BodyCmd) {error : PyError}
      (invalid : validateCommand command host.controller.population = .error error) :
      host.controller.publishSection command choice.createdUs choice.sendUs = .error error := by
    rw [publishSection_allowed closed cached allowed, invalid, Except.bind]
  cases command with
  | none => exact iff_of_true ((agrees_refused (section' none rfl)).mpr rfl) .foreign
  | some command =>
  by_cases framed : ∃ joints, Framed command joints
  case neg =>
    have broken := not_exists.mp framed
    obtain ⟨error, invalid, kind⟩ := validateCommand_unframed broken host.controller.population
    exact iff_of_true ((agrees_refused (section' _ invalid)).mpr kind) (.unframed broken)
  obtain ⟨joints, framed⟩ := framed
  have only {others : List (Option BodyJointCmd)} (other : Framed command others) : others = joints :=
    Option.some.inj (other.tuple.symm.trans framed.tuple)
  have answers := answersFor_forM (validateJoint_answersFor host.controller.population) joints.zipIdx
  have validated := validateCommand_framed framed host.controller.population
  cases slots : joints.zipIdx.forM fun entry => validateJoint host.controller.population entry.2 entry.1 with
  | error error =>
      rw [slots, Except.map] at validated
      rw [slots, AnswersFor, Option.map_eq_some_iff] at answers
      obtain ⟨fault, first, kind⟩ := answers
      rw [agrees_refused (section' _ validated), ← kind]
      cases fault with
      | malformed => exact iff_of_true rfl (.malformed framed first)
      | oversized =>
          refine iff_of_false (by simp [Fault.kind]) fun meets => ?_
          cases meets with
          | unframed broken => exact broken joints framed
          | malformed other found =>
              rw [only other, faults, first] at found
              cases found
          | encodable other faultless =>
              rw [only other, faults] at faultless
              simp [faultless] at first
  | ok _ =>
      rw [slots, Except.map] at validated
      rw [slots, AnswersFor] at answers
      rw [faultless_agrees closed cached allowed running positive created send framed answers validated]
      constructor
      · rintro ⟨fit, generation, room⟩
        exact .encodable framed answers fit generation room
      · intro meets
        cases meets with
        | unframed broken => exact absurd framed (broken joints)
        | malformed other found =>
            rw [only other, faults, answers] at found
            cases found
        | encodable other _ fit generation room => exact ⟨only other ▸ fit, generation, room⟩

section Runs

variable {Thread : Type*} [DecidableEq Thread] {clientId : String} {moves : List (HostMove Thread)}
  {pool : Pool Thread Host Pc}

theorem run_sequence_positive (run : (hostMachine Thread).Run (freshPool Thread clientId) moves pool) :
    1 ≤ pool.shared.controller.nextExternalSequence := by
  refine run.stateInvariant (fun pool => 1 ≤ pool.shared.controller.nextExternalSequence) (le_refl 1) ?_
  intro pool input next events before accepted
  cases Program.machine_cases accepted with
  | call ready => exact before
  | run stepped => exact (step_cases stepped).sequence_positive before
  | signal signal =>
      cases signal with
      | ack ack | status status => simpa [program, Host.react] using before

/-- In every reachable state with an owned RUNNING status, a publish refuses with the documented
exception or builds a command that the encoder accepts exactly when the command meets the condition. -/
theorem publish_agrees_iff (run : (hostMachine Thread).Run (freshPool Thread clientId) moves pool)
    {status : ControlStatus} (cached : pool.shared.controller.latestStatus = some status)
    (allowed : pool.shared.controller.statusAllowsPublish (some status) = true)
    (running : status.phase = .RUNNING) {choice : Choice} (created : IsUint64 (.int choice.createdUs))
    (send : IsUint64 (.int choice.sendUs)) (command : Option BodyCmd) :
    Agrees pool.shared command choice ↔
      pool.shared.controller.closed = false ∧ Meets pool.shared.controller status command :=
  agrees_iff cached allowed running (run_sequence_positive run) created send command

/-- One joint field has this value and all others rest. -/
def slotsWith (slot : ℕ) (value : PyValue) : List (Option BodyJointCmd) :=
  (List.replicate BODY_SLOTS (some {})).set slot (some { q := value })

def commandWith (slot : ℕ) (value : PyValue) : BodyCmd where
  joints := some (slotsWith slot value)

theorem commandWith_framed (slot : ℕ) (value : PyValue) :
    Framed (commandWith slot value) (slotsWith slot value) where
  tuple := rfl
  slots := by rw [slotsWith, List.length_set, List.length_replicate]
  action := rfl
  inputStateId := ⟨0, rfl, le_rfl, by decide⟩
  inputStateTsRealUs := ⟨0, rfl, le_rfl, by decide⟩
  tsClientCreatedUs := ⟨0, rfl, le_rfl, by decide⟩

theorem resting_fits {field : PyValue} (member : field ∈ fields {}) : Fits field := by
  obtain rfl : field = .float (.finite 0) := by simpa [fields] using member
  norm_num [Fits, singleLimit]

/-- Such a command misses the condition by an oversized `int` or by a field that does not fit. -/
theorem commandWith_misses {c : ExternalController} {status : ControlStatus} {slot : ℕ} {value : PyValue}
    (first : (faults c.population (slotsWith slot value)).head? ≠ some .malformed)
    (unfit : ¬ Fits value ∧ slot < BODY_SLOTS) : ¬ Meets c status (some (commandWith slot value)) := by
  have only {joints : List (Option BodyJointCmd)} (framed : Framed (commandWith slot value) joints) :
      joints = slotsWith slot value :=
    Option.some.inj (framed.tuple.symm.trans (commandWith_framed slot value).tuple)
  intro meets
  cases meets with
  | unframed broken => exact broken _ (commandWith_framed slot value)
  | malformed framed found => exact first (only framed ▸ found)
  | encodable framed _ fit =>
      rw [only framed] at fit
      have member : some { q := value } ∈ slotsWith slot value :=
        List.mem_set (by rw [List.length_replicate]; exact unfit.2) _
      exact unfit.1 (fit _ member value (by simp [fields]))

/-- A session runs and discovery has reported the first slot as unpopulated. -/
def discoveredInputs : List (HostInput Unit) :=
  enteredInputs ++ [.call () (.getRobotInfo (.int 1)), .run () {},
    .run () { info := some ⟨some ⟨⟨false⟩ :: List.replicate 30 ⟨true⟩⟩⟩ }]

/-- A running session publishes a command that the encoder accepts. -/
theorem publish_agrees_iff_discovered :
    ∃ moves pool, (hostMachine Unit).Run (freshPool Unit "client") moves pool ∧
      pool.shared.controller.latestStatus = some (runningStatus 42 1) ∧
      Agrees pool.shared (some (commandWith 0 (.float .nan))) { createdUs := 7, sendUs := 8 } := by
  obtain ⟨moves, pool, run, _, cached, allowed, opened, population, room⟩ :=
    (hostMachine Unit).exists_run (freshPool Unit "client") discoveredInputs
      (fun _ pool => pool.shared.controller.latestStatus = some (runningStatus 42 1) ∧
        pool.shared.controller.statusAllowsPublish (some (runningStatus 42 1)) = true ∧
        pool.shared.controller.closed = false ∧
        pool.shared.controller.population = some (false :: List.replicate 30 true) ∧
        pool.shared.controller.nextExternalSequence ≤ MAX_UINT64) (by decide +kernel)
  refine ⟨moves, pool, run, cached, (publish_agrees_iff run cached allowed rfl ⟨7, rfl, by decide, by decide⟩
    ⟨8, rfl, by decide, by decide⟩ _).mpr ⟨opened, ?_⟩⟩
  refine .encodable (commandWith_framed 0 _) ?_ ?_ (by decide) (.inr room)
  · rw [population]
    decide
  · intro motor member field found
    rcases List.mem_or_eq_of_mem_set member with resting | moved
    · obtain rfl : motor = {} := Option.some.inj (List.eq_of_mem_replicate resting)
      exact resting_fits found
    · obtain rfl := Option.some.inj moved
      rcases List.mem_cons.mp found with rfl | rest
      · trivial
      · exact resting_fits (List.mem_cons_of_mem _ rest)

/-- A double beyond single precision passes validation, an `int` beyond the doubles escapes as another
exception, and an unpopulated slot hides a field that is no number. -/
theorem publish_disagrees_discovered :
    ∃ moves pool, (hostMachine Unit).Run (freshPool Unit "client") moves pool ∧
      pool.shared.controller.latestStatus = some (runningStatus 42 1) ∧
      pool.shared.controller.statusAllowsPublish (some (runningStatus 42 1)) = true ∧
      ¬ Agrees pool.shared (some (commandWith 1 (.float (.finite (2 ^ 130))))) {} ∧
      ¬ Agrees pool.shared (some (commandWith 1 (.int (2 ^ 1024)))) {} ∧
      ¬ Agrees pool.shared (some (commandWith 0 .none)) {} := by
  obtain ⟨moves, pool, run, _, cached, allowed, population⟩ :=
    (hostMachine Unit).exists_run (freshPool Unit "client") discoveredInputs
      (fun _ pool => pool.shared.controller.latestStatus = some (runningStatus 42 1) ∧
        pool.shared.controller.statusAllowsPublish (some (runningStatus 42 1)) = true ∧
        pool.shared.controller.population = some (false :: List.replicate 30 true)) (by decide +kernel)
  have zero : IsUint64 (.int (({} : Choice).createdUs)) := ⟨0, rfl, le_rfl, by decide⟩
  have misses {slot : ℕ} {value : PyValue}
      (first : (faults (some (false :: List.replicate 30 true)) (slotsWith slot value)).head? ≠ some .malformed)
      (unfit : ¬ Fits value ∧ slot < BODY_SLOTS) : ¬ Agrees pool.shared (some (commandWith slot value)) {} := by
    rw [agrees_iff cached allowed rfl (run_sequence_positive run) zero zero]
    rintro ⟨_, meets⟩
    exact commandWith_misses (population ▸ first) unfit meets
  refine ⟨moves, pool, run, cached, allowed, misses (by decide) ⟨?_, by decide⟩,
    misses (by decide +kernel) ⟨?_, by decide⟩, misses (by decide) ⟨not_false, by decide⟩⟩
  · norm_num [Fits, singleLimit]
  · show ¬ (2 ^ 1024 : ℤ).natAbs < integerLimit
    decide +kernel

end Runs

end HumanoidSdk.Controller
