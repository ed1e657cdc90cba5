import HumanoidSdk.Controller.Program

namespace HumanoidSdk.Controller
open Foundation

namespace ExternalController

variable {c next : ExternalController} {error : PyError}

theorem ensureOpen_ok (c : ExternalController) : c.ensureOpen = .ok () ↔ c.closed = false := by
  unfold ensureOpen
  cases c.closed <;> simp

theorem beginRequest_ok {requestId : String} (began : c.beginRequest requestId = .ok next) :
    c.closed = false ∧ c.requestId = none ∧ next = c.freshRequest requestId := by
  unfold beginRequest ensureOpen at began
  cases closed : c.closed with
  | true => simp [closed, bind, Except.bind] at began
  | false =>
      cases request : c.requestId with
      | some requestId => simp [closed, request, bind, Except.bind] at began
      | none =>
          simp [closed, request, bind, Except.bind, pure, Except.pure] at began
          exact ⟨rfl, rfl, began.symm⟩

theorem claimCancel_none (skipped : c.claimCancel = none) : c.requestId = none ∨ c.cancelSent = true := by
  by_contra open'
  simp [claimCancel, open'] at skipped

theorem claimCancel_some {cancel : ControlRequest} (claimed : c.claimCancel = some (cancel, next)) :
    (∃ requestId, c.requestId = some requestId) ∧ c.cancelSent = false ∧ cancel = c.request .CANCEL ∧
      next = { c with cancelSent := true } := by
  by_cases done : c.requestId = none ∨ c.cancelSent = true
  · simp [claimCancel, done] at claimed
  · obtain ⟨present, unsent⟩ := not_or.mp done
    simp only [claimCancel, done, if_false, Option.some.injEq, Prod.mk.injEq] at claimed
    exact ⟨Option.ne_none_iff_exists'.mp present, by simpa using unsent, claimed.1.symm, claimed.2.symm⟩

theorem closeSection_none (quiet : c.closeSection = (none, next)) :
    (c.closed = true ∨ c.requestId = none ∨ c.cancelSent = true) ∧ next = { c with closed := true } := by
  cases closed : c.closed with
  | true =>
      simp only [closeSection, closed, if_true, Prod.mk.injEq, true_and] at quiet
      exact ⟨Or.inl rfl, by rw [← quiet, ← closed]⟩
  | false =>
      cases claimed : { c with closed := true }.claimCancel with
      | some answer => simp [closeSection, closed, claimed] at quiet
      | none =>
          have skipped := claimCancel_none claimed
          simp only [closeSection, closed, claimed] at quiet
          exact ⟨Or.inr skipped, by simpa using quiet.symm⟩

theorem closeSection_some {cancel : ControlRequest} (claims : c.closeSection = (some cancel, next)) :
    c.closed = false ∧ (∃ requestId, c.requestId = some requestId) ∧ c.cancelSent = false ∧
      cancel = c.request .CANCEL ∧ next = { c with closed := true, cancelSent := true } := by
  cases closed : c.closed with
  | true => simp [closeSection, closed] at claims
  | false =>
      cases claimed : { c with closed := true }.claimCancel with
      | none => simp [closeSection, closed, claimed] at claims
      | some answer =>
          obtain ⟨present, unsent, request, result⟩ := claimCancel_some claimed
          simp [closeSection, closed, claimed] at claims
          exact ⟨rfl, present, unsent, claims.1 ▸ request, claims.2 ▸ result⟩

/-- An open controller with a request starts its exit. -/
theorem exitSection_open {requestId : String} (opened : c.closed = false)
    (current : c.requestId = some requestId) : c.exitSection = .ok requestId := by
  simp [exitSection, ensureOpen, opened, current, bind, Except.bind, pure, Except.pure]

theorem exitSection_ok {requestId : String} (started : c.exitSection = .ok requestId) :
    c.closed = false ∧ c.requestId = some requestId := by
  unfold exitSection ensureOpen at started
  cases closed : c.closed with
  | true => simp [closed, bind, Except.bind] at started
  | false =>
      cases request : c.requestId with
      | none => simp [closed, request, bind, Except.bind] at started
      | some current =>
          simp [closed, request, bind, Except.bind, pure, Except.pure] at started
          exact ⟨rfl, congrArg some started⟩

theorem learnInfo_ok {info : Option RobotInfo} (learned : c.learnInfo info = .ok next) :
    next = { c with bodyInfo := info.elim c.bodyInfo RobotInfo.body } := by
  unfold learnInfo ensureOpen at learned
  cases closed : c.closed with
  | true => simp [closed, bind, Except.bind] at learned
  | false =>
      simp [closed, bind, Except.bind, pure, Except.pure] at learned
      exact learned.symm

/-- The session of a publish is the generation of the cached status. -/
theorem publishSession_ok {status : ControlStatus} (session : c.publishSession status = .ok next) :
    next.externalSessionId = status.generation ∧
      (next = c ∨ (status.phase = .RUNNING ∧ validGeneration status.generation = true ∧
        status.generation ≠ c.externalSessionId ∧ next = c.establish status)) := by
  unfold publishSession at session
  by_cases running : status.phase = .RUNNING
  · rw [if_pos running] at session
    cases valid : validGeneration status.generation with
    | false => simp [valid] at session
    | true =>
        by_cases same : status.generation = c.externalSessionId
        · rw [valid, if_neg (by simp), if_neg (by simpa using same)] at session
          obtain rfl := Except.ok.inj session
          exact ⟨same.symm, Or.inl rfl⟩
        · rw [valid, if_neg (by simp), if_pos same] at session
          obtain rfl := Except.ok.inj session
          exact ⟨rfl, Or.inr ⟨running, rfl, same, rfl⟩⟩
  · rw [if_neg running] at session
    by_cases same : status.generation = c.externalSessionId
    · rw [if_neg (by simpa using same)] at session
      obtain rfl := Except.ok.inj session
      exact ⟨same.symm, Or.inl rfl⟩
    · simp [same] at session

/-- A publish changes nothing but the session and its sequence. -/
theorem publishSession_kept {status : ControlStatus} (session : c.publishSession status = .ok next) :
    next.requestId = c.requestId ∧ next.leaseId = c.leaseId ∧ next.clientId = c.clientId ∧
      next.latestStatus = c.latestStatus ∧ next.acks = c.acks ∧ next.bodyInfo = c.bodyInfo ∧
      next.cancelSent = c.cancelSent ∧ next.closed = c.closed := by
  rcases (publishSession_ok session).2 with rfl | ⟨_, _, _, rfl⟩
  · simp
  · simp [establish]

/-- A built command went through every check of the section. -/
theorem publishSection_ok {command : Option BodyCmd} {createdUs sendUs : ℤ} {built : BodyCmd}
    (published : c.publishSection command createdUs sendUs = .ok (built, next)) :
    ∃ checked status session, c.closed = false ∧ validateCommand command c.population = .ok checked ∧
      c.latestStatus = some status ∧ c.statusAllowsPublish (some status) = true ∧
      c.publishSession status = .ok session ∧ session.nextExternalSequence ≤ MAX_UINT64 ∧
      built = session.externalCommand checked createdUs sendUs ∧
      next = { session with nextExternalSequence := session.nextExternalSequence + 1 } := by
  unfold publishSection at published
  cases opened : c.ensureOpen with
  | error error => simp [opened, bind, Except.bind] at published
  | ok _ =>
  cases valid : validateCommand command c.population with
  | error error => simp [opened, valid, bind, Except.bind] at published
  | ok checked =>
  cases cached : c.latestStatus.filter fun status => c.statusAllowsPublish (some status) with
  | none => simp [opened, valid, cached, bind, Except.bind] at published
  | some status =>
  cases session : c.publishSession status with
  | error error => simp [opened, valid, cached, session, bind, Except.bind] at published
  | ok next =>
  by_cases exhausted : next.nextExternalSequence > MAX_UINT64
  · simp [opened, valid, cached, session, exhausted, bind, Except.bind] at published
  · simp [opened, valid, cached, session, exhausted, bind, Except.bind, pure, Except.pure] at published
    obtain ⟨latest, allowed⟩ := Option.filter_eq_some_iff.mp cached
    exact ⟨checked, status, next, c.ensureOpen_ok.mp opened, rfl, latest, allowed, session,
      not_lt.mp exhausted, published.1.symm, published.2.symm⟩

end ExternalController

/-- The host after a section changed its controller. -/
def Host.withController (host : Host) (c : ExternalController) : Host := { host with controller := c }

@[simp] theorem Host.withController_controller (host : Host) (c : ExternalController) :
    (host.withController c).controller = c := rfl

@[simp] theorem Host.withController_issuedIds (host : Host) (c : ExternalController) :
    (host.withController c).issuedIds = host.issuedIds := rfl

/-- These counters end their call with an exception and change nothing. -/
def Pc.refusal : Pc → Option Method
  | .enterStart => some .enterExternal
  | .publishStart _ => some .publish
  | .exitStart | .exitAck _ | .exitStatus => some .exitExternal
  | .infoStart | .infoReply => some .getRobotInfo
  | _ => none

/-- The first section of a method refuses only for its own reason. -/
def Pc.Refuses (c : ExternalController) (error : PyError) : Pc → Prop
  | .enterStart => ∃ requestId, c.beginRequest requestId = .error error
  | .publishStart command => ∃ createdUs sendUs, c.publishSection command createdUs sendUs = .error error
  | .exitStart => c.exitSection = .error error
  | _ => True

/-- These counters of the entry leave for its `except` branch without any effect. -/
def Pc.mayFail : Pc → Bool
  | .enterCheck _ _ | .enterAck _ _ | .enterCompare _ _ _ | .enterStatus _ _ => true
  | _ => false

/-- A transition lists every step of the methods, with the checks it passed. -/
inductive Transition (host : Host) : Pc → List Event → Host → Pc → Prop
  | refused {pc : Pc} {method : Method} {error : PyError} (refuses : pc.refusal = some method)
      (because : pc.Refuses host.controller error) :
      Transition host pc [.finished method (.raised error)] host .idle
  | began {requestId : String} (opened : host.controller.closed = false)
      (free : host.controller.requestId = none)
      (fresh : requestId ≠ "" ∧ requestId ∉ host.issuedIds) :
      Transition host .enterStart [.began requestId]
        ⟨host.controller.freshRequest requestId, host.issuedIds ++ [requestId]⟩
        (.enterCheck requestId .prepare)
  | checked {requestId : String} {half : Half} (present : host.controller.requestId ≠ none) :
      Transition host (.enterCheck requestId half) [] host (.enterReadId requestId half)
  | readId {requestId : String} {half : Half} :
      Transition host (.enterReadId requestId half) [] host
        (.enterReadLease requestId half host.controller.requestId)
  | readLease {requestId : String} {half : Half} {read : Option String} :
      Transition host (.enterReadLease requestId half read) [] host
        (.enterSend requestId half (host.controller.requestFor read half.operation))
  | sent {requestId : String} {half : Half} {request : ControlRequest} :
      Transition host (.enterSend requestId half request) [.handed (.control request) false] host
        (.enterAck requestId half)
  | sendRaised {requestId message : String} {half : Half} {request : ControlRequest} :
      Transition host (.enterSend requestId half request) [.handed (.control request) true] host
        (.enterCancel (transportError message))
  | failed {pc : Pc} {error : PyError} (may : pc.mayFail = true) :
      Transition host pc [] host (.enterCancel error)
  | prepared {requestId : String} {ack : ControlAck} (opened : host.controller.closed = false)
      (answer : host.controller.lookupAck requestId .PREPARE = some ack)
      (accepted : ack.accepted = true) (leased : ack.leaseId ≠ "") :
      Transition host (.enterAck requestId .prepare) [] host (.enterLearn requestId ack)
  | learned {requestId : String} {ack : ControlAck} :
      Transition host (.enterLearn requestId ack) []
        (host.withController (host.controller.learnLease ack))
        (.enterCheck requestId (.commit host.controller.latestStatus))
  | committed {requestId : String} {before : Option ControlStatus} {ack : ControlAck}
      (opened : host.controller.closed = false)
      (answer : host.controller.lookupAck requestId .COMMIT = some ack)
      (accepted : ack.accepted = true) :
      Transition host (.enterAck requestId (.commit before)) [] host
        (.enterCompare requestId before ack)
  | compared {requestId : String} {before : Option ControlStatus} {ack : ControlAck}
      (agrees : ack.leaseId = "" ∨ ack.leaseId = host.controller.leaseId) :
      Transition host (.enterCompare requestId before ack) [] host (.enterStatus requestId before)
  | running {requestId : String} {before : Option ControlStatus} {status : ControlStatus}
      (opened : host.controller.closed = false)
      (owned : host.controller.ownedRunningStatusAfter before = some status) :
      Transition host (.enterStatus requestId before) [] host (.enterFinish status)
  | established {status : ControlStatus} :
      Transition host (.enterFinish status) [.finished .enterExternal (.status status)]
        (host.withController (host.controller.establish status)) .idle
  | failSkipped {error : PyError} (skipped : host.controller.claimCancel = none) :
      Transition host (.enterCancel error) [.finished .enterExternal (.raised error)] host .idle
  | failClaimed {error : PyError} {cancel : ControlRequest} {c : ExternalController}
      (claimed : host.controller.claimCancel = some (cancel, c)) :
      Transition host (.enterCancel error) [] (host.withController c) (.enterCancelSend error cancel)
  | failSent {error : PyError} {cancel : ControlRequest} {raised : Bool} :
      Transition host (.enterCancelSend error cancel)
        [.handed (.control cancel) raised, .finished .enterExternal (.raised error)] host .idle
  | built {command : Option BodyCmd} {createdUs sendUs : ℤ} {built : BodyCmd} {c : ExternalController}
      (published : host.controller.publishSection command createdUs sendUs = .ok (built, c)) :
      Transition host (.publishStart command)
        [.built host.controller.requestId host.controller.leaseId built] (host.withController c)
        (.publishSend built)
  | commandSent {command : BodyCmd} :
      Transition host (.publishSend command)
        [.handed (.body command) false, .finished .publish (.command command)] host .idle
  | commandRaised {command : BodyCmd} {message : String} :
      Transition host (.publishSend command)
        [.handed (.body command) true, .finished .publish (.raised (transportError message))] host .idle
  | exitStarted {requestId : String} (opened : host.controller.closed = false)
      (current : host.controller.requestId = some requestId) :
      Transition host .exitStart [] host (.exitCancel requestId)
  | exitSkipped {requestId : String} (skipped : host.controller.claimCancel = none) :
      Transition host (.exitCancel requestId) [] host (.exitAck requestId)
  | exitClaimed {requestId : String} {cancel : ControlRequest} {c : ExternalController}
      (claimed : host.controller.claimCancel = some (cancel, c)) :
      Transition host (.exitCancel requestId) [] (host.withController c)
        (.exitCancelSend requestId cancel)
  | exitSent {requestId : String} {cancel : ControlRequest} {raised : Bool} :
      Transition host (.exitCancelSend requestId cancel) [.handed (.control cancel) raised] host
        (.exitAck requestId)
  | exitAccepted {requestId : String} {ack : ControlAck} (opened : host.controller.closed = false)
      (answer : host.controller.lookupAck requestId .CANCEL = some ack)
      (accepted : ack.accepted = true) :
      Transition host (.exitAck requestId) [] host .exitStatus
  | exitSeen {status : ControlStatus} (opened : host.controller.closed = false)
      (seen : host.controller.exitStatus = some status) :
      Transition host .exitStatus [] host (.exitClear status)
  | cleared {status : ControlStatus} :
      Transition host (.exitClear status)
        [.cleared host.controller.requestId, .finished .exitExternal (.status status)]
        (host.withController host.controller.clearSession) .idle
  | closedQuietly {c : ExternalController} (quiet : host.controller.closeSection = (none, c)) :
      Transition host .closeStart [.finished .close .done] (host.withController c) .idle
  | closedClaimed {cancel : ControlRequest} {c : ExternalController}
      (claims : host.controller.closeSection = (some cancel, c)) :
      Transition host .closeStart [] (host.withController c) (.closeSend cancel)
  | closeSent {cancel : ControlRequest} {raised : Bool} :
      Transition host (.closeSend cancel)
        [.handed (.control cancel) raised, .finished .close .done] host .idle
  | infoAsked (opened : host.controller.closed = false) :
      Transition host .infoStart [] host .infoReply
  | infoLearned {info : Option RobotInfo} :
      Transition host .infoReply [.finished .getRobotInfo .done]
        (host.withController
          { host.controller with bodyInfo := info.elim host.controller.bodyInfo RobotInfo.body }) .idle

theorem waitFor_cases {Value : Type} {c : ExternalController} {value : Option Value} {expired : Bool}
    {message : String} {outcome : Except PyError Value}
    (answered : waitFor c value expired message = some outcome) :
    (∃ error, outcome = .error error) ∨
      c.closed = false ∧ ∃ result, value = some result ∧ outcome = .ok result := by
  unfold waitFor at answered
  cases opened : c.ensureOpen with
  | error error =>
      simp only [opened, Option.some.injEq] at answered
      exact Or.inl ⟨error, answered.symm⟩
  | ok _ =>
      cases value with
      | some result =>
          simp only [opened, Option.some.injEq] at answered
          exact Or.inr ⟨c.ensureOpen_ok.mp opened, result, rfl, answered.symm⟩
      | none =>
          cases expired with
          | false => simp [opened] at answered
          | true =>
              simp only [opened, if_true, Option.some.injEq] at answered
              exact Or.inl ⟨_, answered.symm⟩

theorem requireAccepted_ok {ack : ControlAck} (passed : requireAccepted ack = .ok ()) :
    ack.accepted = true := by
  unfold requireAccepted at passed
  cases accepted : ack.accepted with
  | true => rfl
  | false => simp [accepted] at passed


variable {host after : Host} {pc next : Pc} {choice : Choice} {events : List Event}

theorem enterStep_cases (stepped : enterStep host pc choice = some (after, next, events)) :
    Transition host pc events after next := by
  cases pc with
  | enterStart =>
      simp only [enterStep] at stepped
      cases began : host.controller.beginRequest choice.uuid with
      | error error =>
          simp only [began, Option.some.injEq, Prod.mk.injEq] at stepped
          obtain ⟨rfl, rfl, rfl⟩ := stepped
          exact .refused rfl ⟨_, began⟩
      | ok c =>
          by_cases used : choice.uuid = "" ∨ choice.uuid ∈ host.issuedIds
          · simp [began, used] at stepped
          · simp only [began, used, if_false, Option.some.injEq, Prod.mk.injEq] at stepped
            obtain ⟨rfl, rfl, rfl⟩ := stepped
            obtain ⟨opened, free, rfl⟩ := ExternalController.beginRequest_ok began
            exact .began opened free (not_or.mp used)
  | enterCheck requestId half =>
      simp only [enterStep] at stepped
      split at stepped
      · cases stepped
        exact .failed rfl
      · cases stepped
        exact .checked ‹_›
  | enterReadId requestId half =>
      cases stepped
      exact .readId
  | enterReadLease requestId half read =>
      cases stepped
      exact .readLease
  | enterSend requestId half request =>
      simp only [enterStep] at stepped
      split at stepped
      · cases stepped
        exact .sendRaised
      · cases stepped
        exact .sent
  | enterAck requestId half =>
      simp only [enterStep, waitForAck, Option.map_eq_some_iff] at stepped
      obtain ⟨outcome, answered, rest⟩ := stepped
      rcases waitFor_cases answered with ⟨error, rfl⟩ | ⟨opened, ack, answer, rfl⟩
      · cases rest
        exact .failed rfl
      · cases half with
        | prepare =>
            simp only [prepareOutcome, Prod.mk.injEq] at rest
            obtain ⟨rfl, rest, rfl⟩ := rest
            cases passed : requireAccepted ack with
            | error error =>
                simp only [passed] at rest
                exact rest ▸ .failed rfl
            | ok _ =>
                by_cases empty : ack.leaseId = ""
                · simp only [passed, empty, if_true] at rest
                  exact rest ▸ .failed rfl
                · simp only [passed, empty, if_false] at rest
                  exact rest ▸ .prepared opened answer (requireAccepted_ok passed) empty
        | commit before =>
            simp only [commitOutcome, Prod.mk.injEq] at rest
            obtain ⟨rfl, rest, rfl⟩ := rest
            cases passed : requireAccepted ack with
            | error error =>
                simp only [passed] at rest
                exact rest ▸ .failed rfl
            | ok _ =>
                simp only [passed] at rest
                exact rest ▸ .committed opened answer (requireAccepted_ok passed)
  | enterLearn requestId ack =>
      cases stepped
      exact .learned
  | enterCompare requestId before ack =>
      simp only [enterStep] at stepped
      split at stepped
      · cases stepped
        exact .failed rfl
      · rename_i agrees
        cases stepped
        exact .compared (by tauto)
  | enterStatus requestId before =>
      simp only [enterStep, Option.map_eq_some_iff] at stepped
      obtain ⟨outcome, answered, rest⟩ := stepped
      rcases waitFor_cases answered with ⟨error, rfl⟩ | ⟨opened, status, owned, rfl⟩
      · cases rest
        exact .failed rfl
      · cases rest
        exact .running opened owned
  | enterFinish status =>
      cases stepped
      exact .established
  | enterCancel error =>
      simp only [enterStep] at stepped
      split at stepped
      · cases stepped
        exact .failSkipped ‹_›
      · cases stepped
        exact .failClaimed ‹_›
  | enterCancelSend error cancel =>
      cases stepped
      exact .failSent
  | _ => simp [enterStep] at stepped

theorem publishStep_cases (stepped : publishStep host pc choice = some (after, next, events)) :
    Transition host pc events after next := by
  cases pc with
  | publishStart command =>
      simp only [publishStep] at stepped
      split at stepped
      · cases stepped
        exact .refused rfl ⟨_, _, ‹_›⟩
      · cases stepped
        exact .built ‹_›
  | publishSend command =>
      simp only [publishStep] at stepped
      split at stepped
      · cases stepped
        exact .commandRaised
      · cases stepped
        exact .commandSent
  | _ => simp [publishStep] at stepped

theorem exitStep_cases (stepped : exitStep host pc choice = some (after, next, events)) :
    Transition host pc events after next := by
  cases pc with
  | exitStart =>
      simp only [exitStep] at stepped
      cases started : host.controller.exitSection with
      | error error =>
          simp only [started, Option.some.injEq, Prod.mk.injEq] at stepped
          obtain ⟨rfl, rfl, rfl⟩ := stepped
          exact .refused rfl started
      | ok requestId =>
          simp only [started, Option.some.injEq, Prod.mk.injEq] at stepped
          obtain ⟨rfl, rfl, rfl⟩ := stepped
          obtain ⟨opened, current⟩ := ExternalController.exitSection_ok started
          exact .exitStarted opened current
  | exitCancel requestId =>
      simp only [exitStep] at stepped
      split at stepped
      · cases stepped
        exact .exitSkipped ‹_›
      · cases stepped
        exact .exitClaimed ‹_›
  | exitCancelSend requestId cancel =>
      cases stepped
      exact .exitSent
  | exitAck requestId =>
      simp only [exitStep, waitForAck, Option.map_eq_some_iff] at stepped
      obtain ⟨outcome, answered, rest⟩ := stepped
      rcases waitFor_cases answered with ⟨error, rfl⟩ | ⟨opened, ack, answer, rfl⟩
      · cases rest
        exact .refused rfl trivial
      · cases passed : requireAccepted ack with
        | error error =>
            simp only [passed, Prod.mk.injEq] at rest
            obtain ⟨rfl, rfl, rfl⟩ := rest
            exact .refused rfl trivial
        | ok _ =>
            simp only [passed, Prod.mk.injEq] at rest
            obtain ⟨rfl, rfl, rfl⟩ := rest
            exact .exitAccepted opened answer (requireAccepted_ok passed)
  | exitStatus =>
      simp only [exitStep, Option.map_eq_some_iff] at stepped
      obtain ⟨outcome, answered, rest⟩ := stepped
      rcases waitFor_cases answered with ⟨error, rfl⟩ | ⟨opened, status, seen, rfl⟩
      · cases rest
        exact .refused rfl trivial
      · cases rest
        exact .exitSeen opened seen
  | exitClear status =>
      cases stepped
      exact .cleared
  | _ => simp [exitStep] at stepped

theorem closeStep_cases (stepped : closeStep host pc choice = some (after, next, events)) :
    Transition host pc events after next := by
  cases pc with
  | closeStart =>
      simp only [closeStep] at stepped
      split at stepped
      · cases stepped
        exact .closedQuietly ‹_›
      · cases stepped
        exact .closedClaimed ‹_›
  | closeSend cancel =>
      cases stepped
      exact .closeSent
  | _ => simp [closeStep] at stepped

theorem infoStep_cases (stepped : infoStep host pc choice = some (after, next, events)) :
    Transition host pc events after next := by
  cases pc with
  | infoStart =>
      simp only [infoStep] at stepped
      split at stepped
      · cases stepped
        exact .refused rfl trivial
      · rename_i opened
        cases stepped
        exact .infoAsked (host.controller.ensureOpen_ok.mp opened)
  | infoReply =>
      simp only [infoStep] at stepped
      split at stepped
      · cases stepped
        exact .refused rfl trivial
      · cases stepped
        exact .refused rfl trivial
      · rename_i learned
        cases stepped
        rw [ExternalController.learnInfo_ok learned]
        exact .infoLearned
  | _ => simp [infoStep] at stepped

/-- Every step of a thread is one of the listed transitions. -/
theorem step_cases (stepped : host.step pc choice = some (after, next, events)) :
    Transition host pc events after next := by
  cases pc with
  | publishStart | publishSend =>
      exact publishStep_cases (show publishStep host _ choice = _ from stepped)
  | exitStart | exitCancel | exitCancelSend | exitAck | exitStatus | exitClear =>
      exact exitStep_cases (show exitStep host _ choice = _ from stepped)
  | closeStart | closeSend => exact closeStep_cases (show closeStep host _ choice = _ from stepped)
  | infoStart | infoReply => exact infoStep_cases (show infoStep host _ choice = _ from stepped)
  | _ => exact enterStep_cases (show enterStep host _ choice = _ from stepped)

/-- A closed controller keeps no request without a claimed CANCEL. -/
def ExternalController.Settled (c : ExternalController) : Prop :=
  c.closed = true → c.requestId = none ∨ c.cancelSent = true

theorem Transition.settled (step : Transition host pc events after next)
    (settled : host.controller.Settled) : after.controller.Settled := by
  cases step with
  | began opened => exact fun closed => absurd (opened.symm.trans closed) (by simp)
  | failClaimed claimed | exitClaimed claimed =>
      obtain ⟨_, _, _, rfl⟩ := ExternalController.claimCancel_some claimed
      exact fun _ => Or.inr rfl
  | built published =>
      obtain ⟨_, _, session, opened, _, _, _, changed, _, _, rfl⟩ :=
        ExternalController.publishSection_ok published
      have kept := ExternalController.publishSession_kept changed
      exact fun closed => absurd (opened.symm.trans (kept.2.2.2.2.2.2.2.symm.trans closed)) (by simp)
  | cleared => exact fun _ => Or.inl rfl
  | closedQuietly quiet =>
      obtain ⟨reason, rfl⟩ := ExternalController.closeSection_none quiet
      exact fun _ => reason.elim settled id
  | closedClaimed claims =>
      obtain ⟨_, _, _, _, rfl⟩ := ExternalController.closeSection_some claims
      exact fun _ => Or.inr rfl
  | _ => exact settled

end HumanoidSdk.Controller
