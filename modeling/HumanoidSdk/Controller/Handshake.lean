import HumanoidSdk.Controller.ProgramStep

namespace HumanoidSdk.Controller
open Foundation

/-- A fresh controller has no request. -/
def Host.fresh (clientId : String) : Host := ⟨{ clientId := clientId }, []⟩

/-- Every thread of a fresh pool is idle. -/
def freshPool (Thread : Type*) (clientId : String) : Pool Thread Host Pc :=
  ⟨Host.fresh clientId, fun _ => .idle⟩

abbrev HostMove (Thread : Type*) := Move (Pool Thread Host Pc) (PoolInput Thread Call Choice Signal) Event

abbrev hostMachine (Thread : Type*) [DecidableEq Thread] := program.machine Thread

/-- The operation and the lease of a control request that was handed over for this identity. -/
def requestFrom (requestId : String) : Event → Option (ControlOperation × String)
  | .handed (.control request) _ =>
      if request.requestId = some requestId then some (request.operation, request.leaseId) else none
  | _ => none

def requestsFor (requestId : String) (log : List Event) : List (ControlOperation × String) :=
  log.filterMap (requestFrom requestId)

@[simp] theorem requestsFor_append (requestId : String) (first second : List Event) :
    requestsFor requestId (first ++ second) = requestsFor requestId first ++ requestsFor requestId second :=
  List.filterMap_append

@[simp] theorem requestsFor_nil (requestId : String) : requestsFor requestId [] = [] := rfl

/-- Events without control requests hand over nothing. -/
theorem requestsFor_quiet (log : List Event) {events : List Event}
    (quiet : ∀ request raised, .handed (.control request) raised ∉ events) :
    (fun requestId => requestsFor requestId (log ++ events)) = fun requestId => requestsFor requestId log := by
  funext requestId
  have none : requestsFor requestId events = [] := by
    refine List.filterMap_eq_nil_iff.mpr fun event member => ?_
    match event with
    | .handed (.control request) raised => exact absurd member (quiet request raised)
    | .handed (.body _) _ | .called _ | .began _ | .built _ _ _ | .cleared _ | .finished _ _
    | .ackArrived _ | .statusArrived _ => rfl
  rw [requestsFor_append, none, List.append_nil]

/-- The hand-over of a control request did not raise. -/
def Event.calm : Event → Bool
  | .handed (.control _) raised => raised = false
  | _ => true

theorem calm_controls {log : List Event} (calm : log.all Event.calm = true) (request : ControlRequest) :
    .handed (.control request) true ∉ log := by
  intro raised
  have quiet := List.all_eq_true.mp calm _ raised
  simp [Event.calm] at quiet

/-- An entry has sent nothing, its PREPARE or also its COMMIT. -/
inductive Progress where
  | opened
  | prepared
  | committed
  deriving DecidableEq

/-- PREPARE carries no lease and COMMIT carries the learned one. -/
def Progress.sent (leaseId : String) : Progress → List (ControlOperation × String)
  | .opened => []
  | .prepared => [(.PREPARE, "")]
  | .committed => [(.PREPARE, ""), (.COMMIT, leaseId)]

def Half.before : Half → Progress
  | .prepare => .opened
  | .commit _ => .prepared

def Half.after : Half → Progress
  | .prepare => .prepared
  | .commit _ => .committed

/-- The lease of a request is learned between its two halves. -/
def Half.Ready (c : ExternalController) : Half → Prop
  | .prepare => c.leaseId = ""
  | .commit _ => c.leaseId ≠ ""

theorem Half.sent_next {c : ExternalController} {half : Half} (ready : half.Ready c) :
    half.after.sent c.leaseId = half.before.sent c.leaseId ++ [(half.operation, c.leaseId)] := by
  cases half with
  | prepare => simp [Half.after, Half.before, Half.operation, Progress.sent, show c.leaseId = "" from ready]
  | commit before => rfl

/-- The requests of an identity are the progress of its entry and then at most one CANCEL. -/
structure Formed (requests : List (ControlOperation × String)) (progress : Progress) (leaseId : String)
    (cancelled : Bool) : Prop where
  requests_eq : requests = progress.sent leaseId ++ if cancelled then [(.CANCEL, leaseId)] else []
  leased : progress = .committed → leaseId ≠ ""

/-- At most one CANCEL is handed over for an identity. -/
theorem Formed.cancel_count {requests : List (ControlOperation × String)} {progress : Progress}
    {leaseId : String} {cancelled : Bool} (formed : Formed requests progress leaseId cancelled) :
    (requests.map Prod.fst).count .CANCEL = if cancelled then 1 else 0 := by
  rw [formed.requests_eq]
  cases progress <;> cases cancelled <;> rfl

section Position

variable (handed : String → List (ControlOperation × String)) (c : ExternalController)

/-- The current request has made this progress, and the flag tells whether its CANCEL was claimed. -/
structure Stage (requestId : String) (progress : Progress) (claimed cancelled : Bool) : Prop where
  current : c.requestId = some requestId
  flag : c.cancelSent = claimed
  formed : Formed (handed requestId) progress c.leaseId cancelled

/-- These counters lie between the calls or in calls that leave the handshake alone. -/
def Pc.rests : Pc → Bool
  | .idle | .enterStart | .publishStart _ | .publishSend _ | .exitStart | .closeStart | .infoStart
  | .infoReply => true
  | _ => false

/-- The counter of the only thread tells how far the handshake of the current request is. -/
inductive Position : Pc → Prop
  | check {requestId : String} {half : Half} (stage : Stage handed c requestId half.before false false)
      (ready : half.Ready c) : Position (.enterCheck requestId half)
  | readId {requestId : String} {half : Half} (stage : Stage handed c requestId half.before false false)
      (ready : half.Ready c) : Position (.enterReadId requestId half)
  | readLease {requestId : String} {half : Half}
      (stage : Stage handed c requestId half.before false false) (ready : half.Ready c) :
      Position (.enterReadLease requestId half (some requestId))
  | send {requestId : String} {half : Half} (stage : Stage handed c requestId half.before false false)
      (ready : half.Ready c) :
      Position (.enterSend requestId half (c.requestFor (some requestId) half.operation))
  | ack {requestId : String} {half : Half} (stage : Stage handed c requestId half.after false false) :
      Position (.enterAck requestId half)
  | learn {requestId : String} {ack : ControlAck}
      (stage : Stage handed c requestId .prepared false false) (leased : ack.leaseId ≠ "") :
      Position (.enterLearn requestId ack)
  | compare {requestId : String} {before : Option ControlStatus} {ack : ControlAck}
      (stage : Stage handed c requestId .committed false false) :
      Position (.enterCompare requestId before ack)
  | status {requestId : String} {before : Option ControlStatus}
      (stage : Stage handed c requestId .committed false false) : Position (.enterStatus requestId before)
  | finish {requestId : String} {status : ControlStatus}
      (stage : Stage handed c requestId .committed false false) : Position (.enterFinish status)
  | fail {requestId : String} {progress : Progress} {error : PyError}
      (stage : Stage handed c requestId progress false false) : Position (.enterCancel error)
  | failSend {requestId : String} {progress : Progress} {error : PyError}
      (stage : Stage handed c requestId progress true false) :
      Position (.enterCancelSend error (c.request .CANCEL))
  | exitSend {requestId : String} {progress : Progress}
      (stage : Stage handed c requestId progress true false) :
      Position (.exitCancelSend requestId (c.request .CANCEL))
  | closeSend {requestId : String} {progress : Progress}
      (stage : Stage handed c requestId progress true false) : Position (.closeSend (c.request .CANCEL))
  | exitCancel {requestId : String} {progress : Progress} {cancelled : Bool}
      (stage : Stage handed c requestId progress cancelled cancelled) : Position (.exitCancel requestId)
  | exitAck {requestId : String} {progress : Progress}
      (stage : Stage handed c requestId progress true true) : Position (.exitAck requestId)
  | exitStatus {requestId : String} {progress : Progress}
      (stage : Stage handed c requestId progress true true) : Position .exitStatus
  | exitClear {requestId : String} {progress : Progress} {status : ControlStatus}
      (stage : Stage handed c requestId progress true true) : Position (.exitClear status)
  | rest {pc : Pc} (rests : pc.rests = true)
      (stage : ∀ requestId, c.requestId = some requestId →
        ∃ progress, Stage handed c requestId progress c.cancelSent c.cancelSent) : Position pc

end Position

/-- What one thread has handed over for every identity fits its program counter. -/
structure Handshake (log : List Event) (host : Host) (pc : Pc) : Prop where
  fresh : ∀ requestId, requestId ∉ host.issuedIds → requestsFor requestId log = []
  known : ∀ requestId, host.controller.requestId = some requestId → requestId ∈ host.issuedIds
  formed : ∀ requestId, ∃ progress leaseId cancelled,
    Formed (requestsFor requestId log) progress leaseId cancelled
  position : Position (fun requestId => requestsFor requestId log) host.controller pc

section Stage

variable {handed : String → List (ControlOperation × String)} {c c' : ExternalController}
  {requestId : String} {progress : Progress} {claimed cancelled : Bool}

theorem Stage.kept (same : c'.requestId = c.requestId ∧ c'.leaseId = c.leaseId ∧
    c'.cancelSent = c.cancelSent) (stage : Stage handed c requestId progress claimed cancelled) :
    Stage handed c' requestId progress claimed cancelled :=
  ⟨same.1.trans stage.current, same.2.2.trans stage.flag, same.2.1 ▸ stage.formed⟩

/-- The position depends on the identity, the lease and the flag only. -/
theorem Position.kept (same : c'.requestId = c.requestId ∧ c'.leaseId = c.leaseId ∧
    c'.cancelSent = c.cancelSent) (client : c'.clientId = c.clientId) {pc : Pc}
    (position : Position handed c pc) : Position handed c' pc := by
  have ready (half : Half) (was : half.Ready c) : half.Ready c' := by
    cases half with
    | prepare | commit => simpa [Half.Ready, same.2.1] using was
  have request (read : Option String) (operation : ControlOperation) :
      c.requestFor read operation = c'.requestFor read operation := by
    simp [ExternalController.requestFor, same, client]
  have cancel : c.request .CANCEL = c'.request .CANCEL := by
    simp [ExternalController.request, ExternalController.requestFor, same, client]
  cases position with
  | check stage was => exact .check (stage.kept same) (ready _ was)
  | readId stage was => exact .readId (stage.kept same) (ready _ was)
  | readLease stage was => exact .readLease (stage.kept same) (ready _ was)
  | send stage was => exact request _ _ ▸ .send (stage.kept same) (ready _ was)
  | ack stage => exact .ack (stage.kept same)
  | learn stage leased => exact .learn (stage.kept same) leased
  | compare stage => exact .compare (stage.kept same)
  | status stage => exact .status (stage.kept same)
  | finish stage => exact .finish (stage.kept same)
  | fail stage => exact .fail (stage.kept same)
  | failSend stage => exact cancel ▸ .failSend (stage.kept same)
  | exitSend stage => exact cancel ▸ .exitSend (stage.kept same)
  | closeSend stage => exact cancel ▸ .closeSend (stage.kept same)
  | exitCancel stage => exact .exitCancel (stage.kept same)
  | exitAck stage => exact .exitAck (stage.kept same)
  | exitStatus stage => exact .exitStatus (stage.kept same)
  | exitClear stage => exact .exitClear (stage.kept same)
  | rest rests stage =>
      refine .rest rests fun requestId current => ?_
      obtain ⟨progress, was⟩ := stage requestId (same.1 ▸ current)
      rw [same.2.2]
      exact ⟨progress, was.kept same⟩

/-- A finished handshake rests. -/
theorem Stage.rest (stage : Stage handed c requestId progress claimed claimed) {pc : Pc}
    (rests : pc.rests = true) : Position handed c pc := by
  refine .rest rests fun current same => ⟨progress, ?_⟩
  obtain rfl := Option.some.inj (stage.current.symm.trans same)
  rw [stage.flag]
  exact stage

/-- Handing over one control request extends the requests of its identity alone. -/
theorem requestsFor_handed (log : List Event) (request : ControlRequest) (raised : Bool)
    (rest : List Event) (quiet : ∀ request raised, .handed (.control request) raised ∉ rest)
    (current : request.requestId = some requestId) (asked : String) :
    requestsFor asked (log ++ .handed (.control request) raised :: rest) =
      requestsFor asked log ++ if asked = requestId then [(request.operation, request.leaseId)] else [] := by
  have tail : requestsFor asked rest = [] := by
    simpa using congrFun (requestsFor_quiet [] quiet) asked
  have split : log ++ .handed (.control request) raised :: rest =
      log ++ ([.handed (.control request) raised] ++ rest) := rfl
  rw [split, requestsFor_append, requestsFor_append, tail, List.append_nil]
  by_cases same : asked = requestId
  · simp [requestsFor, requestFrom, current, same]
  · simp [requestsFor, requestFrom, current, same, Ne.symm same]

/-- The half of an entry that was waiting to be sent completes its progress. -/
theorem Stage.send {log : List Event} {half : Half} {raised : Bool}
    (stage : Stage (fun requestId => requestsFor requestId log) c requestId half.before false false)
    (ready : half.Ready c) :
    Stage (fun asked => requestsFor asked (log ++
        [.handed (.control (c.requestFor (some requestId) half.operation)) raised]))
      c requestId half.after false false := by
  refine ⟨stage.current, stage.flag, ?_, ?_⟩
  · rw [requestsFor_handed log _ raised [] (by simp) rfl, stage.formed.requests_eq, half.sent_next ready]
    simp [ExternalController.requestFor]
  · intro committed
    cases half with
    | prepare => cases committed
    | commit before => exact ready

/-- The pending CANCEL completes the requests of its identity. -/
theorem Stage.cancel {log : List Event}
    (stage : Stage (fun requestId => requestsFor requestId log) c requestId progress true false)
    (raised : Bool) (rest : List Event) (quiet : ∀ request raised, .handed (.control request) raised ∉ rest) :
    Stage (fun asked => requestsFor asked (log ++ .handed (.control (c.request .CANCEL)) raised :: rest))
      c requestId progress true true := by
  refine ⟨stage.current, stage.flag, ?_, stage.formed.leased⟩
  rw [requestsFor_handed log _ raised rest quiet stage.current, stage.formed.requests_eq]
  simp [ExternalController.request, ExternalController.requestFor]

end Stage

namespace Handshake

variable {requestId : String} {progress : Progress} {claimed cancelled : Bool}
  {log events : List Event} {host after : Host} {pc next : Pc}

/-- A step that hands over no request keeps the records of the handed ones. -/
theorem quiet (held : Handshake log host pc)
    (quiet : ∀ request raised, .handed (.control request) raised ∉ events)
    (issued : after.issuedIds = host.issuedIds)
    (known : ∀ requestId, after.controller.requestId = some requestId → requestId ∈ host.issuedIds)
    (position : Position (fun requestId => requestsFor requestId log) after.controller next) :
    Handshake (log ++ events) after next := by
  have same := requestsFor_quiet log quiet
  refine ⟨fun asked unknown => ?_, fun asked current => ?_, fun asked => ?_, same ▸ position⟩
  · rw [issued] at unknown
    exact (congrFun same asked).trans (held.fresh asked unknown)
  · rw [issued]
    exact known asked current
  · obtain ⟨progress, leaseId, cancelled, formed⟩ := held.formed asked
    exact ⟨progress, leaseId, cancelled, (congrFun same asked).symm ▸ formed⟩

/-- A step that hands over a request of the current identity extends its records. -/
theorem handed {request : ControlRequest} {raised : Bool} {rest : List Event}
    (held : Handshake log host pc)
    (quiet : ∀ request raised, .handed (.control request) raised ∉ rest)
    (current : request.requestId = some requestId)
    (stage : Stage (fun asked => requestsFor asked (log ++ .handed (.control request) raised :: rest))
      host.controller requestId progress claimed cancelled)
    (position : Position (fun asked => requestsFor asked (log ++ .handed (.control request) raised :: rest))
      host.controller next) :
    Handshake (log ++ .handed (.control request) raised :: rest) host next := by
  have issued := held.known requestId stage.current
  have others (asked : String) (other : asked ≠ requestId) :
      requestsFor asked (log ++ .handed (.control request) raised :: rest) = requestsFor asked log := by
    rw [requestsFor_handed log request raised rest quiet current, if_neg other, List.append_nil]
  refine ⟨fun asked unknown => ?_, held.known, fun asked => ?_, position⟩
  · have other : asked ≠ requestId := fun same => unknown (same ▸ issued)
    exact (others asked other).trans (held.fresh asked unknown)
  · by_cases same : asked = requestId
    · subst same
      exact ⟨progress, host.controller.leaseId, cancelled, stage.formed⟩
    · rw [others asked same]
      exact held.formed asked

theorem initial (clientId : String) : Handshake [] (Host.fresh clientId) .idle where
  fresh _ _ := rfl
  known _ current := absurd current (by simp [Host.fresh])
  formed _ := ⟨.opened, "", false, rfl, by simp⟩
  position := .rest rfl fun _ current => absurd current (by simp [Host.fresh])

/-- Every transition of the only thread keeps the handshake. -/
theorem transition (held : Handshake log host pc) (step : Transition host pc events after next) :
    Handshake (log ++ events) after next := by
  have position := held.position
  cases step with
  | refused refuses =>
      refine held.quiet (by simp) rfl held.known ?_
      cases position with
      | rest rests stage => exact .rest rfl stage
      | exitAck stage | exitStatus stage => exact stage.rest rfl
      | _ => cases refuses
  | @began requestId opened free fresh =>
      have unknown := held.fresh requestId fresh.2
      have same := requestsFor_quiet log (show ∀ request raised,
        Event.handed (.control request) raised ∉ [Event.began requestId] by simp)
      refine ⟨fun asked new => ?_, fun asked current => ?_, fun asked => ?_, ?_⟩
      · exact (congrFun same asked).trans (held.fresh asked fun old => new (by simp [old]))
      · obtain rfl := Option.some.inj current
        simp
      · rw [congrFun same asked]
        exact held.formed asked
      · rw [same]
        exact .check ⟨rfl, rfl, by simpa [Half.before, Progress.sent] using unknown, by simp [Half.before]⟩ rfl
  | checked =>
      refine held.quiet (by simp) rfl held.known ?_
      cases position with
      | check stage ready => exact .readId stage ready
      | rest rests => cases rests
  | readId =>
      refine held.quiet (by simp) rfl held.known ?_
      cases position with
      | readId stage ready => exact stage.current ▸ .readLease stage ready
      | rest rests => cases rests
  | readLease =>
      refine held.quiet (by simp) rfl held.known ?_
      cases position with
      | readLease stage ready => exact .send stage ready
      | rest rests => cases rests
  | sent =>
      cases position with
      | send stage ready => exact held.handed (by simp) rfl (stage.send ready) (.ack (stage.send ready))
      | rest rests => cases rests
  | sendRaised =>
      cases position with
      | send stage ready => exact held.handed (by simp) rfl (stage.send ready) (.fail (stage.send ready))
      | rest rests => cases rests
  | failed may =>
      refine held.quiet (by simp) rfl held.known ?_
      cases position with
      | check stage | ack stage | compare stage | status stage => exact .fail stage
      | rest rests => cases pc <;> simp_all [Pc.rests, Pc.mayFail]
      | _ => cases may
  | prepared opened answer accepted leased =>
      refine held.quiet (by simp) rfl held.known ?_
      cases position with
      | ack stage => exact .learn stage leased
      | rest rests => cases rests
  | learned =>
      refine held.quiet (by simp) rfl held.known ?_
      cases position with
      | learn stage leased =>
          have sent : Progress.prepared.sent host.controller.leaseId = [(.PREPARE, "")] := rfl
          exact .check ⟨stage.current, stage.flag, sent ▸ stage.formed.requests_eq, by simp [Half.before]⟩
            leased
      | rest rests => cases rests
  | committed =>
      refine held.quiet (by simp) rfl held.known ?_
      cases position with
      | ack stage => exact .compare stage
      | rest rests => cases rests
  | compared =>
      refine held.quiet (by simp) rfl held.known ?_
      cases position with
      | compare stage => exact .status stage
      | rest rests => cases rests
  | running =>
      refine held.quiet (by simp) rfl held.known ?_
      cases position with
      | status stage => exact .finish stage
      | rest rests => cases rests
  | established =>
      refine held.quiet (by simp) rfl held.known ?_
      cases position with
      | finish stage =>
          have rested : Position _ host.controller .idle := stage.rest rfl
          exact rested.kept (by exact ⟨rfl, rfl, rfl⟩) (by rfl)
      | rest rests => cases rests
  | failSkipped skipped =>
      refine held.quiet (by simp) rfl held.known ?_
      cases position with
      | fail stage => exact stage.rest rfl
      | rest rests => cases rests
  | failClaimed claimed =>
      obtain ⟨_, _, rfl, rfl⟩ := ExternalController.claimCancel_some claimed
      refine held.quiet (by simp) rfl held.known ?_
      cases position with
      | fail stage => exact .failSend ⟨stage.current, rfl, stage.formed⟩
      | rest rests => cases rests
  | @failSent error _ raised =>
      cases position with
      | failSend stage =>
          have cancelled := stage.cancel raised [.finished .enterExternal (.raised error)] (by simp)
          exact held.handed (by simp) stage.current cancelled (cancelled.rest rfl)
      | rest rests => cases rests
  | built published =>
      obtain ⟨checked, status, session, _, _, _, _, changed, _, rfl, rfl⟩ :=
        ExternalController.publishSection_ok published
      obtain ⟨request, lease, client, _, _, _, flag, _⟩ := ExternalController.publishSession_kept changed
      refine held.quiet (by simp) rfl (fun asked current => held.known asked (request ▸ current)) ?_
      cases position with
      | rest rests stage =>
          have rested (built : BodyCmd) : Position _ host.controller (.publishSend built) :=
            .rest rfl stage
          exact (rested _).kept (by exact ⟨request, lease, flag⟩) (by exact client)
  | commandSent | commandRaised =>
      refine held.quiet (by simp) rfl held.known ?_
      cases position with
      | rest rests stage => exact .rest rfl stage
  | exitStarted opened current =>
      refine held.quiet (by simp) rfl held.known ?_
      cases position with
      | rest rests stage =>
          obtain ⟨progress, now⟩ := stage _ current
          exact .exitCancel now
  | exitSkipped skipped =>
      refine held.quiet (by simp) rfl held.known ?_
      cases position with
      | exitCancel stage =>
          rcases ExternalController.claimCancel_none skipped with missing | claimed
          · exact absurd (missing.symm.trans stage.current) (by simp)
          · obtain rfl := stage.flag.symm.trans claimed
            exact .exitAck stage
      | rest rests => cases rests
  | exitClaimed claimed =>
      obtain ⟨_, unsent, rfl, rfl⟩ := ExternalController.claimCancel_some claimed
      refine held.quiet (by simp) rfl held.known ?_
      cases position with
      | exitCancel stage =>
          obtain rfl := stage.flag.symm.trans unsent
          exact .exitSend ⟨stage.current, rfl, stage.formed⟩
      | rest rests => cases rests
  | @exitSent _ _ raised =>
      cases position with
      | exitSend stage =>
          have cancelled := stage.cancel raised [] (by simp)
          exact held.handed (by simp) stage.current cancelled (.exitAck cancelled)
      | rest rests => cases rests
  | exitAccepted =>
      refine held.quiet (by simp) rfl held.known ?_
      cases position with
      | exitAck stage => exact .exitStatus stage
      | rest rests => cases rests
  | exitSeen =>
      refine held.quiet (by simp) rfl held.known ?_
      cases position with
      | exitStatus stage => exact .exitClear stage
      | rest rests => cases rests
  | cleared =>
      refine held.quiet (by simp) rfl ?_ ?_
      · simp [ExternalController.clearSession]
      · exact .rest rfl fun requestId current => absurd current (by simp [ExternalController.clearSession])
  | closedQuietly quiet =>
      obtain ⟨_, rfl⟩ := ExternalController.closeSection_none quiet
      refine held.quiet (by simp) rfl held.known ?_
      cases position with
      | rest rests stage =>
          have rested : Position _ host.controller .idle := .rest rfl stage
          exact rested.kept (by exact ⟨rfl, rfl, rfl⟩) (by rfl)
  | closedClaimed claims =>
      obtain ⟨_, ⟨requestId, current⟩, unsent, rfl, rfl⟩ := ExternalController.closeSection_some claims
      refine held.quiet (by simp) rfl held.known ?_
      cases position with
      | rest rests stage =>
          obtain ⟨progress, now⟩ := stage _ current
          exact .closeSend ⟨current, rfl, unsent ▸ now.formed⟩
  | @closeSent _ raised =>
      cases position with
      | closeSend stage =>
          have cancelled := stage.cancel raised [.finished .close .done] (by simp)
          exact held.handed (by simp) stage.current cancelled (cancelled.rest rfl)
      | rest rests => cases rests
  | infoAsked =>
      refine held.quiet (by simp) rfl held.known ?_
      cases position with
      | rest rests stage => exact .rest rfl stage
  | infoLearned =>
      refine held.quiet (by simp) rfl held.known ?_
      cases position with
      | rest rests stage =>
          have rested : Position _ host.controller .idle := .rest rfl stage
          exact rested.kept (by exact ⟨rfl, rfl, rfl⟩) (by rfl)

/-- Starting a call leaves a resting counter resting. -/
theorem startCall_cases (request : Call) :
    (startCall request).1.rests = true ∧
      ((startCall request).2 = [.called request] ∨
        ∃ method error, (startCall request).1 = .idle ∧
          (startCall request).2 = [.called request, .finished method (.raised error)]) := by
  cases request with
  | enterExternal timeout | exitExternal timeout | getRobotInfo timeout =>
      cases deadline : deadlineError timeout with
      | none => simp [startCall, deadline, Pc.rests]
      | some error => simp [startCall, deadline, Pc.rests]
  | publish | close => exact ⟨rfl, Or.inl rfl⟩

/-- Every act of the only thread keeps the handshake. -/
theorem act (held : Handshake log host pc) (acted : program.Act host pc events after next) :
    Handshake (log ++ events) after next := by
  cases acted with
  | call ready request =>
      obtain ⟨rests, shape⟩ := startCall_cases request
      have free : ∀ asked raised, Event.handed (.control asked) raised ∉ (startCall request).2 := by
        rcases shape with one | ⟨method, error, _, two⟩
        · simp [one]
        · simp [two]
      refine held.quiet free rfl held.known ?_
      have idle : pc = .idle := of_decide_eq_true ready
      have position := held.position
      rw [idle] at position
      cases position with
      | rest _ stage => exact .rest rests stage
  | step stepped => exact held.transition (step_cases stepped)

theorem react (held : Handshake log host pc) (signal : Signal) :
    Handshake (log ++ (host.react signal).2) (host.react signal).1 pc := by
  cases signal with
  | ack ack | status status =>
      refine held.quiet (by simp [Host.react]) rfl ?_ ?_
      · simpa [Host.react] using held.known
      · exact held.position.kept (by simp [Host.react]) (by simp [Host.react])

/-- Every run of one thread keeps the handshake. -/
theorem run {clientId : String} {moves : List (HostMove Unit)} {final : Pool Unit Host Pc}
    (run : (hostMachine Unit).Run (freshPool Unit clientId) moves final) :
    Handshake (trace moves) final.shared (final.threads ()) :=
  Program.run_alone Handshake (Handshake.initial clientId) (fun _ _ _ _ _ _ held acted => held.act acted)
    (fun _ _ _ signal held => held.react signal) run

end Handshake

abbrev HostInput (Thread : Type*) := PoolInput Thread Call Choice Signal

/-- The only thread takes this many steps without a special choice. -/
def runs (count : Nat) : List (HostInput Unit) := List.replicate count (.run () {})

/-- An entry whose PREPARE is handed over. -/
def prepareInputs : List (HostInput Unit) :=
  [.call () (.enterExternal (.float (.finite 5))), .run () { uuid := "request" }] ++ runs 4

/-- The robot answers an operation of this entry. -/
def answerInput (operation : ControlOperation) (accepted : Bool) (leaseId : String) : HostInput Unit :=
  .signal (.ack ⟨"request", operation, accepted, 0, "", leaseId, PROTOCOL_VERSION⟩)

/-- The entry goes on until its COMMIT is handed over. -/
def commitInputs : List (HostInput Unit) :=
  prepareInputs ++ [answerInput .PREPARE true "lease"] ++ runs 6

/-- A RUNNING status of this generation that the client owns. -/
def runningStatus (generation stamp : ℤ) : ControlStatus where
  statusSeq := stamp
  currentAction := "EXTERNAL"
  phase := .RUNNING
  clientId := "client"
  leaseId := "lease"
  generation := generation
  stampMonotonicNs := stamp

/-- The entry succeeds with generation 42. -/
def enteredInputs : List (HostInput Unit) :=
  commitInputs ++ [answerInput .COMMIT true ""] ++ runs 2 ++
    [.signal (.status (runningStatus 42 1))] ++ runs 2

/-- A valid command that leaves every joint at zero. -/
def zeroCommand : BodyCmd where
  joints := some (List.replicate BODY_SLOTS (some {}))

end HumanoidSdk.Controller
