import HumanoidSdk.Controller.Retry
import HumanoidSdk.Controller.Sequence

namespace HumanoidSdk.Controller
open Foundation

/-- A thread that claimed a CANCEL holds it until it hands it over. -/
def Pc.waitingCancel : Pc → Option ControlRequest
  | .enterCancelSend _ cancel | .exitCancelSend _ cancel | .closeSend cancel => some cancel
  | _ => none

/-- A PREPARE or COMMIT of this identity was handed over. -/
def Opened (requestId : String) (log : List Event) : Prop :=
  ∃ entry ∈ requestsFor requestId log, entry.1 ≠ .CANCEL

instance (requestId : String) (log : List Event) : Decidable (Opened requestId log) :=
  inferInstanceAs (Decidable (∃ entry ∈ _, _))

/-- A transition names what it does to the duty of the controller to cancel. -/
inductive CancelEffect (host : Host) (pc : Pc) (events : List Event) (after : Host) (next : Pc) : Prop
  | quiet (silent : ∀ request raised, .handed (.control request) raised ∉ events)
      (same : after.controller.requestId = host.controller.requestId ∧
        after.controller.cancelSent = host.controller.cancelSent)
      (before : pc.waitingCancel = none) (waits : next.waitingCancel = none)
  | began (silent : ∀ request raised, .handed (.control request) raised ∉ events)
      (free : host.controller.requestId = none) (unsent : after.controller.cancelSent = false)
      (before : pc.waitingCancel = none) (waits : next.waitingCancel = none)
  | claimed (silent : ∀ request raised, .handed (.control request) raised ∉ events) (cancel : ControlRequest)
      (request : cancel.requestId = host.controller.requestId ∧ cancel.operation = .CANCEL)
      (same : after.controller.requestId = host.controller.requestId)
      (before : pc.waitingCancel = none) (waits : next.waitingCancel = some cancel)
  | opened (requestId : String) (half : Half) (request : ControlRequest) (raised : Bool)
      (sends : pc = .enterSend requestId half request) (only : events = [.handed (.control request) raised])
      (same : after = host) (waits : next.waitingCancel = none)
  | cancelled (cancel : ControlRequest) (raised : Bool) (rest : List Event)
      (silent : ∀ request raised, .handed (.control request) raised ∉ rest)
      (before : pc.waitingCancel = some cancel) (first : events = .handed (.control cancel) raised :: rest)
      (same : after = host) (waits : next.waitingCancel = none)
  | cleared (silent : ∀ request raised, .handed (.control request) raised ∉ events) (status : ControlStatus)
      (clears : pc = .exitClear status) (forgotten : after.controller.requestId = none)
      (waits : next.waitingCancel = none)

theorem Pc.refusal_waitingCancel {pc : Pc} {method : Method} (refuses : pc.refusal = some method) :
    pc.waitingCancel = none := by
  cases pc with
  | enterCancelSend | exitCancelSend | closeSend => cases refuses
  | _ => rfl

theorem Pc.mayFail_waitingCancel {pc : Pc} (may : pc.mayFail = true) : pc.waitingCancel = none := by
  cases pc with
  | enterCancelSend | exitCancelSend | closeSend => cases may
  | _ => rfl

theorem Transition.cancelEffect {host after : Host} {pc next : Pc} {events : List Event}
    (step : Transition host pc events after next) : CancelEffect host pc events after next := by
  cases step with
  | refused refuses => exact .quiet (by simp) ⟨rfl, rfl⟩ (Pc.refusal_waitingCancel refuses) rfl
  | failed may => exact .quiet (by simp) ⟨rfl, rfl⟩ (Pc.mayFail_waitingCancel may) rfl
  | began _ free => exact .began (by simp) free rfl rfl rfl
  | sent => exact .opened _ _ _ false rfl rfl rfl rfl
  | sendRaised => exact .opened _ _ _ true rfl rfl rfl rfl
  | failClaimed claimed | exitClaimed claimed =>
      obtain ⟨_, _, rfl, rfl⟩ := ExternalController.claimCancel_some claimed
      exact .claimed (by simp) _ ⟨rfl, rfl⟩ rfl rfl rfl
  | closedClaimed claims =>
      obtain ⟨_, _, _, rfl, rfl⟩ := ExternalController.closeSection_some claims
      exact .claimed (by simp) _ ⟨rfl, rfl⟩ rfl rfl rfl
  | failSent | exitSent | closeSent => exact .cancelled _ _ _ (by simp) rfl rfl rfl rfl
  | cleared => exact .cleared (by simp) _ rfl rfl rfl
  | closedQuietly quiet =>
      obtain ⟨_, rfl⟩ := ExternalController.closeSection_none quiet
      exact .quiet (by simp) ⟨rfl, rfl⟩ rfl rfl
  | built published =>
      obtain ⟨_, _, session, _, _, _, _, changed, _, _, rfl⟩ := ExternalController.publishSection_ok published
      obtain ⟨request, _, _, _, _, _, flag, _⟩ := ExternalController.publishSession_kept changed
      exact .quiet (by simp) ⟨request, flag⟩ rfl rfl
  | _ => exact .quiet (by simp) ⟨rfl, rfl⟩ rfl rfl

section Abandon

variable {Thread : Type*}

/-- Some thread holds a CANCEL of this identity. -/
def WaitsToCancel (requestId : String) (threads : Thread → Pc) : Prop :=
  ∃ thread cancel, (threads thread).waitingCancel = some cancel ∧ cancel.requestId = some requestId

/-- The duty to cancel a request is open: its identity is current and its CANCEL unclaimed. -/
def Owed (requestId : String) (c : ExternalController) : Prop :=
  c.requestId = some requestId ∧ c.cancelSent = false

/-- PREPARE and COMMIT leave while a CANCEL is still to come, and an exit forgets only a request
whose CANCEL was claimed or which was never handed over. -/
structure Cancellable (moves : List (HostMove Thread)) : Prop where
  sends : ∀ move ∈ moves, ∀ thread choice current half request requestId,
    move.input = .run thread choice → move.before.threads thread = .enterSend current half request →
    request.requestId = some requestId →
    Owed requestId move.before.shared.controller ∨ WaitsToCancel requestId move.before.threads
  clears : ∀ earlier move later, moves = earlier ++ move :: later → ∀ thread choice status requestId,
    move.input = .run thread choice → move.before.threads thread = .exitClear status →
    Owed requestId move.before.shared.controller → ¬ Opened requestId (trace earlier)

/-- The last control request of this identity is a CANCEL. -/
def EndsCancelled (requestId : String) (log : List Event) : Prop :=
  ∃ leaseId, (requestsFor requestId log).getLast? = some (.CANCEL, leaseId)

/-- Every opened request is cancelled, about to be cancelled or still to be cancelled. -/
structure Covered (log : List Event) (pool : Pool Thread Host Pc) : Prop where
  cancels : ∀ thread cancel, (pool.threads thread).waitingCancel = some cancel → cancel.operation = .CANCEL
  covered : ∀ requestId, Opened requestId log →
    EndsCancelled requestId log ∨ WaitsToCancel requestId pool.threads ∨
      Owed requestId pool.shared.controller

variable {moves : List (HostMove Thread)} {pool next : Pool Thread Host Pc} {log events : List Event}

/-- A thread that held no CANCEL gives up none. -/
theorem WaitsToCancel.update [DecidableEq Thread] {requestId : String} {threads : Thread → Pc} {thread : Thread} (there : Pc)
    (before : (threads thread).waitingCancel = none) (waits : WaitsToCancel requestId threads) :
    WaitsToCancel requestId (Function.update threads thread there) := by
  obtain ⟨other, cancel, held, identity⟩ := waits
  have different : other ≠ thread := by
    rintro rfl
    rw [before] at held
    cases held
  exact ⟨other, cancel, by rwa [Function.update_of_ne different], identity⟩

/-- Without a new control request the records of all identities stay. -/
theorem records_kept (none : ∀ request raised, .handed (.control request) raised ∉ events)
    (requestId : String) : (Opened requestId (log ++ events) ↔ Opened requestId log) ∧
      (EndsCancelled requestId (log ++ events) ↔ EndsCancelled requestId log) := by
  have same := congrFun (requestsFor_quiet log none) requestId
  simp only [Opened, EndsCancelled]
  exact ⟨by rw [same], by rw [same]⟩

/-- A step without control requests keeps the cover when it keeps waiting and owing. -/
theorem Covered.quiet (held : Covered log pool)
    (none : ∀ request raised, .handed (.control request) raised ∉ events)
    (cancels : ∀ thread cancel, (next.threads thread).waitingCancel = some cancel → cancel.operation = .CANCEL)
    (kept : ∀ requestId, Opened requestId log →
      WaitsToCancel requestId pool.threads ∨ Owed requestId pool.shared.controller →
      WaitsToCancel requestId next.threads ∨ Owed requestId next.shared.controller) :
    Covered (log ++ events) next := by
  refine ⟨cancels, fun requestId opened => ?_⟩
  obtain ⟨sameOpened, sameEnd⟩ := records_kept none requestId
  have before := sameOpened.mp opened
  rcases held.covered requestId before with ended | owing
  · exact Or.inl (sameEnd.mpr ended)
  · exact Or.inr (kept requestId before owing)

variable [DecidableEq Thread]

/-- The CANCEL operations stay with the threads that hold them. -/
theorem cancels_update (held : Covered log pool) {thread : Thread} {there : Pc}
    (own : ∀ cancel, there.waitingCancel = some cancel → cancel.operation = .CANCEL) :
    ∀ other cancel, (Function.update pool.threads thread there other).waitingCancel = some cancel →
      cancel.operation = .CANCEL := by
  intro other cancel waits
  by_cases same : other = thread
  · rw [same, Function.update_self] at waits
    exact own cancel waits
  · rw [Function.update_of_ne same] at waits
    exact held.cancels other cancel waits

/-- A step of one thread keeps the cover while the condition holds. -/
theorem Covered.effect (held : Covered log pool) {thread : Thread} {shared : Host} {there : Pc}
    (effect : CancelEffect pool.shared (pool.threads thread) events shared there)
    (sends : ∀ current half request requestId,
      pool.threads thread = .enterSend current half request → request.requestId = some requestId →
      Owed requestId pool.shared.controller ∨ WaitsToCancel requestId pool.threads)
    (clears : ∀ status requestId, pool.threads thread = .exitClear status →
      Owed requestId pool.shared.controller → ¬ Opened requestId log) :
    Covered (log ++ events) ⟨shared, Function.update pool.threads thread there⟩ := by
  cases effect with
  | quiet none same before waits =>
      refine held.quiet none (cancels_update held (by simp [waits])) fun requestId _ owing => ?_
      refine owing.imp (fun waiting => waiting.update there before) fun owed => ?_
      exact ⟨same.1.trans owed.1, same.2.trans owed.2⟩
  | began none free unsent before waits =>
      refine held.quiet none (cancels_update held (by simp [waits])) fun requestId _ owing => ?_
      refine owing.imp (fun waiting => waiting.update there before) fun owed => ?_
      exact absurd (free.symm.trans owed.1) (by simp)
  | claimed none cancel request same before waits =>
      refine held.quiet none (cancels_update held ?_) fun requestId _ owing => Or.inl ?_
      · intro other mine
        obtain rfl := Option.some.inj (waits.symm.trans mine)
        exact request.2
      · rcases owing with waiting | owed
        · exact waiting.update there before
        · exact ⟨thread, cancel, by simp [waits], request.1.trans owed.1⟩
  | cleared none status clears' forgotten waits =>
      refine held.quiet none (cancels_update held (by simp [waits])) fun requestId opened owing => ?_
      rcases owing with waiting | owed
      · exact Or.inl (waiting.update there (by rw [clears']; rfl))
      · exact absurd opened (clears status requestId clears' owed)
  | opened current half request raised sends' only same waits =>
      subst same
      refine ⟨cancels_update held (by simp [waits]), fun requestId opened => ?_⟩
      have before : (pool.threads thread).waitingCancel = none := by rw [sends']; rfl
      have stays (owing : WaitsToCancel requestId pool.threads ∨ Owed requestId pool.shared.controller) :
          WaitsToCancel requestId (Function.update pool.threads thread there) ∨
            Owed requestId pool.shared.controller := owing.imp_left fun waiting => waiting.update there before
      by_cases identity : request.requestId = some requestId
      · exact Or.inr (stays (sends current half request requestId sends' identity).symm)
      · have none : requestsFor requestId (log ++ events) = requestsFor requestId log := by
          rw [only, requestsFor_append]
          simp [requestsFor, requestFrom, identity]
        simp only [Opened, EndsCancelled, none] at opened ⊢
        exact (held.covered requestId opened).imp_right stays
  | cancelled cancel raised rest none before first same waits =>
      subst same
      refine ⟨cancels_update held (by simp [waits]), fun requestId opened => ?_⟩
      have tail : requestsFor requestId rest = [] := by
        simpa using congrFun (requestsFor_quiet [] none) requestId
      by_cases identity : cancel.requestId = some requestId
      · refine Or.inl ⟨cancel.leaseId, ?_⟩
        rw [first, requestsFor_handed log cancel raised rest none identity, if_pos rfl,
          List.getLast?_concat, held.cancels thread cancel before]
      · have kept : requestsFor requestId (log ++ events) = requestsFor requestId log := by
          rw [first, requestsFor_append]
          have head : requestsFor requestId (.handed (.control cancel) raised :: rest) = [] := by
            simpa [requestsFor, requestFrom, identity] using tail
          rw [head, List.append_nil]
        simp only [Opened, EndsCancelled, kept] at opened ⊢
        refine (held.covered requestId opened).imp_right (Or.imp_left ?_)
        rintro ⟨other, waiting, holds, mine⟩
        have different : other ≠ thread := by
          rintro rfl
          obtain rfl := Option.some.inj (before.symm.trans holds)
          exact identity mine
        exact ⟨other, waiting, by rwa [Function.update_of_ne different], mine⟩

/-- Every run that meets the condition covers all its requests. -/
theorem covered_run {clientId : String} (run : (hostMachine Thread).Run (freshPool Thread clientId) moves pool)
    (condition : Cancellable moves) : Covered (trace moves) pool := by
  refine run.invariant (fun moves pool => Cancellable moves → Covered (trace moves) pool) ?_ ?_ condition
  · intro _
    exact ⟨by simp [freshPool, Pc.waitingCancel], by simp [Opened]⟩
  · intro moves pool input next events _ ih accepted condition
    have held := ih ⟨fun move member => condition.sends move (List.mem_append_left _ member), fun earlier move later
      cut => condition.clears earlier move (later ++ [⟨pool, input, next, events⟩]) (by simp [cut])⟩
    simp only [trace_append, trace_cons, trace_nil, List.append_nil]
    cases Program.machine_cases accepted with
    | @call thread request ready =>
        have idle : pool.threads thread = .idle := of_decide_eq_true ready
        obtain ⟨rests, shape⟩ := Handshake.startCall_cases request
        have waits : (startCall request).1.waitingCancel = none := by
          generalize (startCall request).1 = pc at rests
          cases pc with
          | enterCancelSend | exitCancelSend | closeSend => cases rests
          | _ => rfl
        refine held.quiet ?_ (cancels_update held ?_) fun requestId _ owing => ?_
        · rcases shape with one | ⟨method, error, _, two⟩
          · simp [program, one]
          · simp [program, two]
        · simp [program, waits]
        · exact owing.imp_left fun waiting => waiting.update _ (by rw [idle]; rfl)
    | @run thread choice shared there events stepped =>
        refine held.effect (step_cases stepped).cancelEffect ?_ ?_
        · intro current half request requestId sends identity
          exact condition.sends _ (List.mem_append_right _ (List.mem_singleton_self _)) thread choice current
            half request requestId rfl sends identity
        · intro status requestId clears owed
          exact condition.clears moves _ [] rfl thread choice status requestId rfl clears owed
    | signal signal =>
        cases signal with
        | ack ack | status status =>
            refine held.quiet (by simp [program, Host.react]) held.cancels fun requestId _ owing => ?_
            simpa [program, Host.react, Owed] using owing

/-- A CANCEL of this identity was handed over, and no PREPARE or COMMIT of it follows. -/
def CancelledAfter (requestId : String) (log : List Event) : Prop :=
  ∃ before cancel after, log = before ++ .handed (.control cancel) false :: after ∧
    cancel.requestId = some requestId ∧ cancel.operation = .CANCEL ∧ ¬ Opened requestId after

/-- When no hand-over raises, the last request of an identity is a CANCEL exactly when one was handed
over after all others. -/
theorem endsCancelled_iff {requestId : String} {log : List Event}
    (calm : ∀ request, .handed (.control request) true ∉ log) :
    EndsCancelled requestId log ↔ CancelledAfter requestId log := by
  constructor
  · intro ends
    induction log using List.reverseRecOn with
    | nil =>
        obtain ⟨leaseId, last⟩ := ends
        cases last
    | append_singleton log event ih =>
        obtain ⟨leaseId, last⟩ := ends
        rw [requestsFor_append] at last
        cases recorded : requestFrom requestId event with
        | none =>
            have none : requestsFor requestId [event] = [] := by simp [requestsFor, recorded]
            rw [none, List.append_nil] at last
            obtain ⟨before, cancel, after, rfl, identity, operation, rest⟩ :=
              ih (fun request member => calm request (List.mem_append_left _ member)) ⟨leaseId, last⟩
            refine ⟨before, cancel, after ++ [event], by simp, identity, operation, ?_⟩
            rwa [Opened, requestsFor_append, none, List.append_nil]
        | some entry =>
            have one : requestsFor requestId [event] = [entry] := by simp [requestsFor, recorded]
            rw [one, List.getLast?_concat] at last
            obtain rfl := Option.some.inj last
            cases event with
            | handed message raised =>
                cases message with
                | body => cases recorded
                | control cancel =>
                    by_cases identity : cancel.requestId = some requestId
                    · simp only [requestFrom, identity, if_true, Option.some.injEq, Prod.mk.injEq] at recorded
                      cases raised with
                      | true => exact absurd (by simp) (calm cancel)
                      | false => exact ⟨log, cancel, [], rfl, identity, recorded.1, by simp [Opened]⟩
                    · simp [requestFrom, identity] at recorded
            | _ => cases recorded
  · rintro ⟨before, cancel, after, rfl, identity, operation, quiet⟩
    have entries : requestsFor requestId (before ++ .handed (.control cancel) false :: after) =
        requestsFor requestId before ++ (.CANCEL, cancel.leaseId) :: requestsFor requestId after := by
      rw [requestsFor_append]
      simp [requestsFor, requestFrom, identity, operation]
    rw [EndsCancelled, entries]
    rcases List.eq_nil_or_concat (requestsFor requestId after) with empty | ⟨init, ⟨last, leaseId⟩, ends⟩
    · exact ⟨cancel.leaseId, by rw [empty, List.getLast?_concat]⟩
    · have cancels : last = .CANCEL := by
        by_contra other
        exact quiet ⟨(last, leaseId), by simp [ends], other⟩
      refine ⟨leaseId, ?_⟩
      rw [ends, cancels, List.concat_eq_append, ← List.cons_append, ← List.append_assoc, List.getLast?_concat]

/-- In every run that meets the condition, a request that was forgotten or whose controller was closed
is cancelled after its PREPARE and its COMMIT once every call has returned. -/
theorem lease_cancelled {clientId requestId : String}
    (run : (hostMachine Thread).Run (freshPool Thread clientId) moves pool)
    (calm : ∀ request, .handed (.control request) true ∉ trace moves) (condition : Cancellable moves)
    (idle : ∀ thread, pool.threads thread = .idle)
    (forgotten : pool.shared.controller.requestId ≠ some requestId ∨ pool.shared.controller.closed = true)
    (prepared : Handed .PREPARE requestId (trace moves)) : CancelledAfter requestId (trace moves) := by
  have covered := covered_run run condition
  have opened : Opened requestId (trace moves) := by
    obtain ⟨entry, member, prepare⟩ := List.mem_map.mp prepared
    exact ⟨entry, member, by rw [prepare]; simp⟩
  rcases covered.covered requestId opened with ended | ⟨thread, cancel, waits, _⟩ | ⟨current, unsent⟩
  · exact (endsCancelled_iff calm).mp ended
  · rw [idle thread] at waits
    cases waits
  · rcases forgotten with other | closed
    · exact absurd current other
    · rcases settled_run run closed with missing | sent
      · exact absurd (current.symm.trans missing) (by simp)
      · exact absurd (unsent.symm.trans sent) (by simp)

end Abandon

/-- A thread that sends PREPARE or COMMIT holds the request until it hands it over. -/
def Pc.waitingEntry : Pc → Option ControlRequest
  | .enterSend _ _ request => some request
  | _ => none

/-- The last step of an exit forgets the request. -/
def Pc.forgets : Pc → Bool
  | .exitClear _ => true
  | _ => false

/-- A second thread closes the controller while the entry waits for RUNNING after its COMMIT. -/
theorem lease_cancelled_committed :
    ∃ moves final, (hostMachine Bool).Run (freshPool Bool "client") moves final ∧
      Handed .COMMIT "request" (trace moves) ∧ CancelledAfter "request" (trace moves) := by
  obtain ⟨moves, final, run, _, calm, sends, clears, idle, closed, prepared, committed⟩ :=
    (hostMachine Bool).exists_run (freshPool Bool "client")
      ((commitInputs ++ [answerInput .COMMIT true ""]).map (onThread false) ++
        [.call true .close, .run true {}, .run false {}, .run true {}, .run false {}])
      (fun moves final => (trace moves).all Event.calm = true ∧
        (∀ thread, (moves.all fun move => (move.before.threads thread).waitingEntry.all fun request =>
          move.before.shared.controller.requestId = request.requestId ∧
            move.before.shared.controller.cancelSent = false) = true) ∧
        (∀ thread, (moves.all fun move => !(move.before.threads thread).forgets) = true) ∧
        (∀ thread, final.threads thread = .idle) ∧ final.shared.controller.closed = true ∧
        Handed .PREPARE "request" (trace moves) ∧ Handed .COMMIT "request" (trace moves)) (by decide +kernel)
  refine ⟨moves, final, run, committed,
    lease_cancelled run (calm_controls calm) ⟨?_, ?_⟩ idle (Or.inr closed) prepared⟩
  · intro move member thread choice current half request requestId _ counter identity
    have test := List.all_eq_true.mp (sends thread) move member
    rw [counter] at test
    obtain ⟨same, unsent⟩ := of_decide_eq_true test
    exact Or.inl ⟨same.trans identity, unsent⟩
  · intro earlier move later cut thread choice status requestId _ counter
    have test := List.all_eq_true.mp (clears thread) move (by simp [cut])
    rw [counter] at test
    cases test

/-- The CANCEL of a close during the entry leaves before the PREPARE, and no other one follows. -/
theorem lease_cancelled_closed :
    ∃ moves final, (hostMachine Bool).Run (freshPool Bool "client") moves final ∧
      (∀ request, .handed (.control request) true ∉ trace moves) ∧
      (∀ thread, final.threads thread = .idle) ∧ final.shared.controller.closed = true ∧
      Handed .PREPARE "request" (trace moves) ∧ ¬ CancelledAfter "request" (trace moves) := by
  obtain ⟨moves, final, run, _, calm, idle, closed, requests⟩ :=
    (hostMachine Bool).exists_run (freshPool Bool "client")
      (prepareInputs.dropLast.map (onThread false) ++ [.call true .close, .run true {}, .run true {}] ++
        (runs 3).map (onThread false))
      (fun moves final => (trace moves).all Event.calm = true ∧
        (∀ thread, final.threads thread = .idle) ∧ final.shared.controller.closed = true ∧
        requestsFor "request" (trace moves) = [(.CANCEL, ""), (.PREPARE, "")]) (by decide +kernel)
  have quiet := calm_controls calm
  refine ⟨moves, final, run, quiet, idle, closed, by simp [Handed, requests], fun cancelled => ?_⟩
  obtain ⟨leaseId, last⟩ := (endsCancelled_iff quiet).mpr cancelled
  rw [requests] at last
  cases last

end HumanoidSdk.Controller
