import HumanoidSdk.Mock.ProtocolInvariant

namespace HumanoidSdk.Mock
open Foundation

/-- The mock robot answers calls at any clock readings. -/
def callMachine : Machine Protocol Call ProtocolEvent where
  step p c := some (p.call c, p.callEvents c)

abbrev CallMove := Move Protocol Call ProtocolEvent

namespace Protocol

/-- These checks of a request do not depend on who is served. -/
structure Admissible (p : Protocol) (r : Request) : Prop where
  version : r.version = 2
  named : r.requestId ≠ "" ∧ r.clientId ≠ ""
  sized : r.requestId.utf8ByteSize ≤ 256 ∧ r.clientId.utf8ByteSize ≤ 256
  operation : 1 ≤ r.operation ∧ r.operation ≤ 3
  action : r.action = "EXTERNAL"
  unscripted : r.operation ≠ p.rejectOperation

/-- The robot serves this request with this lease, and a COMMIT of it has started. -/
structure Serves (p : Protocol) (r : Request) (leaseId : String) : Prop where
  owner : p.status.clientId = r.clientId ∧ p.status.requestId = r.requestId
  lease : p.status.leaseId = leaseId
  started : r.operation = 2 → (p.status.phase = 4 ∨ p.status.phase = 5) ∧ r.leaseId = leaseId

variable {p : Protocol} {r : Request} {now : UInt64} {leaseId : String}

theorem Admissible.valid (admissible : p.Admissible r) :
    ¬ (r.requestId = "" ∨ r.clientId = "" ∨ r.requestId.utf8ByteSize > 256 ∨
      r.clientId.utf8ByteSize > 256 ∨ r.operation < 1 ∨ r.operation > 3) := by
  have sized := admissible.sized
  have operation := admissible.operation
  simp only [not_or]
  exact ⟨admissible.named.1, admissible.named.2, by omega, by omega, by omega, by omega⟩

/-- An answer with an error code refuses, carries no lease and changes nothing. -/
theorem answer_error (code : (p.answer r now).1.error ≠ 0) :
    (p.answer r now).1.accepted = false ∧ (p.answer r now).1.leaseId = "" ∧ (p.answer r now).2 = p := by
  have answered := p.answer_cases r now
  generalize p.answer r now = result at answered code
  cases answered with
  | refused failed => simp [reply, failed]
  | _ => exact absurd rfl code

/-- An accepted request passed all checks that do not depend on the state. -/
theorem answer_admissible (accepted : (p.answer r now).1.accepted = true) : p.Admissible r := by
  have refused {error : Int} {reason : String} (code : error ≠ 0) : (p.reply r error reason).accepted ≠ true := by
    simp [reply, code]
  rw [answer] at accepted
  by_cases version : r.version ≠ 2
  · rw [if_pos version] at accepted
    exact absurd accepted (refused (by decide))
  rw [if_neg version] at accepted
  by_cases identity : r.requestId = "" ∨ r.clientId = "" ∨ r.requestId.utf8ByteSize > 256 ∨
      r.clientId.utf8ByteSize > 256 ∨ r.operation < 1 ∨ r.operation > 3
  · rw [if_pos identity] at accepted
    exact absurd accepted (refused (by decide))
  rw [if_neg identity] at accepted
  by_cases action : r.action ≠ "EXTERNAL"
  · rw [if_pos action] at accepted
    exact absurd accepted (refused (by decide))
  rw [if_neg action] at accepted
  by_cases scripted : r.operation = p.rejectOperation
  · rw [if_pos scripted] at accepted
    exact absurd accepted (refused (by decide))
  simp only [not_or] at identity
  exact ⟨not_not.mp version, ⟨identity.1, identity.2.1⟩, by omega, by omega, not_not.mp action, scripted⟩

/-- An accepted PREPARE or COMMIT leaves the robot serving it with the acknowledged lease. -/
theorem answer_serves (entry : r.operation = 1 ∨ r.operation = 2)
    (accepted : (p.answer r now).1.accepted = true) :
    (p.answer r now).2.Serves r (p.answer r now).1.leaseId := by
  have answered := p.answer_cases r now
  generalize p.answer r now = result at answered accepted
  cases answered with
  | refused failed => simp [reply, failed] at accepted
  | alreadyIdle cancel | cancelled cancel => omega
  | preparedAgain prepare owner =>
      exact ⟨⟨owner.2.1.symm, owner.2.2.symm⟩, rfl, fun commit => by omega⟩
  | armed prepare => exact ⟨⟨rfl, rfl⟩, rfl, fun commit => by omega⟩
  | committedAgain _ owner live => exact ⟨⟨owner.1, owner.2.1⟩, rfl, fun _ => ⟨live, owner.2.2⟩⟩
  | started _ owner => exact ⟨⟨owner.1, owner.2.1⟩, rfl, fun _ => ⟨Or.inl rfl, owner.2.2⟩⟩

/-- A served PREPARE or COMMIT is confirmed again without any change. -/
theorem Serves.again (serves : p.Serves r leaseId) (admissible : p.Admissible r)
    (entry : r.operation = 1 ∨ r.operation = 2) :
    ∃ reason, p.answer r now = (p.reply r 0 reason, p) := by
  have valid := admissible.valid
  obtain ⟨version, named, _, operation, action, unscripted⟩ := admissible
  unfold answer
  rw [if_neg (not_not.mpr version), if_neg valid, if_neg (not_not.mpr action), if_neg unscripted]
  rcases entry with prepare | commit
  · rw [if_pos prepare, if_pos (serves.owner.1 ▸ named.2), if_neg (not_not.mpr serves.owner.1.symm),
      if_neg (not_not.mpr serves.owner.2.symm)]
    exact ⟨_, rfl⟩
  · obtain ⟨live, lease⟩ := serves.started commit
    rw [if_neg (by omega), if_neg (by omega), if_neg (not_not.mpr serves.owner.1),
      if_neg (not_not.mpr serves.owner.2), if_neg (not_not.mpr (lease.trans serves.lease.symm)),
      if_neg (by omega), if_pos live]
    exact ⟨_, rfl⟩

/-- The watchdog keeps the service or ends it. -/
theorem Serves.watchdog (serves : p.Serves r leaseId) (now : UInt64) :
    (p.watchdog now).Serves r leaseId ∨ (p.watchdog now).status.phase = 0 := by
  rcases p.watchdog_cases now with ⟨kept, _⟩ | ⟨_, _, fired, _⟩ | ⟨_, _, fired, _⟩
  · rw [kept]
    exact Or.inl serves
  · rw [fired]
    exact Or.inr rfl
  · rw [fired]
    exact Or.inl ⟨serves.owner, serves.lease, fun commit => ⟨Or.inr rfl, (serves.started commit).2⟩⟩

/-- After its watchdog every call keeps the service or ends it. -/
theorem Serves.called {c : Call} (serves : (p.watchdog c.now).Serves r leaseId)
    (named : r.clientId ≠ "") : (p.call c).Serves r leaseId ∨ (p.call c).status.phase = 0 := by
  cases c with
  | watchdog now => exact Or.inl serves
  | tick now wallUs =>
      simp only [call, tick]
      split
      · exact Or.inl serves
      · exact Or.inl ⟨serves.owner, serves.lease, serves.started⟩
  | accept cmd now =>
      simp only [call, accept]
      split
      · exact Or.inl ⟨serves.owner, serves.lease, fun commit => ⟨Or.inl rfl, (serves.started commit).2⟩⟩
      · exact Or.inl ⟨serves.owner, serves.lease, serves.started⟩
  | requestControl asked now =>
      show ((p.watchdog now).answer asked now).2.Serves r leaseId ∨ _
      have answered := (p.watchdog now).answer_cases asked now
      show _ ∨ ((p.watchdog now).answer asked now).2.status.phase = 0
      generalize (p.watchdog now).answer asked now = result at answered
      cases answered with
      | refused | preparedAgain | alreadyIdle | committedAgain => exact Or.inl serves
      | armed _ idle => exact absurd (serves.owner.1.symm.trans idle) named
      | cancelled => exact Or.inr rfl
      | started _ _ _ _ =>
          exact Or.inl ⟨serves.owner, serves.lease, fun commit => ⟨Or.inl rfl, (serves.started commit).2⟩⟩

/-- An idle robot has no work for its watchdog. -/
theorem watchdog_idle (idle : p.status.phase = 0) (now : UInt64) : p.watchdog now = p := by
  rcases p.watchdog_cases now with ⟨kept, _⟩ | ⟨armed, _⟩ | ⟨running, _⟩
  · exact kept
  · omega
  · omega

/-- A CANCEL without a holder is confirmed without any change. -/
theorem idle_cancel (admissible : p.Admissible r) (cancel : r.operation = 3) (idle : p.status.clientId = "") :
    p.answer r now = (p.reply r 0 "already idle", p) := by
  have valid := admissible.valid
  obtain ⟨version, named, _, operation, action, unscripted⟩ := admissible
  unfold answer
  rw [if_neg (not_not.mpr version), if_neg valid, if_neg (not_not.mpr action), if_neg unscripted,
    if_neg (by omega), if_pos ⟨cancel, idle⟩]

/-- A request that is held after the watchdog is served as before. -/
theorem still_serves (inv : p.Invariant) (named : r.requestId ≠ "")
    (before : p.Serves r leaseId ∨ p.status.phase = 0)
    (held : (p.watchdog now).status.requestId = r.requestId) : (p.watchdog now).Serves r leaseId := by
  have busy (idle : (p.watchdog now).status.phase = 0) : False := by
    have clear := ((p.watchdog_path now).stateInvariant inv).idle.mp idle
    exact named (held.symm.trans clear.2.1)
  rcases before with serves | idle
  · exact (serves.watchdog now).resolve_right busy
  · rw [watchdog_idle idle] at busy
    exact absurd idle busy

/-- Nothing changes the scripted rejection. -/
theorem Path.rejectOperation {q : Protocol} {events : List ProtocolEvent} (path : Path now p events q) :
    q.rejectOperation = p.rejectOperation := by
  induction path with
  | nil => rfl
  | snoc _ last ih => cases last <;> exact ih

theorem Admissible.of_script {q : Protocol} (admissible : p.Admissible r)
    (same : q.rejectOperation = p.rejectOperation) : q.Admissible r :=
  { admissible with unscripted := by rw [same]; exact admissible.unscripted }

end Protocol

section Run

variable {start p : Protocol} {r : Request} {now : UInt64} {leaseId : String} {moves : List CallMove}

/-- A run of calls keeps the invariant and the scripted rejection. -/
theorem callMachine_run (inv : start.Invariant) (run : callMachine.Run start moves p) :
    p.Invariant ∧ p.rejectOperation = start.rejectOperation := by
  refine run.stateInvariant (fun p => p.Invariant ∧ p.rejectOperation = start.rejectOperation) ⟨inv, rfl⟩ ?_
  rintro p c next events ⟨inv, same⟩ accepted
  obtain ⟨rfl, rfl⟩ := Prod.mk.inj (Option.some.inj accepted)
  exact ⟨(p.call_path c).stateInvariant inv, (p.call_path c).rejectOperation.trans same⟩

/-- A served request is served with the same lease as long as every call still finds it held. -/
theorem serves_run (inv : start.Invariant) (named : r.clientId ≠ "" ∧ r.requestId ≠ "")
    (serves : start.Serves r leaseId) (run : callMachine.Run start moves p)
    (held : ∀ move ∈ moves, (move.before.watchdog move.input.now).status.requestId = r.requestId) :
    p.Serves r leaseId ∨ p.status.phase = 0 := by
  refine run.invariant (fun moves p =>
    (∀ move ∈ moves, (move.before.watchdog move.input.now).status.requestId = r.requestId) →
    p.Serves r leaseId ∨ p.status.phase = 0) (fun _ => Or.inl serves) ?_ held
  intro moves p c next events past ih accepted held
  obtain ⟨rfl, rfl⟩ := Prod.mk.inj (Option.some.inj accepted)
  have before := ih fun move member => held move (List.mem_append_left _ member)
  have holds : (p.watchdog c.now).status.requestId = r.requestId := held ⟨p, c, p.call c, p.callEvents c⟩ (by simp)
  exact (Protocol.still_serves (callMachine_run inv past).1 named.2 before holds).called named.1

/-- A request that was accepted before still passes the checks that do not depend on who is served. -/
theorem accepted_admissible (inv : start.Invariant) (run : callMachine.Run start moves p) {first : CallMove}
    (member : first ∈ moves) {sent : UInt64} (accepted : (first.before.requestControl r sent).1.accepted = true) :
    p.Admissible r := by
  obtain ⟨earlier, later, cut⟩ := List.append_of_mem member
  have script := (callMachine_run inv (run.at_move cut).1).2
  have script' := (callMachine_run inv run).2
  refine (Protocol.answer_admissible accepted).of_script ?_
  rw [(first.before.watchdog_path sent).rejectOperation, script, script']

/-- A repeated PREPARE or COMMIT that is still held is answered like the first one. -/
theorem retransmitted (inv : start.Invariant) (run : callMachine.Run start moves p)
    {earlier between : List CallMove} {first : CallMove} (cut : moves = earlier ++ first :: between)
    {sent : UInt64} (asked : first.input = .requestControl r sent) (entry : r.operation = 1 ∨ r.operation = 2)
    (accepted : (first.before.requestControl r sent).1.accepted = true)
    (held : ∀ move ∈ between, (move.before.watchdog move.input.now).status.requestId = r.requestId)
    (still : (p.watchdog now).status.requestId = r.requestId) :
    (p.requestControl r now).1.accepted = true ∧
      (p.requestControl r now).1.leaseId = (first.before.requestControl r sent).1.leaseId ∧
      (p.requestControl r now).2 = p.watchdog now := by
  obtain ⟨past, stepped, rest⟩ := run.at_move cut
  have before := (callMachine_run inv past).1
  have named := (Protocol.answer_admissible accepted).named
  obtain ⟨result, _⟩ := Prod.mk.inj (Option.some.inj stepped)
  have after : first.after = (first.before.requestControl r sent).2 := by
    rw [← result, asked]
    rfl
  have serves : first.after.Serves r (first.before.requestControl r sent).1.leaseId := by
    rw [after]
    exact Protocol.answer_serves entry accepted
  have inv' := (callMachine_run inv run).1
  have afterInv : first.after.Invariant := result ▸ (first.before.call_path first.input).stateInvariant before
  have now' := Protocol.still_serves inv' named.1 (serves_run afterInv named.symm serves rest held) still
  have known : p.Admissible r := accepted_admissible inv run (by simp [cut]) accepted
  obtain ⟨reason, answered⟩ := now'.again (known.of_script (p.watchdog_path now).rejectOperation) entry
  have answer : p.requestControl r now = ((p.watchdog now).reply r 0 reason, p.watchdog now) := answered
  rw [answer]
  exact ⟨rfl, now'.lease, rfl⟩

/-- A refused request changes nothing beyond the watchdog, and a repeated request that is still held, or
a repeated CANCEL of an idle robot, is accepted again and changes nothing beyond the watchdog. -/
theorem requests_retransmittable {seed streamTimeout prepareTimeout : UInt64} {rejectOperation : Int}
    (created : Protocol.create seed streamTimeout prepareTimeout rejectOperation = some start)
    (run : callMachine.Run start moves p) :
    (∀ r now, (p.requestControl r now).1.error ≠ 0 →
      (p.requestControl r now).2 = p.watchdog now ∧ (p.requestControl r now).1.leaseId = "" ∧
        (p.requestControl r now).1.accepted = false) ∧
    (∀ r, r.operation = 1 ∨ r.operation = 2 → ∀ earlier first between sent,
      moves = earlier ++ first :: between → first.input = .requestControl r sent →
      (first.before.requestControl r sent).1.accepted = true →
      (∀ move ∈ between, (move.before.watchdog move.input.now).status.requestId = r.requestId) →
      ∀ now, (p.watchdog now).status.requestId = r.requestId →
        (p.requestControl r now).1.accepted = true ∧
          (p.requestControl r now).1.leaseId = (first.before.requestControl r sent).1.leaseId ∧
          (p.requestControl r now).2 = p.watchdog now) ∧
    ∀ r, r.operation = 3 → (p.Admissible r ∨ ∃ first ∈ moves, ∃ sent, first.input = .requestControl r sent ∧
        (first.before.requestControl r sent).1.accepted = true) → p.status.phase = 0 →
      ∀ now, (p.requestControl r now).1.accepted = true ∧ (p.requestControl r now).2 = p := by
  have inv := (Protocol.create_invariant created).1
  refine ⟨fun r now code => ?_, ?_, ?_⟩
  · obtain ⟨refused, bare, same⟩ := Protocol.answer_error code
    exact ⟨same, bare, refused⟩
  · intro r entry earlier first between sent cut asked accepted held now still
    exact retransmitted inv run cut asked entry accepted held still
  · intro r cancel known idle now
    have admissible : p.Admissible r := by
      rcases known with admissible | ⟨first, member, sent, _, accepted⟩
      · exact admissible
      · exact accepted_admissible inv run member accepted
    have answer : p.requestControl r now = (p.reply r 0 "already idle", p) := by
      rw [Protocol.requestControl, Protocol.watchdog_idle idle]
      exact Protocol.idle_cancel admissible cancel ((callMachine_run inv run).1.idle.mp idle).1
    rw [answer]
    exact ⟨rfl, rfl⟩

end Run

/-- A repeated PREPARE after the conflicting request of another client is answered like the first one. -/
theorem requests_retransmittable_conflict :
    ∃ start moves p, callMachine.Run start moves p ∧ moves.length = 2 ∧
      (p.requestControl ⟨2, 1, "request", "client", "", "EXTERNAL"⟩ 1003).1.leaseId = "mock-lease-11" ∧
      (p.requestControl ⟨2, 1, "request", "client", "", "EXTERNAL"⟩ 1003).2 = p.watchdog 1003 := by
  have created : Protocol.create 10 100 50 0 = some ⟨{}, {}, {}, false, 10, 100, 50, 0, 0, 0⟩ := rfl
  have first : callMachine.Run ⟨{}, {}, {}, false, 10, 100, 50, 0, 0, 0⟩ _ _ :=
    .snoc .nil (show callMachine.step _ (.requestControl ⟨2, 1, "request", "client", "", "EXTERNAL"⟩ 1000) = _ from rfl)
  have run := first.snoc
    (show callMachine.step _ (.requestControl ⟨2, 1, "request", "other", "", "EXTERNAL"⟩ 1002) = _ from rfl)
  obtain ⟨_, lease, same⟩ := (requests_retransmittable created run).2.1
    ⟨2, 1, "request", "client", "", "EXTERNAL"⟩ (Or.inl rfl) [] _ [_] 1000 rfl rfl (by decide +kernel)
    (by simp only [List.mem_singleton, forall_eq]; decide +kernel) 1003 (by decide +kernel)
  exact ⟨_, _, _, run, rfl, lease.trans (by decide +kernel), same⟩

end HumanoidSdk.Mock
