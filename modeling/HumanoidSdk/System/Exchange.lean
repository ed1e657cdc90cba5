import HumanoidSdk.Controller.Handshake
import HumanoidSdk.Message.Wire
import HumanoidSdk.Mock.ProtocolInvariant

namespace HumanoidSdk.System
open Foundation Controller Mock

/-- The operation and the lease of each request of this identity. -/
def entriesOf (requestId : String) (requests : List ControlRequest) : List (ControlOperation × String) :=
  requests.filterMap fun request =>
    if request.requestId = some requestId then some (request.operation, request.leaseId) else none

@[simp] theorem entriesOf_append (requestId : String) (first second : List ControlRequest) :
    entriesOf requestId (first ++ second) = entriesOf requestId first ++ entriesOf requestId second :=
  List.filterMap_append

theorem entriesOf_singleton {requestId : String} {request : ControlRequest}
    (identity : request.requestId = some requestId) (asked : String) :
    entriesOf asked [request] = if asked = requestId then [(request.operation, request.leaseId)] else [] := by
  by_cases same : asked = requestId
  · simp [entriesOf, identity, same]
  · simp [entriesOf, identity, same, Ne.symm same]

/-- PREPARE comes first, CANCEL comes last, and a COMMIT and its CANCEL name one lease. -/
structure Precedes (first second : ControlOperation × String) : Prop where
  notPrepare : second.1 ≠ .PREPARE
  notCancel : first.1 ≠ .CANCEL
  oneLease : first.1 = .COMMIT → second.1 = .CANCEL → first.2 = second.2

/-- The requests of a well-formed handshake precede each other in this sense. -/
theorem formed_precedes {requests : List (ControlOperation × String)} {progress : Progress}
    {leaseId : String} {cancelled : Bool} (formed : Formed requests progress leaseId cancelled) :
    requests.Pairwise Precedes := by
  have first (leaseId : String) (operation : ControlOperation) (later : operation ≠ .PREPARE) :
      Precedes (.PREPARE, "") (operation, leaseId) := ⟨later, by simp, by simp⟩
  have last : Precedes (.COMMIT, leaseId) (.CANCEL, leaseId) := ⟨by simp, by simp, by simp⟩
  rw [formed.requests_eq]
  cases progress with
  | opened | prepared | committed => cases cancelled <;> simp [Progress.sent, first, last]

section Robot

/-- The robot serves this request. -/
def Holds (p : Protocol) (requestId : String) : Prop :=
  p.status.phase ≠ 0 ∧ p.status.requestId = requestId

/-- A change of the robot keeps its holder or drops it. -/
inductive Keeps (p q : Protocol) : Prop
  | same (script : q.rejectOperation = p.rejectOperation)
      (holder : q.status.requestId = p.status.requestId ∧ q.status.clientId = p.status.clientId ∧
        q.status.leaseId = p.status.leaseId)
      (phase : (q.status.phase = 2 ↔ p.status.phase = 2) ∧ (q.status.phase = 0 ↔ p.status.phase = 0))
  | dropped (script : q.rejectOperation = p.rejectOperation)
      (idle : q.status.phase = 0 ∧ q.status.requestId = "" ∧ q.status.clientId = "")

theorem Keeps.refl (p : Protocol) : Keeps p p := .same rfl ⟨rfl, rfl, rfl⟩ ⟨Iff.rfl, Iff.rfl⟩

theorem watchdog_keeps (p : Protocol) (now : UInt64) : Keeps p (p.watchdog now) := by
  rcases p.watchdog_cases now with ⟨kept, _⟩ | ⟨_, _, fired, _⟩ | ⟨running, _, fired, _⟩
  · rw [kept]
    exact .refl p
  · rw [fired]
    exact .dropped rfl ⟨rfl, rfl, rfl⟩
  · rw [fired]
    exact .same rfl ⟨rfl, rfl, rfl⟩ (by simp [Protocol.hold, Protocol.invalidateApplied, running])

/-- After its watchdog, an Accept or a Tick keeps the holder. -/
theorem Keeps.then {p q r : Protocol} (first : Keeps p q) (second : Keeps q r) : Keeps p r := by
  cases second with
  | dropped script idle =>
      cases first with
      | same before | dropped before => exact .dropped (script.trans before) idle
  | same script holder phase =>
      cases first with
      | same before holder' phase' =>
          exact .same (script.trans before) ⟨holder.1.trans holder'.1, holder.2.1.trans holder'.2.1,
            holder.2.2.trans holder'.2.2⟩ ⟨phase.1.trans phase'.1, phase.2.trans phase'.2⟩
      | dropped before idle =>
          exact .dropped (script.trans before) ⟨phase.2.mpr idle.1, holder.1.trans idle.2.1,
            holder.2.1.trans idle.2.2⟩

/-- After its watchdog, every call but a control request keeps the holder. -/
theorem called_keeps (p : Protocol) (c : Mock.Call) (other : ∀ r now, c ≠ .requestControl r now) :
    Keeps (p.watchdog c.now) (p.call c) := by
  cases c with
  | requestControl r now => exact absurd rfl (other r now)
  | watchdog now => exact .refl _
  | tick now wallUs =>
      simp only [Protocol.call, Protocol.tick, Mock.Call.now]
      split
      · exact .refl _
      · exact .same rfl ⟨rfl, rfl, rfl⟩ ⟨Iff.rfl, Iff.rfl⟩
  | accept cmd now =>
      simp only [Protocol.call, Protocol.accept, Mock.Call.now]
      split
      · rename_i valid
        obtain ⟨live, _⟩ := Protocol.valid_iff valid
        refine .same rfl ⟨rfl, rfl, rfl⟩ ⟨?_, ?_⟩
        · simp only [Protocol.store]
          omega
        · simp only [Protocol.store]
          omega
      · exact .same rfl ⟨rfl, rfl, rfl⟩ ⟨Iff.rfl, Iff.rfl⟩

/-- Every call but a control request keeps the holder or drops it. -/
theorem call_keeps (p : Protocol) (c : Mock.Call) (other : ∀ r now, c ≠ .requestControl r now) :
    Keeps p (p.call c) := (watchdog_keeps p c.now).then (called_keeps p c other)

/-- The robot has prepared this request and waits for its COMMIT. -/
def Armed (p : Protocol) (requestId : String) : Prop :=
  p.status.phase = 2 ∧ p.status.requestId = requestId

theorem Keeps.armed {p q : Protocol} {requestId : String} (keeps : Keeps p q) (armed : Armed q requestId) :
    Armed p requestId := by
  cases keeps with
  | same _ holder phase => exact ⟨phase.1.mp armed.1, holder.1.symm.trans armed.2⟩
  | dropped _ idle => exact absurd (idle.1.symm.trans armed.1) (by decide)

/-- A request that is armed after the watchdog was armed before it, and its time is not over. -/
theorem watchdog_armed {p : Protocol} {now : UInt64} {requestId : String}
    (armed : Armed (p.watchdog now) requestId) :
    Armed p requestId ∧ ¬ now - p.preparedNs ≥ p.prepareTimeoutNs := by
  have before := (watchdog_keeps p now).armed armed
  rcases p.watchdog_cases now with ⟨_, _, early, _⟩ | ⟨_, _, fired, _⟩ | ⟨running, _⟩
  · exact ⟨before, early before.1⟩
  · rw [fired] at armed
    exact absurd armed.1 (by simp [Protocol.clear, Protocol.invalidateApplied])
  · exact absurd (before.1.symm.trans running) (by decide)

/-- An accepted command leaves its holder running. -/
theorem accept_holds {p : Protocol} {cmd : Command} {now : UInt64} (accepted : (p.accept cmd now).1 = true) :
    (p.accept cmd now).2.status.phase = 4 ∧ (p.accept cmd now).2.status.requestId = p.status.requestId := by
  cases valid : (p.watchdog now).valid cmd with
  | false => simp [Protocol.accept, valid] at accepted
  | true =>
      have stored : (p.accept cmd now).2 = (p.watchdog now).store cmd now := by simp [Protocol.accept, valid]
      rw [stored]
      cases watchdog_keeps p now with
      | same _ holder => exact ⟨rfl, holder.1⟩
      | dropped _ idle =>
          have live := (Protocol.valid_iff valid).1
          omega

/-- A CANCEL of the held request drops it when the leases agree, and is refused otherwise. -/
theorem answer_cancel {p : Protocol} {r : Request} (now : UInt64) (busy : p.status.clientId ≠ "")
    (named : p.status.requestId ≠ "")
    (sized : p.status.requestId.utf8ByteSize ≤ 256 ∧ p.status.clientId.utf8ByteSize ≤ 256)
    (script : p.rejectOperation = 0) (version : r.version = 2) (action : r.action = "EXTERNAL")
    (cancel : r.operation = 3) (client : r.clientId = p.status.clientId)
    (request : r.requestId = p.status.requestId) :
    p.answer r now = if r.leaseId = p.status.leaseId then (p.reply r 0 "cancelled to PASSIVE", p.clear)
      else (p.reply r 1006 "lease mismatch", p) := by
  have fits : ¬ p.status.requestId.utf8ByteSize > 256 ∧ ¬ p.status.clientId.utf8ByteSize > 256 := by omega
  by_cases lease : r.leaseId = p.status.leaseId
  · simp [Protocol.answer, version, action, cancel, client, request, busy, named, fits, script, lease]
  · simp [Protocol.answer, version, action, cancel, client, request, busy, named, fits, script, lease]

end Robot

/-- The robot has received a PREPARE of this request, and while it holds the request its lease is
this one. -/
structure Agrees (received : List ControlRequest) (p : Protocol) (requestId leaseId : String) : Prop where
  prepared : ∃ lease, (ControlOperation.PREPARE, lease) ∈ entriesOf requestId received
  same : Holds p requestId → p.status.leaseId = leaseId

/-- The robot serves one client in the order of its requests. -/
structure Served (clientId : String) (received : List ControlRequest) (p : Protocol) : Prop where
  inv : p.Invariant
  script : p.rejectOperation = 0
  owner : p.status.phase ≠ 0 → p.status.clientId = clientId
  sized : p.status.requestId.utf8ByteSize ≤ 256 ∧ p.status.clientId.utf8ByteSize ≤ 256
  running : p.status.phase = 4 ∨ p.status.phase = 5 →
    (ControlOperation.COMMIT, p.status.leaseId) ∈ entriesOf p.status.requestId received
  cancelled : ∀ requestId lease, (ControlOperation.CANCEL, lease) ∈ entriesOf requestId received →
    Holds p requestId → p.status.phase = 2 ∧ lease = ""

/-- A request in order with the lease that its sender learned. -/
structure InOrder (clientId : String) (received : List ControlRequest) (p : Protocol)
    (request : ControlRequest) (requestId : String) : Prop where
  identity : request.requestId = some requestId
  client : request.clientId = clientId
  version : request.protocolVersion = CONTROL_REQUEST_VERSION
  action : request.actionName = "EXTERNAL"
  before : ∀ entry ∈ entriesOf requestId received, Precedes entry (request.operation, request.leaseId)
  learned : request.leaseId ≠ "" → Agrees received p requestId request.leaseId

section Served

variable {clientId requestId leaseId : String} {received : List ControlRequest} {p q : Protocol}
  {request : ControlRequest} {r : Request}

/-- A kept holder was held before with its lease. -/
theorem Keeps.holds (keeps : Keeps p q) (holds : Holds q requestId) :
    Holds p requestId ∧ q.status.leaseId = p.status.leaseId := by
  cases keeps with
  | same _ holder phase =>
      exact ⟨⟨fun idle => holds.1 (phase.2.mpr idle), holder.1.symm.trans holds.2⟩, holder.2.2⟩
  | dropped _ idle => exact absurd idle.1 holds.1

theorem Agrees.keeps (agrees : Agrees received p requestId leaseId) (keeps : Keeps p q) :
    Agrees received q requestId leaseId := by
  refine ⟨agrees.prepared, fun holds => ?_⟩
  obtain ⟨before, same⟩ := keeps.holds holds
  exact same.trans (agrees.same before)

theorem Agrees.grow (agrees : Agrees received p requestId leaseId) (more : List ControlRequest) :
    Agrees (received ++ more) p requestId leaseId := by
  obtain ⟨lease, member⟩ := agrees.prepared
  exact ⟨⟨lease, by simp [member]⟩, agrees.same⟩

/-- A change that keeps or drops the holder keeps the service. -/
theorem Served.keeps (served : Served clientId received p) (keeps : Keeps p q) (inv : q.Invariant) :
    Served clientId received q := by
  cases keeps with
  | dropped script idle =>
      obtain ⟨phase, request, client⟩ := idle
      exact ⟨inv, script.trans served.script, fun busy => absurd phase busy, by simp [request, client],
        fun live => by omega, fun _ _ _ holds => absurd phase holds.1⟩
  | same script holder phase =>
      obtain ⟨request, client, lease⟩ := holder
      have busy (now : q.status.phase ≠ 0) : p.status.phase ≠ 0 := fun idle => now (phase.2.mpr idle)
      constructor
      · exact inv
      · exact script.trans served.script
      · exact fun now => client.trans (served.owner (busy now))
      · rw [request, client]
        exact served.sized
      · rw [request, lease]
        intro live
        have other : p.status.phase ≠ 2 := fun two => by have := phase.1.mpr two; omega
        have nonzero := busy (by omega)
        have phases := served.inv.phases
        exact served.running (by omega)
      · intro requestId lease member holds
        obtain ⟨two, empty⟩ := served.cancelled requestId lease member
          ⟨busy holds.1, request.symm.trans holds.2⟩
        exact ⟨phase.1.mpr two, empty⟩

/-- A request that cancels nothing held is received without any change. -/
theorem Served.receive (served : Served clientId received p) (request : ControlRequest)
    (harmless : ∀ requestId lease, (ControlOperation.CANCEL, lease) ∈ entriesOf requestId [request] →
      Holds p requestId → p.status.phase = 2 ∧ lease = "") :
    Served clientId (received ++ [request]) p := by
  refine { served with running := ?_, cancelled := ?_ }
  · intro live
    simp [served.running live]
  · intro requestId lease member holds
    rw [entriesOf_append, List.mem_append] at member
    exact member.elim (fun old => served.cancelled requestId lease old holds)
      fun new => harmless requestId lease new holds

/-- The fields of the wire repeat the request. -/
theorem wireRequest_fields (identity : request.requestId = some requestId)
    (wire : wireRequest request = some r) : r.requestId = requestId ∧ r.clientId = request.clientId ∧
      r.leaseId = request.leaseId ∧ r.action = request.actionName ∧
      r.version = UInt32.ofNat request.protocolVersion.toNat ∧
      r.operation = encodeOperation request.operation := by
  simp only [wireRequest, identity, Option.map_some, Option.some.injEq] at wire
  subst wire
  exact ⟨rfl, rfl, rfl, rfl, rfl, rfl⟩

theorem wireRequest_operation {operation : ControlOperation} (identity : request.requestId = some requestId)
    (wire : wireRequest request = some r) (code : r.operation = encodeOperation operation) :
    request.operation = operation := by
  obtain ⟨_, _, _, _, _, sent⟩ := wireRequest_fields identity wire
  simpa using congrArg decodeOperation (sent.symm.trans code)

/-- The CANCEL of the held request ends its service, or it carries no lease and meets an armed robot. -/
theorem Served.cancel (served : Served clientId received p)
    (order : InOrder clientId received p request requestId) (wire : wireRequest request = some r)
    (cancel : request.operation = .CANCEL) (holds : Holds p requestId) (now : UInt64) :
    Served clientId (received ++ [request]) (p.answer r now).2 := by
  obtain ⟨sameRequest, sameClient, sameLease, sameAction, sameVersion, operation⟩ :=
    wireRequest_fields order.identity wire
  have named := served.inv.named holds.1
  have owner := served.owner holds.1
  have answered : p.answer r now = if r.leaseId = p.status.leaseId
      then (p.reply r 0 "cancelled to PASSIVE", p.clear) else (p.reply r 1006 "lease mismatch", p) := by
    refine answer_cancel now named.1 named.2.1 served.sized served.script ?_ ?_ ?_ ?_ ?_
    · rw [sameVersion, order.version]
      rfl
    · exact sameAction.trans order.action
    · rw [operation, cancel]
      rfl
    · exact sameClient.trans (order.client.trans owner.symm)
    · exact sameRequest.trans holds.2.symm
  rw [answered]
  by_cases lease : r.leaseId = p.status.leaseId
  · rw [if_pos lease]
    exact ⟨Protocol.clear_invariant p, served.script, fun busy => absurd rfl busy,
      by simp [Protocol.clear, Protocol.invalidateApplied],
      by simp [Protocol.clear, Protocol.invalidateApplied], fun _ _ _ gone => absurd rfl gone.1⟩
  · rw [if_neg lease]
    refine served.receive request fun asked leaseId member now => ?_
    rw [entriesOf_singleton order.identity] at member
    by_cases same : asked = requestId
    · rw [if_pos same, List.mem_singleton, Prod.mk.injEq] at member
      have empty : request.leaseId = "" := by
        by_contra present
        exact lease (sameLease.trans ((order.learned present).same holds).symm)
      have notLive : ¬ (p.status.phase = 4 ∨ p.status.phase = 5) := by
        intro live
        have committed := served.running live
        rw [holds.2] at committed
        exact lease (sameLease.trans ((order.before _ committed).oneLease rfl cancel).symm)
      have phases := served.inv.phases
      have busy := holds.1
      exact ⟨by omega, member.2.trans empty⟩
    · rw [if_neg same] at member
      cases member

/-- A new holder is the request that armed it, and nothing else of it was received before. -/
theorem Served.arm (served : Served clientId received p)
    (order : InOrder clientId received p request requestId) (wire : wireRequest request = some r)
    (prepare : request.operation = .PREPARE) (idle : p.status.clientId = "")
    (named : r.requestId ≠ "" ∧ r.clientId ≠ "")
    (sized : r.requestId.utf8ByteSize ≤ 256 ∧ r.clientId.utf8ByteSize ≤ 256) (now : UInt64) :
    Served clientId (received ++ [request]) (p.arm r now) := by
  obtain ⟨sameRequest, sameClient, _⟩ := wireRequest_fields order.identity wire
  have fresh : entriesOf requestId received = [] :=
    List.eq_nil_iff_forall_not_mem.mpr fun entry member => (order.before entry member).notPrepare prepare
  have own : entriesOf requestId [request] = [(.PREPARE, request.leaseId)] := by
    rw [entriesOf_singleton order.identity, if_pos rfl, prepare]
  constructor
  · exact Protocol.arm_invariant served.inv now idle named
  · exact served.script
  · exact fun _ => sameClient.trans order.client
  · exact sized
  · intro live
    simp [Protocol.arm] at live
  · intro asked lease member holds
    obtain rfl : requestId = asked := sameRequest.symm.trans holds.2
    rw [entriesOf_append, fresh, own] at member
    simp at member

/-- A COMMIT starts the held request under its own lease. -/
theorem Served.start (served : Served clientId received p)
    (order : InOrder clientId received p request requestId) (wire : wireRequest request = some r)
    (commit : request.operation = .COMMIT) (armed : p.status.phase = 2)
    (owner : p.status.requestId = r.requestId ∧ r.leaseId = p.status.leaseId)
    (room : p.generation ≠ maxUint64) (now : UInt64) :
    Served clientId (received ++ [request]) (p.start now) := by
  obtain ⟨sameRequest, _, sameLease, _⟩ := wireRequest_fields order.identity wire
  have held : p.status.requestId = requestId := owner.1.trans sameRequest
  have lease : request.leaseId = p.status.leaseId := sameLease.symm.trans owner.2
  have own : entriesOf requestId [request] = [(.COMMIT, request.leaseId)] := by
    rw [entriesOf_singleton order.identity, if_pos rfl, commit]
  constructor
  · exact Protocol.start_invariant served.inv now armed room
  · exact served.script
  · exact fun _ => served.owner (by omega)
  · exact served.sized
  · intro _
    show _ ∈ entriesOf p.status.requestId (received ++ [request])
    rw [held, entriesOf_append, own, lease]
    simp [Protocol.start]
  · intro asked cancelled member holds
    obtain rfl : requestId = asked := held.symm.trans holds.2
    rw [entriesOf_append, own, List.mem_append, List.mem_singleton] at member
    rcases member with old | new
    · exact absurd rfl (order.before _ old).notCancel
    · cases new

/-- The answer to a request in order keeps the service. -/
theorem Served.answer (served : Served clientId received p)
    (order : InOrder clientId received p request requestId) (wire : wireRequest request = some r)
    (now : UInt64) : Served clientId (received ++ [request]) (p.answer r now).2 := by
  by_cases cancels : request.operation = .CANCEL ∧ Holds p requestId
  · exact served.cancel order wire cancels.1 cancels.2 now
  have held := served.receive request fun asked lease member holds => by
    rw [entriesOf_singleton order.identity] at member
    by_cases same : asked = requestId
    · rw [if_pos same, List.mem_singleton, Prod.mk.injEq] at member
      exact absurd ⟨member.1.symm, same ▸ holds⟩ cancels
    · rw [if_neg same] at member
      cases member
  have isOperation (operation : ControlOperation) := @wireRequest_operation _ _ _ operation order.identity wire
  have answered := p.answer_cases r now
  generalize p.answer r now = result at answered
  cases answered with
  | refused | preparedAgain | alreadyIdle | committedAgain => exact held
  | armed prepare idle named room sized =>
      exact served.arm order wire (isOperation .PREPARE prepare) idle named sized now
  | cancelled cancel busy owner =>
      have holds : Holds p requestId := ⟨fun idle => busy (served.inv.idle.mp idle).1,
        owner.2.1.trans (wireRequest_fields order.identity wire).1⟩
      exact absurd ⟨isOperation .CANCEL cancel, holds⟩ cancels
  | started commit owner phase room =>
      exact served.start order wire (isOperation .COMMIT commit) phase owner.2 room now

/-- A lease that a request learned stays its lease, because no request is armed twice. -/
theorem Agrees.answer {asked : String} (agrees : Agrees received p asked leaseId)
    (order : InOrder clientId received p request requestId) (wire : wireRequest request = some r)
    (now : UInt64) : Agrees (received ++ [request]) (p.answer r now).2 asked leaseId := by
  have grown := agrees.grow [request]
  have answered := p.answer_cases r now
  generalize p.answer r now = result at answered
  cases answered with
  | refused | preparedAgain | alreadyIdle | committedAgain => exact grown
  | armed prepare =>
      refine ⟨grown.prepared, fun holds => ?_⟩
      have same : requestId = asked := (wireRequest_fields order.identity wire).1.symm.trans holds.2
      obtain ⟨lease, old⟩ := agrees.prepared
      have first : request.operation = .PREPARE := wireRequest_operation order.identity wire prepare
      exact absurd first (order.before _ (same ▸ old)).notPrepare
  | cancelled => exact ⟨grown.prepared, fun holds => absurd rfl holds.1⟩
  | started _ _ phase =>
      exact ⟨grown.prepared, fun holds => grown.same ⟨by omega, holds.2⟩⟩

/-- A request whose CANCEL was received is not armed again. -/
theorem answer_armed {asked lease : String} (order : InOrder clientId received p request requestId)
    (wire : wireRequest request = some r) (now : UInt64)
    (cancelled : (ControlOperation.CANCEL, lease) ∈ entriesOf asked (received ++ [request]))
    (armed : Armed (p.answer r now).2 asked) : Armed p asked := by
  have answered := p.answer_cases r now
  generalize p.answer r now = result at answered armed
  cases answered with
  | refused | preparedAgain | alreadyIdle | committedAgain => exact armed
  | cancelled | started => exact absurd armed.1 (by simp [Protocol.clear, Protocol.invalidateApplied, Protocol.start])
  | armed prepare =>
      have first : request.operation = .PREPARE := wireRequest_operation order.identity wire prepare
      have same : requestId = asked := (wireRequest_fields order.identity wire).1.symm.trans armed.2
      rw [entriesOf_append, entriesOf_singleton order.identity, if_pos same.symm, first, List.mem_append] at cancelled
      rcases cancelled with old | new
      · exact absurd first (order.before _ (same ▸ old)).notPrepare
      · simp at new

/-- An accepted PREPARE on the wire names the lease of the robot that it leaves. -/
theorem answer_grants {ack : ControlAck} (identity : request.requestId = some requestId)
    (wire : wireRequest request = some r) (now : UInt64) (sent : wireAck (p.answer r now).1 = some ack)
    (prepare : ack.operation = .PREPARE) (accepted : ack.accepted = true) :
    Agrees (received ++ [request]) (p.answer r now).2 ack.requestId ack.leaseId := by
  obtain ⟨sameRequest, _, _, _, _, operation⟩ := wireRequest_fields identity wire
  have reply {q : Protocol} {error : Int} {reason : String} (sent : wireAck (q.reply r error reason) = some ack) :
      Agrees (received ++ [request]) q ack.requestId ack.leaseId := by
    obtain ⟨code, decoded, same⟩ := Option.map_eq_some_iff.mp sent
    have own : code = request.operation := by
      have read : decodeOperation r.operation = some code := decoded
      rw [operation, decodeOperation_encode] at read
      exact (Option.some.inj read).symm
    subst same
    have zero : error = 0 := of_decide_eq_true accepted
    refine ⟨⟨request.leaseId, ?_⟩, fun _ => by simp [Protocol.reply, zero]⟩
    show _ ∈ entriesOf r.requestId _
    rw [sameRequest, entriesOf_append, entriesOf_singleton identity, if_pos rfl, ← own,
      show code = .PREPARE from prepare]
    simp
  have answered := p.answer_cases r now
  generalize p.answer r now = result at answered sent
  cases answered with
  | cancelled => exact ⟨(reply sent).prepared, fun holds => absurd rfl holds.1⟩
  | _ => exact reply sent

/-- A control request in order keeps the service and every learned lease. -/
theorem Served.requestControl (served : Served clientId received p)
    (order : InOrder clientId received p request requestId) (wire : wireRequest request = some r)
    (now : UInt64) :
    Served clientId (received ++ [request]) (p.requestControl r now).2 ∧
      ∀ asked leaseId, Agrees received p asked leaseId →
        Agrees (received ++ [request]) (p.requestControl r now).2 asked leaseId := by
  have keeps := watchdog_keeps p now
  have inv : (p.watchdog now).Invariant := (p.watchdog_path now).stateInvariant served.inv
  have later : InOrder clientId received (p.watchdog now) request requestId :=
    { order with learned := fun present => (order.learned present).keeps keeps }
  exact ⟨(served.keeps keeps inv).answer later wire now,
    fun asked leaseId agrees => (agrees.keeps keeps).answer later wire now⟩

end Served

end HumanoidSdk.System
