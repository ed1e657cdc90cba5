import HumanoidSdk.Controller.Release
import HumanoidSdk.Controller.StatusCache
import HumanoidSdk.Foundation.Numbering

namespace HumanoidSdk.Controller
open Foundation

/-- The request, the session and the sequence of a built command. -/
def buildRecord : Event → Option (Option String × ℤ × ℤ)
  | .built requestId _ command => some (requestId, command.sessionId, command.sequence)
  | _ => none

def builds (log : List Event) : List (Option String × ℤ × ℤ) := log.filterMap buildRecord

@[simp] theorem builds_append (first second : List Event) :
    builds (first ++ second) = builds first ++ builds second := List.filterMap_append

/-- The session and the sequence of every built command in the order of the assignments. -/
def identities (log : List Event) : List (ℤ × ℤ) := (builds log).map Prod.snd

@[simp] theorem identities_append (first second : List Event) :
    identities (first ++ second) = identities first ++ identities second := by simp [identities]

/-- The commands that one request numbered in one session. -/
def countUnder (requestId : String) (session : ℤ) (log : List Event) : Nat :=
  ((builds log).filter fun record => record.1 = some requestId ∧ record.2.1 = session).length

section Numbering

variable {Thread : Type*}

/-- The generations of the RUNNING statuses that reached the cache, in their order. -/
def runningGenerations (moves : List (HostMove Thread)) : List ℤ :=
  moves.filterMap fun move =>
    match move.input with
    | .signal (.status status) =>
        if status.phase = .RUNNING ∧ move.after.shared.controller.latestStatus = some status then
          some status.generation
        else none
    | _ => none

@[simp] theorem runningGenerations_append (first second : List (HostMove Thread)) :
    runningGenerations (first ++ second) = runningGenerations first ++ runningGenerations second :=
  List.filterMap_append

/-- A generation that another one has replaced never comes back. -/
def SupersededForGood (moves : List (HostMove Thread)) : Prop :=
  ∀ first second, first ≠ second → ¬ [first, second, first].Sublist (runningGenerations moves)

/-- The last section of an entry comes before anything is numbered under the current request, or it
replaces the learned generation by the one that was seen RUNNING last. -/
def FinishesUntouched (moves : List (HostMove Thread)) : Prop :=
  ∀ earlier move later, moves = earlier ++ move :: later → ∀ thread choice status requestId,
    move.input = .run thread choice → move.before.threads thread = .enterFinish status →
    move.before.shared.controller.requestId = some requestId →
    (∀ record ∈ builds (trace earlier), record.1 ≠ some requestId) ∨
      status.generation ≠ move.before.shared.controller.externalSessionId ∧
        (runningGenerations earlier).getLast? = some status.generation

theorem FinishesUntouched.head {first second : List (HostMove Thread)}
    (finishes : FinishesUntouched (first ++ second)) : FinishesUntouched first :=
  fun earlier move later cut => finishes earlier move (later ++ second) (by simp [cut])

/-- A thread enters its publish section with a valid command and finds a live status of this
generation while this request is the current one. -/
def PublishesLive (move : HostMove Thread) (requestId : Option String) (generation : ℤ) : Prop :=
  ∃ thread choice command checked status, move.input = .run thread choice ∧
    move.before.threads thread = .publishStart command ∧
    validateCommand command move.before.shared.controller.population = .ok checked ∧
    move.before.shared.controller.closed = false ∧ move.before.shared.controller.OwnsLiveStatus ∧
    move.before.shared.controller.latestStatus = some status ∧ status.generation = generation ∧
    move.before.shared.controller.requestId = requestId

/-- Two requests never publish under one generation. -/
def OwnGenerations (moves : List (HostMove Thread)) : Prop :=
  ∀ first ∈ moves, ∀ second ∈ moves, ∀ firstRequest secondRequest generation,
    PublishesLive first firstRequest generation → PublishesLive second secondRequest generation →
    firstRequest = secondRequest

/-- Every generation that an entry is about to write is valid and was seen RUNNING. -/
def Finishing (moves : List (HostMove Thread)) (pool : Pool Thread Host Pc) : Prop :=
  ∀ thread status, pool.threads thread = .enterFinish status →
    validGeneration status.generation = true ∧ status.generation ∈ runningGenerations moves

/-- The counter of the controller continues the commands that the current request numbered in the
current session, and the statuses explain every change of the session. -/
structure Numbering (moves : List (HostMove Thread)) (pool : Pool Thread Host Pc) : Prop where
  contiguous : Contiguous (identities (trace moves))
  issued : ∀ record ∈ builds (trace moves), ∃ requestId ∈ pool.shared.issuedIds, record.1 = some requestId
  known : ∀ requestId, pool.shared.controller.requestId = some requestId →
    requestId ∈ pool.shared.issuedIds
  counted : ∀ requestId, pool.shared.controller.requestId = some requestId →
    pool.shared.controller.nextExternalSequence =
      countUnder requestId pool.shared.controller.externalSessionId (trace moves) + 1
  superseded : ∀ requestId, pool.shared.controller.requestId = some requestId →
    ∀ record ∈ builds (trace moves), record.1 = some requestId →
    record.2.1 ≠ pool.shared.controller.externalSessionId →
    pool.shared.controller.externalSessionId ∈ runningGenerations moves ∧
      (record.2.1 = 0 ∨
        [record.2.1, pool.shared.controller.externalSessionId].Sublist (runningGenerations moves))
  session : pool.shared.controller.externalSessionId = 0 ∨
    pool.shared.controller.externalSessionId ∈ runningGenerations moves
  finishing : Finishing moves pool
  latest : ∀ status, pool.shared.controller.latestStatus = some status → status.phase = .RUNNING →
    (runningGenerations moves).getLast? = some status.generation
  witnessed : ∀ record ∈ builds (trace moves), ∃ move ∈ moves, PublishesLive move record.1 record.2.1

variable {moves : List (HostMove Thread)} {pool next : Pool Thread Host Pc} {input : HostInput Thread}
  {events : List Event}

theorem Numbering.initial (clientId : String) : Numbering [] (freshPool Thread clientId) where
  contiguous := Contiguous.empty
  issued := by simp [builds]
  known := by simp [freshPool, Host.fresh]
  counted := by simp [freshPool, Host.fresh]
  superseded := by simp [builds]
  session := Or.inl rfl
  finishing := by simp [Finishing, freshPool]
  latest := by simp [freshPool, Host.fresh]
  witnessed := by simp [builds]

/-- The publish that numbered a command stays in the run. -/
theorem Numbering.witnessed_snoc (held : Numbering moves pool) (move : HostMove Thread) :
    ∀ record ∈ builds (trace moves), ∃ publish ∈ moves ++ [move], PublishesLive publish record.1 record.2.1 := by
  intro record member
  obtain ⟨publish, present, publishes⟩ := held.witnessed record member
  exact ⟨publish, List.mem_append_left _ present, publishes⟩

/-- A move that builds nothing and receives no status leaves the history of the numbering as it is. -/
theorem history_kept (moves : List (HostMove Thread)) (pool next : Pool Thread Host Pc)
    (quiet : builds events = []) (input : HostInput Thread)
    (noStatus : ∀ status, input ≠ .signal (.status status)) :
    builds (trace (moves ++ [⟨pool, input, next, events⟩])) = builds (trace moves) ∧
      runningGenerations (moves ++ [⟨pool, input, next, events⟩]) = runningGenerations moves := by
  refine ⟨by simp [quiet], ?_⟩
  have none : runningGenerations [(⟨pool, input, next, events⟩ : HostMove Thread)] = [] := by
    match input with
    | .signal (.status status) => exact absurd rfl (noStatus status)
    | .signal (.ack _) | .call _ _ | .run _ _ => rfl
  rw [runningGenerations_append, none, List.append_nil]

/-- A move that leaves request, session, sequence and cached status alone keeps the numbering. -/
theorem Numbering.kept (held : Numbering moves pool) (quiet : builds events = [])
    (noStatus : ∀ status, input ≠ .signal (.status status))
    (same : next.shared.controller.requestId = pool.shared.controller.requestId ∧
      next.shared.controller.externalSessionId = pool.shared.controller.externalSessionId ∧
      next.shared.controller.nextExternalSequence = pool.shared.controller.nextExternalSequence ∧
      next.shared.controller.latestStatus = pool.shared.controller.latestStatus)
    (issued : next.shared.issuedIds = pool.shared.issuedIds)
    (finishing : Finishing moves next) :
    Numbering (moves ++ [⟨pool, input, next, events⟩]) next := by
  obtain ⟨built, running⟩ := history_kept moves pool next quiet input noStatus
  obtain ⟨request, session, sequence, latest⟩ := same
  constructor
  · rw [identities, built]
    exact held.contiguous
  · rw [built, issued]
    exact held.issued
  · rw [request, issued]
    exact held.known
  · rw [request, session, sequence]
    simp only [countUnder, built]
    exact held.counted
  · rw [request, session, built, running]
    exact held.superseded
  · rw [session, running]
    exact held.session
  · rw [Finishing, running]
    exact finishing
  · rw [latest, running]
    exact held.latest
  · rw [built]
    exact held.witnessed_snoc _

/-- A status that reaches the cache may extend the RUNNING generations. -/
theorem Numbering.status (held : Numbering moves pool) (status : ControlStatus) :
    Numbering (moves ++ [⟨pool, .signal (.status status),
      ⟨(pool.shared.react (.status status)).1, pool.threads⟩, [.statusArrived status]⟩])
      ⟨(pool.shared.react (.status status)).1, pool.threads⟩ := by
  have built : builds (trace (moves ++ [⟨pool, .signal (.status status),
      ⟨(pool.shared.react (.status status)).1, pool.threads⟩, [.statusArrived status]⟩])) =
      builds (trace moves) := by simp [builds, buildRecord]
  have running : runningGenerations (moves ++ [⟨pool, .signal (.status status),
      ⟨(pool.shared.react (.status status)).1, pool.threads⟩, [.statusArrived status]⟩]) =
      runningGenerations moves ++ if status.phase = .RUNNING ∧
        (pool.shared.controller.onStatus status).latestStatus = some status then [status.generation] else [] := by
    rw [runningGenerations_append]
    congr 1
    by_cases cached : status.phase = .RUNNING ∧
      (pool.shared.controller.onStatus status).latestStatus = some status
    · simp [runningGenerations, Host.react, cached]
    · simp [runningGenerations, Host.react, cached]
  have grown : (runningGenerations moves).Sublist (runningGenerations moves ++ if status.phase = .RUNNING ∧
      (pool.shared.controller.onStatus status).latestStatus = some status then [status.generation] else []) :=
    List.sublist_append_left _ _
  constructor
  · rw [identities, built]
    exact held.contiguous
  · rw [built]
    exact held.issued
  · simpa [Host.react] using held.known
  · simp only [countUnder, built]
    simp only [Host.react, ExternalController.onStatus_kept]
    exact held.counted
  · rw [built, running]
    intro requestId current record member under other
    simp only [Host.react, ExternalController.onStatus_kept] at current other ⊢
    obtain ⟨present, order⟩ := held.superseded requestId current record member under other
    exact ⟨grown.subset present, order.imp_right fun part => part.trans grown⟩
  · rw [running]
    simp only [Host.react, ExternalController.onStatus_kept]
    exact held.session.imp_right fun present => grown.subset present
  · rw [Finishing, running]
    exact fun thread finish counter => (held.finishing thread finish counter).imp_right fun seen => grown.subset seen
  · rw [running]
    intro cached latest phase
    have now : (pool.shared.controller.onStatus status).latestStatus = some cached := latest
    rcases pool.shared.controller.onStatus_cases status with ⟨_, _, _, taken⟩ | ⟨_, kept⟩
    · obtain rfl := Option.some.inj (now.symm.trans taken)
      rw [if_pos ⟨phase, taken⟩, List.getLast?_concat]
    · by_cases same : cached = status
      · subst same
        rw [if_pos ⟨phase, now⟩, List.getLast?_concat]
      · rw [if_neg fun both => same (Option.some.inj (now.symm.trans both.2)), List.append_nil]
        exact held.latest cached (kept ▸ now) phase
  · rw [built]
    exact held.witnessed_snoc _

/-- A fresh request restarts the numbering before it has numbered anything. -/
theorem Numbering.began (held : Numbering moves pool) {requestId : String}
    (fresh : requestId ∉ pool.shared.issuedIds) (quiet : builds events = [])
    (noStatus : ∀ status, input ≠ .signal (.status status))
    (shared : next.shared = ⟨pool.shared.controller.freshRequest requestId,
      pool.shared.issuedIds ++ [requestId]⟩)
    (finishing : Finishing moves next) :
    Numbering (moves ++ [⟨pool, input, next, events⟩]) next := by
  obtain ⟨built, running⟩ := history_kept moves pool next quiet input noStatus
  have unused : ∀ record ∈ builds (trace moves), record.1 ≠ some requestId := by
    intro record member same
    obtain ⟨old, issued, under⟩ := held.issued record member
    exact fresh (Option.some.inj (under.symm.trans same) ▸ issued)
  have current (asked : String) (now : next.shared.controller.requestId = some asked) : requestId = asked := by
    rw [shared] at now
    exact Option.some.inj now
  constructor
  · rw [identities, built]
    exact held.contiguous
  · rw [built, shared]
    intro record member
    obtain ⟨old, issued, under⟩ := held.issued record member
    exact ⟨old, List.mem_append_left _ issued, under⟩
  · intro asked now
    rw [shared, ← current asked now]
    simp
  · intro asked now
    obtain rfl := current asked now
    have none : countUnder requestId next.shared.controller.externalSessionId
        (trace (moves ++ [⟨pool, input, next, events⟩])) = 0 := by
      rw [countUnder, built, List.length_eq_zero_iff, List.filter_eq_nil_iff]
      intro record member both
      exact unused record member (of_decide_eq_true both).1
    rw [none, shared]
    rfl
  · intro asked now record member under
    obtain rfl := current asked now
    exact absurd under (unused record (built ▸ member))
  · exact Or.inl (by rw [shared]; rfl)
  · rw [Finishing, running]
    exact finishing
  · rw [shared, running]
    exact held.latest
  · rw [built]
    exact held.witnessed_snoc _

/-- The generation that was seen RUNNING last supersedes every other one under which the current request
numbered a command. -/
theorem Numbering.superseded_last (held : Numbering moves pool) {requestId : String} {generation : ℤ}
    (ends : (runningGenerations moves).getLast? = some generation)
    (current : pool.shared.controller.requestId = some requestId) {record : Option String × ℤ × ℤ}
    (member : record ∈ builds (trace moves)) (under : record.1 = some requestId)
    (other : record.2.1 ≠ generation) :
    record.2.1 = 0 ∨ [record.2.1, generation].Sublist (runningGenerations moves) := by
  by_cases session : record.2.1 = pool.shared.controller.externalSessionId
  · rcases held.session with zero | seen
    · exact Or.inl (session.trans zero)
    · exact Or.inr (sublist_extend [] (by simpa [session] using seen) ends other)
  · obtain ⟨_, order⟩ := held.superseded requestId current record member under session
    refine order.imp_right fun part => sublist_extend [] ?_ ends other
    simpa using part.subset (List.mem_cons_self)

/-- A generation that replaces the learned one and was seen RUNNING last numbers nothing yet. -/
theorem Numbering.unnumbered (held : Numbering moves pool) (forGood : SupersededForGood moves)
    {requestId : String} {generation : ℤ} (valid : validGeneration generation = true)
    (ends : (runningGenerations moves).getLast? = some generation)
    (other : generation ≠ pool.shared.controller.externalSessionId)
    (current : pool.shared.controller.requestId = some requestId) :
    ∀ record ∈ builds (trace moves), record.1 = some requestId → record.2.1 ≠ generation := by
  intro record member under same
  obtain ⟨_, order⟩ := held.superseded requestId current record member under (same.symm ▸ other)
  rw [same] at order
  rcases order with zero | part
  · simp [validGeneration, zero] at valid
  · exact forGood _ _ other (sublist_extend [_] part ends (Ne.symm other))

/-- The last section of an entry finds nothing numbered under its generation, so it may choose the session. -/
theorem Numbering.established (held : Numbering moves pool) {status : ControlStatus}
    (forGood : SupersededForGood moves) (valid : validGeneration status.generation = true)
    (untouched : ∀ requestId, pool.shared.controller.requestId = some requestId →
      (∀ record ∈ builds (trace moves), record.1 ≠ some requestId) ∨
        status.generation ≠ pool.shared.controller.externalSessionId ∧
          (runningGenerations moves).getLast? = some status.generation)
    (quiet : builds events = []) (noStatus : ∀ status, input ≠ .signal (.status status))
    (seen : status.generation ∈ runningGenerations moves)
    (shared : next.shared = pool.shared.withController (pool.shared.controller.establish status))
    (finishing : Finishing moves next) :
    Numbering (moves ++ [⟨pool, input, next, events⟩]) next := by
  obtain ⟨built, running⟩ := history_kept moves pool next quiet input noStatus
  have before (requestId : String) (now : next.shared.controller.requestId = some requestId) :
      pool.shared.controller.requestId = some requestId := by rwa [shared] at now
  constructor
  · rw [identities, built]
    exact held.contiguous
  · rw [built, shared]
    exact held.issued
  · rw [shared]
    exact held.known
  · intro asked now
    have none : countUnder asked next.shared.controller.externalSessionId
        (trace (moves ++ [⟨pool, input, next, events⟩])) = 0 := by
      rw [countUnder, built, List.length_eq_zero_iff, List.filter_eq_nil_iff]
      intro record member both
      obtain ⟨under, session⟩ := of_decide_eq_true both
      rw [shared] at session
      rcases untouched asked (before asked now) with unused | ⟨other, ends⟩
      · exact unused record member under
      · exact held.unnumbered forGood valid ends other (before asked now) record member under session
    rw [none, shared]
    rfl
  · intro asked now record member under other
    rw [running, shared]
    rw [built] at member
    rw [shared] at other
    refine ⟨seen, ?_⟩
    rcases untouched asked (before asked now) with unused | ⟨_, ends⟩
    · exact absurd under (unused record member)
    · exact held.superseded_last ends (before asked now) member under other
  · rw [running, shared]
    exact Or.inr seen
  · rw [Finishing, running]
    exact finishing
  · rw [shared, running]
    exact held.latest
  · rw [built]
    exact held.witnessed_snoc _

/-- A cleared request leaves only the history. -/
theorem Numbering.cleared (held : Numbering moves pool) (quiet : builds events = [])
    (noStatus : ∀ status, input ≠ .signal (.status status))
    (shared : next.shared = pool.shared.withController pool.shared.controller.clearSession)
    (finishing : Finishing moves next) :
    Numbering (moves ++ [⟨pool, input, next, events⟩]) next := by
  obtain ⟨built, running⟩ := history_kept moves pool next quiet input noStatus
  have none : next.shared.controller.requestId = none := by rw [shared]; rfl
  constructor
  · rw [identities, built]
    exact held.contiguous
  · rw [built, shared]
    exact held.issued
  · simp [none]
  · simp [none]
  · simp [none]
  · exact Or.inl (by rw [shared]; rfl)
  · rw [Finishing, running]
    exact finishing
  · rw [shared, running]
    exact held.latest
  · rw [built]
    exact held.witnessed_snoc _

/-- When one request numbered a whole session, its count is the count of the session. -/
theorem session_count {requestId : String} {session : ℤ} {log : List Event}
    (own : ∀ record ∈ builds log, record.2.1 = session → record.1 = some requestId) :
    (numbersOf session (identities log)).length = countUnder requestId session log := by
  unfold identities countUnder
  generalize builds log = records at own
  induction records with
  | nil => rfl
  | cons record rest ih =>
      have tail := ih fun other member => own other (List.mem_cons_of_mem _ member)
      rw [List.map_cons, numbersOf_cons]
      by_cases same : record.2.1 = session
      · have request := own record List.mem_cons_self same
        rw [if_pos same, List.filter_cons_of_pos (by simp [same, request]), List.length_cons,
          List.length_cons, tail]
      · rw [if_neg same, List.filter_cons_of_neg (by simp [same]), tail]

/-- A built command takes the next sequence of its session. -/
theorem Numbering.built (held : Numbering moves pool) {thread : Thread} {choice : Choice}
    {command : Option BodyCmd} {createdUs sendUs : ℤ} {sent : BodyCmd} {c : ExternalController}
    (starts : pool.threads thread = .publishStart command)
    (published : pool.shared.controller.publishSection command createdUs sendUs = .ok (sent, c))
    (shared : next.shared = pool.shared.withController c)
    (forGood : SupersededForGood moves)
    (own : OwnGenerations (moves ++ [⟨pool, .run thread choice, next,
      [.built pool.shared.controller.requestId pool.shared.controller.leaseId sent]⟩]))
    (finishing : Finishing moves next) :
    Numbering (moves ++ [⟨pool, .run thread choice, next,
      [.built pool.shared.controller.requestId pool.shared.controller.leaseId sent]⟩]) next := by
  have owns := ExternalController.publishSection_owns published
  obtain ⟨checked, status, session, opened, valid, cached, allowed, changed, _, rfl, rfl⟩ :=
    ExternalController.publishSection_ok published
  obtain ⟨generation, origin⟩ := ExternalController.publishSession_ok changed
  obtain ⟨request, _, _, latest, _⟩ := ExternalController.publishSession_kept changed
  obtain ⟨_, _, present, _⟩ := owns
  obtain ⟨requestId, current⟩ := Option.ne_none_iff_exists'.mp present
  have running : runningGenerations (moves ++ [⟨pool, .run thread choice, next,
      [.built pool.shared.controller.requestId pool.shared.controller.leaseId
        (session.externalCommand checked createdUs sendUs)]⟩]) = runningGenerations moves := by
    simp [runningGenerations]
  have built : builds (trace (moves ++ [⟨pool, .run thread choice, next,
      [.built pool.shared.controller.requestId pool.shared.controller.leaseId
        (session.externalCommand checked createdUs sendUs)]⟩])) =
      builds (trace moves) ++ [(some requestId, status.generation, session.nextExternalSequence)] := by
    simp [builds, buildRecord, current, ExternalController.externalCommand, generation]
  -- the new command and the earlier ones of its generation belong to one request
  have live : PublishesLive ⟨pool, .run thread choice, next,
      [.built pool.shared.controller.requestId pool.shared.controller.leaseId
        (session.externalCommand checked createdUs sendUs)]⟩ (some requestId) status.generation :=
    ⟨thread, choice, command, checked, status, rfl, starts, valid, opened,
      ExternalController.publishSection_owns published, cached, rfl, current⟩
  have under : ∀ record ∈ builds (trace moves), record.2.1 = status.generation →
      record.1 = some requestId := by
    intro record member same
    obtain ⟨move, past, publishes⟩ := held.witnessed record member
    exact own move (List.mem_append_left _ past) _ (by simp) _ _ _ (same ▸ publishes) live
  have count : session.nextExternalSequence = countUnder requestId status.generation (trace moves) + 1 := by
    rcases origin with rfl | ⟨phase, positive, other, rfl⟩
    · rw [← generation]
      exact held.counted requestId current
    · have none : countUnder requestId status.generation (trace moves) = 0 := by
        rw [countUnder, List.length_eq_zero_iff, List.filter_eq_nil_iff]
        intro record member both
        obtain ⟨same, session⟩ := of_decide_eq_true both
        exact held.unnumbered forGood positive (held.latest status cached phase) other current record member same
          session
      rw [none]
      rfl
  have nowRequest : next.shared.controller.requestId = some requestId := by
    rw [shared]
    exact request.trans current
  have nowSession : next.shared.controller.externalSessionId = status.generation := by
    rw [shared]
    exact generation
  have nowSequence : next.shared.controller.nextExternalSequence =
      countUnder requestId status.generation (trace moves) + 1 + 1 := by
    rw [shared, ← count]
    rfl
  have counted : countUnder requestId status.generation (trace (moves ++ [⟨pool, .run thread choice, next,
      [.built pool.shared.controller.requestId pool.shared.controller.leaseId
        (session.externalCommand checked createdUs sendUs)]⟩])) =
      countUnder requestId status.generation (trace moves) + 1 := by
    rw [countUnder, built]
    simp [countUnder]
  constructor
  · have entries : identities (trace (moves ++ [⟨pool, .run thread choice, next,
        [.built pool.shared.controller.requestId pool.shared.controller.leaseId
          (session.externalCommand checked createdUs sendUs)]⟩])) =
        identities (trace moves) ++ [(status.generation, session.nextExternalSequence)] := by
      rw [identities, built]
      simp [identities]
    rw [entries]
    exact held.contiguous.issue (by rw [count, session_count under])
  · rw [built, shared]
    intro record member
    rcases List.mem_append.mp member with old | new
    · exact held.issued record old
    · obtain rfl := List.mem_singleton.mp new
      exact ⟨requestId, held.known requestId current, rfl⟩
  · intro asked now
    obtain rfl := Option.some.inj (nowRequest.symm.trans now)
    rw [shared]
    exact held.known requestId current
  · intro asked now
    obtain rfl := Option.some.inj (nowRequest.symm.trans now)
    rw [nowSequence, nowSession, counted]
    push_cast
    rfl
  · intro asked now record member same other
    obtain rfl := Option.some.inj (nowRequest.symm.trans now)
    rw [nowSession] at other ⊢
    rw [built] at member
    rw [running]
    rcases List.mem_append.mp member with old | new
    · rcases origin with rfl | ⟨phase, _, changes, rfl⟩
      · rw [← generation] at other ⊢
        exact held.superseded requestId current record old same other
      · have ends := held.latest status cached phase
        exact ⟨List.mem_of_getLast? ends, held.superseded_last ends current old same other⟩
    · obtain rfl := List.mem_singleton.mp new
      exact absurd rfl other
  · rw [nowSession, running]
    rcases origin with rfl | ⟨phase, _, _, rfl⟩
    · rw [← generation]
      exact held.session
    · exact Or.inr (List.mem_of_getLast? (held.latest status cached phase))
  · rw [Finishing, running]
    exact finishing
  · rw [shared, running]
    intro other now
    exact held.latest other (latest ▸ now)
  · rw [built]
    intro record member
    rcases List.mem_append.mp member with old | new
    · exact held.witnessed_snoc _ record old
    · obtain rfl := List.mem_singleton.mp new
      exact ⟨_, List.mem_append_right _ List.mem_cons_self, live⟩

variable [DecidableEq Thread]

/-- Every transition keeps the numbering when the conditions hold up to it. -/
theorem Numbering.transition (held : Numbering moves pool) {thread : Thread} {choice : Choice}
    {shared : Host} {there : Pc}
    (step : Transition pool.shared (pool.threads thread) events shared there)
    (forGood : SupersededForGood moves)
    (finishes : FinishesUntouched (moves ++ [⟨pool, .run thread choice,
      ⟨shared, Function.update pool.threads thread there⟩, events⟩]))
    (own : OwnGenerations (moves ++ [⟨pool, .run thread choice,
      ⟨shared, Function.update pool.threads thread there⟩, events⟩])) :
    Numbering (moves ++ [⟨pool, .run thread choice,
      ⟨shared, Function.update pool.threads thread there⟩, events⟩])
      ⟨shared, Function.update pool.threads thread there⟩ := by
  have finishing (mine : ∀ status, there = .enterFinish status →
      validGeneration status.generation = true ∧ status.generation ∈ runningGenerations moves) :
      Finishing moves ⟨shared, Function.update pool.threads thread there⟩ := by
    intro other status counter
    change Function.update pool.threads thread there other = .enterFinish status at counter
    by_cases same : other = thread
    · rw [same, Function.update_self] at counter
      exact mine status counter
    · rw [Function.update_of_ne same] at counter
      exact held.finishing other status counter
  generalize counter : pool.threads thread = pc at step
  cases step with
  | began opened free fresh =>
      exact held.began fresh.2 rfl (by simp) rfl (finishing (by simp))
  | @running _ _ status opened owned =>
      refine held.kept rfl (by simp) ⟨rfl, rfl, rfl, rfl⟩ rfl (finishing fun other same => ?_)
      obtain rfl := Pc.enterFinish.inj same
      obtain ⟨cached, phase, _, _, valid⟩ := ownedRunning owned
      exact ⟨valid, List.mem_of_getLast? (held.latest _ cached phase)⟩
  | @established status =>
      obtain ⟨valid, seen⟩ := held.finishing thread status counter
      exact held.established forGood valid
        (fun requestId => finishes moves _ [] rfl thread choice status requestId rfl counter) rfl (by simp) seen rfl
        (finishing (by simp))
  | built published =>
      exact held.built counter published rfl forGood own (finishing (by simp))
  | cleared => exact held.cleared rfl (by simp) rfl (finishing (by simp))
  | failClaimed claimed | exitClaimed claimed =>
      obtain ⟨_, _, _, rfl⟩ := ExternalController.claimCancel_some claimed
      exact held.kept rfl (by simp) ⟨rfl, rfl, rfl, rfl⟩ rfl (finishing (by simp))
  | closedQuietly quiet =>
      obtain ⟨_, rfl⟩ := ExternalController.closeSection_none quiet
      exact held.kept rfl (by simp) ⟨rfl, rfl, rfl, rfl⟩ rfl (finishing (by simp))
  | closedClaimed claims =>
      obtain ⟨_, _, _, _, rfl⟩ := ExternalController.closeSection_some claims
      exact held.kept rfl (by simp) ⟨rfl, rfl, rfl, rfl⟩ rfl (finishing (by simp))
  | _ => exact held.kept rfl (by simp) ⟨rfl, rfl, rfl, rfl⟩ rfl (finishing (by simp))

/-- Every move keeps the numbering when the conditions hold up to it. -/
theorem Numbering.step (held : Numbering moves pool)
    (accepted : (hostMachine Thread).step pool input = some (next, events))
    (forGood : SupersededForGood moves) (finishes : FinishesUntouched (moves ++ [⟨pool, input, next, events⟩]))
    (own : OwnGenerations (moves ++ [⟨pool, input, next, events⟩])) :
    Numbering (moves ++ [⟨pool, input, next, events⟩]) next := by
  cases Program.machine_cases accepted with
  | @call thread request ready =>
      have quiet : builds (program.call request).2 = [] := by
        rcases (Handshake.startCall_cases request).2 with one | ⟨method, error, _, two⟩
        · exact one ▸ rfl
        · exact two ▸ rfl
      refine held.kept quiet (by simp) ⟨rfl, rfl, rfl, rfl⟩ rfl ?_
      intro other status counter
      by_cases same : other = thread
      · simp only [same, Function.update_self] at counter
        have rests := (Handshake.startCall_cases request).1
        rw [show (startCall request).1 = .enterFinish status from counter] at rests
        cases rests
      · simp only [Function.update_of_ne same] at counter
        exact held.finishing other status counter
  | run stepped => exact held.transition (step_cases stepped) forGood finishes own
  | signal signal =>
      cases signal with
      | ack ack =>
          exact held.kept rfl (by simp) (by simp [program, Host.react]) rfl held.finishing
      | status status => exact held.status status

/-- Commands are identified by session and sequence, and the sequences of a session are 1, 2, 3, …
in every run whose statuses never bring a superseded generation back, whose entries finish before
anything is numbered under them or with a new generation, and whose requests never publish under one
generation. -/
theorem sequences_unique {clientId : String} {final : Pool Thread Host Pc}
    (run : (hostMachine Thread).Run (freshPool Thread clientId) moves final)
    (forGood : SupersededForGood moves) (finishes : FinishesUntouched moves) (own : OwnGenerations moves) :
    (identities (trace moves)).Nodup ∧ ∀ session, numbersOf session (identities (trace moves)) =
      (List.range (numbersOf session (identities (trace moves))).length).map fun index : Nat => (index : ℤ) + 1 := by
  have numbered : Numbering moves final := by
    refine run.invariant (fun moves pool => SupersededForGood moves → FinishesUntouched moves →
      OwnGenerations moves → Numbering moves pool) ?_ ?_ forGood finishes own
    · exact fun _ _ _ => Numbering.initial clientId
    · intro moves pool input next events _ ih accepted forGood finishes own
      have before : SupersededForGood moves := fun first second other part =>
        forGood first second other (by
          rw [runningGenerations_append]
          exact part.trans (List.sublist_append_left _ _))
      refine (ih before ?_ ?_).step accepted before finishes own
      · exact finishes.head
      · exact fun first one second two =>
          own first (List.mem_append_left _ one) second (List.mem_append_left _ two)
  exact ⟨numbered.contiguous.nodup, numbered.contiguous⟩

end Numbering

/-- Inputs of the only thread become the inputs of one of many threads. -/
def onThread {Thread : Type*} (thread : Thread) : HostInput Unit → HostInput Thread
  | .call _ request => .call thread request
  | .run _ choice => .run thread choice
  | .signal signal => .signal signal

/-- A counter that waits to finish an entry replaces the learned generation by the one seen RUNNING last. -/
def Pc.replaces (c : ExternalController) (running : List ℤ) : Pc → Bool
  | .enterFinish status => status.generation ≠ c.externalSessionId ∧ running.getLast? = some status.generation
  | _ => true

/-- Two generations supersede each other at most once. -/
theorem supersededForGood_short {Thread : Type*} {moves : List (HostMove Thread)}
    (short : (runningGenerations moves).length ≤ 2) : SupersededForGood moves := by
  intro first second _ part
  have length := part.length_le.trans short
  simp at length

/-- One thread publishes a valid command. -/
def publishes {Thread : Type*} (thread : Thread) : List (HostInput Thread) :=
  [.call thread (.publish (some zeroCommand)), .run thread {}, .run thread {}]

/-- The second thread publishes while the entry waits, the entry then finishes with another generation, and
both threads publish. -/
def replacedInputs : List (HostInput Bool) :=
  (commitInputs ++ [answerInput .COMMIT true ""] ++ runs 2).map (onThread false) ++
    [.signal (.status (runningStatus 42 1))] ++ publishes true ++ publishes true ++ [.signal (.status (runningStatus 43 2)), .run false {}, .run false {}] ++
    publishes true ++ publishes false

/-- Two threads number their commands 1, 2 under each of two generations. -/
theorem sequences_unique_replaced :
    ∃ moves final, (hostMachine Bool).Run (freshPool Bool "client") moves final ∧
      identities (trace moves) = [(42, 1), (42, 2), (43, 1), (43, 2)] ∧ (identities (trace moves)).Nodup ∧
      ∀ session, numbersOf session (identities (trace moves)) =
        (List.range (numbersOf session (identities (trace moves))).length).map
          fun index : Nat => (index : ℤ) + 1 := by
  obtain ⟨moves, final, run, _, numbered, running, counters, requests⟩ :=
    (hostMachine Bool).exists_run (freshPool Bool "client") replacedInputs
      (fun moves _ => identities (trace moves) = [(42, 1), (42, 2), (43, 1), (43, 2)] ∧
        runningGenerations moves = [42, 43] ∧
        everyCut (fun earlier move => ∀ thread, (move.before.threads thread).replaces move.before.shared.controller
          (runningGenerations earlier) = true) moves = true ∧
        (moves.all fun move => move.before.shared.controller.latestStatus = none ∨
          move.before.shared.controller.requestId = some "request") = true) (by decide +kernel)
  refine ⟨moves, final, run, numbered, sequences_unique run (supersededForGood_short (by simp [running])) ?_ ?_⟩
  · rintro earlier move later rfl thread choice status requestId _ counter _
    have replaces := of_decide_eq_true (everyCut_at counters) thread
    rw [counter] at replaces
    exact Or.inr (of_decide_eq_true replaces)
  · have only (move : HostMove Bool) (member : move ∈ moves) (requestId : Option String) (generation : ℤ)
        (publishes : PublishesLive move requestId generation) : requestId = some "request" := by
      obtain ⟨_, _, _, _, status, _, _, _, _, _, cached, _, current⟩ := publishes
      rcases of_decide_eq_true (List.all_eq_true.mp requests move member) with missing | named
      · exact absurd (cached.symm.trans missing) (by simp)
      · exact current.symm.trans named
    intro first one second two _ _ generation here there
    exact (only first one _ _ here).trans (only second two _ _ there).symm

/-- A second thread publishes before the entry finishes, so the entry gives number 1 out again. -/
theorem sequences_unique_reset :
    ¬ ∀ moves final, (hostMachine Bool).Run (freshPool Bool "client") moves final → SupersededForGood moves →
      (identities (trace moves)).Nodup ∧ ∀ session, numbersOf session (identities (trace moves)) =
        (List.range (numbersOf session (identities (trace moves))).length).map
          fun index : Nat => (index : ℤ) + 1 := by
  obtain ⟨moves, final, run, _, numbered, running⟩ :=
    (hostMachine Bool).exists_run (freshPool Bool "client")
      ((enteredInputs.dropLast).map (onThread false) ++
        [.call true (.publish (some zeroCommand)), .run true {}, .run true {}, .run false {},
          .call true (.publish (some zeroCommand)), .run true {}, .run true {}])
      (fun moves _ => identities (trace moves) = [(42, 1), (42, 1)] ∧ runningGenerations moves = [42])
      (by decide +kernel)
  intro unique
  have nodup := (unique moves final run (supersededForGood_short (by simp [running]))).1
  rw [numbered] at nodup
  exact absurd nodup (by decide)

end HumanoidSdk.Controller
