import HumanoidSdk.Controller.StatusCache
import HumanoidSdk.Foundation.Newest
import Mathlib

namespace HumanoidSdk.Controller
open Foundation

/-- Statuses are ordered by their stamp and within one stamp by their sequence. -/
def statusKey (status : ControlStatus) : ℤ ×ₗ ℤ := toLex (status.stampMonotonicNs, status.statusSeq)

theorem statusIsNewer_lex {status previous : ControlStatus} (first : 0 ≤ status.stampMonotonicNs)
    (second : 0 ≤ previous.stampMonotonicNs) :
    statusIsNewer status (some previous) = true ↔ statusKey previous < statusKey status := by
  rw [statusIsNewer_iff first second, statusKey, statusKey, Prod.Lex.toLex_lt_toLex, eq_comm]

def readable (status : ControlStatus) : Bool := status.protocolVersion = PROTOCOL_VERSION

/-- Only the statuses of the known version compete for the cache. -/
def readableOf (statuses : List ControlStatus) : List ControlStatus := statuses.filter readable

theorem mem_readableOf {statuses : List ControlStatus} {status : ControlStatus} :
    status ∈ readableOf statuses ↔ status ∈ statuses ∧ status.protocolVersion = PROTOCOL_VERSION := by
  simp [readableOf, readable]

namespace ExternalController

/-- The transport hands over the statuses one after the other. -/
def deliver (c : ExternalController) (statuses : List ControlStatus) : ExternalController :=
  statuses.foldl onStatus c

/-- No status in the cache or in the delivery has a negative stamp. -/
def Stamped (c : ExternalController) (statuses : List ControlStatus) : Prop :=
  ∀ status, c.latestStatus = some status ∨ status ∈ statuses → 0 ≤ status.stampMonotonicNs

/-- The key of the cached status, below all keys when there is none. -/
def cachedKey (c : ExternalController) : WithBot (ℤ ×ₗ ℤ) := rank statusKey c.latestStatus

theorem deliver_snoc (c : ExternalController) (statuses : List ControlStatus) (last : ControlStatus) :
    c.deliver (statuses ++ [last]) = (c.deliver statuses).onStatus last := by
  rw [deliver, List.foldl_append]
  rfl

theorem deliver_closed (c : ExternalController) (statuses : List ControlStatus) :
    (c.deliver statuses).closed = c.closed := by
  induction statuses using List.reverseRecOn with
  | nil => rfl
  | append_singleton statuses last ih => rw [deliver_snoc, (onStatus_kept _ last).2.2.2.2.2.2.2.1, ih]

/-- A closed controller ignores every status. -/
theorem deliver_shut {c : ExternalController} (shut : c.closed = true) (statuses : List ControlStatus) :
    c.deliver statuses = c := by
  induction statuses using List.reverseRecOn with
  | nil => rfl
  | append_singleton statuses last ih =>
      rw [deliver_snoc, ih, onStatus, if_pos]
      exact Or.inr (Or.inl shut)

/-- One status goes through the cache of an open controller like a value through a register. -/
theorem onStatus_latest {c : ExternalController} (opened : c.closed = false) {status : ControlStatus}
    (cached : ∀ previous, c.latestStatus = some previous → 0 ≤ previous.stampMonotonicNs)
    (stamped : 0 ≤ status.stampMonotonicNs) :
    (c.onStatus status).latestStatus = newest statusKey c.latestStatus (readableOf [status]) := by
  by_cases version : status.protocolVersion = PROTOCOL_VERSION
  · have alone : readableOf [status] = [status] := by simp [readableOf, readable, version]
    rw [alone]
    cases held : c.latestStatus with
    | none => simp [onStatus, version, opened, held, statusIsNewer, newest, offer]
    | some previous =>
        have order := statusIsNewer_lex stamped (cached previous held)
        by_cases newer : statusKey previous < statusKey status
        · simp [onStatus, version, opened, held, order.mpr newer, newest, offer, newer]
        · have older : statusIsNewer status (some previous) = false :=
            Bool.eq_false_iff.mpr (mt order.mp newer)
          simp [onStatus, version, held, older, newest, offer, newer]
  · have alone : readableOf [status] = [] := by simp [readableOf, readable, version]
    rw [alone, onStatus, if_pos (Or.inl version)]
    rfl

/-- The cache of an open controller is the newest of all readable statuses. -/
theorem deliver_latest {c : ExternalController} (opened : c.closed = false)
    {statuses : List ControlStatus} (stamped : c.Stamped statuses) :
    (c.deliver statuses).latestStatus = newest statusKey c.latestStatus (readableOf statuses) := by
  induction statuses using List.reverseRecOn with
  | nil => rfl
  | append_singleton statuses last ih =>
      have before := ih fun status known => stamped status (known.imp id (List.mem_append_left _))
      have open' := (deliver_closed c statuses).trans opened
      rw [deliver_snoc, onStatus_latest open' _ (stamped last (Or.inr (by simp))), before,
        readableOf, readableOf, readableOf, List.filter_append, newest_append]
      intro previous held
      rw [before] at held
      exact stamped previous ((newest_origin statusKey held).imp id fun member =>
        List.mem_append_left _ (mem_readableOf.mp member).1)

/-- Delivering statuses changes nothing but the cached status. -/
theorem deliver_eq (c : ExternalController) (statuses : List ControlStatus) :
    c.deliver statuses = { c with latestStatus := (c.deliver statuses).latestStatus } := by
  induction statuses using List.reverseRecOn with
  | nil => rfl
  | append_singleton statuses last ih =>
      rw [deliver_snoc, onStatus_eq, ih]

/-- The keys that compete for the cache of an open controller. -/
def competing (c : ExternalController) (statuses : List ControlStatus) : Set (WithBot (ℤ ×ₗ ℤ)) :=
  insert c.cachedKey {key | ∃ status ∈ statuses, status.protocolVersion = PROTOCOL_VERSION ∧
    key = statusKey status}

theorem deliver_isGreatest {c : ExternalController} (opened : c.closed = false)
    {statuses : List ControlStatus} (stamped : c.Stamped statuses) :
    IsGreatest (c.competing statuses) (c.deliver statuses).cachedKey := by
  have latest := deliver_latest opened stamped
  have bounds := (rank_newest_le_iff statusKey c.latestStatus (readableOf statuses) _).mp le_rfl
  rw [cachedKey, latest]
  constructor
  · cases held : newest statusKey c.latestStatus (readableOf statuses) with
    | none =>
        rw [held, rank_none] at bounds
        exact Or.inl (le_bot_iff.mp bounds.1).symm
    | some status =>
        rcases newest_origin statusKey held with first | member
        · exact Or.inl (by rw [cachedKey, first])
        · obtain ⟨delivered, version⟩ := mem_readableOf.mp member
          exact Or.inr ⟨status, delivered, version, rfl⟩
  · intro key member
    rcases member with rfl | ⟨status, delivered, version, rfl⟩
    · exact bounds.1
    · exact bounds.2 status (mem_readableOf.mpr ⟨delivered, version⟩)

/-- No two different statuses of the cache and of the delivery have the same key. -/
def KeysDistinct (c : ExternalController) (statuses : List ControlStatus) : Prop :=
  ∀ status other, (c.latestStatus = some status ∨ status ∈ statuses) →
    (c.latestStatus = some other ∨ other ∈ statuses) → statusKey status = statusKey other →
    status = other

/-- The order of delivery decides neither the cached key nor, with distinct keys, the state. -/
theorem deliver_congr {c : ExternalController} {first second : List ControlStatus}
    (stamped : c.Stamped first) (same : ∀ status, status ∈ first ↔ status ∈ second) :
    (c.deliver first).cachedKey = (c.deliver second).cachedKey ∧
      (c.KeysDistinct first → c.deliver first = c.deliver second) := by
  cases opened : c.closed with
  | true => simp [deliver_shut opened]
  | false =>
      have again : c.Stamped second := fun status known => stamped status (known.imp id (same status).mpr)
      have alike : ∀ status, status ∈ readableOf first ↔ status ∈ readableOf second := by
        simp [mem_readableOf, same]
      constructor
      · rw [cachedKey, cachedKey, deliver_latest opened stamped, deliver_latest opened again]
        exact rank_newest_congr statusKey _ alike
      · intro distinct
        have latest : (c.deliver first).latestStatus = (c.deliver second).latestStatus := by
          rw [deliver_latest opened stamped, deliver_latest opened again]
          refine newest_congr statusKey alike fun status other left right => ?_
          exact distinct status other (left.imp id fun member => (mem_readableOf.mp member).1)
            (right.imp id fun member => (mem_readableOf.mp member).1)
        rw [deliver_eq c first, deliver_eq c second, latest]

/-- One more delivery never lowers the cached key. -/
theorem deliver_grows {c : ExternalController} {earlier later : List ControlStatus}
    (stamped : c.Stamped (earlier ++ later)) :
    (c.deliver earlier).cachedKey ≤ (c.deliver (earlier ++ later)).cachedKey := by
  cases opened : c.closed with
  | true => simp [deliver_shut opened]
  | false =>
      have before : c.Stamped earlier := fun status known =>
        stamped status (known.imp id (List.mem_append_left _))
      rw [cachedKey, cachedKey, deliver_latest opened before, deliver_latest opened stamped, readableOf,
        readableOf, List.filter_append, newest_append]
      exact rank_le_newest statusKey _ _

end ExternalController

section Host

open ExternalController

variable {Thread : Type*} [DecidableEq Thread]

/-- The status that an event reports as arrived. -/
def arrivalOf : Event → Option ControlStatus
  | .statusArrived status => some status
  | .ackArrived _ => none
  | _ => none

def arrivals (log : List Event) : List ControlStatus := log.filterMap arrivalOf

theorem mem_arrivals {log : List Event} {status : ControlStatus} :
    status ∈ arrivals log ↔ .statusArrived status ∈ log := by
  rw [arrivals, List.mem_filterMap]
  constructor
  · rintro ⟨event, member, same⟩
    cases event with
    | statusArrived other => exact Option.some.inj same ▸ member
    | _ => simp [arrivalOf] at same
  · exact fun member => ⟨_, member, rfl⟩

/-- While the controller stays open, its cache is what the arrivals alone make of it. -/
theorem cache_deliver {start final : Pool Thread Host Pc} {moves : List (HostMove Thread)}
    (run : (hostMachine Thread).Run start moves final) (opened : final.shared.controller.closed = false) :
    final.shared.controller.latestStatus =
      (start.shared.controller.deliver (arrivals (trace moves))).latestStatus := by
  induction run with
  | nil => rfl
  | @snoc moves pool next input events earlier accepted ih =>
      have before := ih (pool_closed accepted opened)
      have start_open : start.shared.controller.closed = false := by
        refine earlier.invariant (fun _ state => state.shared.controller.closed = false →
          start.shared.controller.closed = false) id ?_ (pool_closed accepted opened)
        intro _ _ _ _ _ _ kept moved open'
        exact kept (pool_closed moved open')
      rw [trace_append, trace_cons, trace_nil, List.append_nil, arrivals, List.filterMap_append]
      rcases pool_status accepted with ⟨status, rfl, _, same⟩ | ⟨kept, _, silent⟩
      · rw [same]
        change (pool.shared.controller.onStatus status).latestStatus =
          (start.shared.controller.deliver (arrivals (trace moves) ++ [status])).latestStatus
        have alike : (start.shared.controller.deliver (arrivals (trace moves))).closed = false :=
          (deliver_closed _ _).trans start_open
        rw [deliver_snoc, onStatus, onStatus, before, alike, pool_closed accepted opened]
        split
        · exact before
        · rfl
      · have none_arrived : List.filterMap arrivalOf events = [] := by
          refine List.filterMap_eq_nil_iff.mpr fun event member => ?_
          cases event with
          | statusArrived status => exact absurd member (silent status)
          | _ => rfl
        rw [none_arrived, List.append_nil, kept]
        exact before

/-- No step of the host lowers the cached key or caches a status with a negative stamp. -/
theorem cachedKey_step {pool next : Pool Thread Host Pc} {input : HostInput Thread} {events : List Event}
    (accepted : (hostMachine Thread).step pool input = some (next, events))
    (stamped : pool.shared.controller.Stamped (arrivals events)) :
    pool.shared.controller.cachedKey ≤ next.shared.controller.cachedKey ∧
      next.shared.controller.Stamped [] := by
  rcases pool_status accepted with ⟨status, rfl, _, same⟩ | ⟨kept, _, _⟩
  · rw [same]
    have grows : (pool.shared.controller.deliver []).cachedKey ≤
        (pool.shared.controller.deliver ([] ++ [status])).cachedKey := deliver_grows stamped
    refine ⟨grows, fun cached known => ?_⟩
    have held : (pool.shared.controller.onStatus status).latestStatus = some cached := by
      simpa using known
    rcases pool.shared.controller.onStatus_cases status with ⟨_, _, _, taken⟩ | ⟨_, kept⟩
    · obtain rfl := Option.some.inj (taken.symm.trans held)
      exact stamped status (Or.inr (mem_arrivals.mpr (by simp)))
    · exact stamped cached (Or.inl (kept ▸ held))
  · rw [cachedKey, cachedKey, kept]
    refine ⟨le_rfl, fun cached known => ?_⟩
    rw [kept] at known
    exact stamped cached (Or.inl (by simpa using known))

/-- No call of the client and no message ever lowers the cached key. -/
theorem cachedKey_run {start final : Pool Thread Host Pc} {moves : List (HostMove Thread)}
    (run : (hostMachine Thread).Run start moves final)
    (stamped : start.shared.controller.Stamped (arrivals (trace moves))) :
    start.shared.controller.cachedKey ≤ final.shared.controller.cachedKey ∧
      final.shared.controller.Stamped [] := by
  induction run with
  | nil => exact ⟨le_rfl, fun status known => stamped status (known.imp id (by simp))⟩
  | @snoc moves pool next input events earlier accepted ih =>
      have parts : arrivals (trace (moves ++ [⟨pool, input, next, events⟩])) =
          arrivals (trace moves) ++ arrivals events := by simp [arrivals]
      rw [parts] at stamped
      have past := ih fun status known => stamped status (known.imp id (List.mem_append_left _))
      have last := cachedKey_step accepted fun status known => known.elim
        (fun cached => past.2 status (Or.inl cached))
        (fun member => stamped status (Or.inr (List.mem_append_right _ member)))
      exact ⟨past.1.trans last.1, last.2⟩

end Host

open ExternalController in
/-- The cache is ordered by stamp and sequence alone and forgets the order of delivery. -/
theorem statusCache_orderInsensitive (Thread : Type*) [DecidableEq Thread] :
    (∀ status previous : ControlStatus, 0 ≤ status.stampMonotonicNs → 0 ≤ previous.stampMonotonicNs →
      (statusIsNewer status (some previous) = true ↔ statusKey previous < statusKey status)) ∧
    (∀ (c : ExternalController) (earlier later : List ControlStatus), c.Stamped (earlier ++ later) →
      (c.deliver earlier).cachedKey ≤ (c.deliver (earlier ++ later)).cachedKey) ∧
    (∀ (c : ExternalController) (first second : List ControlStatus), c.Stamped first →
      (∀ status, status ∈ first ↔ status ∈ second) →
      (c.deliver first).cachedKey = (c.deliver second).cachedKey ∧
      (c.closed = false → IsGreatest (c.competing first) (c.deliver first).cachedKey) ∧
      (c.KeysDistinct first → c.deliver first = c.deliver second)) ∧
    ∀ (start final : Pool Thread Host Pc) (moves : List (HostMove Thread)),
      (hostMachine Thread).Run start moves final →
      start.shared.controller.Stamped (arrivals (trace moves)) →
      start.shared.controller.cachedKey ≤ final.shared.controller.cachedKey ∧
      (final.shared.controller.closed = false → final.shared.controller.latestStatus =
        (start.shared.controller.deliver (arrivals (trace moves))).latestStatus) :=
  ⟨fun _ _ => statusIsNewer_lex,
    fun _ _ _ => deliver_grows,
    fun _ _ _ stamped same => ⟨(deliver_congr stamped same).1,
      fun opened => deliver_isGreatest opened stamped, (deliver_congr stamped same).2⟩,
    fun _ _ _ run stamped => ⟨(cachedKey_run run stamped).1, cache_deliver run⟩⟩

/-- A status with this stamp and this sequence. -/
def newsAt (stamp sequence : ℤ) : ControlStatus where
  statusSeq := sequence
  currentAction := "EXTERNAL"
  phase := .RUNNING
  stampMonotonicNs := stamp

/-- Two deliveries of the same three statuses, the second out of order and with one of them twice. -/
theorem statusCache_orderInsensitive_shuffled :
    let c : ExternalController := { clientId := "client" }
    c.deliver [newsAt 5 9, newsAt 7 1, newsAt 7 2] =
        c.deliver [newsAt 7 2, newsAt 5 9, newsAt 7 2, newsAt 7 1] ∧
      (c.deliver [newsAt 7 2, newsAt 5 9, newsAt 7 2, newsAt 7 1]).latestStatus = some (newsAt 7 2) := by
  intro c
  have stamped : c.Stamped [newsAt 5 9, newsAt 7 1, newsAt 7 2] := by
    simp [ExternalController.Stamped, c, newsAt]
  have same : ∀ status, status ∈ [newsAt 5 9, newsAt 7 1, newsAt 7 2] ↔
      status ∈ [newsAt 7 2, newsAt 5 9, newsAt 7 2, newsAt 7 1] := by
    intro status
    simp only [List.mem_cons, List.not_mem_nil, or_false]
    tauto
  have distinct : c.KeysDistinct [newsAt 5 9, newsAt 7 1, newsAt 7 2] := by
    intro status other first second
    simp only [c, reduceCtorEq, List.mem_cons, List.not_mem_nil, or_false, false_or] at first second
    rcases first with rfl | rfl | rfl <;> rcases second with rfl | rfl | rfl <;> decide
  have alike := (statusCache_orderInsensitive Unit).2.2.1 c _ _ stamped same
  exact ⟨alike.2.2 distinct, by decide⟩

end HumanoidSdk.Controller
