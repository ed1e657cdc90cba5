import HumanoidSdk.Capture.Books

/-
This file shows that a live capture queues or drops every delivery that it accepts, and what its end
record says about them.
-/

namespace HumanoidSdk.Capture
open Foundation

variable {Record : Type} {bindings : Bindings Record} {shared : Shared Record}

namespace Callback

def inside : Callback → Bool
  | .idle => false
  | .called _ => false
  | _ => true

/-- The delivery that is accepted but neither queued nor dropped yet. -/
def flight : Callback → List Delivery
  | .putting delivery => [delivery]
  | .dropping delivery => [delivery]
  | _ => []

end Callback

/-- The lock of `capture_live`. -/
def captureLock : Lock (Shared Record) Callback := ⟨Shared.locked, Callback.inside⟩

/-- Accepted deliveries are settled, except for the one in flight. -/
structure Account (bindings : Bindings Record) (log : List Event) (shared : Shared Record)
    (flight : List Delivery) : Prop where
  settled : accepted log = settled log ++ flight
  dropped : shared.dropped = (losses log).length
  accepting : flight ≠ [] → shared.accepting = true
  books : Books bindings (queued log) shared

variable {log : List Event} {flight : List Delivery}

theorem Account.lock (held : Account bindings log shared flight) (locked : Bool) :
    Account bindings log { shared with locked } flight :=
  ⟨held.settled, held.dropped, held.accepting, held.books.lock locked⟩

/-- A refused delivery is no accepted one. -/
theorem Account.refuse (held : Account bindings log shared flight) (delivery : Delivery) :
    Account bindings (log ++ [.refused delivery]) shared flight := by
  obtain ⟨settled, dropped, accepting, books⟩ := held
  refine ⟨?_, ?_, accepting, ?_⟩
  · rw [accepted_append, settled_append, settled]
    simp [Event.acceptance, Event.settlement]
  · rw [losses_append, dropped]
    simp [Event.loss]
  · simpa [Event.entry] using books

theorem Account.accept (held : Account bindings log shared []) (accepting : shared.accepting = true)
    (delivery : Delivery) : Account bindings (log ++ [.accepted delivery]) shared [delivery] := by
  obtain ⟨settled, dropped, -, books⟩ := held
  refine ⟨?_, ?_, fun _ => accepting, ?_⟩
  · rw [accepted_append, settled_append, settled]
    simp [Event.acceptance, Event.settlement]
  · rw [losses_append, dropped]
    simp [Event.loss]
  · simpa [Event.entry] using books

theorem Account.put {delivery : Delivery} (held : Account bindings log shared [delivery]) (stamp : ℤ)
    (room : shared.pending.length < shared.capacity.slots) :
    Account bindings (log ++ [.queued delivery stamp])
      { shared with pending := shared.pending ++ [delivery.item stamp] } [] := by
  have books := held.books.put (held.accepting (List.cons_ne_nil _ _)) (delivery.item stamp) room
  obtain ⟨settled, dropped, -, -⟩ := held
  refine ⟨?_, ?_, fun none => absurd rfl none, ?_⟩
  · rw [accepted_append, settled_append, settled]
    simp [Event.acceptance, Event.settlement]
  · rw [losses_append, dropped]
    simp [Event.loss]
  · rw [queued_append]
    exact books

theorem Account.drop {delivery : Delivery} (held : Account bindings log shared [delivery]) :
    Account bindings (log ++ [.dropped delivery]) { shared with dropped := shared.dropped + 1 } [] := by
  have books := held.books.drop (held.accepting (List.cons_ne_nil _ _))
  obtain ⟨settled, dropped, -, -⟩ := held
  refine ⟨?_, ?_, fun none => absurd rfl none, ?_⟩
  · rw [accepted_append, settled_append, settled]
    simp [Event.acceptance, Event.settlement]
  · rw [losses_append, dropped]
    simp [Event.loss]
  · simpa [Event.entry] using books

/-- A statement of `capture_live` leaves the lock and the drops alone, and it stops accepting only while
the lock is free. -/
structure Gate (before after : Shared Record) : Prop where
  capacity : after.capacity = before.capacity
  locked : after.locked = before.locked
  dropped : after.dropped = before.dropped
  accepting : after.accepting = before.accepting ∨ before.locked = false ∧ after.accepting = false

theorem Gate.plain {before after : Shared Record} (capacity : after.capacity = before.capacity)
    (locked : after.locked = before.locked) (dropped : after.dropped = before.dropped)
    (accepting : after.accepting = before.accepting) : Gate before after :=
  ⟨capacity, locked, dropped, .inl accepting⟩

theorem raises_gate (shared : Shared Record) (failure : Failure) : Gate shared (shared.raises failure) := by
  unfold Shared.raises
  split
  all_goals exact .plain rfl rfl rfl rfl

theorem proceed_gate (shared : Shared Record) (next : Phase) (written : TraceWriter Record × Option Failure) :
    Gate shared (shared.proceed next written) := by
  obtain ⟨writer, failure⟩ := written
  cases failure with
  | none => exact .plain rfl rfl rfl rfl
  | some failure =>
      obtain ⟨capacity, locked, dropped, accepting⟩ := raises_gate { shared with writer } failure
      exact ⟨capacity, locked, dropped, accepting⟩

theorem mark_gate (shared : Shared Record) (stamp : ℤ) (marker : Option Marker) :
    Gate shared (shared.mark stamp marker) := by
  unfold Shared.mark
  split
  · exact .plain rfl rfl rfl rfl
  · split
    · exact .plain rfl rfl rfl rfl
    · exact raises_gate _ _
  · exact raises_gate _ _

theorem advance_gate (shared : Shared Record) (outcome : Outcome) :
    Gate shared (shared.advance bindings outcome) := by
  unfold Shared.advance
  split
  case h_1 => exact raises_gate _ _
  case h_7 => exact mark_gate _ _ _
  case h_8 | h_11 | h_15 | h_17 => exact proceed_gate _ _ _
  case h_12 =>
    split
    case isTrue => exact .plain rfl rfl rfl rfl
    case isFalse free => exact ⟨rfl, rfl, rfl, .inr ⟨Bool.eq_false_of_not_eq_true free, rfl⟩⟩
  case h_9 | h_10 | h_14 =>
    split
    all_goals exact .plain rfl rfl rfl rfl
  all_goals exact .plain rfl rfl rfl rfl

theorem Account.advance (held : Account bindings log shared flight) (safe : flight = [] ∨ shared.locked = true)
    (outcome : Outcome) : Account bindings log (shared.advance bindings outcome) flight := by
  have gate := @advance_gate _ bindings shared outcome
  refine ⟨held.settled, gate.dropped.trans held.dropped, fun flying => ?_, held.books.advance outcome⟩
  rcases gate.accepting with same | ⟨free, -⟩
  · exact same.trans (held.accepting flying)
  · rcases safe with none | taken
    · exact absurd none flying
    · exact absurd (free.symm.trans taken) (by decide)

/-- Outside of the lock a callback only starts, or it enters while the lock is free. -/
theorem outside_cases {shared after : Shared Record} {here next : Callback} {events : List Event}
    (outside : here.inside = false) (acts : (captureLive bindings).Act shared here events after next) :
    after = shared ∧ events = [] ∧ (∃ delivery, next = .called delivery) ∨
      shared.locked = false ∧ after = { shared with locked := true } ∧ events = [] ∧
        ∃ delivery, next = .entered delivery := by
  cases acts with
  | call ready request => exact .inl ⟨rfl, rfl, request, rfl⟩
  | step stepped =>
      cases here with
      | idle => cases stepped
      | called delivery =>
          obtain ⟨free, only⟩ := Option.ite_none_left_eq_some.mp stepped
          cases only
          exact .inr ⟨Bool.eq_false_of_not_eq_true free, rfl, rfl, delivery, rfl⟩
      | entered | putting | dropping | leaving => cases outside

/-- A callback that holds the lock accounts for its delivery with every statement. -/
theorem receive_settles {shared after : Shared Record} {here next : Callback} {clock : ℤ} {events : List Event}
    (inside : here.inside = true) (taken : shared.locked = true)
    (held : Account bindings log shared here.flight)
    (stepped : shared.receive here clock = some (after, next, events)) :
    after.locked = true ∧ next.inside = true ∧ Account bindings (log ++ events) after next.flight ∨
      after.locked = false ∧ next.inside = false ∧ Account bindings (log ++ events) after [] := by
  cases here with
  | idle | called => cases inside
  | entered delivery =>
      unfold Shared.receive at stepped
      dsimp only at stepped
      by_cases accepting : shared.accepting = false
      · rw [if_pos accepting] at stepped
        cases stepped
        exact .inl ⟨taken, rfl, held.refuse delivery⟩
      · rw [if_neg accepting] at stepped
        have accepted := held.accept (Bool.eq_true_of_not_eq_false accepting) delivery
        split at stepped
        all_goals
          cases stepped
          exact .inl ⟨taken, rfl, accepted⟩
  | putting delivery =>
      unfold Shared.receive at stepped
      dsimp only at stepped
      split at stepped
      case isTrue full =>
        cases stepped
        refine .inl ⟨taken, rfl, ?_⟩
        rw [List.append_nil]
        exact held
      case isFalse room =>
        cases stepped
        exact .inl ⟨taken, rfl, held.put clock (Nat.lt_of_not_le room)⟩
  | dropping delivery =>
      cases stepped
      exact .inl ⟨taken, rfl, held.drop⟩
  | leaving =>
      cases stepped
      refine .inr ⟨rfl, rfl, ?_⟩
      rw [List.append_nil]
      exact held.lock false

/-- The account goes with the lock. -/
def Owned (bindings : Bindings Record) (log : List Event) (shared : Shared Record) (callback : Callback) : Prop :=
  shared.locked = true ∧ Account bindings log shared callback.flight

theorem disciplined (bindings : Bindings Record) : captureLock.Discipline
    (fun log shared => Account bindings log shared []) (Owned bindings) (captureLive bindings) where
  enter free outside held acts := by
    rcases outside_cases outside acts with ⟨rfl, rfl, delivery, rfl⟩ | ⟨_, rfl, rfl, delivery, rfl⟩
    · refine .inr ⟨free, rfl, ?_⟩
      rw [List.append_nil]
      exact held
    · refine .inl ⟨rfl, rfl, rfl, ?_⟩
      rw [List.append_nil]
      exact held.lock true
  inside {log shared here events after next} taken inside owned acts := by
    cases acts with
    | call ready request =>
        cases here with
        | idle => cases inside
        | called | entered | putting | dropping | leaving => exact absurd ready (by simp [captureLive])
    | step stepped =>
        rcases receive_settles inside taken owned.2 stepped with ⟨locked, within, held⟩ | settled
        · exact .inl ⟨locked, within, locked, held⟩
        · exact .inr settled
  outside taken outside acts := by
    rcases outside_cases outside acts with ⟨rfl, rfl, delivery, rfl⟩ | ⟨free, -⟩
    · refine ⟨taken, rfl, fun there owned => ?_⟩
      rw [List.append_nil]
      exact owned
    · exact absurd (taken.symm.trans free) (by decide)
  signalled {log shared} outcome := by
    have gate := @advance_gate _ bindings shared outcome
    refine ⟨gate.locked, fun held => ?_, fun there owned => ?_⟩
    · rw [captureLive, List.append_nil]
      exact held.advance (.inl rfl) outcome
    · rw [captureLive, List.append_nil]
      exact ⟨gate.locked.trans owned.1, owned.2.advance (.inr owned.1) outcome⟩

/-- A callback never changes the capacity. -/
theorem receive_capacity {shared after : Shared Record} {here next : Callback} {clock : ℤ} {events : List Event}
    (stepped : shared.receive here clock = some (after, next, events)) : after.capacity = shared.capacity := by
  unfold Shared.receive at stepped
  split at stepped
  case h_1 => cases stepped
  case h_2 =>
    obtain ⟨-, only⟩ := Option.ite_none_left_eq_some.mp stepped
    cases only
    rfl
  case h_3 =>
    split at stepped
    · cases stepped
      rfl
    · split at stepped
      all_goals
        cases stepped
        rfl
  case h_4 =>
    split at stepped
    all_goals
      cases stepped
      rfl
  all_goals
    cases stepped
    rfl

/-- After the capture has stopped accepting, a callback without a delivery in flight does nothing. -/
theorem receive_silent {shared after : Shared Record} {here next : Callback} {clock : ℤ} {events : List Event}
    (stopped : shared.accepting = false) (empty : here.flight = [])
    (stepped : shared.receive here clock = some (after, next, events)) :
    after.accepting = false ∧ accepted events = [] ∧ settled events = [] := by
  cases here with
  | idle => cases stepped
  | called delivery =>
      obtain ⟨-, only⟩ := Option.ite_none_left_eq_some.mp stepped
      cases only
      exact ⟨stopped, rfl, rfl⟩
  | entered delivery =>
      unfold Shared.receive at stepped
      dsimp only at stepped
      rw [if_pos stopped] at stepped
      cases stepped
      exact ⟨stopped, rfl, rfl⟩
  | putting | dropping => cases empty
  | leaving =>
      cases stepped
      exact ⟨stopped, rfl, rfl⟩

section Run

variable {Thread : Type} [DecidableEq Thread] {capacity : Capacity}
  {moves : List (Move (Pool Thread (Shared Record) Callback) (PoolInput Thread Delivery ℤ Outcome) Event)}
  {final : Pool Thread (Shared Record) Callback}

theorem run_capacity (run : ((captureLive bindings).machine Thread).Run (start Record Thread capacity) moves final) :
    final.shared.capacity = capacity := by
  refine run.stateInvariant (fun pool => pool.shared.capacity = capacity) rfl ?_
  intro pool input next events held accepted
  cases Program.machine_cases accepted with
  | call ready => exact held
  | run stepped => exact (receive_capacity stepped).trans held
  | signal outcome => exact (advance_gate pool.shared outcome).capacity.trans held

/-- A fresh capture has nothing to account for. -/
theorem start_account (capacity : Capacity) :
    Account bindings [] ({ capacity } : Shared Record) [] := by
  refine ⟨rfl, rfl, fun none => absurd rfl none, Nat.zero_le _, ⟨[], [], rfl, List.Forall₂.nil, fun _ => ⟨rfl, rfl⟩⟩,
    fun _ => rfl, by rintro ⟨⟩, by rintro ⟨⟩, by rintro record ⟨⟩, fun record member => ?_⟩
  cases List.mem_singleton.mp member

theorem run_guards (run : ((captureLive bindings).machine Thread).Run (start Record Thread capacity) moves final) :
    captureLock.Guards (fun log shared => Account bindings log shared []) (Owned bindings) (trace moves)
      final.shared final.threads :=
  (disciplined bindings).run (.free rfl (start_account capacity) fun _ => rfl) run

/-- At most one accepted delivery is in flight, and only while its callback holds the lock. -/
theorem run_account (run : ((captureLive bindings).machine Thread).Run (start Record Thread capacity) moves final) :
    ∃ flight, Account bindings (trace moves) final.shared flight ∧ flight.length ≤ 1 ∧
      (flight ≠ [] → final.shared.locked = true) := by
  cases run_guards run with
  | free open' kept away => exact ⟨[], kept, Nat.zero_le _, fun none => absurd rfl none⟩
  | held closed holder holding kept alone =>
      refine ⟨(final.threads holder).flight, kept.2, ?_, fun _ => kept.1⟩
      cases final.threads holder with
      | putting | dropping => exact Nat.le_refl 1
      | idle | called | entered | leaving => exact Nat.zero_le 1

/-- No step accepts, queues or drops a delivery once the capture has stopped accepting. -/
theorem step_silent {log : List Event} {pool next : Pool Thread (Shared Record) Callback}
    {input : PoolInput Thread Delivery ℤ Outcome} {events : List Event}
    (guarded : captureLock.Guards (fun log shared => Account bindings log shared []) (Owned bindings) log
      pool.shared pool.threads)
    (stepped : ((captureLive bindings).machine Thread).step pool input = some (next, events))
    (stopped : pool.shared.accepting = false) :
    next.shared.accepting = false ∧ accepted events = [] ∧ settled events = [] := by
  have empty (thread : Thread) : (pool.threads thread).flight = [] := by
    by_contra flying
    have holding : (pool.threads thread).inside = true := by
      cases here : pool.threads thread with
      | putting | dropping | entered | leaving => rfl
      | idle | called => exact absurd (by rw [here]; rfl) flying
    have accepting := (guarded.of_holds holding).2.accepting flying
    exact absurd (stopped.symm.trans accepting) (by decide)
  cases Program.machine_cases stepped with
  | call ready => exact ⟨stopped, rfl, rfl⟩
  | run stepped => exact receive_silent stopped (empty _) stepped
  | signal outcome =>
      refine ⟨?_, rfl, rfl⟩
      rcases (advance_gate pool.shared outcome).accepting with same | ⟨-, refused⟩
      · exact same.trans stopped
      · exact refused

/-- Every accepted delivery is queued or dropped before its callback leaves, nothing is queued later, the
rows of the samples follow the queue, the queue keeps its capacity, and a complete end record counts
every accepted delivery, of which the queued ones have one row each. -/
theorem capture_conserves (bindings : Bindings Record) (capacity : Capacity)
    (run : ((captureLive bindings).machine Thread).Run (start Record Thread capacity) moves final) :
    (∃ flight, accepted (trace moves) = settled (trace moves) ++ flight ∧ flight.length ≤ 1 ∧
      (flight ≠ [] → final.shared.locked = true ∧ final.shared.accepting = true)) ∧
    final.shared.dropped = (losses (trace moves)).length ∧
    (∀ move ∈ moves, move.before.shared.accepting = false →
      move.after.shared.accepting = false ∧ accepted move.events = [] ∧ settled move.events = []) ∧
    (∃ written rest, queued (trace moves) = written ++ rest ∧
      List.Forall₂ (fun item row => item.row bindings = .ok row) written (samples final.shared.writer.rows)) ∧
    final.shared.pending.length ≤ capacity.slots ∧
    ∀ record, .finish record ∈ final.shared.writer.rows → record.complete = true →
      total record.counts + record.droppedMessages = (accepted (trace moves)).length ∧
      List.Forall₂ (fun item row => item.row bindings = .ok row) (queued (trace moves))
        (samples final.shared.writer.rows) := by
  obtain ⟨flight, held, few, locked⟩ := run_account run
  obtain ⟨written, lost, order, rows, counted⟩ := held.books.ordered
  refine ⟨⟨flight, held.settled, few, fun flying => ⟨locked flying, held.accepting flying⟩⟩, held.dropped,
    fun move member stopped => ?_, ⟨written, lost ++ (final.shared.phase.hand ++ final.shared.pending), ?_, rows⟩,
    ?_, ?_⟩
  · obtain ⟨earlier, later, cut⟩ := List.append_of_mem member
    obtain ⟨before, stepped, _⟩ := run.at_move cut
    exact step_silent (run_guards before) stepped stopped
  · rw [order, List.append_assoc, List.append_assoc]
  · rw [← run_capacity run]
    exact held.books.room
  · intro record member complete
    obtain ⟨told, stopped⟩ := held.books.ended record member
    obtain ⟨fine, empty⟩ := told.whole complete
    obtain ⟨rfl, tally⟩ := counted fine
    have landed : flight = [] := by
      by_contra flying
      exact absurd (told.refused.symm.trans (held.accepting flying)) (by decide)
    have bare : final.shared.phase.hand = [] := by
      cases place : final.shared.phase with
      | returned | raised => rfl
      | _ => simp [place, Phase.stopped] at stopped
    have all : queued (trace moves) = written := by
      rw [order, bare, empty, List.append_nil, List.append_nil, List.append_nil]
    have settled := held.settled
    rw [landed, List.append_nil] at settled
    refine ⟨?_, all ▸ rows⟩
    rw [settled, settled_count, all, told.counts, tally, told.dropped, held.dropped]

end Run

def sampleBindings : Bindings Unit where
  parse _ _ := .ok ()
  sha256 _ := ""

def sampleDelivery : Delivery := ⟨.bodyState, List.replicate 8 0, some 1, some "robot"⟩

/-- Two callbacks meet a queue of one slot after all subscriptions, the first item is written, and the
capture ends. -/
def sampleInputs : List (PoolInput Bool Delivery ℤ Outcome) :=
  List.replicate 20 (.signal .returns) ++ [.call false sampleDelivery, .call true sampleDelivery] ++
    List.replicate 4 (.run false 7) ++ List.replicate 5 (.run true 8) ++
    [.signal (.test true), .signal (.label none 9), .signal .returns, .signal (.written .returns),
      .signal (.test false)] ++ List.replicate 4 (.signal .returns) ++ [.signal (.written .returns)]

theorem capture_conserves_drop : ∃ moves final record,
    ((captureLive sampleBindings).machine Bool).Run (start Unit Bool ⟨1, by decide, by decide⟩) moves final ∧
    .finish record ∈ final.shared.writer.rows ∧ record.complete = true ∧ record.droppedMessages = 1 ∧
    (accepted (trace moves)).length = 2 ∧
    total record.counts + record.droppedMessages = (accepted (trace moves)).length := by
  obtain ⟨moves, final, run, _, rows, many⟩ := ((captureLive sampleBindings).machine Bool).exists_run
    (start Unit Bool ⟨1, by decide, by decide⟩) sampleInputs
    (fun moves final => .finish ⟨true, 1, [(.bodyState, 1)], none⟩ ∈ final.shared.writer.rows ∧
      (accepted (trace moves)).length = 2) (by decide +kernel)
  obtain ⟨_, _, _, _, _, complete⟩ := capture_conserves sampleBindings ⟨1, by decide, by decide⟩ run
  exact ⟨moves, final, _, run, rows, rfl, rfl, many, (complete _ rows rfl).1⟩

end HumanoidSdk.Capture
