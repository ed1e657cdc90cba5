import HumanoidSdk.Capture.Live

/-
This file shows what the thread of capture_live keeps about the queue, the trace and the end record.
-/

namespace HumanoidSdk.Capture
open Foundation

namespace Event

def acceptance : Event → Option Delivery
  | .accepted delivery => some delivery
  | _ => none

/-- An accepted delivery is settled when it is queued or dropped. -/
def settlement : Event → Option Delivery
  | .queued delivery _ => some delivery
  | .dropped delivery => some delivery
  | _ => none

def entry : Event → Option Item
  | .queued delivery stamp => some (delivery.item stamp)
  | _ => none

def loss : Event → Option Delivery
  | .dropped delivery => some delivery
  | _ => none

end Event

/-- The deliveries that met an accepting capture, in the order of their callbacks. -/
def accepted (log : List Event) : List Delivery := log.filterMap Event.acceptance

def settled (log : List Event) : List Delivery := log.filterMap Event.settlement

/-- The entries of the queue in their order. -/
def queued (log : List Event) : List Item := log.filterMap Event.entry

def losses (log : List Event) : List Delivery := log.filterMap Event.loss

@[simp] theorem accepted_append (first second : List Event) :
    accepted (first ++ second) = accepted first ++ accepted second := List.filterMap_append

@[simp] theorem settled_append (first second : List Event) :
    settled (first ++ second) = settled first ++ settled second := List.filterMap_append

@[simp] theorem queued_append (first second : List Event) :
    queued (first ++ second) = queued first ++ queued second := List.filterMap_append

@[simp] theorem losses_append (first second : List Event) :
    losses (first ++ second) = losses first ++ losses second := List.filterMap_append

@[simp] theorem accepted_single (event : Event) : accepted [event] = event.acceptance.toList := by
  cases event <;> rfl

@[simp] theorem settled_single (event : Event) : settled [event] = event.settlement.toList := by
  cases event <;> rfl

@[simp] theorem queued_single (event : Event) : queued [event] = event.entry.toList := by
  cases event <;> rfl

@[simp] theorem losses_single (event : Event) : losses [event] = event.loss.toList := by
  cases event <;> rfl

/-- A settled delivery is queued or lost. -/
theorem settled_count (log : List Event) : (settled log).length = (queued log).length + (losses log).length := by
  induction log with
  | nil => rfl
  | cons event rest ih =>
      have single : (settled [event]).length = (queued [event]).length + (losses [event]).length := by
        cases event <;> rfl
      rw [← List.singleton_append, settled_append, queued_append, losses_append]
      simp only [List.length_append]
      omega

/-- The sum of a dictionary of counts. -/
def total (counts : List (Kind × ℕ)) : ℕ := (counts.map Prod.snd).sum

theorem total_increment (kind : Kind) (counts : List (Kind × ℕ)) :
    total (increment kind counts) = total counts + 1 := by
  unfold total
  induction counts with
  | nil => rfl
  | cons entry rest ih =>
      obtain ⟨key, count⟩ := entry
      by_cases same : key = kind
      · rw [increment, if_pos same]
        simp only [List.map_cons, List.sum_cons]
        omega
      · rw [increment, if_neg same]
        simp only [List.map_cons, List.sum_cons, ih]
        omega

variable {Record : Type} {bindings : Bindings Record}

def Row.asSample : Row Record → Option (SampleRow Record)
  | .sample row => some row
  | _ => none

/-- The rows of the samples in a trace. -/
def samples (rows : List (Row Record)) : List (SampleRow Record) := rows.filterMap Row.asSample

@[simp] theorem samples_append (first second : List (Row Record)) :
    samples (first ++ second) = samples first ++ samples second := List.filterMap_append

namespace Phase

/-- The item that has left the queue. -/
def hand : Phase → List Item
  | .sampling item => [item]
  | .drained item => [item]
  | _ => []

/-- Nothing has failed before these statements. -/
def healthy : Phase → Bool
  | .refusing => false
  | .closing => false
  | .finishing => false
  | .recording _ => false
  | .returned => false
  | .raised => false
  | _ => true

/-- These statements come after `accepting` is cleared. -/
def late : Phase → Bool
  | .closing => true
  | .draining => true
  | .drained _ => true
  | .finishing => true
  | .recording _ => true
  | .returned => true
  | _ => false

def stopped : Phase → Bool
  | .returned => true
  | .raised => true
  | _ => false

/-- The end record comes next. -/
def due : Phase → Bool
  | .finishing => true
  | .recording _ => true
  | _ => false

theorem not_due {phase : Phase} (early : phase.due = false) :
    phase ≠ .finishing ∧ ∀ record, phase ≠ .recording record := by
  constructor
  · rintro rfl
    cases early
  · rintro record rfl
    cases early

theorem healthy_going {phase : Phase} (healthy : phase.healthy = true) : phase.stopped = false := by
  cases phase <;> first | rfl | cases healthy

end Phase

variable {shared : Shared Record} {items : List Item}

/-- The queue held the items with a row first, then the items that a failure has lost. -/
structure Ordered (bindings : Bindings Record) (items : List Item) (shared : Shared Record)
    (written lost : List Item) : Prop where
  order : items = written ++ lost ++ shared.phase.hand ++ shared.pending
  rows : List.Forall₂ (fun item row => item.row bindings = .ok row) written (samples shared.writer.rows)
  counted : shared.failure = none → lost = [] ∧ total shared.writer.counts = written.length

/-- What the end record says stays true. -/
structure Ended (shared : Shared Record) (record : EndRow) : Prop where
  refused : shared.accepting = false
  dropped : record.droppedMessages = shared.dropped
  counts : record.counts = shared.writer.counts
  whole : record.complete = true → shared.failure = none ∧ shared.pending = []

/-- What the thread of `capture_live` keeps about the items that have been queued. -/
structure Books (bindings : Bindings Record) (items : List Item) (shared : Shared Record) : Prop where
  room : shared.pending.length ≤ shared.capacity.slots
  ordered : ∃ written lost, Ordered bindings items shared written lost
  healthy : shared.phase.healthy = true → shared.failure = none
  refused : shared.phase.late = true → shared.accepting = false
  emptied : shared.phase = .finishing → shared.failure = none → shared.pending = []
  recorded : ∀ record, shared.phase = .recording record → Ended shared record
  ended : ∀ record, .finish record ∈ shared.writer.rows → Ended shared record ∧ shared.phase.stopped = true

/-- A capture that is not over has no end record. -/
theorem Books.unended (held : Books bindings items shared) (going : shared.phase.stopped = false) (record : EndRow) :
    .finish record ∉ shared.writer.rows := fun member =>
  absurd (held.ended record member).2 (by simp [going])

/-- A failure loses the item in hand. -/
theorem Ordered.lose {written lost : List Item} (held : Ordered bindings items shared written lost)
    (failure : Failure) {next : Phase} (empty : next.hand = []) :
    Ordered bindings items { shared with failure := some failure, phase := next } written
      (lost ++ shared.phase.hand) := by
  refine ⟨?_, held.rows, fun none => by cases none⟩
  change items = written ++ (lost ++ shared.phase.hand) ++ next.hand ++ shared.pending
  rw [held.order, empty, List.append_nil, List.append_assoc written]

/-- The row of the item in hand joins the others. -/
theorem Ordered.land {written lost : List Item} {item : Item} {row : SampleRow Record}
    {counts : List (Kind × ℕ)} {failure : Option Failure} {next : Phase}
    (held : Ordered bindings items shared written lost) (hand : shared.phase.hand = [item])
    (fine : shared.failure = none) (made : item.row bindings = .ok row) (empty : next.hand = [])
    (counted : failure = none → total counts = total shared.writer.counts + 1) :
    Ordered bindings items { shared with
      writer := ⟨shared.writer.rows ++ [.sample row], counts⟩, failure, phase := next } (written ++ [item]) [] := by
  obtain ⟨rfl, tally⟩ := held.counted fine
  refine ⟨?_, ?_, fun none => ⟨rfl, ?_⟩⟩
  · change items = written ++ [item] ++ [] ++ next.hand ++ shared.pending
    rw [held.order, hand, empty, List.append_nil, List.append_nil, List.append_nil]
  · change List.Forall₂ _ _ (samples (shared.writer.rows ++ [.sample row]))
    rw [samples_append]
    exact List.rel_append held.rows (List.Forall₂.cons made List.Forall₂.nil)
  · change total counts = (written ++ [item]).length
    rw [counted none, tally, List.length_append, List.length_singleton]

/-- A statement before the end record may change the writer, the failure and the place. -/
theorem Books.settle (held : Books bindings items shared) {writer : TraceWriter Record} {failure : Option Failure}
    {next : Phase} (unended : ∀ record, .finish record ∉ writer.rows)
    (ordered : ∃ written lost, Ordered bindings items { shared with writer, failure, phase := next } written lost)
    (healthy : next.healthy = true → failure = none) (refused : next.late = true → shared.accepting = false)
    (emptied : next = .finishing → failure = none → shared.pending = [])
    (recorded : ∀ record, next = .recording record → Ended { shared with writer, failure, phase := next } record) :
    Books bindings items { shared with writer, failure, phase := next } :=
  ⟨held.room, ordered, healthy, refused, emptied, recorded, fun record member => absurd member (unended record)⟩

section Statements

variable {here next : Phase}

/-- A statement goes on to another one that neither ends the capture nor touches an item. -/
theorem Books.go (held : Books bindings items shared) (place : shared.phase = here) (going : here.stopped = false)
    (hand : here.hand = next.hand) (healthy : next.healthy = true → shared.failure = none)
    (refused : next.late = true → shared.accepting = false)
    (emptied : next = .finishing → shared.failure = none → shared.pending = [])
    (recorded : ∀ record, next = .recording record → Ended { shared with phase := next } record) :
    Books bindings items { shared with phase := next } := by
  obtain ⟨written, lost, order, rows, counted⟩ := held.ordered
  rw [place, hand] at order
  exact held.settle (held.unended (place ▸ going)) ⟨written, lost, order, rows, counted⟩ healthy refused emptied
    recorded

/-- The statements of the first block follow each other. -/
theorem Books.step (held : Books bindings items shared) (place : shared.phase = here)
    (healthy : here.healthy = true) (hand : here.hand = next.hand) (early : next.late = false)
    (undue : next.due = false) : Books bindings items { shared with phase := next } := by
  have fine := held.healthy (place ▸ healthy)
  refine held.go place (Phase.healthy_going healthy) hand (fun _ => fine) (fun late => ?_)
    (fun same => absurd same (Phase.not_due undue).1) fun record same =>
      absurd same ((Phase.not_due undue).2 record)
  exact absurd (early.symm.trans late) (by decide)

/-- An error that leaves the function. -/
theorem Books.leave (held : Books bindings items shared) (place : shared.phase = here) (going : here.stopped = false)
    (empty : here.hand = []) : Books bindings items { shared with phase := .raised } := by
  refine held.go place going empty ?_ ?_ ?_ ?_
  · rintro ⟨⟩
  · rintro ⟨⟩
  · rintro ⟨⟩
  · rintro record ⟨⟩

/-- An error that is caught loses the item in hand. -/
theorem Books.lose (held : Books bindings items shared) (place : shared.phase = here) (going : here.stopped = false)
    (failure : Failure) (empty : next.hand = []) (unhealthy : next.healthy = false)
    (refused : next.late = true → shared.accepting = false) (plain : ∀ record, next ≠ .recording record) :
    Books bindings items { shared with failure := some failure, phase := next } := by
  obtain ⟨written, lost, ordered⟩ := held.ordered
  refine held.settle (held.unended (place ▸ going)) ⟨written, _, ordered.lose failure empty⟩ ?_ refused ?_ ?_
  · intro healthy
    exact absurd (unhealthy.symm.trans healthy) (by decide)
  · rintro - ⟨⟩
  · exact fun record same => absurd same (plain record)

/-- An error leaves the books in order wherever it is raised. -/
theorem Books.raises (held : Books bindings items shared) (failure : Failure) :
    Books bindings items (shared.raises failure) := by
  have caught {here : Phase} (place : shared.phase = here) (going : here.stopped = false) :
      Books bindings items { shared with failure := some failure, phase := .refusing } :=
    held.lose place going failure rfl rfl (by rintro ⟨⟩) (by rintro record ⟨⟩)
  have again {here : Phase} (place : shared.phase = here) (going : here.stopped = false) (late : here.late = true)
      (failure : Failure) : Books bindings items { shared with failure := some failure, phase := .finishing } :=
    held.lose place going failure rfl rfl (fun _ => held.refused (place ▸ late)) (by rintro record ⟨⟩)
  unfold Shared.raises
  cases place : shared.phase with
  | refusing => exact held.leave place rfl rfl
  | finishing => exact held.leave place rfl rfl
  | recording row => exact held.leave place rfl rfl
  | closing => exact again place rfl rfl _
  | draining => exact again place rfl rfl _
  | drained item => exact again place rfl rfl _
  | returned => exact held
  | raised => exact held
  | creating => exact caught place rfl
  | grouping => exact caught place rfl
  | subscribing rest => exact caught place rfl
  | looping => exact caught place rfl
  | marking => exact caught place rfl
  | writing label stamp => exact caught place rfl
  | getting => exact caught place rfl
  | sampling item => exact caught place rfl

/-- A write that changes nothing and raises. -/
theorem Books.raises_empty (held : Books bindings items shared) (failure : Failure) :
    Books bindings items (Shared.raises { shared with
      writer := { shared.writer with rows := shared.writer.rows ++ [] } } failure) := by
  rw [List.append_nil]
  exact held.raises failure

/-- The next item leaves the queue. -/
theorem Books.take (held : Books bindings items shared) (place : shared.phase = here)
    (healthy : here.healthy = true) (empty : here.hand = []) {item : Item} {rest : List Item}
    (waiting : shared.pending = item :: rest) (hand : next.hand = [item])
    (refused : next.late = true → shared.accepting = false) (undue : next.due = false) :
    Books bindings items { shared with pending := rest, phase := next } := by
  obtain ⟨written, lost, order, rows, counted⟩ := held.ordered
  have room := held.room
  have going := Phase.healthy_going healthy
  rw [waiting, List.length_cons] at room
  refine ⟨Nat.le_of_succ_le room, ⟨written, lost, ?_, rows, counted⟩, fun _ => held.healthy (place ▸ healthy),
    refused, fun same => absurd same (Phase.not_due undue).1, fun record same =>
    absurd same ((Phase.not_due undue).2 record), fun record member =>
    absurd member (held.unended (place ▸ going) record)⟩
  change items = written ++ lost ++ next.hand ++ rest
  rw [order, place, empty, hand, waiting, List.append_nil, List.append_assoc _ [item]]
  rfl

/-- A marker leaves the books in order. -/
theorem Books.marker (held : Books bindings items shared) {label : String} {stamp : ℤ}
    (place : shared.phase = .writing label stamp) (written : Written) : Books bindings items
      (shared.proceed .getting (shared.writer.write (.marker label stamp) written)) := by
  obtain ⟨done, lost, order, paired, counted⟩ := held.ordered
  have same : samples (shared.writer.rows ++ [.marker label stamp]) = samples shared.writer.rows := by
    rw [samples_append]
    exact List.append_nil _
  have noted : Books bindings items { shared with
      writer := { shared.writer with rows := shared.writer.rows ++ [.marker label stamp] } } := by
    refine held.settle (fun record member => ?_) ⟨done, lost, order, same.symm ▸ paired, counted⟩ held.healthy
      held.refused held.emptied fun record other => by cases place.symm.trans other
    rcases List.mem_append.mp member with old | new
    · exact held.unended (by rw [place]; rfl) record old
    · cases List.mem_singleton.mp new
  cases written with
  | returns => exact noted.step place rfl rfl rfl rfl
  | raises failure landed =>
      cases landed with
      | false => exact held.raises_empty failure
      | true => exact noted.raises failure

/-- The row of the item in hand is written. -/
theorem Books.land (held : Books bindings items shared) (place : shared.phase = here)
    (healthy : here.healthy = true) {item : Item} {row : SampleRow Record} {counts : List (Kind × ℕ)}
    {failure : Option Failure} (hand : here.hand = [item]) (made : item.row bindings = .ok row)
    (empty : next.hand = []) (counted : failure = none → total counts = total shared.writer.counts + 1)
    (later : next.healthy = true → failure = none) (refused : next.late = true → shared.accepting = false)
    (emptied : next = .finishing → failure ≠ none) (plain : ∀ record, next ≠ .recording record) :
    Books bindings items { shared with
      writer := ⟨shared.writer.rows ++ [.sample row], counts⟩, failure, phase := next } := by
  obtain ⟨written, lost, ordered⟩ := held.ordered
  have going := Phase.healthy_going healthy
  have joined := ordered.land (place ▸ hand) (held.healthy (place ▸ healthy)) made empty counted
  refine held.settle (fun record member => ?_) ⟨_, _, joined⟩ later refused
    (fun same none => absurd none (emptied same)) fun record same => absurd same (plain record)
  rcases List.mem_append.mp member with old | new
  · exact held.unended (place ▸ going) record old
  · cases List.mem_singleton.mp new

/-- A sample leaves the books in order, whether it is decoded and written or not. -/
theorem Books.sample (held : Books bindings items shared) {item : Item} (written : Written)
    (place : shared.phase = .sampling item ∧ next = .looping ∨ shared.phase = .drained item ∧ next = .draining) :
    Books bindings items (shared.proceed next (shared.writer.sample bindings item written)) := by
  unfold TraceWriter.sample
  cases made : item.row bindings with
  | error failure => exact held.raises failure
  | ok row =>
      have counted := total_increment item.kind shared.writer.counts
      rcases place with ⟨place, rfl⟩ | ⟨place, rfl⟩
      · have fine := held.healthy (by rw [place]; rfl)
        cases written with
        | returns =>
            exact held.land place rfl rfl made rfl (fun _ => counted) (fun _ => fine) (by rintro ⟨⟩)
              (by rintro ⟨⟩) (by rintro record ⟨⟩)
        | raises failure landed =>
            cases landed with
            | false => exact held.raises_empty failure
            | true =>
                change Books bindings items (Shared.raises { shared with
                  writer := { shared.writer with rows := shared.writer.rows ++ [.sample row] } } failure)
                unfold Shared.raises
                rw [place]
                exact held.land place rfl rfl made rfl (by rintro ⟨⟩) (by rintro ⟨⟩) (by rintro ⟨⟩)
                  (by rintro ⟨⟩) (by rintro record ⟨⟩)
      · have fine := held.healthy (by rw [place]; rfl)
        have late := held.refused (by rw [place]; rfl)
        cases written with
        | returns =>
            exact held.land place rfl rfl made rfl (fun _ => counted) (fun _ => fine) (fun _ => late)
              (by rintro ⟨⟩) (by rintro record ⟨⟩)
        | raises failure landed =>
            cases landed with
            | false => exact held.raises_empty failure
            | true =>
                change Books bindings items (Shared.raises { shared with
                  writer := { shared.writer with rows := shared.writer.rows ++ [.sample row] } } failure)
                unfold Shared.raises
                rw [place]
                exact held.land place rfl rfl made rfl (by rintro ⟨⟩) (by rintro ⟨⟩) (fun _ => late)
                  (by rintro - ⟨⟩) (by rintro record ⟨⟩)

/-- The end record tells the truth about the capture. -/
theorem Books.record (held : Books bindings items shared) {row : EndRow} (place : shared.phase = .recording row)
    (written : Written) : Books bindings items (shared.proceed
      (if shared.failure = none then .returned else .raised) (shared.writer.write (.finish row) written)) := by
  have refused := held.refused (by rw [place]; rfl)
  have told := held.recorded row place
  have finish (next : Phase) (stopped : next.stopped = true) (bare : next.hand = []) (unhealthy : next.healthy = false)
      (undue : next.due = false) : Books bindings items { shared with
        writer := { shared.writer with rows := shared.writer.rows ++ [.finish row] }, phase := next } := by
    obtain ⟨written, lost, order, rows, counted⟩ := held.ordered
    rw [place, show (Phase.recording row).hand = next.hand from bare.symm] at order
    refine ⟨held.room, ⟨written, lost, order, ?_, counted⟩, ?_, fun _ => refused,
      fun same => absurd same (Phase.not_due undue).1, fun record same =>
      absurd same ((Phase.not_due undue).2 record), fun record member => ?_⟩
    · change List.Forall₂ _ _ (samples (shared.writer.rows ++ [.finish row]))
      rw [samples_append]
      exact (List.append_nil (samples shared.writer.rows)).symm ▸ rows
    · intro healthy
      exact absurd (unhealthy.symm.trans healthy) (by decide)
    · rcases List.mem_append.mp member with old | new
      · exact absurd old (held.unended (by rw [place]; rfl) record)
      · cases List.mem_singleton.mp new
        exact ⟨⟨told.refused, told.dropped, told.counts, told.whole⟩, stopped⟩
  cases written with
  | returns =>
      change Books bindings items { shared with
        writer := { shared.writer with rows := shared.writer.rows ++ [.finish row] }
        phase := if shared.failure = none then .returned else .raised }
      split
      · exact finish .returned rfl rfl rfl rfl
      · exact finish .raised rfl rfl rfl rfl
  | raises failure landed =>
      cases landed with
      | false => exact held.raises_empty failure
      | true =>
          change Books bindings items (Shared.raises { shared with
            writer := { shared.writer with rows := shared.writer.rows ++ [.finish row] } } failure)
          unfold Shared.raises
          rw [place]
          exact finish .raised rfl rfl rfl rfl

/-- The capture stops accepting. -/
theorem Books.refuse (held : Books bindings items shared) (place : shared.phase = here) (going : here.stopped = false)
    (empty : here.hand = []) : Books bindings items { shared with accepting := false, phase := .closing } := by
  obtain ⟨written, lost, order, rows, counted⟩ := held.ordered
  rw [place, empty] at order
  refine ⟨held.room, ⟨written, lost, order, rows, counted⟩, ?_, fun _ => rfl, ?_, ?_, fun record member =>
    absurd member (held.unended (place ▸ going) record)⟩
  · rintro ⟨⟩
  · rintro ⟨⟩
  · rintro record ⟨⟩

/-- Every statement of `capture_live` leaves the books in order. -/
theorem Books.advance (held : Books bindings items shared) (outcome : Outcome) :
    Books bindings items (shared.advance bindings outcome) := by
  unfold Shared.advance
  cases place : shared.phase with
  | creating =>
      cases outcome with
      | raises failure => exact held.raises failure
      | returns => exact held.step place rfl rfl rfl rfl
      | _ => exact held
  | grouping =>
      cases outcome with
      | raises failure => exact held.raises failure
      | returns => exact held.step place rfl rfl rfl rfl
      | _ => exact held
  | subscribing todo =>
      cases outcome with
      | raises failure => exact held.raises failure
      | returns =>
          cases todo with
          | nil => exact held.step place rfl rfl rfl rfl
          | cons kind rest => exact held.step place rfl rfl rfl rfl
      | _ => cases todo <;> exact held
  | looping =>
      cases outcome with
      | raises failure => exact held.raises failure
      | test more =>
          cases more with
          | false => exact held.step place rfl rfl rfl rfl
          | true => exact held.step place rfl rfl rfl rfl
      | _ => exact held
  | marking =>
      cases outcome with
      | raises failure => exact held.raises failure
      | label marker captureTimestampNs =>
          change Books bindings items (shared.mark captureTimestampNs marker)
          match marker with
          | none => exact held.step place rfl rfl rfl rfl
          | some .other => exact held.raises _
          | some (.text label) =>
              change Books bindings items (if _ then _ else _)
              split
              · exact held.step place rfl rfl rfl rfl
              · exact held.raises _
      | _ => exact held
  | writing label captureTimestampNs =>
      cases outcome with
      | raises failure => exact held.raises failure
      | written written => exact held.marker place written
      | _ => exact held
  | getting =>
      cases outcome with
      | raises failure => exact held.raises failure
      | returns =>
          cases waiting : shared.pending with
          | nil => exact held
          | cons item rest => exact held.take place rfl rfl waiting rfl (by rintro ⟨⟩) rfl
      | timeout =>
          change Books bindings items (if _ then _ else _)
          split
          · exact held.step place rfl rfl rfl rfl
          · exact held
      | _ => exact held
  | sampling item =>
      cases outcome with
      | raises failure => exact held.raises failure
      | written written => exact held.sample written (.inl ⟨place, rfl⟩)
      | _ => exact held
  | refusing =>
      cases outcome with
      | raises failure => exact held.raises failure
      | returns =>
          change Books bindings items (if _ then _ else _)
          split
          · exact held
          · exact held.refuse place rfl rfl
      | _ => exact held
  | closing =>
      cases outcome with
      | raises failure => exact held.raises failure
      | returns =>
          have late := held.refused (by rw [place]; rfl)
          change Books bindings items { shared with phase := if shared.failure = none then .draining else .finishing }
          split
          case isTrue fine =>
            exact held.go place rfl rfl (fun _ => fine) (fun _ => late) (by rintro ⟨⟩) (by rintro record ⟨⟩)
          case isFalse failed =>
            exact held.go place rfl rfl (by rintro ⟨⟩) (fun _ => late) (fun _ fine => absurd fine failed)
              (by rintro record ⟨⟩)
      | _ => exact held
  | draining =>
      cases outcome with
      | raises failure => exact held.raises failure
      | returns =>
          have late := held.refused (by rw [place]; rfl)
          cases waiting : shared.pending with
          | nil =>
              have finished : Books bindings items { shared with phase := .finishing } :=
                held.go place rfl rfl (by rintro ⟨⟩) (fun _ => late) (fun _ _ => waiting) (by rintro record ⟨⟩)
              rw [waiting] at finished
              exact finished
          | cons item rest => exact held.take place rfl rfl waiting rfl (fun _ => late) rfl
      | _ => exact held
  | drained item =>
      cases outcome with
      | raises failure => exact held.raises failure
      | written written => exact held.sample written (.inr ⟨place, rfl⟩)
      | _ => exact held
  | finishing =>
      cases outcome with
      | raises failure => exact held.raises failure
      | returns =>
          have late := held.refused (by rw [place]; rfl)
          refine held.go place rfl rfl (by rintro ⟨⟩) (fun _ => late) (by rintro ⟨⟩) ?_
          rintro record ⟨⟩
          refine ⟨late, rfl, rfl, fun complete => ?_⟩
          have fine : shared.failure = none := Option.isNone_iff_eq_none.mp complete
          exact ⟨fine, held.emptied place fine⟩
      | _ => exact held
  | recording row =>
      cases outcome with
      | raises failure => exact held.raises failure
      | written written => exact held.record place written
      | _ => exact held
  | returned =>
      cases outcome with
      | raises failure => exact held.raises failure
      | _ => exact held
  | raised =>
      cases outcome with
      | raises failure => exact held.raises failure
      | _ => exact held

end Statements

section Callbacks

/-- The lock is no part of the books. -/
theorem Books.lock (held : Books bindings items shared) (locked : Bool) :
    Books bindings items { shared with locked } := by
  obtain ⟨written, lost, order, rows, counted⟩ := held.ordered
  refine ⟨held.room, ⟨written, lost, order, rows, counted⟩, held.healthy, held.refused, held.emptied,
    fun record place => ?_, fun record member => ?_⟩
  · obtain ⟨refused, dropped, counts, whole⟩ := held.recorded record place
    exact ⟨refused, dropped, counts, whole⟩
  · obtain ⟨⟨refused, dropped, counts, whole⟩, stopped⟩ := held.ended record member
    exact ⟨⟨refused, dropped, counts, whole⟩, stopped⟩

/-- While the capture accepts, no end record is due or written. -/
theorem Books.early (held : Books bindings items shared) (accepting : shared.accepting = true) :
    shared.phase ≠ .finishing ∧ (∀ record, shared.phase ≠ .recording record) ∧
      ∀ record, .finish record ∉ shared.writer.rows := by
  have open' : ¬shared.accepting = false := by simp [accepting]
  refine ⟨fun place => open' (held.refused ?_), fun record place => open' (held.recorded record place).refused,
    fun record member => open' (held.ended record member).1.refused⟩
  rw [place]
  rfl

theorem Books.put (held : Books bindings items shared) (accepting : shared.accepting = true) (item : Item)
    (room : shared.pending.length < shared.capacity.slots) :
    Books bindings (items ++ [item]) { shared with pending := shared.pending ++ [item] } := by
  obtain ⟨written, lost, order, rows, counted⟩ := held.ordered
  obtain ⟨undone, untold, unended⟩ := held.early accepting
  refine ⟨?_, ⟨written, lost, ?_, rows, counted⟩, held.healthy, held.refused, fun place => absurd place undone,
    fun record place => absurd place (untold record), fun record member => absurd member (unended record)⟩
  · change (shared.pending ++ [item]).length ≤ _
    rw [List.length_append, List.length_singleton]
    exact room
  · change items ++ [item] = written ++ lost ++ shared.phase.hand ++ (shared.pending ++ [item])
    rw [order, List.append_assoc]

theorem Books.drop (held : Books bindings items shared) (accepting : shared.accepting = true) :
    Books bindings items { shared with dropped := shared.dropped + 1 } := by
  obtain ⟨written, lost, order, rows, counted⟩ := held.ordered
  obtain ⟨undone, untold, unended⟩ := held.early accepting
  exact ⟨held.room, ⟨written, lost, order, rows, counted⟩, held.healthy, held.refused,
    fun place => absurd place undone, fun record place => absurd place (untold record),
    fun record member => absurd member (unended record)⟩

end Callbacks

end HumanoidSdk.Capture
