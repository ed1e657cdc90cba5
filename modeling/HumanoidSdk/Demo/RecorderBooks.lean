import HumanoidSdk.Demo.Recorder
import HumanoidSdk.Foundation.Precondition

/-
This file keeps account of every row of the recorder: it is in the queue or in the hand of the writer
thread, it is handed to the file, or it is counted as dropped.
-/

namespace HumanoidSdk.Demo
open Foundation

variable {Object : Type}

/-- The write is accepted or counted. -/
def RecorderEvent.Admits : RecorderEvent Object → Prop
  | .accepted _ | .summarised _ | .refused _ => True
  | _ => False

/-- The rows of a log by what has become of them. -/
structure Ledger (Object : Type) where
  accepted : List (Row Object) := []
  summaries : List (Row Object) := []
  refused : List (Row Object) := []
  handed : List (Row Object) := []
  lost : List (Row Object) := []
  concluded : List (Row Object) := []
  closed : Bool := false
  returned : Bool := false

def Ledger.add (ledger : Ledger Object) : RecorderEvent Object → Ledger Object
  | .accepted row => { ledger with accepted := ledger.accepted ++ [row] }
  | .summarised row => { ledger with summaries := ledger.summaries ++ [row] }
  | .refused row => { ledger with refused := ledger.refused ++ [row] }
  | .rejected _ | .raised _ => ledger
  | .closing => { ledger with closed := true }
  | .returned => { ledger with returned := true }
  | .handed row => { ledger with handed := ledger.handed ++ [row] }
  | .lost rows => { ledger with lost := ledger.lost ++ rows }
  | .concluded row => { ledger with concluded := ledger.concluded ++ [row] }

def ledgerOf (log : List (RecorderEvent Object)) : Ledger Object := log.foldl Ledger.add {}

theorem ledgerOf_append (log events : List (RecorderEvent Object)) :
    ledgerOf (log ++ events) = events.foldl Ledger.add (ledgerOf log) := List.foldl_append

/-- A log is closed from the first call of `close` on. -/
theorem ledgerOf_closed {log : List (RecorderEvent Object)} : (ledgerOf log).closed = true ↔ .closing ∈ log := by
  induction log using List.reverseRecOn with
  | nil => simp [ledgerOf]
  | append_singleton log event ih =>
      rw [ledgerOf_append]
      cases event <;> simp [Ledger.add, ih]

theorem ledgerOf_returned {log : List (RecorderEvent Object)} :
    (ledgerOf log).returned = true ↔ .returned ∈ log := by
  induction log using List.reverseRecOn with
  | nil => simp [ledgerOf]
  | append_singleton log event ih =>
      rw [ledgerOf_append]
      cases event <;> simp [Ledger.add, ih]

namespace WriterPhase

/-- The row between the queue and the file. -/
def hand : WriterPhase Object → List (Row Object)
  | .holding row | .failing row _ => [row]
  | _ => []

/-- The rows that are written and not yet counted. -/
def uncounted : WriterPhase Object → ℕ
  | .counting | .crediting => 1
  | _ => 0

/-- The thread has left its loop. -/
def late : WriterPhase Object → Bool
  | .waiting | .holding _ | .counting | .failing _ _ => false
  | _ => true

/-- The summary is not written. -/
def before : WriterPhase Object → Bool
  | .waiting | .holding _ | .counting | .failing _ _ | .testing | .summing => true
  | _ => false

/-- Without an error the summary is written. -/
def after : WriterPhase Object → Bool
  | .crediting | .flushing | .shutting | .finished => true
  | _ => false

/-- No exception is on its way. -/
def clean : WriterPhase Object → Bool
  | .failing _ _ | .aborting _ | .faulting _ => false
  | _ => true

theorem late_of_after {phase : WriterPhase Object} (after : phase.after = true) : phase.late = true := by
  cases phase <;> first | rfl | cases after

end WriterPhase

/-- The first row. -/
def RecorderSetup.headerRow (setup : RecorderSetup Object) : Row Object := ("kind", .text "header") :: setup.header

/-- What the recorder knows about the rows of a ledger. -/
structure Recorder.Books (setup : RecorderSetup Object) (ledger : Ledger Object) (recorder : Recorder Object) :
    Prop where
  conveyed : Conveyed (setup.headerRow :: ledger.accepted) ledger.handed ledger.lost recorder.phase.hand recorder.rows
  whole : recorder.error = none → ledger.lost = []
  spent : recorder.error ≠ none → recorder.rows = [] ∧ recorder.phase.hand = []
  submitted : recorder.submitted = 1 + ledger.accepted.length + ledger.refused.length + ledger.summaries.length
  enqueued : recorder.enqueued = 1 + ledger.accepted.length
  dropped : recorder.dropped = ledger.refused.length + ledger.lost.length
  written : recorder.written + recorder.phase.uncounted = ledger.handed.length + ledger.concluded.length
  depth : recorder.rows.length ≤ recorder.maxDepth
  room : recorder.maxDepth ≤ setup.capacity
  summary : recorder.summary = ledger.summaries.getLast?
  closing : recorder.closing = ledger.closed
  late : recorder.phase.late = true → recorder.closing = true ∧ recorder.rows = []
  before : recorder.phase.before = true → ledger.concluded = []
  after : recorder.error = none → recorder.phase.after = true →
    ledger.concluded = [recorder.summaryRow setup (recorder.written + recorder.phase.uncounted)]
  file : recorder.error = none → recorder.phase.clean = true →
    Formatted (Recorder.format setup) (ledger.handed ++ ledger.concluded) recorder.file
  returned : ledger.returned = true → recorder.phase = .finished ∧ recorder.error = none

namespace Recorder.Books

variable {setup : RecorderSetup Object} {ledger : Ledger Object} {recorder : Recorder Object}

/-- The constructor leaves the header in the queue. -/
theorem start (setup : RecorderSetup Object) : (Recorder.start setup).1.Books setup {} := by
  have plain : Row.isSummary setup.headerRow = false := rfl
  have positive := setup.capacity_pos
  have made : (Recorder.start setup).1 = { submitted := 1, rows := [setup.headerRow], enqueued := 1, maxDepth := 1 } := by
    unfold Recorder.start Recorder.write
    rw [if_neg (by simp), if_neg (by rw [← RecorderSetup.headerRow, plain]; simp), if_neg (by simp; omega)]
    rfl
  rw [made]
  constructor
  · exact .start _
  · exact fun _ => rfl
  · exact fun failed => absurd rfl failed
  · rfl
  · rfl
  · rfl
  · rfl
  · exact le_refl 1
  · exact positive
  · rfl
  · rfl
  · rintro ⟨⟩
  · exact fun _ => rfl
  · rintro _ ⟨⟩
  · exact fun _ _ => .nil
  · rintro ⟨⟩

/-- The writer has not left its loop while `close` has not begun. -/
theorem early (books : recorder.Books setup ledger) (going : recorder.closing = false) :
    recorder.phase.late = false ∧ ledger.returned = false := by
  have loop : recorder.phase.late = false := by
    by_contra late
    have closed := (books.late (by simpa using late)).1
    rw [going] at closed
    cases closed
  refine ⟨loop, ?_⟩
  by_contra returned
  have done := (books.returned (by simpa using returned)).1
  rw [done] at loop
  cases loop

/-- A thread in its loop has written no summary. -/
theorem not_after (books : recorder.Books setup ledger) (going : recorder.closing = false)
    {goal : Prop} (after : recorder.phase.after = true) : goal := by
  have loop := (books.early going).1
  rw [WriterPhase.late_of_after after] at loop
  cases loop

/-- The summary stays out of the queue. -/
theorem summarise (books : recorder.Books setup ledger) (going : recorder.closing = false) (row : Row Object) :
    Recorder.Books setup (ledger.add (.summarised row))
      { recorder with submitted := recorder.submitted + 1, summary := some row } := by
  have submitted : recorder.submitted + 1 = 1 + ledger.accepted.length + ledger.refused.length +
      (ledger.summaries ++ [row]).length := by
    rw [books.submitted, List.length_append, List.length_singleton]
    omega
  exact { books with
    submitted := submitted
    summary := List.getLast?_concat.symm
    after := fun _ after => books.not_after going after }

/-- A row that finds an error or a full queue is dropped. -/
theorem refuse (books : recorder.Books setup ledger) (going : recorder.closing = false) (row : Row Object) :
    Recorder.Books setup (ledger.add (.refused row))
      { recorder with submitted := recorder.submitted + 1, dropped := recorder.dropped + 1 } := by
  have submitted : recorder.submitted + 1 = 1 + ledger.accepted.length + (ledger.refused ++ [row]).length +
      ledger.summaries.length := by
    rw [books.submitted, List.length_append, List.length_singleton]
    omega
  have dropped : recorder.dropped + 1 = (ledger.refused ++ [row]).length + ledger.lost.length := by
    rw [books.dropped, List.length_append, List.length_singleton]
    omega
  exact { books with
    submitted := submitted
    dropped := dropped
    after := fun _ after => books.not_after going after }

/-- A row joins the queue. -/
theorem accept (books : recorder.Books setup ledger) (going : recorder.closing = false) (fine : recorder.error = none)
    (space : recorder.rows.length < setup.capacity) (row : Row Object) :
    Recorder.Books setup (ledger.add (.accepted row)) { recorder with
      submitted := recorder.submitted + 1
      rows := recorder.rows ++ [row]
      enqueued := recorder.enqueued + 1
      maxDepth := max recorder.maxDepth (recorder.rows.length + 1) } := by
  have submitted : recorder.submitted + 1 = 1 + (ledger.accepted ++ [row]).length + ledger.refused.length +
      ledger.summaries.length := by
    rw [books.submitted, List.length_append, List.length_singleton]
    omega
  have enqueued : recorder.enqueued + 1 = 1 + (ledger.accepted ++ [row]).length := by
    rw [books.enqueued, List.length_append, List.length_singleton]
    omega
  have depth : (recorder.rows ++ [row]).length ≤ max recorder.maxDepth (recorder.rows.length + 1) := by
    rw [List.length_append]
    exact le_max_right _ _
  exact { books with
    conveyed := books.conveyed.push row
    spent := fun failed => absurd fine failed
    submitted := submitted
    enqueued := enqueued
    depth := depth
    room := max_le books.room space
    late := fun late => absurd ((books.early going).1.symm.trans late) (by decide)
    after := fun _ after => books.not_after going after }

/-- A call of `write`. -/
theorem write (books : recorder.Books setup ledger) (row : Row Object) :
    (recorder.write setup row).1.Books setup ((recorder.write setup row).2.foldl Ledger.add ledger) := by
  unfold Recorder.write
  split
  · exact books
  · rename_i closing
    have going : recorder.closing = false := Bool.eq_false_of_not_eq_true closing
    split
    · exact books.summarise going row
    · split
      · exact books.refuse going row
      · rename_i free
        rw [not_or, Option.not_isSome_iff_eq_none, not_le] at free
        exact books.accept going free.1 free.2 row

/-- A call of `close` begins. -/
theorem close (books : recorder.Books setup ledger) :
    Recorder.Books setup (ledger.add .closing) { recorder with closing := true, joining := recorder.joining + 1 } :=
  { books with
    closing := rfl
    late := fun late => ⟨rfl, (books.late late).2⟩ }

/-- A call of `close` returns after the thread. -/
theorem join (books : recorder.Books setup ledger) (finished : recorder.phase = .finished) :
    Recorder.Books setup
      (ledger.add (if recorder.error.isNone then .returned else .raised (recorder.statistics setup)))
      { recorder with joining := recorder.joining - 1 } := by
  split
  · rename_i fine
    exact { books with returned := fun _ => ⟨finished, Option.isNone_iff_eq_none.mp fine⟩ }
  · exact { books with }

/-- A statement of the thread moves no row. -/
theorem go (books : recorder.Books setup ledger) {next : WriterPhase Object} {file : String}
    (hand : next.hand = recorder.phase.hand) (uncounted : next.uncounted = recorder.phase.uncounted)
    (running : recorder.phase ≠ .finished)
    (late : next.late = true → recorder.closing = true ∧ recorder.rows = [])
    (before : next.before = true → ledger.concluded = [])
    (after : recorder.error = none → next.after = true → recorder.phase.after = true)
    (clean : recorder.error = none → next.clean = true → recorder.phase.clean = true ∧ file = recorder.file) :
    Recorder.Books setup ledger { recorder with file := file, phase := next } :=
  { books with
    conveyed := hand ▸ books.conveyed
    spent := fun failed => ⟨(books.spent failed).1, hand.trans (books.spent failed).2⟩
    written := (congrArg _ uncounted).trans books.written
    late := late
    before := before
    after := by
      intro fine isAfter
      rw [books.after fine (after fine isAfter), ← uncounted]
      rfl
    file := by
      intro fine isClean
      obtain ⟨cleanBefore, rfl⟩ := clean fine isClean
      exact books.file fine cleanBefore
    returned := fun returned => absurd (books.returned returned).1 running }

/-- The thread takes the first row. -/
theorem pop (books : recorder.Books setup ledger) (phase : recorder.phase = .waiting) {row : Row Object}
    {rest : List (Row Object)} (rows : recorder.rows = row :: rest) :
    Recorder.Books setup ledger { recorder with rows := rest, phase := .holding row } := by
  have conveyed := books.conveyed
  have depth := books.depth
  rw [phase, rows] at conveyed
  rw [rows] at depth
  exact { books with
    conveyed := conveyed.pop
    spent := fun failed => absurd (rows.symm.trans (books.spent failed).1) (by simp)
    written := by
      have written := books.written
      rw [phase] at written
      exact written
    depth := Nat.le_of_succ_le depth
    late := by rintro ⟨⟩
    before := fun _ => books.before (by rw [phase]; rfl)
    after := by rintro - ⟨⟩
    file := fun fine _ => books.file fine (by rw [phase]; rfl)
    returned := fun returned => absurd (phase.symm.trans (books.returned returned).1) (by simp) }

/-- A row is written. -/
theorem hand (books : recorder.Books setup ledger) {row : Row Object} (phase : recorder.phase = .holding row)
    {text : String} (formatted : Recorder.format setup row = .ok text) :
    Recorder.Books setup (ledger.add (.handed row))
      { recorder with file := recorder.file ++ text, phase := .counting } := by
  have fine : recorder.error = none := by
    by_contra failed
    have empty := (books.spent failed).2
    rw [phase] at empty
    cases empty
  have first := books.before (by rw [phase]; rfl)
  have conveyed := books.conveyed
  have written := books.written
  have file := books.file fine (by rw [phase]; rfl)
  rw [phase, books.whole fine] at conveyed
  rw [phase] at written
  rw [first, List.append_nil] at file
  exact { books with
    conveyed := by
      change Conveyed _ (ledger.handed ++ [row]) ledger.lost [] recorder.rows
      rw [books.whole fine]
      exact conveyed.land
    spent := fun failed => absurd fine failed
    written := by
      change recorder.written + 1 = (ledger.handed ++ [row]).length + ledger.concluded.length
      rw [List.length_append, List.length_singleton]
      change recorder.written + 0 = _ at written
      omega
    late := by rintro ⟨⟩
    before := fun _ => first
    after := by rintro - ⟨⟩
    file := by
      intro _ _
      change Formatted _ (ledger.handed ++ [row] ++ ledger.concluded) (recorder.file ++ text)
      rw [first, List.append_nil]
      exact file.snoc formatted
    returned := fun returned => absurd (phase.symm.trans (books.returned returned).1) (by simp) }

/-- A written row is counted. -/
theorem count (books : recorder.Books setup ledger) {next : WriterPhase Object}
    (hand : next.hand = recorder.phase.hand) (uncounted : recorder.phase.uncounted = next.uncounted + 1)
    (late : next.late = recorder.phase.late) (before : next.before = recorder.phase.before)
    (after : next.after = recorder.phase.after) (clean : recorder.phase.clean = true)
    (running : recorder.phase ≠ .finished) :
    Recorder.Books setup ledger { recorder with written := recorder.written + 1, phase := next } := by
  have same : recorder.written + recorder.phase.uncounted = recorder.written + 1 + next.uncounted := by
    rw [uncounted]
    omega
  exact { books with
    conveyed := hand ▸ books.conveyed
    spent := fun failed => ⟨(books.spent failed).1, hand.trans (books.spent failed).2⟩
    written := same.symm.trans books.written
    late := fun isLate => books.late (late.symm.trans isLate)
    before := fun isBefore => books.before (before.symm.trans isBefore)
    after := by
      intro fine isAfter
      rw [books.after fine (after.symm.trans isAfter), same]
      rfl
    file := fun fine _ => books.file fine clean
    returned := fun returned => absurd (books.returned returned).1 running }

/-- An exception drops the row in hand and the queue. -/
theorem failed (books : recorder.Books setup ledger) (failure : Failure) (next : WriterPhase Object)
    (hand : next.hand = []) (uncounted : next.uncounted = recorder.phase.uncounted)
    (late : next.late = recorder.phase.late) (before : next.before = true → recorder.phase.before = true)
    (running : recorder.phase ≠ .finished) :
    (recorder.failed failure recorder.phase.hand next).1.Books setup
      ((recorder.failed failure recorder.phase.hand next).2.foldl Ledger.add ledger) := by
  have dropped : recorder.dropped + (recorder.rows.length + recorder.phase.hand.length) =
      ledger.refused.length + (ledger.lost ++ (recorder.phase.hand ++ recorder.rows)).length := by
    rw [books.dropped, List.length_append, List.length_append]
    omega
  exact { books with
    conveyed := by
      change Conveyed _ _ _ next.hand []
      rw [hand]
      exact books.conveyed.lose
    whole := by rintro ⟨⟩
    spent := fun _ => ⟨rfl, hand⟩
    dropped := dropped
    written := (congrArg _ uncounted).trans books.written
    depth := Nat.zero_le _
    late := fun isLate => ⟨(books.late (late.symm.trans isLate)).1, rfl⟩
    before := fun isBefore => books.before (before isBefore)
    after := by rintro ⟨⟩
    file := by rintro ⟨⟩
    returned := fun returned => absurd (books.returned returned).1 running }

/-- The summary is written. -/
theorem conclude (books : recorder.Books setup ledger) (phase : recorder.phase = .summing) {text : String}
    (formatted : Recorder.format setup (recorder.summaryRow setup (recorder.written + 1)) = .ok text) :
    Recorder.Books setup (ledger.add (.concluded (recorder.summaryRow setup (recorder.written + 1))))
      { recorder with file := recorder.file ++ text, phase := .crediting } := by
  have first := books.before (by rw [phase]; rfl)
  have conveyed := books.conveyed
  have written := books.written
  have spent := books.spent
  rw [phase] at conveyed written spent
  exact { books with
    conveyed := conveyed
    spent := spent
    written := by
      change recorder.written + 1 = ledger.handed.length + (ledger.concluded ++ [_]).length
      rw [first] at written ⊢
      exact congrArg (· + 1) written
    late := fun _ => books.late (by rw [phase]; rfl)
    before := by rintro ⟨⟩
    after := by
      intro _ _
      change ledger.concluded ++ [_] = _
      rw [first]
      rfl
    file := by
      intro fine _
      have file := books.file fine (by rw [phase]; rfl)
      change Formatted _ (ledger.handed ++ (ledger.concluded ++ [_])) _
      rw [← List.append_assoc]
      exact file.snoc formatted
    returned := fun returned => absurd (phase.symm.trans (books.returned returned).1) (by simp) }

/-- A write to the file keeps the books both ways. -/
theorem print {row : Row Object} {ending : Ending} {done : WriterPhase Object} {raised : Failure → WriterPhase Object}
    {event : RecorderEvent Object}
    (fails : ∀ failure file, Recorder.Books setup ledger { recorder with file := file, phase := raised failure })
    (succeeds : ∀ text, Recorder.format setup row = .ok text →
      Recorder.Books setup (ledger.add event) { recorder with file := recorder.file ++ text, phase := done }) :
    (recorder.print setup row ending done raised event).1.Books setup
      ((recorder.print setup row ending done raised event).2.foldl Ledger.add ledger) := by
  unfold Recorder.print
  split
  · exact fails _ recorder.file
  · rename_i text formatted
    exact succeeds text formatted
  · exact fails _ _

/-- `flush` and `close` of the file. -/
theorem settle {ending : Ending} {done : WriterPhase Object} {raised : Failure → WriterPhase Object}
    (fails : ∀ failure, Recorder.Books setup ledger { recorder with phase := raised failure })
    (succeeds : Recorder.Books setup ledger { recorder with phase := done }) :
    (recorder.settle ending done raised).Books setup ledger := by
  unfold Recorder.settle
  split
  · exact succeeds
  · exact fails _

/-- One statement of the thread. -/
theorem run (books : recorder.Books setup ledger) {ending : Ending}
    {answer : Recorder Object × List (RecorderEvent Object)} (ran : recorder.run setup ending = some answer) :
    answer.1.Books setup (answer.2.foldl Ledger.add ledger) := by
  unfold Recorder.run at ran
  split at ran
  · rename_i phase
    split at ran
    · rename_i row rest rows
      cases ran
      exact books.pop phase rows
    · rename_i rows
      split at ran
      · rename_i closing
        cases ran
        exact books.go (by rw [phase]; rfl) (by rw [phase]; rfl) (by simp [phase]) (fun _ => ⟨closing, rows⟩)
          (fun _ => books.before (by rw [phase]; rfl)) (by rintro - ⟨⟩) (fun _ _ => ⟨by rw [phase]; rfl, rfl⟩)
      · cases ran
  · rename_i row phase
    cases ran
    apply Books.print
    · intro failure file
      exact books.go (by rw [phase]; rfl) (by rw [phase]; rfl) (by simp [phase]) (by rintro ⟨⟩)
        (fun _ => books.before (by rw [phase]; rfl)) (by rintro - ⟨⟩) (by rintro - ⟨⟩)
    · intro text formatted
      exact books.hand phase formatted
  · rename_i phase
    cases ran
    exact books.count (by rw [phase]; rfl) (by rw [phase]; rfl) (by rw [phase]; rfl) (by rw [phase]; rfl)
      (by rw [phase]; rfl) (by rw [phase]; rfl) (by simp [phase])
  · rename_i row failure phase
    cases ran
    have kept := books.failed failure .waiting rfl (by rw [phase]; rfl) (by rw [phase]; rfl)
      (fun _ => by rw [phase]; rfl) (by simp [phase])
    rw [phase] at kept
    exact kept
  · rename_i phase
    cases ran
    have late := books.late (by rw [phase]; rfl)
    split
    · exact books.go (by rw [phase]; rfl) (by rw [phase]; rfl) (by simp [phase]) (fun _ => late)
        (fun _ => books.before (by rw [phase]; rfl)) (by rintro - ⟨⟩) (fun _ _ => ⟨by rw [phase]; rfl, rfl⟩)
    · rename_i failed
      rw [Option.isNone_iff_eq_none] at failed
      exact books.go (by rw [phase]; rfl) (by rw [phase]; rfl) (by simp [phase]) (fun _ => late)
        (by rintro ⟨⟩) (fun fine => absurd fine failed) (fun fine => absurd fine failed)
  · rename_i phase
    cases ran
    apply Books.print
    · intro failure file
      exact books.go (by rw [phase]; rfl) (by rw [phase]; rfl) (by simp [phase])
        (fun _ => books.late (by rw [phase]; rfl)) (by rintro ⟨⟩) (by rintro - ⟨⟩) (by rintro - ⟨⟩)
    · intro text formatted
      exact books.conclude phase formatted
  · rename_i phase
    cases ran
    exact books.count (by rw [phase]; rfl) (by rw [phase]; rfl) (by rw [phase]; rfl) (by rw [phase]; rfl)
      (by rw [phase]; rfl) (by rw [phase]; rfl) (by simp [phase])
  · rename_i phase
    cases ran
    have late := books.late (by rw [phase]; rfl)
    apply Books.settle
    · intro failure
      exact books.go (by rw [phase]; rfl) (by rw [phase]; rfl) (by simp [phase]) (fun _ => late) (by rintro ⟨⟩)
        (by rintro - ⟨⟩) (by rintro - ⟨⟩)
    · exact books.go (by rw [phase]; rfl) (by rw [phase]; rfl) (by simp [phase]) (fun _ => late) (by rintro ⟨⟩)
        (fun _ _ => by rw [phase]; rfl) (fun _ _ => ⟨by rw [phase]; rfl, rfl⟩)
  · rename_i failure phase
    cases ran
    have kept := books.failed failure .shutting rfl (by rw [phase]; rfl) (by rw [phase]; rfl) (by rintro ⟨⟩)
      (by simp [phase])
    rw [phase] at kept
    exact kept
  · rename_i phase
    cases ran
    have late := books.late (by rw [phase]; rfl)
    apply Books.settle
    · intro failure
      exact books.go (by rw [phase]; rfl) (by rw [phase]; rfl) (by simp [phase]) (fun _ => late) (by rintro ⟨⟩)
        (by rintro - ⟨⟩) (by rintro - ⟨⟩)
    · exact books.go (by rw [phase]; rfl) (by rw [phase]; rfl) (by simp [phase]) (fun _ => late) (by rintro ⟨⟩)
        (fun _ _ => by rw [phase]; rfl) (fun _ _ => ⟨by rw [phase]; rfl, rfl⟩)
  · rename_i failure phase
    cases ran
    have kept := books.failed failure .finished rfl (by rw [phase]; rfl) (by rw [phase]; rfl) (by rintro ⟨⟩)
      (by simp [phase])
    rw [phase] at kept
    exact kept
  · cases ran

/-- One step of the recorder. -/
theorem advance (books : recorder.Books setup ledger) {input : RecorderInput Object}
    {answer : Recorder Object × List (RecorderEvent Object)} (advanced : recorder.advance setup input = some answer) :
    answer.1.Books setup (answer.2.foldl Ledger.add ledger) := by
  unfold Recorder.advance at advanced
  split at advanced
  · cases advanced
    exact books.write _
  · cases advanced
    exact books.close
  · obtain ⟨⟨-, finished⟩, same⟩ := Option.ite_none_right_eq_some.mp advanced
    cases same
    apply books.join
    cases phase : recorder.phase <;> first | rfl | (rw [phase] at finished; cases finished)
  · exact books.run advanced

end Recorder.Books

/-- What an answer of `write` tells. -/
def RecorderEvent.Lawful (before : List (RecorderEvent Object)) (event : RecorderEvent Object) : Prop :=
  (event.Admits → .closing ∉ before) ∧ ∀ row, event = .accepted row → row.isSummary = false

variable {setup : RecorderSetup Object}

/-- The thread admits no row. -/
theorem Recorder.run_lawful {recorder : Recorder Object} {ending : Ending}
    {answer : Recorder Object × List (RecorderEvent Object)} (ran : recorder.run setup ending = some answer)
    {event : RecorderEvent Object} (member : event ∈ answer.2) : ¬event.Admits := by
  have printed {row : Row Object} {done : WriterPhase Object} {raised : Failure → WriterPhase Object}
      {event' : RecorderEvent Object} (quiet : ¬event'.Admits)
      (inside : event ∈ (recorder.print setup row ending done raised event').2) : ¬event.Admits := by
    unfold Recorder.print at inside
    split at inside
    · cases inside
    · rw [List.mem_singleton.mp inside]
      exact quiet
    · cases inside
  unfold Recorder.run at ran
  split at ran
  · split at ran
    · cases ran
      cases member
    · split at ran
      · cases ran
        cases member
      · cases ran
  · cases ran
    exact printed id member
  · cases ran
    cases member
  · cases ran
    rw [List.mem_singleton.mp member]
    exact id
  · cases ran
    cases member
  · cases ran
    exact printed id member
  · cases ran
    cases member
  · cases ran
    cases member
  · cases ran
    rw [List.mem_singleton.mp member]
    exact id
  · cases ran
    cases member
  · cases ran
    rw [List.mem_singleton.mp member]
    exact id
  · cases ran

theorem RecorderEvent.Lawful.quiet {before : List (RecorderEvent Object)} {event : RecorderEvent Object}
    (quiet : ¬event.Admits) : event.Lawful before := by
  refine ⟨fun admits => absurd admits quiet, ?_⟩
  rintro row rfl
  exact absurd trivial quiet

/-- Every answer of `write` is lawful, and nothing else admits a row. -/
theorem Recorder.advance_lawful {recorder : Recorder Object} {log : List (RecorderEvent Object)}
    (books : recorder.Books setup (ledgerOf log)) (lawful : Justified RecorderEvent.Lawful log)
    {input : RecorderInput Object} {answer : Recorder Object × List (RecorderEvent Object)}
    (advanced : recorder.advance setup input = some answer) : Justified RecorderEvent.Lawful (log ++ answer.2) := by
  unfold Recorder.advance at advanced
  split at advanced
  · rename_i row
    cases advanced
    unfold Recorder.write
    split
    · exact lawful.snoc (.quiet id)
    · rename_i going
      have early : .closing ∉ log := by
        rw [← ledgerOf_closed, ← books.closing]
        exact going
      split
      · exact lawful.snoc ⟨fun _ => early, by rintro _ ⟨⟩⟩
      · rename_i plain
        split
        · exact lawful.snoc ⟨fun _ => early, by rintro _ ⟨⟩⟩
        · exact lawful.snoc ⟨fun _ => early, by rintro _ ⟨⟩; exact Bool.eq_false_of_not_eq_true plain⟩
  · cases advanced
    exact lawful.snoc (.quiet id)
  · obtain ⟨-, same⟩ := Option.ite_none_right_eq_some.mp advanced
    cases same
    apply lawful.snoc
    apply RecorderEvent.Lawful.quiet
    split
    · exact id
    · exact id
  · apply lawful.append
    intro before event after cut
    apply RecorderEvent.Lawful.quiet
    apply Recorder.run_lawful advanced
    rw [cut]
    exact List.mem_append_right before List.mem_cons_self

theorem recorder_run {moves : List (Move (Recorder Object) (RecorderInput Object) (RecorderEvent Object))}
    {final : Recorder Object} (run : (recorderMachine setup).Run (Recorder.start setup).1 moves final) :
    final.Books setup (ledgerOf (trace moves)) ∧ Justified RecorderEvent.Lawful (trace moves) := by
  refine run.traceInvariant
    (fun log recorder => recorder.Books setup (ledgerOf log) ∧ Justified RecorderEvent.Lawful log)
    ⟨Recorder.Books.start setup, .empty⟩ ?_
  rintro log recorder input next events ⟨books, lawful⟩ advanced
  rw [ledgerOf_append]
  exact ⟨books.advance advanced, Recorder.advance_lawful books lawful advanced⟩

/-- When the thread has finished, every accepted row was handed to the file in its turn or is counted as
dropped. The queue keeps to its capacity. When `close` returns, the file holds the lines of the header, of
all accepted rows in their order and of one summary. No write is admitted after `close` has begun. -/
theorem recorder_accounts {moves : List (Move (Recorder Object) (RecorderInput Object) (RecorderEvent Object))}
    {final : Recorder Object} (run : (recorderMachine setup).Run (Recorder.start setup).1 moves final) :
    final.rows.length ≤ setup.capacity ∧
    (final.phase = .finished →
      setup.headerRow :: (ledgerOf (trace moves)).accepted =
        (ledgerOf (trace moves)).handed ++ (ledgerOf (trace moves)).lost ∧
      final.dropped = (ledgerOf (trace moves)).refused.length + (ledgerOf (trace moves)).lost.length ∧
      final.submitted = (ledgerOf (trace moves)).summaries.length + (ledgerOf (trace moves)).handed.length +
        final.dropped ∧
      final.written = (ledgerOf (trace moves)).handed.length + (ledgerOf (trace moves)).concluded.length) ∧
    (.returned ∈ trace moves →
      Formatted (Recorder.format setup) (setup.headerRow :: (ledgerOf (trace moves)).accepted ++
        [((ledgerOf (trace moves)).summaries.getLast?.getD [("kind", .text "logging_summary")]).set "logging"
          (.statistics (final.statistics setup))]) final.file) ∧
    (∀ row, .accepted row ∈ trace moves → row.isSummary = false) ∧
    ∀ before event after, trace moves = before ++ event :: after → event.Admits → .closing ∉ before := by
  obtain ⟨books, lawful⟩ := recorder_run run
  refine ⟨books.depth.trans books.room, fun finished => ?_, fun returned => ?_, fun row member => ?_, ?_⟩
  · have empty := (books.late (by rw [finished]; rfl)).2
    have conveyed := books.conveyed
    have written := books.written
    rw [finished, empty] at conveyed
    rw [finished] at written
    have count := conveyed.length
    have submitted := books.submitted
    have dropped := books.dropped
    rw [List.length_cons] at count
    exact ⟨conveyed.settled, dropped, by omega, written⟩
  · obtain ⟨finished, fine⟩ := books.returned (ledgerOf_returned.mpr returned)
    have empty := (books.late (by rw [finished]; rfl)).2
    have conveyed := books.conveyed
    have concluded := books.after fine (by rw [finished]; rfl)
    have file := books.file fine (by rw [finished]; rfl)
    rw [finished, empty, books.whole fine] at conveyed
    have whole := conveyed.settled
    rw [List.append_nil] at whole
    rw [concluded, ← whole, Recorder.summaryRow, books.summary, finished] at file
    exact file
  · obtain ⟨before, after, cut⟩ := List.append_of_mem member
    exact (lawful before _ after cut).2 row rfl
  · exact fun before event after cut => (lawful before event after cut).1

/-- A JSON text without escapes. -/
def quoted (text : String) : String := "\"" ++ text ++ "\""

def braced (entries : List (String × String)) : String :=
  "\x7b" ++ String.intercalate "," (entries.map fun entry => quoted entry.1 ++ ":" ++ entry.2) ++ "\x7d"

def Statistics.json (statistics : Statistics) : String :=
  braced [("records_submitted", toString statistics.recordsSubmitted),
    ("records_enqueued", toString statistics.recordsEnqueued),
    ("records_written", toString statistics.recordsWritten),
    ("records_dropped", toString statistics.recordsDropped),
    ("queue_max_depth", toString statistics.queueMaxDepth),
    ("queue_capacity", toString statistics.queueCapacity),
    ("writer_error", (statistics.writerError.map quoted).getD "null")]

/-- Rows without objects as JSON. -/
def plainEncoder : Encoder Empty where
  asarray _ := .error (.valueError "could not convert string to float")
  dumps row := .ok (braced (row.map fun entry => (entry.1, match entry.2 with
    | .text value => quoted value
    | .number value => toString value
    | .statistics value => value.json)))

/-- A recorder with one slot. -/
def smallRecorder : RecorderSetup Empty where
  encoder := plainEncoder
  logObservation := false
  header := []
  given := .int 1
  capacity := 1
  accepted := rfl

/-- A step of the control loop. -/
def stepRow (cycle : ℕ) : Row Empty := [("kind", .text "step"), ("cycle", .number cycle)]

/-- The second step finds the queue full, and `close` waits for the thread. -/
def overflow : List (RecorderInput Empty) :=
  [.writer .returns, .write (stepRow 1), .write (stepRow 2), .write [("kind", .text "summary"), ("steps", .number 2)],
    .close] ++ List.replicate 11 (.writer .returns) ++ [.join]

/-- The file of the recorder with one slot. -/
theorem recorder_accounts_overflow : ∃ moves final,
    (recorderMachine smallRecorder).Run (Recorder.start smallRecorder).1 moves final ∧
      final.submitted = 4 ∧ final.dropped = 1 ∧ final.written = 3 ∧
      Formatted (Recorder.format smallRecorder) [smallRecorder.headerRow, stepRow 1,
        [("kind", .text "summary"), ("steps", .number 2), ("logging", .statistics (final.statistics smallRecorder))]]
        final.file := by
  obtain ⟨moves, final, run, -, submitted, dropped, written, returned, accepted, summaries⟩ :=
    (recorderMachine smallRecorder).exists_run (Recorder.start smallRecorder).1 overflow
      (fun moves final => final.submitted = 4 ∧ final.dropped = 1 ∧ final.written = 3 ∧ .returned ∈ trace moves ∧
        (ledgerOf (trace moves)).accepted = [stepRow 1] ∧
        (ledgerOf (trace moves)).summaries = [[("kind", .text "summary"), ("steps", .number 2)]]) (by decide +kernel)
  have file := (recorder_accounts run).2.2.1 returned
  rw [accepted, summaries] at file
  exact ⟨moves, final, run, submitted, dropped, written, file⟩

end HumanoidSdk.Demo
