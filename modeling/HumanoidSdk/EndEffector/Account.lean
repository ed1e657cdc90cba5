import HumanoidSdk.EndEffector.Transition
import HumanoidSdk.Foundation.Precondition

/-
This file counts the sequences that a client consumes and hands over, and states what a command has
to fulfil as a postcondition of the statement lists of its publish.
-/

namespace HumanoidSdk.EndEffector
open Foundation

variable {client : Client}

namespace Event

def consumption : Event client → Option (ℕ × ℕ)
  | .consumed ticket sequence => some (ticket, sequence)
  | _ => none

def handOver : Event client → Option (ℕ × ℕ)
  | .handed ticket _ command _ => some (ticket, client.sequenceOf command)
  | _ => none

/-- A publish is settled when it consumes a sequence or raises. -/
def settlement : Event client → Option ℕ
  | .consumed ticket _ | .refused ticket _ => some ticket
  | _ => none

/-- What one publish reads from the feedback cache. -/
def readBy (ticket : ℕ) : Event client → Option ((kind : Kind) × Option (client.Message kind))
  | .read reader kind entry => if reader = ticket then some ⟨kind, entry⟩ else none
  | _ => none

end Event

/-- The pairs of ticket and sequence in the order of their consumption. -/
def consumptions (log : List (Event client)) : List (ℕ × ℕ) := log.filterMap Event.consumption

/-- The pairs of ticket and sequence in the order of their hand-over. -/
def handOvers (log : List (Event client)) : List (ℕ × ℕ) := log.filterMap Event.handOver

def settlements (log : List (Event client)) : List ℕ := log.filterMap Event.settlement

def readsOf (ticket : ℕ) (log : List (Event client)) : List ((kind : Kind) × Option (client.Message kind)) :=
  log.filterMap (Event.readBy ticket)

@[simp] theorem consumptions_append (first second : List (Event client)) :
    consumptions (first ++ second) = consumptions first ++ consumptions second := List.filterMap_append

@[simp] theorem handOvers_append (first second : List (Event client)) :
    handOvers (first ++ second) = handOvers first ++ handOvers second := List.filterMap_append

@[simp] theorem settlements_append (first second : List (Event client)) :
    settlements (first ++ second) = settlements first ++ settlements second := List.filterMap_append

@[simp] theorem readsOf_append (ticket : ℕ) (first second : List (Event client)) :
    readsOf ticket (first ++ second) = readsOf ticket first ++ readsOf ticket second := List.filterMap_append

theorem filterMap_single {Value : Type*} (count : Event client → Option Value) (event : Event client) :
    [event].filterMap count = (count event).toList := by
  cases counts : count event with
  | none | some => simp [counts]

@[simp] theorem consumptions_single (event : Event client) :
    consumptions [event] = event.consumption.toList := filterMap_single _ event

@[simp] theorem handOvers_single (event : Event client) : handOvers [event] = event.handOver.toList :=
  filterMap_single _ event

@[simp] theorem settlements_single (event : Event client) : settlements [event] = event.settlement.toList :=
  filterMap_single _ event

@[simp] theorem readsOf_single (ticket : ℕ) (event : Event client) :
    readsOf ticket [event] = (event.readBy ticket).toList := filterMap_single _ event

/-- Events without a ticket count nothing. -/
theorem unticketed_uncounted {events : List (Event client)} (silent : ∀ event ∈ events, event.ticket = none) :
    consumptions events = [] ∧ handOvers events = [] ∧ settlements events = [] ∧
      ∀ ticket, readsOf ticket events = [] := by
  have each (event : Event client) (none : event.ticket = none) :
      event.consumption = Option.none ∧ event.handOver = Option.none ∧ event.settlement = Option.none ∧
        ∀ ticket, event.readBy ticket = Option.none := by
    cases event with
    | read | consumed | handed | refused => cases none
    | stored | rejected | failed | returned | raised => exact ⟨rfl, rfl, rfl, fun _ => rfl⟩
  refine ⟨?_, ?_, ?_, fun ticket => ?_⟩
  · exact List.filterMap_eq_nil_iff.mpr fun event member => (each event (silent event member)).1
  · exact List.filterMap_eq_nil_iff.mpr fun event member => (each event (silent event member)).2.1
  · exact List.filterMap_eq_nil_iff.mpr fun event member => (each event (silent event member)).2.2.1
  · exact List.filterMap_eq_nil_iff.mpr fun event member => (each event (silent event member)).2.2.2 ticket

/-- Events of one ticket settle and read for no other. -/
theorem ticketed_elsewhere {events : List (Event client)} {ticket other : ℕ}
    (own : ∀ event ∈ events, event.ticket = some ticket) (different : other ≠ ticket) :
    other ∉ settlements events ∧ readsOf other events = [] := by
  constructor
  · intro settled
    obtain ⟨event, member, same⟩ := List.mem_filterMap.mp settled
    have mine := own event member
    cases event with
    | consumed | refused =>
        cases same
        exact different (Option.some.inj mine)
    | read | handed | stored | rejected | failed | returned | raised => cases same
  · refine List.filterMap_eq_nil_iff.mpr fun event member => ?_
    have mine := own event member
    cases event with
    | read reader kind entry =>
        have reads : reader ≠ other := fun same => different (same.symm.trans (Option.some.inj mine))
        simp [Event.readBy, reads]
    | consumed | refused | handed | stored | rejected | failed | returned | raised => rfl

/-- Consumptions are settlements. -/
theorem consumed_settled (log : List (Event client)) :
    ((consumptions log).map Prod.fst).Sublist (settlements log) := by
  induction log with
  | nil => exact List.Sublist.refl _
  | cons event rest ih =>
      rw [← List.singleton_append, consumptions_append, settlements_append, List.map_append]
      refine List.Sublist.append ?_ ih
      rw [consumptions_single, settlements_single]
      cases event with
      | consumed ticket sequence => exact List.Sublist.refl _
      | stored | rejected | failed | returned | raised | read | handed | refused => exact List.nil_sublist _

/-- A ticket is settled by one event of the log at most. -/
theorem settlements_unique {log : List (Event client)} (once : (settlements log).Nodup) {ticket sequence : ℕ}
    {error : PyError} (refused : .refused ticket error ∈ log) : .consumed ticket sequence ∉ log := by
  intro consumed
  obtain ⟨before, after, rfl⟩ := List.append_of_mem refused
  have middle : settlements (.refused ticket error :: after) = ticket :: settlements after := rfl
  rw [settlements_append, middle, List.nodup_append] at once
  have found (part : List (Event client)) (member : .consumed ticket sequence ∈ part) :
      ticket ∈ settlements part := List.mem_filterMap.mpr ⟨_, member, rfl⟩
  rcases List.mem_append.mp consumed with early | late
  · exact once.2.2 ticket (found before early) ticket List.mem_cons_self rfl
  · rcases List.mem_cons.mp late with same | late
    · cases same
    · exact (List.nodup_cons.mp once.2.1).1 (found after late)

section Statements

/-- What a plain statement makes of the local variables when it does not raise. -/
def Plain.Next {Scratch : Type} : Plain Scratch → Scratch → Scratch → Prop
  | .ensureOpen, before, after | .createPublisher, before, after => after = before
  | .check run, before, after => run before = .ok after
  | .clock keep, before, after => ∃ now, after = keep before now

/-- A statement that cannot raise. -/
def Plain.Certain {Scratch : Type} : Plain Scratch → Scratch → Prop
  | .check run, before => ∃ after, run before = .ok after
  | _, _ => False

/-- A statement keeps the entries that the publish has read beside its local variables. -/
def Statement.Next {Message : Kind → Type} {Scratch : Type} : Statement Message Scratch →
    List ((kind : Kind) × Option (Message kind)) × Scratch →
    List ((kind : Kind) × Option (Message kind)) × Scratch → Prop
  | .plain statement, before, after => after.1 = before.1 ∧ statement.Next before.2 after.2
  | .get kind skip keep, before, after =>
      (skip before.2 = true ∧ after = before) ∨
        (skip before.2 = false ∧ ∃ entry, after = (before.1 ++ [⟨kind, entry⟩], keep before.2 entry))

/-- A postcondition of a publish relates its arguments, the entries that it read and its local
variables. -/
abbrev Post (client : Client) : Type :=
  client.Args → List ((kind : Kind) × Option (client.Message kind)) → client.Scratch → Prop

variable (post : Post client)

/-- What the statements after the storage of the sequence need. They must not raise. -/
def LateFor (args : client.Args) (reads : List ((kind : Kind) × Option (client.Message kind)))
    (rest : List (Plain client.Scratch)) (scratch : client.Scratch) : Prop :=
  ensures Plain.Next Plain.Certain (post args reads) rest scratch

def FinishingFor (args : client.Args) (reads : List ((kind : Kind) × Option (client.Message kind)))
    (rest : List (Plain client.Scratch)) (scratch : client.Scratch) : Prop :=
  needs Plain.Next (LateFor post args reads client.late) rest scratch

def PreparingFor (args : client.Args) (rest : List (Statement client.Message client.Scratch))
    (reads : List ((kind : Kind) × Option (client.Message kind))) (scratch : client.Scratch) : Prop :=
  needs Statement.Next (fun done => FinishingFor post args done.1 client.finishing done.2) rest (reads, scratch)

/-- The publish of a client establishes a postcondition before it hands a command over. -/
def Client.Establishes (client : Client) (post : Post client) : Prop :=
  ∀ args, PreparingFor post args client.preparing [] (client.start args)

/-- What holds when a command is handed over. -/
def Correct (before : List (Event client)) : Event client → Prop
  | .handed ticket args command _ =>
      (client.cmdId args = .none → client.cmdIdOf command = (client.sequenceOf command % 2 ^ 16 : ℕ)) ∧
        ∃ scratch sequence commandId, post args (readsOf ticket before) scratch ∧
          command = client.command scratch sequence commandId
  | _ => True

end Statements

theorem plainStep_next {shared after : Shared client} {scratch next : client.Scratch}
    {statement : Plain client.Scratch} {choice : Choice client}
    (ran : shared.plainStep scratch statement choice = some (after, .ok next)) : statement.Next scratch next := by
  cases statement with
  | ensureOpen =>
      cases choice with
      | go =>
          simp only [Shared.plainStep, Option.some.injEq, Prod.mk.injEq] at ran
          cases opened : shared.ensureOpen with
          | error error => simp [opened, Except.map] at ran
          | ok opened' =>
              simp only [opened, Except.map, Except.ok.injEq] at ran
              exact ran.2.symm
      | raise | spoil | expire | clock | call => simp [Shared.plainStep] at ran
  | check run =>
      cases choice with
      | go =>
          simp only [Shared.plainStep, Option.some.injEq, Prod.mk.injEq] at ran
          exact ran.2
      | raise | spoil | expire | clock | call => simp [Shared.plainStep] at ran
  | clock keep =>
      cases choice with
      | clock now =>
          simp only [Shared.plainStep, Option.some.injEq, Prod.mk.injEq, Except.ok.injEq] at ran
          exact ⟨now, ran.2.symm⟩
      | go | raise | spoil | expire | call => simp [Shared.plainStep] at ran
  | createPublisher =>
      cases choice with
      | go =>
          simp only [Shared.plainStep, Option.some.injEq, Prod.mk.injEq, Except.ok.injEq] at ran
          exact ran.2.symm
      | raise | spoil | expire | clock | call => simp [Shared.plainStep] at ran

/-- A statement that cannot raise does not. -/
theorem plainStep_certain {shared after : Shared client} {scratch : client.Scratch} {error : PyError}
    {statement : Plain client.Scratch} {choice : Choice client} (certain : statement.Certain scratch) :
    shared.plainStep scratch statement choice ≠ some (after, .error error) := by
  intro ran
  cases statement with
  | check run =>
      obtain ⟨next, succeeds⟩ := certain
      cases choice with
      | go =>
          simp only [Shared.plainStep, succeeds, Option.some.injEq, Prod.mk.injEq] at ran
          cases ran.2
      | raise | spoil | expire | clock | call => simp [Shared.plainStep] at ran
  | ensureOpen | clock | createPublisher => exact certain

end HumanoidSdk.EndEffector
