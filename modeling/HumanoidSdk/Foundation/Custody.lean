import Mathlib.Data.List.Induction
import Mathlib.Data.List.Nodup
import HumanoidSdk.Foundation.Script

/-
This file describes which resources a program holds. A resource is opened when its action returns, and it is
closed when its action is tried.
-/

namespace HumanoidSdk.Foundation

/-- What actions do with resources. A resource may belong to another one. -/
structure Handling (Action Resource : Type*) where
  opens : Action → Option Resource
  closes : Action → Option Resource
  uses : Action → List Resource
  owner : Resource → Option Resource

/-- The open resources, and whether everything was in order so far. -/
structure Custody (Resource : Type*) where
  held : List Resource := []
  lawful : Bool := true
  deriving DecidableEq

variable {Action Resource : Type*} [DecidableEq Resource] (handling : Handling Action Resource)

namespace Custody

variable (custody : Custody Resource)

/-- A resource is opened while it is closed and its owner is open. -/
def take (resource : Resource) : Custody Resource where
  held := resource :: custody.held
  lawful := custody.lawful && decide (resource ∉ custody.held) &&
    (handling.owner resource).all fun owner => decide (owner ∈ custody.held)

/-- A resource is closed while it is open and nothing open belongs to it. -/
def drop (resource : Resource) : Custody Resource where
  held := custody.held.erase resource
  lawful := custody.lawful && decide (resource ∈ custody.held) &&
    custody.held.all fun other => decide (handling.owner other ≠ some resource)

/-- Resources are used while they are open. -/
def use (resources : List Resource) : Custody Resource :=
  { custody with lawful := custody.lawful && resources.all fun resource => decide (resource ∈ custody.held) }

def step (happened : Happened Action) : Custody Resource :=
  match handling.opens happened.action, handling.closes happened.action with
  | some resource, _ => if happened.thrown = none then custody.take handling resource else custody
  | none, some resource => custody.drop handling resource
  | none, none => custody.use (handling.uses happened.action)

/-- The custody after a log. -/
def after (log : List (Happened Action)) : Custody Resource := log.foldl (step handling) {}

theorem after_snoc (log : List (Happened Action)) (happened : Happened Action) :
    after handling (log ++ [happened]) = (after handling log).step handling happened := by
  rw [after, List.foldl_append]
  rfl

end Custody

/-- The action opens the resource. -/
def Handling.taking (resource : Resource) (happened : Happened Action) : Bool :=
  handling.opens happened.action = some resource && happened.thrown = none

/-- The action closes the resource. -/
def Handling.dropping (resource : Resource) (happened : Happened Action) : Bool :=
  handling.opens happened.action = none && handling.closes happened.action = some resource

/-- What happens is in order while some resources are held. -/
structure InOrder (held : List Resource) (happened : Happened Action) : Prop where
  opened : ∀ resource, handling.taking resource happened = true →
    resource ∉ held ∧ ∀ owner, handling.owner resource = some owner → owner ∈ held
  closed : ∀ resource, handling.dropping resource happened = true →
    resource ∈ held ∧ ∀ other ∈ held, handling.owner other ≠ some resource
  used : handling.opens happened.action = none → handling.closes happened.action = none →
    ∀ resource ∈ handling.uses happened.action, resource ∈ held

section Counts

variable {handling} {log : List (Happened Action)} {happened : Happened Action}

/-- Nothing is in order again after it was not. -/
theorem Custody.step_lawful {custody : Custody Resource} (fine : (custody.step handling happened).lawful = true) :
    custody.lawful = true := by
  unfold Custody.step at fine
  split at fine
  · split at fine
    · simp only [Custody.take, Bool.and_eq_true] at fine
      exact fine.1.1
    · exact fine
  · simp only [Custody.drop, Bool.and_eq_true] at fine
    exact fine.1.1
  · simp only [Custody.use, Bool.and_eq_true] at fine
    exact fine.1

/-- A lawful step is in order. -/
theorem Custody.step_inOrder {custody : Custody Resource} (fine : (custody.step handling happened).lawful = true) :
    InOrder handling custody.held happened := by
  unfold Custody.step at fine
  cases opens : handling.opens happened.action with
  | some opened =>
      simp only [opens] at fine
      refine ⟨fun resource taking => ?_, fun resource dropping => ?_, fun none => ?_⟩
      · simp only [Handling.taking, opens, Bool.and_eq_true, decide_eq_true_eq, Option.some.injEq] at taking
        obtain ⟨rfl, returned⟩ := taking
        rw [if_pos returned] at fine
        simp only [Custody.take, Bool.and_eq_true, decide_eq_true_eq] at fine
        refine ⟨fine.1.2, fun owner owns => ?_⟩
        simpa [owns] using fine.2
      · simp [Handling.dropping, opens] at dropping
      · simp [opens] at none
  | none =>
      refine ⟨fun resource taking => ?_, fun resource dropping => ?_, fun _ closes resource among => ?_⟩
      · simp [Handling.taking, opens] at taking
      · simp only [Handling.dropping, opens, Bool.and_eq_true, decide_eq_true_eq] at dropping
        simp only [opens, dropping.2, Custody.drop, Bool.and_eq_true, decide_eq_true_eq, List.all_eq_true] at fine
        exact ⟨fine.1.2, fine.2⟩
      · simp only [opens, closes, Custody.use, Bool.and_eq_true, List.all_eq_true, decide_eq_true_eq] at fine
        exact fine.2 resource among

/-- If everything was in order so far, it was in order at each time. -/
theorem Custody.inOrder (fine : (after handling log).lawful = true) {before rest : List (Happened Action)}
    (split : log = before ++ happened :: rest) : InOrder handling (after handling before).held happened := by
  induction rest using List.reverseRecOn generalizing log with
  | nil =>
      rw [split, after_snoc] at fine
      exact step_inOrder fine
  | append_singleton rest last ih =>
      have shorter : log = (before ++ happened :: rest) ++ [last] := by
        rw [split, List.append_assoc]
        rfl
      rw [shorter, after_snoc] at fine
      exact ih (step_lawful fine) rfl

/-- What is held, and how often each resource was opened and closed. -/
structure Balanced (handling : Handling Action Resource) (log : List (Happened Action)) (held : List Resource) :
    Prop where
  once : held.Nodup
  count : ∀ resource, log.countP (handling.taking resource) =
    log.countP (handling.dropping resource) + if resource ∈ held then 1 else 0

/-- An action that neither opens nor closes. -/
theorem Balanced.quiet {held : List Resource} (balanced : Balanced handling log held)
    (taking : ∀ resource, handling.taking resource happened = false)
    (dropping : ∀ resource, handling.dropping resource happened = false) :
    Balanced handling (log ++ [happened]) held := by
  refine ⟨balanced.once, fun resource => ?_⟩
  have count := balanced.count resource
  rw [List.countP_append, List.countP_append, List.countP_singleton, List.countP_singleton, taking, dropping, count]
  rfl

theorem Balanced.take {held : List Resource} {opened : Resource} (balanced : Balanced handling log held)
    (opens : handling.opens happened.action = some opened) (returned : happened.thrown = none)
    (free : opened ∉ held) : Balanced handling (log ++ [happened]) (opened :: held) := by
  refine ⟨List.nodup_cons.mpr ⟨free, balanced.once⟩, fun resource => ?_⟩
  have count := balanced.count resource
  have taking : handling.taking resource happened = decide (opened = resource) := by
    simp [Handling.taking, opens, returned]
  have dropping : handling.dropping resource happened = false := by
    simp [Handling.dropping, opens]
  rw [List.countP_append, List.countP_append, List.countP_singleton, List.countP_singleton, taking, dropping, count]
  by_cases same : opened = resource
  · subst same
    simp [free]
  · have other : resource ≠ opened := Ne.symm same
    simp [same, other, List.mem_cons]

theorem Balanced.drop {held : List Resource} {closed : Resource} (balanced : Balanced handling log held)
    (opens : handling.opens happened.action = none) (closes : handling.closes happened.action = some closed)
    (known : closed ∈ held) : Balanced handling (log ++ [happened]) (held.erase closed) := by
  refine ⟨balanced.once.erase closed, fun resource => ?_⟩
  have count := balanced.count resource
  have taking : handling.taking resource happened = false := by
    simp [Handling.taking, opens]
  have dropping : handling.dropping resource happened = decide (closed = resource) := by
    simp [Handling.dropping, opens, closes]
  rw [List.countP_append, List.countP_append, List.countP_singleton, List.countP_singleton, taking, dropping, count]
  by_cases same : closed = resource
  · subst same
    have gone : closed ∉ held.erase closed := fun member => (balanced.once.mem_erase_iff.mp member).1 rfl
    simp [known, gone]
  · have other : resource ≠ closed := Ne.symm same
    simp [same, List.mem_erase_of_ne other]

/-- As long as everything was in order, a resource was closed as often as it was opened, once less if it is held. -/
theorem balanced (fine : (Custody.after handling log).lawful = true) :
    Balanced handling log (Custody.after handling log).held := by
  induction log using List.reverseRecOn with
  | nil => exact ⟨List.nodup_nil, fun resource => rfl⟩
  | append_singleton log happened ih =>
      rw [Custody.after_snoc] at fine ⊢
      have before := ih (Custody.step_lawful fine)
      unfold Custody.step at fine ⊢
      cases opens : handling.opens happened.action with
      | some opened =>
          simp only [opens] at fine ⊢
          split at fine
          · rename_i returned
            rw [if_pos returned]
            simp only [Custody.take, Bool.and_eq_true, decide_eq_true_eq] at fine
            exact before.take opens returned fine.1.2
          · rename_i raised
            rw [if_neg raised]
            exact before.quiet (fun resource => by simp [Handling.taking, raised])
              (fun resource => by simp [Handling.dropping, opens])
      | none =>
          cases closes : handling.closes happened.action with
          | some closed =>
              simp only [opens, closes] at fine ⊢
              simp only [Custody.drop, Bool.and_eq_true, decide_eq_true_eq] at fine
              exact before.drop opens closes fine.1.2
          | none =>
              simp only [opens, closes] at fine ⊢
              exact before.quiet (fun resource => by simp [Handling.taking, opens])
                (fun resource => by simp [Handling.dropping, closes])

/-- A program that holds nothing in the end has closed every resource as often as it has opened it. -/
theorem Balanced.settled (balanced : Balanced handling log []) (resource : Resource) :
    log.countP (handling.taking resource) = log.countP (handling.dropping resource) := by
  have count := balanced.count resource
  rwa [if_neg List.not_mem_nil, Nat.add_zero] at count

end Counts

end HumanoidSdk.Foundation
