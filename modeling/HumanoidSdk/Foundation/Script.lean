import Mathlib.Data.List.Dedup

/-
This file describes programs whose statements may raise. What a statement does depends on the past and is not
under the control of the program.
-/

namespace HumanoidSdk.Foundation

/-- What a statement raises. An interrupt is not an `Exception`. -/
inductive Thrown where
  | exception
  | interrupt
  deriving DecidableEq

inductive Script (State Action : Type*) where
  | skip
  | act (action : Action)
  | note (action : Action)
  | ask (action : Action) (yes no : Script State Action)
  | raise (thrown : Thrown)
  | seq (first second : Script State Action)
  | cond (test : State → Bool) (yes no : Script State Action)
  | protect (body cleanup : Script State Action)
  | unwind (body cleanup : Script State Action)
  | recover (caught : Thrown → Bool) (body : Script State Action)

structure Happened (Action : Type*) where
  action : Action
  thrown : Option Thrown
  deriving DecidableEq

variable {State Action : Type*}

namespace Script

/-- The statements of a block. -/
def block (statements : List (Script State Action)) : Script State Action := statements.foldr seq skip

/-- A block that ends without an error whatever it raises. -/
def quiet (body : Script State Action) : Script State Action := recover (fun _ => true) body

section Runs

variable (effect : State → Happened Action → State) (start : State)

/-- The state after a log. -/
def stateOf (log : List (Happened Action)) : State := log.foldl effect start

theorem stateOf_snoc (log : List (Happened Action)) (happened : Happened Action) :
    stateOf effect start (log ++ [happened]) = effect (stateOf effect start log) happened := by
  rw [stateOf, List.foldl_append]
  rfl

variable (world : List (Happened Action) → Action → Except Thrown Bool)

/-- What an action raises. -/
def thrownBy : Except Thrown Bool → Option Thrown
  | .ok _ => none
  | .error thrown => some thrown

/-- The log of a script and what it raises. A cleanup runs after its body, or only after one that raises, and its
own error comes before the one of the body. -/
def run : Script State Action → List (Happened Action) → List (Happened Action) × Option Thrown
  | .skip, log => (log, none)
  | .act action, log => (log ++ [⟨action, thrownBy (world log action)⟩], thrownBy (world log action))
  | .note action, log => (log ++ [⟨action, none⟩], none)
  | .ask action yes no, log =>
      match world log action with
      | .ok true => run yes (log ++ [⟨action, none⟩])
      | .ok false => run no (log ++ [⟨action, none⟩])
      | .error thrown => (log ++ [⟨action, some thrown⟩], some thrown)
  | .raise thrown, log => (log, some thrown)
  | .seq first second, log =>
      match run first log with
      | (log, none) => run second log
      | (log, some thrown) => (log, some thrown)
  | .cond test yes no, log => if test (stateOf effect start log) then run yes log else run no log
  | .protect body cleanup, log =>
      match run body log with
      | (log, thrown) =>
          match run cleanup log with
          | (log, none) => (log, thrown)
          | (log, some later) => (log, some later)
  | .unwind body cleanup, log =>
      match run body log with
      | (log, none) => (log, none)
      | (log, some thrown) =>
          match run cleanup log with
          | (log, none) => (log, some thrown)
          | (log, some later) => (log, some later)
  | .recover caught body, log =>
      match run body log with
      | (log, none) => (log, none)
      | (log, some thrown) => (log, if caught thrown then none else some thrown)

end Runs

section Explorations

variable (effect : State → Happened Action → State) (allowed : State → Action → Thrown → Bool)

/-- What an action may raise. -/
def throws (state : State) (action : Action) : List Thrown := [.exception, .interrupt].filter (allowed state action)

/-- How an action may end. -/
def endings (state : State) (action : Action) : List (Option Thrown) := none :: (throws allowed state action).map some

/-- An action raises only what it may raise. -/
def Respects (start : State) (world : List (Happened Action) → Action → Except Thrown Bool) : Prop :=
  ∀ log action thrown, world log action = .error thrown → allowed (stateOf effect start log) action thrown = true

section Choices

variable {effect allowed} {start : State} {world : List (Happened Action) → Action → Except Thrown Bool}

theorem mem_throws {state : State} {action : Action} {thrown : Thrown} (may : allowed state action thrown = true) :
    thrown ∈ throws allowed state action := by
  rw [throws, List.mem_filter]
  refine ⟨?_, may⟩
  cases thrown with
  | exception => exact List.mem_cons_self
  | interrupt => exact List.mem_cons_of_mem _ List.mem_cons_self

theorem mem_endings (respects : Respects effect allowed start world) (log : List (Happened Action)) (action : Action) :
    thrownBy (world log action) ∈ endings allowed (stateOf effect start log) action := by
  cases ended : world log action with
  | ok answer => exact List.mem_cons_self
  | error thrown =>
      exact List.mem_cons_of_mem _ (List.mem_map_of_mem (mem_throws (respects log action thrown ended)))

end Choices

/-- The ends of a cleanup. Its body may have raised what one of the ends of the body has. -/
def cleaned (ends finals : List (State × Option Thrown)) : List (State × Option Thrown) :=
  let raised := (ends.map Prod.snd).dedup
  finals.flatMap fun e => if e.2 = none then raised.map fun thrown => (e.1, thrown) else [e]

theorem mem_cleaned {ends finals : List (State × Option Thrown)} {middle e : State × Option Thrown}
    (reached : middle ∈ ends) (found : e ∈ finals) : (e.1, e.2.or middle.2) ∈ cleaned ends finals := by
  refine List.mem_flatMap.mpr ⟨e, found, ?_⟩
  obtain ⟨state, later⟩ := e
  cases later with
  | none => exact List.mem_map_of_mem (List.mem_dedup.mpr (List.mem_map_of_mem reached))
  | some later => exact List.mem_cons_self

theorem mem_raised {ends : List (State × Option Thrown)} {state : State} {thrown : Thrown}
    (reached : (state, some thrown) ∈ ends) : (state, some thrown) ∈ ends.filter fun e => e.2 ≠ none :=
  List.mem_filter.mpr ⟨reached, decide_eq_true (Option.some_ne_none thrown)⟩

theorem mem_returned {ends : List (State × Option Thrown)} {state : State} (reached : (state, none) ∈ ends) :
    state ∈ (ends.filter fun e => e.2 = none).map Prod.fst :=
  List.mem_map_of_mem (List.mem_filter.mpr ⟨reached, decide_eq_true rfl⟩)

variable [DecidableEq State]

/-- The states in which something ends, each of them once. -/
def ended (ends : List (State × Option Thrown)) : List State := (ends.map Prod.fst).dedup

/-- The states in which a script may end, with what it raises there, if it starts in one of some states. There may be
too many, because a cleanup is explored without regard to what its body raised. -/
def explore : Script State Action → List State → List (State × Option Thrown)
  | .skip, states => states.map fun state => (state, none)
  | .act action, states =>
      states.flatMap fun state =>
        (endings allowed state action).map fun thrown => (effect state ⟨action, thrown⟩, thrown)
  | .note action, states => states.map fun state => (effect state ⟨action, none⟩, none)
  | .ask action yes no, states =>
      let answered := states.map fun state => effect state ⟨action, none⟩
      explore yes answered ++ explore no answered ++ states.flatMap fun state =>
        (throws allowed state action).map fun thrown => (effect state ⟨action, some thrown⟩, some thrown)
  | .raise thrown, states => states.map fun state => (state, some thrown)
  | .seq first second, states =>
      let ends := explore first states
      ends.filter (fun e => e.2 ≠ none) ++ explore second ((ends.filter fun e => e.2 = none).map Prod.fst)
  | .cond test yes no, states =>
      explore yes (states.filter test) ++ explore no (states.filter fun state => !test state)
  | .protect body cleanup, states =>
      let ends := explore body states
      cleaned ends (explore cleanup (ended ends))
  | .unwind body cleanup, states =>
      let ends := explore body states
      let failed := ends.filter fun e => e.2 ≠ none
      ends.filter (fun e => e.2 = none) ++ cleaned failed (explore cleanup (ended failed))
  | .recover caught body, states =>
      ((explore body states).map fun e => (e.1, e.2.filter fun thrown => !caught thrown)).dedup

theorem mem_ended {ends : List (State × Option Thrown)} {e : State × Option Thrown} (reached : e ∈ ends) :
    e.1 ∈ ended ends := by
  rw [ended, List.mem_dedup]
  exact List.mem_map_of_mem reached

variable {effect allowed} {start : State} {world : List (Happened Action) → Action → Except Thrown Bool}

/-- A run ends where the exploration has been, whatever raises. -/
theorem run_explored (respects : Respects effect allowed start world) (script : Script State Action)
    {states : List State} {log : List (Happened Action)} (known : stateOf effect start log ∈ states) :
    (stateOf effect start (run effect start world script log).1, (run effect start world script log).2) ∈
      explore effect allowed script states := by
  induction script generalizing log states with
  | skip => exact List.mem_map_of_mem known
  | act action =>
      rw [run, explore, stateOf_snoc]
      exact List.mem_flatMap.mpr ⟨_, known, List.mem_map_of_mem (mem_endings respects log action)⟩
  | note action =>
      rw [run, explore, stateOf_snoc]
      exact List.mem_map_of_mem known
  | ask action yes no ihYes ihNo =>
      have next : stateOf effect start (log ++ [⟨action, none⟩]) ∈
          states.map fun state => effect state ⟨action, none⟩ := by
        rw [stateOf_snoc]
        exact List.mem_map_of_mem known
      rw [run, explore]
      cases ended : world log action with
      | ok answer =>
          cases answer with
          | true => exact List.mem_append_left _ (List.mem_append_left _ (ihYes next))
          | false => exact List.mem_append_left _ (List.mem_append_right _ (ihNo next))
      | error thrown =>
          apply List.mem_append_right
          dsimp only
          rw [stateOf_snoc]
          have may := mem_throws (respects log action thrown ended)
          exact List.mem_flatMap.mpr ⟨_, known, List.mem_map_of_mem may⟩
  | raise thrown => exact List.mem_map_of_mem known
  | seq first second ihFirst ihSecond =>
      have reached := ihFirst known
      rw [run, explore]
      cases left : run effect start world first log with
      | mk middle thrown =>
          rw [left] at reached
          cases thrown with
          | none => exact List.mem_append_right _ (ihSecond (mem_returned reached))
          | some thrown =>
              exact List.mem_append_left _ (mem_raised reached)
  | cond test yes no ihYes ihNo =>
      rw [run, explore]
      split
      · rename_i held
        exact List.mem_append_left _ (ihYes (List.mem_filter.mpr ⟨known, held⟩))
      · rename_i failed
        have other : (!test (stateOf effect start log)) = true := by
          rw [Bool.eq_false_iff.mpr failed]
          rfl
        exact List.mem_append_right _ (ihNo (List.mem_filter.mpr ⟨known, other⟩))
  | protect body cleanup ihBody ihCleanup =>
      have reached := ihBody known
      have finished := mem_cleaned reached (ihCleanup (mem_ended reached))
      rw [run, explore]
      cases left : run effect start world body log with
      | mk middle thrown =>
          rw [left] at finished
          dsimp only
          cases final : run effect start world cleanup middle with
          | mk last later =>
              rw [final] at finished
              cases later <;> exact finished
  | unwind body cleanup ihBody ihCleanup =>
      have reached := ihBody known
      rw [run, explore]
      cases left : run effect start world body log with
      | mk middle thrown =>
          rw [left] at reached
          cases thrown with
          | none => exact List.mem_append_left _ (List.mem_filter.mpr ⟨reached, decide_eq_true rfl⟩)
          | some thrown =>
              have failed := mem_raised reached
              have finished := mem_cleaned failed (ihCleanup (mem_ended failed))
              dsimp only
              cases final : run effect start world cleanup middle with
              | mk last later =>
                  rw [final] at finished
                  cases later <;> exact List.mem_append_right _ finished
  | recover caught body ih =>
      have reached := ih known
      rw [run, explore, List.mem_dedup]
      cases left : run effect start world body log with
      | mk middle thrown =>
          rw [left] at reached
          cases thrown with
          | none => exact List.mem_map_of_mem reached
          | some thrown =>
              have mapped := List.mem_map_of_mem (f := fun e : State × Option Thrown =>
                (e.1, e.2.filter fun thrown => !caught thrown)) reached
              dsimp only at mapped ⊢
              rw [Option.filter_some] at mapped
              cases held : caught thrown with
              | false => simpa [held] using mapped
              | true => simpa [held] using mapped

/-- What holds wherever the exploration ends holds after every run. -/
theorem run_always (holds : State → Option Thrown → Prop) (respects : Respects effect allowed start world)
    {script : Script State Action} (always : ∀ e ∈ explore effect allowed script [start], holds e.1 e.2) :
    holds (stateOf effect start (run effect start world script []).1) (run effect start world script []).2 :=
  always _ (run_explored respects script (List.mem_singleton.mpr rfl))

end Explorations

end Script

end HumanoidSdk.Foundation
