import HumanoidSdk.Foundation.Run
import Mathlib.Logic.Function.Basic

namespace HumanoidSdk.Foundation

/-- A program is what each thread of a pool runs over the state that all threads share. -/
structure Program (Shared Local Call Choice Signal Event : Type*) where
  idle : Local → Bool
  call : Call → Local × List Event
  step : Shared → Local → Choice → Option (Shared × Local × List Event)
  react : Shared → Signal → Shared × List Event

structure Pool (Thread Shared Local : Type*) where
  shared : Shared
  threads : Thread → Local

/-- The scheduler names the thread that moves next, or the environment sends a signal. -/
inductive PoolInput (Thread Call Choice Signal : Type*) where
  | call (thread : Thread) (request : Call)
  | run (thread : Thread) (choice : Choice)
  | signal (signal : Signal)

namespace Program

variable {Shared Local Call Choice Signal Event Thread : Type*}
  (program : Program Shared Local Call Choice Signal Event) [DecidableEq Thread]

/-- Every interleaving of the threads and the signals is a run of this machine. -/
def machine (Thread : Type*) [DecidableEq Thread] :
    Machine (Pool Thread Shared Local) (PoolInput Thread Call Choice Signal) Event where
  step pool
    | .call thread request =>
        if program.idle (pool.threads thread) then
          some (⟨pool.shared, Function.update pool.threads thread (program.call request).1⟩,
            (program.call request).2)
        else none
    | .run thread choice =>
        (program.step pool.shared (pool.threads thread) choice).map fun result =>
          (⟨result.1, Function.update pool.threads thread result.2.1⟩, result.2.2)
    | .signal signal =>
        some (⟨(program.react pool.shared signal).1, pool.threads⟩, (program.react pool.shared signal).2)

/-- A thread acts by starting a call or by one step of its running call. -/
inductive Act : Shared → Local → List Event → Shared → Local → Prop
  | call {shared : Shared} {here : Local} (ready : program.idle here = true) (request : Call) :
      Act shared here (program.call request).2 shared (program.call request).1
  | step {shared after : Shared} {here next : Local} {choice : Choice} {events : List Event}
      (stepped : program.step shared here choice = some (after, next, events)) :
      Act shared here events after next

/-- An accepted input is the act of one thread or a signal. -/
inductive PoolStep (pool : Pool Thread Shared Local) :
    PoolInput Thread Call Choice Signal → Pool Thread Shared Local → List Event → Prop
  | call {thread : Thread} {request : Call} (ready : program.idle (pool.threads thread) = true) :
      PoolStep pool (.call thread request)
        ⟨pool.shared, Function.update pool.threads thread (program.call request).1⟩
        (program.call request).2
  | run {thread : Thread} {choice : Choice} {shared : Shared} {next : Local} {events : List Event}
      (stepped : program.step pool.shared (pool.threads thread) choice = some (shared, next, events)) :
      PoolStep pool (.run thread choice) ⟨shared, Function.update pool.threads thread next⟩ events
  | signal (signal : Signal) :
      PoolStep pool (.signal signal) ⟨(program.react pool.shared signal).1, pool.threads⟩
        (program.react pool.shared signal).2

variable {program}

theorem machine_cases {pool next : Pool Thread Shared Local}
    {input : PoolInput Thread Call Choice Signal} {events : List Event}
    (accepted : (program.machine Thread).step pool input = some (next, events)) :
    program.PoolStep pool input next events := by
  cases input with
  | call thread request =>
      by_cases ready : program.idle (pool.threads thread) = true
      · simp only [machine, ready, if_true, Option.some.injEq, Prod.mk.injEq] at accepted
        obtain ⟨rfl, rfl⟩ := accepted
        exact .call ready
      · simp [machine, ready] at accepted
  | run thread choice =>
      simp only [machine, Option.map_eq_some_iff, Prod.mk.injEq] at accepted
      obtain ⟨⟨shared, there, emitted⟩, stepped, rfl, rfl⟩ := accepted
      exact .run stepped
  | signal signal =>
      simp only [machine, Option.some.injEq, Prod.mk.injEq] at accepted
      obtain ⟨rfl, rfl⟩ := accepted
      exact .signal signal

/-- A property of the shared state and one of each thread hold on runs when every act keeps them
for the acting thread and for every other one. -/
theorem run_threadwise (whole : List Event → Shared → Prop) (each : List Event → Shared → Local → Prop)
    {start final : Pool Thread Shared Local}
    {moves : List (Move (Pool Thread Shared Local) (PoolInput Thread Call Choice Signal) Event)}
    (initial : whole [] start.shared ∧ ∀ thread, each [] start.shared (start.threads thread))
    (own : ∀ log shared here events after next, whole log shared → each log shared here →
      program.Act shared here events after next →
      whole (log ++ events) after ∧ each (log ++ events) after next)
    (other : ∀ log shared here events after next there, whole log shared → each log shared here →
      each log shared there → program.Act shared here events after next →
      each (log ++ events) after there)
    (signalled : ∀ log shared signal, whole log shared →
      whole (log ++ (program.react shared signal).2) (program.react shared signal).1 ∧
      ∀ there, each log shared there →
        each (log ++ (program.react shared signal).2) (program.react shared signal).1 there)
    (run : (program.machine Thread).Run start moves final) :
    whole (trace moves) final.shared ∧ ∀ thread, each (trace moves) final.shared (final.threads thread) := by
  refine run.traceInvariant (fun log pool => whole log pool.shared ∧
    ∀ thread, each log pool.shared (pool.threads thread)) initial ?_
  rintro log pool input next events ⟨held, local'⟩ accepted
  have acted {thread : Thread} {after : Shared} {there : Local}
      (act : program.Act pool.shared (pool.threads thread) events after there) :
      whole (log ++ events) after ∧ ∀ other,
        each (log ++ events) after (Function.update pool.threads thread there other) := by
    refine ⟨(own _ _ _ _ _ _ held (local' thread) act).1, fun second => ?_⟩
    by_cases same : second = thread
    · subst same
      rw [Function.update_self]
      exact (own _ _ _ _ _ _ held (local' second) act).2
    · rw [Function.update_of_ne same]
      exact other _ _ _ _ _ _ _ held (local' thread) (local' second) act
  cases machine_cases accepted with
  | call ready => exact acted (.call ready _)
  | run stepped => exact acted (.step stepped)
  | signal signal =>
      obtain ⟨kept, rest⟩ := signalled log pool.shared signal held
      exact ⟨kept, fun thread => rest _ (local' thread)⟩

/-- With one thread it is enough that its own acts and the signals keep a property. -/
theorem run_alone (holds : List Event → Shared → Local → Prop) {start final : Pool Unit Shared Local}
    {moves : List (Move (Pool Unit Shared Local) (PoolInput Unit Call Choice Signal) Event)}
    (initial : holds [] start.shared (start.threads ()))
    (own : ∀ log shared here events after next, holds log shared here →
      program.Act shared here events after next → holds (log ++ events) after next)
    (signalled : ∀ log shared here signal, holds log shared here →
      holds (log ++ (program.react shared signal).2) (program.react shared signal).1 here)
    (run : (program.machine Unit).Run start moves final) :
    holds (trace moves) final.shared (final.threads ()) := by
  refine run.traceInvariant (fun log pool => holds log pool.shared (pool.threads ())) initial ?_
  intro log pool input next events held accepted
  cases machine_cases accepted with
  | call ready => simpa using own _ _ _ _ _ _ held (.call ready _)
  | run stepped => simpa using own _ _ _ _ _ _ held (.step stepped)
  | signal signal => exact signalled _ _ _ signal held

end Program

end HumanoidSdk.Foundation
