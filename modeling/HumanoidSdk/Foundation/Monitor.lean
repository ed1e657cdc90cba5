import HumanoidSdk.Foundation.Pool

namespace HumanoidSdk.Foundation

/-- The shared state tells whether a lock is taken and each thread tells whether it holds it. -/
structure Lock (Shared Local : Type*) where
  taken : Shared → Bool
  holds : Local → Bool

namespace Lock

variable {Shared Local Call Choice Signal Event Thread : Type*} (lock : Lock Shared Local)
  (resource : List Event → Shared → Prop) (owned : List Event → Shared → Local → Prop)

/-- The resource is with the lock while nobody holds it and with the one holder otherwise. -/
inductive Guards (log : List Event) (shared : Shared) (threads : Thread → Local) : Prop
  | free (open' : lock.taken shared = false) (kept : resource log shared)
      (away : ∀ thread, lock.holds (threads thread) = false)
  | held (closed : lock.taken shared = true) (holder : Thread)
      (holding : lock.holds (threads holder) = true) (kept : owned log shared (threads holder))
      (alone : ∀ other, other ≠ holder → lock.holds (threads other) = false)

/-- An act ends inside the critical section with the resource or outside of it without. -/
def Settles (log : List Event) (shared : Shared) (here : Local) : Prop :=
  (lock.taken shared = true ∧ lock.holds here = true ∧ owned log shared here) ∨
    (lock.taken shared = false ∧ lock.holds here = false ∧ resource log shared)

/-- What each kind of act owes to the resource of a lock. -/
structure Discipline (program : Program Shared Local Call Choice Signal Event) : Prop where
  enter : ∀ {log shared here events after next}, lock.taken shared = false →
    lock.holds here = false → resource log shared → program.Act shared here events after next →
    lock.Settles resource owned (log ++ events) after next
  inside : ∀ {log shared here events after next}, lock.taken shared = true →
    lock.holds here = true → owned log shared here → program.Act shared here events after next →
    lock.Settles resource owned (log ++ events) after next
  outside : ∀ {log shared here events after next}, lock.taken shared = true →
    lock.holds here = false → program.Act shared here events after next →
    lock.taken after = true ∧ lock.holds next = false ∧
      ∀ there, owned log shared there → owned (log ++ events) after there
  signalled : ∀ {log shared} (signal : Signal),
    lock.taken (program.react shared signal).1 = lock.taken shared ∧
      (resource log shared → resource (log ++ (program.react shared signal).2) (program.react shared signal).1) ∧
      ∀ there, owned log shared there →
        owned (log ++ (program.react shared signal).2) (program.react shared signal).1 there

variable {lock resource owned} [DecidableEq Thread]

/-- A thread that settles while all others are outside leaves the lock guarded. -/
theorem Settles.guards {log : List Event} {shared : Shared} {here : Local} {threads : Thread → Local}
    (settled : lock.Settles resource owned log shared here) (thread : Thread)
    (alone : ∀ other, other ≠ thread → lock.holds (threads other) = false) :
    lock.Guards resource owned log shared (Function.update threads thread here) := by
  have rest (other : Thread) (different : other ≠ thread) :
      lock.holds (Function.update threads thread here other) = false := by
    rw [Function.update_of_ne different]
    exact alone other different
  rcases settled with ⟨taken, holding, kept⟩ | ⟨free, away, kept⟩
  · exact .held taken thread (by rwa [Function.update_self]) (by rwa [Function.update_self]) rest
  · refine .free free kept fun other => ?_
    by_cases same : other = thread
    · rw [same, Function.update_self, away]
    · exact rest other same

omit [DecidableEq Thread] in
/-- A thread that holds the lock owns its resource. -/
theorem Guards.of_holds {log : List Event} {shared : Shared} {threads : Thread → Local}
    (guarded : lock.Guards resource owned log shared threads) {thread : Thread}
    (holding : lock.holds (threads thread) = true) : owned log shared (threads thread) := by
  cases guarded with
  | free open' kept away => exact absurd holding (by simp [away thread])
  | held closed holder held kept alone =>
      by_cases same : thread = holder
      · exact same ▸ kept
      · exact absurd holding (by simp [alone thread same])

variable {program : Program Shared Local Call Choice Signal Event}

/-- One act of one thread keeps the lock guarded. -/
theorem Discipline.act (disciplined : lock.Discipline resource owned program) {log : List Event}
    {shared : Shared} {threads : Thread → Local} (guarded : lock.Guards resource owned log shared threads)
    {thread : Thread} {events : List Event} {after : Shared} {next : Local}
    (acts : program.Act shared (threads thread) events after next) :
    lock.Guards resource owned (log ++ events) after (Function.update threads thread next) := by
  cases guarded with
  | free open' kept away =>
      exact (disciplined.enter open' (away thread) kept acts).guards thread fun other _ => away other
  | held closed holder holding kept alone =>
      by_cases same : thread = holder
      · subst same
        exact (disciplined.inside closed holding kept acts).guards thread alone
      · obtain ⟨taken, away, keeps⟩ := disciplined.outside closed (alone thread same) acts
        refine .held taken holder ?_ ?_ fun other different => ?_
        · rwa [Function.update_of_ne (Ne.symm same)]
        · rw [Function.update_of_ne (Ne.symm same)]
          exact keeps _ kept
        · by_cases mine : other = thread
          · rw [mine, Function.update_self, away]
          · rw [Function.update_of_ne mine]
            exact alone other different

/-- On every run the lock guards its resource. -/
theorem Discipline.run (disciplined : lock.Discipline resource owned program)
    {start final : Pool Thread Shared Local}
    {moves : List (Move (Pool Thread Shared Local) (PoolInput Thread Call Choice Signal) Event)}
    (initial : lock.Guards resource owned [] start.shared start.threads)
    (run : (program.machine Thread).Run start moves final) :
    lock.Guards resource owned (trace moves) final.shared final.threads := by
  refine run.traceInvariant (fun log pool => lock.Guards resource owned log pool.shared pool.threads) initial ?_
  intro log pool input next events guarded accepted
  cases Program.machine_cases accepted with
  | call ready => exact disciplined.act guarded (.call ready _)
  | run stepped => exact disciplined.act guarded (.step stepped)
  | signal signal =>
      obtain ⟨same, keptFree, keptHeld⟩ := disciplined.signalled signal
      cases guarded with
      | free open' kept away => exact .free (same.trans open') (keptFree kept) away
      | held closed holder holding kept alone =>
          exact .held (same.trans closed) holder holding (keptHeld _ kept) alone

end Lock

end HumanoidSdk.Foundation
