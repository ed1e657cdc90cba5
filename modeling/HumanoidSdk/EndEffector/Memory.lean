import HumanoidSdk.EndEffector.CommandLaw

/-
This file ties the feedback cache to the log: what is cached is what was stored last, and what was
stored comes from a decoded delivery.
-/

namespace HumanoidSdk.EndEffector
open Foundation

variable {client : Client}

/-- The message of this kind that an event stores. -/
def Event.storeOf (kind : Kind) : Event client → Option (client.Message kind)
  | .stored other message => if same : other = kind then some (same ▸ message) else none
  | _ => none

/-- The messages of one kind in the order of their storage. -/
def stores (kind : Kind) (log : List (Event client)) : List (client.Message kind) :=
  log.filterMap (Event.storeOf kind)

theorem stores_append (kind : Kind) (first second : List (Event client)) :
    stores kind (first ++ second) = stores kind first ++ stores kind second := List.filterMap_append

/-- Events other than a storage store nothing. -/
theorem stores_silent {events : List (Event client)} (kind : Kind)
    (silent : ∀ event ∈ events, event.isDelivery = false) : stores kind events = [] := by
  refine List.filterMap_eq_nil_iff.mpr fun event member => ?_
  have quiet := silent event member
  cases event with
  | stored | rejected => cases quiet
  | failed | returned | raised | read | consumed | handed | refused => rfl

theorem mem_stores {kind : Kind} {message : client.Message kind} {log : List (Event client)}
    (member : message ∈ stores kind log) : .stored kind message ∈ log := by
  obtain ⟨event, inside, same⟩ := List.mem_filterMap.mp member
  cases event with
  | stored other found =>
      obtain ⟨rfl, found'⟩ := Option.dite_none_right_eq_some.mp same
      cases found'
      exact inside
  | rejected | failed | returned | raised | read | consumed | handed | refused => cases same

/-- The cache holds the last stored messages. -/
def Remembered (log : List (Event client)) (shared : Shared client) : Prop :=
  ∀ kind, shared.latest kind = (stores kind log).getLast?

/-- A publish reads the last stored message. -/
def ReadsLast (before : List (Event client)) : Event client → Prop
  | .read _ kind entry => entry = (stores kind before).getLast?
  | _ => True

variable {log events : List (Event client)} {shared after : Shared client} {stack next : List (Frame client)}

theorem Remembered.kept (remembered : Remembered log shared) (kept : Kept shared after events) :
    Remembered (log ++ events) after := by
  intro kind
  rw [stores_append, stores_silent kind kept.silent, List.append_nil, kept.latest]
  exact remembered kind

theorem Remembered.stored (remembered : Remembered log shared) {kind : Kind} (message : client.Message kind) :
    Remembered (log ++ [.stored kind message])
      { shared with latest := Function.update shared.latest kind (some message) } := by
  intro other
  rw [stores_append]
  by_cases same : kind = other
  · subst same
    simp [stores, Event.storeOf]
  · have unrelated : stores other [(.stored kind message : Event client)] = [] := by
      simp [stores, Event.storeOf, same]
    rw [unrelated, List.append_nil]
    simpa [Function.update_of_ne (Ne.symm same)] using remembered other

/-- A reception keeps the cache equal to what was stored last. -/
theorem Remembered.step (remembered : Remembered log shared) (justified : Justified ReadsLast log)
    (reception : Reception shared stack events after next) :
    Remembered (log ++ events) after ∧ Justified ReadsLast (log ++ events) := by
  have single (event : Event client) (free : ∀ before, ReadsLast before event) :
      Justified ReadsLast (log ++ [event]) := justified.snoc (free log)
  have silent (event : Event client) (store : ∀ kind, event.storeOf kind = none) :
      Remembered (log ++ [event]) shared := by
    intro kind
    have none : stores kind [event] = [] := by simp [stores, store kind]
    rw [stores_append, none, List.append_nil]
    exact remembered kind
  cases reception with
  | kept kept genuine stays =>
      refine ⟨remembered.kept kept, justified.append fun before event after cut => ?_⟩
      have member : event ∈ events := by
        rw [cut]
        exact List.mem_append_right _ List.mem_cons_self
      cases event with
      | read ticket kind entry =>
          have unstored : stores kind before = [] := stores_silent kind fun other inside =>
            kept.silent other (by rw [cut]; exact List.mem_append_left _ inside)
          rw [ReadsLast, stores_append, unstored, List.append_nil, ← remembered kind]
          exact kept.reads ticket kind entry member
      | stored | rejected | failed | returned | raised | consumed | handed | refused => trivial
  | decoded | raised =>
      rw [List.append_nil]
      exact ⟨remembered, justified⟩
  | undecoded | disagreed => exact ⟨silent _ fun kind => rfl, single _ fun before => trivial⟩
  | stored => exact ⟨remembered.stored _, single _ fun before => trivial⟩
  | recorded => exact ⟨silent _ fun kind => rfl, single _ fun before => trivial⟩

theorem Below.genuine {below rest : List (Frame client)} (stays : Below below rest)
    (genuine : ∀ frame ∈ below, frame.Genuine) : ∀ frame ∈ rest, frame.Genuine := by
  rcases stays with rfl | ⟨polled, rfl⟩
  · exact genuine
  · cases below with
    | nil => exact genuine
    | cons head below =>
        rw [List.modifyHead_cons, List.forall_mem_cons]
        rw [List.forall_mem_cons] at genuine
        exact ⟨Frame.resume_genuine polled genuine.1, genuine.2⟩

/-- What was stored comes from a decoded delivery. -/
def Decoded (log : List (Event client)) : Prop :=
  ∀ kind message, .stored kind message ∈ log → ∃ view, client.decode kind view = .ok message

/-- A reception stores decoded messages and leaves genuine frames. -/
theorem Decoded.step (decoded : Decoded log) (genuine : ∀ frame ∈ stack, frame.Genuine)
    (reception : Reception shared stack events after next) :
    Decoded (log ++ events) ∧ ∀ frame ∈ next, frame.Genuine := by
  have unstored (silent : ∀ kind message, .stored kind message ∉ events) : Decoded (log ++ events) := by
    intro kind message member
    exact decoded kind message ((List.mem_append.mp member).resolve_right (silent kind message))
  have joined {top rest below : List (Frame client)} {frame : Frame client} (isTop : ∀ other ∈ top, other.Genuine)
      (all : ∀ other ∈ frame :: below, other.Genuine) (stays : Below below rest) :
      ∀ other ∈ top ++ rest, other.Genuine := by
    intro other member
    rcases List.mem_append.mp member with new | old
    · exact isTop other new
    · exact stays.genuine (List.forall_mem_cons.mp all).2 other old
  cases reception with
  | kept kept isTop stays =>
      refine ⟨unstored fun kind message member => ?_, joined isTop genuine stays⟩
      cases kept.silent _ member
  | decoded decodes =>
      obtain ⟨fresh, rest⟩ := List.forall_mem_cons.mp genuine
      exact ⟨unstored (by simp), List.forall_mem_cons.mpr ⟨⟨fresh, _, decodes⟩, rest⟩⟩
  | undecoded | disagreed | raised =>
      obtain ⟨-, rest⟩ := List.forall_mem_cons.mp genuine
      exact ⟨unstored (by simp), List.forall_mem_cons.mpr ⟨trivial, rest⟩⟩
  | @stored kind flag message below top rest agrees isTop stays =>
      obtain ⟨⟨-, view, decodes⟩, -⟩ := List.forall_mem_cons.mp genuine
      refine ⟨fun other stored member => ?_, joined isTop genuine stays⟩
      rcases List.mem_append.mp member with old | new
      · exact decoded other stored old
      · cases List.mem_singleton.mp new
        exact ⟨view, decodes⟩
  | recorded stays => exact ⟨unstored (by simp), stays.genuine (List.forall_mem_cons.mp genuine).2⟩

section Run

variable {Thread : Type*} [DecidableEq Thread] {moves : List (ClientMove client Thread)}
  {final : ClientPool client Thread}

/-- On every run the cache holds what was stored last and publishes read it. -/
theorem remembered_run (run : ((clientProgram client).machine Thread).Run (freshClient client Thread) moves final) :
    Remembered (trace moves) final.shared ∧ Justified ReadsLast (trace moves) := by
  refine run.traceInvariant (fun log pool => Remembered log pool.shared ∧ Justified ReadsLast log)
    ⟨fun kind => rfl, .empty⟩ ?_
  rintro log pool input next events ⟨remembered, justified⟩ accepted
  cases Program.machine_cases accepted with
  | call ready =>
      rw [clientProgram, List.append_nil]
      exact ⟨remembered, justified⟩
  | run stepped => exact remembered.step justified (step_reception stepped)
  | signal signal =>
      cases signal with
      | arrive kind view =>
          rw [clientProgram, List.append_nil]
          exact ⟨remembered, justified⟩

/-- On every run the stored messages are decoded and the frames genuine. -/
theorem decoded_run (run : ((clientProgram client).machine Thread).Run (freshClient client Thread) moves final) :
    Decoded (trace moves) ∧ ∀ thread, ∀ frame ∈ final.threads thread, frame.Genuine := by
  refine Program.run_threadwise (fun log _ => Decoded log) (fun _ _ stack => ∀ frame ∈ stack, frame.Genuine)
    ⟨by simp [Decoded], fun thread => by simp [freshClient]⟩ ?_ ?_ ?_ run
  · intro log shared here events after next decoded genuine act
    cases act with
    | call ready request =>
        rw [clientProgram, List.append_nil]
        refine ⟨decoded, ?_⟩
        cases request with
        | user call => simpa [Request.frame] using Frame.frame_genuine call
        | deliver kind view => simp [Request.frame, Frame.Genuine]
    | step stepped => exact decoded.step genuine (step_reception stepped)
  · intro log shared here events after next there decoded genuine other act
    exact other
  · intro log shared signal decoded
    cases signal with
    | arrive kind view =>
        rw [clientProgram, List.append_nil]
        exact ⟨decoded, fun there genuine => genuine⟩

end Run

end HumanoidSdk.EndEffector
