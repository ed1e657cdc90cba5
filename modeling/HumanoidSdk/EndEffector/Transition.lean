import HumanoidSdk.EndEffector.Client

namespace HumanoidSdk.EndEffector
open Foundation

variable {client : Client}

namespace Frame

def isPublish : Frame client → Bool
  | .publish _ => true
  | _ => false

/-- The ticket of a publish that holds the lock. -/
def ticket : Frame client → Option ℕ
  | .publish (.preparing ticket ..) | .publish (.finishing ticket ..) | .publish (.late ticket ..) =>
      some ticket
  | _ => none

theorem holdsPublish_ticket (frame : Frame client) : frame.holdsPublish = frame.ticket.isSome := by
  cases frame with
  | publish phase => cases phase <;> rfl
  | get | wait | poll | receive | close => rfl

theorem isPublish_of_ticket {frame : Frame client} {ticket : ℕ} (own : frame.ticket = some ticket) :
    frame.isPublish = true := by
  cases frame with
  | publish phase => rfl
  | get | wait | poll | receive | close => cases own

theorem resume_ticket (polled : Bool) (frame : Frame client) : (frame.resume polled).ticket = frame.ticket := by
  cases frame with
  | wait kind request phase => cases phase <;> rfl
  | get | poll | receive | publish | close => rfl

theorem frame_unticketed (call : UserCall client) : call.frame.ticket = none := by
  cases call <;> rfl

/-- A delivery that has not stored its message says so and has decoded what it is about to store. -/
def Genuine : Frame client → Prop
  | .receive _ stored (.begin _) => stored = false
  | .receive kind stored (.store message) => stored = false ∧ ∃ view, client.decode kind view = .ok message
  | _ => True

theorem frame_genuine (call : UserCall client) : call.frame.Genuine := by
  cases call <;> trivial

theorem resume_genuine (polled : Bool) {frame : Frame client} (genuine : frame.Genuine) :
    (frame.resume polled).Genuine := by
  cases frame with
  | wait kind request phase => cases phase <;> trivial
  | get | poll | receive | publish | close => exact genuine

end Frame

/-- The publish that an event belongs to. -/
def Event.ticket : Event client → Option ℕ
  | .read ticket .. | .consumed ticket _ | .handed ticket .. | .refused ticket _ => some ticket
  | _ => none

/-- Events of a delivery that reaches its locked section or fails before. -/
def Event.isDelivery : Event client → Bool
  | .stored .. | .rejected .. => true
  | _ => false

/-- The fields that a publish relies on are the same. -/
structure Untouched (before after : Shared client) : Prop where
  sequence : after.sequence = before.sequence
  publishing : after.publishing = before.publishing
  tickets : after.tickets = before.tickets

theorem Untouched.refl (shared : Shared client) : Untouched shared shared := ⟨rfl, rfl, rfl⟩

/-- A plain statement touches at most the publisher. -/
theorem plainStep_shared {shared after : Shared client} {scratch : client.Scratch}
    {statement : Plain client.Scratch} {choice : Choice client} {outcome : Except PyError client.Scratch}
    (ran : shared.plainStep scratch statement choice = some (after, outcome)) :
    after = shared ∨ after = { shared with publisher := true } := by
  cases statement with
  | ensureOpen | check | clock =>
      cases choice <;> simp only [Shared.plainStep, Option.some.injEq, Prod.mk.injEq, reduceCtorEq] at ran
      all_goals exact .inl ran.1.symm
  | createPublisher =>
      cases choice with
      | go =>
          simp only [Shared.plainStep, Option.some.injEq, Prod.mk.injEq] at ran
          exact .inr ran.1.symm
      | raise =>
          simp only [Shared.plainStep] at ran
          split at ran
          · cases ran
          · simp only [Option.some.injEq, Prod.mk.injEq] at ran
            exact .inl ran.1.symm
      | spoil | expire | clock | call => simp [Shared.plainStep] at ran

/-- A statement that raises touches nothing. -/
theorem plainStep_error {shared after : Shared client} {scratch : client.Scratch}
    {statement : Plain client.Scratch} {choice : Choice client} {error : PyError}
    (ran : shared.plainStep scratch statement choice = some (after, .error error)) : after = shared := by
  cases statement with
  | ensureOpen | check | clock =>
      cases choice <;> simp only [Shared.plainStep, Option.some.injEq, Prod.mk.injEq, reduceCtorEq] at ran
      all_goals exact ran.1.symm
  | createPublisher =>
      cases choice with
      | raise =>
          simp only [Shared.plainStep, Option.ite_none_left_eq_some, Option.some.injEq, Prod.mk.injEq] at ran
          exact ran.2.1.symm
      | go | spoil | expire | clock | call => simp [Shared.plainStep] at ran

theorem plainStep_untouched {shared after : Shared client} {scratch : client.Scratch}
    {statement : Plain client.Scratch} {choice : Choice client} {outcome : Except PyError client.Scratch}
    (ran : shared.plainStep scratch statement choice = some (after, outcome)) :
    Untouched shared after ∧ after.latest = shared.latest ∧ after.failed = shared.failed ∧
      after.closed = shared.closed := by
  rcases plainStep_shared ran with rfl | rfl
  · exact ⟨.refl _, rfl, rfl, rfl⟩
  · exact ⟨⟨rfl, rfl, rfl⟩, rfl, rfl, rfl⟩

/-- The frames below the top frame stay, except that a wait learns the result of its poll. -/
def Below (below rest : List (Frame client)) : Prop :=
  rest = below ∨ ∃ polled, rest = below.modifyHead (Frame.resume polled)

theorem Below.tickets {below rest : List (Frame client)} (stays : Below below rest) :
    rest.filterMap Frame.ticket = below.filterMap Frame.ticket := by
  rcases stays with rfl | ⟨polled, rfl⟩
  · rfl
  · cases below with
    | nil => rfl
    | cons frame below => simp only [List.modifyHead_cons, List.filterMap_cons, Frame.resume_ticket]

/-- A publish below stays the same publish. -/
theorem Below.publishes {below rest : List (Frame client)} (stays : Below below rest) {frame : Frame client}
    (publish : frame.isPublish = true) : frame ∈ rest ↔ frame ∈ below := by
  rcases stays with rfl | ⟨polled, rfl⟩
  · rfl
  · cases below with
    | nil => rfl
    | cons head below =>
        rw [List.modifyHead_cons, List.mem_cons, List.mem_cons]
        refine or_congr_left ?_
        cases head with
        | wait kind request phase =>
            refine iff_of_false ?_ ?_
            · rintro rfl
              cases phase <;> cases publish
            · rintro rfl
              cases publish
        | get | poll | receive | publish | close => rfl

/-- A step that leaves the feedback cache alone. -/
structure Kept (shared after : Shared client) (events : List (Event client)) : Prop where
  latest : after.latest = shared.latest
  failed : shared.failed = true → after.failed = true
  closed : shared.closed = true → after.closed = true
  silent : ∀ event ∈ events, event.isDelivery = false
  recorded : .failed ∈ events → after.failed = true
  reads : ∀ ticket kind entry, .read ticket kind entry ∈ events → entry = shared.latest kind

/-- A reception lists every step of a thread by what it means for the feedback cache. -/
inductive Reception (shared : Shared client) :
    List (Frame client) → List (Event client) → Shared client → List (Frame client) → Prop
  | kept {frame : Frame client} {below top rest : List (Frame client)} {events : List (Event client)}
      {after : Shared client} (kept : Kept shared after events) (genuine : ∀ frame ∈ top, frame.Genuine)
      (stays : Below below rest) : Reception shared (frame :: below) events after (top ++ rest)
  | decoded {kind : Kind} {stored : Bool} {view : client.View} {message : client.Message kind}
      {below : List (Frame client)} (decodes : client.decode kind view = .ok message) :
      Reception shared (.receive kind stored (.begin view) :: below) [] shared
        (.receive kind stored (.store message) :: below)
  | undecoded {kind : Kind} {stored : Bool} {view : client.View} {error : PyError} {below : List (Frame client)}
      (fails : client.decode kind view = .error error) :
      Reception shared (.receive kind stored (.begin view) :: below) [.rejected kind stored] shared
        (.receive kind stored .fail :: below)
  | stored {kind : Kind} {stored : Bool} {message : client.Message kind} {below top rest : List (Frame client)}
      (agrees : client.agrees (Function.update shared.latest kind (some message)) = .ok ())
      (genuine : ∀ frame ∈ top, frame.Genuine) (stays : Below below rest) :
      Reception shared (.receive kind stored (.store message) :: below) [.stored kind message]
        { shared with latest := Function.update shared.latest kind (some message) } (top ++ rest)
  | disagreed {kind : Kind} {stored : Bool} {message : client.Message kind} {error : PyError}
      {below : List (Frame client)}
      (fails : client.agrees (Function.update shared.latest kind (some message)) = .error error) :
      Reception shared (.receive kind stored (.store message) :: below) [.rejected kind stored] shared
        (.receive kind stored .fail :: below)
  | raised {kind : Kind} {stored : Bool} {message : client.Message kind} {below : List (Frame client)} :
      Reception shared (.receive kind stored (.calling message) :: below) [] shared
        (.receive kind stored .fail :: below)
  | recorded {kind : Kind} {stored : Bool} {below rest : List (Frame client)} (stays : Below below rest) :
      Reception shared (.receive kind stored .fail :: below) [.failed] { shared with failed := true } rest

/-- A transition lists every step of a thread by what it means for the publishes. -/
inductive Transition (shared : Shared client) :
    List (Frame client) → List (Event client) → Shared client → List (Frame client) → Prop
  | quiet {frame : Frame client} {below top rest : List (Frame client)} {events : List (Event client)}
      {after : Shared client} (other : frame.isPublish = false) (same : Untouched shared after)
      (silent : ∀ event ∈ events, event.ticket = none) (unheld : ∀ frame ∈ top, frame.ticket = none)
      (stays : Below below rest) : Transition shared (frame :: below) events after (top ++ rest)
  | entered {args : client.Args} {below : List (Frame client)}
      (free : shared.publishing = false ∨ below.any Frame.holdsPublish = true) :
      Transition shared (.publish (.acquire args) :: below) []
        { shared with publishing := true, tickets := shared.tickets + 1 }
        (.publish (.preparing (shared.tickets + 1) args (client.start args) false client.preparing) :: below)
  | checked {ticket : ℕ} {args : client.Args} {scratch next : client.Scratch} {polled : Bool}
      {statement : Plain client.Scratch} {rest : List (Statement client.Message client.Scratch)}
      {below : List (Frame client)} {choice : Choice client} {after : Shared client}
      (ran : shared.plainStep scratch statement choice = some (after, .ok next)) :
      Transition shared (.publish (.preparing ticket args scratch polled (.plain statement :: rest)) :: below) []
        after (.publish (.preparing ticket args next false rest) :: below)
  | skipped {ticket : ℕ} {args : client.Args} {scratch : client.Scratch} {polled : Bool} {kind : Kind}
      {skip : client.Scratch → Bool} {keep : client.Scratch → Option (client.Message kind) → client.Scratch}
      {rest : List (Statement client.Message client.Scratch)} {below : List (Frame client)}
      (skips : skip scratch = true) :
      Transition shared (.publish (.preparing ticket args scratch polled (.get kind skip keep :: rest)) :: below) []
        shared (.publish (.preparing ticket args scratch false rest) :: below)
  | polls {ticket : ℕ} {args : client.Args} {scratch : client.Scratch} {polled : Bool} {kind : Kind}
      {skip : client.Scratch → Bool} {keep : client.Scratch → Option (client.Message kind) → client.Scratch}
      {rest : List (Statement client.Message client.Scratch)} {below : List (Frame client)} :
      Transition shared (.publish (.preparing ticket args scratch polled (.get kind skip keep :: rest)) :: below) []
        shared (.poll none .enter ::
          .publish (.preparing ticket args scratch true (.get kind skip keep :: rest)) :: below)
  | read {ticket : ℕ} {args : client.Args} {scratch : client.Scratch} {polled : Bool} {kind : Kind}
      {skip : client.Scratch → Bool} {keep : client.Scratch → Option (client.Message kind) → client.Scratch}
      {rest : List (Statement client.Message client.Scratch)} {below : List (Frame client)}
      (reads : skip scratch = false) :
      Transition shared (.publish (.preparing ticket args scratch polled (.get kind skip keep :: rest)) :: below)
        [.read ticket kind (shared.latest kind)] shared
        (.publish (.preparing ticket args (keep scratch (shared.latest kind)) false rest) :: below)
  | reserved {ticket : ℕ} {args : client.Args} {scratch : client.Scratch} {polled : Bool} {commandId : ℤ}
      {below : List (Frame client)} (room : shared.sequence + 1 ≤ UINT64_MAX)
      (numbered : Shared.commandId (client.cmdId args) (shared.sequence + 1) = .ok commandId) :
      Transition shared (.publish (.preparing ticket args scratch polled []) :: below) [] shared
        (.publish (.finishing ticket args scratch (shared.sequence + 1) commandId client.finishing) :: below)
  | finished {ticket : ℕ} {args : client.Args} {scratch next : client.Scratch} {sequence : ℕ} {commandId : ℤ}
      {statement : Plain client.Scratch} {rest : List (Plain client.Scratch)} {below : List (Frame client)}
      {choice : Choice client} {after : Shared client}
      (ran : shared.plainStep scratch statement choice = some (after, .ok next)) :
      Transition shared (.publish (.finishing ticket args scratch sequence commandId (statement :: rest)) :: below)
        [] after (.publish (.finishing ticket args next sequence commandId rest) :: below)
  | committed {ticket : ℕ} {args : client.Args} {scratch : client.Scratch} {sequence : ℕ} {commandId : ℤ}
      {below : List (Frame client)} :
      Transition shared (.publish (.finishing ticket args scratch sequence commandId []) :: below)
        [.consumed ticket sequence] { shared with sequence := sequence }
        (.publish (.late ticket args scratch sequence commandId client.late) :: below)
  | built {ticket : ℕ} {args : client.Args} {scratch next : client.Scratch} {sequence : ℕ} {commandId : ℤ}
      {statement : Plain client.Scratch} {rest : List (Plain client.Scratch)} {below : List (Frame client)}
      {choice : Choice client} {after : Shared client}
      (ran : shared.plainStep scratch statement choice = some (after, .ok next)) :
      Transition shared (.publish (.late ticket args scratch sequence commandId (statement :: rest)) :: below)
        [] after (.publish (.late ticket args next sequence commandId rest) :: below)
  | handed {ticket : ℕ} {args : client.Args} {scratch : client.Scratch} {sequence : ℕ} {commandId : ℤ}
      {below rest : List (Frame client)} {raises : Bool} (stays : Below below rest) :
      Transition shared (.publish (.late ticket args scratch sequence commandId []) :: below)
        [.handed ticket args (client.command scratch sequence commandId) raises] (shared.release below) rest
  | refusedEarly {frame : Frame client} {ticket : ℕ} {error : PyError} {below rest : List (Frame client)}
      (own : frame.ticket = some ticket)
      (early : ∀ args scratch sequence commandId rest,
        frame ≠ .publish (.late ticket args scratch sequence commandId rest))
      (stays : Below below rest) :
      Transition shared (frame :: below) [.refused ticket error] (shared.release below) rest
  | refusedLate {ticket : ℕ} {args : client.Args} {scratch : client.Scratch} {sequence : ℕ} {commandId : ℤ}
      {statement : Plain client.Scratch} {statements : List (Plain client.Scratch)} {error : PyError}
      {below rest : List (Frame client)} {choice : Choice client}
      (ran : shared.plainStep scratch statement choice = some (shared, .error error)) (stays : Below below rest) :
      Transition shared (.publish (.late ticket args scratch sequence commandId (statement :: statements)) :: below)
        [.refused ticket error] (shared.release below) rest

/-- The frames that an answer leaves on top of the frames below. -/
def Answer.frames : Answer client → List (Frame client)
  | .stay frame => [frame]
  | .push frame called => [called, frame]
  | .pop _ => []

theorem Answer.stack_below (answer : Answer client) (below : List (Frame client)) :
    ∃ rest, Below below rest ∧ answer.stack below = answer.frames ++ rest := by
  cases answer with
  | stay frame => exact ⟨below, .inl rfl, rfl⟩
  | push frame called => exact ⟨below, .inl rfl, rfl⟩
  | pop polled => exact ⟨_, .inr ⟨polled, rfl⟩, rfl⟩

/-- An outcome that leaves all publishes alone. -/
structure Quiet (shared : Shared client) (outcome : Shared.Outcome client) : Prop where
  same : Untouched shared outcome.1
  silent : ∀ event ∈ outcome.2.2, event.ticket = none
  unheld : ∀ frame ∈ outcome.2.1.frames, frame.ticket = none

/-- An outcome that leaves the feedback cache alone too. -/
structure Calm (shared : Shared client) (outcome : Shared.Outcome client) : Prop extends Quiet shared outcome where
  kept : Kept shared outcome.1 outcome.2.2
  genuine : ∀ frame ∈ outcome.2.1.frames, frame.Genuine

variable {shared : Shared client} {outcome next : Shared.Outcome client}

theorem Quiet.transition (quiet : Quiet shared outcome) {frame : Frame client} (other : frame.isPublish = false)
    (below : List (Frame client)) :
    Transition shared (frame :: below) outcome.2.2 outcome.1 (outcome.2.1.stack below) := by
  obtain ⟨rest, stays, split⟩ := outcome.2.1.stack_below below
  rw [split]
  exact .quiet other quiet.same quiet.silent quiet.unheld stays

theorem Calm.reception (calm : Calm shared outcome) (frame : Frame client) (below : List (Frame client)) :
    Reception shared (frame :: below) outcome.2.2 outcome.1 (outcome.2.1.stack below) := by
  obtain ⟨rest, stays, split⟩ := outcome.2.1.stack_below below
  rw [split]
  exact .kept calm.kept calm.genuine stays

theorem Kept.refl (shared : Shared client) : Kept shared shared [] := ⟨rfl, id, id, by simp, by simp, by simp⟩

/-- A call that returns or raises leaves the client alone. -/
theorem calm_pop (polled : Bool) {event : Event client} (unticketed : event.ticket = none)
    (answers : event.isDelivery = false) (records : event ≠ .failed) : Calm shared (shared, .pop polled, [event]) where
  same := .refl _
  silent := by simpa using unticketed
  unheld := by simp [Answer.frames]
  kept := by
    refine ⟨rfl, id, id, by simpa using answers, fun failed => ?_, fun ticket kind entry read => ?_⟩
    · exact absurd (List.mem_singleton.mp failed).symm records
    · rw [← List.mem_singleton.mp read] at unticketed
      cases unticketed
  genuine := by simp [Answer.frames]

/-- A step without events leaves the client alone. -/
theorem calm_quiet {answer : Answer client} (unheld : ∀ frame ∈ answer.frames, frame.ticket = none)
    (genuine : ∀ frame ∈ answer.frames, frame.Genuine) : Calm shared (shared, answer, []) where
  same := .refl _
  silent := by simp
  unheld := unheld
  kept := .refl _
  genuine := genuine

theorem calm_stay {frame : Frame client} (unheld : frame.ticket = none) (genuine : frame.Genuine) :
    Calm shared (shared, .stay frame, []) :=
  calm_quiet (by simpa [Answer.frames] using unheld) (by simpa [Answer.frames] using genuine)

theorem calm_push {frame called : Frame client} (unheld : frame.ticket = none) (unheld' : called.ticket = none)
    (genuine : frame.Genuine) (genuine' : called.Genuine) : Calm shared (shared, .push frame called, []) :=
  calm_quiet (by simpa [Answer.frames] using ⟨unheld', unheld⟩) (by simpa [Answer.frames] using ⟨genuine', genuine⟩)

theorem guarded_calm (calm : Calm shared next) : Calm shared (shared.guarded next) := by
  unfold Shared.guarded
  split
  · exact calm_pop true rfl rfl nofun
  · exact calm

theorem getStep_calm {kind : Kind} {polled : Bool} {choice : Choice client}
    (stepped : shared.getStep kind polled choice = some outcome) : Calm shared outcome := by
  cases choice with
  | go =>
      obtain rfl := Option.some.inj stepped
      refine guarded_calm ?_
      split
      · exact calm_push rfl rfl trivial trivial
      · exact calm_pop true rfl rfl nofun
  | raise | spoil | expire | clock | call => simp [Shared.getStep] at stepped

theorem keepWaiting_calm (kind : Kind) (request : WaitRequest) :
    Calm shared (Shared.testWait.keepWaiting kind request shared) := by
  unfold Shared.testWait.keepWaiting
  split
  · exact calm_push rfl rfl trivial trivial
  · exact calm_stay rfl trivial

theorem testWait_calm {kind : Kind} {request : WaitRequest} {choice : Choice client}
    (stepped : shared.testWait kind request choice = some outcome) : Calm shared outcome := by
  cases choice with
  | go =>
      simp only [Shared.testWait] at stepped
      split at stepped <;> obtain rfl := Option.some.inj stepped
      · exact guarded_calm (calm_pop true rfl rfl nofun)
      · exact guarded_calm (keepWaiting_calm kind request)
  | expire =>
      simp only [Shared.testWait, Option.ite_none_left_eq_some, Option.some.injEq] at stepped
      obtain ⟨-, rfl⟩ := stepped
      exact guarded_calm (calm_pop true rfl rfl nofun)
  | raise =>
      simp only [Shared.testWait, Option.ite_none_right_eq_some, Option.some.injEq] at stepped
      obtain ⟨-, rfl⟩ := stepped
      exact guarded_calm (keepWaiting_calm kind request)
  | spoil | clock | call => simp [Shared.testWait] at stepped

theorem waitStep_calm {kind : Kind} {request : WaitRequest} {phase : WaitPhase} {choice : Choice client}
    (stepped : shared.waitStep kind request phase choice = some outcome) : Calm shared outcome := by
  have stay (phase : WaitPhase) : Calm shared (shared, .stay (.wait kind request phase), []) :=
    calm_stay rfl trivial
  unfold Shared.waitStep at stepped
  split at stepped
  · split at stepped <;> obtain rfl := Option.some.inj stepped
    · exact calm_pop true rfl rfl nofun
    · exact stay .loop
  · split at stepped
    · split at stepped
      · obtain rfl := Option.some.inj stepped
        exact guarded_calm (calm_push rfl rfl trivial trivial)
      · cases stepped
    · exact testWait_calm stepped
  · exact testWait_calm stepped
  · obtain rfl := Option.some.inj stepped
    exact stay .loop
  · obtain rfl := Option.some.inj stepped
    exact guarded_calm (stay .loop)
  · cases stepped

theorem take_calm (waiting : Option Kind) (kind : Kind) (todo : List Kind) (view : client.View) :
    Calm shared (shared.take waiting kind todo view) where
  same := ⟨rfl, rfl, rfl⟩
  silent := by simp [Shared.take]
  unheld := by simp [Shared.take, Answer.frames, Frame.ticket]
  kept := ⟨rfl, id, id, by simp [Shared.take], by simp [Shared.take], by simp [Shared.take]⟩
  genuine := by simp [Shared.take, Answer.frames, Frame.Genuine]

theorem pollStep_calm {below : List (Frame client)} {waiting : Option Kind} {phase : PollPhase}
    {choice : Choice client} (stepped : shared.pollStep below waiting phase choice = some outcome) :
    Calm shared outcome := by
  unfold Shared.pollStep at stepped
  split at stepped
  · split at stepped <;> obtain rfl := Option.some.inj stepped
    · exact calm_quiet (by simp [Answer.frames]) (by simp [Answer.frames])
    · exact ⟨⟨⟨rfl, rfl, rfl⟩, by simp, by simp [Answer.frames, Frame.ticket]⟩,
        ⟨rfl, id, id, by simp, by simp, by simp⟩, by simp [Answer.frames, Frame.Genuine]⟩
  · obtain rfl := Option.some.inj stepped
    exact ⟨⟨⟨rfl, rfl, rfl⟩, by simp, by simp [Answer.frames]⟩, ⟨rfl, id, id, by simp, by simp, by simp⟩,
      by simp [Answer.frames]⟩
  · split at stepped
    · obtain rfl := Option.some.inj stepped
      exact take_calm ..
    · split at stepped <;> obtain rfl := Option.some.inj stepped <;> exact calm_stay rfl trivial
  · obtain ⟨view, -, rfl⟩ := Option.map_eq_some_iff.mp stepped
    exact take_calm ..
  · obtain rfl := Option.some.inj stepped
    exact calm_stay rfl trivial
  -- What raises in a poll is recorded.
  iterate 4
    obtain rfl := Option.some.inj stepped
    exact ⟨⟨⟨rfl, rfl, rfl⟩, by simp [Event.ticket], by simp [Answer.frames, Frame.ticket]⟩,
      ⟨rfl, fun _ => rfl, id, by simp [Event.isDelivery], fun _ => rfl, by simp⟩,
      by simp [Answer.frames, Frame.Genuine]⟩
  · cases stepped

theorem closeStep_calm {below : List (Frame client)} {choice : Choice client}
    (stepped : shared.closeStep below choice = some outcome) : Calm shared outcome := by
  cases choice with
  | go =>
      simp only [Shared.closeStep, Option.ite_none_left_eq_some, Option.some.injEq] at stepped
      obtain ⟨-, rfl⟩ := stepped
      exact ⟨⟨⟨rfl, rfl, rfl⟩, by simp, by simp [Answer.frames]⟩,
        ⟨rfl, id, fun _ => rfl, by simp, by simp, by simp⟩, by simp [Answer.frames]⟩
  | raise | spoil | expire | clock | call => simp [Shared.closeStep] at stepped

/-- A delivery is quiet for the publishes and takes one of the receptions of a delivery. -/
theorem receiveStep_cases {kind : Kind} {stored : Bool} {phase : ReceivePhase client kind}
    {choice : Choice client} (below : List (Frame client))
    (stepped : shared.receiveStep kind stored phase choice = some outcome) :
    Quiet shared outcome ∧
      Reception shared (.receive kind stored phase :: below) outcome.2.2 outcome.1 (outcome.2.1.stack below) := by
  have calm (result : Shared.Outcome client) (isCalm : Calm shared result) : Quiet shared result ∧
      Reception shared (.receive kind stored phase :: below) result.2.2 result.1 (result.2.1.stack below) :=
    ⟨isCalm.toQuiet, isCalm.reception _ below⟩
  have popped : Calm shared (shared, (.pop true : Answer client), []) :=
    calm_quiet (by simp [Answer.frames]) (by simp [Answer.frames])
  have fails : Quiet shared (shared, .stay (.receive kind stored .fail), [.rejected kind stored]) :=
    ⟨.refl _, by simp [Event.ticket], by simp [Answer.frames, Frame.ticket]⟩
  unfold Shared.receiveStep at stepped
  split at stepped
  · split at stepped
    · obtain rfl := Option.some.inj stepped
      exact calm _ popped
    · split at stepped <;> obtain rfl := Option.some.inj stepped
      · rename_i error fails'
        exact ⟨fails, .undecoded fails'⟩
      · rename_i message decodes
        exact ⟨⟨.refl _, by simp, by simp [Answer.frames, Frame.ticket]⟩, .decoded decodes⟩
  · rename_i message
    dsimp only at stepped
    split at stepped
    · obtain rfl := Option.some.inj stepped
      exact calm _ popped
    · split at stepped <;> obtain rfl := Option.some.inj stepped
      · rename_i error disagrees
        exact ⟨fails, .disagreed disagrees⟩
      · rename_i agrees
        dsimp only
        split
        · refine ⟨⟨⟨rfl, rfl, rfl⟩, by simp [Event.ticket], by simp [Answer.frames, Frame.ticket]⟩, ?_⟩
          have genuine : ∀ frame ∈ [(.receive kind true (.calling message) : Frame client)], frame.Genuine := by
            simp [Frame.Genuine]
          exact .stored agrees genuine (.inl rfl)
        · refine ⟨⟨⟨rfl, rfl, rfl⟩, by simp [Event.ticket], by simp [Answer.frames]⟩, ?_⟩
          have genuine : ∀ frame ∈ ([] : List (Frame client)), frame.Genuine := by simp
          exact .stored agrees genuine (.inr ⟨true, rfl⟩)
  · obtain rfl := Option.some.inj stepped
    exact calm _ popped
  · obtain rfl := Option.some.inj stepped
    exact ⟨⟨.refl _, by simp, by simp [Answer.frames, Frame.ticket]⟩, .raised⟩
  · obtain rfl := Option.some.inj stepped
    exact calm _ (calm_push rfl (Frame.frame_unticketed _) trivial (Frame.frame_genuine _))
  · obtain rfl := Option.some.inj stepped
    exact ⟨⟨⟨rfl, rfl, rfl⟩, by simp [Event.ticket], by simp [Answer.frames]⟩, .recorded (.inr ⟨true, rfl⟩)⟩
  · cases stepped

/-- A publish takes one of the transitions of a publish. -/
theorem publishStep_cases {below : List (Frame client)} {phase : PublishPhase client} {choice : Choice client}
    (stepped : shared.publishStep below phase choice = some outcome) :
    Transition shared (.publish phase :: below) outcome.2.2 outcome.1 (outcome.2.1.stack below) := by
  have popped : Below below ((Answer.pop true : Answer client).stack below) := .inr ⟨true, rfl⟩
  cases phase with
  | acquire args =>
      cases choice with
      | go =>
          simp only [Shared.publishStep, Option.ite_none_left_eq_some, Option.some.injEq] at stepped
          obtain ⟨free, rfl⟩ := stepped
          exact .entered (by simpa [imp_iff_not_or] using free)
      | raise | spoil | expire | clock | call => simp [Shared.publishStep] at stepped
  | preparing ticket args scratch polled rest =>
      cases rest with
      | nil =>
          cases choice with
          | go =>
              simp only [Shared.publishStep] at stepped
              split at stepped
              · obtain rfl := Option.some.inj stepped
                exact .refusedEarly rfl (by simp) popped
              · rename_i room
                split at stepped <;> obtain rfl := Option.some.inj stepped
                · exact .refusedEarly rfl (by simp) popped
                · rename_i number numbered
                  exact .reserved (not_lt.mp room) numbered
          | raise | spoil | expire | clock | call => simp [Shared.publishStep] at stepped
      | cons statement rest =>
          cases statement with
          | plain statement =>
              simp only [Shared.publishStep, Option.map_eq_some_iff] at stepped
              obtain ⟨⟨after, result⟩, ran, rfl⟩ := stepped
              cases result with
              | ok next => exact .checked ran
              | error error =>
                  obtain rfl := plainStep_error ran
                  exact .refusedEarly rfl (by simp) popped
          | get kind skip keep =>
              cases choice with
              | go =>
                  simp only [Shared.publishStep] at stepped
                  split at stepped
                  · rename_i skips
                    obtain rfl := Option.some.inj stepped
                    exact .skipped skips
                  · rename_i reads
                    split at stepped
                    · obtain rfl := Option.some.inj stepped
                      exact .refusedEarly rfl (by simp) popped
                    · split at stepped <;> obtain rfl := Option.some.inj stepped
                      · exact .polls
                      · exact .read (by simpa using reads)
              | raise | spoil | expire | clock | call => simp [Shared.publishStep] at stepped
  | finishing ticket args scratch sequence commandId rest =>
      cases rest with
      | nil =>
          cases choice with
          | go =>
              obtain rfl := Option.some.inj stepped
              exact .committed
          | raise | spoil | expire | clock | call => simp [Shared.publishStep] at stepped
      | cons statement rest =>
          simp only [Shared.publishStep, Option.map_eq_some_iff] at stepped
          obtain ⟨⟨after, result⟩, ran, rfl⟩ := stepped
          cases result with
          | ok next => exact .finished ran
          | error error =>
              obtain rfl := plainStep_error ran
              exact .refusedEarly rfl (by simp) popped
  | late ticket args scratch sequence commandId rest =>
      cases rest with
      | nil =>
          cases choice with
          | go | raise =>
              obtain rfl := Option.some.inj stepped
              exact .handed popped
          | spoil | expire | clock | call => simp [Shared.publishStep] at stepped
      | cons statement rest =>
          simp only [Shared.publishStep, Option.map_eq_some_iff] at stepped
          obtain ⟨⟨after, result⟩, ran, rfl⟩ := stepped
          cases result with
          | ok next => exact .built ran
          | error error =>
              obtain rfl := plainStep_error ran
              exact .refusedLate ran popped

/-- Every step of a thread is one of the transitions. -/
theorem step_cases {stack next : List (Frame client)} {choice : Choice client} {events : List (Event client)}
    {after : Shared client} (stepped : shared.step stack choice = some (after, next, events)) :
    Transition shared stack events after next := by
  cases stack with
  | nil => cases stepped
  | cons frame below =>
      simp only [Shared.step, Option.map_eq_some_iff, Prod.mk.injEq] at stepped
      obtain ⟨outcome, stepped, rfl, rfl, rfl⟩ := stepped
      cases frame with
      | get kind polled => exact (getStep_calm stepped).transition rfl below
      | wait kind request phase => exact (waitStep_calm stepped).transition rfl below
      | poll waiting phase => exact (pollStep_calm stepped).transition rfl below
      | receive kind stored phase => exact (receiveStep_cases below stepped).1.transition rfl below
      | publish phase => exact publishStep_cases stepped
      | close => exact (closeStep_calm stepped).transition rfl below

/-- A plain statement of a publish leaves the feedback cache alone. -/
theorem plainStep_kept {after : Shared client} {scratch : client.Scratch} {statement : Plain client.Scratch}
    {choice : Choice client} {result : Except PyError client.Scratch}
    (ran : shared.plainStep scratch statement choice = some (after, result)) : Kept shared after [] := by
  obtain ⟨-, latest, failed, closed⟩ := plainStep_untouched ran
  exact ⟨latest, fun before => by rw [failed, before], fun before => by rw [closed, before], by simp, by simp, by simp⟩

/-- A publish leaves the feedback cache alone. -/
theorem Transition.reception {phase : PublishPhase client} {below next : List (Frame client)}
    {events : List (Event client)} {after : Shared client}
    (transition : Transition shared (.publish phase :: below) events after next) :
    Reception shared (.publish phase :: below) events after next := by
  have stay (phase' : PublishPhase client) (kept : Kept shared after events) :
      Reception shared (.publish phase :: below) events after ([.publish phase'] ++ below) :=
    .kept kept (by simp [Frame.Genuine]) (.inl rfl)
  have pop {rest : List (Frame client)} (kept : Kept shared after events) (stays : Below below rest) :
      Reception shared (.publish phase :: below) events after ([] ++ rest) :=
    .kept kept (by simp) stays
  cases transition with
  | quiet other => cases other
  | entered => exact stay _ ⟨rfl, id, id, by simp, by simp, by simp⟩
  | checked ran | finished ran | built ran => exact stay _ (plainStep_kept ran)
  | skipped | reserved => exact stay _ (.refl _)
  | @polls ticket args scratch polled kind skip keep rest below =>
      have genuine : ∀ frame ∈ [Frame.poll none .enter,
          .publish (.preparing ticket args scratch true (.get kind skip keep :: rest))], frame.Genuine := by
        simp [Frame.Genuine]
      exact .kept (.refl _) genuine (.inl rfl)
  | read =>
      refine stay _ ⟨rfl, id, id, by simp [Event.isDelivery], by simp, fun ticket kind entry member => ?_⟩
      cases List.mem_singleton.mp member
      rfl
  | committed => exact stay _ ⟨rfl, id, id, by simp [Event.isDelivery], by simp, by simp⟩
  | handed stays => exact pop ⟨rfl, id, id, by simp [Event.isDelivery], by simp, by simp⟩ stays
  | refusedEarly own early stays => exact pop ⟨rfl, id, id, by simp [Event.isDelivery], by simp, by simp⟩ stays
  | refusedLate ran stays => exact pop ⟨rfl, id, id, by simp [Event.isDelivery], by simp, by simp⟩ stays

/-- Every step of a thread is one of the receptions. -/
theorem step_reception {stack next : List (Frame client)} {choice : Choice client} {events : List (Event client)}
    {after : Shared client} (stepped : shared.step stack choice = some (after, next, events)) :
    Reception shared stack events after next := by
  cases stack with
  | nil => cases stepped
  | cons frame below =>
      simp only [Shared.step, Option.map_eq_some_iff, Prod.mk.injEq] at stepped
      obtain ⟨outcome, stepped, rfl, rfl, rfl⟩ := stepped
      cases frame with
      | get kind polled => exact (getStep_calm stepped).reception _ below
      | wait kind request phase => exact (waitStep_calm stepped).reception _ below
      | poll waiting phase => exact (pollStep_calm stepped).reception _ below
      | receive kind stored phase => exact (receiveStep_cases below stepped).2
      | publish phase => exact (publishStep_cases stepped).reception
      | close => exact (closeStep_calm stepped).reception _ below

end HumanoidSdk.EndEffector
