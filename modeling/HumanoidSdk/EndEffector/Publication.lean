import HumanoidSdk.EndEffector.Account

/-
This file shows that `_publish_lock` guards the command sequence of a client. The lock is re-entrant,
so its holder may have several publishes on its stack; all but the top one wait in a poll before they
take their sequence.
-/

namespace HumanoidSdk.EndEffector
open Foundation

variable {client : Client} (post : Post client)

/-- A publish without `cmd_id` numbers its command by its sequence. -/
def Numbered (args : client.Args) (sequence : ℕ) (commandId : ℤ) : Prop :=
  client.cmdId args = .none → commandId = (sequence % 2 ^ 16 : ℕ)

/-- The log consumes 1, 2, 3, … and hands over what it consumes, up to the pending publish. -/
structure Counted (log : List (Event client)) (shared : Shared client) (pending : List (ℕ × ℕ)) : Prop where
  contiguous : (consumptions log).map Prod.snd = List.range' 1 shared.sequence
  bounded : shared.sequence ≤ UINT64_MAX
  handed : consumptions log = handOvers log ++ pending
  once : (settlements log).Nodup
  known : ∀ event ∈ log, ∀ ticket ∈ event.ticket, ticket ≤ shared.tickets
  correct : Justified (Correct post) log

/-- The sequence that a publish has consumed without handing its command over. -/
def PublishPhase.due : PublishPhase client → List (ℕ × ℕ)
  | .late ticket _ _ sequence _ _ => [(ticket, sequence)]
  | _ => []

/-- A publish that holds the lock has a right to what its remaining statements do. -/
def PublishPhase.Sound (log : List (Event client)) (shared : Shared client) : PublishPhase client → Prop
  | .acquire _ => True
  | .preparing ticket args scratch _ rest =>
      ticket ∉ settlements log ∧ PreparingFor post args rest (readsOf ticket log) scratch
  | .finishing ticket args scratch sequence commandId rest =>
      ticket ∉ settlements log ∧ sequence = shared.sequence + 1 ∧ sequence ≤ UINT64_MAX ∧
        Numbered args sequence commandId ∧ FinishingFor post args (readsOf ticket log) rest scratch
  | .late ticket args scratch sequence commandId rest =>
      sequence = shared.sequence ∧ Numbered args sequence commandId ∧
        LateFor post args (readsOf ticket log) rest scratch

/-- A frame below the top is no publish that has taken its sequence. -/
def Frame.Waits (log : List (Event client)) : Frame client → Prop
  | .publish (.preparing ticket args scratch _ rest) =>
      ticket ∉ settlements log ∧ PreparingFor post args rest (readsOf ticket log) scratch
  | .publish (.finishing ..) | .publish (.late ..) => False
  | _ => True

/-- All publishes of a stack wait. -/
structure Parked (log : List (Event client)) (shared : Shared client) (stack : List (Frame client)) : Prop where
  issued : ∀ ticket ∈ stack.filterMap Frame.ticket, ticket ≤ shared.tickets
  distinct : (stack.filterMap Frame.ticket).Nodup
  waits : ∀ frame ∈ stack, frame.Waits post log

/-- The publish on top of a stack holds the lock. -/
structure Busy (log : List (Event client)) (shared : Shared client) (phase : PublishPhase client) (ticket : ℕ)
    (below : List (Frame client)) : Prop where
  own : (Frame.publish phase).ticket = some ticket
  counted : Counted post log shared phase.due
  issued : ticket ≤ shared.tickets
  fresh : ticket ∉ below.filterMap Frame.ticket
  sound : phase.Sound post log shared
  parked : Parked post log shared below

/-- What the holder of the lock owns. -/
inductive Held (log : List (Event client)) (shared : Shared client) : List (Frame client) → Prop
  | parked {stack : List (Frame client)} (counted : Counted post log shared [])
      (parked : Parked post log shared stack) : Held log shared stack
  | busy {phase : PublishPhase client} {ticket : ℕ} {below : List (Frame client)}
      (busy : Busy post log shared phase ticket below) : Held log shared (.publish phase :: below)

/-- The lock of a client is free or held by a thread with a publish in progress. -/
def publishLock (client : Client) : Lock (Shared client) (List (Frame client)) where
  taken shared := shared.publishing
  holds stack := stack.any Frame.holdsPublish

variable {post} {log : List (Event client)} {shared after : Shared client} {pending : List (ℕ × ℕ)}

theorem holds_iff {stack : List (Frame client)} :
    stack.any Frame.holdsPublish = true ↔ stack.filterMap Frame.ticket ≠ [] := by
  rw [Ne, List.filterMap_eq_nil_iff, List.any_eq_true]
  push Not
  refine exists_congr fun frame => and_congr_right fun _ => ?_
  rw [Frame.holdsPublish_ticket, Option.isSome_iff_ne_none]

theorem settlements_snoc (once : (settlements log).Nodup) {ticket : ℕ} (unsettled : ticket ∉ settlements log)
    {event : Event client} (settles : event.settlement = some ticket) : (settlements (log ++ [event])).Nodup := by
  rw [settlements_append, settlements_single, settles, Option.toList_some]
  refine List.nodup_append.mpr ⟨once, by simp, fun first member second isSecond => ?_⟩
  rw [List.mem_singleton.mp isSecond]
  exact fun same => unsettled (same ▸ member)

namespace Counted

theorem initial (unused : shared.sequence = 0) : Counted post [] shared [] where
  contiguous := by rw [unused]; rfl
  bounded := by rw [unused]; exact Nat.zero_le _
  handed := rfl
  once := List.nodup_nil
  known := by simp
  correct := .empty

/-- Only the sequence and the bound on the tickets count. -/
theorem moved (counted : Counted post log shared pending) (same : after.sequence = shared.sequence)
    (grown : shared.tickets ≤ after.tickets) : Counted post log after pending where
  contiguous := by rw [same]; exact counted.contiguous
  bounded := by rw [same]; exact counted.bounded
  handed := counted.handed
  once := counted.once
  known event member ticket own := (counted.known event member ticket own).trans grown
  correct := counted.correct

theorem known_append (counted : Counted post log shared pending) {events : List (Event client)}
    (issued : ∀ event ∈ events, ∀ ticket ∈ event.ticket, ticket ≤ shared.tickets) :
    ∀ event ∈ log ++ events, ∀ ticket ∈ event.ticket, ticket ≤ shared.tickets := by
  intro event member
  rcases List.mem_append.mp member with old | new
  · exact counted.known event old
  · exact issued event new

theorem unticketed (counted : Counted post log shared pending) {events : List (Event client)}
    (silent : ∀ event ∈ events, event.ticket = none) : Counted post (log ++ events) shared pending := by
  obtain ⟨consumes, hands, settles, -⟩ := unticketed_uncounted silent
  refine ⟨?_, counted.bounded, ?_, ?_, ?_, ?_⟩
  · rw [consumptions_append, consumes, List.append_nil, counted.contiguous]
  · rw [consumptions_append, handOvers_append, consumes, hands, List.append_nil, List.append_nil, counted.handed]
  · rw [settlements_append, settles, List.append_nil]
    exact counted.once
  · refine counted.known_append fun event member ticket own => ?_
    rw [silent event member] at own
    cases own
  · refine counted.correct.append fun before event after cut => ?_
    have member : event ∈ events := by
      rw [cut]
      exact List.mem_append_right _ List.mem_cons_self
    cases event with
    | handed => cases silent _ member
    | stored | rejected | failed | returned | raised | read | consumed | refused => trivial

variable {ticket : ℕ}

theorem read (counted : Counted post log shared pending) (issued : ticket ≤ shared.tickets) (kind : Kind)
    (entry : Option (client.Message kind)) : Counted post (log ++ [.read ticket kind entry]) shared pending where
  contiguous := by simpa [Event.consumption] using counted.contiguous
  bounded := counted.bounded
  handed := by simpa [Event.consumption, Event.handOver] using counted.handed
  once := by simpa [Event.settlement] using counted.once
  known := counted.known_append (by simpa [Event.ticket] using issued)
  correct := counted.correct.snoc trivial

/-- Storing the next sequence makes its publish the pending one. -/
theorem consumed (counted : Counted post log shared []) {sequence : ℕ} (next : sequence = shared.sequence + 1)
    (room : sequence ≤ UINT64_MAX) (unsettled : ticket ∉ settlements log) (issued : ticket ≤ shared.tickets) :
    Counted post (log ++ [.consumed ticket sequence]) { shared with sequence := sequence }
      [(ticket, sequence)] where
  contiguous := by
    rw [consumptions_append, List.map_append, counted.contiguous, next, List.range'_1_concat, Nat.add_comm]
    rfl
  bounded := room
  handed := by simpa [Event.consumption, Event.handOver] using counted.handed
  once := settlements_snoc counted.once unsettled rfl
  known := counted.known_append (by simpa [Event.ticket] using issued)
  correct := counted.correct.snoc trivial

/-- The pending publish hands its command over. -/
theorem handOver {args : client.Args} {command : client.Command} {raises : Bool}
    (counted : Counted post log shared [(ticket, client.sequenceOf command)]) (issued : ticket ≤ shared.tickets)
    (correct : Correct post log (.handed ticket args command raises)) :
    Counted post (log ++ [.handed ticket args command raises]) shared [] where
  contiguous := by simpa [Event.consumption] using counted.contiguous
  bounded := counted.bounded
  handed := by
    rw [consumptions_append, handOvers_append, counted.handed]
    simp [Event.consumption, Event.handOver]
  once := by simpa [Event.settlement] using counted.once
  known := counted.known_append (by simpa [Event.ticket] using issued)
  correct := counted.correct.snoc correct

theorem refused (counted : Counted post log shared pending) (unsettled : ticket ∉ settlements log)
    (issued : ticket ≤ shared.tickets) (error : PyError) :
    Counted post (log ++ [.refused ticket error]) shared pending where
  contiguous := by simpa [Event.consumption] using counted.contiguous
  bounded := counted.bounded
  handed := by simpa [Event.consumption, Event.handOver] using counted.handed
  once := settlements_snoc counted.once unsettled rfl
  known := counted.known_append (by simpa [Event.ticket] using issued)
  correct := counted.correct.snoc trivial

/-- No event of the log belongs to a ticket that has not been issued. -/
theorem unissued (counted : Counted post log shared pending) (above : shared.tickets < ticket) :
    ticket ∉ settlements log ∧ readsOf ticket log = [] := by
  constructor
  · intro settled
    obtain ⟨event, member, same⟩ := List.mem_filterMap.mp settled
    cases event with
    | consumed | refused =>
        cases same
        exact absurd (counted.known _ member ticket rfl) (not_le.mpr above)
    | read | handed | stored | rejected | failed | returned | raised => cases same
  · refine List.filterMap_eq_nil_iff.mpr fun event member => ?_
    cases event with
    | read reader kind entry =>
        have bound := counted.known _ member reader rfl
        have reads : reader ≠ ticket := by omega
        simp [Event.readBy, reads]
    | consumed | refused | handed | stored | rejected | failed | returned | raised => rfl

end Counted

theorem Frame.waits_unticketed {frame : Frame client} (unheld : frame.ticket = none) : frame.Waits post log := by
  cases frame with
  | publish phase =>
      cases phase with
      | acquire args => trivial
      | preparing | finishing | late => cases unheld
  | get | wait | poll | receive | close => trivial

/-- Events of no ticket or of another one do not concern a publish that waits. -/
theorem Frame.Waits.elsewhere {frame : Frame client} (waits : frame.Waits post log)
    {events : List (Event client)}
    (apart : ∀ ticket, frame.ticket = some ticket → ticket ∉ settlements events ∧ readsOf ticket events = []) :
    frame.Waits post (log ++ events) := by
  cases frame with
  | publish phase =>
      cases phase with
      | acquire args => trivial
      | preparing ticket args scratch polled rest =>
          obtain ⟨unsettled, ready⟩ := waits
          obtain ⟨silent, unread⟩ := apart ticket rfl
          refine ⟨?_, ?_⟩
          · rw [settlements_append, List.mem_append, not_or]
            exact ⟨unsettled, silent⟩
          · rwa [readsOf_append, unread, List.append_nil]
      | finishing | late => exact waits
  | get | wait | poll | receive | close => trivial

namespace Parked

variable {below rest top : List (Frame client)} {events : List (Event client)}

theorem tail {frame : Frame client} (parked : Parked post log shared (frame :: below)) :
    Parked post log shared below := by
  have part : (below.filterMap Frame.ticket).Sublist ((frame :: below).filterMap Frame.ticket) :=
    (List.sublist_cons_self frame below).filterMap _
  exact ⟨fun ticket member => parked.issued ticket (part.subset member), parked.distinct.sublist part,
    fun other member => parked.waits other (List.mem_cons_of_mem _ member)⟩

/-- Frames without a ticket may be added on top. -/
theorem above (parked : Parked post log shared below) (unheld : ∀ frame ∈ top, frame.ticket = none) :
    Parked post log shared (top ++ below) := by
  have same : (top ++ below).filterMap Frame.ticket = below.filterMap Frame.ticket := by
    rw [List.filterMap_append, List.filterMap_eq_nil_iff.mpr unheld, List.nil_append]
  refine ⟨by rw [same]; exact parked.issued, by rw [same]; exact parked.distinct, fun frame member => ?_⟩
  rcases List.mem_append.mp member with new | old
  · exact Frame.waits_unticketed (unheld frame new)
  · exact parked.waits frame old

/-- A wait below that learns the result of its poll is no publish. -/
theorem stays (parked : Parked post log shared below) (stays : Below below rest) :
    Parked post log shared rest := by
  refine ⟨by rw [stays.tickets]; exact parked.issued, by rw [stays.tickets]; exact parked.distinct, ?_⟩
  intro frame member
  cases publish : frame.isPublish with
  | true => exact parked.waits frame ((stays.publishes publish).mp member)
  | false =>
      refine Frame.waits_unticketed ?_
      cases ticketed : frame.ticket with
      | none => rfl
      | some ticket => rw [Frame.isPublish_of_ticket ticketed] at publish; cases publish

/-- Events that concern no publish of the stack leave it parked. -/
theorem elsewhere (parked : Parked post log shared below) (grown : shared.tickets ≤ after.tickets)
    (apart : ∀ ticket ∈ below.filterMap Frame.ticket, ticket ∉ settlements events ∧ readsOf ticket events = []) :
    Parked post (log ++ events) after below where
  issued ticket member := (parked.issued ticket member).trans grown
  distinct := parked.distinct
  waits frame member := (parked.waits frame member).elsewhere fun ticket own =>
    apart ticket (List.mem_filterMap.mpr ⟨frame, member, own⟩)

end Parked

/-- A holder whose top frame is no publish has only parked ones. -/
theorem Held.quiet {stack : List (Frame client)} (held : Held post log shared stack)
    (idle : ∀ phase, stack.head? = some (.publish phase) → (Frame.publish phase).ticket = none) :
    Counted post log shared [] ∧ Parked post log shared stack := by
  cases held with
  | parked counted parked => exact ⟨counted, parked⟩
  | busy busy =>
      have unheld := idle _ rfl
      rw [busy.own] at unheld
      cases unheld

/-- A holder whose top frame is a publish with a ticket is busy with it. -/
theorem Held.top {phase : PublishPhase client} {ticket : ℕ} {below : List (Frame client)}
    (held : Held post log shared (.publish phase :: below)) (own : (Frame.publish phase).ticket = some ticket) :
    Busy post log shared phase ticket below := by
  cases held with
  | busy busy =>
      obtain rfl := Option.some.inj (busy.own.symm.trans own)
      exact busy
  | parked counted parked =>
      have waits := parked.waits (.publish phase) List.mem_cons_self
      cases phase with
      | acquire args => cases own
      | finishing | late => exact waits.elim
      | preparing ticket' args scratch polled rest =>
          obtain rfl := Option.some.inj own
          refine ⟨rfl, counted, parked.issued _ (by simp [Frame.ticket]), ?_, waits, parked.tail⟩
          exact (List.nodup_cons.mp (by simpa only [List.filterMap_cons, Frame.ticket] using parked.distinct)).1

namespace Busy

variable {phase next : PublishPhase client} {ticket : ℕ} {below rest : List (Frame client)}
  {events : List (Event client)}

/-- The publish on top goes on. -/
theorem step (busy : Busy post log shared phase ticket below) (own : (Frame.publish next).ticket = some ticket)
    (mine : ∀ event ∈ events, event.ticket = some ticket) (same : after.tickets = shared.tickets)
    (counted : Counted post (log ++ events) after next.due) (sound : next.Sound post (log ++ events) after) :
    Busy post (log ++ events) after next ticket below where
  own := own
  counted := counted
  issued := by rw [same]; exact busy.issued
  fresh := busy.fresh
  sound := sound
  parked := busy.parked.elsewhere same.ge fun other member =>
    ticketed_elsewhere mine fun equal => busy.fresh (equal ▸ member)

/-- A step without events leaves a publish on top that has not stored its sequence. -/
theorem advance (busy : Busy post log shared phase ticket below) (own : (Frame.publish next).ticket = some ticket)
    (same : Untouched shared after) (due : next.due = phase.due) (sound : next.Sound post log after) :
    Busy post log after next ticket below := by
  have counted : Counted post (log ++ []) after next.due := by
    rw [List.append_nil, due]
    exact busy.counted.moved same.sequence same.tickets.ge
  have stepped : Busy post (log ++ []) after next ticket below :=
    busy.step own (by simp) same.tickets counted (by rwa [List.append_nil])
  rwa [List.append_nil] at stepped

/-- The publish on top ends and releases the lock unless an outer publish holds it. -/
theorem leave (busy : Busy post log shared phase ticket below)
    (mine : ∀ event ∈ events, event.ticket = some ticket) (counted : Counted post (log ++ events) shared [])
    (stays : Below below rest) :
    (publishLock client).Settles (fun log shared => Counted post log shared []) (Held post) (log ++ events)
      (shared.release below) rest := by
  have same : rest.any Frame.holdsPublish = below.any Frame.holdsPublish := by
    rw [Bool.eq_iff_iff, holds_iff, holds_iff, stays.tickets]
  have released : Counted post (log ++ events) (shared.release below) [] := counted.moved rfl le_rfl
  have parked : Parked post (log ++ events) (shared.release below) below :=
    busy.parked.elsewhere le_rfl fun other member =>
      ticketed_elsewhere mine fun equal => busy.fresh (equal ▸ member)
  cases outer : below.any Frame.holdsPublish with
  | true => exact .inl ⟨outer, same.trans outer, .parked released (parked.stays stays)⟩
  | false => exact .inr ⟨outer, same.trans outer, released⟩

end Busy

variable {stack next : List (Frame client)} {events : List (Event client)}

/-- A new call is outside of the lock. -/
theorem Request.outside (request : Request client) :
    [request.frame].any Frame.holdsPublish = false := by
  cases request with
  | user call => simp [Request.frame, Frame.holdsPublish_ticket, Frame.frame_unticketed]
  | deliver kind view => rfl

/-- A thread outside of the lock takes quiet steps or takes the lock. -/
theorem outside_cases (transition : Transition shared stack events after next)
    (away : stack.any Frame.holdsPublish = false) :
    (Untouched shared after ∧ (∀ event ∈ events, event.ticket = none) ∧ next.any Frame.holdsPublish = false) ∨
      ∃ args below, stack = .publish (.acquire args) :: below ∧ shared.publishing = false ∧ events = [] ∧
        after = { shared with publishing := true, tickets := shared.tickets + 1 } ∧
        next = .publish (.preparing (shared.tickets + 1) args (client.start args) false client.preparing) :: below := by
  have unheld : stack.filterMap Frame.ticket = [] := by
    by_contra some
    rw [holds_iff.mpr some] at away
    cases away
  cases transition with
  | @quiet frame below top rest events after other same silent unheld' stays =>
      refine .inl ⟨same, silent, ?_⟩
      have empty : (top ++ rest).filterMap Frame.ticket = [] := by
        rw [List.filterMap_append, List.filterMap_eq_nil_iff.mpr unheld', List.nil_append, stays.tickets]
        exact List.filterMap_eq_nil_iff.mpr fun frame member =>
          List.filterMap_eq_nil_iff.mp unheld frame (List.mem_cons_of_mem _ member)
      rw [← Bool.not_eq_true, holds_iff, not_not]
      exact empty
  | @entered args below free =>
      refine .inr ⟨args, below, rfl, free.resolve_right fun holds => ?_, rfl, rfl, rfl⟩
      rw [List.any_cons, holds] at away
      simp at away
  | @refusedEarly frame ticket error below rest own early stays =>
      exact absurd unheld (by simp [own])
  | checked | skipped | polls | read | reserved | finished | committed | built | handed | refusedLate =>
      exact absurd unheld (by simp [Frame.ticket])

theorem Counted.acquired (counted : Counted post log shared []) :
    Counted post log { shared with publishing := true, tickets := shared.tickets + 1 } [] :=
  counted.moved rfl (Nat.le_succ _)

/-- A publish that has just taken the lock has a new ticket. -/
theorem Counted.enters (counted : Counted post log shared []) (establishes : client.Establishes post)
    {below : List (Frame client)} (parked : Parked post log shared below) (args : client.Args) :
    Busy post log { shared with publishing := true, tickets := shared.tickets + 1 }
      (.preparing (shared.tickets + 1) args (client.start args) false client.preparing) (shared.tickets + 1)
      below where
  own := rfl
  counted := counted.acquired
  issued := le_rfl
  fresh member := absurd (parked.issued _ member) (by omega)
  sound := by
    obtain ⟨unsettled, unread⟩ := counted.unissued (Nat.lt_succ_self shared.tickets)
    refine ⟨unsettled, ?_⟩
    rw [unread]
    exact establishes args
  parked := ⟨fun ticket member => (parked.issued ticket member).trans (Nat.le_succ _), parked.distinct,
    parked.waits⟩

/-- The lock settles with a busy publish on top. -/
theorem Busy.settles {phase : PublishPhase client} {ticket : ℕ} {below : List (Frame client)}
    (busy : Busy post log shared phase ticket below) (taken : shared.publishing = true) :
    (publishLock client).Settles (fun log shared => Counted post log shared []) (Held post) log shared
      (.publish phase :: below) := by
  refine .inl ⟨taken, holds_iff.mpr ?_, .busy busy⟩
  rw [List.filterMap_cons, busy.own]
  exact List.cons_ne_nil _ _

/-- A publish that polls waits below the poll. -/
theorem Busy.park {ticket : ℕ} {args : client.Args} {scratch : client.Scratch} {polled : Bool}
    {rest : List (Statement client.Message client.Scratch)} {below : List (Frame client)}
    (busy : Busy post log shared (.preparing ticket args scratch polled rest) ticket below) (again : Bool) :
    Parked post log shared (.publish (.preparing ticket args scratch again rest) :: below) := by
  refine ⟨fun other member => ?_, ?_, fun frame member => ?_⟩
  · rcases List.mem_cons.mp member with rfl | old
    · exact busy.issued
    · exact busy.parked.issued other old
  · exact List.nodup_cons.mpr ⟨busy.fresh, busy.parked.distinct⟩
  · rcases List.mem_cons.mp member with rfl | old
    · exact busy.sound
    · exact busy.parked.waits frame old

/-- A quiet step of the holder leaves its publishes waiting. -/
theorem Held.quiet_step {frame : Frame client} {below top rest : List (Frame client)}
    (held : Held post log shared (frame :: below)) (taken : shared.publishing = true)
    (holding : (frame :: below).any Frame.holdsPublish = true) (other : frame.isPublish = false)
    (same : Untouched shared after) (silent : ∀ event ∈ events, event.ticket = none)
    (unheld : ∀ frame ∈ top, frame.ticket = none) (stays : Below below rest) :
    (publishLock client).Settles (fun log shared => Counted post log shared []) (Held post) (log ++ events) after
      (top ++ rest) := by
  have unticketed : frame.ticket = none := by
    cases frame with
    | publish phase => cases other
    | get | wait | poll | receive | close => rfl
  obtain ⟨counted, parked⟩ := held.quiet fun phase isTop => by
    obtain rfl := Option.some.inj isTop
    exact unticketed
  obtain ⟨-, -, settles, reads⟩ := unticketed_uncounted silent
  have kept : Parked post (log ++ events) after (top ++ rest) := by
    refine Parked.above (Parked.stays (parked.tail.elsewhere same.tickets.ge fun ticket _ => ?_) stays) unheld
    exact ⟨by rw [settles]; exact List.not_mem_nil, reads ticket⟩
  have still : (top ++ rest).any Frame.holdsPublish = true := by
    rw [holds_iff, List.filterMap_cons, unticketed] at holding
    rw [holds_iff, List.filterMap_append, List.filterMap_eq_nil_iff.mpr unheld, List.nil_append, stays.tickets]
    exact holding
  exact .inl ⟨same.publishing.trans taken, still,
    .parked ((counted.unticketed silent).moved same.sequence same.tickets.ge) kept⟩

/-- Every step of the holder keeps what it owns or gives it back. -/
theorem Held.inside (held : Held post log shared stack) (establishes : client.Establishes post)
    (taken : shared.publishing = true) (holding : stack.any Frame.holdsPublish = true)
    (transition : Transition shared stack events after next) :
    (publishLock client).Settles (fun log shared => Counted post log shared []) (Held post) (log ++ events) after
      next := by
  cases transition with
  | quiet other same silent unheld stays =>
      exact held.quiet_step taken holding other same silent unheld stays
  | @entered args below free =>
      obtain ⟨counted, parked⟩ := held.quiet fun phase isTop => by
        cases isTop
        rfl
      rw [List.append_nil]
      exact (counted.enters establishes parked.tail args).settles rfl
  | @checked ticket args scratch next polled statement rest below choice after ran =>
      have busy := held.top rfl
      have same := (plainStep_untouched ran).1
      have advanced : Busy post log after (.preparing ticket args next false rest) ticket below :=
        busy.advance rfl same rfl
          ⟨busy.sound.1, busy.sound.2 (readsOf ticket log, next) ⟨rfl, plainStep_next ran⟩⟩
      rw [List.append_nil]
      exact advanced.settles (same.publishing.trans taken)
  | @skipped ticket args scratch polled kind skip keep rest below skips =>
      have busy := held.top rfl
      have advanced : Busy post log shared (.preparing ticket args scratch false rest) ticket below :=
        busy.advance rfl (.refl _) rfl
          ⟨busy.sound.1, busy.sound.2 (readsOf ticket log, scratch) (.inl ⟨skips, rfl⟩)⟩
      rw [List.append_nil]
      exact advanced.settles taken
  | @polls ticket args scratch polled kind skip keep rest below =>
      have busy := held.top rfl
      have parked : Parked post log shared ([.poll none .enter] ++
          .publish (.preparing ticket args scratch true (.get kind skip keep :: rest)) :: below) :=
        (busy.park true).above (by simp [Frame.ticket])
      rw [List.append_nil]
      exact .inl ⟨taken, by simp [publishLock, Frame.holdsPublish], .parked busy.counted parked⟩
  | @read ticket args scratch polled kind skip keep rest below reads =>
      have busy := held.top rfl
      have stepped : Busy post (log ++ [.read ticket kind (shared.latest kind)]) shared
          (.preparing ticket args (keep scratch (shared.latest kind)) false rest) ticket below := by
        refine busy.step rfl (by simp [Event.ticket]) rfl (busy.counted.read busy.issued kind _) ⟨?_, ?_⟩
        · simpa [Event.settlement] using busy.sound.1
        · rw [readsOf_append, readsOf_single, Event.readBy, if_pos rfl]
          exact busy.sound.2 _ (.inr ⟨reads, _, rfl⟩)
      exact stepped.settles taken
  | @reserved ticket args scratch polled commandId below room numbered =>
      have busy := held.top rfl
      have number : Numbered args (shared.sequence + 1) commandId := by
        intro unset
        rw [unset, Shared.commandId, Except.ok.injEq] at numbered
        exact numbered.symm
      have advanced : Busy post log shared
          (.finishing ticket args scratch (shared.sequence + 1) commandId client.finishing) ticket below :=
        busy.advance rfl (.refl _) rfl ⟨busy.sound.1, rfl, room, number, busy.sound.2⟩
      rw [List.append_nil]
      exact advanced.settles taken
  | @finished ticket args scratch next sequence commandId statement rest below choice after ran =>
      have busy := held.top rfl
      have same := (plainStep_untouched ran).1
      obtain ⟨unsettled, isNext, room, numbered, need⟩ := busy.sound
      have advanced : Busy post log after (.finishing ticket args next sequence commandId rest) ticket below :=
        busy.advance rfl same rfl
          ⟨unsettled, by rw [same.sequence]; exact isNext, room, numbered, need next (plainStep_next ran)⟩
      rw [List.append_nil]
      exact advanced.settles (same.publishing.trans taken)
  | @committed ticket args scratch sequence commandId below =>
      have busy := held.top rfl
      obtain ⟨unsettled, isNext, room, numbered, need⟩ := busy.sound
      have stepped : Busy post (log ++ [.consumed ticket sequence]) { shared with sequence := sequence }
          (.late ticket args scratch sequence commandId client.late) ticket below := by
        refine busy.step rfl (by simp [Event.ticket]) rfl
          (busy.counted.consumed isNext room unsettled busy.issued) ⟨rfl, numbered, ?_⟩
        have unread : readsOf ticket [(.consumed ticket sequence : Event client)] = [] := rfl
        rw [readsOf_append, unread, List.append_nil]
        exact need
      exact stepped.settles taken
  | @built ticket args scratch next sequence commandId statement rest below choice after ran =>
      have busy := held.top rfl
      have same := (plainStep_untouched ran).1
      obtain ⟨isLast, numbered, need⟩ := busy.sound
      have advanced : Busy post log after (.late ticket args next sequence commandId rest) ticket below :=
        busy.advance rfl same rfl
          ⟨by rw [same.sequence]; exact isLast, numbered, need.2 next (plainStep_next ran)⟩
      rw [List.append_nil]
      exact advanced.settles (same.publishing.trans taken)
  | @handed ticket args scratch sequence commandId below rest raises stays =>
      have busy := held.top rfl
      obtain ⟨isLast, numbered, correct⟩ := busy.sound
      have due : Counted post log shared
          [(ticket, client.sequenceOf (client.command scratch sequence commandId))] := by
        rw [client.sequenceOf_command]
        exact busy.counted
      refine busy.leave (by simp [Event.ticket]) (due.handOver busy.issued ⟨fun unset => ?_, ?_⟩) stays
      · rw [client.cmdIdOf_command, client.sequenceOf_command]
        exact numbered unset
      · exact ⟨scratch, sequence, commandId, correct, rfl⟩
  | @refusedEarly frame ticket error below rest own early stays =>
      cases frame with
      | publish phase =>
          have busy := held.top own
          cases phase with
          | acquire => cases own
          | preparing | finishing =>
              obtain rfl := Option.some.inj own
              exact busy.leave (by simp [Event.ticket]) (busy.counted.refused busy.sound.1 busy.issued error) stays
          | late =>
              obtain rfl := Option.some.inj own
              exact absurd rfl (early _ _ _ _ _)
      | get | wait | poll | receive | close => cases own
  | @refusedLate ticket args scratch sequence commandId statement statements error below rest choice ran stays =>
      have busy := held.top rfl
      exact absurd ran (plainStep_certain busy.sound.2.2.1)

/-- A thread outside of the lock has no publish that could be disturbed. -/
theorem Parked.away (outside : stack.any Frame.holdsPublish = false) : Parked post log shared stack := by
  have unheld : stack.filterMap Frame.ticket = [] := by
    by_contra some
    rw [holds_iff.mpr some] at outside
    cases outside
  exact ⟨by simp [unheld], by simp [unheld],
    fun frame member => Frame.waits_unticketed (List.filterMap_eq_nil_iff.mp unheld frame member)⟩

/-- Other threads do not change what a publish has a right to. -/
theorem PublishPhase.Sound.unticketed {phase : PublishPhase client} (sound : phase.Sound post log shared)
    (same : after.sequence = shared.sequence) (silent : ∀ event ∈ events, event.ticket = none) :
    phase.Sound post (log ++ events) after := by
  obtain ⟨-, -, settles, reads⟩ := unticketed_uncounted silent
  cases phase with
  | acquire args => trivial
  | preparing | finishing | late =>
      simpa only [Sound, settlements_append, settles, readsOf_append, reads, List.append_nil, same] using sound

/-- Other threads do not change what the holder owns. -/
theorem Held.unticketed (held : Held post log shared stack) (same : after.sequence = shared.sequence)
    (grown : shared.tickets ≤ after.tickets) (silent : ∀ event ∈ events, event.ticket = none) :
    Held post (log ++ events) after stack := by
  obtain ⟨-, -, settles, reads⟩ := unticketed_uncounted silent
  have unconcerned (ticket : ℕ) : ticket ∉ settlements events ∧ readsOf ticket events = [] :=
    ⟨by rw [settles]; exact List.not_mem_nil, reads ticket⟩
  cases held with
  | parked counted parked =>
      exact .parked ((counted.unticketed silent).moved same grown)
        (parked.elsewhere grown fun ticket _ => unconcerned ticket)
  | busy busy =>
      exact .busy ⟨busy.own, (busy.counted.unticketed silent).moved same grown, busy.issued.trans grown, busy.fresh,
        busy.sound.unticketed same silent, busy.parked.elsewhere grown fun ticket _ => unconcerned ticket⟩

/-- The lock guards the account of the sequences. -/
theorem publish_disciplined (establishes : client.Establishes post) :
    (publishLock client).Discipline (fun log shared => Counted post log shared []) (Held post)
      (clientProgram client) where
  enter {log shared here events after next} free away counted act := by
    cases act with
    | call ready request =>
        rw [clientProgram, List.append_nil]
        exact .inr ⟨free, request.outside, counted⟩
    | step stepped =>
        rcases outside_cases (step_cases stepped) away with ⟨same, silent, outside⟩ | ⟨args, below, rfl, -, rfl, rfl, rfl⟩
        · exact .inr ⟨same.publishing.trans free, outside,
            (counted.unticketed silent).moved same.sequence same.tickets.ge⟩
        · have parked : Parked post log shared below := (Parked.away away).tail
          rw [List.append_nil]
          exact (counted.enters establishes parked args).settles rfl
  inside {log shared here events after next} taken holding held act := by
    cases act with
    | call ready request =>
        obtain rfl := List.isEmpty_iff.mp ready
        cases holding
    | step stepped => exact held.inside establishes taken holding (step_cases stepped)
  outside {log shared here events after next} taken away act := by
    cases act with
    | call ready request =>
        refine ⟨taken, request.outside, fun there held => ?_⟩
        rw [clientProgram, List.append_nil]
        exact held
    | step stepped =>
        rcases outside_cases (step_cases stepped) away with ⟨same, silent, outside⟩ | ⟨args, below, -, free, -⟩
        · exact ⟨same.publishing.trans taken, outside,
            fun there held => held.unticketed same.sequence same.tickets.ge silent⟩
        · exact absurd (free.symm.trans taken) Bool.false_ne_true
  signalled {log shared} signal := by
    cases signal with
    | arrive kind view =>
        refine ⟨rfl, fun counted => ?_, fun there held => ?_⟩
        · exact (counted.unticketed (by simp [clientProgram])).moved rfl le_rfl
        · exact held.unticketed rfl le_rfl (by simp [clientProgram])

end HumanoidSdk.EndEffector
