import HumanoidSdk.Demo.ExternalTravel
import HumanoidSdk.Foundation.Streak

/-
This file shows what the external demo has checked before it publishes and before a dwell passes.
-/

namespace HumanoidSdk.Demo
open Foundation

namespace ExternalEvent

/-- The state and the time of a comparison with the last state, or of the first clock reading after the entry. -/
def dating : ExternalEvent → Option (ℤ × ℚ)
  | .dated stateId time => some (stateId, time)
  | _ => none

/-- A look at a dwell sample. -/
def look : ExternalEvent → Option (Endpoint × BodyState × ℚ)
  | .observed endpoint state time => some (endpoint, state, time)
  | _ => none

end ExternalEvent

def datings (log : List ExternalEvent) : List (ℤ × ℚ) := log.filterMap ExternalEvent.dating

def looks (log : List ExternalEvent) : List (Endpoint × BodyState × ℚ) := log.filterMap ExternalEvent.look

theorem datings_append (log events : List ExternalEvent) :
    datings (log ++ events) = datings log ++ datings events := List.filterMap_append

theorem looks_append (log events : List ExternalEvent) :
    looks (log ++ events) = looks log ++ looks events := List.filterMap_append

/-- The comparisons with a state since the demo last compared another one. They begin after the entry, where the
clock of the start state is read anew: what the gate saw before does not count. -/
def sightings (stateId : ℤ) (log : List ExternalEvent) : List (ℤ × ℚ) := streak (alike Prod.fst stateId) (datings log)

/-- A look that finds the body at an endpoint. -/
def arrived (info : BodyInfo) (endpoint : Endpoint) (look : Endpoint × BodyState × ℚ) : Bool :=
  decide (look.1 = endpoint) && endpoint.reached info look.2.1

/-- The looks at the end of a log that all find the body at an endpoint. -/
def rests (info : BodyInfo) (endpoint : Endpoint) (log : List ExternalEvent) : List (Endpoint × BodyState × ℚ) :=
  streak (arrived info endpoint) (looks log)

/-- A status agrees with the one of the entry. -/
structure Agrees (status entered : LiveStatus) : Prop where
  same : status.Same entered
  count : status.rejectCount = entered.rejectCount

/-- What comes right before a publication: a status that agrees with the entry, and a state whose first comparison
after the entry is more recent than the window. -/
def Entitled (info : BodyInfo) (log : List ExternalEvent) : ExternalEvent → Prop
  | .published _ stateId _ => ∃ past entered status now,
      log = past ++ [.checked (some status), .dated stateId now] ∧ .entered entered ∈ past ∧
        Agrees status entered ∧ ∀ sighting ∈ sightings stateId log, now - sighting.2 < LOWSTATE_WINDOW_S
  | .settled endpoint => ∃ first ∈ rests info endpoint log, ∃ last ∈ (looks log).getLast?,
      ENDPOINT_SETTLE_S ≤ last.2.2 - first.2.2
  | _ => True

section Publications

/-- The status was checked right before. -/
def Checked (log : List ExternalEvent) (trip : Trip) : Prop :=
  ∃ past status, log = past ++ [.checked (some status)] ∧ .entered trip.entered ∈ past ∧ Agrees status trip.entered

/-- What the checks of a frame have found so far. -/
def Vouched (info : BodyInfo) (log : List ExternalEvent) (trip : Trip) : TripPhase → Prop
  | .receiving _ | .dating _ _ => Checked log trip
  | .publishing joints state => Entitled info log (.published joints state.stateId 0)
  | _ => True

/-- What the trajectory knows of the entry and of the last state. -/
structure Knows (log : List ExternalEvent) (time : ℚ) (entered : LiveStatus) (stateId : ℤ) (change : ℚ) : Prop where
  entered : .entered entered ∈ log
  tracks : Tracks Prod.fst Prod.snd (datings log) stateId change
  past : change ≤ time

variable {info : BodyInfo} {log events : List ExternalEvent} {time now : ℚ} {trip dated : Trip}
  {phase : TripPhase} {next : ExternalRun}

theorem Knows.quiet {entered : LiveStatus} {stateId : ℤ} {change : ℚ}
    (knows : Knows log time entered stateId change) (silent : datings events = []) (forward : time ≤ now) :
    Knows (log ++ events) now entered stateId change := by
  constructor
  · exact List.mem_append_left _ knows.entered
  · rw [datings_append, silent, List.append_nil]
    exact knows.tracks
  · exact knows.past.trans forward

/-- A state that is not stale was first compared less than the window ago. -/
theorem Knows.date (knows : Knows log time trip.entered trip.lastStateId trip.lastStateChange) {state : BodyState}
    (forward : time ≤ now) (fresh : trip.date state now = some dated) :
    dated.entered = trip.entered ∧
      Knows (log ++ [.dated state.stateId now]) now dated.entered dated.lastStateId dated.lastStateChange ∧
      ∀ sighting ∈ sightings state.stateId (log ++ [.dated state.stateId now]),
        now - sighting.2 < LOWSTATE_WINDOW_S := by
  have window : (0 : ℚ) < LOWSTATE_WINDOW_S := by decide +kernel
  have grown : datings (log ++ [.dated state.stateId now]) = datings log ++ [(state.stateId, now)] :=
    datings_append _ _
  have member : .entered trip.entered ∈ log ++ [.dated state.stateId now] := List.mem_append_left _ knows.entered
  unfold Trip.date at fresh
  split at fresh
  · rename_i changed
    cases fresh
    have tracks : Tracks Prod.fst Prod.snd (datings log ++ [(state.stateId, now)]) state.stateId now :=
      knows.tracks.changed changed
    refine ⟨rfl, ⟨member, grown ▸ tracks, le_refl now⟩, fun sighting seen => ?_⟩
    have begun : now ≤ sighting.2 := tracks.since_le sighting (grown ▸ seen)
    linarith
  · rename_i same
    split at fresh
    · cases fresh
    · rename_i recent
      cases fresh
      have tracks : Tracks Prod.fst Prod.snd (datings log ++ [(state.stateId, now)]) trip.lastStateId
          trip.lastStateChange := knows.tracks.same (not_not.mp same) (knows.past.trans forward)
      refine ⟨rfl, ⟨member, grown ▸ tracks, knows.past.trans forward⟩, fun sighting seen => ?_⟩
      have begun : trip.lastStateChange ≤ sighting.2 := by
        apply tracks.since_le sighting
        rw [← not_not.mp same, ← grown]
        exact seen
      linarith [not_le.mp recent]

end Publications

/-- The looks at an endpoint lie between the begin of its dwell and its end. -/
def Ordered : Option Endpoint → List Task → Prop
  | _, [] => True
  | dwell, .frame _ :: rest | dwell, .say :: rest => Ordered dwell rest
  | _, .settle :: rest => ∃ endpoint, Ordered (some endpoint) rest
  | dwell, .observe endpoint :: rest => dwell = some endpoint ∧ Ordered dwell rest
  | dwell, .conclude endpoint :: rest => dwell = some endpoint ∧ Ordered none rest

section Order

theorem ordered_frames {dwell : Option Endpoint} {rest : List Task} (ordered : Ordered dwell rest)
    (path : List (List ℚ)) : Ordered dwell (path.map Task.frame ++ rest) := by
  induction path with
  | nil => exact ordered
  | cons q path ih => exact ih

theorem ordered_dwell {rest : List Task} (ordered : Ordered none rest) (dwell : Option Endpoint) (endpoint : Endpoint) :
    Ordered dwell (dwellTasks endpoint ++ rest) := by
  have samples (count : ℕ) : Ordered (some endpoint)
      ((List.replicate count [Task.frame endpoint.target, .observe endpoint]).flatten ++
        (.conclude endpoint :: rest)) := by
    induction count with
    | zero => exact ⟨rfl, ordered⟩
    | succ count ih =>
        rw [List.replicate_succ, List.flatten_cons, List.append_assoc]
        exact ⟨rfl, ih⟩
  rw [dwellTasks, List.append_assoc, List.cons_append, List.singleton_append]
  exact ⟨endpoint, samples dwellSamples⟩

theorem ordered_trajectory (start : List ℚ) : Ordered none (trajectory start) := by
  unfold trajectory
  simp only [List.cons_append, List.append_assoc, List.nil_append]
  apply ordered_frames
  apply ordered_dwell
  show Ordered none _
  apply ordered_frames
  apply ordered_dwell
  show Ordered none []
  trivial

end Order

section Dwells

/-- What the trajectory knows of the dwell that it is in. -/
structure Dwelling (info : BodyInfo) (log : List ExternalEvent) (time : ℚ) (trip : Trip) (phase : TripPhase)
    (dwell : Option Endpoint) : Prop where
  ordered : Ordered dwell trip.script
  past : ∀ last ∈ (looks log).getLast?, last.2.2 ≤ time
  held : ∀ endpoint ∈ dwell, Held (arrived info endpoint) (fun look => look.2.2) ENDPOINT_SETTLE_S (looks log)
    trip.settledSince trip.settled
  looking : ∀ endpoint, phase = .observing endpoint → dwell = some endpoint

variable {info : BodyInfo} {log events : List ExternalEvent} {time now : ℚ} {trip after : Trip}
  {phase next : TripPhase} {dwell : Option Endpoint}

/-- A statement that looks at nothing. -/
theorem Dwelling.quiet (dwelling : Dwelling info log time trip phase dwell) (forward : time ≤ now)
    (silent : looks events = []) (ordered : Ordered dwell after.script)
    (same : after.settledSince = trip.settledSince ∧ after.settled = trip.settled)
    (looking : ∀ endpoint, next = .observing endpoint → dwell = some endpoint) :
    Dwelling info (log ++ events) now after next dwell := by
  have unseen : looks (log ++ events) = looks log := by rw [looks_append, silent, List.append_nil]
  constructor
  · exact ordered
  · rw [unseen]
    exact fun last isLast => (dwelling.past last isLast).trans forward
  · rw [unseen, same.1, same.2]
    exact dwelling.held
  · exact looking

/-- A look at a dwell sample. -/
theorem Dwelling.look {endpoint : Endpoint} (dwelling : Dwelling info log time trip (.observing endpoint) dwell)
    (forward : time ≤ now) :
    Dwelling info (log ++ [.observed endpoint trip.state now]) now (trip.observe info endpoint now) .tasking dwell := by
  have grown : looks (log ++ [.observed endpoint trip.state now]) = looks log ++ [(endpoint, trip.state, now)] :=
    looks_append _ _
  have here : dwell = some endpoint := dwelling.looking endpoint rfl
  have held := dwelling.held endpoint here
  have later (last : Endpoint × BodyState × ℚ) (isLast : last ∈ (looks log).getLast?) : last.2.2 ≤ now :=
    (dwelling.past last isLast).trans forward
  have same : (trip.observe info endpoint now).script = trip.script := by
    unfold Trip.observe
    split
    · split
      · rfl
      · split
        · rfl
        · rfl
    · rfl
  constructor
  · rw [same]
    exact dwelling.ordered
  · rw [grown]
    intro last isLast
    rw [List.getLast?_concat] at isLast
    obtain rfl := Option.some.inj isLast
    exact le_refl now
  · intro other member
    obtain rfl : endpoint = other := Option.some.inj (here.symm.trans member)
    rw [grown]
    unfold Trip.observe
    by_cases reached : endpoint.reached info trip.state = true
    · have good : arrived info endpoint (endpoint, trip.state, now) = true := by
        rw [arrived, reached, decide_eq_true rfl]
        rfl
      rw [if_pos reached]
      cases known : trip.settledSince with
      | none =>
          have unsettled : trip.settled = false := held.broken known
          show Held _ _ _ _ (some now) trip.settled
          rw [unsettled]
          exact held_first good _
      | some begun =>
          rw [known] at held
          dsimp only
          split
          · rename_i long
            exact held.settle good long
          · rw [known]
            exact held.resume good later
    · rw [if_neg reached]
      exact held_nothing _ _ _ _
  · rintro other ⟨⟩

/-- A dwell passes only after looks that all found the body at the endpoint for long enough. -/
theorem Dwelling.passed {endpoint : Endpoint} {rest : List Task} (dwelling : Dwelling info log time trip phase dwell)
    (task : trip.script = .conclude endpoint :: rest) (settled : trip.settled = true) :
    Entitled info log (.settled endpoint) ∧ Ordered none rest := by
  have ordered := dwelling.ordered
  rw [task] at ordered
  obtain ⟨here, ordered⟩ := ordered
  exact ⟨(dwelling.held endpoint here).spans settled, ordered⟩

end Dwells

section Statements

/-- What the trajectory has checked by a given statement. -/
structure Attended (info : BodyInfo) (log : List ExternalEvent) (time : ℚ) (trip : Trip) (phase : TripPhase) :
    Prop where
  knows : Knows log time trip.entered trip.lastStateId trip.lastStateChange
  vouched : Vouched info log trip phase
  dwelling : ∃ dwell, Dwelling info log time trip phase dwell

/-- What the demo has checked by a given statement. -/
def Watchful (info : BodyInfo) (log : List ExternalEvent) (time : ℚ) : ExternalRun → Prop
  | .describing | .gating _ | .announcing _ | .entering _ => log = []
  | .stamping _ entered => log = [.entered entered]
  | .arming start entered change => Knows log time entered start.stateId change ∧ looks log = []
  | .running trip phase => Attended info log time trip phase
  | .leaving _ | .exiting _ | .reporting _ | .ended _ => True

variable {info : BodyInfo} {log events : List ExternalEvent} {time now : ℚ} {trip after : Trip}
  {phase place : TripPhase} {next : ExternalRun}

/-- A statement that neither compares a state nor looks at a dwell sample. -/
theorem Attended.quiet (attended : Attended info log time trip phase) (forward : time ≤ now)
    (silent : datings events = [] ∧ looks events = [])
    (same : after.entered = trip.entered ∧ after.lastStateId = trip.lastStateId ∧
      after.lastStateChange = trip.lastStateChange)
    (vouched : Vouched info (log ++ events) after place)
    (dwelling : ∃ dwell, Dwelling info (log ++ events) now after place dwell) :
    Attended info (log ++ events) now after place := by
  obtain ⟨isEntered, isState, isChange⟩ := same
  refine ⟨?_, vouched, dwelling⟩
  rw [isEntered, isState, isChange]
  exact attended.knows.quiet silent.1 forward

/-- A statement that also leaves the dwell as it is. -/
theorem Attended.move (attended : Attended info log time trip phase) (forward : time ≤ now)
    (silent : datings events = [] ∧ looks events = []) (vouched : Vouched info (log ++ events) trip place)
    (looking : ∀ endpoint, place ≠ .observing endpoint) : Attended info (log ++ events) now trip place := by
  obtain ⟨dwell, dwelling⟩ := attended.dwelling
  apply attended.quiet forward silent ⟨rfl, rfl, rfl⟩ vouched
  exact ⟨dwell, dwelling.quiet forward silent.2 dwelling.ordered ⟨rfl, rfl⟩
    fun endpoint same => absurd same (looking endpoint)⟩

/-- The next task. -/
theorem Attended.task (attended : Attended info log time trip phase) (forward : time ≤ now) {rest : List Task}
    {dwell : Option Endpoint} (dwelling : Dwelling info log time trip phase dwell) (ordered : Ordered dwell rest)
    (vouched : Vouched info (log ++ []) { trip with script := rest } place)
    (looking : ∀ endpoint, place = .observing endpoint → dwell = some endpoint) :
    Attended info (log ++ []) now { trip with script := rest } place := by
  have kept : Dwelling info (log ++ []) now { trip with script := rest } place dwell :=
    dwelling.quiet forward rfl ordered ⟨rfl, rfl⟩ looking
  exact attended.quiet forward ⟨rfl, rfl⟩ ⟨rfl, rfl, rfl⟩ vouched ⟨dwell, kept⟩

/-- A statement of the trajectory keeps what was checked and does only what it is entitled to. -/
theorem Attended.step (attended : Attended info log time trip phase) (justified : Justified (Entitled info) log)
    (forward : time ≤ now) (step : trip.Step info now phase events next) :
    Justified (Entitled info) (log ++ events) ∧ Watchful info (log ++ events) now next := by
  have quiet : Justified (Entitled info) (log ++ []) := by rwa [List.append_nil]
  obtain ⟨dwell, dwelling⟩ := attended.dwelling
  cases step with
  | raise phase failure => exact ⟨quiet, trivial⟩
  | disown q reading failure => exact ⟨justified.snoc trivial, trivial⟩
  | refuse q state failure => exact ⟨justified.snoc trivial, trivial⟩
  | finish done => exact ⟨quiet, trivial⟩
  | frame task | say task =>
      have ordered := dwelling.ordered
      rw [task] at ordered
      exact ⟨quiet, attended.task forward dwelling ordered trivial (by rintro endpoint ⟨⟩)⟩
  | observe task =>
      have ordered := dwelling.ordered
      rw [task] at ordered
      obtain ⟨here, ordered⟩ := ordered
      refine ⟨quiet, attended.task forward dwelling ordered trivial fun endpoint same => ?_⟩
      cases same
      exact here
  | @settle rest task =>
      have ordered := dwelling.ordered
      rw [task] at ordered
      obtain ⟨endpoint, ordered⟩ := ordered
      refine ⟨quiet, attended.quiet forward ⟨rfl, rfl⟩ ⟨rfl, rfl, rfl⟩ trivial ⟨some endpoint, ordered, ?_, ?_, ?_⟩⟩
      · rw [List.append_nil]
        exact fun last isLast => (dwelling.past last isLast).trans forward
      · intro other _
        exact held_nothing _ _ _ _
      · rintro other ⟨⟩
  | @conclude endpoint rest task settled =>
      obtain ⟨entitled, ordered⟩ := dwelling.passed task settled
      refine ⟨justified.snoc entitled, attended.quiet forward ⟨rfl, rfl⟩ ⟨rfl, rfl, rfl⟩ trivial
        ⟨none, ordered, ?_, ?_, ?_⟩⟩
      · have unseen : looks (log ++ [.settled endpoint]) = looks log := by
          rw [looks_append]
          exact List.append_nil _
        rw [unseen]
        exact fun last isLast => (dwelling.past last isLast).trans forward
      · rintro other ⟨⟩
      · rintro other ⟨⟩
  | wait q => exact ⟨quiet, attended.move forward ⟨rfl, rfl⟩ trivial (by rintro endpoint ⟨⟩)⟩
  | go q due => exact ⟨quiet, attended.move forward ⟨rfl, rfl⟩ trivial (by rintro endpoint ⟨⟩)⟩
  | wake q since due => exact ⟨quiet, attended.move forward ⟨rfl, rfl⟩ trivial (by rintro endpoint ⟨⟩)⟩
  | @own q status same count =>
      refine ⟨justified.snoc trivial, attended.move forward ⟨rfl, rfl⟩ ?_ (by rintro endpoint ⟨⟩)⟩
      exact ⟨log, status, rfl, attended.knows.entered, same, count⟩
  | receive q valid =>
      have checked : Checked (log ++ []) trip := by
        rw [List.append_nil]
        exact attended.vouched
      exact ⟨quiet, attended.move forward ⟨rfl, rfl⟩ checked (by rintro endpoint ⟨⟩)⟩
  | @date q state dated joints fresh built =>
      obtain ⟨past, status, rfl, member, agrees⟩ := attended.vouched
      obtain ⟨sameEntered, knows, recent⟩ := attended.knows.date forward fresh
      have same : dated.script = trip.script ∧ dated.settledSince = trip.settledSince ∧
          dated.settled = trip.settled := by
        unfold Trip.date at fresh
        split at fresh
        · cases fresh
          exact ⟨rfl, rfl, rfl⟩
        · split at fresh
          · cases fresh
          · cases fresh
            exact ⟨rfl, rfl, rfl⟩
      refine ⟨justified.snoc trivial, knows, ?_, dwell, ?_⟩
      · exact ⟨past, trip.entered, status, now, List.append_assoc _ _ _, member, agrees, recent⟩
      · apply dwelling.quiet forward rfl _ same.2
        · rintro endpoint ⟨⟩
        · rw [same.1]
          exact dwelling.ordered
  | publish joints state =>
      exact ⟨justified.snoc attended.vouched, attended.move forward ⟨rfl, rfl⟩ trivial (by rintro endpoint ⟨⟩)⟩
  | back state => exact ⟨quiet, attended.move forward ⟨rfl, rfl⟩ trivial (by rintro endpoint ⟨⟩)⟩
  | schedule state =>
      refine ⟨quiet, attended.quiet forward ⟨rfl, rfl⟩ ⟨rfl, rfl, rfl⟩ trivial ⟨dwell, ?_⟩⟩
      exact dwelling.quiet forward rfl dwelling.ordered ⟨rfl, rfl⟩ (by rintro endpoint ⟨⟩)
  | look endpoint =>
      have same : (trip.observe info endpoint now).entered = trip.entered ∧
          (trip.observe info endpoint now).lastStateId = trip.lastStateId ∧
          (trip.observe info endpoint now).lastStateChange = trip.lastStateChange := by
        unfold Trip.observe
        split
        · split
          · exact ⟨rfl, rfl, rfl⟩
          · split
            · exact ⟨rfl, rfl, rfl⟩
            · exact ⟨rfl, rfl, rfl⟩
        · exact ⟨rfl, rfl, rfl⟩
      refine ⟨justified.snoc trivial, ?_, trivial, dwell, dwelling.look forward⟩
      rw [same.1, same.2.1, same.2.2]
      exact attended.knows.quiet rfl forward
  | said => exact ⟨quiet, attended.move forward ⟨rfl, rfl⟩ trivial (by rintro endpoint ⟨⟩)⟩

/-- Every statement keeps what was checked and does only what it is entitled to. -/
theorem Watchful.step {setup : ExternalSetup} {run : ExternalRun} (watchful : Watchful setup.info log time run)
    (justified : Justified (Entitled setup.info) log) (forward : time ≤ now)
    (step : ExternalRun.Step setup now run events next) :
    Justified (Entitled setup.info) (log ++ events) ∧ Watchful setup.info (log ++ events) now next := by
  have quiet : Justified (Entitled setup.info) (log ++ []) := by rwa [List.append_nil]
  cases step with
  | describe | gate | pass | announce =>
      obtain rfl : log = [] := watchful
      exact ⟨quiet, rfl⟩
  | decline failure outside | interrupt failure inside => exact ⟨quiet, trivial⟩
  | enter start entered =>
      obtain rfl : log = [] := watchful
      exact ⟨justified.snoc trivial, rfl⟩
  | stamp start entered =>
      obtain rfl : log = [.entered entered] := watchful
      refine ⟨justified.snoc trivial, ⟨?_, ?_, le_refl now⟩, rfl⟩
      · exact List.mem_append_left _ (List.mem_singleton_self _)
      · exact tracks_single Prod.fst Prod.snd (start.stateId, now)
  | arm start entered change =>
      obtain ⟨knows, unseen⟩ := watchful
      refine ⟨quiet, knows.quiet rfl forward, trivial, none, ordered_trajectory _, ?_, ?_, ?_⟩
      · rw [List.append_nil, unseen]
        rintro last ⟨⟩
      · rintro endpoint ⟨⟩
      · rintro endpoint ⟨⟩
  | move step => exact Attended.step watchful justified forward step
  | leave outcome => exact ⟨justified.snoc trivial, trivial⟩
  | confirm outcome | report outcome => exact ⟨quiet, trivial⟩
  | fail outcome failure | lose outcome failure => exact ⟨quiet, trivial⟩

end Statements

namespace ExternalRun

/-- How the demo has ended. -/
def outcome : ExternalRun → Option (Option Failure)
  | .ended outcome => some outcome
  | _ => none

theorem outcome_eq_some {run : ExternalRun} {outcome : Option Failure} (ended : run.outcome = some outcome) :
    run = .ended outcome := by
  cases run with
  | ended other =>
      obtain rfl := Option.some.inj ended
      rfl
  | _ => cases ended

end ExternalRun

section Brackets

/-- The events between the entry and the exit. -/
def ExternalEvent.inner : ExternalEvent → Bool
  | .entered _ | .exiting => false
  | _ => true

/-- The entry and what follows it. -/
def Opened (log : List ExternalEvent) : Prop :=
  ∃ status acts, log = .entered status :: acts ∧ ∀ act ∈ acts, act.inner = true

/-- The entry, what follows it, and the exit as the last event. -/
def Closed (log : List ExternalEvent) : Prop :=
  ∃ status acts, log = .entered status :: (acts ++ [.exiting]) ∧ ∀ act ∈ acts, act.inner = true

/-- The entry comes first and the exit last. -/
def Bracketed (log : List ExternalEvent) : ExternalRun → Prop
  | .describing | .gating _ | .announcing _ | .entering _ => log = []
  | .stamping _ _ | .arming _ _ _ | .running _ _ | .leaving _ => Opened log
  | .exiting _ | .reporting _ => Closed log
  | .ended _ => log = [] ∨ Closed log

variable {info : BodyInfo} {log events : List ExternalEvent} {now : ℚ} {trip : Trip} {phase : TripPhase}
  {next : ExternalRun}

theorem Opened.go (opened : Opened log) (inner : ∀ act ∈ events, act.inner = true) : Opened (log ++ events) := by
  obtain ⟨status, acts, rfl, between⟩ := opened
  refine ⟨status, acts ++ events, List.cons_append, fun act member => ?_⟩
  rcases List.mem_append.mp member with old | new
  · exact between act old
  · exact inner act new

/-- The trajectory neither enters nor exits. -/
theorem Trip.Step.inner (step : trip.Step info now phase events next) :
    (∀ act ∈ events, act.inner = true) ∧
      ((∃ trip phase, next = .running trip phase) ∨ ∃ outcome, next = .leaving outcome) := by
  cases step with
  | raise | finish => exact ⟨by rintro act ⟨⟩, .inr ⟨_, rfl⟩⟩
  | disown | refuse =>
      refine ⟨fun act member => ?_, .inr ⟨_, rfl⟩⟩
      rw [List.mem_singleton.mp member]
      rfl
  | conclude | own | date | publish | look =>
      refine ⟨fun act member => ?_, .inl ⟨_, _, rfl⟩⟩
      rw [List.mem_singleton.mp member]
      rfl
  | _ => exact ⟨by rintro act ⟨⟩, .inl ⟨_, _, rfl⟩⟩

/-- Every statement keeps the brackets. -/
theorem Bracketed.step {setup : ExternalSetup} {run : ExternalRun} (bracketed : Bracketed log run)
    (step : ExternalRun.Step setup now run events next) : Bracketed (log ++ events) next := by
  cases step with
  | describe | gate | pass | announce | arm | confirm =>
      rw [List.append_nil]
      exact bracketed
  | decline failure outside =>
      rw [List.append_nil]
      cases run with
      | describing | gating gate | announcing start | entering start => exact .inl bracketed
      | _ => exact outside.elim
  | enter start entered =>
      obtain rfl : log = [] := bracketed
      exact ⟨entered, [], rfl, by rintro act ⟨⟩⟩
  | stamp start entered =>
      apply Opened.go bracketed
      intro act member
      rw [List.mem_singleton.mp member]
      rfl
  | interrupt failure inside =>
      rw [List.append_nil]
      cases run with
      | stamping start entered => exact bracketed
      | arming start entered change => exact bracketed
      | _ => exact inside.elim
  | move step =>
      obtain ⟨inner, ⟨trip, phase, rfl⟩ | ⟨outcome, rfl⟩⟩ := step.inner
      · exact Opened.go bracketed inner
      · exact Opened.go bracketed inner
  | leave outcome =>
      obtain ⟨status, acts, rfl, between⟩ := bracketed
      exact ⟨status, acts, List.cons_append, between⟩
  | fail | lose | report =>
      rw [List.append_nil]
      exact .inr bracketed

end Brackets

section Runs

variable {setup : ExternalSetup} {begun : ℚ} {final : Timed ℚ ExternalRun}
  {moves : List (Move (Timed ℚ ExternalRun) (ℚ × ExternalInput) ExternalEvent)}

/-- Right before every command the demo has read a status that agrees with its entry, and a state that it has not
compared for as long as the window since the entry. A dwell passes only after looks that all found the body at
the endpoint for the settling time. -/
theorem external_entitled (run : (externalMachine setup).Run ⟨begun, .describing⟩ moves final) :
    Justified (Entitled setup.info) (trace moves) := by
  have held : Justified (Entitled setup.info) (trace moves) ∧
      Watchful setup.info (trace moves) final.time final.state := by
    refine clocked_invariant (fun log time state => Justified (Entitled setup.info) log ∧
      Watchful setup.info log time state) ?_ ?_ run
    · exact ⟨.empty, rfl⟩
    · intro log time state now input next events held forward advanced
      exact held.2.step held.1 forward (ExternalRun.step_of_advance advanced)
  exact held.1

/-- A demo that has ended never entered, or exited once after everything else. Without a failure it has published
its whole plan and both dwells have passed, first the one at zero and then the one at the return pose. -/
theorem external_completes {outcome : Option Failure}
    (run : (externalMachine setup).Run ⟨begun, .describing⟩ moves final) (ended : final.state = .ended outcome) :
    (trace moves = [] ∨ Closed (trace moves)) ∧ (outcome = none → ∃ start, Measured setup.info start ∧
      (samples (trace moves)).map Prod.snd = poses (startPose setup.info start) ∧
      endings (trace moves) = [zeroEndpoint, returnEndpoint (startPose setup.info start)]) := by
  have bracketed : Bracketed (trace moves) final.state := by
    refine clocked_invariant (fun log _ state => Bracketed log state) ?_ ?_ run
    · show ([] : List ExternalEvent) = []
      rfl
    · intro log time state now input next events held _ advanced
      exact held.step (ExternalRun.step_of_advance advanced)
  have progress := progress_of_run run
  rw [ended] at bracketed progress
  refine ⟨bracketed, ?_⟩
  rintro rfl
  exact progress.complete

end Runs

section Examples

def externalSetup : ExternalSetup := ⟨fullBody, 5⟩

/-- A body at rest with its first joint away from zero. -/
def bentState (stateId : ℤ) : BodyState :=
  { restingState stateId with q := .finite 0.3 :: List.replicate 30 (.finite 0) }

def externalStatus : LiveStatus where
  statusSeq := 1
  currentAction := "EXTERNAL"
  phase := .RUNNING
  generation := 4
  clientId := "demo"
  leaseId := "lease"

section Script

variable (body : ℤ → BodyState)

/-- One pass of the gate. -/
def gatePass (asked answered : ℚ) (stateId : ℤ) : List (ℚ × ExternalInput) :=
  [(asked, .proceed), (asked, .proceed), (answered, .state (body stateId)), (answered, .proceed)]

/-- The demo up to its first task. -/
def externalEntry : List (ℚ × ExternalInput) :=
  [(0, .proceed), (0, .proceed), (0, .proceed)] ++ gatePass body 0 0 1 ++ [(0.02, .proceed)] ++
    gatePass body 0.02 0.1 2 ++ [(0.12, .proceed)] ++ gatePass body 0.12 0.2 3 ++
    [(0.2, .proceed), (0.3, .status (some externalStatus)), (0.3, .proceed), (0.3, .proceed)]

/-- A frame that is due at a time and takes a millisecond. -/
def externalFrame (begun due : ℚ) (stateId : ℤ) : List (ℚ × ExternalInput) :=
  [(begun, .proceed), (begun, .proceed)] ++ (if begun < due then [(due, .proceed)] else []) ++
    [(due, .status (some externalStatus)), (due, .state (body stateId)), (due, .proceed), (due + 0.001, .proceed),
      (due + 0.001, .proceed), (due + 0.001, .proceed)]

/-- A leg of this many frames with its dwell. The frames follow each other by 21 ms. -/
def externalLeg (begun : ℚ) (stateId : ℤ) (frames : ℕ) : List (ℚ × ExternalInput) :=
  let due (sample : ℕ) : ℚ := begun + 0.021 * (sample : ℚ)
  let frame (sample : ℕ) : List (ℚ × ExternalInput) := externalFrame body (due sample) (due sample) (stateId + sample)
  (List.range frames).flatMap frame ++ (due frames, .proceed) ::
    (List.range dwellSamples).flatMap (fun sample =>
      frame (frames + sample) ++ List.replicate 2 (due (frames + sample) + 0.001, .proceed)) ++
    List.replicate 3 (due (frames + dwellSamples), .proceed)

end Script

/-- Three frames, and an interrupt. -/
def externalInputs : List (ℚ × ExternalInput) :=
  externalEntry bentState ++ externalFrame bentState 0.3 0.3 4 ++ externalFrame bentState 0.301 0.321 5 ++
    externalFrame bentState 0.322 0.342 5 ++
    [(0.35, .raises (.external "interrupt")), (0.35, .proceed), (0.4, .exited "PASSIVE"), (0.4, .proceed)]

/-- A body at rest so close to zero that it counts as arrived. -/
def leaningState (stateId : ℤ) : BodyState :=
  { restingState stateId with q := .finite 0.03 :: List.replicate 30 (.finite 0) }

/-- Both legs to their end, and the exit. -/
def completeInputs : List (ℚ × ExternalInput) :=
  externalEntry leaningState ++ externalLeg leaningState 0.3 4 101 ++
    externalLeg leaningState (0.3 + 0.021 * 151) 155 100 ++
    [(7, .proceed), (7, .proceed), (7, .exited "PASSIVE"), (7, .proceed)]

/-- Three commands leave before an interrupt, and none is faster than the peak speed. -/
theorem external_moves_slowly_run : ∃ moves final, (externalMachine externalSetup).Run ⟨0, .describing⟩ moves final ∧
    (samples (trace moves)).map Prod.fst = [0.301, 0.322, 0.343] ∧
    (samples (trace moves)).Pairwise (Slew MAX_PEAK_SPEED_RAD_S) := by
  obtain ⟨moves, final, run, -, times⟩ := (externalMachine externalSetup).exists_run ⟨0, .describing⟩ externalInputs
    (fun moves _ => (samples (trace moves)).map Prod.fst = [0.301, 0.322, 0.343]) (by decide +kernel)
  exact ⟨moves, final, run, times, (external_moves_slowly run).1⟩

/-- Every one of three commands was entitled. -/
theorem external_entitled_run : ∃ moves final, (externalMachine externalSetup).Run ⟨0, .describing⟩ moves final ∧
    (samples (trace moves)).length = 3 ∧ Justified (Entitled fullBody) (trace moves) := by
  obtain ⟨moves, final, run, -, three⟩ := (externalMachine externalSetup).exists_run ⟨0, .describing⟩ externalInputs
    (fun moves _ => (samples (trace moves)).length = 3) (by decide +kernel)
  exact ⟨moves, final, run, three, external_entitled run⟩

/-- An interrupted demo exits once, as its last act. An undisturbed one publishes its whole plan. -/
theorem external_completes_runs :
    (∃ moves final, (externalMachine externalSetup).Run ⟨0, .describing⟩ moves final ∧
      final.state = .ended (some (.external "interrupt")) ∧ Closed (trace moves)) ∧
    ∃ moves final start, (externalMachine externalSetup).Run ⟨0, .describing⟩ moves final ∧
      final.state = .ended none ∧ Measured fullBody start ∧
      (samples (trace moves)).map Prod.snd = poses (startPose fullBody start) ∧
      endings (trace moves) = [zeroEndpoint, returnEndpoint (startPose fullBody start)] := by
  constructor
  · obtain ⟨moves, final, run, -, three, ended⟩ := (externalMachine externalSetup).exists_run ⟨0, .describing⟩
      externalInputs (fun moves final => (samples (trace moves)).length = 3 ∧
        final.state.outcome = some (some (.external "interrupt"))) (by decide +kernel)
    have finished := ExternalRun.outcome_eq_some ended
    rcases (external_completes run finished).1 with empty | closed
    · rw [empty] at three
      cases three
    · exact ⟨moves, final, run, finished, closed⟩
  · obtain ⟨moves, final, run, -, ended⟩ := (externalMachine externalSetup).exists_run ⟨0, .describing⟩
      completeInputs (fun _ final => final.state.outcome = some none) (by decide +kernel)
    have finished := ExternalRun.outcome_eq_some ended
    obtain ⟨start, measured, plan, dwells⟩ := (external_completes run finished).2 rfl
    exact ⟨moves, final, start, run, finished, measured, plan, dwells⟩

end Examples

end HumanoidSdk.Demo
