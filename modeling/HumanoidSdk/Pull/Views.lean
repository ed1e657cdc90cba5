import HumanoidSdk.Pull.Transport

namespace HumanoidSdk.Pull
open Foundation

variable {Payload Arrays Body : Type*}

namespace Event

/-- The frame behind a returned view. -/
def shownFrame : Event Payload Arrays Body → Option ℕ
  | .returned _ receipt => some receipt.sample.arrival
  | _ => none

/-- A quiet event neither pulls a frame nor returns a view. -/
def quiet : Event Payload Arrays Body → Bool
  | .pulled _ | .returned .. => false
  | .decodeFailed _ | .raised => true

end Event

/-- Each filled cache is the decode of the latest sample. -/
def CachesDecode (codec : Codec Payload Arrays Body) (transport : PullTransport Payload Arrays Body) : Prop :=
  ∀ method view, transport.cached method = some view →
    ∃ receipt, transport.latestSample = some receipt ∧ codec.decode method receipt = some view

/-- A frame in hand is newer than every pulled one and older than what arrives next. -/
structure Newest (log : List (Event Payload Arrays Body)) (transport : PullTransport Payload Arrays Body)
    (frame : Frame Payload) : Prop where
  pulled : ∀ receipt, .pulled receipt ∈ log → receipt.sample.arrival < frame.arrival
  arrived : frame.arrival < transport.arrived

/-- What holds of the caches and the views shown so far while nobody is inside a method. -/
structure Consistent (codec : Codec Payload Arrays Body) (log : List (Event Payload Arrays Body))
    (transport : PullTransport Payload Arrays Body) : Prop where
  caches : CachesDecode codec transport
  latest : ∀ receipt, transport.latestSample = some receipt → .pulled receipt ∈ log
  shown : ∀ view receipt, .returned view receipt ∈ log →
    .pulled receipt ∈ log ∧ ∃ method, codec.decode method receipt = some view
  bounded : ∀ arrival ∈ log.filterMap Event.shownFrame, ∃ receipt,
    transport.latestSample = some receipt ∧ arrival ≤ receipt.sample.arrival
  monotone : (log.filterMap Event.shownFrame).Pairwise (· ≤ ·)
  past : ∀ receipt, .pulled receipt ∈ log → receipt.sample.arrival < transport.arrived
  pending : ∀ frame, transport.ring = some frame → Newest log transport frame
  once : ∀ first second, .pulled first ∈ log → .pulled second ∈ log →
    first.sample.arrival = second.sample.arrival → first = second

/-- A tuple in hand was pulled; it is the latest sample itself or newer than that. -/
structure InHand (log : List (Event Payload Arrays Body)) (transport : PullTransport Payload Arrays Body)
    (receipt : Receipt Payload) (fresh : Bool) : Prop where
  pulled : .pulled receipt ∈ log
  stale : fresh = false → transport.latestSample = some receipt
  newer : fresh = true → ∀ latest, transport.latestSample = some latest →
    latest.sample.arrival < receipt.sample.arrival

/-- What the thread inside a method knows at each statement. -/
def Progress (codec : Codec Payload Arrays Body) (log : List (Event Payload Arrays Body))
    (transport : PullTransport Payload Arrays Body) : Position Payload Arrays Body → Prop
  | .polled _ _ (some frame) | .stamping _ (some frame) =>
      Newest log transport frame ∧ ∀ next, transport.ring = some next → frame.arrival < next.arrival
  | .received _ receipt fresh => InHand log transport receipt fresh
  | .decoded receipt fresh view =>
      InHand log transport receipt fresh ∧ ∃ method, codec.decode method receipt = some view
  | _ => True

def Position.inside : Position Payload Arrays Body → Bool
  | .idle | .called .. => false
  | _ => true

/-- The `_state_lock` of the transport. -/
def stateLock : Lock (PullTransport Payload Arrays Body) (Position Payload Arrays Body) where
  taken := PullTransport.stateLock
  holds := Position.inside

def Owned (codec : Codec Payload Arrays Body) (log : List (Event Payload Arrays Body))
    (transport : PullTransport Payload Arrays Body) (position : Position Payload Arrays Body) : Prop :=
  Consistent codec log transport ∧ Progress codec log transport position

variable {codec : Codec Payload Arrays Body} {log events : List (Event Payload Arrays Body)}
  {transport : PullTransport Payload Arrays Body}

theorem quiet_pulled (quiet : ∀ event ∈ events, event.quiet = true) (receipt : Receipt Payload) :
    .pulled receipt ∈ log ++ events ↔ .pulled receipt ∈ log := by
  rw [List.mem_append, or_iff_left]
  exact fun found => by simpa [Event.quiet] using quiet _ found

theorem quiet_returned (quiet : ∀ event ∈ events, event.quiet = true) (view : View Arrays Body)
    (receipt : Receipt Payload) : .returned view receipt ∈ log ++ events ↔ .returned view receipt ∈ log := by
  rw [List.mem_append, or_iff_left]
  exact fun found => by simpa [Event.quiet] using quiet _ found

theorem quiet_shown (quiet : ∀ event ∈ events, event.quiet = true) :
    (log ++ events).filterMap Event.shownFrame = log.filterMap Event.shownFrame := by
  have silent : events.filterMap Event.shownFrame = [] := by
    rw [List.filterMap_eq_nil_iff]
    intro event found
    cases event with
    | returned view receipt => simpa [Event.quiet] using quiet _ found
    | pulled receipt => rfl
    | decodeFailed receipt => rfl
    | raised => rfl
  rw [List.filterMap_append, silent, List.append_nil]

/-- Quiet events leave a consistent transport consistent. -/
theorem Consistent.quiet (held : Consistent codec log transport)
    (quiet : ∀ event ∈ events, event.quiet = true) : Consistent codec (log ++ events) transport where
  caches := held.caches
  latest receipt same := (quiet_pulled quiet receipt).mpr (held.latest receipt same)
  shown view receipt found := by
    rw [quiet_pulled quiet]
    exact held.shown view receipt ((quiet_returned quiet view receipt).mp found)
  bounded := by
    rw [quiet_shown quiet]
    exact held.bounded
  monotone := by
    rw [quiet_shown quiet]
    exact held.monotone
  past receipt found := held.past receipt ((quiet_pulled quiet receipt).mp found)
  pending frame same :=
    { pulled := fun receipt found =>
        (held.pending frame same).pulled receipt ((quiet_pulled quiet receipt).mp found)
      arrived := (held.pending frame same).arrived }
  once first second one two :=
    held.once first second ((quiet_pulled quiet first).mp one) ((quiet_pulled quiet second).mp two)

/-- The lock flag is no part of what is consistent. -/
theorem Consistent.flag (held : Consistent codec log transport) (taken : Bool) :
    Consistent codec log { transport with stateLock := taken } where
  caches := held.caches
  latest := held.latest
  shown := held.shown
  bounded := held.bounded
  monotone := held.monotone
  past := held.past
  pending frame same :=
    { pulled := (held.pending frame same).pulled
      arrived := (held.pending frame same).arrived }
  once := held.once

/-- An outcome settles when it stays inside with its progress or leaves a consistent transport. -/
def Fine (codec : Codec Payload Arrays Body) (log : List (Event Payload Arrays Body))
    (outcome : PullTransport.Outcome Payload Arrays Body) : Prop :=
  stateLock.Settles (Consistent codec) (Owned codec) (log ++ outcome.2.2) outcome.1 outcome.2.1

theorem fail_fine (held : Consistent codec log transport)
    (quiet : ∀ event ∈ events, event.quiet = true) : Fine codec log (transport.fail events) := by
  refine .inr ⟨rfl, rfl, (held.quiet ?_).flag false⟩
  intro event found
  rcases List.mem_append.mp found with old | new
  · exact quiet event old
  · rw [List.mem_singleton.mp new]
    rfl

theorem whenOpen_fine {next : PullTransport.Outcome Payload Arrays Body}
    (held : Consistent codec log transport) (fine : Fine codec log next) :
    Fine codec log (transport.whenOpen next) := by
  unfold PullTransport.whenOpen
  split
  · exact fail_fine held (by simp)
  · exact fine

theorem silent_fine {position : Position Payload Arrays Body} (taken : transport.stateLock = true)
    (held : Consistent codec log transport) (inside : position.inside = true)
    (progress : Progress codec log transport position) : Fine codec log (transport, position, []) := by
  refine .inl ⟨taken, inside, ?_⟩
  rw [List.append_nil]
  exact ⟨held, progress⟩

theorem fallBack_fine (taken : transport.stateLock = true) (held : Consistent codec log transport)
    (method : Method) (waits : Bool) : Fine codec log (transport.fallBack method waits) := by
  unfold PullTransport.fallBack
  split
  · rename_i receipt same
    exact silent_fine taken held rfl
      ⟨held.latest receipt same, fun _ => same, fun fresh => absurd fresh (by simp)⟩
  · split
    · exact silent_fine taken held rfl trivial
    · exact fail_fine held (by simp)

/-- Taking the frame off the ring leaves it in hand as the newest one. -/
theorem take_frame (held : Consistent codec log transport) :
    Consistent codec log { transport with ring := none } ∧
      ∀ frame, transport.ring = some frame →
        Newest log { transport with ring := none } frame := by
  refine ⟨⟨held.caches, held.latest, held.shown, held.bounded, held.monotone, held.past, ?_, held.once⟩, ?_⟩
  · intro frame same
    exact absurd same (by simp)
  · intro frame same
    exact ⟨(held.pending frame same).pulled, (held.pending frame same).arrived⟩

/-- A decoded view fills its own cache; a fresh one empties the other. -/
theorem cached_store {method : Method} {receipt : Receipt Payload} {view : View Arrays Body}
    (decoded : codec.decode method receipt = some view) (fresh : Bool) (other : Method) :
    (transport.store receipt fresh view).cached other =
      if other = method then some view else if fresh then none else transport.cached other := by
  cases method with
  | waitState =>
      obtain ⟨state, -, rfl⟩ := Option.map_eq_some_iff.mp decoded
      cases other <;> cases fresh <;> rfl
  | waitBodyState =>
      obtain ⟨state, -, rfl⟩ := Option.map_eq_some_iff.mp decoded
      cases other <;> cases fresh <;> rfl

theorem latestSample_store (receipt : Receipt Payload) (fresh : Bool) (view : View Arrays Body) :
    (transport.store receipt fresh view).latestSample = some receipt := by
  cases view <;> rfl

/-- The caches stay decodes of the latest sample when a tuple in hand is stored. -/
theorem store_caches {method : Method} {receipt : Receipt Payload} {fresh : Bool} {view : View Arrays Body}
    (held : Consistent codec log transport) (hand : InHand log transport receipt fresh)
    (decoded : codec.decode method receipt = some view) :
    CachesDecode codec (transport.store receipt fresh view) := by
  intro other shown found
  refine ⟨receipt, latestSample_store receipt fresh view, ?_⟩
  rw [cached_store decoded] at found
  split at found
  · rename_i same
    rw [same, decoded, found]
  · cases fresh with
    | true => exact absurd found (by simp)
    | false =>
        obtain ⟨latest, same, decodes⟩ := held.caches other shown (by simpa using found)
        rw [hand.stale rfl, Option.some.injEq] at same
        rw [same, decodes]

/-- Returning a view of the present sample keeps the views in order. -/
theorem Consistent.return {method : Method} {receipt : Receipt Payload} {view : View Arrays Body}
    (held : Consistent codec log transport) (decoded : codec.decode method receipt = some view)
    (present : transport.latestSample = some receipt) :
    Consistent codec (log ++ [.returned view receipt]) transport where
  caches := held.caches
  latest other same := List.mem_append_left _ (held.latest other same)
  shown other shown found := by
    rcases List.mem_append.mp found with old | new
    · obtain ⟨pulled, decodes⟩ := held.shown other shown old
      exact ⟨List.mem_append_left _ pulled, decodes⟩
    · obtain ⟨rfl, rfl⟩ : other = view ∧ shown = receipt := by simpa using new
      exact ⟨List.mem_append_left _ (held.latest shown present), method, decoded⟩
  bounded arrival found := by
    rw [List.filterMap_append] at found
    rcases List.mem_append.mp found with old | new
    · exact held.bounded arrival old
    · obtain rfl : arrival = receipt.sample.arrival := by simpa [Event.shownFrame] using new
      exact ⟨receipt, present, le_rfl⟩
  monotone := by
    rw [List.filterMap_append, List.pairwise_append]
    refine ⟨held.monotone, by simp [Event.shownFrame], ?_⟩
    intro earlier old arrival new
    obtain rfl : arrival = receipt.sample.arrival := by simpa [Event.shownFrame] using new
    obtain ⟨latest, same, below⟩ := held.bounded earlier old
    rw [present, Option.some.injEq] at same
    rwa [same]
  past other found := held.past other (by simpa using found)
  pending frame same :=
    { pulled := fun other found => (held.pending frame same).pulled other (by simpa using found)
      arrived := (held.pending frame same).arrived }
  once first second one two := held.once first second (by simpa using one) (by simpa using two)

/-- Storing a tuple in hand with its view keeps the transport consistent. -/
theorem Consistent.store {method : Method} {receipt : Receipt Payload} {fresh : Bool}
    {view : View Arrays Body} (held : Consistent codec log transport)
    (hand : InHand log transport receipt fresh) (decoded : codec.decode method receipt = some view) :
    Consistent codec log (transport.store receipt fresh view) where
  caches := store_caches held hand decoded
  latest other same := by
    rw [latestSample_store, Option.some.injEq] at same
    exact same ▸ hand.pulled
  shown := held.shown
  bounded arrival found := by
    refine ⟨receipt, latestSample_store receipt fresh view, ?_⟩
    obtain ⟨latest, same, below⟩ := held.bounded arrival found
    cases fresh with
    | true => exact below.trans (hand.newer rfl latest same).le
    | false =>
        rw [hand.stale rfl, Option.some.injEq] at same
        rwa [same]
  monotone := held.monotone
  past := by cases view <;> exact held.past
  pending := by
    intro frame same
    cases view <;> exact ⟨(held.pending frame same).pulled, (held.pending frame same).arrived⟩
  once := held.once

/-- Pulling the newest frame records its receipt. -/
theorem Consistent.pull {frame : Frame Payload} (held : Consistent codec log transport)
    (newest : Newest log transport frame)
    (next : ∀ later, transport.ring = some later → frame.arrival < later.arrival) (wall mono : ℤ) :
    Consistent codec (log ++ [.pulled ⟨frame, wall, mono⟩]) transport where
  caches := held.caches
  latest other same := List.mem_append_left _ (held.latest other same)
  shown view receipt found := by
    obtain ⟨pulled, decodes⟩ := held.shown view receipt (by simpa using found)
    exact ⟨List.mem_append_left _ pulled, decodes⟩
  bounded := by
    simpa [Event.shownFrame] using held.bounded
  monotone := by
    rw [List.filterMap_append]
    exact (List.append_nil _).symm ▸ held.monotone
  past receipt found := by
    rcases List.mem_append.mp found with old | new
    · exact held.past receipt old
    · obtain rfl : receipt = ⟨frame, wall, mono⟩ := by simpa using new
      exact newest.arrived
  pending later same :=
    { pulled := fun receipt found => by
        rcases List.mem_append.mp found with old | new
        · exact (held.pending later same).pulled receipt old
        · obtain rfl : receipt = ⟨frame, wall, mono⟩ := by simpa using new
          exact next later same
      arrived := (held.pending later same).arrived }
  once first second one two equal := by
    rcases List.mem_append.mp one with oldFirst | newFirst
    · rcases List.mem_append.mp two with oldSecond | newSecond
      · exact held.once first second oldFirst oldSecond equal
      · obtain rfl : second = ⟨frame, wall, mono⟩ := by simpa using newSecond
        exact absurd equal (newest.pulled first oldFirst).ne
    · obtain rfl : first = ⟨frame, wall, mono⟩ := by simpa using newFirst
      rcases List.mem_append.mp two with oldSecond | newSecond
      · exact absurd equal.symm (newest.pulled second oldSecond).ne
      · symm
        simpa using newSecond

/-- Every statement inside a method settles. -/
theorem step_fine {position : Position Payload Arrays Body} {choice : Choice}
    {outcome : PullTransport.Outcome Payload Arrays Body} (taken : transport.stateLock = true)
    (inside : position.inside = true) (owned : Owned codec log transport position)
    (stepped : transport.step codec position choice = some outcome) : Fine codec log outcome := by
  obtain ⟨held, progress⟩ := owned
  cases position with
  | idle => exact absurd inside (by simp [Position.inside])
  | called method timeout => exact absurd inside (by simp [Position.inside])
  | entered method timeout =>
      cases choice with
      | go =>
          simp only [PullTransport.step] at stepped
          split at stepped
          · obtain rfl := Option.some.inj stepped
            exact fail_fine held (by simp)
          · obtain rfl := Option.some.inj stepped
            exact whenOpen_fine held (silent_fine taken held rfl trivial)
      | raise | expire | clocks => simp [PullTransport.step] at stepped
  | polling method patient =>
      cases choice with
      | go =>
          obtain rfl := Option.some.inj stepped
          obtain ⟨kept, newest⟩ := take_frame held
          refine silent_fine taken kept rfl ?_
          cases same : transport.ring with
          | none => trivial
          | some frame => exact ⟨newest frame same, fun next later => absurd later (by simp)⟩
      | raise =>
          obtain rfl := Option.some.inj stepped
          exact fail_fine held (by simp)
      | expire | clocks => simp [PullTransport.step] at stepped
  | polled method patient sample =>
      cases sample with
      | none =>
          cases choice with
          | go | expire =>
              obtain rfl := Option.some.inj stepped
              exact whenOpen_fine held (fallBack_fine taken held method _)
          | raise | clocks => simp [PullTransport.step] at stepped
      | some frame =>
          cases choice with
          | go =>
              obtain rfl := Option.some.inj stepped
              exact whenOpen_fine held (silent_fine taken held rfl progress)
          | raise | expire | clocks => simp [PullTransport.step] at stepped
  | receiving method =>
      cases choice with
      | go =>
          simp only [PullTransport.step, Option.map_eq_some_iff] at stepped
          obtain ⟨frame, same, rfl⟩ := stepped
          obtain ⟨kept, newest⟩ := take_frame held
          exact silent_fine taken kept rfl
            ⟨newest frame same, fun next later => absurd later (by simp)⟩
      | expire =>
          obtain rfl := Option.some.inj stepped
          exact silent_fine taken held rfl trivial
      | raise =>
          obtain rfl := Option.some.inj stepped
          exact fail_fine held (by simp)
      | clocks => simp [PullTransport.step] at stepped
  | stamping method sample =>
      cases choice with
      | clocks wall mono =>
          cases sample with
          | none =>
              obtain rfl := Option.some.inj stepped
              exact fail_fine held (by simp)
          | some frame =>
              obtain rfl := Option.some.inj stepped
              obtain ⟨newest, next⟩ := progress
              refine whenOpen_fine held (.inl ⟨taken, rfl, held.pull newest next wall mono, ?_⟩)
              exact ⟨by simp, fun stale => absurd stale (by simp),
                fun _ latest same => newest.pulled latest (held.latest latest same)⟩
      | go | raise | expire => simp [PullTransport.step] at stepped
  | received method receipt fresh =>
      cases choice with
      | go =>
          simp only [PullTransport.step] at stepped
          split at stepped
          · rename_i view reused
            obtain rfl := Option.some.inj stepped
            cases fresh with
            | true => exact absurd reused (by simp [PullTransport.reuse])
            | false =>
                obtain ⟨latest, same, decoded⟩ := held.caches method view reused
                obtain rfl : receipt = latest := by
                  simpa [progress.stale rfl] using same
                exact .inr ⟨rfl, rfl, (held.return decoded same).flag false⟩
          · split at stepped
            · rename_i view decoded
              obtain rfl := Option.some.inj stepped
              exact silent_fine taken held rfl ⟨progress, method, decoded⟩
            · obtain rfl := Option.some.inj stepped
              exact fail_fine held (by simp [Event.quiet])
      | raise =>
          simp only [PullTransport.step] at stepped
          split at stepped
          · simp at stepped
          · obtain rfl := Option.some.inj stepped
            exact fail_fine held (by simp [Event.quiet])
      | expire | clocks => simp [PullTransport.step] at stepped
  | decoded receipt fresh view =>
      cases choice with
      | go =>
          obtain rfl := Option.some.inj stepped
          obtain ⟨hand, method, decoded⟩ := progress
          exact whenOpen_fine held (.inr ⟨rfl, rfl, ((held.store hand decoded).return decoded
            (latestSample_store receipt fresh view)).flag false⟩)
      | raise | expire | clocks => simp [PullTransport.step] at stepped

/-- A thread outside of a method calls one or takes the free lock. -/
theorem outside_cases {position next : Position Payload Arrays Body}
    {after : PullTransport Payload Arrays Body} (outside : position.inside = false)
    (acts : (pullProgram codec).Act transport position events after next) :
    (∃ method timeout, next = .called method timeout ∧ after = transport ∧ events = []) ∨
      ∃ method timeout, transport.stateLock = false ∧ next = .entered method timeout ∧
        after = { transport with stateLock := true } ∧ events = [] := by
  cases acts with
  | call ready request => exact .inl ⟨request.1, request.2, rfl, rfl, rfl⟩
  | @step _ _ _ choice _ stepped =>
      cases position with
      | called method timeout =>
          cases choice with
          | go =>
              simp only [pullProgram, PullTransport.step, Option.ite_none_left_eq_some, Bool.not_eq_true,
                Option.some.injEq, Prod.mk.injEq] at stepped
              obtain ⟨free, rfl, rfl, rfl⟩ := stepped
              exact .inr ⟨method, timeout, free, rfl, rfl, rfl⟩
          | raise | expire | clocks => simp [pullProgram, PullTransport.step] at stepped
      | idle => simp [pullProgram, PullTransport.step] at stepped
      | entered | polling | polled | receiving | stamping | received | decoded =>
          exact absurd outside (by simp [Position.inside])

/-- A new frame in the ring is newer than everything pulled. -/
theorem Consistent.react (held : Consistent codec log transport) (signal : Signal Payload) :
    Consistent codec log (transport.react signal) := by
  cases signal with
  | close =>
      exact ⟨held.caches, held.latest, held.shown, held.bounded, held.monotone, held.past,
        fun frame same => ⟨(held.pending frame same).pulled, (held.pending frame same).arrived⟩, held.once⟩
  | arrive payload receiveStampNs =>
      refine ⟨held.caches, held.latest, held.shown, held.bounded, held.monotone,
        fun receipt found => Nat.lt_succ_of_lt (held.past receipt found), ?_, held.once⟩
      intro frame same
      obtain rfl := Option.some.inj same
      exact ⟨held.past, Nat.lt_succ_self _⟩

/-- A frame in hand stays older than the frames that arrive meanwhile. -/
theorem Progress.react {position : Position Payload Arrays Body}
    (progress : Progress codec log transport position) (signal : Signal Payload) :
    Progress codec log (transport.react signal) position := by
  have kept (frame : Frame Payload) (newest : Newest log transport frame ∧
      ∀ next, transport.ring = some next → frame.arrival < next.arrival) :
      Newest log (transport.react signal) frame ∧
        ∀ next, (transport.react signal).ring = some next → frame.arrival < next.arrival := by
    cases signal with
    | close => exact ⟨⟨newest.1.pulled, newest.1.arrived⟩, newest.2⟩
    | arrive payload receiveStampNs =>
        refine ⟨⟨newest.1.pulled, Nat.lt_succ_of_lt newest.1.arrived⟩, fun next same => ?_⟩
        obtain rfl := Option.some.inj same
        exact newest.1.arrived
  have hand {receipt : Receipt Payload} {fresh : Bool} (old : InHand log transport receipt fresh) :
      InHand log (transport.react signal) receipt fresh := by
    cases signal <;> exact ⟨old.pulled, old.stale, old.newer⟩
  cases position with
  | polled method patient sample =>
      cases sample with
      | none => trivial
      | some frame => exact kept frame progress
  | stamping method sample =>
      cases sample with
      | none => trivial
      | some frame => exact kept frame progress
  | received method receipt fresh => exact hand progress
  | decoded receipt fresh view => exact ⟨hand progress.1, progress.2⟩
  | idle | called | entered | polling | receiving => trivial

/-- A method enters with the lock, keeps its progress inside and leaves consistently. -/
theorem disciplined (codec : Codec Payload Arrays Body) :
    stateLock.Discipline (Consistent codec) (Owned codec) (pullProgram codec) where
  enter free outside held acts := by
    rcases outside_cases outside acts with
      ⟨method, timeout, rfl, rfl, rfl⟩ | ⟨method, timeout, _, rfl, rfl, rfl⟩
    · exact .inr ⟨free, rfl, by rwa [List.append_nil]⟩
    · exact silent_fine rfl (held.flag true) rfl trivial
  inside {log transport position events after next} taken inside owned acts := by
    cases acts with
    | call ready request =>
        cases position with
        | idle => exact absurd inside (by simp [stateLock, Position.inside])
        | called | entered | polling | polled | receiving | stamping | received | decoded =>
            exact absurd ready (by simp [pullProgram])
    | step stepped => exact step_fine taken inside owned stepped
  outside taken outside acts := by
    rcases outside_cases outside acts with
      ⟨method, timeout, rfl, rfl, rfl⟩ | ⟨method, timeout, free, -, -, -⟩
    · exact ⟨taken, rfl, fun there owned => by rwa [List.append_nil]⟩
    · exact absurd (taken.symm.trans free) (by simp)
  signalled {log transport} signal := by
    have same : (transport.react signal).stateLock = transport.stateLock := by cases signal <;> rfl
    refine ⟨same, fun held => ?_, fun there owned => ?_⟩
    · rw [pullProgram, List.append_nil]
      exact held.react signal
    · rw [pullProgram, List.append_nil]
      exact ⟨owned.1.react signal, owned.2.react signal⟩

/-- The latest sample and both caches are the same. -/
def SameCaches (before after : PullTransport Payload Arrays Body) : Prop :=
  after.latestSample = before.latestSample ∧ after.latestState = before.latestState ∧
    after.latestBodyState = before.latestBodyState

/-- A statement either leaves the caches alone or returns a view. -/
def Restrained (transport : PullTransport Payload Arrays Body)
    (outcome : PullTransport.Outcome Payload Arrays Body) : Prop :=
  SameCaches transport outcome.1 ∨ ∃ view receipt, outcome.2.2 = [.returned view receipt]

theorem SameCaches.refl : SameCaches transport transport := ⟨rfl, rfl, rfl⟩

theorem fail_restrained : Restrained transport (transport.fail events) := .inl ⟨rfl, rfl, rfl⟩

theorem whenOpen_restrained {next : PullTransport.Outcome Payload Arrays Body}
    (restrained : Restrained transport next) : Restrained transport (transport.whenOpen next) := by
  unfold PullTransport.whenOpen
  split
  · exact fail_restrained
  · exact restrained

theorem fallBack_restrained (method : Method) (waits : Bool) :
    Restrained transport (transport.fallBack method waits) := by
  unfold PullTransport.fallBack
  split
  · exact .inl .refl
  · split
    · exact .inl .refl
    · exact fail_restrained

/-- Only a statement that returns a view touches the caches. -/
theorem step_restrained {position : Position Payload Arrays Body} {choice : Choice}
    {outcome : PullTransport.Outcome Payload Arrays Body}
    (stepped : transport.step codec position choice = some outcome) : Restrained transport outcome := by
  unfold PullTransport.step at stepped
  split at stepped
  case h_1 =>
    obtain ⟨-, only⟩ := Option.ite_none_left_eq_some.mp stepped
    obtain rfl := Option.some.inj only
    exact .inl ⟨rfl, rfl, rfl⟩
  case h_2 =>
    split at stepped <;> obtain rfl := Option.some.inj stepped
    · exact fail_restrained
    · exact whenOpen_restrained (.inl .refl)
  case h_3 =>
    obtain rfl := Option.some.inj stepped
    exact .inl ⟨rfl, rfl, rfl⟩
  case h_4 =>
    obtain rfl := Option.some.inj stepped
    exact whenOpen_restrained (.inl .refl)
  case h_5 | h_6 =>
    obtain rfl := Option.some.inj stepped
    exact whenOpen_restrained (fallBack_restrained _ _)
  case h_7 =>
    obtain ⟨sample, -, rfl⟩ := Option.map_eq_some_iff.mp stepped
    exact .inl ⟨rfl, rfl, rfl⟩
  case h_8 =>
    obtain rfl := Option.some.inj stepped
    exact .inl .refl
  case h_9 =>
    split at stepped <;> obtain rfl := Option.some.inj stepped
    · exact fail_restrained
    · exact whenOpen_restrained (.inl .refl)
  case h_10 =>
    split at stepped
    · obtain rfl := Option.some.inj stepped
      exact .inr ⟨_, _, rfl⟩
    · split at stepped <;> obtain rfl := Option.some.inj stepped
      · exact .inl .refl
      · exact fail_restrained
  case h_11 =>
    split at stepped
    · simp at stepped
    · obtain rfl := Option.some.inj stepped
      exact fail_restrained
  case h_12 =>
    obtain rfl := Option.some.inj stepped
    unfold PullTransport.whenOpen
    split
    · exact fail_restrained
    · exact .inr ⟨_, _, rfl⟩
  case h_13 | h_14 =>
    obtain rfl := Option.some.inj stepped
    exact fail_restrained
  case h_15 => simp at stepped

/-- The fields of a returned view are the decode of its frame and the clocks of its receipt. -/
def ShownFrom (codec : Codec Payload Arrays Body) (receipt : Receipt Payload) : View Arrays Body → Prop
  | .arrays state =>
      codec.decodeBodyStateArrays receipt.sample.payload = some state.decoded ∧
        state.receivedMonotonicNs = receipt.mono ∧ state.receivedRealtimeNs = receipt.wall ∧
        state.pullContextReceiveStampNs = receipt.sample.receiveStampNs
  | .body state => codec.decodeBodyStateNative receipt.sample.payload = some state

theorem shownFrom_decode {method : Method} {receipt : Receipt Payload} {view : View Arrays Body}
    (decoded : codec.decode method receipt = some view) : ShownFrom codec receipt view := by
  cases method with
  | waitState =>
      obtain ⟨state, decodes, rfl⟩ := Option.map_eq_some_iff.mp decoded
      exact ⟨decodes, rfl, rfl, rfl⟩
  | waitBodyState =>
      obtain ⟨state, decodes, rfl⟩ := Option.map_eq_some_iff.mp decoded
      exact decodes

section Runs

variable {Thread : Type*} [DecidableEq Thread]

/-- A transport starts with an empty ring, empty caches and all threads outside. -/
def opened (Payload Arrays Body Thread : Type*) :
    Pool Thread (PullTransport Payload Arrays Body) (Position Payload Arrays Body) :=
  ⟨{}, fun _ => .idle⟩

/-- What a run of the transport guarantees about its caches and about the views it returned. -/
structure OneSample (codec : Codec Payload Arrays Body)
    (moves : List (Move (Pool Thread (PullTransport Payload Arrays Body) (Position Payload Arrays Body))
      (PoolInput Thread (Method × PyValue) Choice (Signal Payload)) (Event Payload Arrays Body)))
    (transport : PullTransport Payload Arrays Body) : Prop where
  caches : CachesDecode codec transport
  receipts : ∀ view receipt, .returned view receipt ∈ trace moves →
    .pulled receipt ∈ trace moves ∧ ShownFrom codec receipt view
  once : ∀ first second, .pulled first ∈ trace moves → .pulled second ∈ trace moves →
    first.sample.arrival = second.sample.arrival → first = second
  monotone : ((trace moves).filterMap Event.shownFrame).Pairwise (· ≤ ·)
  touched : ∀ move ∈ moves, SameCaches move.before.shared move.after.shared ∨
    ∃ view receipt, move.events = [.returned view receipt]
  failed : ∀ move ∈ moves, ∀ receipt, .decodeFailed receipt ∈ move.events →
    SameCaches move.before.shared move.after.shared

/-- Only a move that returns a view touches the caches. -/
theorem move_restrained {pool next : Pool Thread (PullTransport Payload Arrays Body) (Position Payload Arrays Body)}
    {input : PoolInput Thread (Method × PyValue) Choice (Signal Payload)}
    (accepted : ((pullProgram codec).machine Thread).step pool input = some (next, events)) :
    SameCaches pool.shared next.shared ∨ ∃ view receipt, events = [.returned view receipt] := by
  cases Program.machine_cases accepted with
  | call ready => exact .inl .refl
  | run stepped => exact step_restrained stepped
  | signal signal => cases signal <;> exact .inl ⟨rfl, rfl, rfl⟩

/-- Both caches stay decodes of one sample, views come in the order of their frames with their own
receipt clocks, and a failed decode changes nothing. -/
theorem decoding_one_sample (codec : Codec Payload Arrays Body)
    {moves : List (Move (Pool Thread (PullTransport Payload Arrays Body) (Position Payload Arrays Body))
      (PoolInput Thread (Method × PyValue) Choice (Signal Payload)) (Event Payload Arrays Body))}
    {final : Pool Thread (PullTransport Payload Arrays Body) (Position Payload Arrays Body)}
    (run : ((pullProgram codec).machine Thread).Run (opened Payload Arrays Body Thread) moves final) :
    OneSample codec moves final.shared := by
  have start : Consistent codec [] (opened Payload Arrays Body Thread).shared := by
    refine ⟨?_, by simp [opened], by simp, by simp, .nil, by simp, by simp [opened], by simp⟩
    intro method view found
    cases method <;> exact absurd found (by simp [opened, PullTransport.cached])
  have held : Consistent codec (trace moves) final.shared := by
    cases (disciplined codec).run (.free rfl start fun _ => rfl) run with
    | free _ kept _ => exact kept
    | held _ _ _ kept _ => exact kept.1
  have restrained : ∀ move ∈ moves, SameCaches move.before.shared move.after.shared ∨
      ∃ view receipt, move.events = [.returned view receipt] := by
    intro move member
    obtain ⟨earlier, later, cut⟩ := List.append_of_mem member
    exact move_restrained (run.at_move cut).2.1
  refine ⟨held.caches, fun view receipt found => ?_, held.once, held.monotone, restrained, ?_⟩
  · obtain ⟨pulled, method, decoded⟩ := held.shown view receipt found
    exact ⟨pulled, shownFrom_decode decoded⟩
  · intro move member receipt found
    refine (restrained move member).resolve_right ?_
    rintro ⟨view, other, only⟩
    simp [only] at found

/-- Payload 0 has no array view and payload 1 no body view. -/
def sampleCodec : Codec ℕ ℕ ℕ where
  decodeBodyStateArrays payload := if payload = 0 then none else some payload
  decodeBodyStateNative payload := if payload = 1 then none else some payload

/-- One call without a wait runs from the lock to its last statement. -/
def pollOnce (thread : Bool) (method : Method) (choices : List Choice) :
    List (PoolInput Bool (Method × PyValue) Choice (Signal ℕ)) :=
  .call thread (method, .int 0) :: (choices.map (PoolInput.run thread))

/-- Two threads read one frame by both methods, the next frame fails to decode, a third one arrives. -/
def sharedReads : List (PoolInput Bool (Method × PyValue) Choice (Signal ℕ)) :=
  .signal (.arrive 7 42) :: pollOnce true .waitState [.go, .go, .go, .go, .clocks 100 10, .go, .go] ++
    .signal (.arrive 1 43) :: pollOnce false .waitBodyState [.go, .go, .go, .go, .clocks 200 20, .go] ++
    pollOnce false .waitBodyState [.go, .go, .go, .go, .go, .go] ++
    .signal (.arrive 9 44) :: pollOnce true .waitBodyState [.go, .go, .go, .go, .clocks 300 30, .go, .go]

/-- The failed frame is skipped and the cached one keeps its first receipt. -/
theorem decoding_one_sample_shared :
    ∃ moves final, ((pullProgram sampleCodec).machine Bool).Run (opened ℕ ℕ ℕ Bool) moves final ∧
      (trace moves).filterMap Event.shownFrame = [0, 0, 2] ∧
      .returned (.arrays ⟨7, 10, 100, 42⟩) ⟨⟨0, 7, 42⟩, 100, 10⟩ ∈ trace moves ∧
      .decodeFailed ⟨⟨1, 1, 43⟩, 200, 20⟩ ∈ trace moves ∧ OneSample sampleCodec moves final.shared := by
  obtain ⟨moves, final, run, _, shown, arrays, failed⟩ :=
    ((pullProgram sampleCodec).machine Bool).exists_run (opened ℕ ℕ ℕ Bool) sharedReads
      (fun moves _ => (trace moves).filterMap Event.shownFrame = [0, 0, 2] ∧
        .returned (.arrays ⟨7, 10, 100, 42⟩) ⟨⟨0, 7, 42⟩, 100, 10⟩ ∈ trace moves ∧
        .decodeFailed ⟨⟨1, 1, 43⟩, 200, 20⟩ ∈ trace moves) (by decide +kernel)
  exact ⟨moves, final, run, shown, arrays, failed, decoding_one_sample sampleCodec run⟩

end Runs

end HumanoidSdk.Pull
