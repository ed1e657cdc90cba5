import Mathlib.Algebra.Order.Ring.Rat
import HumanoidSdk.Foundation.Waiting

/-
This file translates BodyStateSource in python/locomotion_aorta/state.py. An update is one section under
`_condition`, and snapshots are numbered in the order in which they were stored. The node and the decoding of
a snapshot are left out.
-/

namespace HumanoidSdk.Feedback
open Foundation

variable {Payload Thread : Type}

/-- A snapshot with the clocks that the callback has read. -/
structure BodyStateSnapshot (Payload : Type) where
  number : ℕ
  payload : Payload
  receivedMonotonicNs : ℤ
  receivedRealtimeNs : ℤ
  deriving DecidableEq

structure BodyStateSource (Payload : Type) where
  latest : Option (BodyStateSnapshot Payload) := none
  closed : Bool := false
  stored : ℕ := 0

/-- The callback stores a payload, or the source is closed. -/
inductive SourceUpdate (Payload : Type)
  | receive (payload : Payload) (monotonicNs realtimeNs : ℤ)
  | close
  deriving DecidableEq

namespace BodyStateSource

variable (source : BodyStateSource Payload)

/-- The section of `_receive`, and whether it notifies. -/
def receive (payload : Payload) (monotonicNs realtimeNs : ℤ) : BodyStateSource Payload × Bool :=
  if source.closed then (source, false)
  else ({ source with
    latest := some ⟨source.stored, payload, monotonicNs, realtimeNs⟩
    stored := source.stored + 1 }, true)

/-- The section of `close`, and whether it notifies. -/
def close : BodyStateSource Payload × Bool :=
  if source.closed then (source, false) else ({ source with closed := true }, true)

/-- What `snapshot` returns or raises, unless it waits. The argument `after` is a snapshot by its number. -/
def snapshot (after : Option ℕ) : Option (Except String (BodyStateSnapshot Payload)) :=
  if source.closed then some (.error "body state source is closed")
  else (source.latest.filter fun latest => decide (some latest.number ≠ after)).map .ok

end BodyStateSource

/-- The threads that wait in `snapshot`. -/
def sourceRoom (Payload : Type) :
    Room (BodyStateSource Payload) (SourceUpdate Payload) (Option ℕ) (Except String (BodyStateSnapshot Payload)) where
  answer after source := source.snapshot after
  apply source
    | .receive payload monotonicNs realtimeNs => source.receive payload monotonicNs realtimeNs
    | .close => source.close

/-- Every update of a source that changes it notifies. -/
theorem source_announces (after : Option ℕ) : (sourceRoom Payload).Announces after := by
  apply Room.announces_of_unchanged
  intro source update silent
  cases update with
  | receive payload monotonicNs realtimeNs =>
      change (source.receive payload monotonicNs realtimeNs).2 = false at silent
      show (source.receive payload monotonicNs realtimeNs).1 = source
      unfold BodyStateSource.receive at silent ⊢
      split at silent
      · rename_i closed
        rw [if_pos closed]
      · cases silent
  | close =>
      change source.close.2 = false at silent
      show source.close.1 = source
      unfold BodyStateSource.close at silent ⊢
      split at silent
      · rename_i closed
        rw [if_pos closed]
      · cases silent

section Log

/-- What happens at a source. -/
abbrev SourceEvent (Payload Thread : Type) :=
  WaitEvent Thread (SourceUpdate Payload) (Option ℕ) (Except String (BodyStateSnapshot Payload)) ℚ

/-- The payload of a delivery with its clocks. -/
def delivery : SourceEvent Payload Thread → Option (Payload × ℤ × ℤ)
  | .updated (.receive payload monotonicNs realtimeNs) => some (payload, monotonicNs, realtimeNs)
  | _ => none

def deliveries (log : List (SourceEvent Payload Thread)) : List (Payload × ℤ × ℤ) := log.filterMap delivery

/-- The number of a snapshot that a call returns. -/
def returnedNumber : SourceEvent Payload Thread → Option ℕ
  | .returned _ _ (.ok snapshot) => some snapshot.number
  | _ => none

/-- The last delivery as a snapshot. -/
def newest (log : List (SourceEvent Payload Thread)) : Option (BodyStateSnapshot Payload) :=
  (deliveries log).getLast?.map fun last => ⟨(deliveries log).length - 1, last.1, last.2.1, last.2.2⟩

/-- A call returns the last delivery unless the source was closed. It is no older than any that a call has
returned before and another one than the caller has. A call expires only when there is no such delivery. -/
def Newest (log : List (SourceEvent Payload Thread)) : SourceEvent Payload Thread → Prop
  | .returned _ after (.ok snapshot) => .updated .close ∉ log ∧ newest log = some snapshot ∧
      some snapshot.number ≠ after ∧ ∀ number ∈ log.filterMap returnedNumber, number ≤ snapshot.number
  | .returned _ _ (.error message) => .updated .close ∈ log ∧ message = "body state source is closed"
  | .expired _ after _ => .updated .close ∉ log ∧ ∀ snapshot ∈ newest log, some snapshot.number = after
  | .called .. | .updated _ => True

variable {log : List (SourceEvent Payload Thread)}

theorem deliveries_append (log events : List (SourceEvent Payload Thread)) :
    deliveries (log ++ events) = deliveries log ++ deliveries events := List.filterMap_append

/-- The state of a source after a log. -/
structure Mirrors (log : List (SourceEvent Payload Thread)) (source : BodyStateSource Payload) : Prop where
  closed : source.closed = true ↔ .updated .close ∈ log
  latest : source.closed = false → source.latest = newest log ∧ source.stored = (deliveries log).length

theorem mirrors_after (log : List (SourceEvent Payload Thread)) : Mirrors log ((sourceRoom Payload).after {} log) := by
  induction log using List.reverseRecOn with
  | nil => exact ⟨⟨by rintro ⟨⟩, by rintro ⟨⟩⟩, fun _ => ⟨rfl, rfl⟩⟩
  | append_singleton log event ih =>
      obtain ⟨closed, latest⟩ := ih
      rw [Room.after_snoc]
      generalize (sourceRoom Payload).after {} log = source at closed latest
      have quiet (same : event ≠ .updated .close) (silent : delivery event = none)
          (kept : (sourceRoom Payload).follow source event = source) :
          Mirrors (log ++ [event]) ((sourceRoom Payload).follow source event) := by
        have nothing : deliveries (log ++ [event]) = deliveries log := by
          rw [deliveries_append, deliveries, deliveries, List.filterMap_cons_none silent]
          exact List.append_nil _
        rw [kept]
        refine ⟨?_, ?_⟩
        · rw [closed, List.mem_append, List.mem_singleton]
          exact ⟨.inl, fun either => either.resolve_right same.symm⟩
        · rw [newest, nothing]
          exact latest
      cases event with
      | called thread after deadline => exact quiet (by rintro ⟨⟩) rfl rfl
      | returned thread after result =>
          apply quiet (by rintro ⟨⟩)
          · rfl
          · rfl
      | expired thread after now => exact quiet (by rintro ⟨⟩) rfl rfl
      | updated update =>
          cases update with
          | close =>
              have shut : source.close.1.closed = true := by
                unfold BodyStateSource.close
                split
                · assumption
                · rfl
              refine ⟨⟨fun _ => by simp, fun _ => shut⟩, fun open' => ?_⟩
              exact absurd (shut.symm.trans open') (by decide)
          | receive payload monotonicNs realtimeNs =>
              have grown : deliveries (log ++ [.updated (.receive payload monotonicNs realtimeNs)]) =
                  deliveries log ++ [(payload, monotonicNs, realtimeNs)] := deliveries_append _ _
              show Mirrors _ (source.receive payload monotonicNs realtimeNs).1
              unfold BodyStateSource.receive
              split
              · rename_i shut
                refine ⟨?_, fun open' => absurd (shut.symm.trans open') (by decide)⟩
                simpa using closed
              · rename_i open'
                obtain ⟨-, stored⟩ := latest (Bool.eq_false_iff.mpr open')
                refine ⟨by simpa using closed, fun _ => ⟨?_, ?_⟩⟩
                · rw [newest, grown, List.getLast?_concat, List.length_append, List.length_singleton,
                    Nat.add_sub_cancel, stored]
                  rfl
                · rw [grown, List.length_append, List.length_singleton, stored]

/-- What a call finds. -/
theorem snapshot_ok {source : BodyStateSource Payload} {after : Option ℕ} {snapshot : BodyStateSnapshot Payload}
    (found : source.snapshot after = some (.ok snapshot)) :
    source.closed = false ∧ source.latest = some snapshot ∧ some snapshot.number ≠ after := by
  unfold BodyStateSource.snapshot at found
  split at found
  · cases found
  · rename_i open'
    obtain ⟨latest, kept, same⟩ := Option.map_eq_some_iff.mp found
    cases same
    obtain ⟨isLatest, other⟩ := Option.filter_eq_some_iff.mp kept
    exact ⟨Bool.eq_false_iff.mpr open', isLatest, of_decide_eq_true other⟩

theorem snapshot_error {source : BodyStateSource Payload} {after : Option ℕ} {message : String}
    (found : source.snapshot after = some (.error message)) :
    source.closed = true ∧ message = "body state source is closed" := by
  unfold BodyStateSource.snapshot at found
  split at found
  · rename_i closed
    cases found
    exact ⟨closed, rfl⟩
  · obtain ⟨latest, -, same⟩ := Option.map_eq_some_iff.mp found
    cases same

/-- What ends a call before its deadline: the source is closed, or another snapshot than the known one came. -/
inductive BodyStateSource.Ends (source : BodyStateSource Payload) (after : Option ℕ) :
    Except String (BodyStateSnapshot Payload) → Prop
  | closed (shut : source.closed = true) : Ends source after (.error "body state source is closed")
  | came (opened : source.closed = false) {snapshot : BodyStateSnapshot Payload}
      (latest : source.latest = some snapshot) (other : some snapshot.number ≠ after) :
      Ends source after (.ok snapshot)

theorem source_ends {source : BodyStateSource Payload} {after : Option ℕ}
    {result : Except String (BodyStateSnapshot Payload)}
    (answered : (sourceRoom Payload).answer after source = some result) : source.Ends after result := by
  cases result with
  | error message =>
      obtain ⟨shut, rfl⟩ := snapshot_error answered
      exact .closed shut
  | ok snapshot =>
      obtain ⟨opened, latest, other⟩ := snapshot_ok answered
      exact .came opened latest other

theorem snapshot_none {source : BodyStateSource Payload} {after : Option ℕ} (found : source.snapshot after = none) :
    source.closed = false ∧ ∀ snapshot ∈ source.latest, some snapshot.number = after := by
  unfold BodyStateSource.snapshot at found
  split at found
  · cases found
  · rename_i open'
    refine ⟨Bool.eq_false_iff.mpr open', fun snapshot isLatest => ?_⟩
    by_contra other
    rw [Option.map_eq_none_iff, Option.mem_def.mp isLatest, Option.filter_some, if_pos (decide_eq_true other)] at found
    cases found

theorem newest_number {snapshot : BodyStateSnapshot Payload} (last : newest log = some snapshot) :
    snapshot.number + 1 = (deliveries log).length := by
  obtain ⟨delivered, isLast, same⟩ := Option.map_eq_some_iff.mp last
  have nonempty : 0 < (deliveries log).length := List.length_pos_of_mem (List.mem_of_getLast? isLast)
  cases same
  exact Nat.sub_add_cancel nonempty

/-- Calls that end as they should return the newest delivery. -/
theorem newest_of_punctual (justified : Justified (Punctual (sourceRoom Payload) {}) log) : Justified Newest log := by
  have returned {before after : List (SourceEvent Payload Thread)} {thread : Thread} {known : Option ℕ}
      {snapshot : BodyStateSnapshot Payload} (cut : log = before ++ .returned thread known (.ok snapshot) :: after) :
      .updated .close ∉ before ∧ newest before = some snapshot ∧ some snapshot.number ≠ known := by
    obtain ⟨closed, latest⟩ := mirrors_after before
    obtain ⟨open', isLatest, other⟩ := snapshot_ok (justified before _ after cut).1
    refine ⟨fun shut => ?_, ?_, other⟩
    · rw [closed.mpr shut] at open'
      cases open'
    · rw [← (latest open').1]
      exact isLatest
  intro before event after cut
  obtain ⟨closed, latest⟩ := mirrors_after before
  cases event with
  | called thread known deadline => trivial
  | updated update => trivial
  | expired thread known now =>
      obtain ⟨open', still⟩ := snapshot_none (justified before _ after cut).1
      refine ⟨fun shut => ?_, ?_⟩
      · rw [closed.mpr shut] at open'
        cases open'
      · rw [← (latest open').1]
        exact still
  | returned thread known result =>
      cases result with
      | error message =>
          obtain ⟨shut, same⟩ := snapshot_error (justified before _ after cut).1
          exact ⟨closed.mp shut, same⟩
      | ok snapshot =>
          obtain ⟨open', isNewest, other⟩ := returned cut
          refine ⟨open', isNewest, other, fun number member => ?_⟩
          obtain ⟨earlier, inside, same⟩ := List.mem_filterMap.mp member
          obtain ⟨past, rest, rfl⟩ := List.append_of_mem inside
          cases earlier with
          | returned thread' known' result =>
              cases result with
              | error message => cases same
              | ok old =>
                  cases same
                  have earlierCut : log = past ++ .returned thread' known' (.ok old) ::
                      (rest ++ .returned thread known (.ok snapshot) :: after) := by
                    rw [cut, List.append_assoc, List.cons_append]
                  obtain ⟨-, wasNewest, -⟩ := returned earlierCut
                  have now := newest_number isNewest
                  have then' := newest_number wasNewest
                  rw [deliveries_append, List.length_append] at now
                  omega
          | called _ _ _ | expired _ _ _ | updated _ => cases same

end Log

section Runs

variable [DecidableEq Thread] {begun : ℚ} {final : Timed ℚ (Crowd Thread (BodyStateSource Payload) (Option ℕ) ℚ)}
  {moves : List (Move (Timed ℚ (Crowd Thread (BodyStateSource Payload) (Option ℕ) ℚ))
    (ℚ × WaitInput Thread (SourceUpdate Payload) (Option ℕ) ℚ) (SourceEvent Payload Thread))}

/-- Whatever threads call `snapshot` while the callback stores payloads and the source is closed, each call
returns the last delivery of an open source, which is never older than one that was returned before. -/
theorem snapshot_newest
    (run : ((sourceRoom Payload).machine Thread).Run ⟨begun, { state := {} }⟩ moves final) :
    Justified Newest (trace moves) := newest_of_punctual (Room.run run).2

end Runs

/-- A reader gets two payloads one after the other, and nothing after the source is closed. -/
theorem snapshot_newest_run : ∃ moves final,
    ((sourceRoom Bool).machine Unit).Run ⟨(0 : ℚ), { state := {} }⟩ moves final ∧
      (trace moves).filterMap returnedNumber = [0, 1] ∧ Justified Newest (trace moves) := by
  obtain ⟨moves, final, run, -, numbers⟩ := ((sourceRoom Bool).machine Unit).exists_run ⟨(0 : ℚ), { state := {} }⟩
    [(0, .call () none 5), (0, .test ()), (1, .update (.receive true 1 1)), (1, .wake ()), (1, .test ()),
      (2, .call () (some 0) 5), (2, .test ()), (3, .update (.receive false 3 3)), (3, .wake ()), (3, .test ()),
      (4, .update .close), (4, .call () (some 1) 5), (4, .test ())]
    (fun moves _ => (trace moves).filterMap returnedNumber = [0, 1]) (by decide +kernel)
  exact ⟨moves, final, run, numbers, snapshot_newest run⟩

end HumanoidSdk.Feedback
