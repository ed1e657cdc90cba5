import HumanoidSdk.Joy.Drain

namespace HumanoidSdk.Joy

/-- The generated getters decode this payload. -/
def Sample.decodable (sample : Sample) : Bool := sample.payload.isSome

/-- The counters of several reads add up to those of one read. -/
structure AddsUp (snapshots : List JoySnapshot) (whole : JoySnapshot) : Prop where
  pressed : ∀ button, (snapshots.map fun part => part.pressedCounts button).sum = whole.pressedCounts button
  released : ∀ button, (snapshots.map fun part => part.releasedCounts button).sum = whole.releasedCounts button
  missing : (snapshots.map JoySnapshot.missingSamplesSinceRead).sum = whole.missingSamplesSinceRead
  samples : (snapshots.map JoySnapshot.samplesSinceRead).sum = whole.samplesSinceRead
  diagnostics : ∀ name,
    (snapshots.map fun part => part.sequenceDiagnostics name).sum = whole.sequenceDiagnostics name

/-- Two snapshots show the same frames and differ at most in the traces of malformed payloads. -/
structure SameFrames (snapshot other : JoySnapshot) : Prop where
  shown : snapshot.axes = other.axes ∧ snapshot.buttons = other.buttons ∧
    snapshot.receivedRealtimeNs = other.receivedRealtimeNs ∧
    snapshot.publishedRealtimeNs = other.publishedRealtimeNs
  edges : snapshot.pressedCounts = other.pressedCounts ∧ snapshot.releasedCounts = other.releasedCounts
  missing : snapshot.missingSamplesSinceRead = other.missingSamplesSinceRead ∧
    snapshot.missingSamplesTotal = other.missingSamplesTotal
  samples : snapshot.samplesSinceRead = other.samplesSinceRead ∧ snapshot.samplesTotal = other.samplesTotal
  sequence : snapshot.sequenceAvailable = other.sequenceAvailable
  diagnostics : ∀ name, name ≠ .decodeError →
    snapshot.sequenceDiagnostics name = other.sequenceDiagnostics name

/-- Every read of some samples reports a complete history. -/
def AllComplete (parts : List (List Sample)) (snapshots : List JoySnapshot) : Prop :=
  ∀ entry ∈ parts.zip snapshots, entry.1 ≠ [] → entry.2.eventHistoryComplete = true

namespace JoyReader

variable {reader final : JoyReader} {snapshot : JoySnapshot} {snapshots : List JoySnapshot}

theorem read_ok {samples : List Sample} (done : reader.read samples = .ok (snapshot, final)) :
    reader.closed = false ∧ snapshot = (reader.drain samples).snapshot ∧ final = (reader.drain samples).settle := by
  unfold read at done
  cases closed : reader.closed with
  | true => simp [closed] at done
  | false =>
      simp only [closed, Bool.false_eq_true, if_false, Except.ok.injEq, Prod.mk.injEq] at done
      exact ⟨rfl, done.1.symm, done.2.symm⟩

theorem readAll_cons {samples : List Sample} {rest : List (List Sample)}
    (done : reader.readAll (samples :: rest) = .ok (snapshots, final)) :
    ∃ others, reader.closed = false ∧ snapshots = (reader.drain samples).snapshot :: others ∧
      (reader.drain samples).settle.readAll rest = .ok (others, final) := by
  simp only [readAll] at done
  cases first : reader.read samples with
  | error message => simp [first, bind, Except.bind] at done
  | ok answer =>
      obtain ⟨opened, shown, settled⟩ := read_ok (show reader.read samples = .ok (answer.1, answer.2) from first)
      cases others : answer.2.readAll rest with
      | error message => simp [first, others, bind, Except.bind] at done
      | ok tail =>
          simp only [first, others, bind, Except.bind, pure, Except.pure, Except.ok.injEq, Prod.mk.injEq] at done
          obtain ⟨rfl, rfl⟩ := done
          exact ⟨tail.1, opened, by rw [shown], by rw [← settled, others]⟩

/-- The counters of a first read come on top of those of the later ones. -/
theorem addsUp_cons {first : JoyReader} (later : AddsUp snapshots reader.snapshot) (errors : ℕ) (known : Bool) :
    AddsUp (first.snapshot :: snapshots) (reader.carry first.pending errors known).snapshot where
  pressed button := by rw [List.map_cons, List.sum_cons, later.pressed]; rfl
  released button := by rw [List.map_cons, List.sum_cons, later.released]; rfl
  missing := by rw [List.map_cons, List.sum_cons, later.missing]; rfl
  samples := by rw [List.map_cons, List.sum_cons, later.samples]; rfl
  diagnostics name := by rw [List.map_cons, List.sum_cons, later.diagnostics]; rfl

/-- Reads of the parts count, leave and report what a drain of the whole does. -/
theorem readAll_drain {parts : List (List Sample)} (idle : reader.pending = {})
    (done : reader.readAll parts = .ok (snapshots, final)) :
    AddsUp snapshots (reader.drain parts.flatten).snapshot ∧
      { final with historyComplete := (reader.drain parts.flatten).complete } =
        (reader.drain parts.flatten).settle ∧
      ((reader.drain parts.flatten).pending.incomplete = false ↔ AllComplete parts snapshots) := by
  induction parts generalizing reader snapshots with
  | nil =>
      obtain ⟨rfl, rfl⟩ : [] = snapshots ∧ reader = final := by simpa [readAll] using done
      refine ⟨⟨?_, ?_, ?_, ?_, ?_⟩, ?_, ?_⟩
      all_goals simp [drain, snapshot, settle, AllComplete, idle]
  | cons samples rest ih =>
      obtain ⟨others, opened, rfl, later⟩ := readAll_cons done
      have settled : (reader.drain samples).settle.pending = {} := rfl
      obtain ⟨adds, left, complete⟩ := ih settled later
      rw [List.flatten_cons, drain_settle]
      refine ⟨addsUp_cons adds _ _, ?_, ?_⟩
      · have same := congrArg (fun last : JoyReader => { last with historyComplete :=
          (((reader.drain samples).settle.drain rest.flatten).carry (reader.drain samples).pending 0
            (reader.drain samples).historyComplete).complete }) left
        exact same
      · have head : (reader.drain samples).pending.incomplete = false ↔
            (samples ≠ [] → (reader.drain samples).complete = true) := by
          by_cases none : samples = []
          · simp [none, drain, idle]
          · rw [drain_complete reader none]
            simp [none]
        show ((reader.drain samples).pending.incomplete ||
          ((reader.drain samples).settle.drain rest.flatten).pending.incomplete) = false ↔ _
        rw [Bool.or_eq_false_iff, complete, head]
        simp only [AllComplete, List.zip_cons_cons, List.forall_mem_cons]
        exact Iff.rfl

/-- The counters of this many malformed payloads. -/
def malformed (count : ℕ) : Pending where
  incomplete := decide (count ≠ 0)
  diagnostics := Function.update (fun _ => 0) .decodeError count

theorem carry_carry (first second : Pending) (errors more : ℕ) (known now : Bool) :
    (reader.carry first errors known).carry second more now =
      reader.carry (second + first) (errors + more) now := by
  simp only [carry, JoyReader.mk.injEq, true_and]
  refine ⟨Nat.add_assoc _ _ _, ?_⟩
  ext
  all_goals simp [Nat.add_assoc, Bool.or_assoc]

theorem malformed_succ (count : ℕ) : malformed 1 + malformed count = malformed (count + 1) := by
  ext name
  · rfl
  · rfl
  · rfl
  · rfl
  · simp [malformed]
  · cases name <;> simp [malformed, Nat.add_comm]

/-- A malformed payload leaves one error and one diagnostic. -/
theorem malformed_one (pending : Pending) : malformed 1 + pending = pending.diagnose .decodeError := by
  ext name
  · simp [malformed, Pending.diagnose]
  · simp [malformed, Pending.diagnose]
  · simp [malformed, Pending.diagnose]
  · simp [malformed, Pending.diagnose]
  · simp [malformed, Pending.diagnose]
  · cases name <;> simp [malformed, Pending.diagnose, bump, Nat.add_comm]

theorem malformed_zero : malformed 0 = {} := by
  ext name
  · rfl
  · rfl
  · rfl
  · rfl
  · rfl
  · cases name <;> rfl

/-- A sample leaves it to the end of the read whether the history is complete. -/
theorem receive_historyComplete (reader : JoyReader) (sample : Sample) :
    (reader.receive sample).historyComplete = reader.historyComplete := by
  have same := carry_receive reader {} 0 reader.historyComplete sample
  rw [carry_empty] at same
  have kept := congrArg JoyReader.historyComplete same
  exact kept

/-- Malformed payloads add their own counters and change nothing else. -/
theorem drain_malformed (samples : List Sample) : ∃ count, ∀ reader : JoyReader, reader.drain samples =
    (reader.drain (samples.filter Sample.decodable)).carry (malformed count) count reader.historyComplete := by
  induction samples with
  | nil =>
      refine ⟨0, fun reader => ?_⟩
      rw [malformed_zero, List.filter_nil, show reader.drain [] = reader from rfl, carry_empty]
  | cons sample rest ih =>
      obtain ⟨count, same⟩ := ih
      by_cases good : sample.decodable = true
      · refine ⟨count, fun reader => ?_⟩
        rw [List.filter_cons_of_pos good]
        show (reader.receive sample).drain rest = ((reader.receive sample).drain _).carry _ _ _
        rw [same, receive_historyComplete]
      · refine ⟨count + 1, fun reader => ?_⟩
        have none : sample.payload = none := by simpa [Sample.decodable] using good
        have bad : reader.receive sample = reader.carry (malformed 1) 1 reader.historyComplete := by
          simp only [receive, none, carry, malformed_one]
          rfl
        rw [List.filter_cons_of_neg good]
        show (reader.receive sample).drain rest = _
        rw [bad, carry_drain, same, carry_carry, malformed_succ]

theorem carry_sameFrames (reader : JoyReader) (count errors : ℕ) (known : Bool) :
    SameFrames (reader.carry (malformed count) errors known).snapshot reader.snapshot := by
  constructor
  · exact ⟨rfl, rfl, rfl, rfl⟩
  · constructor
    · funext button
      exact Nat.zero_add _
    · funext button
      exact Nat.zero_add _
  · exact ⟨Nat.zero_add _, rfl⟩
  · exact ⟨Nat.zero_add _, rfl⟩
  · rfl
  · intro name other
    simp [snapshot, carry, malformed, other]

/-- Reads that skip malformed payloads show what the reads without them show. -/
theorem readAll_malformed {parts : List (List Sample)} {clean : List JoySnapshot} {last : JoyReader}
    {errors : ℕ} {known : Bool}
    (done : (reader.carry {} errors known).readAll parts = .ok (snapshots, final))
    (without : reader.readAll (parts.map (List.filter Sample.decodable)) = .ok (clean, last)) :
    List.Forall₂ SameFrames snapshots clean ∧
      final = { last with
        decodeErrorsTotal := final.decodeErrorsTotal, historyComplete := final.historyComplete } := by
  induction parts generalizing reader snapshots clean errors known with
  | nil =>
      obtain ⟨rfl, rfl⟩ : [] = snapshots ∧ reader.carry {} errors known = final := by simpa [readAll] using done
      obtain ⟨rfl, rfl⟩ : [] = clean ∧ reader = last := by simpa [readAll] using without
      exact ⟨.nil, by simp [carry]⟩
  | cons samples rest ih =>
      obtain ⟨others, _, rfl, later⟩ := readAll_cons done
      obtain ⟨cleaned, _, rfl, after⟩ := readAll_cons without
      obtain ⟨count, same⟩ := drain_malformed samples
      rw [same, carry_drain, carry_carry, Pending.add_empty] at later ⊢
      obtain ⟨tail, left⟩ := ih (show (((reader.drain (samples.filter Sample.decodable)).settle.carry {}
        (errors + count) _).readAll rest = .ok (others, final)) from later) after
      exact ⟨.cons (carry_sameFrames _ _ _ _) tail, left⟩

/-- The counters of several reads add up to those of one read, and so do the facts that the reader keeps. -/
def SplitInvariant (reader : JoyReader) : Prop :=
  ∀ parts snapshots final whole single, parts.flatten ≠ [] → reader.readAll parts = .ok (snapshots, final) →
    reader.read parts.flatten = .ok (whole, single) →
    AddsUp snapshots whole ∧
      final = { single with historyComplete := final.historyComplete } ∧
      (whole.eventHistoryComplete = true ↔ AllComplete parts snapshots)

/-- A read hands out everything that the aborted reads right before it have drained. -/
def AbortLossless (reader : JoyReader) : Prop :=
  ∀ (aborted : List (List Sample)) (samples : List Sample),
    (aborted.foldl readAborted reader).read samples = reader.read (aborted.flatten ++ samples)

/-- Reads without the malformed payloads show the same frames and leave the same reader. -/
def MalformedInert (reader : JoyReader) : Prop :=
  ∀ parts snapshots final clean last, reader.readAll parts = .ok (snapshots, final) →
    reader.readAll (parts.map (List.filter Sample.decodable)) = .ok (clean, last) →
    List.Forall₂ SameFrames snapshots clean ∧
      final = { last with
        decodeErrorsTotal := final.decodeErrorsTotal, historyComplete := final.historyComplete }

/-- An open reader answers every sequence of reads. -/
theorem readAll_open (opened : reader.closed = false) (parts : List (List Sample)) :
    ∃ snapshots final, reader.readAll parts = .ok (snapshots, final) := by
  induction parts generalizing reader with
  | nil => exact ⟨[], reader, rfl⟩
  | cons samples rest ih =>
      have still : (reader.drain samples).settle.closed = false := (drain_closed reader samples).trans opened
      obtain ⟨others, final, later⟩ := ih still
      refine ⟨(reader.drain samples).snapshot :: others, final, ?_⟩
      simp [readAll, read, opened, later, bind, Except.bind, pure, Except.pure]

theorem split_invariant (idle : reader.pending = {}) : SplitInvariant reader := by
  intro parts snapshots final whole single some done once
  obtain ⟨adds, left, complete⟩ := readAll_drain idle done
  obtain ⟨_, rfl, rfl⟩ := read_ok once
  refine ⟨adds, ?_, ?_⟩
  · rw [← left]
  · rw [← complete]
    show (reader.drain parts.flatten).complete = true ↔ _
    rw [drain_complete reader some]
    simp

theorem abort_lossless (reader : JoyReader) : AbortLossless reader := by
  intro aborted samples
  induction aborted generalizing reader with
  | nil => rfl
  | cons first rest ih =>
      rw [List.foldl_cons, ih, List.flatten_cons, List.append_assoc]
      unfold readAborted
      cases closed : reader.closed with
      | true => rw [if_pos rfl, read, read, closed, if_pos rfl, if_pos rfl]
      | false =>
          rw [if_neg (by simp), read, read, drain_closed, closed, if_neg (by simp), if_neg (by simp),
            drain_append reader first]

/-- An open reader answers every sequence of reads, and its drains may be split into reads, may be aborted
and may contain malformed payloads. -/
theorem drains_invariant (idle : reader.pending = {}) :
    (reader.closed = false → ∀ parts, ∃ snapshots final, reader.readAll parts = .ok (snapshots, final)) ∧
      SplitInvariant reader ∧ AbortLossless reader ∧ MalformedInert reader := by
  refine ⟨readAll_open, split_invariant idle, abort_lossless reader, ?_⟩
  intro parts snapshots final clean last done without
  have carried : (reader.carry {} 0 reader.historyComplete).readAll parts = .ok (snapshots, final) := by
    rw [carry_empty]
    exact done
  exact readAll_malformed carried without

end JoyReader

/-- A frame of one button from one publisher. -/
def buttonSample (sequence : UInt64) (button : ℤ) : Sample :=
  ⟨some ⟨[], [button], some ⟨sequence, some "pad", 0⟩⟩, 0⟩

/-- Three reads with a repeated and a malformed frame add up to one read that counts one press. -/
theorem drains_invariant_press : ∃ snapshots final whole single,
    JoyReader.readAll {} [[buttonSample 0 0, buttonSample 1 1], [buttonSample 1 1], [⟨none, 0⟩, buttonSample 2 0]] =
      .ok (snapshots, final) ∧
    JoyReader.read {} [buttonSample 0 0, buttonSample 1 1, buttonSample 1 1, ⟨none, 0⟩, buttonSample 2 0] =
      .ok (whole, single) ∧
    AddsUp snapshots whole ∧ whole.pressedCounts 0 = 1 ∧ whole.sequenceDiagnostics .duplicate = 1 ∧
    whole.decodeErrorsTotal = 1 := by
  obtain ⟨_, split, _⟩ := JoyReader.drains_invariant (show ({} : JoyReader).pending = {} from rfl)
  have done : JoyReader.readAll {} [[buttonSample 0 0, buttonSample 1 1], [buttonSample 1 1],
      [⟨none, 0⟩, buttonSample 2 0]] = .ok _ := rfl
  have once : JoyReader.read {} [buttonSample 0 0, buttonSample 1 1, buttonSample 1 1, ⟨none, 0⟩,
      buttonSample 2 0] = .ok _ := rfl
  exact ⟨_, _, _, _, done, once, (split _ _ _ _ _ (by simp) done once).1, rfl, rfl, rfl⟩

end HumanoidSdk.Joy
