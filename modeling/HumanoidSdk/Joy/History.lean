import HumanoidSdk.Joy.Split
import Mathlib.Algebra.BigOperators.Intervals
import Mathlib.Order.Interval.Finset.Nat

namespace HumanoidSdk.Joy

/-- What a publisher puts into one frame besides its name and the sequence number. -/
structure Published where
  axes : List FloatValue
  buttons : List ℤ
  publishStampNs : ℤ

/-- A named publisher numbers fewer than 2 ^ 63 frames one after the other from any start. -/
structure History where
  publisher : String
  named : publisher ≠ ""
  start : UInt64
  length : ℕ
  short : length < 2 ^ 63
  published : ℕ → Published

namespace History

variable (history : History)

def sequence (index : ℕ) : UInt64 := history.start + UInt64.ofNat index

def buttons (index : ℕ) : List ℤ := (history.published index).buttons

def frame (index : ℕ) : JoyFrame where
  axes := (history.published index).axes
  buttons := history.buttons index
  header := some ⟨history.sequence index, some history.publisher, (history.published index).publishStampNs⟩

/-- The presses of a button in the history between two frames. -/
def presses (first last button : ℕ) : ℕ :=
  ∑ index ∈ Finset.Ico first last,
    (Pending.rises (history.buttons index) (history.buttons (index + 1)) button).toNat

/-- The releases of a button in the history between two frames. -/
def releases (first last button : ℕ) : ℕ :=
  ∑ index ∈ Finset.Ico first last,
    (Pending.falls (history.buttons index) (history.buttons (index + 1)) button).toNat

/-- The decodable samples are frames of the history in order, where any frame may repeat at once. -/
structure Delivers (samples : List Sample) (indices : List ℕ) : Prop where
  ordered : indices.Pairwise (· ≤ ·)
  inside : ∀ index ∈ indices, index < history.length
  frames : samples.filterMap Sample.payload = indices.map history.frame

/-- The distance of two sequence numbers is the distance of their frames. -/
theorem sequence_sub {first last : ℕ} (order : first ≤ last) (inside : last < history.length) :
    (history.sequence last - history.sequence first).toNat = last - first := by
  have short := history.short
  have start := history.start.toNat_lt
  unfold sequence
  rw [UInt64.toNat_sub, UInt64.toNat_add, UInt64.toNat_add, UInt64.toNat_ofNat',
    UInt64.toNat_ofNat']
  omega

@[simp] theorem frame_source (index : ℕ) : (history.frame index).source = some history.publisher := by
  simp [frame, JoyFrame.source, history.named]

@[simp] theorem frame_sequence (index : ℕ) : (history.frame index).sequence = some (history.sequence index) := rfl

theorem presses_succ {first last : ℕ} (order : first ≤ last) (button : ℕ) :
    history.presses first (last + 1) button = history.presses first last button +
      (Pending.rises (history.buttons last) (history.buttons (last + 1)) button).toNat :=
  Finset.sum_Ico_succ_top order _

theorem releases_succ {first last : ℕ} (order : first ≤ last) (button : ℕ) :
    history.releases first (last + 1) button = history.releases first last button +
      (Pending.falls (history.buttons last) (history.buttons (last + 1)) button).toNat :=
  Finset.sum_Ico_succ_top order _

end History

namespace JoyReader

/-- The frames of a drain that the reader accepts, which are those that it counts in its total. -/
def accepted : JoyReader → List Sample → List JoyFrame
  | _, [] => []
  | reader, sample :: rest =>
      (if (reader.receive sample).samplesTotal = reader.samplesTotal then [] else sample.payload.toList) ++
        accepted (reader.receive sample) rest

/-- The frames that the reader accepts in consecutive reads. -/
def acceptedIn : JoyReader → List (List Sample) → List JoyFrame
  | _, [] => []
  | reader, samples :: rest => reader.accepted samples ++ acceptedIn (reader.drain samples).settle rest

end JoyReader

/-- The reader has accepted these frames of the history, and it knows the last one. -/
structure Tracks (history : History) (indices : List ℕ) (reader : JoyReader) : Prop where
  total : reader.samplesTotal = indices.length
  fresh : indices = [] → reader.buttons = none ∧ reader.sequences history.publisher = none ∧
    reader.missingTotal = 0
  latest : ∀ first ∈ indices.head?, ∀ last ∈ indices.getLast?, first ≤ last ∧ last < history.length ∧
    reader.buttons = some (history.buttons last) ∧ reader.source = some history.publisher ∧
    reader.sequences history.publisher = some (history.sequence last) ∧
    reader.missingTotal + indices.length = last - first + 1

/-- A read without gaps has counted every edge between the frame before it and the last one. -/
structure Counts (history : History) (base latest : Option ℕ) (reader : JoyReader) : Prop where
  based : base = none → reader.pending.incomplete = false → latest = none
  counted : reader.pending.incomplete = false → ∀ first ∈ base, ∀ last ∈ latest, first ≤ last ∧
    ∀ button, reader.pending.pressed button = history.presses first last button ∧
      reader.pending.released button = history.releases first last button

section Step

variable {history : History} {indices : List ℕ} {reader : JoyReader} {base : Option ℕ} {index last : ℕ}
  {receivedNs : ℤ}

/-- The reader accepts this frame and compares its buttons with the previous ones. -/
def History.taken (history : History) (reader : JoyReader) (previous : Option (List ℤ)) (index : ℕ)
    (receivedNs : ℤ) : JoyReader :=
  ((reader.remember history.publisher (history.sequence index)).compare previous (history.buttons index)).commit
    (history.frame index) receivedNs

/-- The first frame starts a baseline. -/
theorem accept_first (empty : reader.samplesTotal = 0) (bare : reader.buttons = none)
    (unknown : reader.sequences history.publisher = none) :
    reader.accept (history.frame index) receivedNs = history.taken reader none index receivedNs := by
  simp only [JoyReader.accept, JoyReader.rebase, empty, ne_eq, not_true, false_and, if_false,
    History.frame_source, History.frame_sequence, JoyReader.follow, unknown, bare]
  rfl

/-- A frame that repeats the last one is a duplicate. -/
theorem accept_repeated (source : reader.source = some history.publisher)
    (known : reader.sequences history.publisher = some (history.sequence index)) :
    reader.accept (history.frame index) receivedNs = reader.diagnose .duplicate := by
  simp [JoyReader.accept, JoyReader.rebase, source, JoyReader.follow, known]

/-- A later frame is compared with the last one and skips the frames between them. -/
theorem accept_later (source : reader.source = some history.publisher)
    (known : reader.sequences history.publisher = some (history.sequence last)) (later : last < index)
    (inside : index < history.length) :
    reader.accept (history.frame index) receivedNs =
      history.taken (if index - last > 1 then reader.skip (index - last) else reader) reader.buttons index
        receivedNs := by
  have distance := history.sequence_sub (Nat.le_of_lt later) inside
  have short := history.short
  simp only [JoyReader.accept, JoyReader.rebase, source, History.frame_source, ne_eq, not_true, and_false, if_false,
    History.frame_sequence, JoyReader.follow, known, distance]
  rw [if_neg (by omega), if_neg (by omega)]
  split_ifs with gap
  · rfl
  · rfl

theorem compare_kept (reader : JoyReader) (previous : Option (List ℤ)) (buttons : List ℤ) :
    reader.compare previous buttons =
      { reader with pending := (reader.compare previous buttons).pending } := by
  cases previous with
  | none => rfl
  | some previous =>
      simp only [JoyReader.compare]
      split_ifs <;> rfl

/-- An accepted frame is the latest one that the reader knows. -/
theorem taken_kept (reader : JoyReader) (previous : Option (List ℤ)) :
    (history.taken reader previous index receivedNs).samplesTotal = reader.samplesTotal + 1 ∧
      (history.taken reader previous index receivedNs).buttons = some (history.buttons index) ∧
      (history.taken reader previous index receivedNs).source = some history.publisher ∧
      (history.taken reader previous index receivedNs).sequences history.publisher =
        some (history.sequence index) ∧
      (history.taken reader previous index receivedNs).missingTotal = reader.missingTotal := by
  unfold History.taken
  rw [compare_kept]
  exact ⟨rfl, rfl, history.frame_source index, Function.update_self _ _ _, rfl⟩

/-- An accepted frame leaves complete counters only when they were complete before it. -/
theorem taken_counts {previous : List ℤ}
    (complete : (history.taken reader (some previous) index receivedNs).pending.incomplete = false) :
    reader.pending.incomplete = false ∧ ∀ button,
      (history.taken reader (some previous) index receivedNs).pending.pressed button =
        reader.pending.pressed button + (Pending.rises previous (history.buttons index) button).toNat ∧
      (history.taken reader (some previous) index receivedNs).pending.released button =
        reader.pending.released button + (Pending.falls previous (history.buttons index) button).toNat := by
  simp only [History.taken, JoyReader.commit, JoyReader.compare, Pending.edges_eq] at complete ⊢
  split_ifs at complete ⊢ with changed
  · cases complete
  · exact ⟨complete, fun button => ⟨rfl, rfl⟩⟩

/-- A malformed payload loses the completeness and nothing else. -/
theorem tracks_malformed (tracks : Tracks history indices reader) {sample : Sample}
    (bad : sample.payload = none) : Tracks history indices (reader.receive sample) ∧
      Counts history base indices.getLast? (reader.receive sample) := by
  simp only [JoyReader.receive, bad]
  exact ⟨⟨tracks.total, tracks.fresh, tracks.latest⟩, ⟨by simp [JoyReader.diagnose, Pending.diagnose],
    by simp [JoyReader.diagnose, Pending.diagnose]⟩⟩

/-- The next frame of the history is accepted unless it repeats the last one. -/
theorem tracks_frame (tracks : Tracks history indices reader)
    (counts : Counts history base indices.getLast? reader) (order : ∀ last ∈ indices.getLast?, last ≤ index)
    (inside : index < history.length) :
    ∃ more, (if (reader.accept (history.frame index) receivedNs).samplesTotal = reader.samplesTotal then []
        else [history.frame index]) = more.map history.frame ∧
      (indices ++ more).getLast? = some index ∧
      Tracks history (indices ++ more) (reader.accept (history.frame index) receivedNs) ∧
      Counts history base (some index) (reader.accept (history.frame index) receivedNs) := by
  cases ends : indices.getLast? with
  | none =>
      have empty := List.getLast?_eq_none_iff.mp ends
      subst empty
      obtain ⟨bare, unknown, zero⟩ := tracks.fresh rfl
      rw [accept_first tracks.total bare unknown]
      obtain ⟨total, buttons, source, sequence, missing⟩ := @taken_kept history index receivedNs reader none
      refine ⟨[index], ?_, rfl, ⟨?_, ?_, ?_⟩, ⟨?_, ?_⟩⟩
      · rw [total, if_neg (by omega)]
        rfl
      · rw [total, tracks.total]
        rfl
      · simp
      · simp only [List.nil_append, List.head?_cons, List.getLast?_singleton, Option.mem_def, Option.some.injEq]
        rintro first rfl last rfl
        exact ⟨le_refl _, inside, buttons, source, sequence, by rw [missing, zero]; simp⟩
      · exact fun _ complete => by cases complete
      · exact fun complete => by cases complete
  | some last =>
      obtain ⟨first, starts⟩ : ∃ first, indices.head? = some first := by
        cases indices with
        | nil => cases ends
        | cons first rest => exact ⟨first, rfl⟩
      obtain ⟨before, known, buttons, source, sequence, missing⟩ := tracks.latest first starts last ends
      rcases Nat.lt_or_eq_of_le (order last ends) with later | rfl
      · rw [accept_later source sequence later inside, buttons]
        have skipped : (if index - last > 1 then reader.skip (index - last) else reader).samplesTotal =
              reader.samplesTotal ∧
            (if index - last > 1 then reader.skip (index - last) else reader).missingTotal =
              reader.missingTotal + (index - last - 1) ∧
            ((if index - last > 1 then reader.skip (index - last) else reader).pending.incomplete = false →
              index = last + 1 ∧ (if index - last > 1 then reader.skip (index - last) else reader) = reader) := by
          by_cases gap : index - last > 1
          · rw [if_pos gap]
            exact ⟨rfl, rfl, fun complete => by cases complete⟩
          · rw [if_neg gap]
            exact ⟨rfl, by omega, fun _ => ⟨by omega, rfl⟩⟩
        generalize (if index - last > 1 then reader.skip (index - last) else reader) = skip at skipped
        obtain ⟨same, gaps, near⟩ := skipped
        obtain ⟨total, buttons', source', sequence', missing'⟩ :=
          @taken_kept history index receivedNs skip (some (history.buttons last))
        have starts' : (indices ++ [index]).head? = some first := by rw [List.head?_append, starts]; rfl
        have ends' : (indices ++ [index]).getLast? = some index := List.getLast?_concat
        refine ⟨[index], ?_, ends', ⟨?_, ?_, ?_⟩, ⟨?_, ?_⟩⟩
        · rw [total, if_neg (by omega)]
          rfl
        · rw [total, same, tracks.total, List.length_append]
          rfl
        · simp
        · intro one isFirst two isLast
          obtain rfl := Option.some.inj (starts'.symm.trans isFirst)
          obtain rfl := Option.some.inj (ends'.symm.trans isLast)
          refine ⟨by omega, inside, buttons', source', sequence', ?_⟩
          rw [missing', gaps, List.length_append, List.length_singleton]
          omega
        · intro empty complete
          have was := (near (taken_counts complete).1).2
          exact absurd ((counts.based empty (was ▸ (taken_counts complete).1)).symm.trans ends) (by simp)
        · intro complete start based stop stops
          obtain rfl := Option.some.inj stops
          obtain ⟨next, was⟩ := near (taken_counts complete).1
          obtain ⟨still, edges⟩ := taken_counts complete
          obtain ⟨below, counted⟩ := counts.counted (was ▸ still) start based last ends
          refine ⟨by omega, fun button => ?_⟩
          rw [(edges button).1, (edges button).2, was, next, (counted button).1, (counted button).2,
            history.presses_succ below, history.releases_succ below]
          exact ⟨rfl, rfl⟩
      · rw [accept_repeated source sequence]
        refine ⟨[], ?_, by rw [List.append_nil, ends], ?_, ⟨?_, ?_⟩⟩
        · exact if_pos rfl
        · rw [List.append_nil]
          exact ⟨tracks.total, tracks.fresh, tracks.latest⟩
        · exact fun _ complete => by cases complete
        · exact fun complete => by cases complete

end Step

section Run

variable {history : History} {indices arriving : List ℕ} {reader : JoyReader} {base : Option ℕ}

/-- What a publisher delivers in two parts is split at one frame. -/
theorem History.Delivers.split {first second : List Sample}
    (delivers : history.Delivers (first ++ second) arriving) :
    ∃ head tail, arriving = head ++ tail ∧ history.Delivers first head ∧ history.Delivers second tail ∧
      ∀ before ∈ head, ∀ after ∈ tail, before ≤ after := by
  obtain ⟨ordered, inside, frames⟩ := delivers
  rw [List.filterMap_append] at frames
  obtain ⟨head, tail, rfl, one, two⟩ := List.append_eq_map_iff.mp frames
  obtain ⟨left, right, between⟩ := List.pairwise_append.mp ordered
  exact ⟨head, tail, rfl, ⟨left, fun index member => inside index (List.mem_append_left _ member), one.symm⟩,
    ⟨right, fun index member => inside index (List.mem_append_right _ member), two.symm⟩, between⟩

/-- A drain tracks the history and counts its edges. -/
theorem tracks_drain {samples : List Sample} (tracks : Tracks history indices reader)
    (counts : Counts history base indices.getLast? reader) (delivers : history.Delivers samples arriving)
    (order : ∀ last ∈ indices.getLast?, ∀ index ∈ arriving, last ≤ index) :
    ∃ more, reader.accepted samples = more.map history.frame ∧
      Tracks history (indices ++ more) (reader.drain samples) ∧
      Counts history base (indices ++ more).getLast? (reader.drain samples) ∧
      ∀ last ∈ (indices ++ more).getLast?, last ∈ indices.getLast? ∨ last ∈ arriving := by
  induction samples generalizing reader indices arriving with
  | nil =>
      refine ⟨[], rfl, ?_, ?_, ?_⟩
      all_goals rw [List.append_nil]
      · exact tracks
      · exact counts
      · exact fun last ends => Or.inl ends
  | cons sample rest ih =>
      obtain ⟨ordered, inside, frames⟩ := delivers
      cases decoded : sample.payload with
      | none =>
          obtain ⟨still, counting⟩ := tracks_malformed tracks decoded
          rw [List.filterMap_cons_none decoded] at frames
          obtain ⟨more, taken, rest⟩ := ih still counting ⟨ordered, inside, frames⟩ order
          refine ⟨more, ?_, rest⟩
          rw [JoyReader.accepted, taken, decoded]
          simp
      | some frame =>
          rw [List.filterMap_cons_some decoded] at frames
          obtain ⟨index, tail, rfl, rfl, followed⟩ := List.map_eq_cons_iff.mp frames.symm
          obtain ⟨above, ordered⟩ := List.pairwise_cons.mp ordered
          have received : reader.receive sample = reader.accept (history.frame index) sample.receivedNs := by
            simp only [JoyReader.receive, decoded]
          obtain ⟨step, taken, ends, still, counting⟩ := @tracks_frame history indices reader base index
            sample.receivedNs tracks counts (fun last ends => order last ends index List.mem_cons_self)
            (inside index List.mem_cons_self)
          rw [← received] at taken still counting
          rw [← ends] at counting
          obtain ⟨more, later, tracked, counted, latest⟩ := ih still counting
            ⟨ordered, fun index member => inside index (List.mem_cons_of_mem _ member), followed.symm⟩
            fun last now => by
              obtain rfl := Option.some.inj (ends.symm.trans now)
              exact above
          rw [List.append_assoc] at tracked counted latest
          refine ⟨step ++ more, ?_, tracked, counted, fun last now => ?_⟩
          · rw [JoyReader.accepted, later, decoded, List.map_append]
            exact congrArg (· ++ _) taken
          · rcases latest last now with here | later
            · obtain rfl := Option.some.inj (ends.symm.trans here)
              exact Or.inr List.mem_cons_self
            · exact Or.inr (List.mem_cons_of_mem _ later)

/-- A settled reader starts to count at the last frame that it tracks. -/
theorem counts_settled (reader : JoyReader) (idle : reader.pending = {}) (latest : Option ℕ) :
    Counts history latest latest reader where
  based none _ := none
  counted _ first based last ends := by
    obtain rfl := Option.some.inj (show some first = some last from based.symm.trans ends)
    simp [idle, History.presses, History.releases]

theorem Tracks.settle (tracks : Tracks history indices reader) : Tracks history indices reader.settle :=
  ⟨tracks.total, tracks.fresh, tracks.latest⟩

/-- Each read of a sequence drains with its own part of the history. -/
theorem tracks_reads {parts before after : List (List Sample)} {part : List Sample}
    {snapshots : List JoySnapshot} {snapshot : JoySnapshot} {final : JoyReader}
    (tracks : Tracks history indices reader) (idle : reader.pending = {})
    (done : reader.readAll parts = .ok (snapshots, final)) (delivers : history.Delivers parts.flatten arriving)
    (order : ∀ last ∈ indices.getLast?, ∀ index ∈ arriving, last ≤ index)
    (cut : parts = before ++ part :: after) (shown : snapshots[before.length]? = some snapshot) :
    ∃ earlier middle past more, reader.readAll before = .ok (earlier, middle) ∧
      reader.acceptedIn before = past.map history.frame ∧ middle.accepted part = more.map history.frame ∧
      snapshot = (middle.drain part).snapshot ∧
      Tracks history (indices ++ past ++ more) (middle.drain part) ∧
      Counts history (indices ++ past).getLast? (indices ++ past ++ more).getLast? (middle.drain part) := by
  induction before generalizing reader parts indices arriving snapshots with
  | nil =>
      subst cut
      rw [List.nil_append, List.flatten_cons] at delivers
      obtain ⟨others, _, rfl, _⟩ := JoyReader.readAll_cons done
      obtain ⟨head, tail, rfl, here, _, _⟩ := delivers.split
      obtain ⟨more, taken, tracked, counted, _⟩ := tracks_drain tracks (counts_settled reader idle _) here
        fun last ends index member => order last ends index (List.mem_append_left _ member)
      refine ⟨[], reader, [], more, rfl, rfl, taken, ?_, ?_, ?_⟩
      · exact (Option.some.inj shown).symm
      · rw [List.append_nil]
        exact tracked
      · rw [List.append_nil]
        exact counted
  | cons first rest ih =>
      subst cut
      rw [List.cons_append, List.flatten_cons] at delivers
      obtain ⟨others, opened, rfl, later⟩ := JoyReader.readAll_cons done
      obtain ⟨head, tail, rfl, here, there, between⟩ := delivers.split
      obtain ⟨step, taken, tracked, _, latest⟩ := tracks_drain tracks (counts_settled reader idle _) here
        fun last ends index member => order last ends index (List.mem_append_left _ member)
      obtain ⟨earlier, middle, past, more, reads, accepted, now, shows, tracking, counting⟩ :=
        ih tracked.settle rfl later there (fun last ends index member => by
          rcases latest last ends with before | arrived
          · exact order last before index (List.mem_append_right _ member)
          · exact between last arrived index member) rfl shown
      refine ⟨(reader.drain first).snapshot :: earlier, middle, step ++ past, more, ?_, ?_, now, shows, ?_, ?_⟩
      · simp [JoyReader.readAll, JoyReader.read, opened, reads, bind, Except.bind, pure, Except.pure]
      · rw [JoyReader.acceptedIn, taken, accepted, List.map_append]
      · rw [← List.append_assoc]
        exact tracking
      · rw [← List.append_assoc]
        exact counting

/-- A read that reports a complete history has counted the edges of the full history between the last frame
accepted before it and the last one accepted in it, and the missing samples are those between the accepted
ones. -/
structure SoundRead (history : History) (before here : List JoyFrame) (snapshot : JoySnapshot) : Prop where
  edges : here ≠ [] → snapshot.eventHistoryComplete = true → ∃ first last, first ≤ last ∧ last < history.length ∧
    before.getLast? = some (history.frame first) ∧ here.getLast? = some (history.frame last) ∧
    ∀ button, snapshot.pressedCounts button = history.presses first last button ∧
      snapshot.releasedCounts button = history.releases first last button
  total : snapshot.samplesTotal = (before ++ here).length
  missing : ∀ first last, (before ++ here).head? = some first → (before ++ here).getLast? = some last →
    ∃ start stop, first.sequence = some start ∧ last.sequence = some stop ∧
      (snapshot.missingSamplesTotal : ℤ) = (stop - start).toNat + 1 - snapshot.samplesTotal

/-- Every read of a fresh reader is sound for the history that a named publisher delivers to it. -/
theorem completeness_sound (history : History) {parts before after : List (List Sample)} {part : List Sample}
    {snapshots : List JoySnapshot} {snapshot : JoySnapshot} {final : JoyReader}
    (delivers : history.Delivers parts.flatten arriving) (done : JoyReader.readAll {} parts = .ok (snapshots, final))
    (cut : parts = before ++ part :: after) (shown : snapshots[before.length]? = some snapshot) :
    ∃ earlier reader, JoyReader.readAll {} before = .ok (earlier, reader) ∧
      SoundRead history (JoyReader.acceptedIn {} before) (reader.accepted part) snapshot := by
  have fresh : Tracks history [] {} := ⟨rfl, fun _ => ⟨rfl, rfl, rfl⟩, by simp⟩
  obtain ⟨earlier, reader, past, more, reads, accepted, now, rfl, tracks, counts⟩ :=
    tracks_reads fresh rfl done delivers (by simp) cut shown
  rw [List.nil_append] at tracks counts
  refine ⟨earlier, reader, reads, ?_⟩
  rw [accepted, now]
  constructor
  · intro some complete
    have more' : more ≠ [] := fun none => some (by rw [none, List.map_nil])
    have clean : (reader.drain part).pending.incomplete = false := by
      have shows : (reader.drain part).complete = true := complete
      unfold JoyReader.complete at shows
      split_ifs at shows
      · simpa using (Bool.and_eq_true_iff.mp shows).2
      · simpa using (Bool.and_eq_true_iff.mp shows).2
    obtain ⟨last, ends⟩ := Option.ne_none_iff_exists'.mp (fun none => more' (List.getLast?_eq_none_iff.mp none))
    have stops : (past ++ more).getLast? = Option.some last := by rw [List.getLast?_append, ends]; rfl
    cases begins : past.getLast? with
    | none => exact absurd ((counts.based begins clean).symm.trans stops) (by simp)
    | some first =>
        obtain ⟨order, edges⟩ := counts.counted clean first begins last stops
        obtain ⟨start, starts⟩ : ∃ start, (past ++ more).head? = Option.some start := by
          cases past with
          | nil => cases begins
          | cons start rest => exact ⟨start, rfl⟩
        refine ⟨first, last, order, (tracks.latest start starts last stops).2.1, ?_, ?_, edges⟩
        · rw [List.getLast?_map, begins]
          rfl
        · rw [List.getLast?_map, ends]
          rfl
  · rw [List.length_append, List.length_map, List.length_map, ← List.length_append]
    exact tracks.total
  · intro first last starts ends
    rw [← List.map_append, List.head?_map, Option.map_eq_some_iff] at starts
    rw [← List.map_append, List.getLast?_map, Option.map_eq_some_iff] at ends
    obtain ⟨start, starts, rfl⟩ := starts
    obtain ⟨stop, ends, rfl⟩ := ends
    obtain ⟨order, inside, _, _, _, missing⟩ := tracks.latest start starts stop ends
    refine ⟨_, _, rfl, rfl, ?_⟩
    rw [history.sequence_sub order inside]
    have total := tracks.total
    show ((reader.drain part).missingTotal : ℤ) = _ + 1 - ((reader.drain part).samplesTotal : ℤ)
    omega

end Run

/-- A publisher presses one button for one frame while its sequence wraps around. -/
def pressHistory : History where
  publisher := "pad"
  named := by decide
  start := 18446744073709551615
  length := 3
  short := by norm_num
  published index := ⟨[], [if index = 1 then 1 else 0], 0⟩

def pressSample (index : ℕ) : Sample := ⟨some (pressHistory.frame index), index⟩

/-- The second read of a press across the wrap-around is complete and counts both edges. -/
theorem completeness_sound_press : ∃ before here snapshot, SoundRead pressHistory before here snapshot ∧
    snapshot.samplesSinceRead = 2 ∧ snapshot.eventHistoryComplete = true ∧ snapshot.pressedCounts 0 = 1 ∧
    snapshot.releasedCounts 0 = 1 ∧ snapshot.missingSamplesTotal = 0 := by
  have delivers : pressHistory.Delivers [[pressSample 0], [pressSample 1, pressSample 2]].flatten [0, 1, 2] :=
    ⟨by decide, by decide, rfl⟩
  have done : JoyReader.readAll {} [[pressSample 0], [pressSample 1, pressSample 2]] = .ok _ := rfl
  have cut : [[pressSample 0], [pressSample 1, pressSample 2]] =
      [[pressSample 0]] ++ [pressSample 1, pressSample 2] :: [] := rfl
  obtain ⟨_, _, _, sound⟩ := completeness_sound pressHistory delivers done cut rfl
  exact ⟨_, _, _, sound, rfl, rfl, rfl, rfl, rfl⟩

end HumanoidSdk.Joy
