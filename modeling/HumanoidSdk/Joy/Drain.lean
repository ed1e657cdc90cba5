import HumanoidSdk.Joy.Reader
import Mathlib.Algebra.BigOperators.Group.List.Basic
import Mathlib.Data.List.Induction

namespace HumanoidSdk.Joy

theorem add_bump {Key : Type*} [DecidableEq Key] (first second : Key → ℕ) (key : Key) :
    (fun other => first other + bump second key other) = bump (fun other => first other + second other) key := by
  funext other
  by_cases same : other = key
  · simp [bump, same, Nat.add_assoc]
  · simp [bump, same]

namespace Pending

/-- Counters add up and an incomplete part makes the whole incomplete. -/
instance : Add Pending where
  add first second :=
    { pressed := fun button => first.pressed button + second.pressed button
      released := fun button => first.released button + second.released button
      missing := first.missing + second.missing
      samples := first.samples + second.samples
      incomplete := first.incomplete || second.incomplete
      diagnostics := fun name => first.diagnostics name + second.diagnostics name }

variable (first second : Pending)

@[simp] theorem add_pressed (button : ℕ) :
    (first + second).pressed button = first.pressed button + second.pressed button := rfl

@[simp] theorem add_released (button : ℕ) :
    (first + second).released button = first.released button + second.released button := rfl

@[simp] theorem add_missing : (first + second).missing = first.missing + second.missing := rfl

@[simp] theorem add_samples : (first + second).samples = first.samples + second.samples := rfl

@[simp] theorem add_incomplete :
    (first + second).incomplete = (first.incomplete || second.incomplete) := rfl

@[simp] theorem add_diagnostics (name : Diagnostic) :
    (first + second).diagnostics name = first.diagnostics name + second.diagnostics name := rfl

@[simp] theorem add_empty : first + {} = first := by
  ext <;> simp

@[simp] theorem empty_add : {} + first = first := by
  ext <;> simp

theorem add_diagnose (name : Diagnostic) : first + second.diagnose name = (first + second).diagnose name := by
  have counts := add_bump first.diagnostics second.diagnostics name
  ext other
  · rfl
  · rfl
  · rfl
  · rfl
  · simp [diagnose]
  · exact congrFun counts other

theorem add_edge (index : ℕ) (before after : ℤ) :
    first + second.edge index before after = (first + second).edge index before after := by
  unfold edge
  by_cases same : decide (before ≠ 0) = decide (after ≠ 0)
  · rw [if_pos same, if_pos same]
  · rw [if_neg same, if_neg same]
    by_cases pressed : after ≠ 0
    · rw [if_pos pressed, if_pos pressed]
      have counts := add_bump first.pressed second.pressed index
      ext button
      · exact congrFun counts button
      all_goals rfl
    · rw [if_neg pressed, if_neg pressed]
      have counts := add_bump first.released second.released index
      ext button
      · rfl
      · exact congrFun counts button
      all_goals rfl

/-- The button goes from zero to nonzero between two frames that both have it. -/
def rises (previous buttons : List ℤ) (button : ℕ) : Bool :=
  (previous.zip buttons)[button]?.any fun values => values.1 = 0 ∧ values.2 ≠ 0

/-- The button goes from nonzero to zero between two frames that both have it. -/
def falls (previous buttons : List ℤ) (button : ℕ) : Bool :=
  (previous.zip buttons)[button]?.any fun values => values.1 ≠ 0 ∧ values.2 = 0

theorem any_append_singleton {Value : Type*} (values : List Value) (last : Value) (test : Value → Bool)
    (index : ℕ) : (values ++ [last])[index]?.any test =
      if index = values.length then test last else values[index]?.any test := by
  rcases Nat.lt_trichotomy index values.length with inside | same | outside
  · rw [List.getElem?_append_left inside, if_neg (by omega)]
  · rw [same, if_pos rfl, List.getElem?_concat_length, Option.any_some]
  · rw [if_neg (by omega), List.getElem?_eq_none (by rw [List.length_append]; exact outside),
      List.getElem?_eq_none (by omega)]

/-- The loop over the buttons counts every edge once and changes nothing else. -/
theorem edges_eq (previous buttons : List ℤ) : first.edges previous buttons =
    { first with
      pressed := fun button => first.pressed button + (rises previous buttons button).toNat
      released := fun button => first.released button + (falls previous buttons button).toNat } := by
  unfold edges rises falls
  generalize previous.zip buttons = entries
  induction entries using List.reverseRecOn with
  | nil => rfl
  | append_singleton entries last ih =>
      rw [List.zipIdx_append, List.foldl_append, ih, Nat.zero_add, List.zipIdx_singleton, List.foldl_cons,
        List.foldl_nil]
      obtain ⟨before, after⟩ := last
      have bumped (counts : ℕ → ℕ) (test : ℤ × ℤ → Bool) (hit : test (before, after) = true)
          (button : ℕ) : bump (fun button => counts button + (entries[button]?.any test).toNat) entries.length
            button = counts button + ((entries ++ [(before, after)])[button]?.any test).toNat := by
        rw [any_append_singleton]
        by_cases same : button = entries.length
        · simp [bump, same, hit]
        · simp [bump, same]
      have kept (counts : ℕ → ℕ) (test : ℤ × ℤ → Bool) (miss : test (before, after) = false) (button : ℕ) :
          counts button + (entries[button]?.any test).toNat =
            counts button + ((entries ++ [(before, after)])[button]?.any test).toNat := by
        rw [any_append_singleton]
        by_cases same : button = entries.length
        · simp [same, miss]
        · simp [same]
      unfold edge
      by_cases zero : before = 0
      · by_cases rest : after = 0
        · rw [if_pos (by simp [zero, rest])]
          ext button
          · exact kept first.pressed _ (by simp [rest]) button
          · exact kept first.released _ (by simp [zero]) button
          all_goals rfl
        · rw [if_neg (by simp [zero, rest]), if_pos rest]
          ext button
          · exact bumped first.pressed _ (by simp [zero, rest]) button
          · exact kept first.released _ (by simp [zero]) button
          all_goals rfl
      · by_cases rest : after = 0
        · rw [if_neg (by simp [zero, rest]), if_neg (by simpa using rest)]
          ext button
          · exact kept first.pressed _ (by simp [rest]) button
          · exact bumped first.released _ (by simp [zero, rest]) button
          all_goals rfl
        · rw [if_pos (by simp [zero, rest])]
          ext button
          · exact kept first.pressed _ (by simp [zero]) button
          · exact kept first.released _ (by simp [rest]) button
          all_goals rfl

theorem add_edges (previous buttons : List ℤ) :
    first + second.edges previous buttons = (first + second).edges previous buttons := by
  unfold edges
  generalize (previous.zip buttons).zipIdx = entries
  induction entries generalizing second with
  | nil => rfl
  | cons entry rest ih => rw [List.foldl_cons, List.foldl_cons, ih, add_edge]

end Pending

namespace JoyReader

variable (reader : JoyReader) (pending : Pending) (errors : ℕ) (known : Bool)

/-- A reader that carries the counters and the errors of other samples besides its own. -/
def carry : JoyReader :=
  { reader with
    pending := pending + reader.pending
    decodeErrorsTotal := reader.decodeErrorsTotal + errors
    historyComplete := known }

@[simp] theorem carry_empty : reader.carry {} 0 reader.historyComplete = reader := by
  simp [carry]

theorem carry_diagnose (name : Diagnostic) :
    (reader.carry pending errors known).diagnose name = (reader.diagnose name).carry pending errors known := by
  simp only [carry, diagnose, Pending.add_diagnose]

theorem carry_rebase (source : Option String) :
    (reader.carry pending errors known).rebase source =
      ((reader.rebase source).1.carry pending errors known, (reader.rebase source).2) := by
  have same : (reader.carry pending errors known).samplesTotal = reader.samplesTotal ∧
      (reader.carry pending errors known).source = reader.source := ⟨rfl, rfl⟩
  unfold rebase
  rw [same.1, same.2]
  by_cases changed : reader.samplesTotal ≠ 0 ∧ source ≠ reader.source
  · rw [if_pos changed, if_pos changed, carry_diagnose]
  · rw [if_neg changed, if_neg changed]
    rfl

theorem carry_remember (source : String) (sequence : UInt64) :
    (reader.carry pending errors known).remember source sequence =
      (reader.remember source sequence).carry pending errors known := rfl

theorem carry_skip (distance : ℕ) :
    (reader.carry pending errors known).skip distance = (reader.skip distance).carry pending errors known := by
  simp only [carry, skip, JoyReader.mk.injEq, true_and]
  ext <;> simp [Nat.add_assoc]

/-- The counters play no part in the comparison of sequences. -/
theorem carry_follow (previous : Option (List ℤ)) (sequence : Option UInt64) (source : Option String) :
    (reader.carry pending errors known).follow previous sequence source =
      ((reader.follow previous sequence source).map (Prod.map (·.carry pending errors known) id)).mapError
        (·.carry pending errors known) := by
  cases sequence with
  | none =>
      simp only [follow, carry_diagnose]
      rfl
  | some sequence =>
      cases source with
      | none =>
          simp only [follow, carry_diagnose]
          rfl
      | some source =>
          simp only [follow]
          have same : (reader.carry pending errors known).sequences source = reader.sequences source := rfl
          rw [same]
          cases reader.sequences source with
          | none => rfl
          | some prior =>
              simp only [carry_diagnose, carry_skip, carry_remember]
              split_ifs <;> rfl

theorem carry_compare (previous : Option (List ℤ)) (buttons : List ℤ) :
    (reader.carry pending errors known).compare previous buttons =
      (reader.compare previous buttons).carry pending errors known := by
  cases previous with
  | none =>
      simp only [compare, carry, JoyReader.mk.injEq, true_and]
      ext <;> simp
  | some previous =>
      simp only [compare, carry_diagnose]
      split_ifs with changed
      · simp only [carry, Pending.add_edges]
      · simp only [carry, Pending.add_edges]

theorem carry_commit (frame : JoyFrame) (receivedNs : ℤ) :
    (reader.carry pending errors known).commit frame receivedNs =
      (reader.commit frame receivedNs).carry pending errors known := by
  simp only [commit, carry, JoyReader.mk.injEq, true_and]
  ext <;> simp [Nat.add_assoc]

/-- What a sample does to a reader does not depend on the counters of earlier samples. -/
theorem carry_receive (sample : Sample) :
    (reader.carry pending errors known).receive sample = (reader.receive sample).carry pending errors known := by
  unfold receive
  cases sample.payload with
  | none =>
      rw [carry_diagnose]
      exact congrArg (fun total =>
        ({ (reader.diagnose .decodeError).carry pending errors known with decodeErrorsTotal := total } : JoyReader))
        (Nat.add_right_comm reader.decodeErrorsTotal errors 1)
  | some frame =>
      simp only [accept, carry_rebase, carry_follow]
      cases (reader.rebase frame.source).1.follow (reader.rebase frame.source).2 frame.sequence frame.source with
      | error stopped => rfl
      | ok followed =>
          show ((followed.1.carry pending errors known).compare followed.2 frame.buttons).commit frame _ = _
          rw [carry_compare, carry_commit]

theorem carry_drain (samples : List Sample) :
    (reader.carry pending errors known).drain samples = (reader.drain samples).carry pending errors known := by
  unfold drain
  induction samples generalizing reader with
  | nil => rfl
  | cons sample rest ih => rw [List.foldl_cons, List.foldl_cons, carry_receive, ih]

@[simp] theorem drain_append (first second : List Sample) :
    reader.drain (first ++ second) = (reader.drain first).drain second := List.foldl_append

/-- A drain in two parts is a drain from the settled middle that carries the counters of the first part. -/
theorem drain_settle (first second : List Sample) :
    reader.drain (first ++ second) = ((reader.drain first).settle.drain second).carry
      (reader.drain first).pending 0 (reader.drain first).historyComplete := by
  rw [drain_append, ← carry_drain]
  simp [carry, settle]

/-- A frame ends as a duplicate, or it goes on with a sequence of a named source or incompletely. -/
theorem follow_cases (previous : Option (List ℤ)) (sequence : Option UInt64) (source : Option String) :
    reader.follow previous sequence source = .error (reader.diagnose .duplicate) ∨
      ∃ followed, reader.follow previous sequence source = .ok followed ∧ followed.1.closed = reader.closed ∧
        (followed.1.pending.incomplete = true ∨ sequence.isSome = true ∧ source.isSome = true) := by
  cases sequence with
  | none => exact Or.inr ⟨_, rfl, rfl, Or.inl rfl⟩
  | some sequence =>
      cases source with
      | none => exact Or.inr ⟨_, rfl, rfl, Or.inl rfl⟩
      | some source =>
          simp only [follow]
          cases reader.sequences source with
          | none => exact Or.inr ⟨_, rfl, rfl, Or.inr ⟨rfl, rfl⟩⟩
          | some prior =>
              by_cases same : (sequence - prior).toNat = 0
              · exact Or.inl (if_pos same)
              · refine Or.inr ?_
                simp only [if_neg same]
                split_ifs with back gap
                · exact ⟨_, rfl, rfl, Or.inl rfl⟩
                · exact ⟨_, rfl, rfl, Or.inr ⟨rfl, rfl⟩⟩
                · exact ⟨_, rfl, rfl, Or.inr ⟨rfl, rfl⟩⟩

/-- The comparison of the buttons never makes the counters complete again. -/
theorem compare_incomplete (previous : Option (List ℤ)) (buttons : List ℤ)
    (incomplete : reader.pending.incomplete = true) :
    (reader.compare previous buttons).pending.incomplete = true := by
  cases previous with
  | none => rfl
  | some previous =>
      simp only [compare, Pending.edges_eq]
      split_ifs with changed
      · rfl
      · exact incomplete

/-- A received sample is accepted with a sequence number or leaves the counters incomplete. -/
theorem receive_incomplete (sample : Sample) :
    (reader.receive sample).pending.incomplete = true ∨
      (reader.receive sample).pending.samples ≠ 0 ∧ (reader.receive sample).sequenceAvailable = true := by
  unfold receive
  cases sample.payload with
  | none => exact Or.inl rfl
  | some frame =>
      simp only [accept]
      rcases (reader.rebase frame.source).1.follow_cases (reader.rebase frame.source).2 frame.sequence
        frame.source with same | ⟨followed, same, _, incomplete | ⟨numbered, named⟩⟩
      · rw [same]
        exact Or.inl rfl
      · rw [same]
        exact Or.inl (followed.1.compare_incomplete _ _ incomplete)
      · rw [same]
        refine Or.inr ⟨Nat.succ_ne_zero _, ?_⟩
        show (frame.sequence.isSome && frame.source.isSome) = true
        rw [numbered, named]
        rfl

theorem receive_closed (sample : Sample) : (reader.receive sample).closed = reader.closed := by
  have rebased (source : Option String) : (reader.rebase source).1.closed = reader.closed := by
    unfold rebase
    split_ifs <;> rfl
  have compared (other : JoyReader) (previous : Option (List ℤ)) (buttons : List ℤ) :
      (other.compare previous buttons).closed = other.closed := by
    cases previous with
    | none => rfl
    | some previous =>
        simp only [compare]
        split_ifs <;> rfl
  unfold receive
  cases sample.payload with
  | none => rfl
  | some frame =>
      simp only [accept]
      rcases (reader.rebase frame.source).1.follow_cases (reader.rebase frame.source).2 frame.sequence
        frame.source with same | ⟨followed, same, open', _⟩
      · rw [same]
        exact rebased frame.source
      · rw [same]
        exact (compared _ _ _).trans (open'.trans (rebased frame.source))

/-- A drain closes nothing. -/
theorem drain_closed (samples : List Sample) : (reader.drain samples).closed = reader.closed := by
  induction samples generalizing reader with
  | nil => rfl
  | cons sample rest ih => exact (ih (reader.receive sample)).trans (receive_closed reader sample)

/-- A drain of some samples was complete exactly when nothing left its counters incomplete. -/
theorem drain_complete {samples : List Sample} (some : samples ≠ []) :
    (reader.drain samples).complete = !(reader.drain samples).pending.incomplete := by
  obtain ⟨earlier, last, rfl⟩ := List.eq_nil_or_concat samples |>.resolve_left some
  rw [List.concat_eq_append, drain_append]
  show ((reader.drain earlier).receive last).complete = _
  unfold complete
  rcases (reader.drain earlier).receive_incomplete last with gap | ⟨accepted, numbered⟩
  · show (if _ then _ else _) = !((reader.drain earlier).receive last).pending.incomplete
    rw [gap]
    simp
  · rw [if_pos accepted, numbered]
    rfl

end JoyReader

end HumanoidSdk.Joy
