import HumanoidSdk.Policy.Contract

/-
This file shows what every accepted contract guarantees.
-/

namespace HumanoidSdk.Policy
open Arithmetic Foundation

variable {S D : Type} [Arithmetic S D]

/-- The counts of a contract are positive and agree with the length of an observation. -/
structure Contract.Valid (contract : Contract D) : Prop where
  frames : 0 < contract.futureFrames
  history : 0 < contract.historyLength
  dimension : contract.inputDim =
    dimension contract.futureFrames contract.historyLength contract.includeZ

theorem readFuture_yields (raw : Json D) :
    Yields (fun _ => True) (fun found => 0 < found.1) (readFuture raw) := by
  unfold readFuture
  refine Yields.any.bind fun future _ _ => ?_
  refine Yields.any.bind fun count _ _ => ?_
  refine Yields.any.bind fun value _ _ => ?_
  refine Yields.any.bind fun dt _ _ => ?_
  cases count with
  | int count =>
      refine Yields.check (fun _ => trivial) fun valid => ?_
      simp only [Bool.or_eq_true, decide_eq_true_eq, not_or, not_le] at valid
      refine Yields.any.bind fun frames _ _ => ?_
      refine Yields.any.bind fun whole _ _ => ?_
      refine Yields.check (fun _ => trivial) fun _ => ?_
      refine Yields.any.bind fun order _ _ => ?_
      refine Yields.check (fun _ => trivial) fun _ => ?_
      refine Yields.any.bind fun representation _ _ => ?_
      refine Yields.check (fun _ => trivial) fun _ => ?_
      change 0 < count.toNat
      omega
  | _ => exact trivial

theorem readHistory_yields (raw : Json D) : Yields (fun _ => True) (0 < ·) (readHistory raw) := by
  unfold readHistory
  refine Yields.any.bind fun values _ _ => ?_
  refine Yields.any.bind fun terms _ _ => ?_
  refine Yields.any.bind fun lengths _ _ => ?_
  refine Yields.any.bind fun distinct _ _ => ?_
  match distinct with
  | [history] =>
      refine Yields.any.bind fun named _ _ => ?_
      refine Yields.check (fun _ => trivial) fun _ => ?_
      cases history with
      | int history =>
          refine Yields.check (fun _ => trivial) fun valid => ?_
          change 0 < history.toNat
          omega
      | _ => exact trivial
  | [] => exact trivial
  | _ :: _ :: _ => exact trivial

theorem ofRaw_yields (raw : Json D) : Yields (fun _ => True) Contract.Valid (Contract.ofRaw raw) := by
  unfold Contract.ofRaw
  refine Yields.any.bind fun _ _ _ => ?_
  refine Yields.any.bind fun names _ _ => ?_
  refine Yields.any.bind fun arrays _ _ => ?_
  refine Yields.any.bind fun _ _ _ => ?_
  refine Yields.any.bind fun timing _ _ => ?_
  refine (readFuture_yields raw).bind fun future _ frames => ?_
  refine (readHistory_yields raw).bind fun history _ positive => ?_
  refine Yields.any.bind fun includeZ _ _ => ?_
  refine Yields.any.bind fun _ _ _ => ?_
  refine Yields.any.bind fun _ _ _ => ?_
  exact ⟨frames, positive, rfl⟩

/-- The metadata gives a contract through its text. -/
theorem fromMetadata_raw {loads : String → Except Raised (Json D)} {metadata : List (String × String)}
    {contract : Contract D} (accepted : Contract.fromMetadata loads metadata = .ok contract) :
    ∃ raw, Contract.ofRaw raw = .ok contract := by
  unfold Contract.fromMetadata at accepted
  cases found : metadata.lookup CONTRACT_KEY with
  | none =>
      rw [found] at accepted
      cases accepted
  | some text =>
      rw [found] at accepted
      obtain ⟨raw, _, made⟩ := bind_eq_ok.mp accepted
      exact ⟨raw, made⟩

/-- Every contract that the metadata gives is valid. -/
theorem fromMetadata_valid {loads : String → Except Raised (Json D)} {metadata : List (String × String)}
    {contract : Contract D} (accepted : Contract.fromMetadata loads metadata = .ok contract) :
    contract.Valid := by
  obtain ⟨raw, made⟩ := fromMetadata_raw accepted
  exact (ofRaw_yields raw).value made

/-- A member joins a set unless an equal member is there. -/
def join (kept : List (Json D)) (value : Json D) : List (Json D) :=
  if kept.any value.same then kept else kept ++ [value]

theorem join_length (kept values : List (Json D)) :
    (values.foldl join kept).length ≤ kept.length + values.length := by
  induction values generalizing kept with
  | nil => exact Nat.le_refl _
  | cons value rest ih =>
      have later := ih (join kept value)
      have added : (join kept value).length ≤ kept.length + 1 := by
        unfold join
        split
        · exact Nat.le_succ _
        · rw [List.length_append, List.length_singleton]
      rw [List.foldl_cons, List.length_cons]
      omega

/-- A set of full size has kept every member, so that no two of them are equal. -/
theorem join_distinct {kept values : List (Json D)}
    (full : (values.foldl join kept).length = kept.length + values.length) :
    (∀ value ∈ values, ∀ old ∈ kept, value.same old = false) ∧
    values.Pairwise fun first second => second.same first = false := by
  induction values generalizing kept with
  | nil => exact ⟨fun value member => absurd member List.not_mem_nil, List.Pairwise.nil⟩
  | cons value rest ih =>
      rw [List.foldl_cons, List.length_cons] at full
      have bound := join_length (join kept value) rest
      by_cases present : kept.any value.same
      · rw [join, if_pos present] at full bound
        omega
      · rw [join, if_neg present] at full
        rw [Bool.not_eq_true, List.any_eq_false] at present
        obtain ⟨apart, distinct⟩ := ih (by rw [full, List.length_append, List.length_singleton]; omega)
        refine ⟨fun other member old known => ?_, List.Pairwise.cons (fun other member => ?_) distinct⟩
        · rcases List.mem_cons.mp member with rfl | later
          · exact Bool.eq_false_of_not_eq_true (present old known)
          · exact apart other later old (List.mem_append_left _ known)
        · exact apart other member value (List.mem_append_right _ List.mem_cons_self)

/-- The joints of a contract. -/
structure Contract.Named (contract : Contract D) : Prop where
  count : contract.names.length = 28
  distinct : contract.names.Pairwise fun first second => second.same first = false

theorem readNames_yields (raw : Json D) : Yields (fun _ => True) (fun names => names.length = 28 ∧
    names.Pairwise fun first second => second.same first = false) (readNames raw) := by
  unfold readNames
  refine Yields.any.bind fun value _ _ => ?_
  refine Yields.any.bind fun names _ _ => ?_
  refine Yields.check (fun _ => trivial) fun count => ?_
  rw [not_not] at count
  refine Yields.any.bind fun distinct known _ => ?_
  refine Yields.check (fun _ => trivial) fun full => ?_
  rw [Json.set] at known
  split at known
  · cases known
    simp only [Bool.or_eq_true, decide_eq_true_eq, not_or, not_not] at full
    refine ⟨count, (@join_distinct _ _ _ [] names ?_).2⟩
    rw [List.length_nil, Nat.zero_add, count]
    exact full.1
  · cases known

theorem ofRaw_named (raw : Json D) : Yields (fun _ => True) Contract.Named (Contract.ofRaw raw) := by
  unfold Contract.ofRaw
  refine Yields.any.bind fun _ _ _ => ?_
  refine (readNames_yields raw).bind fun names _ named => ?_
  refine Yields.any.bind fun arrays _ _ => ?_
  refine Yields.any.bind fun _ _ _ => ?_
  refine Yields.any.bind fun timing _ _ => ?_
  refine Yields.any.bind fun future _ _ => ?_
  refine Yields.any.bind fun history _ _ => ?_
  refine Yields.any.bind fun includeZ _ _ => ?_
  refine Yields.any.bind fun _ _ _ => ?_
  refine Yields.any.bind fun _ _ _ => ?_
  exact ⟨named.1, named.2⟩

/-- Every contract that the metadata gives names 28 distinct joints. -/
theorem fromMetadata_named {loads : String → Except Raised (Json D)} {metadata : List (String × String)}
    {contract : Contract D} (accepted : Contract.fromMetadata loads metadata = .ok contract) :
    contract.Named := by
  obtain ⟨raw, made⟩ := fromMetadata_raw accepted
  exact (ofRaw_named raw).value made

end HumanoidSdk.Policy
