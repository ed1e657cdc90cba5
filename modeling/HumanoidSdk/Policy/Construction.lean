import HumanoidSdk.Policy.Tracking

/-
This file shows what every constructed tracking policy guarantees.
-/

namespace HumanoidSdk.Policy
open Arithmetic Foundation

variable {S D : Type} [Arithmetic S D] {contract : Contract D} {profile : Profile D}
  {policy : WbcTrackingPolicy S D}

/-- The names of a fresh policy have slots in the order of the profile, and the fixed joints have other
slots. -/
structure Constructed (contract : Contract D) (profile : Profile D) (policy : WbcTrackingPolicy S D) :
    Prop where
  owner : policy.contract = contract
  setting : policy.profile = profile
  order : policy.order = profile.bodyJointOrder
  names : contract.names.mapM textOf = .ok policy.names
  mapping : policy.names.mapM (indexOf policy.order) = .ok policy.mapping
  slots : policy.order.length = 31
  distinct : policy.order.Nodup
  apart : ∀ name ∈ profile.fixedNames, name ∉ policy.names
  fixed : ∀ name ∈ profile.fixedNames, name ∈ policy.order
  history : policy.history = []
  lastAction : policy.lastAction = 0
  memory : policy.memory = [zeros D]

/-- The loop over the fixed joints finds each of them in the order. -/
theorem checkFixed_yields (profile : Profile D) : Yields (fun _ => True)
    (fun _ => ∀ name ∈ profile.fixedNames, name ∈ profile.bodyJointOrder) (checkFixed profile) := by
  unfold checkFixed Profile.fixedNames
  induction profile.fixedJoints.entries with
  | nil => exact fun name member => absurd member List.not_mem_nil
  | cons entry rest ih =>
      change Yields _ _ ((if _ then _ else _) >>= fun _ => rest.forM _)
      have first : Yields (fun _ => True) (fun _ : Unit => entry.1 ∈ profile.bodyJointOrder)
          (if entry.1 ∉ profile.bodyJointOrder ∨ !([entry.2.q, entry.2.kp, entry.2.kd].all isFinite) ∨
            lt entry.2.kp (literal 0) ∨ lt entry.2.kd (literal 0) then
            .error (Raised.valueError "invalid fixed joint") else .ok ()) := by
        refine Yields.check (fun _ => trivial) fun valid => ?_
        rw [not_or, not_not] at valid
        exact valid.1
      refine first.bind fun _ _ known => ih.weaken fun _ others name member => ?_
      rcases List.mem_cons.mp member with rfl | member
      · exact known
      · exact others name member

theorem new_yields (contract : Contract D) (profile : Profile D) :
    Yields (fun _ => True) (Constructed contract profile)
      (WbcTrackingPolicy.new contract profile : Except Raised (WbcTrackingPolicy S D)) := by
  unfold WbcTrackingPolicy.new
  refine Yields.any.bind fun names known _ => ?_
  refine Yields.check (fun _ => trivial) fun expected => ?_
  refine Yields.any.bind fun mapping mapped _ => ?_
  refine Yields.any.bind fun limits _ _ => ?_
  refine Yields.check (fun _ => trivial) fun _ => ?_
  cases sized 28 (limits.filterMap (sized 2)) with
  | none => exact trivial
  | some pairs =>
      refine Yields.check (fun _ => trivial) fun _ => ?_
      refine Yields.check (fun _ => trivial) fun overlap => ?_
      refine (checkFixed_yields profile).bind fun _ _ fixed => ?_
      refine Yields.check (fun _ => trivial) fun _ => ?_
      refine Yields.check (fun _ => trivial) fun _ => ?_
      simp only [not_or, not_not] at expected
      refine ⟨rfl, rfl, rfl, known, mapped, expected.2.2.2.1, expected.2.2.2.2, ?_, fixed, rfl, rfl, rfl⟩
      intro name member present
      exact overlap (List.any_eq_true.mpr ⟨name, member, decide_eq_true present⟩)

end HumanoidSdk.Policy
