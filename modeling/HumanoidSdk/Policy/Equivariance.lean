import HumanoidSdk.Feedback.Frame
import HumanoidSdk.Policy.Alike
import HumanoidSdk.Policy.Placement

/-
This file shows that the tracking policy follows a permutation of the slots of the roster.
-/

namespace HumanoidSdk.Policy
open Arithmetic Feedback Foundation WbcTrackingPolicy

variable {S D Timing : Type} [Arithmetic S D]

/-- A permutation of the slots of the body. -/
abbrev Slots : Type := Equiv.Perm (Fin 31)

/-- The names and the capabilities move together. -/
def RosterInfo.permuted (perm : Slots) (info : RosterInfo) : RosterInfo :=
  { info with
    joints := Foundation.permuted perm info.joints
    jointNames := Foundation.permuted perm info.jointNames }

/-- All columns of the joints move together. -/
def BodyFeedback.permuted (perm : Slots) : BodyFeedback S D → BodyFeedback S D
  | .arrays state => .arrays { state with
      q := Foundation.permuted perm state.q
      dq := Foundation.permuted perm state.dq
      tauEst := Foundation.permuted perm state.tauEst
      jointStampsUs := state.jointStampsUs.permuted perm
      errorCode := Foundation.permuted perm state.errorCode }
  | .objects state => .objects { state with joints := Foundation.permuted perm state.joints }

/-- Arrays are a frame when they have a row for each joint. Objects always are. -/
def BodyFeedback.IsFrame : BodyFeedback S D → Prop
  | .arrays state => Frame state
  | .objects _ => True

/-- The joint commands move. -/
def Decoded.permuted (perm : Slots) (decoded : Decoded S D Timing) : Decoded S D Timing :=
  { decoded with joints := Foundation.permuted perm decoded.joints }

/-- The policy with its slots moved. -/
def WbcTrackingPolicy.permuted (perm : Slots) (policy : WbcTrackingPolicy S D) : WbcTrackingPolicy S D :=
  { policy with
    order := Foundation.permuted perm policy.order
    mapping := policy.mapping.map (move perm) }

section Lookup

variable (perm : Slots)

/-- A name is found at its moved slot. -/
theorem indexOf_permuted {order : List String} (full : order.length = 31) (distinct : order.Nodup)
    (name : String) : indexOf (Foundation.permuted perm order) name = (indexOf order name).map (move perm) := by
  unfold indexOf
  by_cases member : name ∈ order
  · rw [if_pos ((mem_permuted perm).mpr member), if_pos member, idxOf_permuted perm full distinct member]
    rfl
  · rw [if_neg fun found => member ((mem_permuted perm).mp found), if_neg member]
    rfl

theorem mapM_indexOf_permuted {order : List String} (full : order.length = 31) (distinct : order.Nodup)
    (names : List String) : names.mapM (indexOf (Foundation.permuted perm order)) =
      (names.mapM (indexOf order)).map (List.map (move perm)) := by
  rw [funext (indexOf_permuted perm full distinct), mapM_map_values]

/-- The element of a moved slot. -/
theorem element_permuted {Value : Type} {values : List Value} (full : values.length = 31) (slot : ℕ) :
    element (Foundation.permuted perm values) (move perm slot) = element values slot := by
  rw [element, element, permuted_move perm full]

/-- The selection through moved slots. -/
theorem mapM_element_permuted {Value Cell : Type} {values : List Value} (full : values.length = 31)
    (read : Except Raised Value → Except Raised Cell) (mapping : List ℕ) :
    (mapping.map (move perm)).mapM (fun slot => read (element (Foundation.permuted perm values) slot)) =
      mapping.mapM fun slot => read (element values slot) := by
  rw [List.mapM_map]
  refine congrArg (List.mapM · mapping) (funext fun slot => ?_)
  rw [Function.comp_apply, element_permuted perm full]

theorem column_permuted {values : List S} (full : values.length = 31) (mapping : List ℕ) :
    (column (Foundation.permuted perm values) (mapping.map (move perm)) : Except Raised (List D)) =
      column values mapping :=
  congrArg (Except.map (List.map widen)) (mapM_element_permuted perm full id mapping)

end Lookup

/-- A permuted roster is accepted with the original one. -/
theorem accepts_permuted (perm : Slots) {info : RosterInfo} {required : List String}
    (accepts : Accepts info required) : Accepts (info.permuted perm) required := by
  refine ⟨fun name member => (mem_permuted perm).mpr (accepts.known name member), ?_,
    permuted_nodup perm accepts.distinct, fun some => ?_, fun name member => ?_⟩
  · rw [RosterInfo.permuted, permuted_length]
    exact accepts.slots
  · rw [RosterInfo.permuted, permuted_length]
    exact accepts.capabilities some
  · have capable : info.joints.length = 31 := accepts.capabilities (List.ne_nil_of_mem member)
    have place := idxOf_permuted perm accepts.slots accepts.distinct (accepts.known name member)
    unfold populated RosterInfo.permuted
    rw [place, permuted_move perm capable]
    exact accepts.populated name member

omit [Arithmetic S D] in
/-- The permuted roster binds the permuted policy. -/
theorem bindBodyInfo_permuted (perm : Slots) {policy bound : WbcTrackingPolicy S D} {info : RosterInfo}
    (binds : policy.bindBodyInfo info = .ok bound) :
    policy.bindBodyInfo (info.permuted perm) = .ok (bound.permuted perm) := by
  obtain ⟨accepts, mapping, mapped, rfl⟩ := bindBodyInfo_accepts binds
  refine bindBodyInfo_ok (accepts_permuted perm accepts) ?_
  change policy.names.mapM (indexOf (Foundation.permuted perm info.jointNames)) = _
  rw [mapM_indexOf_permuted perm accepts.slots accepts.distinct, mapped]
  rfl

/-- The permuted policy reads the permuted frame as the policy reads the frame. -/
theorem state_permuted (perm : Slots) (policy : WbcTrackingPolicy S D) {feedback : BodyFeedback S D}
    (frame : feedback.IsFrame) :
    (policy.permuted perm).state (feedback.permuted perm) = policy.state feedback := by
  have selected : select (policy.mapping.map (move perm)) (feedback.permuted perm) =
      select policy.mapping feedback := by
    cases feedback with
    | arrays state =>
        change selectArrays _ _ = selectArrays _ _
        unfold selectArrays
        dsimp only
        rw [permuted_length]
        by_cases full : state.q.length = 31
        · rw [column_permuted perm full, column_permuted perm (frame.dq.trans full)]
        · rw [if_pos (Or.inl full), if_pos (Or.inl full)]
    | objects state =>
        change selectObjects _ _ = selectObjects _ _
        unfold selectObjects
        dsimp only
        rw [permuted_length]
        by_cases full : state.joints.length = 31
        · have positions := mapM_element_permuted perm full (fun found => do return (← found).q) policy.mapping
          have velocities := mapM_element_permuted perm full (fun found => do return (← found).dq) policy.mapping
          rw [positions, velocities]
        · rw [if_pos (Or.inl full), if_pos (Or.inl full)]
  change measure _ _ _ = measure _ _ _
  unfold measure
  rw [← selected]
  rfl

/-- The assignments move with the slots. -/
theorem assignments_permuted (perm : Slots) {policy : WbcTrackingPolicy S D} (held : Placed policy)
    (action : Vector S 28) : (policy.permuted perm).assignments action =
      (policy.assignments action).map (List.map (Prod.map (move perm) id)) := by
  have fixed (entry : String × FixedJoint D) : (do
        return (← indexOf (policy.permuted perm).order entry.1, fixedCmd entry.2)) =
      (do return (← indexOf policy.order entry.1, fixedCmd entry.2) : Except Raised (ℕ × JointCmd D)).map
        (Prod.map (move perm) id) := by
    change (indexOf (Foundation.permuted perm policy.order) entry.1 >>= _) = _
    rw [indexOf_permuted perm held.slots held.distinct]
    cases indexOf policy.order entry.1 with
    | error raised => rfl
    | ok slot => rfl
  have each := mapM_map_values (fun entry : String × FixedJoint D => do
    return (← indexOf policy.order entry.1, fixedCmd entry.2)) (Prod.map (move perm) id)
    policy.profile.fixedJoints.entries
  rw [← funext fixed] at each
  unfold assignments
  change (policy.profile.fixedJoints.entries.mapM _ >>= fun fixed =>
    pure ((policy.mapping.map (move perm)).zip ((List.finRange 28).map (policy.jointCmd action)) ++ fixed)) = _
  rw [each, List.zip_map_left]
  cases policy.profile.fixedJoints.entries.mapM fun entry : String × FixedJoint D => do
      return (← indexOf policy.order entry.1, fixedCmd entry.2) with
  | error raised => rfl
  | ok fixed =>
      refine congrArg Except.ok ?_
      rw [List.map_append]

/-- The permuted policy builds the permuted command. -/
theorem command_permuted (perm : Slots) {policy : WbcTrackingPolicy S D} (held : Placed policy)
    (action : Vector S 28) (timing : Timing) : (policy.permuted perm).command action timing =
      (policy.command action timing).map (Decoded.permuted perm) := by
  obtain ⟨writes, assigned, named⟩ := assignments_ok held action
  have inside := (slots_nodup named (required_nodup held)).2
  have motors := @permuted_scatter _ _ (List.replicate 31 (.zero : JointCmd D)) writes perm
    List.length_replicate
  rw [permuted_replicate] at motors
  have done := assign_slots held inside
  have moved : (writes.map (Prod.map (move perm) id)).foldlM assign (List.replicate 31 (.zero : JointCmd D)) =
      .ok (Foundation.permuted perm (scatter (List.replicate 31 .zero) writes)) := by
    rw [motors]
    refine assign_all fun slot member => ?_
    rw [List.map_map] at member
    obtain ⟨write, known, rfl⟩ := List.mem_map.mp member
    rw [List.length_replicate]
    exact move_lt perm (held.slots ▸ inside write.1 (List.mem_map_of_mem known))
  unfold command
  rw [assignments_permuted perm held, assigned]
  change (List.foldlM assign _ (writes.map _) >>= _) = Except.map _ (writes.foldlM assign _ >>= _)
  rw [moved, done]
  rfl

/-- The permuted policy decodes the permuted command. -/
theorem decode_permuted (perm : Slots) {policy : WbcTrackingPolicy S D} (held : Placed policy)
    (rawAction : NdArray D) (timing : Timing) : (policy.permuted perm).decode rawAction timing =
      ((policy.decode rawAction timing).1.map (Decoded.permuted perm),
        (policy.decode rawAction timing).2.permuted perm) := by
  unfold WbcTrackingPolicy.decode
  have same : clipped (policy.permuted perm).contract rawAction = clipped policy.contract rawAction := rfl
  rw [same]
  cases clipped policy.contract rawAction with
  | error raised => rfl
  | ok action =>
      refine congrArg₂ Prod.mk ?_ rfl
      exact command_permuted perm (placed_act held action) action timing

/-- The slots are no part of an observation. -/
theorem observe_permuted (perm : Slots) (policy : WbcTrackingPolicy S D) (args : ObserveArgs D) :
    (policy.permuted perm).observe args =
      ((policy.observe args).1, (policy.observe args).2.permuted perm) := by
  unfold observe
  have same : prepare (policy.permuted perm).contract
      (arrayAt D (policy.permuted perm).memory (policy.permuted perm).lastAction) args =
      prepare policy.contract (arrayAt D policy.memory policy.lastAction) args := rfl
  rw [same]
  cases prepare policy.contract (arrayAt D policy.memory policy.lastAction) args with
  | error raised => rfl
  | ok prepared => rfl

/-- A call keeps two policies a permutation apart. -/
theorem after_permuted (perm : Slots) {policy : WbcTrackingPolicy S D} (held : Placed policy)
    (call : Call D Timing) : call.after (policy.permuted perm) = (call.after policy).permuted perm := by
  cases call with
  | observe args => exact congrArg Prod.snd (observe_permuted perm policy args)
  | decode rawAction timing => exact congrArg Prod.snd (decode_permuted perm held rawAction timing)
  | reset => rfl

/-- So do any calls. -/
theorem callAll_permuted (perm : Slots) {policy : WbcTrackingPolicy S D} (held : Placed policy)
    (calls : List (Call D Timing)) :
    callAll (policy.permuted perm) calls = (callAll policy calls).permuted perm := by
  unfold callAll
  induction calls generalizing policy with
  | nil => rfl
  | cons call rest ih =>
      rw [List.foldl_cons, List.foldl_cons, after_permuted perm held]
      exact ih (placed_call held call)

omit [Arithmetic S D] in
/-- A permuted policy keeps its places. -/
theorem placed_permuted (perm : Slots) {policy bound : WbcTrackingPolicy S D} {info : RosterInfo}
    (held : Placed policy) (binds : policy.bindBodyInfo info = .ok bound) : Placed (bound.permuted perm) :=
  placed_bind held (bindBodyInfo_permuted perm binds)

/-- After any uses, 28 finite numbers are decoded and everything else raises. A decoded command writes every
joint to a slot of its own. Every accepted roster may be permuted: the permuted feedback reads the same, the
observations are the same, and the decoded commands are permuted. -/
theorem roster_equivariant (loads : String → Except Raised (Json D)) (metadata : List (String × String))
    (contract : Contract D) (accepted : Contract.fromMetadata loads metadata = .ok contract)
    (profile : Profile D) (policy : WbcTrackingPolicy S D)
    (made : WbcTrackingPolicy.new contract profile = .ok policy) (uses : List (Use D Timing)) :
    (∀ rawAction (timing : Timing),
      ((∃ decoded, ((useAll policy uses).decode rawAction timing).1 = .ok decoded) ↔ ModelAction rawAction) ∧
      ∀ decoded, ((useAll policy uses).decode rawAction timing).1 = .ok decoded →
        Scattered (useAll policy uses) decoded) ∧
    ∀ info bound, (useAll policy uses).bindBodyInfo info = .ok bound → ∀ perm : Slots, ∃ rebound,
      (useAll policy uses).bindBodyInfo (info.permuted perm) = .ok rebound ∧
      ∀ calls : List (Call D Timing),
        (∀ feedback : BodyFeedback S D, feedback.IsFrame →
          (callAll rebound calls).state (feedback.permuted perm) = (callAll bound calls).state feedback) ∧
        (∀ args, ((callAll rebound calls).observe args).1 = ((callAll bound calls).observe args).1) ∧
        (∀ rawAction (timing : Timing), ((callAll rebound calls).decode rawAction timing).1 =
          ((callAll bound calls).decode rawAction timing).1.map (Decoded.permuted perm)) ∧
        ∀ rawAction (timing : Timing), ModelAction rawAction → ∃ decoded,
          ((callAll bound calls).decode rawAction timing).1 = .ok decoded ∧
          Scattered (callAll bound calls) decoded ∧
          ((callAll rebound calls).decode rawAction timing).1 = .ok (decoded.permuted perm) ∧
          Scattered (callAll rebound calls) (decoded.permuted perm) := by
  have placed := placed_useAll (placed_new (fromMetadata_named accepted) made) uses
  refine ⟨fun rawAction timing => ⟨decode_iff placed rawAction timing, fun decoded returned =>
    decode_scattered placed returned⟩, ?_⟩
  intro info bound binds perm
  have before := placed_bind placed binds
  refine ⟨bound.permuted perm, bindBodyInfo_permuted perm binds, fun calls => ?_⟩
  have kept := placed_callAll before calls
  have moved := placed_callAll (placed_permuted perm placed binds) calls
  rw [callAll_permuted perm before] at moved ⊢
  refine ⟨fun feedback frame => state_permuted perm _ frame, fun args => ?_, fun rawAction timing => ?_,
    fun rawAction timing acceptable => ?_⟩
  · rw [observe_permuted]
  · rw [decode_permuted perm kept]
  · obtain ⟨decoded, returned⟩ := (decode_iff kept rawAction timing).mpr acceptable
    have redecoded : (((callAll bound calls).permuted perm).decode rawAction timing).1 =
        .ok (decoded.permuted perm) := by
      rw [decode_permuted perm kept, returned]
      rfl
    exact ⟨decoded, returned, decode_scattered kept returned, redecoded, decode_scattered moved redecoded⟩

/-- A roster in the order of the profile. -/
def sampleInfo : RosterInfo where
  joints := List.replicate 31 ⟨true⟩
  slotCount := 31
  jointNames := sampleProfile.bodyJointOrder

def sampleUses : List (Use ℚ Unit) := sampleCalls.map .call

/-- The roster is bound after one observation and one decode. -/
def sampleBind : Except Raised (WbcTrackingPolicy ℚ ℚ) := do
  let policy ← @WbcTrackingPolicy.new ℚ ℚ exact (← @Contract.ofRaw ℚ ℚ exact sampleRaw) sampleProfile
  (@useAll ℚ ℚ Unit exact policy sampleUses).bindBodyInfo sampleInfo

/-- The bound policy reads an upright body. -/
def sampleMeasured : Except Raised (Measured ℚ) := do
  @WbcTrackingPolicy.state ℚ ℚ exact (← sampleBind) (.arrays upright)

/-- Half of the scale for every joint. -/
def sampleAction : NdArray ℚ := .ofList (List.replicate 28 (1 / 2))

/-- Two slots change places: an upright body reads the same, and a decoded command has the two commands
in each other's place. -/
theorem roster_equivariant_swap : ∃ policy bound rebound measured,
    ∃ decoded : Decoded ℚ ℚ Unit, sampleBind = .ok bound ∧
    (@useAll ℚ ℚ Unit exact policy sampleUses).bindBodyInfo (sampleInfo.permuted (Equiv.swap 0 30)) =
      .ok rebound ∧
    @WbcTrackingPolicy.state ℚ ℚ exact bound (.arrays upright) = .ok measured ∧
    @WbcTrackingPolicy.state ℚ ℚ exact rebound (BodyFeedback.permuted (Equiv.swap 0 30) (.arrays upright)) =
      .ok measured ∧
    (@WbcTrackingPolicy.decode ℚ ℚ exact bound Unit sampleAction ()).1 = .ok decoded ∧
    @Scattered ℚ ℚ Unit exact bound decoded ∧
    (@WbcTrackingPolicy.decode ℚ ℚ exact rebound Unit sampleAction ()).1 =
      .ok (decoded.permuted (Equiv.swap 0 30)) := by
  have done : sampleMeasured.isOk = true := by decide +kernel
  have acceptable : @ModelAction ℚ ℚ exact sampleAction :=
    @ModelAction.mk ℚ ℚ exact sampleAction rfl rfl
  have frame : Frame upright := ⟨rfl, rfl, rfl, rfl, rfl, rfl, rfl, rfl⟩
  cases shown : sampleMeasured with
  | error raised =>
      rw [shown] at done
      cases done
  | ok measured =>
      obtain ⟨bound, known, measures⟩ := bind_eq_ok.mp shown
      obtain ⟨contract, accepted, rest⟩ := bind_eq_ok.mp known
      obtain ⟨policy, made, binds⟩ := bind_eq_ok.mp rest
      rw [← sampleLoads_raw] at accepted
      obtain ⟨rebound, rebinds, same⟩ := (@roster_equivariant ℚ ℚ Unit exact sampleLoads _ contract accepted
        sampleProfile policy made sampleUses).2 sampleInfo bound binds (Equiv.swap 0 30)
      obtain ⟨reads, -, -, decodes⟩ := same []
      obtain ⟨decoded, returned, scattered, moved, -⟩ := decodes sampleAction () acceptable
      exact ⟨policy, bound, rebound, measured, decoded, known, rebinds, measures,
        (reads (.arrays upright) frame).trans measures, returned, scattered, moved⟩

end HumanoidSdk.Policy
