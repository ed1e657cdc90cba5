import HumanoidSdk.Foundation.Permuted
import HumanoidSdk.Policy.Observation

/-
This file shows which slots a decoded command writes after any uses of a tracking policy.
-/

namespace HumanoidSdk.Policy
open Arithmetic Foundation WbcTrackingPolicy

variable {S D Timing : Type} [Arithmetic S D]

/-- The policy after a call, which may have raised. -/
def Call.after (policy : WbcTrackingPolicy S D) : Call D Timing → WbcTrackingPolicy S D
  | .observe args => (policy.observe args).2
  | .decode rawAction timing => (policy.decode rawAction timing).2
  | .reset => policy.reset

/-- The policy after calls. -/
def callAll (policy : WbcTrackingPolicy S D) (calls : List (Call D Timing)) : WbcTrackingPolicy S D :=
  calls.foldl Call.after policy

/-- What a program does with a policy. -/
inductive Use (D Timing : Type) where
  | call (call : Call D Timing)
  | bind (info : RosterInfo)

/-- A roster that is refused leaves the policy as it was. -/
def Use.after (policy : WbcTrackingPolicy S D) : Use D Timing → WbcTrackingPolicy S D
  | .call next => next.after policy
  | .bind info => (policy.bindBodyInfo info).toOption.getD policy

def useAll (policy : WbcTrackingPolicy S D) (uses : List (Use D Timing)) : WbcTrackingPolicy S D :=
  uses.foldl Use.after policy

/-- Every joint of a policy has a slot under its name. -/
structure Placed (policy : WbcTrackingPolicy S D) : Prop where
  slots : policy.order.length = 31
  distinct : policy.order.Nodup
  mapping : policy.names.mapM (indexOf policy.order) = .ok policy.mapping
  joints : policy.names.length = 28
  single : policy.names.Nodup
  apart : ∀ name ∈ policy.profile.fixedNames, name ∉ policy.names
  fixed : ∀ name ∈ policy.profile.fixedNames, name ∈ policy.order

/-- A roster is accepted when it names 31 slots and has populated slots for the required names. -/
structure Accepts (info : RosterInfo) (required : List String) : Prop where
  known : ∀ name ∈ required, name ∈ info.jointNames
  slots : info.jointNames.length = 31
  distinct : info.jointNames.Nodup
  capabilities : required ≠ [] → info.joints.length = 31
  populated : ∀ name ∈ required, populated info name = true

section Accepted

variable {info : RosterInfo} {required : List String}

theorem missing_none (required names : List String) :
    required.eraseDups.filter (· ∉ names) = [] ↔ ∀ name ∈ required, name ∈ names := by
  simp [List.filter_eq_nil_iff, List.mem_eraseDups]

theorem unpopulated_none (info : RosterInfo) (required : List String) :
    required.eraseDups.filter (fun name => !populated info name) = [] ↔
      ∀ name ∈ required, populated info name = true := by
  simp [List.filter_eq_nil_iff, List.mem_eraseDups]

theorem eraseDups_nil : required.eraseDups = [] ↔ required = [] := by
  simp [List.eq_nil_iff_forall_not_mem, List.mem_eraseDups]

/-- What the checks let pass. -/
theorem bodyJointOrder_yields (info : RosterInfo) (required : List String) :
    Yields (fun _ => True) (fun order => Accepts info required ∧ order = info.jointNames)
      (bodyJointOrder (some info) required) := by
  unfold bodyJointOrder
  dsimp only
  refine Yields.check (fun _ => trivial) fun known => ?_
  refine Yields.check (fun _ => trivial) fun slots => ?_
  rw [ne_eq, not_not, missing_none] at known
  simp only [not_or, not_not] at slots
  split
  case isTrue none =>
    rw [eraseDups_nil] at none
    subst none
    exact ⟨⟨known, slots.1, slots.2, fun some => absurd rfl some, fun name member =>
      absurd member List.not_mem_nil⟩, rfl⟩
  case isFalse some =>
    refine Yields.check (fun _ => trivial) fun count => ?_
    refine Yields.check (fun _ => trivial) fun ready => ?_
    rw [ne_eq, not_not] at count
    rw [ne_eq, not_not, unpopulated_none] at ready
    exact ⟨⟨known, slots.1, slots.2, fun _ => count.trans slots.1, ready⟩, rfl⟩

/-- What passes the checks. -/
theorem bodyJointOrder_ok (accepts : Accepts info required) :
    bodyJointOrder (some info) required = .ok info.jointNames := by
  have known := (missing_none required info.jointNames).mpr accepts.known
  have ready := (unpopulated_none info required).mpr accepts.populated
  have slots : ¬(info.jointNames.length ≠ 31 ∨ ¬info.jointNames.Nodup) := by
    simp only [not_or, not_not]
    exact ⟨accepts.slots, accepts.distinct⟩
  unfold bodyJointOrder
  dsimp only
  rw [if_neg (not_not.mpr known), if_neg slots]
  split
  case isTrue => rfl
  case isFalse some =>
    have count := accepts.capabilities fun none => some (eraseDups_nil.mpr none)
    rw [if_neg (not_not.mpr (count.trans accepts.slots.symm)), if_neg (not_not.mpr ready)]
    rfl

end Accepted

section Names

/-- A text of a contract is its value. -/
theorem mapM_textOf {values : List (Json D)} {names : List String} (known : values.mapM textOf = .ok names) :
    values = names.map .str := by
  have each := mapM_ok_iff.mp known
  clear known
  induction each with
  | nil => rfl
  | @cons value name values names head _ ih =>
      rw [ih, List.map_cons]
      refine congrArg (· :: _) ?_
      cases value with
      | str text => exact congrArg Json.str (Except.ok.inj head)
      | _ => cases head

/-- The distinct members of a contract are distinct texts. -/
theorem names_nodup {contract : Contract D} {names : List String} (named : contract.Named)
    (known : contract.names.mapM textOf = .ok names) : names.length = 28 ∧ names.Nodup := by
  have texts := mapM_textOf known
  have count := named.count
  have distinct := named.distinct
  rw [texts, List.length_map] at count
  rw [texts, List.pairwise_map] at distinct
  refine ⟨count, distinct.imp fun apart same => ?_⟩
  subst same
  simp [Json.same] at apart

theorem indexOf_ok {names : List String} {name : String} {slot : ℕ} (found : indexOf names name = .ok slot) :
    names[slot]? = some name := by
  unfold indexOf at found
  split at found
  case isTrue member =>
    cases found
    rw [List.getElem?_eq_getElem (List.idxOf_lt_length_of_mem member), List.getElem_idxOf]
  case isFalse => cases found

theorem indexOf_member {names : List String} {name : String} (member : name ∈ names) :
    indexOf names name = .ok (names.idxOf name) := if_pos member

end Names

section Uses

variable {policy : WbcTrackingPolicy S D}

theorem placed_new {contract : Contract D} {profile : Profile D} (named : contract.Named)
    (made : WbcTrackingPolicy.new contract profile = .ok policy) : Placed policy := by
  have built := (new_yields contract profile).value made
  obtain ⟨count, distinct⟩ := names_nodup named built.names
  refine ⟨built.slots, built.distinct, built.mapping, count, distinct, ?_, ?_⟩
  · rw [built.setting]
    exact built.apart
  · rw [built.setting]
    exact built.fixed

omit [Arithmetic S D] in
/-- The history and the actions hold no slots. -/
theorem placed_moved (held : Placed policy) (history : List (Terms S)) (lastAction : ℕ)
    (memory : List (Vector S 28)) : Placed { policy with history, lastAction, memory } :=
  ⟨held.slots, held.distinct, held.mapping, held.joints, held.single, held.apart, held.fixed⟩

omit [Arithmetic S D] in
theorem placed_act (held : Placed policy) (action : Vector S 28) : Placed (policy.act action) :=
  placed_moved held _ _ _

/-- A call touches only the history and the actions. -/
theorem placed_call (held : Placed policy) (call : Call D Timing) : Placed (call.after policy) := by
  cases call with
  | observe args =>
      change Placed (observe policy args).2
      unfold observe
      split
      · exact held
      · exact placed_moved held _ _ _
  | decode rawAction timing =>
      change Placed (policy.decode rawAction timing : _ × _).2
      unfold decode
      split
      · exact held
      · exact placed_act held _
  | reset => exact placed_moved held _ _ _

theorem placed_callAll (held : Placed policy) (calls : List (Call D Timing)) :
    Placed (callAll policy calls) := by
  unfold callAll
  induction calls generalizing policy with
  | nil => exact held
  | cons call rest ih => exact ih (placed_call held call)

/-- The joints that a policy binds. -/
def required (policy : WbcTrackingPolicy S D) : List String := policy.names ++ policy.profile.fixedNames

omit [Arithmetic S D] in
/-- A bound policy takes its slots from the roster. -/
theorem bindBodyInfo_accepts {info : RosterInfo} {bound : WbcTrackingPolicy S D}
    (binds : policy.bindBodyInfo info = .ok bound) : Accepts info (required policy) ∧
      ∃ mapping, policy.names.mapM (indexOf info.jointNames) = .ok mapping ∧
        bound = { policy with order := info.jointNames, mapping := mapping } := by
  obtain ⟨order, accepted, rest⟩ := bind_eq_ok.mp binds
  obtain ⟨mapping, mapped, same⟩ := bind_eq_ok.mp rest
  obtain ⟨accepts, rfl⟩ := (bodyJointOrder_yields info _).value accepted
  exact ⟨accepts, mapping, mapped, (Except.ok.inj same).symm⟩

omit [Arithmetic S D] in
theorem bindBodyInfo_ok {info : RosterInfo} {mapping : List ℕ} (accepts : Accepts info (required policy))
    (mapped : policy.names.mapM (indexOf info.jointNames) = .ok mapping) :
    policy.bindBodyInfo info = .ok { policy with order := info.jointNames, mapping := mapping } := by
  unfold bindBodyInfo
  rw [← required, bodyJointOrder_ok accepts]
  change (policy.names.mapM (indexOf info.jointNames) >>= _) = _
  rw [mapped]
  rfl

omit [Arithmetic S D] in
theorem placed_bind {info : RosterInfo} {bound : WbcTrackingPolicy S D} (held : Placed policy)
    (binds : policy.bindBodyInfo info = .ok bound) : Placed bound := by
  obtain ⟨accepts, mapping, mapped, rfl⟩ := bindBodyInfo_accepts binds
  exact ⟨accepts.slots, accepts.distinct, mapped, held.joints, held.single, held.apart,
    fun name member => accepts.known name (List.mem_append_right _ member)⟩

theorem placed_use (held : Placed policy) (use : Use D Timing) : Placed (use.after policy) := by
  cases use with
  | call next => exact placed_call held next
  | bind info =>
      change Placed ((policy.bindBodyInfo info).toOption.getD policy)
      cases binds : policy.bindBodyInfo info with
      | error raised => exact held
      | ok bound => exact placed_bind held binds

/-- Every joint keeps a slot through any uses. -/
theorem placed_useAll (held : Placed policy) (uses : List (Use D Timing)) : Placed (useAll policy uses) := by
  unfold useAll
  induction uses generalizing policy with
  | nil => exact held
  | cons use rest ih => exact ih (placed_use held use)

end Uses

section Decode

variable {policy : WbcTrackingPolicy S D}

/-- Assignments inside the list do not raise. -/
theorem assign_all {motors : List (JointCmd D)} {writes : List (ℕ × JointCmd D)}
    (inside : ∀ slot ∈ writes.map Prod.fst, slot < motors.length) :
    writes.foldlM assign motors = .ok (scatter motors writes) := by
  induction writes generalizing motors with
  | nil => rfl
  | cons write rest ih =>
      have first : assign motors write = .ok (motors.set write.1 write.2) :=
        if_pos (inside write.1 List.mem_cons_self)
      rw [List.foldlM_cons, first]
      refine ih fun slot member => ?_
      rw [List.length_set]
      exact inside slot (List.mem_cons_of_mem _ member)

/-- Each joint is assigned to the slot of its name. -/
theorem assignments_ok (held : Placed policy) (action : Vector S 28) : ∃ writes,
    policy.assignments action = .ok writes ∧
    List.Forall₂ (fun name slot => policy.order[slot]? = some name) (required policy) (writes.map Prod.fst) := by
  have mapped : List.Forall₂ (fun name slot => policy.order[slot]? = some name) policy.names policy.mapping :=
    (mapM_ok_iff.mp held.mapping).imp fun _ _ => indexOf_ok
  obtain ⟨fixed, assigned, places⟩ := @mapM_exists _ _ _
    (fun entry : String × FixedJoint D => do return (← indexOf policy.order entry.1, fixedCmd entry.2))
    (fun entry write => policy.order[write.1]? = some entry.1) policy.profile.fixedJoints.entries
    fun entry member => by
      have known := indexOf_member (held.fixed entry.1 (List.mem_map_of_mem member))
      refine ⟨(policy.order.idxOf entry.1, fixedCmd entry.2), ?_, indexOf_ok known⟩
      rw [known]
      rfl
  refine ⟨policy.mapping.zip ((List.finRange 28).map (policy.jointCmd action)) ++ fixed, ?_, ?_⟩
  · rw [assignments, assigned]
    rfl
  · have count : policy.mapping.length = 28 := mapped.length_eq.symm.trans held.joints
    rw [List.map_append, List.map_fst_zip (by rw [List.length_map, List.length_finRange, count])]
    refine List.rel_append mapped ?_
    rw [Profile.fixedNames, List.forall₂_map_left_iff, List.forall₂_map_right_iff]
    exact places

/-- A command for each joint in a slot of its own, and the zero command in the other slots. -/
structure Scattered (policy : WbcTrackingPolicy S D) (decoded : Decoded S D Timing) : Prop where
  joints : policy.names.length = 28
  slots : decoded.joints.length = 31
  writes : ∃ writes, policy.assignments decoded.action = .ok writes ∧
    writes.foldlM assign (List.replicate 31 .zero) = .ok decoded.joints ∧
    List.Forall₂ (fun name slot => policy.order[slot]? = some name)
      (policy.names ++ policy.profile.fixedNames) (writes.map Prod.fst) ∧
    (writes.map Prod.fst).Nodup ∧
    ∀ slot < 31, decoded.joints[slot]? = some ((writes.lookup slot).getD .zero)

/-- Slots with different names are different. -/
theorem slots_nodup {order names : List String} {slots : List ℕ}
    (named : List.Forall₂ (fun name slot => order[slot]? = some name) names slots) (distinct : names.Nodup) :
    slots.Nodup ∧ ∀ slot ∈ slots, slot < order.length := by
  have same : slots.map (order[·]?) = names.map some := by
    induction named with
    | nil => rfl
    | cons head _ ih => rw [List.map_cons, List.map_cons, head, ih (List.nodup_cons.mp distinct).2]
  constructor
  · refine List.Nodup.of_map (order[·]?) ?_
    rw [same]
    exact distinct.map (Option.some_injective _)
  · intro slot member
    have found : order[slot]? ∈ names.map some := same ▸ List.mem_map_of_mem member
    obtain ⟨name, _, here⟩ := List.mem_map.mp found
    exact (List.getElem?_eq_some_iff.mp here.symm).1

omit [Arithmetic S D] in
/-- The names of the joints are distinct. -/
theorem required_nodup (held : Placed policy) : (required policy).Nodup :=
  held.single.append policy.profile.fixedJoints.unique fun name member fixed => held.apart name fixed member

/-- Assignments to slots of the roster succeed. -/
theorem assign_slots (held : Placed policy) {writes : List (ℕ × JointCmd D)}
    (inside : ∀ slot ∈ writes.map Prod.fst, slot < policy.order.length) :
    writes.foldlM assign (List.replicate 31 .zero) = .ok (scatter (List.replicate 31 .zero) writes) := by
  refine assign_all fun slot member => ?_
  rw [List.length_replicate, ← held.slots]
  exact inside slot member

theorem command_ok (held : Placed policy) (action : Vector S 28) (timing : Timing) : ∃ writes,
    policy.assignments action = .ok writes ∧
    policy.command action timing = .ok ⟨scatter (List.replicate 31 .zero) writes, timing, action,
      policy.rawTarget action, policy.target action, policy.tauFf action⟩ ∧
    Scattered policy (⟨scatter (List.replicate 31 .zero) writes, timing, action, policy.rawTarget action,
      policy.target action, policy.tauFf action⟩ : Decoded S D Timing) := by
  obtain ⟨writes, assigned, named⟩ := assignments_ok held action
  obtain ⟨distinct, inside⟩ := slots_nodup named (required_nodup held)
  have done := assign_slots held inside
  refine ⟨writes, assigned, ?_, held.joints, ?_, writes, assigned, done, named, distinct, fun slot below => ?_⟩
  · rw [command, assigned]
    change (writes.foldlM assign _ >>= _) = _
    rw [done]
    rfl
  · rw [scatter_length, List.length_replicate]
  · have written := @scatter_lookup _ (List.replicate 31 (.zero : JointCmd D)) writes distinct slot
      (by rw [List.length_replicate]; exact below)
    rw [List.getElem_replicate] at written
    exact written

/-- A model output of 28 finite numbers. -/
structure ModelAction (rawAction : NdArray D) : Prop where
  shape : rawAction.shape = [28]
  finite : rawAction.data.all isFinite = true

/-- Only such an output has a clipped action. -/
theorem clipped_iff (contract : Contract D) (rawAction : NdArray D) :
    (∃ action, clipped contract rawAction = .ok action) ↔ ModelAction rawAction := by
  constructor
  · rintro ⟨action, known⟩
    obtain ⟨array, passed, rest⟩ := bind_eq_ok.mp known
    unfold finite at passed
    split at passed
    case isFalse => cases passed
    case isTrue numbers =>
      cases passed
      unfold vectorOf at rest
      split at rest
      case h_1 => cases rest
      case h_2 action found =>
        split at found
        case isTrue shape => exact ⟨shape, numbers⟩
        case isFalse => cases found
  · intro held
    have count : rawAction.data.length = 28 := by
      rw [rawAction.size, held.shape]
      rfl
    have slice : vectorOf 28 rawAction = some ⟨rawAction.data.toArray, by rw [List.size_toArray, count]⟩ := by
      rw [vectorOf, if_pos held.shape, sized, dif_pos count]
    unfold clipped finite
    rw [if_pos held.finite]
    simp only [bind, Except.bind, slice]
    exact ⟨_, rfl⟩

/-- Every decoded command has one write for each joint. -/
theorem decode_scattered (held : Placed policy) {rawAction : NdArray D} {timing : Timing}
    {decoded : Decoded S D Timing} (returned : (policy.decode rawAction timing).1 = .ok decoded) :
    Scattered policy decoded := by
  unfold decode at returned
  cases known : clipped policy.contract rawAction with
  | error raised =>
      rw [known] at returned
      cases returned
  | ok action =>
      rw [known] at returned
      obtain ⟨writes, _, commanded, scattered⟩ := command_ok (placed_act held action) action timing
      cases commanded.symm.trans returned
      exact ⟨scattered.joints, scattered.slots, scattered.writes⟩

/-- The decoder gives a command for exactly the outputs of 28 finite numbers. -/
theorem decode_iff (held : Placed policy) (rawAction : NdArray D) (timing : Timing) :
    (∃ decoded : Decoded S D Timing, (policy.decode rawAction timing).1 = .ok decoded) ↔
      ModelAction rawAction := by
  rw [← clipped_iff policy.contract]
  constructor
  · rintro ⟨decoded, returned⟩
    unfold decode at returned
    cases known : clipped policy.contract rawAction with
    | error raised =>
        rw [known] at returned
        cases returned
    | ok action => exact ⟨action, rfl⟩
  · rintro ⟨action, known⟩
    obtain ⟨writes, _, commanded, _⟩ := command_ok (placed_act held action) action timing
    unfold decode
    rw [known]
    exact ⟨_, commanded⟩

end Decode

end HumanoidSdk.Policy
