import Mathlib.Data.List.Chain
import Mathlib.Tactic.FieldSimp
import Mathlib.Tactic.Linarith
import Mathlib.Tactic.Positivity
import HumanoidSdk.Demo.HandMotion

/-
This file shows what the commands of the hand motion have in common: they stay within the limits of their
joints, they move no faster than the chosen speed, and a sequential round moves one joint at a time.
-/

namespace HumanoidSdk.Demo
open Foundation EndEffector

/-- Two lists of positions differ by no more than a bound, joint by joint. -/
def Near (bound : ℚ) (before after : List ℚ) : Prop :=
  ∀ (joint : ℕ) (old new : ℚ), before[joint]? = some old → after[joint]? = some new → |new - old| ≤ bound

/-- Every position is within the limits of its joint. -/
def InRange (info : HandLimits) (q : List ℚ) : Prop :=
  ∀ (joint : ℕ) (value : ℚ), q[joint]? = some value →
    ∃ low high, info.qMin[joint]? = some low ∧ info.qMax[joint]? = some high ∧ low ≤ value ∧ value ≤ high

/-- The limits of every joint enclose a position. -/
def HandLimits.Ordered (info : HandLimits) : Prop :=
  ∀ (joint : ℕ) (low high : ℚ), info.qMin[joint]? = some low → info.qMax[joint]? = some high → low ≤ high

theorem validateInfo_ordered {info : HandLimits} (valid : validateInfo info = .ok ()) : info.Ordered := by
  unfold validateInfo at valid
  split at valid
  · cases valid
  · split at valid
    · cases valid
    · rename_i lengths
      split at valid
      · cases valid
      · split at valid
        · cases valid
        · rename_i limits
          intro joint low high isLow isHigh
          have inside : joint < info.dqMax.length := by
            have bound := (List.getElem?_eq_some_iff.mp isLow).1
            push Not at lengths
            omega
          obtain ⟨speed, isSpeed⟩ : ∃ speed, info.dqMax[joint]? = some speed :=
            ⟨_, List.getElem?_eq_getElem inside⟩
          have entry : (info.qMin.zip (info.qMax.zip info.dqMax))[joint]? = some (low, high, speed) :=
            List.getElem?_zip_eq_some.mpr ⟨isLow, List.getElem?_zip_eq_some.mpr ⟨isHigh, isSpeed⟩⟩
          by_contra reversed
          apply limits
          exact List.any_eq_true.mpr ⟨_, List.mem_of_getElem? entry, decide_eq_true (.inl (not_le.mp reversed))⟩

theorem HandSetup.ordered (setup : HandSetup) {info : HandLimits} (member : info ∈ setup.hands) : info.Ordered := by
  obtain ⟨state, valid⟩ := setup.accepted info member
  unfold validateHand at valid
  split at valid
  · cases valid
  · rename_i passed
    exact validateInfo_ordered passed

theorem HandSetup.speed_pos (setup : HandSetup) : 0 < setup.speed := by
  have options := setup.options
  unfold validateMotionOptions at options
  split at options
  · cases options
  · split at options
    · cases options
    · split at options
      · cases options
      · rename_i positive
        split at options
        · cases options
        · split at options
          · cases options
          · split at options
            · cases options
            · cases options
              exact not_le.mp positive

namespace HandSetup

/-- One joint of a command. -/
theorem commandAt_joint {info : HandLimits} {positions targets : Pose} {steps step joint : ℕ} {value : ℚ} :
    (commandAt info positions targets steps step)[joint]? = some value ↔
      ∃ old target low high, (positions info.side)[joint]? = some old ∧
        (targets info.side)[joint]? = some target ∧ info.qMin[joint]? = some low ∧
        info.qMax[joint]? = some high ∧ value = clamp (old + (target - old) * step / steps) low high := by
  rw [commandAt, List.getElem?_zipWith_eq_some]
  constructor
  · rintro ⟨⟨old, target⟩, ⟨low, high⟩, way, limits, same⟩
    obtain ⟨isOld, isTarget⟩ := List.getElem?_zip_eq_some.mp way
    obtain ⟨isLow, isHigh⟩ := List.getElem?_zip_eq_some.mp limits
    exact ⟨old, target, low, high, isOld, isTarget, isLow, isHigh, same.symm⟩
  · rintro ⟨old, target, low, high, isOld, isTarget, isLow, isHigh, same⟩
    exact ⟨(old, target), (low, high), List.getElem?_zip_eq_some.mpr ⟨isOld, isTarget⟩,
      List.getElem?_zip_eq_some.mpr ⟨isLow, isHigh⟩, same.symm⟩

theorem commandAt_inRange {info : HandLimits} (ordered : info.Ordered) {positions targets : Pose} {steps step : ℕ} :
    InRange info (commandAt info positions targets steps step) := by
  intro joint value isValue
  obtain ⟨old, target, low, high, -, -, isLow, isHigh, rfl⟩ := commandAt_joint.mp isValue
  exact ⟨low, high, isLow, isHigh, clamp_mem (ordered joint low high isLow isHigh)⟩

variable (setup : HandSetup)

/-- No joint has a longer way than the displacement. -/
theorem way_le_displacement {info : HandLimits} (member : info ∈ setup.hands) {positions targets : Pose} {joint : ℕ}
    {old target : ℚ} (isOld : (positions info.side)[joint]? = some old)
    (isTarget : (targets info.side)[joint]? = some target) :
    |target - old| ≤ setup.displacement positions targets := by
  apply List.le_max_of_le' _ _ (le_refl _)
  refine List.mem_flatMap.mpr ⟨info, member, List.mem_of_getElem? (i := joint) ?_⟩
  exact List.getElem?_zipWith_eq_some.mpr ⟨target, old, isTarget, isOld, rfl⟩

theorem stepCount_pos (positions targets : Pose) : 0 < setup.stepCount positions targets :=
  lt_of_lt_of_le one_pos (le_max_left _ _)

/-- A step is short enough for the speed. -/
theorem way_le_steps (positions targets : Pose) :
    setup.displacement positions targets ≤ setup.stepCount positions targets * (setup.speed * PERIOD_S) := by
  have period : (0 : ℚ) < PERIOD_S := by decide +kernel
  have enough : setup.displacement positions targets / setup.speed / PERIOD_S ≤
      setup.stepCount positions targets := by
    calc setup.displacement positions targets / setup.speed / PERIOD_S
        ≤ (⌈setup.displacement positions targets / setup.speed / PERIOD_S⌉.toNat : ℚ) := by
          refine (Int.le_ceil _).trans ?_
          exact_mod_cast Int.self_le_toNat _
      _ ≤ setup.stepCount positions targets := by
          exact_mod_cast le_max_right 1 _
  rw [div_div, div_le_iff₀ (mul_pos setup.speed_pos period)] at enough
  exact enough

/-- Neighbouring commands of one move. -/
theorem near_step {info : HandLimits} (member : info ∈ setup.hands) (positions targets : Pose) (step : ℕ) :
    Near (setup.speed * PERIOD_S)
      (commandAt info positions targets (setup.stepCount positions targets) step)
      (commandAt info positions targets (setup.stepCount positions targets) (step + 1)) := by
  intro joint before after isBefore isAfter
  obtain ⟨old, target, low, high, isOld, isTarget, isLow, isHigh, rfl⟩ := commandAt_joint.mp isBefore
  obtain ⟨old', target', low', high', isOld', isTarget', isLow', isHigh', rfl⟩ := commandAt_joint.mp isAfter
  obtain rfl := Option.some.inj (isOld.symm.trans isOld')
  obtain rfl := Option.some.inj (isTarget.symm.trans isTarget')
  obtain rfl := Option.some.inj (isLow.symm.trans isLow')
  obtain rfl := Option.some.inj (isHigh.symm.trans isHigh')
  have count : (0 : ℚ) < setup.stepCount positions targets := by
    exact_mod_cast setup.stepCount_pos positions targets
  refine (clamp_nonexpansive _ _ low high).trans ?_
  have part : old + (target - old) * ((step + 1 : ℕ) : ℚ) / setup.stepCount positions targets -
      (old + (target - old) * step / setup.stepCount positions targets) =
        (target - old) / setup.stepCount positions targets := by
    push_cast
    field_simp
    ring
  rw [part, abs_div, abs_of_pos count, div_le_iff₀ count, mul_comm]
  exact (setup.way_le_displacement member isOld isTarget).trans (setup.way_le_steps positions targets)

/-- The last command of a move and the first one of the next move. -/
theorem near_link {info : HandLimits} (member : info ∈ setup.hands) (positions targets next : Pose) :
    Near (setup.speed * PERIOD_S)
      (commandAt info positions targets (setup.stepCount positions targets) (setup.stepCount positions targets))
      (commandAt info targets next (setup.stepCount targets next) 1) := by
  intro joint before after isBefore isAfter
  obtain ⟨old, target, low, high, -, isTarget, isLow, isHigh, rfl⟩ := commandAt_joint.mp isBefore
  obtain ⟨target', aim, -, -, isTarget', isAim, -, -, -⟩ := commandAt_joint.mp isAfter
  obtain rfl := Option.some.inj (isTarget.symm.trans isTarget')
  apply setup.near_step member targets next 0 joint _ after _ isAfter
  refine commandAt_joint.mpr ⟨target, aim, low, high, isTarget, isAim, isLow, isHigh, ?_⟩
  have count : (setup.stepCount positions targets : ℚ) ≠ 0 := by
    exact_mod_cast (setup.stepCount_pos positions targets).ne'
  congr 1
  rw [mul_div_cancel_right₀ _ count]
  push_cast
  ring

/-- A side has only one hand. -/
theorem same_hand {info other : HandLimits} (member : info ∈ setup.hands) (otherMember : other ∈ setup.hands)
    (same : other.side = info.side) : other = info :=
  List.inj_on_of_nodup_map setup.sides otherMember member same

theorem find_hand {info : HandLimits} (member : info ∈ setup.hands) :
    setup.hands.find? (·.side = info.side) = some info := by
  cases found : setup.hands.find? (·.side = info.side) with
  | none => exact absurd (List.find?_eq_none.mp found info member) (by simp)
  | some other =>
      have same : other.side = info.side := by simpa using List.find?_some found
      rw [setup.same_hand member (List.mem_of_find?_eq_some found) same]

/-- A pose at a fraction is within the limits. -/
theorem fraction_inRange {info : HandLimits} (member : info ∈ setup.hands) (frac : ℚ) :
    InRange info (setup.fraction frac info.side) := by
  intro joint value isValue
  rw [fraction, setup.find_hand member] at isValue
  obtain ⟨low, high, isLow, isHigh, rfl⟩ := List.getElem?_zipWith_eq_some.mp isValue
  exact ⟨low, high, isLow, isHigh, clamp_mem (setup.ordered member joint low high isLow isHigh)⟩

end HandSetup

/-- The joints that a command set keeps away from a pose. -/
def away (pose : Pose) (set : CommandSet) : Set (Side × ℕ) :=
  {place | ∃ q value, (place.1, q) ∈ set ∧ q[place.2]? = some value ∧ (pose place.1)[place.2]? ≠ some value}

/-- The commands of one hand. -/
def commandsOf (side : Side) (commands : CommandSet) : List (List ℚ) :=
  commands.filterMap fun command => if command.1 = side then some command.2 else none

/-- Hands on different sides have one command each. -/
theorem commandsOf_map {hands : List HandLimits} (sides : (hands.map HandLimits.side).Nodup) {info : HandLimits}
    (member : info ∈ hands) (command : HandLimits → List ℚ) :
    commandsOf info.side (hands.map fun hand => (hand.side, command hand)) = [command info] := by
  rw [commandsOf]
  induction hands with
  | nil => cases member
  | cons hand rest ih =>
      obtain ⟨fresh, sides⟩ := List.nodup_cons.mp sides
      rw [List.map_cons, List.filterMap_cons]
      rcases List.mem_cons.mp member with rfl | inside
      · rw [if_pos rfl]
        apply congrArg (List.cons _)
        apply List.filterMap_eq_nil_iff.mpr
        intro sent isSent
        obtain ⟨other, otherMember, rfl⟩ := List.mem_map.mp isSent
        exact if_neg fun same => fresh (List.mem_map.mpr ⟨other, otherMember, same⟩)
      · rw [if_neg fun same => fresh (List.mem_map.mpr ⟨info, inside, same.symm⟩)]
        exact ih sides inside

/-- Moves lead from one pose to another, each from where the one before it ended. -/
inductive Linked : Pose → List (Pose × Pose) → Pose → Prop
  | nil (pose : Pose) : Linked pose [] pose
  | cons {pose last : Pose} {moves : List (Pose × Pose)} (next : Pose) (linked : Linked next moves last) :
      Linked pose ((pose, next) :: moves) last

theorem Linked.append {first middle last : Pose} {moves others : List (Pose × Pose)}
    (linked : Linked first moves middle) (rest : Linked middle others last) : Linked first (moves ++ others) last := by
  induction linked with
  | nil => exact rest
  | cons next _ ih => exact .cons next (ih rest)

/-- Ways that return to a pose may be taken one after the other. -/
theorem Linked.flatMap {Item : Type*} {pose : Pose} {items : List Item} {moves : Item → List (Pose × Pose)}
    (loops : ∀ item ∈ items, Linked pose (moves item) pose) : Linked pose (items.flatMap moves) pose := by
  induction items with
  | nil => exact .nil pose
  | cons item rest ih =>
      rw [List.flatMap_cons]
      apply (loops item List.mem_cons_self).append
      exact ih fun other member => loops other (List.mem_cons_of_mem item member)

theorem Linked.head {first last : Pose} {move : Pose × Pose} {moves : List (Pose × Pose)}
    (linked : Linked first (move :: moves) last) : move.1 = first := by
  cases linked with
  | cons => rfl

theorem Linked.isChain {first last : Pose} {moves : List (Pose × Pose)} (linked : Linked first moves last) :
    moves.IsChain fun before after => before.2 = after.1 := by
  induction linked with
  | nil => exact .nil
  | @cons _ _ moves next rest ih =>
      cases moves with
      | nil => exact .singleton _
      | cons move others => exact .cons_cons rest.head.symm ih

namespace HandSetup

variable (setup : HandSetup)

/-- A round leads back to the low pose. -/
theorem roundMoves_linked : Linked setup.lowTargets setup.roundMoves setup.lowTargets := by
  unfold roundMoves
  split
  · exact .cons _ (.cons _ (.nil _))
  · apply Linked.flatMap
    intro info _
    apply Linked.flatMap
    intro index _
    exact .cons _ (.cons _ (.nil _))

/-- The moves of a number of rounds after the move to the low pose. -/
def sessionMoves (start : Pose) (rounds : ℕ) : List (Pose × Pose) :=
  (start, setup.lowTargets) :: (List.replicate rounds setup.roundMoves).flatten

theorem sessionMoves_linked (start : Pose) (rounds : ℕ) :
    Linked start (setup.sessionMoves start rounds) setup.lowTargets := by
  apply Linked.cons
  rw [← List.flatMap_id]
  apply Linked.flatMap
  intro moves member
  rw [List.eq_of_mem_replicate member]
  exact setup.roundMoves_linked

/-- The commands of one hand in a move. -/
def moveCommands (info : HandLimits) (move : Pose × Pose) : List (List ℚ) :=
  (List.range (setup.stepCount move.1 move.2)).map fun step =>
    commandAt info move.1 move.2 (setup.stepCount move.1 move.2) (step + 1)

theorem moveCommands_chain {info : HandLimits} (member : info ∈ setup.hands) (move : Pose × Pose) :
    (setup.moveCommands info move).IsChain (Near (setup.speed * PERIOD_S)) := by
  rw [moveCommands, List.isChain_map, List.isChain_range]
  intro step _
  exact setup.near_step member move.1 move.2 (step + 1)

theorem moveCommands_getLast (info : HandLimits) (move : Pose × Pose) :
    (setup.moveCommands info move).getLast? =
      some (commandAt info move.1 move.2 (setup.stepCount move.1 move.2) (setup.stepCount move.1 move.2)) := by
  obtain ⟨count, same⟩ := Nat.exists_eq_succ_of_ne_zero (setup.stepCount_pos move.1 move.2).ne'
  rw [moveCommands, same, List.range_succ, List.map_append, List.map_singleton, List.getLast?_concat]

theorem moveCommands_head (info : HandLimits) (move : Pose × Pose) :
    (setup.moveCommands info move).head? =
      some (commandAt info move.1 move.2 (setup.stepCount move.1 move.2) 1) := by
  obtain ⟨count, same⟩ := Nat.exists_eq_succ_of_ne_zero (setup.stepCount_pos move.1 move.2).ne'
  rw [moveCommands, same, List.range_succ_eq_map, List.map_cons, List.head?_cons]

/-- The speed is kept from move to move. -/
theorem linked_chain {info : HandLimits} (member : info ∈ setup.hands) {first last : Pose}
    {moves : List (Pose × Pose)} (linked : Linked first moves last) :
    (moves.flatMap (setup.moveCommands info)).IsChain (Near (setup.speed * PERIOD_S)) := by
  rw [List.flatMap_def, List.isChain_flatten]
  · constructor
    · intro commands inside
      obtain ⟨move, -, rfl⟩ := List.mem_map.mp inside
      exact setup.moveCommands_chain member move
    · rw [List.isChain_map]
      apply linked.isChain.imp
      rintro ⟨positions, targets⟩ ⟨_, next⟩ rfl
      rw [setup.moveCommands_getLast, setup.moveCommands_head]
      rintro before ⟨⟩ after ⟨⟩
      exact setup.near_link member positions targets next
  · intro empty
    obtain ⟨move, -, none⟩ := List.mem_map.mp empty
    have last := setup.moveCommands_getLast info move
    rw [none] at last
    cases last

/-- A command set has one command for each hand. -/
theorem commandsOf_commandSet {info : HandLimits} (member : info ∈ setup.hands) (positions targets : Pose)
    (steps step : ℕ) : commandsOf info.side (setup.commandSet positions targets steps step) =
      [commandAt info positions targets steps step] :=
  commandsOf_map setup.sides member fun hand => commandAt hand positions targets steps step

theorem commandsOf_moveSets {info : HandLimits} (member : info ∈ setup.hands) (move : Pose × Pose) :
    commandsOf info.side (setup.moveSets move.1 move.2).flatten = setup.moveCommands info move := by
  rw [commandsOf, List.filterMap_flatten, moveSets, List.map_map, moveCommands]
  rw [← List.flatMap_def, List.map_eq_flatMap]
  apply List.flatMap_congr
  intro step _
  exact setup.commandsOf_commandSet member move.1 move.2 _ (step + 1)

/-- The command sets of a number of rounds. -/
def roundsSets (rounds : ℕ) : List CommandSet := (List.replicate rounds setup.roundSets).flatten

theorem commandsOf_session {info : HandLimits} (member : info ∈ setup.hands) (start : Pose) (rounds : ℕ) :
    commandsOf info.side (setup.moveSets start setup.lowTargets ++ setup.roundsSets rounds).flatten =
      (setup.sessionMoves start rounds).flatMap (setup.moveCommands info) := by
  have moves (list : List (Pose × Pose)) :
      commandsOf info.side (list.flatMap fun move => setup.moveSets move.1 move.2).flatten =
        list.flatMap (setup.moveCommands info) := by
    induction list with
    | nil => rfl
    | cons move rest ih =>
        rw [List.flatMap_cons, List.flatMap_cons, List.flatten_append, commandsOf, List.filterMap_append]
        exact congrArg₂ (· ++ ·) (setup.commandsOf_moveSets member move) ih
  have flat : setup.roundsSets rounds =
      (List.replicate rounds setup.roundMoves).flatten.flatMap fun move => setup.moveSets move.1 move.2 := by
    rw [roundsSets]
    induction rounds with
    | zero => rfl
    | succ rounds ih =>
        rw [List.replicate_succ, List.replicate_succ, List.flatten_cons, List.flatten_cons, List.flatMap_append, ih]
        rfl
  rw [flat, ← moves, sessionMoves, List.flatMap_cons]

/-- The speed is kept by the whole motion. -/
theorem session_chain {info : HandLimits} (member : info ∈ setup.hands) (start : Pose) (rounds : ℕ) :
    (commandsOf info.side (setup.moveSets start setup.lowTargets ++ setup.roundsSets rounds).flatten).IsChain
      (Near (setup.speed * PERIOD_S)) := by
  rw [setup.commandsOf_session member]
  exact setup.linked_chain member (setup.sessionMoves_linked start rounds)

/-- Between two poses that are low but for one joint, only that joint leaves its low target. -/
theorem commandSet_away {positions targets : Pose} {place : Side × ℕ} (steps step : ℕ)
    (leaves : ∀ side joint, (side, joint) ≠ place → (positions side)[joint]? = (setup.lowTargets side)[joint]?)
    (reaches : ∀ side joint, (side, joint) ≠ place → (targets side)[joint]? = (setup.lowTargets side)[joint]?) :
    away setup.lowTargets (setup.commandSet positions targets steps step) ⊆ {place} := by
  rintro ⟨side, joint⟩ ⟨q, value, member, isValue, apart⟩
  obtain ⟨info, hand, same⟩ := List.mem_map.mp member
  cases same
  by_contra other
  obtain ⟨old, target, low, high, isOld, isTarget, isLow, isHigh, rfl⟩ := commandAt_joint.mp isValue
  have oldLow := (leaves info.side joint other).symm.trans isOld
  have targetLow := (reaches info.side joint other).symm.trans isTarget
  obtain rfl := Option.some.inj (oldLow.symm.trans targetLow)
  obtain ⟨low', high', isLow', isHigh', above, below⟩ := setup.fraction_inRange hand _ joint old oldLow
  obtain rfl := Option.some.inj (isLow.symm.trans isLow')
  obtain rfl := Option.some.inj (isHigh.symm.trans isHigh')
  apply apart
  rw [sub_self, zero_mul, zero_div, add_zero, clamp_eq above below]
  exact oldLow

/-- The raised pose is low but for one joint. -/
theorem raised_low (side : Side) (index : ℕ) {other : Side} {joint : ℕ} (differs : (other, joint) ≠ (side, index)) :
    (setup.raised side index other)[joint]? = (setup.lowTargets other)[joint]? := by
  by_cases same : other = side
  · subst same
    rw [raised, Function.update_self]
    exact List.getElem?_set_ne fun equal => differs (by rw [equal])
  · rw [raised, Function.update_of_ne same]

/-- In a sequential round every command set keeps at most one joint away from the low pose. -/
theorem roundSets_sequential (sequential : setup.pattern = .sequential) {set : CommandSet}
    (member : set ∈ setup.roundSets) : (away setup.lowTargets set).Subsingleton := by
  obtain ⟨move, inRound, inside⟩ := List.mem_flatMap.mp member
  obtain ⟨step, -, rfl⟩ := List.mem_map.mp inside
  rw [roundMoves, sequential] at inRound
  obtain ⟨info, -, ofHand⟩ := List.mem_flatMap.mp inRound
  obtain ⟨index, -, ofJoint⟩ := List.mem_flatMap.mp ofHand
  have risen (side : Side) (joint : ℕ) (differs : (side, joint) ≠ (info.side, index)) :=
    setup.raised_low info.side index differs
  have only : away setup.lowTargets (setup.commandSet move.1 move.2 (setup.stepCount move.1 move.2) (step + 1)) ⊆
      {(info.side, index)} := by
    rcases List.mem_cons.mp ofJoint with rfl | second
    · exact setup.commandSet_away _ _ (fun _ _ _ => rfl) risen
    · cases List.mem_singleton.mp second
      exact setup.commandSet_away _ _ risen fun _ _ _ => rfl
  exact Set.subsingleton_singleton.anti only

end HandSetup

end HumanoidSdk.Demo
