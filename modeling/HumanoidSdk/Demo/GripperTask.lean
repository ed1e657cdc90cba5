import HumanoidSdk.Demo.GripperGuard
import HumanoidSdk.Demo.StandPose
import HumanoidSdk.EndEffector.Target

/-
This file translates what examples/gripper/gripper_external.py checks before it asks for control: the beginnings
of run and run_sine with _opening_start, _transition_duration, sine_opening and _sine_preflight. It shows that
validate_target then refuses none of the targets that they stream. Numbers are exact.
-/

namespace HumanoidSdk.Demo
open Foundation EndEffector

/-- `GripperState` with its host target. -/
structure GripperReport extends GripperFeedback where
  hostTargetValid : Bool
  hostTarget : Option FloatValue

/-- A client with its Info and its state before the entry, and the grippers of `RobotInfo` on its side. -/
structure GripperArm where
  label : String
  info : GripperInfo
  initial : GripperReport
  aggregate : List GripperInfo

/-- The function that maps a number of turns to its `math.sin`. -/
structure Wave where
  sin : ℚ → ℚ
  bounded : ∀ turns, -1 ≤ sin turns ∧ sin turns ≤ 1

/-- What the example is asked to do with the grippers. -/
inductive GripperMotion where
  | target (q dq : ℚ) (torque : Option ℚ) (duration : ℚ) (returnToStart : Bool)
  | sine (low high period duration : ℚ) (torque : Option ℚ) (wave : Wave)

/-- The text of an exception. -/
def Failure.message : Failure → String
  | .valueError message | .runtimeError message | .timeoutError message | .osError message
  | .external message => message

def numberOf : FloatValue → ℚ
  | .finite value => value
  | _ => 0

section Checks

variable (numbers : GripperNumbers) (info : GripperInfo)

/-- The call of `validate_target`. -/
def checkTarget (q : FloatValue) (dq : ℚ) (torque : Option ℚ) : Except Failure Unit :=
  let torque := match torque with
    | none => PyValue.none
    | some torque => .float (.finite torque)
  match GripperClient.validateTarget numbers (some info) (.float q) (.float (.finite dq)) torque with
  | .ok () => .ok ()
  | .error error => .error (.valueError error.message)

/-- The measured opening of a state that was validated. -/
def GripperReport.opening (report : GripperReport) : FloatValue := report.sample.getD .nan

/-- The host target is preferred to the measured opening. -/
def GripperReport.target (report : GripperReport) : FloatValue :=
  match report.hostTargetValid, report.hostTarget with
  | true, some q => q
  | _, _ => report.opening

def openingStart (report : GripperReport) : Except Failure ℚ := do
  checkTarget numbers info report.target 0 none
  return numberOf report.target

def transitionDuration (start target rate minimum : ℚ) : Except Failure ℚ :=
  if |target - start| = 0 then .ok minimum
  else if rate ≤ 0 then .error (.valueError "configured opening rate is zero; no finite transition duration")
  else .ok (max minimum (|target - start| / rate))

/-- The function `sine_opening`. -/
def sineOpening (wave : Wave) (low high period elapsed : ℚ) : ℚ :=
  let weight := (1 + wave.sin (elapsed / period)) / 2
  low * (1 - weight) + high * weight

/-- The duration of `transition`. -/
def transitionSeconds (arms : List GripperArm) (start finish : List ℚ) : Except Failure ℚ := do
  let seconds ← ((start.zip finish).zip arms).mapM fun entry =>
    transitionDuration entry.1.1 entry.1.2 (numberOf entry.2.info.maxOpeningRateMS) 0
  return seconds.foldr max 0

/-- The local function `position` of `transition` at one gripper. -/
def transitionPosition (start finish seconds elapsed : ℚ) : ℚ :=
  if seconds = 0 ∨ seconds ≤ elapsed then finish else start + (finish - start) * (elapsed / seconds)

end Checks

/-- The rate of a single target. -/
def targetRate (info : GripperInfo) (dq : ℚ) : ℚ := if 0 < dq then dq else numberOf info.maxOpeningRateMS

section Preflight

variable (numbers : GripperNumbers) (text : FloatValue → String)

/-- The checks of `run` before the entry. -/
def targetPreflight (arm : GripperArm) (q dq : ℚ) (torque : Option ℚ) (duration : ℚ) (returnToStart : Bool) :
    Except Failure Unit := do
  checkTarget numbers arm.info (.finite q) dq torque
  discard (validateState numbers arm.info (some arm.initial.toGripperFeedback) false)
  let start ← openingStart numbers arm.info arm.initial
  discard (transitionDuration start q (targetRate arm.info dq) duration)
  if returnToStart then checkTarget numbers arm.info arm.initial.opening dq torque

/-- The opening to return to, which is NaN without a valid sample. -/
def returnOpening (report : GripperReport) : FloatValue := if report.sampleValid then report.opening else .nan

/-- What `_sine_preflight` finds at one description of a gripper. -/
def sourceProblems (arm : GripperArm) (low high : ℚ) (torque : Option ℚ) (source : String) (cap : GripperInfo) :
    List String :=
  (if (cap.side, cap.gripperType) ≠ (arm.info.side, arm.info.gripperType) then
    [arm.label ++ " " ++ source ++ ": gripper identity differs from topic Info"] else []) ++
  [("low", FloatValue.finite low), ("high", .finite high), ("return", returnOpening arm.initial)].flatMap fun entry =>
    match checkTarget numbers cap entry.2 0 torque with
    | .ok () => []
    | .error failure =>
        [arm.label ++ " " ++ source ++ " " ++ entry.1 ++ "=" ++ text entry.2 ++ ": " ++ failure.message]

/-- What a pass of the loop of `_sine_preflight` appends. -/
def armProblems (low high : ℚ) (torque : Option ℚ) (arm : GripperArm) : List String :=
  (if arm.aggregate.length ≠ 1 then [arm.label ++ ": RobotInfo must provide one configured gripper"] else []) ++
  sourceProblems numbers text arm low high torque "topic Info" arm.info ++
  arm.aggregate.flatMap (sourceProblems numbers text arm low high torque "RobotInfo") ++
  (match validateState numbers arm.info (some arm.initial.toGripperFeedback) false with
    | .ok _ => []
    | .error failure => [arm.label ++ ": " ++ failure.message]) ++
  if numberOf arm.info.maxOpeningRateMS = 0 then
    [arm.label ++ ": configured default opening rate is zero; no finite linear transition"] else []

/-- The checks of `run_sine` before the entry. -/
def sinePreflight (arms : List GripperArm) (low high period duration : ℚ) (torque : Option ℚ) :
    Except Failure Unit :=
  if arms.map GripperArm.label ≠ ["left", "right"] then
    .error (.valueError "dual sine requires left and right clients sharing the controller node")
  else if period ≤ 0 then .error (.valueError "period must be finite and positive")
  else if duration ≤ 0 then .error (.valueError "duration must be finite and positive")
  else if high ≤ low then .error (.valueError "sine opening bounds must be finite and low < high")
  else if arms.flatMap (armProblems numbers text low high torque) ≠ [] then
    .error (.valueError ("; ".intercalate (arms.flatMap (armProblems numbers text low high torque))))
  else .ok ()

/-- The checks of the example before it describes the body. -/
def GripperMotion.preflight (arms : List GripperArm) : GripperMotion → Except Failure Unit
  | .target q dq torque duration returnToStart =>
      match arms with
      | [arm] =>
          if duration ≤ 0 then .error (.valueError "duration must be finite and positive")
          else targetPreflight numbers arm q dq torque duration returnToStart
      | _ => .error (.valueError "--side both motion requires --pattern sine")
  | .sine low high period duration torque _ => sinePreflight numbers text arms low high period duration torque

end Preflight

/-- A number within the opening limits. -/
def Opens (info : GripperInfo) (q : ℚ) : Prop :=
  info.openingMinM.le (.finite q) = true ∧ FloatValue.le (.finite q) info.openingMaxM = true

section Openings

variable {numbers : GripperNumbers} {info : GripperInfo} {q first second dq : ℚ} {torque : Option ℚ}

/-- A number above a number above the limit is above the limit. -/
theorem le_raised {limit : FloatValue} (above : limit.le (.finite first) = true) (raised : first ≤ q) :
    limit.le (.finite q) = true := by
  cases limit with
  | nan => exact above
  | infinity negative =>
      cases negative with
      | true => rfl
      | false => exact above
  | finite bound =>
      have reached : bound ≤ first := of_decide_eq_true above
      exact decide_eq_true (reached.trans raised)

theorem le_lowered {limit : FloatValue} (below : FloatValue.le (.finite first) limit = true) (lowered : q ≤ first) :
    FloatValue.le (.finite q) limit = true := by
  cases limit with
  | nan => exact below
  | infinity negative =>
      cases negative with
      | true => exact below
      | false => rfl
  | finite bound =>
      have reached : first ≤ bound := of_decide_eq_true below
      exact decide_eq_true (lowered.trans reached)

/-- A number between two openings within the limits is within the limits. -/
theorem Opens.between (isFirst : Opens info first) (isSecond : Opens info second) (lower : min first second ≤ q)
    (upper : q ≤ max first second) : Opens info q := by
  constructor
  · rcases min_le_iff.mp lower with least | least
    · exact le_raised isFirst.1 least
    · exact le_raised isSecond.1 least
  · rcases le_max_iff.mp upper with greatest | greatest
    · exact le_lowered isFirst.2 greatest
    · exact le_lowered isSecond.2 greatest

/-- A check whose error is raised anew passes when the check does. -/
theorem raised_eq_ok {result : Except PyError Unit} :
    (match result with
      | .ok () => .ok ()
      | .error error => .error (Failure.valueError error.message) : Except Failure Unit) = .ok () ↔
        result = .ok () := by
  cases result with
  | error error =>
      constructor
      · rintro ⟨⟩
      · rintro ⟨⟩
  | ok => exact ⟨fun _ => rfl, fun _ => rfl⟩

theorem checkTarget_eq_ok {value : FloatValue} : checkTarget numbers info value dq torque = .ok () ↔
    GripperClient.Accepted numbers info (.float value) (.float (.finite dq))
      (match torque with
      | none => .none
      | some torque => .float (.finite torque)) := by
  rw [← GripperClient.validateTarget_iff]
  cases torque with
  | none => exact raised_eq_ok
  | some torque => exact raised_eq_ok

/-- An accepted opening is within the limits. -/
theorem opens_of_checkTarget (passed : checkTarget numbers info (.finite q) dq torque = .ok ()) : Opens info q := by
  have inside := (checkTarget_eq_ok.mp passed).insideQ
  rw [within, exact, Bool.and_eq_true] at inside
  exact inside

/-- Every opening within the limits is accepted with what another one is accepted with. -/
theorem Opens.checkTarget (opens : Opens info q)
    (passed : Demo.checkTarget numbers info (.finite first) dq torque = .ok ()) :
    Demo.checkTarget numbers info (.finite q) dq torque = .ok () := by
  apply checkTarget_eq_ok.mpr
  have accepted := checkTarget_eq_ok.mp passed
  refine { accepted with finiteQ := rfl, insideQ := ?_ }
  rw [within, exact, Bool.and_eq_true]
  exact opens

/-- A state that passes has measured an opening within the limits. -/
theorem opens_of_validateState {report found : GripperFeedback} {requireOutput : Bool}
    (passed : validateState numbers info (some report) requireOutput = .ok found) :
    ∃ q, report.sample = some (.finite q) ∧ report.sampleValid = true ∧ Opens info q := by
  have measured : report.measured info = true := by
    unfold validateState at passed
    split at passed
    · cases passed
    · cases passed
    · rename_i same
      cases same
      split at passed
      · cases passed
      · split at passed
        · cases passed
        · split at passed
          · cases passed
          · rename_i measured
            simpa using measured
  rw [GripperFeedback.measured, Bool.and_eq_true, Option.any_eq_true] at measured
  obtain ⟨valid, value, isSample, opens⟩ := measured
  rw [Bool.and_eq_true, Bool.and_eq_true] at opens
  cases value with
  | finite q => exact ⟨q, isSample, valid, opens.1.2, opens.2⟩
  | infinity | nan => cases opens.1.1

theorem sineOpening_mem (wave : Wave) {low high : ℚ} (ordered : low < high) (period elapsed : ℚ) :
    low ≤ sineOpening wave low high period elapsed ∧ sineOpening wave low high period elapsed ≤ high := by
  obtain ⟨lower, upper⟩ := wave.bounded (elapsed / period)
  unfold sineOpening
  constructor <;> nlinarith

end Openings

section Transitions

variable {start finish rate seconds early late : ℚ}

theorem transitionPosition_mem (start finish seconds : ℚ) (forward : 0 ≤ late) :
    min start finish ≤ transitionPosition start finish seconds late ∧
      transitionPosition start finish seconds late ≤ max start finish := by
  unfold transitionPosition
  split
  · exact ⟨min_le_right _ _, le_max_right _ _⟩
  · rename_i moving
    push Not at moving
    have positive : 0 < seconds := forward.trans_lt moving.2
    have lower : 0 ≤ late / seconds := div_nonneg forward positive.le
    have upper : late / seconds ≤ 1 := (div_le_one positive).mpr moving.2.le
    rcases le_total start finish with up | down
    · rw [min_eq_left up, max_eq_right up]
      constructor <;> nlinarith
    · rw [min_eq_right down, max_eq_left down]
      constructor <;> nlinarith

/-- The target of a transition with the share of the way that is done. -/
theorem transitionPosition_eq (start finish : ℚ) (positive : 0 < seconds) (elapsed : ℚ) :
    transitionPosition start finish seconds elapsed = start + (finish - start) * min 1 (elapsed / seconds) := by
  unfold transitionPosition
  by_cases done : seconds ≤ elapsed
  · rw [if_pos (.inr done), min_eq_left ((one_le_div positive).mpr done)]
    ring
  · rw [if_neg (not_or.mpr ⟨positive.ne', done⟩), min_eq_right ((div_le_one positive).mpr (not_le.mp done).le)]

/-- A transition with enough time is not faster than the rate. -/
theorem transitionPosition_near (start finish : ℚ) (long : 0 ≤ seconds)
    (enough : |finish - start| ≤ rate * seconds) (positive : 0 ≤ rate) (forward : early ≤ late) :
    |transitionPosition start finish seconds late - transitionPosition start finish seconds early| ≤
      rate * (late - early) := by
  rcases long.eq_or_lt with rfl | moving
  · unfold transitionPosition
    rw [if_pos (.inl rfl), if_pos (.inl rfl), sub_self, abs_zero]
    exact mul_nonneg positive (sub_nonneg.mpr forward)
  · rw [transitionPosition_eq start finish moving, transitionPosition_eq start finish moving]
    have steeper : early / seconds ≤ late / seconds := div_le_div_of_nonneg_right forward moving.le
    have share : (late - early) / seconds = late / seconds - early / seconds := sub_div _ _ _
    have grows : 0 ≤ min 1 (late / seconds) - min 1 (early / seconds) := by grind
    have slow : min 1 (late / seconds) - min 1 (early / seconds) ≤ (late - early) / seconds := by grind
    calc |start + (finish - start) * min 1 (late / seconds) - (start + (finish - start) * min 1 (early / seconds))|
        = |finish - start| * (min 1 (late / seconds) - min 1 (early / seconds)) := by
          rw [add_sub_add_left_eq_sub, ← mul_sub, abs_mul, abs_of_nonneg grows]
      _ ≤ rate * seconds * ((late - early) / seconds) :=
          mul_le_mul enough slow grows (mul_nonneg positive long)
      _ = rate * (late - early) := by field_simp

/-- A positive rate yields a duration that is long enough for it. -/
theorem transitionDuration_ok (start finish : ℚ) (positive : 0 < rate) :
    ∃ span, transitionDuration start finish rate 0 = .ok span ∧ |finish - start| ≤ rate * span := by
  unfold transitionDuration
  by_cases still : |finish - start| = 0
  · rw [if_pos still, still]
    exact ⟨0, rfl, (mul_zero rate).ge⟩
  · rw [if_neg still, if_neg (not_le.mpr positive)]
    refine ⟨_, rfl, ?_⟩
    calc |finish - start| = rate * (|finish - start| / rate) := (mul_div_cancel₀ _ positive.ne').symm
      _ ≤ _ := mul_le_mul_of_nonneg_left (le_max_right _ _) positive.le

theorem forall₂_exists {Item Value : Type} {related : Item → Value → Prop} {items : List Item} {values : List Value}
    (each : List.Forall₂ related items values) {item : Item} (member : item ∈ items) :
    ∃ value ∈ values, related item value := by
  induction each with
  | nil => cases member
  | cons head rest ih =>
      rcases List.mem_cons.mp member with rfl | later
      · exact ⟨_, List.mem_cons_self, head⟩
      · obtain ⟨value, inside, held⟩ := ih later
        exact ⟨value, List.mem_cons_of_mem _ inside, held⟩

/-- The duration of a transition is long enough for each of its grippers. -/
theorem transitionSeconds_ok {arms : List GripperArm} (starts finishes : List ℚ)
    (rates : ∀ arm ∈ arms, 0 < numberOf arm.info.maxOpeningRateMS) :
    ∃ seconds, transitionSeconds arms starts finishes = .ok seconds ∧ 0 ≤ seconds ∧
      ∀ entry ∈ (starts.zip finishes).zip arms,
        |entry.1.2 - entry.1.1| ≤ numberOf entry.2.info.maxOpeningRateMS * seconds := by
  have each : ∀ entry ∈ (starts.zip finishes).zip arms, ∃ span,
      transitionDuration entry.1.1 entry.1.2 (numberOf entry.2.info.maxOpeningRateMS) 0 = .ok span ∧
        |entry.1.2 - entry.1.1| ≤ numberOf entry.2.info.maxOpeningRateMS * span :=
    fun entry member => transitionDuration_ok entry.1.1 entry.1.2 (rates entry.2 (List.of_mem_zip member).2)
  obtain ⟨spans, isSpans, enough⟩ := mapM_exists each
  refine ⟨spans.foldr max 0, by rw [transitionSeconds, isSpans]; rfl, foldr_max_nonneg spans, ?_⟩
  intro entry member
  obtain ⟨span, isSpan, travel⟩ := forall₂_exists enough member
  have rate := (rates entry.2 (List.of_mem_zip member).2).le
  exact travel.trans (mul_le_mul_of_nonneg_left (List.le_max_of_le' 0 isSpan (le_refl span)) rate)

end Transitions

section Preflights

variable {numbers : GripperNumbers} {text : FloatValue → String} {arms : List GripperArm} {arm : GripperArm}
  {low high period duration : ℚ} {torque : Option ℚ}

/-- A check that refuses is passed when it does not refuse. -/
theorem unless_ok {failing : Prop} [Decidable failing] {failure : Failure} {rest : Except Failure Unit} :
    (if failing then .error failure else rest) = .ok () ↔ ¬failing ∧ rest = .ok () := by
  by_cases fails : failing
  · rw [if_pos fails]
    constructor
    · rintro ⟨⟩
    · exact fun passed => absurd fails passed.1
  · rw [if_neg fails]
    exact ⟨fun passed => ⟨fails, passed⟩, And.right⟩

theorem sourceProblems_eq_nil {source : String} {cap : GripperInfo}
    (clear : sourceProblems numbers text arm low high torque source cap = []) :
    checkTarget numbers cap (.finite low) 0 torque = .ok () ∧
      checkTarget numbers cap (.finite high) 0 torque = .ok () := by
  unfold sourceProblems at clear
  have each := List.flatMap_eq_nil_iff.mp (List.append_eq_nil_iff.mp clear).2
  have passes (entry : String × FloatValue) (member : entry ∈ [("low", FloatValue.finite low), ("high", .finite high),
      ("return", returnOpening arm.initial)]) : checkTarget numbers cap entry.2 0 torque = .ok () := by
    have silent := each entry member
    split at silent
    · assumption
    · cases silent
  exact ⟨passes ("low", .finite low) (by simp), passes ("high", .finite high) (by simp)⟩

/-- What the checks of the dual sine establish about a gripper. -/
structure Cleared (numbers : GripperNumbers) (low high : ℚ) (torque : Option ℚ) (arm : GripperArm) : Prop where
  low : checkTarget numbers arm.info (.finite low) 0 torque = .ok ()
  high : checkTarget numbers arm.info (.finite high) 0 torque = .ok ()
  measured : Opens arm.info (numberOf arm.initial.opening)
  rate : 0 < numberOf arm.info.maxOpeningRateMS

/-- The opening of a report that was validated is within the limits. -/
theorem opens_opening {report : GripperReport} {found : GripperFeedback}
    (passed : validateState numbers arm.info (some report.toGripperFeedback) false = .ok found) :
    Opens arm.info (numberOf report.opening) := by
  obtain ⟨q, isSample, -, opens⟩ := opens_of_validateState passed
  rw [GripperReport.opening, isSample]
  exact opens

/-- A transition starts within the limits. -/
theorem opens_start {report : GripperReport} {start : ℚ}
    (started : openingStart numbers arm.info report = .ok start) : Opens arm.info start := by
  obtain ⟨_, passed, same⟩ := bind_eq_ok.mp started
  cases same
  cases isTarget : report.target with
  | finite q =>
      rw [isTarget] at passed
      exact opens_of_checkTarget passed
  | infinity | nan =>
      rw [isTarget] at passed
      cases (checkTarget_eq_ok.mp passed).finiteQ

theorem rate_nonneg {info : GripperInfo} (valid : GripperClient.validateInfo numbers (some info) = .ok ()) :
    0 ≤ numberOf info.maxOpeningRateMS := by
  unfold GripperClient.validateInfo at valid
  simp only [↓check_ok, ↓last_check_ok, Bool.not_eq_true', Bool.not_eq_false] at valid
  obtain ⟨-, -, -, -, ordered, -⟩ := valid
  simp only [GripperInfo.limitsOrdered, Bool.and_eq_true] at ordered
  have lower := ordered.1.1.2
  cases rate : info.maxOpeningRateMS with
  | finite value =>
      rw [rate] at lower
      exact of_decide_eq_true lower
  | infinity | nan => exact le_refl 0

theorem armProblems_eq_nil (clear : armProblems numbers text low high torque arm = []) :
    Cleared numbers low high torque arm := by
  unfold armProblems at clear
  simp only [List.append_eq_nil_iff] at clear
  obtain ⟨⟨⟨⟨-, topic⟩, -⟩, state⟩, rate⟩ := clear
  obtain ⟨isLow, isHigh⟩ := sourceProblems_eq_nil topic
  refine ⟨isLow, isHigh, ?_, ?_⟩
  · split at state
    · rename_i passed
      exact opens_opening passed
    · cases state
  · split at rate
    · cases rate
    · rename_i moving
      exact (rate_nonneg (checkTarget_eq_ok.mp isLow).valid).lt_of_ne' moving

theorem sinePreflight_ok (passed : sinePreflight numbers text arms low high period duration torque = .ok ()) :
    low < high ∧ ∀ arm ∈ arms, Cleared numbers low high torque arm := by
  simp only [sinePreflight, unless_ok, ne_eq, not_not, not_le] at passed
  obtain ⟨-, -, -, ordered, clear, -⟩ := passed
  exact ⟨ordered, fun arm member => armProblems_eq_nil (List.flatMap_eq_nil_iff.mp clear arm member)⟩

theorem targetPreflight_ok {q dq : ℚ} {returnToStart : Bool}
    (passed : targetPreflight numbers arm q dq torque duration returnToStart = .ok ()) :
    checkTarget numbers arm.info (.finite q) dq torque = .ok () ∧
      (returnToStart = true → checkTarget numbers arm.info arm.initial.opening dq torque = .ok ()) := by
  obtain ⟨_, target, passed⟩ := bind_eq_ok.mp passed
  obtain ⟨_, -, passed⟩ := bind_eq_ok.mp passed
  obtain ⟨_, -, passed⟩ := bind_eq_ok.mp passed
  obtain ⟨_, -, passed⟩ := bind_eq_ok.mp passed
  refine ⟨target, fun returns => ?_⟩
  rw [if_pos returns] at passed
  exact passed

theorem preflight_target {q dq : ℚ} {returnToStart : Bool}
    (passed : (GripperMotion.target q dq torque duration returnToStart).preflight numbers text arms = .ok ())
    (member : arm ∈ arms) : targetPreflight numbers arm q dq torque duration returnToStart = .ok () := by
  cases arms with
  | nil => cases member
  | cons head rest =>
      cases rest with
      | cons other rest => cases passed
      | nil =>
          obtain rfl := List.mem_singleton.mp member
          exact (unless_ok.mp passed).2

end Preflights

/-- The host cap of a command. -/
def GripperMotion.dq : GripperMotion → ℚ
  | .target _ dq _ _ _ => dq
  | .sine _ _ _ _ _ _ => 0

def GripperMotion.torque : GripperMotion → Option ℚ
  | .target _ _ torque _ _ | .sine _ _ _ _ torque _ => torque

/-- A target that a motion streams to a gripper: the target of a leg of `run`, or of the entry, the sine or the
return of `run_sine`. -/
inductive Streams (numbers : GripperNumbers) (arms : List GripperArm) : GripperMotion → GripperArm → ℚ → Prop where
  | target {arm : GripperArm} {q dq duration : ℚ} {torque : Option ℚ} {returnToStart : Bool} (member : arm ∈ arms) :
      Streams numbers arms (.target q dq torque duration returnToStart) arm q
  | back {arm : GripperArm} {q dq duration : ℚ} {torque : Option ℚ} (member : arm ∈ arms) :
      Streams numbers arms (.target q dq torque duration true) arm (numberOf arm.initial.opening)
  | entry {arm : GripperArm} {low high period duration seconds elapsed : ℚ} {torque : Option ℚ} {wave : Wave}
      {report : GripperReport} {found : GripperFeedback} (member : arm ∈ arms)
      (valid : validateState numbers arm.info (some report.toGripperFeedback) false = .ok found)
      (forward : 0 ≤ elapsed) : Streams numbers arms (.sine low high period duration torque wave) arm
        (transitionPosition (numberOf report.opening) ((low + high) / 2) seconds elapsed)
  | sine {arm : GripperArm} {low high period duration elapsed : ℚ} {torque : Option ℚ} {wave : Wave}
      (member : arm ∈ arms) : Streams numbers arms (.sine low high period duration torque wave) arm
        (sineOpening wave low high period elapsed)
  | leave {arm : GripperArm} {low high period duration start seconds elapsed : ℚ} {torque : Option ℚ} {wave : Wave}
      {report : GripperReport} (member : arm ∈ arms) (started : openingStart numbers arm.info report = .ok start)
      (forward : 0 ≤ elapsed) : Streams numbers arms (.sine low high period duration torque wave) arm
        (transitionPosition start (numberOf arm.initial.opening) seconds elapsed)

section Results

variable {numbers : GripperNumbers} {text : FloatValue → String} {arms : List GripperArm} {motion : GripperMotion}
  {low high period duration : ℚ} {torque : Option ℚ}

/-- A target between the bounds of the sine is accepted. -/
theorem Cleared.between {arm : GripperArm} (cleared : Cleared numbers low high torque arm) {q : ℚ} (lower : low ≤ q)
    (upper : q ≤ high) : checkTarget numbers arm.info (.finite q) 0 torque = .ok () := by
  have isLow := opens_of_checkTarget cleared.low
  have isHigh := opens_of_checkTarget cleared.high
  have opens : Opens arm.info q :=
    isLow.between isHigh ((min_le_left _ _).trans lower) (upper.trans (le_max_right _ _))
  exact opens.checkTarget cleared.low

/-- The middle of the sine is within the limits. -/
theorem Cleared.middle {arm : GripperArm} (cleared : Cleared numbers low high torque arm) (ordered : low < high) :
    Opens arm.info ((low + high) / 2) := by
  have lower : low ≤ (low + high) / 2 := by linarith
  have upper : (low + high) / 2 ≤ high := by linarith
  exact opens_of_checkTarget (cleared.between lower upper)

/-- A target of a transition within the limits is accepted. -/
theorem Cleared.transition {arm : GripperArm} (cleared : Cleared numbers low high torque arm) {start finish : ℚ}
    (starts : Opens arm.info start) (finishes : Opens arm.info finish) (seconds : ℚ) {elapsed : ℚ}
    (forward : 0 ≤ elapsed) :
    checkTarget numbers arm.info (.finite (transitionPosition start finish seconds elapsed)) 0 torque = .ok () := by
  obtain ⟨lower, upper⟩ := transitionPosition_mem start finish seconds forward
  exact (starts.between finishes lower upper).checkTarget cleared.low

/-- Once the checks before the entry have passed, `validate_target` refuses no target that the example streams. -/
theorem gripper_targets_admitted (passed : motion.preflight numbers text arms = .ok ()) {arm : GripperArm} {q : ℚ}
    (streams : Streams numbers arms motion arm q) :
    checkTarget numbers arm.info (.finite q) motion.dq motion.torque = .ok () := by
  cases streams with
  | target member => exact (targetPreflight_ok (preflight_target passed member)).1
  | back member =>
      have returns := (targetPreflight_ok (preflight_target passed member)).2 rfl
      cases isOpening : arm.initial.opening with
      | finite opening =>
          rw [isOpening] at returns
          exact returns
      | infinity | nan =>
          rw [isOpening] at returns
          cases (checkTarget_eq_ok.mp returns).finiteQ
  | entry member valid forward =>
      obtain ⟨ordered, cleared⟩ := sinePreflight_ok passed
      exact (cleared arm member).transition (opens_opening valid) ((cleared arm member).middle ordered) _ forward
  | sine member =>
      obtain ⟨ordered, cleared⟩ := sinePreflight_ok passed
      obtain ⟨lower, upper⟩ := sineOpening_mem _ ordered _ _
      exact (cleared arm member).between lower upper
  | leave member started forward =>
      obtain ⟨-, cleared⟩ := sinePreflight_ok passed
      exact (cleared arm member).transition (opens_start started) (cleared arm member).measured _ forward

/-- The Info of a gripper that opens a decimetre. -/
def decimetre : GripperInfo :=
  ⟨1, 1, .finite 0, .finite 0.1, .finite 0.05, .finite 1, 1, 1, 1, .finite 2, 1, 1⟩

/-- An arm that is two centimetres open. -/
def openArm (label : String) : GripperArm where
  label := label
  info := decimetre
  initial := ⟨⟨1, 1, 1, 0, true, some (.finite 0.02), true, 0, 0, 0, 0, 0⟩, false, none⟩
  aggregate := [decimetre]

/-- A wave with its zero and its crest. -/
def crest : Wave where
  sin turns := if turns = 1 / 4 then 1 else 0
  bounded turns := by split <;> norm_num

/-- Both arms accept the crest of the sine. -/
theorem gripper_targets_admitted_crest : sineOpening crest 0.01 0.08 10 2.5 = 0.08 ∧
    checkTarget ⟨1, 1, 2, 3⟩ decimetre (.finite (sineOpening crest 0.01 0.08 10 2.5)) 0 none = .ok () := by
  have passed : (GripperMotion.sine 0.01 0.08 10 30 none crest).preflight ⟨1, 1, 2, 3⟩ (fun _ => "")
      [openArm "left", openArm "right"] = .ok () := by decide +kernel
  have streams : Streams ⟨1, 1, 2, 3⟩ [openArm "left", openArm "right"] (.sine 0.01 0.08 10 30 none crest)
      (openArm "left") (sineOpening crest 0.01 0.08 10 2.5) := .sine List.mem_cons_self
  exact ⟨by decide +kernel, gripper_targets_admitted passed streams⟩

/-- Once the checks of the dual sine have passed, each transition has a duration, and it moves no gripper faster
than its configured rate. -/
theorem sine_transitions_slow (passed : sinePreflight numbers text arms low high period duration torque = .ok ())
    (starts finishes : List ℚ) :
    ∃ seconds, transitionSeconds arms starts finishes = .ok seconds ∧
      ∀ entry ∈ (starts.zip finishes).zip arms, ∀ early late, early ≤ late →
        |transitionPosition entry.1.1 entry.1.2 seconds late - transitionPosition entry.1.1 entry.1.2 seconds early| ≤
          numberOf entry.2.info.maxOpeningRateMS * (late - early) := by
  obtain ⟨-, cleared⟩ := sinePreflight_ok passed
  obtain ⟨seconds, isSeconds, long, enough⟩ :=
    transitionSeconds_ok starts finishes fun arm member => (cleared arm member).rate
  refine ⟨seconds, isSeconds, fun entry member early late forward => ?_⟩
  have rate := (cleared entry.2 (List.of_mem_zip member).2).rate
  exact transitionPosition_near entry.1.1 entry.1.2 long (enough entry member) rate.le forward

/-- Both arms move at their rate to the middle of the sine. -/
theorem sine_transitions_slow_entry : ∃ seconds,
    transitionSeconds [openArm "left", openArm "right"] [0.02, 0.02] [0.045, 0.045] = .ok seconds ∧
      |transitionPosition 0.02 0.045 seconds 0.5 - transitionPosition 0.02 0.045 seconds 0| ≤ 0.05 * (0.5 - 0) := by
  have passed : sinePreflight ⟨1, 1, 2, 3⟩ (fun _ => "") [openArm "left", openArm "right"] 0.01 0.08 10 30 none =
      .ok () := by decide +kernel
  obtain ⟨seconds, isSeconds, slow⟩ := sine_transitions_slow passed [0.02, 0.02] [0.045, 0.045]
  exact ⟨seconds, isSeconds, slow ((0.02, 0.045), openArm "left") List.mem_cons_self 0 0.5 (by norm_num)⟩

end Results

end HumanoidSdk.Demo
