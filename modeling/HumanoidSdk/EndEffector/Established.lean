import HumanoidSdk.EndEffector.Publication
import HumanoidSdk.EndEffector.Target

/-
This file goes through the statements of both publishes: neither raises after it has stored its
sequence, and a gripper command comes from two reads of Info, the first of which was validated.
-/

namespace HumanoidSdk.EndEffector
open Foundation

/-- A client that hands its command over right after storing the sequence raises nowhere between. -/
theorem establishes_at_once {client : Client} (atOnce : client.late = []) :
    client.Establishes fun _ _ _ => True := by
  intro args
  refine needs_always (fun done => needs_always (fun scratch => ?_) _ _) _ _
  rw [LateFor, atOnce]
  trivial

theorem hand_establishes (config : HandConfig) : (handClient config).Establishes fun _ _ _ => True :=
  establishes_at_once rfl

namespace GripperClient

/-- The entry of a read of Info. -/
def infoOf : (kind : Kind) × Option (GripperMessage kind) → Option (Option GripperInfo)
  | ⟨.info, entry⟩ => some entry
  | ⟨.state, _⟩ | ⟨.touch, _⟩ => none

abbrev Reads : Type := List ((kind : Kind) × Option (GripperMessage kind))

def infosOf (reads : Reads) : List (Option GripperInfo) := reads.filterMap infoOf

theorem infosOf_append (first second : Reads) : infosOf (first ++ second) = infosOf first ++ infosOf second :=
  List.filterMap_append

variable (config : GripperConfig)

/-- What holds when `publish_target` calls `reserve_envelope`. -/
def Targeted (args : GripperArgs) (done : Reads × GripperScratch) : Prop :=
  done.2.args = args ∧ ∃ validated, infosOf done.1 = [some validated] ∧
    Accepted config.numbers validated args.q args.dq args.torqueCmdNm

/-- What holds when the next sequence is taken. The envelope has an Info of its own. -/
def Enveloped (args : GripperArgs) (reads : Reads) (scratch : GripperScratch) : Prop :=
  scratch.args = args ∧ ∃ validated used, infosOf reads = [some validated, some used] ∧
    Accepted config.numbers validated args.q args.dq args.torqueCmdNm ∧ scratch.envelopeInfo = some (some used)

/-- What holds when a command is handed over. -/
def Published (args : GripperArgs) (reads : Reads) (scratch : GripperScratch) : Prop :=
  Enveloped config args reads scratch ∧ .float scratch.q = floatOf args.q ∧ .float scratch.dq = floatOf args.dq ∧
    torqueOf scratch.torqueCmdNm = floatOf args.torqueCmdNm

variable {config}

theorem checkReadOnly_ok {message : String} {before after : GripperScratch}
    (passed : checkReadOnly config message before = .ok after) : after = before := by
  rw [checkReadOnly] at passed
  split at passed
  · cases passed
  · exact (Except.ok.inj passed).symm

theorem checkTarget_ok {before after : GripperScratch} (passed : checkTarget config before = .ok after) :
    after = before ∧ ∃ validated, before.info.getD none = some validated ∧
      Accepted config.numbers validated before.args.q before.args.dq before.args.torqueCmdNm := by
  simp only [checkTarget, ↓bind_ok] at passed
  obtain ⟨⟨⟩, valid, same⟩ := passed
  obtain ⟨validated, isSome⟩ := validateTarget_some valid
  rw [isSome, validateTarget_iff] at valid
  exact ⟨(Except.ok.inj same).symm, validated, isSome, valid⟩

theorem checkState_ok {before after : GripperScratch} (passed : checkState config before = .ok after) :
    after = before := by
  rw [checkState] at passed
  split at passed
  · exact (Except.ok.inj passed).symm
  · cases passed

theorem checkCmdId_ok {before after : GripperScratch} (passed : checkCmdId before = .ok after) : after = before := by
  rw [checkCmdId] at passed
  split at passed
  · exact (Except.ok.inj passed).symm
  · split at passed
    · exact (Except.ok.inj passed).symm
    · cases passed
  · cases passed

theorem checkEnvelopeInfo_ok {before after : GripperScratch} (passed : checkEnvelopeInfo before = .ok after) :
    after = { before with envelopeState := before.state } ∧ ∃ used, before.envelopeInfo.getD none = some used := by
  rw [checkEnvelopeInfo] at passed
  split at passed
  · cases passed
  · rename_i present
    exact ⟨(Except.ok.inj passed).symm, Option.ne_none_iff_exists'.mp (by simpa using present)⟩

theorem checkEnvelopeState_ok {before after : GripperScratch}
    (passed : checkEnvelopeState config before = .ok after) : after = before := by
  rw [checkEnvelopeState] at passed
  split at passed
  · exact (Except.ok.inj passed).symm
  · simp only [↓check_ok, ↓bind_ok] at passed
    obtain ⟨-, -, -, -, -, same⟩ := passed
    exact (Except.ok.inj same).symm

/-- `publish_target` validates the only Info that it reads itself. -/
theorem target_statements (args : GripperArgs) :
    needs Statement.Next (Targeted config args) (targetStatements config) ([], (gripperClient config).start args) := by
  simp only [targetStatements, needs]
  rintro ⟨_, opened⟩ ⟨rfl, rfl⟩ ⟨_, writable⟩ ⟨rfl, writes⟩
  obtain rfl := checkReadOnly_ok writes
  rintro ⟨_, informed⟩ (⟨⟨⟩, -⟩ | ⟨-, info, ⟨⟩⟩) ⟨_, target⟩ ⟨rfl, targets⟩
  obtain ⟨rfl, validated, rfl, accepted⟩ := checkTarget_ok targets
  have targeted (state : GripperScratch) (same : state.args = args) (reads : Reads)
      (stated : infosOf reads = [some validated]) : Targeted config args (reads, state) :=
    ⟨same, validated, stated, accepted⟩
  rintro ⟨reads, stated⟩ read ⟨_, matched⟩ ⟨rfl, matches'⟩ ⟨_, numbered⟩ ⟨rfl, numbers⟩ ⟨_, final⟩ ⟨rfl, rfl⟩
  obtain rfl := checkState_ok matches'
  obtain rfl := checkCmdId_ok numbers
  rcases read with ⟨-, ⟨⟩⟩ | ⟨-, state, ⟨⟩⟩
  · exact targeted _ rfl _ rfl
  · exact targeted _ rfl _ rfl

/-- `reserve_envelope` reads an Info of its own. -/
theorem envelope_statements {args : GripperArgs} {done : Reads × GripperScratch}
    (targeted : Targeted config args done) :
    needs Statement.Next (fun done => Enveloped config args done.1 done.2) (envelopeStatements config) done := by
  obtain ⟨same, validated, isValidated, accepted⟩ := targeted
  have readBoth (used : GripperInfo) (later : Reads) (silent : infosOf later = []) :
      infosOf ((done.1 ++ [⟨.info, some used⟩]) ++ later) = [some validated, some used] := by
    have second : infosOf [⟨.info, some used⟩] = [some used] := rfl
    rw [infosOf_append, infosOf_append, isValidated, second, silent]
    rfl
  simp only [envelopeStatements, needs]
  rintro ⟨_, opened⟩ ⟨rfl, rfl⟩ ⟨_, writable⟩ ⟨rfl, writes⟩
  obtain rfl := checkReadOnly_ok writes
  rintro ⟨_, informed⟩ (⟨⟨⟩, -⟩ | ⟨-, info, ⟨⟩⟩) ⟨_, present⟩ ⟨rfl, presents⟩
  obtain ⟨rfl, used, rfl⟩ := checkEnvelopeInfo_ok presents
  rintro ⟨reads, stated⟩ read ⟨_, matched⟩ ⟨rfl, matches'⟩
  obtain rfl := checkEnvelopeState_ok matches'
  rcases read with ⟨-, ⟨⟩⟩ | ⟨-, state, ⟨⟩⟩
  · refine ⟨same, validated, used, ?_, accepted, rfl⟩
    simpa using readBoth used [] rfl
  · exact ⟨same, validated, used, readBoth used [⟨.state, state⟩] rfl, accepted, rfl⟩

/-- The clock does not touch the arguments, and the fields of the command are those that were
validated. -/
theorem finishing_statements {args : GripperArgs} {reads : Reads} {scratch : GripperScratch}
    (enveloped : Enveloped config args reads scratch) :
    needs Plain.Next (ensures Plain.Next Plain.Certain (Published config args reads) [.check buildFields]) finishing
      scratch := by
  simp only [finishing, needs]
  rintro created ⟨now, rfl⟩ checked isChecked sent ⟨later, rfl⟩ final isFinal
  obtain ⟨⟨⟩, -, same⟩ := bind_ok.mp isChecked
  cases same
  obtain ⟨⟨⟩, -, same⟩ := bind_ok.mp isFinal
  cases same
  obtain ⟨isArgs, validated, used, isReads, accepted, info⟩ := enveloped
  subst isArgs
  refine ⟨buildFields_accepted accepted, fun built builds => ?_⟩
  obtain ⟨sameArgs, sameInfo, q, dq, torque⟩ := buildFields_ok builds
  exact ⟨⟨sameArgs, validated, used, isReads, accepted, sameInfo.trans info⟩, q, dq, torque⟩

theorem establishes (config : GripperConfig) :
    (gripperClient config).Establishes (Published config) := by
  intro args
  exact (needs_append _ _ _).mpr (needs_imp (fun done targeted =>
    needs_imp (fun done enveloped => finishing_statements enveloped) (envelope_statements targeted))
    (target_statements args))

end GripperClient

end HumanoidSdk.EndEffector
