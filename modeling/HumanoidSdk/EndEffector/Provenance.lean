import HumanoidSdk.EndEffector.Memory

/-
This file follows the two reads of Info behind a gripper command: publish_target validates the first
one and reserve_envelope takes gripper_type from the second one.
-/

namespace HumanoidSdk.EndEffector
open Foundation

/-- A list with two counted values is cut at them. -/
theorem filterMap_pair {Item Value : Type} {count : Item → Option Value} {items : List Item} {one two : Value}
    (pair : items.filterMap count = [one, two]) :
    ∃ first left between right last, items = first ++ left :: between ++ right :: last ∧
      count left = some one ∧ count right = some two ∧ (∀ item ∈ first, count item = none) ∧
      (∀ item ∈ between, count item = none) ∧ ∀ item ∈ last, count item = none := by
  obtain ⟨first, left, rest, rfl, early, isOne, single⟩ := List.filterMap_eq_cons_iff.mp pair
  obtain ⟨between, right, last, rfl, middle, isTwo, empty⟩ := List.filterMap_eq_cons_iff.mp single
  exact ⟨first, left, between, right, last, by simp, isOne, isTwo, early, middle,
    List.filterMap_eq_nil_iff.mp empty⟩

namespace GripperClient

variable {config : GripperConfig}

/-- The Info that one publish reads at an event. -/
def infoReadBy (ticket : ℕ) : Event (gripperClient config) → Option (Option GripperInfo)
  | .read reader .info entry => if reader = ticket then some entry else none
  | _ => none

theorem infoReadBy_readBy (ticket : ℕ) (event : Event (gripperClient config)) :
    (event.readBy ticket).bind infoOf = infoReadBy ticket event := by
  cases event with
  | read reader kind entry =>
      by_cases same : reader = ticket
      · subst same
        have own : (Event.read reader kind entry : Event (gripperClient config)).readBy reader =
          some ⟨kind, entry⟩ := if_pos rfl
        rw [own]
        cases kind with
        | info => exact (if_pos rfl).symm
        | state | touch => rfl
      · have other : (Event.read reader kind entry : Event (gripperClient config)).readBy ticket = none :=
          if_neg same
        rw [other]
        cases kind with
        | info => exact (if_neg same).symm
        | state | touch => rfl
  | stored | rejected | failed | returned | raised | consumed | handed | refused => rfl

theorem infosOf_readsOf (ticket : ℕ) (log : List (Event (gripperClient config))) :
    infosOf (readsOf ticket log) = log.filterMap (infoReadBy ticket) := by
  calc infosOf (readsOf ticket log)
    _ = log.filterMap fun event => (event.readBy ticket).bind infoOf := List.filterMap_filterMap
    _ = log.filterMap (infoReadBy ticket) :=
        congrArg (log.filterMap ·) (funext (infoReadBy_readBy ticket))

theorem infoReadBy_iff {ticket : ℕ} {event : Event (gripperClient config)} {entry : Option GripperInfo} :
    infoReadBy ticket event = some entry ↔ event = .read ticket .info entry := by
  constructor
  · intro reads
    cases event with
    | read reader kind found =>
        cases kind with
        | info =>
            obtain ⟨rfl, same⟩ := Option.ite_none_right_eq_some.mp reads
            cases same
            rfl
        | state | touch => cases reads
    | stored | rejected | failed | returned | raised | consumed | handed | refused => cases reads
  · rintro rfl
    exact if_pos rfl

/-- The limits of a decoded Info are doubles. -/
theorem decoded_doubles {view : config.View} {info : GripperInfo} (decodes : decode config .info view = .ok info) :
    info.Doubles := by
  simp only [decode, bind_ok] at decodes
  obtain ⟨value, isValue, ⟨⟩, -, same⟩ := decodes
  cases same
  exact config.codec.doubles view _ isValue

/-- A handed over command satisfies `validate_target` for an Info. -/
def CommandFits (numbers : GripperNumbers) (info : GripperInfo) (command : GripperCmd) : Prop :=
  validateTarget numbers (some info) (.float command.q) (.float command.dq) (torqueOf command.torqueCmdNm) = .ok ()

/-- The doubles of the target of a call satisfy `validate_target` for an Info. -/
def TargetFits (numbers : GripperNumbers) (info : GripperInfo) (args : GripperArgs) : Prop :=
  validateTarget numbers (some info) (floatOf args.q) (floatOf args.dq) (floatOf args.torqueCmdNm) = .ok ()

/-- The two reads of Info by the publish behind a command. -/
structure TwoReads (ticket : ℕ) (before first between last : List (Event (gripperClient config)))
    (validated used : GripperInfo) : Prop where
  cut : before = first ++ .read ticket .info (some validated) :: between ++ .read ticket .info (some used) :: last
  early : ∀ entry, .read ticket .info entry ∉ first
  middle : ∀ entry, .read ticket .info entry ∉ between
  late : ∀ entry, .read ticket .info entry ∉ last

variable {Thread : Type*} [DecidableEq Thread] {moves : List (ClientMove (gripperClient config) Thread)}
  {final : ClientPool (gripperClient config) Thread} {before after : List (Event (gripperClient config))}
  {ticket : ℕ} {args : GripperArgs} {command : GripperCmd} {raises : Bool}

/-- Two reads of a publish are found in the log before its command. -/
theorem twoReads_of_infos {validated used : GripperInfo} {log : List (Event (gripperClient config))}
    (infos : infosOf (readsOf ticket log) = [some validated, some used]) :
    ∃ first between last, TwoReads ticket log first between last validated used := by
  rw [infosOf_readsOf] at infos
  obtain ⟨first, left, between, right, last, cut, isFirst, isSecond, early, middle, late⟩ := filterMap_pair infos
  rw [infoReadBy_iff] at isFirst isSecond
  subst isFirst isSecond
  have absent {part : List (Event (gripperClient config))} (none : ∀ event ∈ part, infoReadBy ticket event = none)
      (entry : Option GripperInfo) : .read ticket .info entry ∉ part := by
    intro member
    have reads := infoReadBy_iff.mpr (rfl : (.read ticket .info entry : Event (gripperClient config)) = _)
    rw [none _ member] at reads
    cases reads
  exact ⟨first, between, last, cut, absent early, absent middle, absent late⟩

section Reads

variable {first between last : List (Event (gripperClient config))} {validated used : GripperInfo}

theorem TwoReads.validated_last (reads : TwoReads ticket before first between last validated used)
    (justified : Justified ReadsLast before) : (stores .info first).getLast? = some validated := by
  have cut := reads.cut
  rw [List.append_assoc, List.cons_append] at cut
  exact (justified first (.read ticket .info (some validated)) _ cut).symm

/-- The second read yields the last Info stored since the first one, or the same Info again. -/
theorem TwoReads.used_eq (reads : TwoReads ticket before first between last validated used)
    (justified : Justified ReadsLast before) : used = ((stores .info between).getLast?).getD validated := by
  have isSecond : some used = (stores .info (first ++ .read ticket .info (some validated) :: between)).getLast? :=
    justified _ (.read ticket .info (some used)) last reads.cut
  have skipped : stores .info (.read ticket .info (some validated) :: between) = stores .info between := rfl
  rw [stores_append, skipped, List.getLast?_append, reads.validated_last justified] at isSecond
  cases arrived : (stores .info between).getLast? with
  | none | some =>
      rw [arrived] at isSecond
      exact Option.some.inj isSecond

end Reads

/-- A command takes its type from the second Info that its call reads, and it satisfies
`validate_target` for that Info exactly when the last Info stored between the two reads, if there is
one, accepts the target of the call. -/
theorem command_info_iff (run : ((clientProgram (gripperClient config)).machine Thread).Run
      (freshClient _ Thread) moves final)
    (cut : trace moves = before ++ .handed ticket args command raises :: after) :
    ∃ first between last validated used, TwoReads ticket before first between last validated used ∧
      command.gripperType = used.gripperType ∧
      (CommandFits config.numbers used command ↔
        ∀ arrived ∈ (stores .info between).getLast?, TargetFits config.numbers arrived args) := by
  obtain ⟨pending, counted, -⟩ := counted_run (establishes config) run
  obtain ⟨-, scratch, sequence, commandId, published, rfl⟩ := counted.correct before _ after cut
  obtain ⟨⟨-, validated, used, infos, accepted, envelope⟩, q, dq, torque⟩ := published
  obtain ⟨first, between, last, reads⟩ := twoReads_of_infos infos
  have justified : Justified ReadsLast before := by
    intro earlier event rest same
    rw [same, List.append_assoc] at cut
    exact (remembered_run run).2 earlier event _ cut
  have isUsed := reads.used_eq justified
  have fits : CommandFits config.numbers used ((gripperClient config).command scratch sequence commandId) ↔
      TargetFits config.numbers used args := by
    rw [TargetFits, ← q, ← dq, ← torque]
    rfl
  refine ⟨first, between, last, validated, used, reads, ?_, fits.trans ?_⟩
  · have typed : ((scratch.envelopeInfo.getD none).elim 0 GripperInfo.gripperType) = used.gripperType := by
      rw [envelope]
      rfl
    exact typed
  · cases arrived : (stores .info between).getLast? with
    | some info =>
        have same : used = info := by rwa [arrived] at isUsed
        subst same
        constructor
        · intro fit found isFound
          obtain rfl := Option.some.inj isFound
          exact fit
        · exact fun all => all used rfl
    | none =>
        have same : used = validated := by rwa [arrived] at isUsed
        have member : .stored .info validated ∈ trace moves := by
          have early := mem_stores (List.mem_of_getLast? (reads.validated_last justified))
          rw [cut, reads.cut]
          simp [early]
        obtain ⟨view, decodes⟩ := (decoded_run run).1 .info validated member
        refine iff_of_true ?_ (by simp)
        rw [same]
        exact validateTarget_iff.mpr (accepted.floats (decoded_doubles decodes))

/-- An Info arrives while nobody reads. -/
def deliverInfo (view : SampleView) : List (PoolInput Bool (Request (gripperClient sampleGripper))
    (Choice (gripperClient sampleGripper)) (Signal (gripperClient sampleGripper))) :=
  .call false (.deliver .info view) :: steps false [.go, .go]

def still : GripperArgs := { q := .float (.finite 0) }

/-- A publish during which an Info may arrive before its envelope reads one. -/
def publishAround (arrivals : List (PoolInput Bool (Request (gripperClient sampleGripper))
    (Choice (gripperClient sampleGripper)) (Signal (gripperClient sampleGripper)))) :
    List (PoolInput Bool (Request (gripperClient sampleGripper)) (Choice (gripperClient sampleGripper))
      (Signal (gripperClient sampleGripper))) :=
  deliverInfo .shut ++ .call true (.user (.publish still)) :: steps true (List.replicate 11 .go) ++ arrivals ++
    steps true (List.replicate 5 .go ++ [.clock 1000, .go, .clock 2000, .go, .go, .go, .go])

/-- A command for the resting target. -/
def isResting : Event (gripperClient sampleGripper) → Bool
  | .handed _ args .. => args.q = still.q ∧ args.dq = still.dq ∧ args.torqueCmdNm = still.torqueCmdNm
  | _ => false

def isAgx (info : GripperInfo) : Bool := info = sampleInfo 1 0 ∨ info = sampleInfo 1 1

/-- Only the two AGX samples are stored. -/
def storesAgx : Event (gripperClient sampleGripper) → Bool
  | .stored .info info => isAgx info
  | _ => true

/-- The Info that an event reads. -/
def infoRead : Event (gripperClient sampleGripper) → Option (Option GripperInfo)
  | .read _ .info entry => some entry
  | _ => none

/-- A log with two reads of Info holds them at the two places. -/
theorem twoReads_known {before first between last after : List (Event (gripperClient sampleGripper))} {ticket : ℕ}
    {validated used earlier later : GripperInfo} (reads : TwoReads ticket before first between last validated used)
    (known : (before ++ after).filterMap infoRead = [some earlier, some later]) :
    validated = earlier ∧ used = later := by
  have shape : first.filterMap infoRead ++ some validated :: (between.filterMap infoRead ++
      some used :: (last ++ after).filterMap infoRead) = [some earlier, some later] := by
    rw [reads.cut, List.append_assoc, List.append_assoc, List.filterMap_append, List.cons_append] at known
    change _ ++ some validated :: List.filterMap infoRead (between ++ .read ticket .info (some used) :: (last ++ after)) =
      _ at known
    rwa [List.filterMap_append] at known
  cases start : first.filterMap infoRead with
  | nil =>
      rw [start, List.nil_append, List.cons.injEq] at shape
      cases inside : between.filterMap infoRead with
      | nil =>
          rw [inside, List.nil_append, List.cons.injEq] at shape
          exact ⟨Option.some.inj shape.1, Option.some.inj shape.2.1⟩
      | cons entry rest =>
          have length := congrArg List.length shape.2
          simp [inside] at length
  | cons entry rest =>
      have length := congrArg List.length shape
      simp only [start, List.length_append, List.length_cons, List.length_nil] at length
      omega

theorem resting_fits {args : GripperArgs} (q : args.q = still.q) (dq : args.dq = still.dq)
    (torque : args.torqueCmdNm = still.torqueCmdNm) {info : GripperInfo} (agx : isAgx info = true) :
    TargetFits sampleGripper.numbers info args := by
  rw [TargetFits, q, dq, torque]
  rcases of_decide_eq_true agx with rfl | rfl <;> rfl

/-- A command whose type is no AGX gripper. -/
def isForeign : Event (gripperClient sampleGripper) → Bool
  | .handed _ _ command _ => command.gripperType = 9
  | _ => false

/-- A wider AGX Info arrives between the two reads, and the command fits it. -/
theorem command_info_iff_wider :
    ∃ (moves : List (ClientMove (gripperClient sampleGripper) Bool)) (final : ClientPool (gripperClient sampleGripper) Bool)
      (ticket : ℕ) (args : GripperArgs) (command : GripperCmd) (raises : Bool)
      (before first between last after : List (Event (gripperClient sampleGripper))),
      ((clientProgram (gripperClient sampleGripper)).machine Bool).Run (freshClient _ Bool) moves final ∧
        trace moves = before ++ .handed ticket args command raises :: after ∧
        TwoReads ticket before first between last (sampleInfo 1 0) (sampleInfo 1 1) ∧
        command.gripperType = 1 ∧ CommandFits sampleGripper.numbers (sampleInfo 1 1) command := by
  obtain ⟨moves, final, run, -, handed, only, known⟩ :=
    ((clientProgram (gripperClient sampleGripper)).machine Bool).exists_run (freshClient _ Bool)
      (publishAround (deliverInfo .wide))
      (fun moves _ => (trace moves).any isResting = true ∧ (trace moves).all storesAgx = true ∧
        (trace moves).filterMap infoRead = [some (sampleInfo 1 0), some (sampleInfo 1 1)]) (by decide +kernel)
  obtain ⟨event, member, resting⟩ := List.any_eq_true.mp handed
  cases event with
  | handed ticket args command raises =>
      obtain ⟨q, dq, torque⟩ := of_decide_eq_true resting
      obtain ⟨before, after, cut⟩ := List.append_of_mem member
      obtain ⟨first, between, last, validated, used, reads, typed, fits⟩ := command_info_iff run cut
      rw [cut] at known
      obtain ⟨rfl, rfl⟩ := twoReads_known reads known
      refine ⟨moves, final, ticket, args, command, raises, before, first, between, last, after, run, cut, reads,
        typed, fits.mpr fun arrived isLast => resting_fits q dq torque ?_⟩
      have inside : .stored .info arrived ∈ trace moves := by
        have between := mem_stores (List.mem_of_getLast? isLast)
        rw [cut, reads.cut]
        simp [between]
      exact List.all_eq_true.mp only _ inside
  | stored | rejected | failed | returned | raised | read | consumed | refused => cases resting

/-- Another Info between the two reads puts a type into the command that no valid Info has. -/
theorem command_info_mixed :
    ∃ (moves : List (ClientMove (gripperClient sampleGripper) Bool)) (final : ClientPool (gripperClient sampleGripper) Bool)
      (ticket : ℕ) (args : GripperArgs) (command : GripperCmd) (raises : Bool),
      ((clientProgram (gripperClient sampleGripper)).machine Bool).Run (freshClient _ Bool) moves final ∧
        .handed ticket args command raises ∈ trace moves ∧
        ∀ info : GripperInfo, command.gripperType = info.gripperType →
          ¬CommandFits sampleGripper.numbers info command := by
  obtain ⟨moves, final, run, -, foreign⟩ :=
    ((clientProgram (gripperClient sampleGripper)).machine Bool).exists_run (freshClient _ Bool)
      (publishAround (deliverInfo .foreign)) (fun moves _ => (trace moves).any isForeign = true) (by decide +kernel)
  obtain ⟨event, member, isForeign⟩ := List.any_eq_true.mp foreign
  cases event with
  | handed ticket args command raises =>
      refine ⟨moves, final, ticket, args, command, raises, run, member, fun info same fits => ?_⟩
      have agx := (validateTarget_iff.mp fits).gripperType
      have nine : command.gripperType = 9 := of_decide_eq_true isForeign
      rw [← same, nine] at agx
      cases agx
  | stored | rejected | failed | returned | raised | read | consumed | refused => cases isForeign

end GripperClient

end HumanoidSdk.EndEffector
