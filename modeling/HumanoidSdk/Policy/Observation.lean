import HumanoidSdk.Policy.Construction
import HumanoidSdk.Policy.ContractLaws

/-
This file shows what the observations of the tracking policy hold after any calls.
-/

namespace HumanoidSdk.Policy
open Arithmetic Foundation WbcTrackingPolicy

variable {S D Timing : Type} [Arithmetic S D]

inductive Call (D Timing : Type) where
  | observe (args : ObserveArgs D)
  | decode (rawAction : NdArray D) (timing : Timing)
  | reset

/-- The effect of a call that does not raise. -/
def perform (policy : WbcTrackingPolicy S D) : Call D Timing → Except Raised (WbcTrackingPolicy S D)
  | .observe args => do
      let _ ← (policy.observe args).1
      return (policy.observe args).2
  | .decode rawAction timing => do
      let _ ← (policy.decode rawAction timing).1
      return (policy.decode rawAction timing).2
  | .reset => .ok policy.reset

def performAll (policy : WbcTrackingPolicy S D) (calls : List (Call D Timing)) :
    Except Raised (WbcTrackingPolicy S D) := calls.foldlM perform policy

/-- A reset forgets the calls before it. -/
def Call.extend (since : List (Call D Timing)) : Call D Timing → List (Call D Timing)
  | .reset => []
  | .observe args => since ++ [.observe args]
  | .decode rawAction timing => since ++ [.decode rawAction timing]

/-- The calls after the last reset. -/
def sinceReset (calls : List (Call D Timing)) : List (Call D Timing) := calls.foldl Call.extend []

/-- The clipped action of a decode call. -/
def Call.action (contract : Contract D) : Call D Timing → Option (Vector S 28)
  | .decode rawAction _ => (clipped contract rawAction).toOption
  | .observe _ => none
  | .reset => none

/-- The clipped action of the latest decode, or zeros. -/
def latest (contract : Contract D) (calls : List (Call D Timing)) : Vector S 28 :=
  (calls.filterMap (Call.action contract)).getLast?.getD (zeros D)

/-- An observe call together with the calls before it. -/
def Call.observation (before : List (Call D Timing)) :
    Call D Timing → Option (List (Call D Timing) × ObserveArgs D)
  | .observe args => some (before, args)
  | .decode _ _ => none
  | .reset => none

/-- The observe calls with the calls before each. -/
def observed (since : List (Call D Timing)) : List (List (Call D Timing) × ObserveArgs D) :=
  since.zipIdx.filterMap fun entry => entry.1.observation (since.take entry.2)

/-- The five terms that an observe call computes after the given calls. -/
def termsOf (contract : Contract D) (call : List (Call D Timing) × ObserveArgs D) :
    Except Raised (Values S) := do
  values contract (latest contract call.1) (← check call.2)

@[simp] theorem sinceReset_snoc (calls : List (Call D Timing)) (call : Call D Timing) :
    sinceReset (calls ++ [call]) = call.extend (sinceReset calls) := by
  rw [sinceReset, List.foldl_append]
  rfl

theorem latest_snoc (contract : Contract D) (calls : List (Call D Timing)) (call : Call D Timing) :
    (latest contract (calls ++ [call]) : Vector S 28) =
      (call.action contract).getD (latest contract calls) := by
  rw [latest, List.filterMap_append, latest]
  cases known : (call.action contract : Option (Vector S 28)) with
  | none => simp [known]
  | some action => simp [known]

theorem observed_snoc (since : List (Call D Timing)) (call : Call D Timing) :
    observed (since ++ [call]) = observed since ++ (call.observation since).toList := by
  rw [observed, List.zipIdx_append, List.filterMap_append]
  congr 1
  · refine List.filterMap_congr fun entry member => ?_
    have inside := List.snd_lt_of_mem_zipIdx member
    rw [List.take_append_of_le_length (by omega)]
  · cases call with
    | observe args => simp [Call.observation]
    | decode rawAction timing => rfl
    | reset => rfl

section Memory

variable (memory : List (Vector S 28)) {address : ℕ}

theorem arrayAt_append (added : Vector S 28) (old : address < memory.length) :
    arrayAt D (memory ++ [added]) address = arrayAt D memory address := by
  rw [arrayAt, arrayAt, List.getD_eq_getElem?_getD, List.getD_eq_getElem?_getD,
    List.getElem?_append_left old]

theorem arrayAt_new (added : Vector S 28) : arrayAt D (memory ++ [added]) memory.length = added := by
  rw [arrayAt, List.getD_eq_getElem?_getD, List.getElem?_append_right (Nat.le_refl _), Nat.sub_self]
  rfl

theorem arrayAt_written (written : Vector S 28) (old : address < memory.length) :
    arrayAt D (memory.set address written) address = written := by
  rw [arrayAt, List.getD_eq_getElem?_getD, List.getElem?_set_self old]
  rfl

end Memory

/-- Which actions and which frames the policy holds after some calls. -/
structure Tracks (contract : Contract D) (calls : List (Call D Timing)) (policy : WbcTrackingPolicy S D) :
    Prop where
  owner : policy.contract = contract
  address : policy.lastAction < policy.memory.length
  action : arrayAt D policy.memory policy.lastAction = latest contract (sinceReset calls)
  apart : ∀ terms ∈ policy.history, terms.actions < policy.memory.length ∧ terms.actions ≠ policy.lastAction
  frames : ∃ stream, Window contract.historyLength stream (policy.history.map (valuesOf D policy.memory)) ∧
    List.Forall₂ (fun call values => termsOf contract call = .ok values) (observed (sinceReset calls)) stream

variable {contract : Contract D} {calls : List (Call D Timing)} {policy : WbcTrackingPolicy S D}

/-- A fresh policy has no frames and no action. -/
theorem tracks_new {profile : Profile D} (made : WbcTrackingPolicy.new contract profile = .ok policy) :
    Tracks contract ([] : List (Call D Timing)) policy := by
  have built := (new_yields contract profile).value made
  refine ⟨built.owner, ?_, ?_, ?_, [], ?_, List.Forall₂.nil⟩
  · rw [built.lastAction, built.memory]
    exact Nat.one_pos
  · rw [built.lastAction, built.memory]
    rfl
  · simp [built.history]
  · rw [built.history]
    exact Window.nil _

/-- A reset clears the action, which no remembered frame reads. -/
theorem tracks_reset (held : Tracks contract calls policy) :
    Tracks contract (calls ++ [.reset]) policy.reset := by
  refine ⟨held.owner, ?_, ?_, by simp [reset], [], ?_, ?_⟩
  · rw [reset, List.length_set]
    exact held.address
  · rw [sinceReset_snoc]
    exact arrayAt_written policy.memory (zeros D) held.address
  · exact Window.nil _
  · rw [sinceReset_snoc]
    exact List.Forall₂.nil

/-- Frames read the same arrays in a longer memory. -/
theorem valuesOf_append {history : List (Terms S)} {memory : List (Vector S 28)} (added : Vector S 28)
    (old : ∀ terms ∈ history, terms.actions < memory.length) :
    history.map (valuesOf D (memory ++ [added])) = history.map (valuesOf D memory) := by
  refine List.map_congr_left fun terms member => ?_
  rw [valuesOf, valuesOf, arrayAt_append memory added (old terms member)]

/-- A new action gets a new address. -/
theorem tracks_decode {rawAction : NdArray D} {timing : Timing} {action : Vector S 28}
    (known : clipped contract rawAction = .ok action) (held : Tracks contract calls policy) :
    Tracks contract (calls ++ [.decode rawAction timing]) (policy.act action) := by
  have old : ∀ terms ∈ policy.history, terms.actions < policy.memory.length := fun terms member =>
    (held.apart terms member).1
  obtain ⟨stream, window, computed⟩ := held.frames
  refine ⟨held.owner, ?_, ?_, fun terms member => ?_, stream, ?_, ?_⟩
  · simp [act]
  · rw [sinceReset_snoc]
    change arrayAt D (policy.memory ++ [action]) policy.memory.length = latest contract (_ ++ [_])
    rw [arrayAt_new, latest_snoc, Call.action, known]
    rfl
  · have before := old terms member
    simp only [act, List.length_append, List.length_singleton]
    omega
  · change Window _ _ (policy.history.map (valuesOf D (policy.memory ++ [action])))
    rw [valuesOf_append action old]
    exact window
  · rw [sinceReset_snoc]
    change List.Forall₂ _ (observed (_ ++ [_])) _
    rw [observed_snoc, Call.observation, Option.toList_none, List.append_nil]
    exact computed

/-- An observation remembers its terms with a copy of the action. -/
theorem tracks_observe {args : ObserveArgs D} {found : Values S} (positive : 0 < contract.historyLength)
    (known : termsOf contract (sinceReset calls, args) = .ok found) (held : Tracks contract calls policy) :
    Tracks contract (calls ++ [.observe args]) (policy.remember found) := by
  have old : ∀ terms ∈ policy.history, terms.actions < policy.memory.length := fun terms member =>
    (held.apart terms member).1
  obtain ⟨stream, window, computed⟩ := held.frames
  refine ⟨held.owner, ?_, ?_, fun terms member => ?_, stream ++ [found], ?_, ?_⟩
  · have address := held.address
    simp only [remember, List.length_append, List.length_singleton]
    omega
  · rw [sinceReset_snoc]
    change arrayAt D (policy.memory ++ [found.actions]) policy.lastAction = latest contract (_ ++ [_])
    rw [arrayAt_append _ _ held.address, held.action, latest_snoc]
    rfl
  · have address := held.address
    simp only [remember, List.length_append, List.length_singleton]
    rcases mem_fill member with before | rfl
    · have apart := held.apart terms before
      omega
    · change policy.memory.length < _ ∧ policy.memory.length ≠ _
      omega
  · have same : valuesOf D (policy.memory ++ [found.actions])
        ⟨found.gyro, found.jointPos, found.jointVel, policy.memory.length, found.gravity⟩ = found := by
      rw [valuesOf, arrayAt_new]
    change Window _ _ ((fill policy.contract.historyLength policy.history _).map
      (valuesOf D (policy.memory ++ [found.actions])))
    rw [fill_map, same, valuesOf_append _ old, held.owner]
    exact window.fill found positive
  · rw [sinceReset_snoc]
    change List.Forall₂ _ (observed (_ ++ [_])) _
    rw [observed_snoc]
    exact List.rel_append computed (List.Forall₂.cons known List.Forall₂.nil)

/-- What an observe call computes before it remembers its terms. -/
theorem prepare_terms {args : ObserveArgs D} {parts : List D} {found : Values S}
    (held : Tracks contract calls policy)
    (known : prepare policy.contract (arrayAt D policy.memory policy.lastAction) args = .ok (parts, found)) :
    termsOf contract (sinceReset calls, args) = .ok found ∧
      ∃ checked, check args = .ok checked ∧ future contract args checked.quat = .ok parts := by
  rw [held.owner, held.action] at known
  obtain ⟨checked, passed, known⟩ := bind_eq_ok.mp known
  obtain ⟨ahead, looked, known⟩ := bind_eq_ok.mp known
  obtain ⟨computed, valued, same⟩ := bind_eq_ok.mp known
  cases same
  refine ⟨?_, checked, passed, looked⟩
  rw [termsOf, passed]
  exact valued

/-- A call that does not raise keeps the account. -/
theorem tracks_perform {call : Call D Timing} {next : WbcTrackingPolicy S D}
    (positive : 0 < contract.historyLength) (held : Tracks contract calls policy)
    (performed : perform policy call = .ok next) : Tracks contract (calls ++ [call]) next := by
  cases call with
  | observe args =>
      obtain ⟨obs, returned, same⟩ := bind_eq_ok.mp performed
      cases same
      unfold observe at returned ⊢
      cases known : prepare policy.contract (arrayAt D policy.memory policy.lastAction) args with
      | error raised =>
          rw [known] at returned
          cases returned
      | ok prepared =>
          obtain ⟨parts, found⟩ := prepared
          exact tracks_observe positive (prepare_terms held known).1 held
  | decode rawAction timing =>
      obtain ⟨decoded, returned, same⟩ := bind_eq_ok.mp performed
      cases same
      unfold decode at returned ⊢
      cases known : clipped policy.contract rawAction with
      | error raised =>
          rw [known] at returned
          cases returned
      | ok action =>
          rw [held.owner] at known
          exact tracks_decode known held
  | reset =>
      cases performed
      exact tracks_reset held

/-- A run of calls that do not raise keeps the account. -/
theorem tracks_performAll {rest : List (Call D Timing)} {final : WbcTrackingPolicy S D}
    (positive : 0 < contract.historyLength) (held : Tracks contract calls policy)
    (performed : performAll policy rest = .ok final) : Tracks contract (calls ++ rest) final := by
  induction rest generalizing calls policy with
  | nil =>
      cases performed
      rw [List.append_nil]
      exact held
  | cons call rest ih =>
      rw [performAll, List.foldlM_cons] at performed
      obtain ⟨next, first, others⟩ := bind_eq_ok.mp performed
      rw [List.append_cons]
      exact ih (tracks_perform positive held first) others

/-- Every frame index lies in the motion. -/
theorem indices_inside {motion : Motion D} {refTime dt : D} {count : ℕ} {indices : List ℕ}
    (known : motion.indices refTime count dt = .ok indices) :
    indices.length = count ∧ ∀ index ∈ indices, index < motion.q.length := by
  obtain ⟨frame, _, known⟩ := bind_eq_ok.mp known
  obtain ⟨stride, _, known⟩ := bind_eq_ok.mp known
  have frames := motion.frames
  by_cases wide : int64 frame ≠ frame ∨ int64 (max 1 stride) ≠ max 1 stride
  · rw [if_pos wide] at known
    cases known
  · rw [if_neg wide] at known
    cases known
    refine ⟨by rw [List.length_map, List.length_range], fun index member => ?_⟩
    obtain ⟨k, _, rfl⟩ := List.mem_map.mp member
    omega

/-- The ends of a forward difference lie in the motion. -/
theorem slope_inside (motion : Motion D) {index : ℕ} (inside : index < motion.q.length) :
    motion.slopeStart index < motion.q.length ∧ motion.slopeEnd index < motion.q.length := by
  have start : motion.slopeStart index < motion.q.length := by
    unfold Motion.slopeStart
    split_ifs
    all_goals omega
  refine ⟨start, ?_⟩
  unfold Motion.slopeEnd
  omega

section Lengths

theorem mapM_length {Item Value : Type} {step : Item → Except Raised Value} {items : List Item}
    {values : List Value} (known : items.mapM step = .ok values) : values.length = items.length :=
  (mapM_ok_iff.mp known).length_eq.symm

theorem flatMap_toList_length {Value : Type} {count : ℕ} (vectors : List (Vector Value count)) :
    (vectors.flatMap Vector.toList).length = vectors.length * count := by
  induction vectors with
  | nil => simp
  | cons vector rest ih =>
      rw [List.flatMap_cons, List.length_append, ih, Vector.length_toList, List.length_cons, Nat.succ_mul,
        Nat.add_comm]

/-- The parts that look ahead have one group of values for each future frame. -/
theorem future_length {args : ObserveArgs D} {quat : Vector D 4} {parts : List D}
    (known : future contract args quat = .ok parts) :
    parts.length = contract.futureFrames * (56 + 6 + contract.includeZ.toNat) ∧
    ∃ indices, args.motion.indices args.refTime contract.futureFrames contract.futureDt = .ok indices := by
  obtain ⟨indices, located, known⟩ := bind_eq_ok.mp known
  obtain ⟨positions, first, known⟩ := bind_eq_ok.mp known
  obtain ⟨velocities, second, known⟩ := bind_eq_ok.mp known
  obtain ⟨heights, third, known⟩ := bind_eq_ok.mp known
  obtain ⟨offset, _, known⟩ := bind_eq_ok.mp known
  obtain ⟨orientations, fourth, known⟩ := bind_eq_ok.mp known
  cases known
  have count := (indices_inside located).1
  have height : heights.length = contract.futureFrames * contract.includeZ.toNat := by
    unfold heightsOf at third
    cases known : contract.includeZ with
    | false =>
        rw [known] at third
        cases third
        rfl
    | true =>
        rw [known, if_pos rfl] at third
        rw [mapM_length third, count]
        exact (Nat.mul_one _).symm
  refine ⟨?_, indices, located⟩
  simp only [List.length_append, flatMap_toList_length, mapM_length first, height, mapM_length fourth, count]
  rw [mapM_length second, count]
  ring

end Lengths

/-- The number of entries of each term. -/
def termSize : ℕ → ℕ
  | 0 => 3
  | 1 => 28
  | 2 => 28
  | 3 => 28
  | _ => 3

theorem term_length (found : Values S) (k : ℕ) : (found.term k).length = termSize k := by
  match k with
  | 0 => exact found.gyro.length_toList
  | 1 => exact found.jointPos.length_toList
  | 2 => exact found.jointVel.length_toList
  | 3 => exact found.actions.length_toList
  | _ + 4 => exact found.gravity.length_toList

/-- One term of the frame that a slot of the history looks back to. -/
def slotTerm (stream : List (Values S)) (history k slot : ℕ) : List S :=
  (stream[stream.length + slot - history]?).elim [] (Values.term · k)

/-- Each block runs through the slots of the history. -/
theorem blocks_window {stream : List (Values S)} (started : stream ≠ [])
    (window : Window contract.historyLength stream (policy.history.map (valuesOf D policy.memory))) :
    policy.blocks = (List.range 5).flatMap fun k => (List.range contract.historyLength).flatMap fun slot =>
      slotTerm stream contract.historyLength k slot := by
  unfold blocks
  refine congrArg (List.flatMap · (List.range 5)) (funext fun k => ?_)
  have slots := window.flatMap started (Values.term · k)
  rw [List.flatMap_map] at slots
  exact slots

/-- All blocks together have 90 entries for each slot. -/
theorem blocks_length : (policy.blocks : List S).length = 90 * policy.history.length := by
  have sizes (k : ℕ) : (policy.history.flatMap fun terms => (valuesOf D policy.memory terms).term k).length =
      policy.history.length * termSize k := by
    induction policy.history with
    | nil => simp
    | cons terms rest ih =>
        rw [List.flatMap_cons, List.length_append, ih, term_length, List.length_cons, Nat.succ_mul, Nat.add_comm]
  rw [blocks, List.length_flatMap]
  simp only [sizes, List.range_succ, List.range_zero, List.nil_append, List.map_append, List.map_cons,
    List.map_nil, List.sum_append, List.sum_cons, List.sum_nil, termSize]
  omega

/-- The blocks stand unchanged behind the parts that look ahead. -/
theorem assemble_ok {parts : List D} {obs : List S} (known : policy.assemble parts = .ok obs) :
    obs = parts.map narrow ++ policy.blocks := by
  change (if _ then _ else _) = _ at known
  split at known
  · cases known
  · cases known
    have same : (policy.blocks.map (widen : S → D)).map narrow = policy.blocks := by
      rw [List.map_map]
      exact List.map_id'' narrow_widen _
    rw [List.map_append, same]

/-- After any calls that do not raise, an observation has the length of the contract, looks ahead inside
the motion, and ends with the terms of the latest observations since the last reset, oldest first. -/
theorem observe_exact (loads : String → Except Raised (Json D)) (metadata : List (String × String))
    (contract : Contract D) (accepted : Contract.fromMetadata loads metadata = .ok contract)
    (profile : Profile D) (policy : WbcTrackingPolicy S D)
    (made : WbcTrackingPolicy.new contract profile = .ok policy) (calls : List (Call D Timing))
    (current : WbcTrackingPolicy S D) (performed : performAll policy calls = .ok current)
    (args : ObserveArgs D) (obs : List S) (returned : (current.observe args).1 = .ok obs) :
    obs.length = contract.inputDim ∧
    (∃ indices, args.motion.indices args.refTime contract.futureFrames contract.futureDt = .ok indices ∧
      indices.length = contract.futureFrames ∧ ∀ index ∈ indices, index < args.motion.q.length ∧
        args.motion.slopeStart index < args.motion.q.length ∧
        args.motion.slopeEnd index < args.motion.q.length) ∧
    ∃ stream : List (Values S),
      List.Forall₂ (fun call found => termsOf contract call = .ok found)
        (observed (sinceReset (calls ++ [.observe args]))) stream ∧
      stream ≠ [] ∧
      obs.drop (contract.inputDim - 90 * contract.historyLength) = (List.range 5).flatMap fun k =>
        (List.range contract.historyLength).flatMap fun slot => slotTerm stream contract.historyLength k slot := by
  have valid := fromMetadata_valid accepted
  have held : Tracks contract calls current :=
    List.nil_append calls ▸ tracks_performAll valid.history (tracks_new made) performed
  unfold observe at returned
  cases known : prepare current.contract (arrayAt D current.memory current.lastAction) args with
  | error raised =>
      rw [known] at returned
      cases returned
  | ok prepared =>
      obtain ⟨parts, found⟩ := prepared
      rw [known] at returned
      obtain ⟨terms, checked, _, ahead⟩ := prepare_terms held known
      have after : Tracks contract (calls ++ [.observe args]) (current.remember found) :=
        tracks_observe valid.history terms held
      obtain ⟨stream, window, computed⟩ := after.frames
      obtain ⟨length, indices, located⟩ := future_length ahead
      have started : stream ≠ [] := by
        rintro rfl
        have count := computed.length_eq
        rw [sinceReset_snoc] at count
        change (observed (_ ++ [_])).length = 0 at count
        rw [observed_snoc] at count
        simp [Call.observation] at count
      have full := window.full started
      rw [List.length_map] at full
      have blocks : (current.remember found).blocks.length = 90 * contract.historyLength := by
        rw [blocks_length, full]
      have whole := assemble_ok returned
      have total : parts.length + 90 * contract.historyLength = contract.inputDim := by
        rw [length, valid.dimension, dimension, Nat.mul_comm 90]
      have inside := indices_inside located
      refine ⟨?_, ⟨indices, located, inside.1, fun index member => ?_⟩, stream, computed, started, ?_⟩
      · rw [whole, List.length_append, List.length_map, blocks, total]
      · exact ⟨inside.2 index member, slope_inside args.motion (inside.2 index member)⟩
      · have split : contract.inputDim - 90 * contract.historyLength = (parts.map (narrow : D → S)).length := by
          rw [List.length_map]
          omega
        rw [whole, split, List.drop_left, blocks_window started window]

/-- The joints of a small contract. -/
def sampleNames : List String :=
  ["ankle_a", "ankle_b", "ankle_c", "ankle_d"] ++ (List.range 24).map fun index => "joint_" ++ toString index

def sampleArray (number : ℤ) : Json ℚ := .list (List.replicate 28 (.int number))

def sampleTerm (name : String) (dimension : ℤ) : Json ℚ :=
  .dict [("name", .str name), ("frame_dim", .int dimension), ("history_length", .int 2)]

def sampleRaw : Json ℚ := .dict [
  ("schema_version", .int 1), ("action_dim", .int 28), ("policy_kind", .str "groot_vita02a_tracking"),
  ("actor_history_order", .str "term_major_oldest_first"),
  ("input_layout", .str "tokenizer_then_proprioception"),
  ("joint_names", .list (sampleNames.map .str)),
  ("default_joint_pos", sampleArray 0), ("action_scale", sampleArray 1), ("joint_stiffness", sampleArray 1),
  ("joint_damping", sampleArray 1), ("joint_pos_limit_lower", sampleArray (-1)),
  ("joint_pos_limit_upper", sampleArray 1), ("policy_dt", .float (1 / 50)), ("action_clip", .int 1),
  ("future_reference", .dict [("num_frames", .int 1), ("dt", .float (1 / 50)),
    ("quaternion_order", .str "wxyz"), ("orientation_representation", .str "rotation_matrix_6d")]),
  ("actor_observation_terms", .list [sampleTerm "base_ang_vel" 3, sampleTerm "joint_pos" 28,
    sampleTerm "joint_vel" 28, sampleTerm "actions" 28, sampleTerm "gravity_dir" 3]),
  ("tokenizer_observations", .list [
    .dict [("name", .str "command_multi_future_nonflat"), ("shape", .list [.int 1, .int 56])],
    .dict [("name", .str "motion_anchor_ori_b_mf_nonflat"), ("shape", .list [.int 1, .int 6])]]),
  ("input_dim", .int 242), ("proprioception_dim", .int 180),
  ("ankle", .dict [("control_space", .str "virtual_pitch_roll")])]

def textList (items : List String) : String := "[" ++ ",".intercalate items ++ "]"

def textTerm (name dimension : String) : String :=
  "\x7b\"name\":\"" ++ name ++ "\",\"frame_dim\":" ++ dimension ++ ",\"history_length\":2\x7d"

/-- The text whose value is the contract above. -/
def sampleText : String :=
  "\x7b\"schema_version\":1,\"action_dim\":28,\"policy_kind\":\"groot_vita02a_tracking\"," ++
  "\"actor_history_order\":\"term_major_oldest_first\"," ++
  "\"input_layout\":\"tokenizer_then_proprioception\",\"joint_names\":" ++
  textList (sampleNames.map fun name => "\"" ++ name ++ "\"") ++
  ",\"default_joint_pos\":" ++ textList (List.replicate 28 "0") ++
  ",\"action_scale\":" ++ textList (List.replicate 28 "1") ++
  ",\"joint_stiffness\":" ++ textList (List.replicate 28 "1") ++
  ",\"joint_damping\":" ++ textList (List.replicate 28 "1") ++
  ",\"joint_pos_limit_lower\":" ++ textList (List.replicate 28 "-1") ++
  ",\"joint_pos_limit_upper\":" ++ textList (List.replicate 28 "1") ++
  ",\"policy_dt\":0.02,\"action_clip\":1,\"future_reference\":\x7b\"num_frames\":1,\"dt\":0.02," ++
  "\"quaternion_order\":\"wxyz\",\"orientation_representation\":\"rotation_matrix_6d\"\x7d," ++
  "\"actor_observation_terms\":" ++ textList [textTerm "base_ang_vel" "3", textTerm "joint_pos" "28",
    textTerm "joint_vel" "28", textTerm "actions" "28", textTerm "gravity_dir" "3"] ++
  ",\"tokenizer_observations\":[\x7b\"name\":\"command_multi_future_nonflat\",\"shape\":[1,56]\x7d," ++
  "\x7b\"name\":\"motion_anchor_ori_b_mf_nonflat\",\"shape\":[1,6]\x7d]," ++
  "\"input_dim\":242,\"proprioception_dim\":180,\"ankle\":\x7b\"control_space\":\"virtual_pitch_roll\"\x7d\x7d"

/-- The parser on that text. -/
def sampleLoads (text : String) : Except Raised (Json ℚ) :=
  if text = sampleText then .ok sampleRaw else .error (.valueError "Expecting value")

def sampleProfile : Profile ℚ where
  bodyJointOrder := sampleNames ++ ["neck", "waist", "spare"]
  schemaVersion := some 1
  commandSlots := some 31
  stateSlots := some 31
  jointLimits := ⟨sampleNames.map fun name => (name, [-2, 2]), by decide +kernel⟩
  fixedJoints := ⟨[("neck", ⟨0, 1, 1⟩)], by decide⟩
  fallTiltThresholdRad := 1
  ankleClampFeedforward := true

def standing : Motion ℚ where
  q := [Vector.replicate 28 0]
  base := [#v[0, 0, 0]]
  quat := [#v[1, 0, 0, 0]]
  frames := by decide
  bases := rfl
  quats := rfl

/-- An upright robot at rest. -/
def still : ObserveArgs ℚ where
  motion := standing
  refTime := 0
  q := .ofList (List.replicate 28 0)
  dq := .ofList (List.replicate 28 0)
  quat := .ofList [1, 0, 0, 0]
  gyro := .ofList [0, 0, 0]
  yawOffset := 0

def sampleCalls : List (Call ℚ Unit) := [.observe still, .decode (.ofList (List.replicate 28 (1 / 2))) ()]

/-- The observation after one observation and one decode. -/
def sampleRun : Except Raised (List ℚ) := do
  let policy ← @WbcTrackingPolicy.new ℚ ℚ exact (← @Contract.ofRaw ℚ ℚ exact sampleRaw) sampleProfile
  let current ← @performAll ℚ ℚ _ exact policy sampleCalls
  (@observe ℚ ℚ exact current still).1

/-- The metadata with the text gives the contract. -/
theorem sampleLoads_raw : @Contract.fromMetadata ℚ ℚ exact sampleLoads [(CONTRACT_KEY, sampleText)] =
    @Contract.ofRaw ℚ ℚ exact sampleRaw := by
  unfold Contract.fromMetadata
  rw [List.lookup_cons_self]
  change sampleLoads sampleText >>= _ = _
  rw [sampleLoads, if_pos rfl]
  rfl

/-- The size and the history of the contract. -/
theorem sampleRaw_sizes {contract : Contract ℚ} (made : @Contract.ofRaw ℚ ℚ exact sampleRaw = .ok contract) :
    contract.inputDim = 242 ∧ contract.historyLength = 2 := by
  have sizes : (@Contract.ofRaw ℚ ℚ exact sampleRaw).toOption.map (fun contract =>
      (contract.inputDim, contract.historyLength)) = some (242, 2) := by decide +kernel
  rw [made] at sizes
  exact Prod.ext_iff.mp (Option.some.inj sizes)

/-- The first frame copied the initial actions and the second one copied the decoded actions. -/
def sampleEnd : List ℚ :=
  List.replicate 6 0 ++ List.replicate 56 0 ++ List.replicate 56 0 ++
    (List.replicate 28 0 ++ List.replicate 28 (1 / 2)) ++ [0, 0, -1, 0, 0, -1]

/-- The second observation of a robot at rest ends with both frames, oldest first in every term. -/
theorem observe_exact_sample : ∃ contract obs,
    @Contract.fromMetadata ℚ ℚ exact sampleLoads [(CONTRACT_KEY, sampleText)] = .ok contract ∧
    sampleRun = .ok obs ∧ obs.length = 242 ∧
    (∃ indices, @Motion.indices ℚ ℚ exact standing 0 contract.futureFrames contract.futureDt = .ok indices ∧
      indices.length = contract.futureFrames) ∧
    ∃ stream : List (Values ℚ),
      List.Forall₂ (fun call found => @termsOf ℚ ℚ Unit exact contract call = .ok found)
        (observed (sinceReset (sampleCalls ++ [.observe still]))) stream ∧
      obs.drop 62 = (List.range 5).flatMap (fun k => (List.range 2).flatMap fun slot =>
        slotTerm stream 2 k slot) ∧
      obs.drop 62 = sampleEnd := by
  have ending : sampleRun.toOption.map (List.drop 62) = some sampleEnd := by decide +kernel
  cases known : sampleRun with
  | error raised =>
      rw [known] at ending
      cases ending
  | ok obs =>
      rw [known] at ending
      obtain ⟨contract, accepted, rest⟩ := bind_eq_ok.mp known
      obtain ⟨policy, made, rest⟩ := bind_eq_ok.mp rest
      obtain ⟨current, performed, returned⟩ := bind_eq_ok.mp rest
      obtain ⟨dimension, history⟩ := sampleRaw_sizes accepted
      rw [← sampleLoads_raw] at accepted
      obtain ⟨length, ⟨indices, located, count, -⟩, stream, terms, -, blocks⟩ :=
        @observe_exact ℚ ℚ Unit exact sampleLoads _ contract accepted sampleProfile policy made sampleCalls
          current performed still obs returned
      rw [dimension] at length
      rw [dimension, history] at blocks
      exact ⟨contract, obs, accepted, rfl, length, ⟨indices, located, count⟩, stream, terms, blocks,
        Option.some.inj ending⟩

end HumanoidSdk.Policy
