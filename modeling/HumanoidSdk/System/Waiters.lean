import HumanoidSdk.Controller.Waiters
import HumanoidSdk.EndEffector.HandFeedback
import HumanoidSdk.EndEffector.Waiters
import HumanoidSdk.Feedback.Source

/-
This file shows that no wait of the SDK on a condition variable misses what it waits for.
-/

namespace HumanoidSdk.System
open Foundation Controller EndEffector Feedback

/-- The waits for a snapshot, for the feedback of a hand or gripper client without pull rings, and for an
acknowledgement, the exit or a body state in the controller are attentive. Before its deadline a wait ends only
for one of the reasons of its object. -/
theorem waits_attentive :
    (∀ Payload, (sourceRoom Payload).Attentive ℚ (fun _ => True) ∧
      ∀ after source result, (sourceRoom Payload).answer after source = some result → source.Ends after result) ∧
    (∀ client, client.pullFeedback = false → (feedbackRoom client).Attentive ℚ (fun _ => True) ∧
      ∀ request cache result, (feedbackRoom client).answer request cache = some result →
        cache.Ends request result) ∧
    ∀ Body, (controllerRoom Body).Attentive ℚ (fun wanted => ∀ before, wanted ≠ .running before) ∧
      ∀ wanted backed result, (controllerRoom Body).answer wanted backed = some result →
        backed.Ends wanted result := by
  refine ⟨fun Payload => ⟨?_, fun _ _ _ => source_ends⟩, fun client _ => ⟨?_, fun _ _ _ => feedback_ends⟩,
    fun Body => ⟨?_, fun _ _ _ => controller_ends⟩⟩
  · exact Room.attentive fun after _ => source_announces after
  · exact Room.attentive fun request _ => feedback_announces client request
  · exact Room.attentive fun wanted known => controller_announces known

def sampleAck : ControlAck where
  requestId := "request"
  operation := .PREPARE
  accepted := true
  leaseId := "lease"

/-- A thread falls asleep before its payload comes, another one before the feedback of a hand fails, and a third
one before its acknowledgement. All are notified. -/
theorem waits_attentive_runs :
    (∃ moves final, ((sourceRoom Unit).machine Bool).Run ⟨(0 : ℚ), { state := {} }⟩ moves final ∧
      final.state.threads true = .sleeping none 5 5 0 ∧ 0 < final.state.notifications) ∧
    (∃ moves final, ((feedbackRoom (handClient HandClient.fedHand)).machine Bool).Run
        ⟨(0 : ℚ), { state := {} }⟩ moves final ∧
      final.state.threads true = .sleeping { kind := .state } 5 5 0 ∧ 0 < final.state.notifications) ∧
    ∃ moves final, ((controllerRoom Unit).machine Bool).Run
        ⟨(0 : ℚ), { state := ⟨{ clientId := "client" }, none⟩ }⟩ moves final ∧
      final.state.threads false = .sleeping (.ack "request" .PREPARE) 3 3 0 ∧ 0 < final.state.notifications := by
  refine ⟨?_, ?_, ?_⟩
  · obtain ⟨moves, final, run, -, sleeps, answered⟩ := ((sourceRoom Unit).machine Bool).exists_run
      ⟨(0 : ℚ), { state := {} }⟩
      [(0, .call true none 5), (0, .test true), (1, .update (.receive () 7 8))]
      (fun _ final => final.state.threads true = .sleeping none 5 5 0 ∧
        ((sourceRoom Unit).answer none final.state.state).isSome = true) (by decide +kernel)
    have notified := ((waits_attentive.1 Unit).1 Bool {} 0 moves final run).2 true none 5 5 0 trivial sleeps
    exact ⟨moves, final, run, sleeps, notified.2 (Option.isSome_iff_ne_none.mp answered)⟩
  · obtain ⟨moves, final, run, -, sleeps, answered⟩ :=
      ((feedbackRoom (handClient HandClient.fedHand)).machine Bool).exists_run ⟨(0 : ℚ), { state := {} }⟩
      [(0, .call true { kind := .state } 5), (0, .test true), (1, .update .fail)]
      (fun _ final => final.state.threads true = .sleeping { kind := .state } 5 5 0 ∧
        ((feedbackRoom (handClient HandClient.fedHand)).answer { kind := .state } final.state.state).isSome = true)
      (by decide +kernel)
    have notified := ((waits_attentive.2.1 (handClient HandClient.fedHand) rfl).1 Bool {} 0 moves final run).2 true
      { kind := .state } 5 5 0 trivial sleeps
    exact ⟨moves, final, run, sleeps, notified.2 (Option.isSome_iff_ne_none.mp answered)⟩
  · obtain ⟨moves, final, run, -, sleeps, answered⟩ := ((controllerRoom Unit).machine Bool).exists_run
      ⟨(0 : ℚ), { state := ⟨{ clientId := "client" }, none⟩ }⟩
      [(0, .update (.enter "request")), (0, .call false (.ack "request" .PREPARE) 3), (0, .test false),
        (1, .update (.onAck sampleAck))]
      (fun _ final => final.state.threads false = .sleeping (.ack "request" .PREPARE) 3 3 0 ∧
        ((controllerRoom Unit).answer (.ack "request" .PREPARE) final.state.state).isSome = true) (by decide +kernel)
    have notified := ((waits_attentive.2.2 Unit).1 Bool _ 0 moves final run).2 false (.ack "request" .PREPARE) 3 3 0
      (by rintro before ⟨⟩) sleeps
    exact ⟨moves, final, run, sleeps, notified.2 (Option.isSome_iff_ne_none.mp answered)⟩

end HumanoidSdk.System
