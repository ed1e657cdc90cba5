import HumanoidSdk.EndEffector.Client
import HumanoidSdk.Foundation.Waiting

/-
This file translates the waits of HandClient in python/locomotion_aorta/hand.py and of the gripper client in
_gripper_lifecycle.py without pull rings. An update is one section under `_condition`, and messages are numbered
in the order in which they were stored.
-/

namespace HumanoidSdk.EndEffector
open Foundation

structure FeedbackCache (client : Client) where
  closed : Bool := false
  failed : Bool := false
  latest : (kind : Kind) → Option (ℕ × client.Message kind) := fun _ => none
  stored : ℕ := 0

/-- The arguments of `_wait`. The argument `after_info` is a message by its number. -/
structure CacheRequest where
  kind : Kind
  afterStateId : Option ℤ := none
  afterInfo : Option ℕ := none
  deriving DecidableEq

/-- A callback stores a message or has failed, or the client is closed. -/
inductive CacheUpdate (client : Client)
  | store (kind : Kind) (message : client.Message kind)
  | fail
  | close

namespace FeedbackCache

variable {client : Client} (cache : FeedbackCache client)

/-- The dictionary `_latest`. -/
def messages : Latest client.Message := fun kind => (cache.latest kind).map Prod.snd

/-- The section of `_receive` that stores a message, and whether it notifies. -/
def store (kind : Kind) (message : client.Message kind) : FeedbackCache client × Bool :=
  if cache.closed then (cache, false)
  else
    match client.agrees (Function.update cache.messages kind (some message)) with
    | .error _ => (cache, false)
    | .ok () => ({ cache with
        latest := Function.update cache.latest kind (some (cache.stored, message))
        stored := cache.stored + 1 }, true)

/-- The section of `_receive` after an exception. -/
def fail : FeedbackCache client × Bool := ({ cache with failed := true }, true)

def close : FeedbackCache client × Bool :=
  if cache.closed then (cache, false) else ({ cache with closed := true }, true)

/-- What `_wait` returns or raises, unless it waits. -/
def answer (request : CacheRequest) : Option (Except PyError (client.Message request.kind)) :=
  if cache.closed then some (.error client.closedError)
  else if cache.failed then some (.error client.feedbackError)
  else
    match cache.latest request.kind with
    | none => none
    | some (number, message) =>
        if request.afterStateId.all (client.isAfter request.kind message) ∧ request.afterInfo ≠ some number then
          some (.ok message)
        else none

end FeedbackCache

/-- The threads that wait for the feedback of a client without pull rings. -/
def feedbackRoom (client : Client) :
    Room (FeedbackCache client) (CacheUpdate client) CacheRequest
      (Except PyError ((kind : Kind) × client.Message kind)) where
  answer request cache := (cache.answer request).map fun result => result.map (⟨request.kind, ·⟩)
  apply cache
    | .store kind message => cache.store kind message
    | .fail => cache.fail
    | .close => cache.close

/-- A message that a call waits for is there. -/
def FeedbackCache.Came {client : Client} (cache : FeedbackCache client) (request : CacheRequest)
    (message : client.Message request.kind) : Prop :=
  ∃ number, cache.latest request.kind = some (number, message) ∧
    request.afterStateId.all (client.isAfter request.kind message) = true ∧ request.afterInfo ≠ some number

/-- What ends a call before its deadline: the client is closed, invalid feedback was recorded, or a message came. -/
inductive FeedbackCache.Ends {client : Client} (cache : FeedbackCache client) (request : CacheRequest) :
    Except PyError ((kind : Kind) × client.Message kind) → Prop
  | closed (shut : cache.closed = true) : Ends cache request (.error client.closedError)
  | invalid (opened : cache.closed = false) (failed : cache.failed = true) :
      Ends cache request (.error client.feedbackError)
  | came (opened : cache.closed = false) (valid : cache.failed = false) {message : client.Message request.kind}
      (came : cache.Came request message) : Ends cache request (.ok ⟨request.kind, message⟩)

theorem feedback_ends {client : Client} {request : CacheRequest} {cache : FeedbackCache client}
    {result : Except PyError ((kind : Kind) × client.Message kind)}
    (answered : (feedbackRoom client).answer request cache = some result) : cache.Ends request result := by
  obtain ⟨found, known, rfl⟩ := Option.map_eq_some_iff.mp answered
  unfold FeedbackCache.answer at known
  split at known
  · rename_i shut
    cases known
    exact .closed shut
  · rename_i opened
    split at known
    · rename_i failed
      cases known
      exact .invalid (Bool.eq_false_iff.mpr opened) failed
    · rename_i valid
      split at known
      · cases known
      · rename_i number message stored
        split at known
        · rename_i wanted
          cases known
          exact .came (Bool.eq_false_iff.mpr opened) (Bool.eq_false_iff.mpr valid) ⟨number, stored, wanted⟩
        · cases known

/-- Every update of the cache that changes it notifies. -/
theorem feedback_announces (client : Client) (request : CacheRequest) : (feedbackRoom client).Announces request := by
  apply Room.announces_of_unchanged
  intro cache update silent
  cases update with
  | store kind message =>
      change (cache.store kind message).2 = false at silent
      show (cache.store kind message).1 = cache
      unfold FeedbackCache.store at silent ⊢
      split at silent
      · rename_i closed
        rw [if_pos closed]
      · rename_i open'
        rw [if_neg open']
        split at silent
        · rfl
        · cases silent
  | fail => cases silent
  | close =>
      change cache.close.2 = false at silent
      show cache.close.1 = cache
      unfold FeedbackCache.close at silent ⊢
      split at silent
      · rename_i closed
        rw [if_pos closed]
      · cases silent

end HumanoidSdk.EndEffector
