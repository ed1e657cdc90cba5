import Mathlib.Data.List.Sublists

namespace HumanoidSdk.Foundation

/-- A mailbox holds at most one letter and remembers what became of every letter. -/
structure Mailbox (Letter : Type*) where
  puts : List Letter := []
  takes : List Letter := []
  overwritten : Nat := 0
  dropped : Nat := 0
  slot : Option Letter := none

inductive MailAction (Letter : Type*) where
  | put (letter : Letter)
  | take
  | drop

namespace Mailbox

variable {Letter : Type*}

/-- A put replaces the waiting letter, a take hands it out and a drop discards it. -/
def act (box : Mailbox Letter) : MailAction Letter → Mailbox Letter
  | .put letter => { box with
      puts := box.puts ++ [letter]
      overwritten := box.overwritten + box.slot.toList.length
      slot := some letter }
  | .take => { box with takes := box.takes ++ box.slot.toList, slot := none }
  | .drop => { box with dropped := box.dropped + box.slot.toList.length, slot := none }

def acts (box : Mailbox Letter) (actions : List (MailAction Letter)) : Mailbox Letter :=
  actions.foldl act box

@[simp] theorem acts_nil (box : Mailbox Letter) : box.acts [] = box := rfl

@[simp] theorem acts_append (box : Mailbox Letter) (first second : List (MailAction Letter)) :
    box.acts (first ++ second) = (box.acts first).acts second := List.foldl_append

@[simp] theorem acts_singleton (box : Mailbox Letter) (action : MailAction Letter) :
    box.acts [action] = box.act action := rfl

/-- Every letter is taken, overwritten, dropped or still waiting. -/
def Balanced (box : Mailbox Letter) : Prop :=
  box.puts.length = box.takes.length + box.overwritten + box.dropped + box.slot.toList.length

theorem balanced_act {box : Mailbox Letter} (balanced : box.Balanced) (action : MailAction Letter) :
    (box.act action).Balanced := by
  unfold Balanced at *
  cases action with
  | put | take | drop => simp [act]; omega

/-- The letters leave in the order of their puts, and each leaves at most once. -/
def Ordered (box : Mailbox Letter) : Prop := (box.takes ++ box.slot.toList).Sublist box.puts

theorem ordered_act {box : Mailbox Letter} (ordered : box.Ordered) (action : MailAction Letter) :
    (box.act action).Ordered := by
  unfold Ordered at *
  cases action with
  | put letter =>
      have taken := (List.sublist_append_left box.takes box.slot.toList).trans ordered
      simpa [act] using taken.append (List.Sublist.refl [letter])
  | take => simpa [act] using ordered
  | drop =>
      simpa [act] using (List.sublist_append_left box.takes box.slot.toList).trans ordered

theorem acts_balanced {box : Mailbox Letter} (balanced : box.Balanced)
    (actions : List (MailAction Letter)) : (box.acts actions).Balanced := by
  induction actions generalizing box with
  | nil => exact balanced
  | cons action rest ih => exact ih (balanced_act balanced action)

theorem acts_ordered {box : Mailbox Letter} (ordered : box.Ordered)
    (actions : List (MailAction Letter)) : (box.acts actions).Ordered := by
  induction actions generalizing box with
  | nil => exact ordered
  | cons action rest ih => exact ih (ordered_act ordered action)

/-- Earlier records never change what a mailbox does with its slot. -/
theorem acts_extend (box : Mailbox Letter) (actions : List (MailAction Letter)) :
    (box.acts actions).puts = box.puts ++ (({ slot := box.slot } : Mailbox Letter).acts actions).puts ∧
    (box.acts actions).takes = box.takes ++ (({ slot := box.slot } : Mailbox Letter).acts actions).takes ∧
    (box.acts actions).slot = (({ slot := box.slot } : Mailbox Letter).acts actions).slot := by
  induction actions using List.reverseRecOn with
  | nil => simp
  | append_singleton earlier action ih =>
      obtain ⟨puts, takes, slot⟩ := ih
      cases action with
      | put | take | drop => simp [act, puts, takes, slot]

end Mailbox

end HumanoidSdk.Foundation
