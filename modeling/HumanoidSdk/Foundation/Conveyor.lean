import Mathlib.Data.List.Basic

namespace HumanoidSdk.Foundation

variable {Item : Type*}

/-- Items leave a queue in their order through one hand. They are handed on, or lost with all that follow. -/
structure Conveyed (items handed lost hand queue : List Item) : Prop where
  order : items = handed ++ lost ++ hand ++ queue

namespace Conveyed

variable {items handed lost hand queue : List Item} {item : Item}

theorem start (items : List Item) : Conveyed items [] [] [] items := ⟨rfl⟩

/-- A new item joins the queue. -/
theorem push (conveyed : Conveyed items handed lost hand queue) (item : Item) :
    Conveyed (items ++ [item]) handed lost hand (queue ++ [item]) :=
  ⟨by rw [conveyed.order, List.append_assoc _ queue]⟩

/-- The hand takes the first item. -/
theorem pop (conveyed : Conveyed items handed lost [] (item :: queue)) :
    Conveyed items handed lost [item] queue :=
  ⟨by rw [conveyed.order, List.append_nil, List.append_assoc _ [item], List.singleton_append]⟩

/-- The item in hand is handed on. -/
theorem land (conveyed : Conveyed items handed [] hand queue) : Conveyed items (handed ++ hand) [] [] queue :=
  ⟨by rw [conveyed.order, List.append_nil, List.append_nil, List.append_nil]⟩

/-- The item in hand and the queue are lost. -/
theorem lose (conveyed : Conveyed items handed lost hand queue) :
    Conveyed items handed (lost ++ (hand ++ queue)) [] [] :=
  ⟨by rw [conveyed.order, List.append_nil, List.append_nil, List.append_assoc, List.append_assoc]⟩

/-- Nothing is left over. -/
theorem settled (conveyed : Conveyed items handed lost [] []) : items = handed ++ lost := by
  rw [conveyed.order, List.append_nil, List.append_nil]

theorem length (conveyed : Conveyed items handed lost [] []) : items.length = handed.length + lost.length := by
  rw [conveyed.settled, List.length_append]

end Conveyed

/-- The lines of the rows in their order make up a text. -/
inductive Formatted {Row Failure : Type*} (format : Row → Except Failure String) : List Row → String → Prop
  | nil : Formatted format [] ""
  | snoc {rows : List Row} {text line : String} {row : Row} (earlier : Formatted format rows text)
      (formatted : format row = .ok line) : Formatted format (rows ++ [row]) (text ++ line)

end HumanoidSdk.Foundation
