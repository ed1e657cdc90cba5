import Mathlib.Data.List.Infix

/-
This file describes a stream with a buffer in front of a disk. An error loses a part of what is not on the disk.
-/

namespace HumanoidSdk.Foundation

/-- How a call of a stream ends. It leaves some of the items on the disk, and an error keeps only some of the
others in the buffer. -/
inductive StreamEnding (Failure : Type*)
  | returns (landed : ℕ)
  | raises (failure : Failure) (landed kept : ℕ)

/-- What the call raises. -/
def StreamEnding.raised {Failure : Type*} : StreamEnding Failure → Option Failure
  | .returns _ => none
  | .raises failure _ _ => some failure

structure BufferedStream (Item : Type*) where
  disk : List Item := []
  buffer : List Item := []

namespace BufferedStream

variable {Item Failure : Type*} (stream : BufferedStream Item)

/-- All items of the stream. -/
def content : List Item := stream.disk ++ stream.buffer

/-- The items go through the buffer, and some of it goes to the disk. -/
def write (items : List Item) : StreamEnding Failure → BufferedStream Item
  | .returns landed =>
      { disk := stream.disk ++ (stream.buffer ++ items).take landed
        buffer := (stream.buffer ++ items).drop landed }
  | .raises _ landed kept =>
      { disk := stream.disk ++ (stream.buffer ++ items).take landed
        buffer := ((stream.buffer ++ items).drop landed).take kept }

/-- The whole buffer goes to the disk. -/
def flush : StreamEnding Failure → BufferedStream Item
  | .returns _ => { disk := stream.content, buffer := [] }
  | .raises failure landed kept => stream.write [] (.raises failure landed kept)

/-- The whole buffer goes to the disk, and what does not is lost. -/
def close : StreamEnding Failure → BufferedStream Item
  | .returns _ => { disk := stream.content, buffer := [] }
  | .raises failure landed _ => stream.write [] (.raises failure landed 0)

variable {stream}

theorem disk_content (stream : BufferedStream Item) : stream.disk <+: stream.content := List.prefix_append _ _

/-- A write that returns loses nothing. -/
theorem write_content {items : List Item} {ending : StreamEnding Failure} (returned : ending.raised = none) :
    (stream.write items ending).content = stream.content ++ items := by
  cases ending with
  | returns landed =>
      rw [content, write, List.append_assoc, List.take_append_drop, content, List.append_assoc]
  | raises failure landed kept => cases returned

/-- Any write leaves a beginning of what was there and of what is written. -/
theorem write_starts (stream : BufferedStream Item) (items : List Item) (ending : StreamEnding Failure) :
    (stream.write items ending).content <+: stream.content ++ items := by
  cases ending with
  | returns landed => rw [write_content rfl]
  | raises failure landed kept =>
      rw [content, write, List.append_assoc, content, List.append_assoc, List.prefix_append_right_inj]
      calc (stream.buffer ++ items).take landed ++ ((stream.buffer ++ items).drop landed).take kept
          <+: (stream.buffer ++ items).take landed ++ (stream.buffer ++ items).drop landed :=
            (List.prefix_append_right_inj _).mpr ⟨_, List.take_append_drop _ _⟩
        _ = stream.buffer ++ items := List.take_append_drop _ _

theorem flush_starts (stream : BufferedStream Item) (ending : StreamEnding Failure) :
    (stream.flush ending).content <+: stream.content := by
  cases ending with
  | returns landed =>
      rw [content, flush, List.append_nil]
  | raises failure landed kept =>
      have kept := stream.write_starts [] (.raises failure landed kept)
      rwa [List.append_nil] at kept

/-- A flush that returns leaves everything. -/
theorem flush_content {ending : StreamEnding Failure} (returned : ending.raised = none) :
    (stream.flush ending).content = stream.content := by
  cases ending with
  | returns landed => rw [content, flush, List.append_nil]
  | raises failure landed kept => cases returned

/-- A closed stream has a beginning of its content on the disk. -/
theorem close_starts (stream : BufferedStream Item) (ending : StreamEnding Failure) :
    (stream.close ending).disk <+: stream.content := by
  cases ending with
  | returns landed => exact List.prefix_refl _
  | raises failure landed kept =>
      have kept := stream.write_starts [] (.raises failure landed 0)
      rw [List.append_nil] at kept
      exact (disk_content _).trans kept

/-- If the close returns, it is the whole content. -/
theorem close_disk {ending : StreamEnding Failure} (returned : ending.raised = none) :
    (stream.close ending).disk = stream.content := by
  cases ending with
  | returns landed => rfl
  | raises failure landed kept => cases returned

end BufferedStream

end HumanoidSdk.Foundation
