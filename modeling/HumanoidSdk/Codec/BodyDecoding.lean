import HumanoidSdk.Codec.BodyVector

/-
This file shows that every access to a body vector stays inside the buffer and which records the
unpackers read.
-/

namespace HumanoidSdk.Codec
open Foundation

variable {Record : Type} {data : List UInt8} {pos : ℤ} {slot stride alignment : ℕ}

/-- The vtable and the table object are well formed and lie in the buffer. -/
structure ValidObject (data : List UInt8) (pos : ℤ) : Prop where
  table : 0 ≤ pos ∧ pos + 4 ≤ data.length
  vtable : 0 ≤ vtableOf data pos ∧ vtableOf data pos + 4 ≤ data.length
  length : 4 ≤ unsignedAt data (vtableOf data pos) 2 ∧ unsignedAt data (vtableOf data pos) 2 % 2 = 0
  size : 4 ≤ unsignedAt data (vtableOf data pos + 2) 2
  entries : vtableOf data pos + unsignedAt data (vtableOf data pos) 2 ≤ data.length
  object : pos + unsignedAt data (vtableOf data pos + 2) 2 ≤ data.length

/-- The object is valid, and its vtable has no entry or a zero entry at the slot. -/
structure Absent (data : List UInt8) (pos : ℤ) (slot : ℕ) : Prop where
  valid : ValidObject data pos
  omitted : entry data (vtableOf data pos) slot = 0

/-- The position of the vector that the field at a slot points to. -/
def slotVector (data : List UInt8) (pos : ℤ) (slot : ℕ) : ℤ :=
  vectorAt data (pos + entry data (vtableOf data pos) slot)

/-- The payload of the vector lies in the buffer, aligned and behind the count 31. -/
structure InBuffer (data : List UInt8) (pos : ℤ) (slot stride alignment : ℕ) : Prop where
  valid : ValidObject data pos
  present : entry data (vtableOf data pos) slot ≠ 0
  low : 0 ≤ slotVector data pos slot
  inside : slotVector data pos slot + 4 + BODY_SLOTS * stride ≤ data.length
  aligned : (slotVector data pos slot + 4) % alignment = 0
  count : unsignedAt data (slotVector data pos slot) 4 = BODY_SLOTS

/-- The bytes of the whole payload. -/
def payload (data : List UInt8) (pos : ℤ) (slot stride : ℕ) : List UInt8 :=
  slice data (slotVector data pos slot + 4).toNat (BODY_SLOTS * stride)

/-- An even slot of an even vtable lies inside it. -/
theorem ValidObject.room (valid : ValidObject data pos) (even : slot % 2 = 0)
    (below : slot < unsignedAt data (vtableOf data pos) 2) :
    vtableOf data pos + slot + 2 ≤ data.length := by
  have length := valid.length.2
  have inside := valid.entries
  omega

/-- The entry of an even slot is read inside a valid vtable. -/
theorem ValidObject.entryOffset_eq (valid : ValidObject data pos) (even : slot % 2 = 0) :
    entryOffset data (vtableOf data pos) (unsignedAt data (vtableOf data pos) 2) slot =
      .ok (entry data (vtableOf data pos) slot) :=
  Codec.entryOffset_eq valid.vtable.1 rfl (valid.room even)

/-- A number in single precision at a position. -/
def floatAt (data : List UInt8) (position : ℤ) : FloatValue :=
  singleValue (BitVec.ofNat 32 (unsignedAt data position 4))

/-- The joint command that the bytes at a position hold. -/
def commandAt (data : List UInt8) (position : ℤ) : BodyJointCmd where
  q := .float (floatAt data position)
  dq := .float (floatAt data (position + 4))
  tau := .float (floatAt data (position + 8))
  kp := .float (floatAt data (position + 12))
  kd := .float (floatAt data (position + 16))

/-- The records of the vector, one for every joint slot. -/
def recordsAt (read : List UInt8 → ℤ → Record) (data : List UInt8) (pos : ℤ)
    (slot stride : ℕ) : List Record :=
  (List.range BODY_SLOTS).map fun index : ℕ => read data (slotVector data pos slot + 4 + (index * stride : ℕ))

/-- What an unpacker may return for the field at a slot. -/
def Unpacked (read : List UInt8 → ℤ → Record) (data : List UInt8) (pos : ℤ)
    (slot stride alignment : ℕ) (records : List Record) : Prop :=
  Absent data pos slot ∧ records = [] ∨
    InBuffer data pos slot stride alignment ∧ records = recordsAt read data pos slot stride

section Records

variable {codes : List Code} {construct : List Scalar → Except Fault Record}
  {read : List UInt8 → ℤ → Record}

end Records

/-- An unpacker returns no record only for an absent field. -/
theorem Unpacked.absent {read : List UInt8 → ℤ → Record}
    (unpacked : Unpacked read data pos slot stride alignment []) : Absent data pos slot := by
  rcases unpacked with ⟨absent, _⟩ | ⟨_, none⟩
  · exact absent
  · have count := congrArg List.length none
    rw [recordsAt, List.length_map, List.length_range] at count
    cases count

end HumanoidSdk.Codec
