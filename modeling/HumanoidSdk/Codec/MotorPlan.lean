import HumanoidSdk.Codec.MotorState

/-
This file shows that the plan of a vtable places every projected field where its entry puts it.
-/

namespace HumanoidSdk.Codec
open Foundation

variable {data : List UInt8} {vtable : ℤ}

theorem checkBounds_yields {start width : ℤ} {size : ℕ} :
    Yields Fault.IsValueError (fun _ => 0 ≤ start ∧ 0 ≤ width ∧ start + width ≤ size)
      (checkBounds start width size) := by
  refine Yields.check (fun _ => trivial) fun inside => ?_
  rw [Yields.ok_iff]
  omega

theorem checkBounds_ok {start width : ℤ} {size : ℕ} (low : 0 ≤ start) (wide : 0 ≤ width)
    (high : start + width ≤ size) : checkBounds start width size = .ok () := by
  rw [checkBounds, if_neg (by omega)]

/-- The fields that the vtable does not omit, numbered from an index on. -/
def presentFields (data : List UInt8) (vtable : ℤ) : ℕ → List (ℕ × Format) → List Field
  | _, [] => []
  | index, field :: rest =>
      if entry data vtable field.1 = 0 then presentFields data vtable (index + 1) rest
      else ⟨entry data vtable field.1, index, field.2⟩ :: presentFields data vtable (index + 1) rest

theorem mem_presentFields {fields : List (ℕ × Format)} {index : ℕ} {present : Field} :
    present ∈ presentFields data vtable index fields ↔ ∃ place field, fields[place]? = some field ∧
      entry data vtable field.1 ≠ 0 ∧ present = ⟨entry data vtable field.1, index + place, field.2⟩ := by
  induction fields generalizing index with
  | nil => simp [presentFields]
  | cons head rest ih =>
      have tail : (∃ place field, (head :: rest)[place]? = some field ∧ entry data vtable field.1 ≠ 0 ∧
            present = ⟨entry data vtable field.1, index + place, field.2⟩) ↔
          (entry data vtable head.1 ≠ 0 ∧ present = ⟨entry data vtable head.1, index, head.2⟩) ∨
          ∃ place field, rest[place]? = some field ∧ entry data vtable field.1 ≠ 0 ∧
            present = ⟨entry data vtable field.1, index + 1 + place, field.2⟩ := by
        constructor
        · rintro ⟨place, field, found, nonzero, same⟩
          cases place with
          | zero =>
              obtain rfl : head = field := by simpa using found
              exact Or.inl ⟨nonzero, same⟩
          | succ place => exact Or.inr ⟨place, field, by simpa using found, nonzero,
              by rw [same, Nat.add_assoc, Nat.add_comm 1]⟩
        · rintro (⟨nonzero, same⟩ | ⟨place, field, found, nonzero, same⟩)
          · exact ⟨0, head, rfl, nonzero, same⟩
          · exact ⟨place + 1, field, by simpa using found, nonzero,
              by rw [same, Nat.add_assoc, Nat.add_comm 1]⟩
      rw [tail, presentFields]
      by_cases omitted : entry data vtable head.1 = 0
      · rw [if_pos omitted, ih]
        simp [omitted]
      · rw [if_neg omitted, List.mem_cons, ih]
        simp [omitted]

/-- No two present fields have one index. -/
theorem presentFields_nodup (fields : List (ℕ × Format)) (index : ℕ) :
    ((presentFields data vtable index fields).map Field.index).Nodup := by
  induction fields generalizing index with
  | nil => exact List.nodup_nil
  | cons head rest ih =>
      rw [presentFields]
      split
      · exact ih (index + 1)
      · rw [List.map_cons, List.nodup_cons]
        refine ⟨fun member => ?_, ih (index + 1)⟩
        obtain ⟨present, found, same⟩ := List.mem_map.mp member
        obtain ⟨place, _, _, _, rfl⟩ := mem_presentFields.mp found
        simp only at same
        omega

/-- The slot of a vtable inside the buffer gives its entry. -/
theorem entryOffset_eq {length slot : ℕ} (low : 0 ≤ vtable) (known : length = unsignedAt data vtable 2)
    (room : slot < length → vtable + slot + 2 ≤ data.length) :
    entryOffset data vtable length slot = .ok (entry data vtable slot) := by
  unfold entryOffset entry
  rw [← known]
  by_cases inside : slot < length
  · have fits := room inside
    rw [if_pos inside, if_pos inside, unpackUnsigned_inside (by omega) (by simpa using fits)]
    rfl
  · rw [if_neg inside, if_neg inside]

/-- The first loop collects the present fields and raises when one lies outside the table. -/
theorem scalarFields_yields {length objectSize : ℕ} {fields : List (ℕ × Format)} {index : ℕ}
    (low : 0 ≤ vtable) (known : length = unsignedAt data vtable 2)
    (room : ∀ field ∈ fields, field.1 < length → vtable + field.1 + 2 ≤ data.length) :
    Yields Fault.IsValueError (fun found => found = presentFields data vtable index fields ∧
        ∀ present ∈ found, 4 ≤ present.offset ∧ present.offset + present.format.width ≤ objectSize)
      (scalarFields data vtable length objectSize index fields) := by
  induction fields generalizing index with
  | nil => exact ⟨rfl, by simp⟩
  | cons head rest ih =>
      obtain ⟨slot, format⟩ := head
      have others := @ih (index + 1) fun field member => room field (List.mem_cons_of_mem _ member)
      have offset : entryOffset data vtable length slot = .ok (entry data vtable slot) :=
        entryOffset_eq low known (room (slot, format) List.mem_cons_self)
      rw [scalarFields, offset, presentFields]
      change Yields _ _ (if entry data vtable slot = 0 then _ else _)
      by_cases omitted : entry data vtable slot = 0
      · rw [if_pos omitted, if_pos omitted]
        exact others
      · rw [if_neg omitted, if_neg omitted]
        refine Yields.check (fun _ => trivial) fun within => ?_
        refine others.bind fun found _ held => ?_
        rw [not_or] at within
        refine ⟨congrArg (_ :: ·) held.1, fun present member => ?_⟩
        rcases List.mem_cons.mp member with rfl | member
        · simp only
          omega
        · exact held.2 present member

/-- The codes and indices that the second loop adds for a list of fields. -/
structure Laid (fields : List Field) (ordinal : ℕ) (codes : List Code) (indices : List ℕ)
    (laid : List Code × List ℕ) : Prop where
  values : ∀ (data : List UInt8) (start : ℕ), unpack laid.1 data start =
    unpack codes data start ++ fields.map fun field => field.format.read data (start + field.offset : ℕ)
  size : ∀ bound, calcsize codes ≤ bound →
    (∀ field ∈ fields, field.offset + field.format.width ≤ bound) → calcsize laid.1 ≤ bound
  placed : ∀ (place : ℕ) field, fields[place]? = some field → field.index < indices.length →
    laid.2[field.index]? = some (ordinal + place)
  kept : ∀ index, (∀ field ∈ fields, field.index ≠ index) → laid.2[index]? = indices[index]?

/-- The padding brings a value to its offset. -/
theorem unpack_padded (codes : List Code) (field : Field) (data : List UInt8) (start : ℕ)
    (cursor : calcsize codes ≤ field.offset) :
    unpack (codes ++ (if calcsize codes < field.offset then [.pad (field.offset - calcsize codes)] else []) ++
        [.value field.format]) data start =
      unpack codes data start ++ [field.format.read data (start + field.offset : ℕ)] := by
  rw [List.append_assoc, unpack_append]
  by_cases gap : calcsize codes < field.offset
  · rw [if_pos gap]
    have place : start + calcsize codes + (field.offset - calcsize codes) = start + field.offset := by omega
    simp only [List.cons_append, List.nil_append, unpack, place]
  · rw [if_neg gap]
    have place : start + calcsize codes = start + field.offset := by omega
    simp only [List.nil_append, unpack, place]

theorem calcsize_padded (codes : List Code) (field : Field) (cursor : calcsize codes ≤ field.offset) :
    calcsize (codes ++ (if calcsize codes < field.offset then [.pad (field.offset - calcsize codes)] else []) ++
      [.value field.format]) = field.offset + field.format.width := by
  by_cases gap : calcsize codes < field.offset
  · simp only [if_pos gap, calcsize_append, calcsize_cons, calcsize_nil, Code.width]
    omega
  · simp only [if_neg gap, calcsize_append, calcsize_cons, calcsize_nil, Code.width]
    omega

/-- The second loop lays its fields out or raises when two of them overlap. -/
theorem layout_yields {fields : List Field} {ordinal : ℕ} {codes : List Code} {indices : List ℕ}
    (distinct : (fields.map Field.index).Nodup) :
    Yields Fault.IsValueError (Laid fields ordinal codes indices)
      (layout fields (calcsize codes) ordinal codes indices) := by
  induction fields generalizing ordinal codes indices with
  | nil =>
      exact ⟨by simp, fun bound within _ => within, by simp, fun _ _ => rfl⟩
  | cons head rest ih =>
      rw [List.map_cons, List.nodup_cons] at distinct
      rw [layout]
      refine Yields.check (fun _ => trivial) fun cursor => ?_
      rw [not_lt] at cursor
      have next := @ih (ordinal + 1) (codes ++ (if calcsize codes < head.offset then
          [.pad (head.offset - calcsize codes)] else []) ++ [.value head.format])
        (indices.set head.index ordinal) distinct.2
      rw [calcsize_padded codes head cursor] at next
      refine next.weaken fun laid held => ⟨fun data start => ?_, fun bound within fits => ?_, ?_, ?_⟩
      · rw [held.values, unpack_padded codes head data start cursor, List.append_assoc]
        rfl
      · refine held.size bound ?_ fun field member => fits field (List.mem_cons_of_mem _ member)
        rw [calcsize_padded codes head cursor]
        exact fits head List.mem_cons_self
      · intro place field found inside
        cases place with
        | zero =>
            obtain rfl : head = field := by simpa using found
            have others : ∀ field ∈ rest, field.index ≠ head.index := fun field member same =>
              distinct.1 (List.mem_map.mpr ⟨field, member, same⟩)
            rw [held.kept _ others, List.getElem?_set_self inside, Nat.add_zero]
        | succ place =>
            rw [held.placed place field (by simpa using found) (by simpa using inside)]
            congr 1
            omega
      · intro index others
        rw [held.kept index fun field member => others field (List.mem_cons_of_mem _ member)]
        exact List.getElem?_set_ne (others head List.mem_cons_self)

/-- Sorted fields that do not overlap are laid out. -/
theorem layout_total {fields : List Field} {cursor ordinal : ℕ} {codes : List Code} {indices : List ℕ}
    (sorted : fields.Pairwise Field.Before) (wide : ∀ field ∈ fields, 0 < field.format.width)
    (apart : fields.Pairwise fun first second => first.offset + first.format.width ≤ second.offset ∨
      second.offset + second.format.width ≤ first.offset)
    (after : ∀ field ∈ fields, cursor ≤ field.offset) :
    ∃ laid, layout fields cursor ordinal codes indices = .ok laid := by
  induction fields generalizing cursor ordinal codes indices with
  | nil => exact ⟨_, rfl⟩
  | cons head rest ih =>
      rw [List.pairwise_cons] at sorted apart
      have first := after head List.mem_cons_self
      rw [layout, if_neg (by omega)]
      refine ih sorted.2 (fun field member => wide field (List.mem_cons_of_mem _ member)) apart.2 ?_
      intro field member
      have order := sorted.1 field member
      have width := wide field (List.mem_cons_of_mem _ member)
      unfold Field.Before at order
      rcases apart.1 field member with behind | ahead
      · exact behind
      · omega

/-- A plan of a vtable unpacks a table to the projected fields. -/
structure PlanOf (data : List UInt8) (vtable : ℤ) (plan : Plan) : Prop where
  objectSize : plan.objectSize = unsignedAt data (vtable + 2) 2
  size : calcsize plan.codes ≤ plan.objectSize
  reads : ∀ (place : ℕ) (field : ℕ × Format), STATE_FIELDS[place]? = some field → ∀ start : ℕ, ∃ index,
    plan.indices[place]? = some index ∧ (unpack plan.codes data start ++ [zero])[index]? =
      some (if entry data vtable field.1 = 0 then zero
        else field.2.read data (start + entry data vtable field.1 : ℕ))

/-- The sorted present fields and the default index of the others make a plan. -/
theorem planOf_laid {objectSize : ℕ} {codes : List Code} {indices : List ℕ}
    (within : ∀ present ∈ presentFields data vtable 0 STATE_FIELDS,
      present.offset + present.format.width ≤ objectSize)
    (laid : Laid ((presentFields data vtable 0 STATE_FIELDS).insertionSort Field.Before) 0 []
      (List.replicate STATE_FIELDS.length (presentFields data vtable 0 STATE_FIELDS).length) (codes, indices))
    (known : objectSize = unsignedAt data (vtable + 2) 2) :
    PlanOf data vtable ⟨codes, indices, objectSize⟩ := by
  have sorted := List.perm_insertionSort Field.Before (presentFields data vtable 0 STATE_FIELDS)
  generalize (presentFields data vtable 0 STATE_FIELDS).insertionSort Field.Before = fields at laid sorted
  refine ⟨known, laid.size objectSize (Nat.zero_le _) fun field member =>
    within field (sorted.mem_iff.mp member), fun place field found start => ?_⟩
  have inside : place < STATE_FIELDS.length := (List.getElem?_eq_some_iff.mp found).1
  rw [laid.values data start]
  by_cases omitted : entry data vtable field.1 = 0
  · have absent : ∀ other ∈ fields, other.index ≠ place := by
      intro other member same
      obtain ⟨at', field', found', nonzero, rfl⟩ := mem_presentFields.mp (sorted.mem_iff.mp member)
      simp only [Nat.zero_add] at same
      obtain rfl := Option.some.inj ((same ▸ found').symm.trans found)
      exact nonzero omitted
    refine ⟨(presentFields data vtable 0 STATE_FIELDS).length, ?_, ?_⟩
    · rw [laid.kept place absent, List.getElem?_replicate, if_pos inside]
    · rw [if_pos omitted, ← sorted.length_eq]
      simp [unpack]
  · have member : ⟨entry data vtable field.1, place, field.2⟩ ∈ fields :=
      sorted.mem_iff.mpr (mem_presentFields.mpr ⟨place, field, found, omitted, by rw [Nat.zero_add]⟩)
    obtain ⟨position, at', same⟩ := List.getElem_of_mem member
    have here : fields[position]? = some ⟨entry data vtable field.1, place, field.2⟩ := by
      rw [List.getElem?_eq_getElem at', same]
    refine ⟨position, ?_, ?_⟩
    · simpa using laid.placed position _ here (by simpa using inside)
    · rw [if_neg omitted, List.getElem?_append_left (by simpa [unpack] using at')]
      simp [unpack, here]

/-- A vtable lies in the buffer, is well formed and keeps the projected fields apart and inside. -/
structure ValidVtable (data : List UInt8) (vtable : ℤ) : Prop where
  low : 0 ≤ vtable
  even : 4 ≤ unsignedAt data vtable 2 ∧ unsignedAt data vtable 2 % 2 = 0
  object : 4 ≤ unsignedAt data (vtable + 2) 2
  inside : vtable + unsignedAt data vtable 2 ≤ data.length
  scalars : ∀ field ∈ STATE_FIELDS, entry data vtable field.1 ≠ 0 → 4 ≤ entry data vtable field.1 ∧
    entry data vtable field.1 + field.2.width ≤ unsignedAt data (vtable + 2) 2
  apart : STATE_FIELDS.Pairwise fun first second =>
    entry data vtable first.1 ≠ 0 → entry data vtable second.1 ≠ 0 →
    entry data vtable first.1 + first.2.width ≤ entry data vtable second.1 ∨
      entry data vtable second.1 + second.2.width ≤ entry data vtable first.1

/-- Two different present fields lie apart, whichever comes first in the schema. -/
theorem ValidVtable.separate (valid : ValidVtable data vtable) {place other : ℕ} {first second : ℕ × Format}
    (found : STATE_FIELDS[place]? = some first) (found' : STATE_FIELDS[other]? = some second)
    (differ : place ≠ other) (nonzero : entry data vtable first.1 ≠ 0)
    (nonzero' : entry data vtable second.1 ≠ 0) :
    entry data vtable first.1 + first.2.width ≤ entry data vtable second.1 ∨
      entry data vtable second.1 + second.2.width ≤ entry data vtable first.1 := by
  obtain ⟨inside, rfl⟩ := List.getElem?_eq_some_iff.mp found
  obtain ⟨inside', rfl⟩ := List.getElem?_eq_some_iff.mp found'
  have apart := List.pairwise_iff_getElem.mp valid.apart
  rcases Nat.lt_or_gt_of_ne differ with before | after
  · exact apart place other inside inside' before nonzero nonzero'
  · exact (apart other place inside' inside after nonzero' nonzero).symm

/-- The vtable header is read once, in the bounds checked before. -/
theorem header_read (low : 0 ≤ vtable) (high : vtable + 4 ≤ data.length) :
    locate 4 data.length vtable = some vtable.toNat := locate_inside low high

theorem stateFields_even : ∀ field ∈ STATE_FIELDS, field.1 % 2 = 0 ∧ 0 < field.2.width := by decide

/-- A slot of an even vtable lies inside it. -/
theorem slot_room {length : ℕ} (even : length % 2 = 0) (inside : vtable + length ≤ data.length) :
    ∀ field ∈ STATE_FIELDS, field.1 < length → vtable + field.1 + 2 ≤ data.length := by
  intro field member below
  have slot := (stateFields_even field member).1
  omega

theorem statePlan_yields : Yields Fault.IsValueError (PlanOf data vtable) (statePlan data vtable) := by
  unfold statePlan
  refine checkBounds_yields.bind fun _ _ bounds => ?_
  rw [header_read bounds.1 (by omega)]
  change Yields _ _ (if _ then _ else _)
  have low := Int.toNat_of_nonneg bounds.1
  refine Yields.check (fun _ => trivial) fun valid => ?_
  refine checkBounds_yields.bind fun _ _ inside => ?_
  rw [low] at valid inside ⊢
  refine (scalarFields_yields bounds.1 rfl (slot_room (by omega) inside.2.2)).bind fun fields _ held => ?_
  obtain ⟨rfl, within⟩ := held
  have sorted := List.perm_insertionSort Field.Before (presentFields data vtable 0 STATE_FIELDS)
  have distinct : (((presentFields data vtable 0 STATE_FIELDS).insertionSort Field.Before).map
      Field.index).Nodup := (sorted.map Field.index).nodup_iff.mpr (presentFields_nodup STATE_FIELDS 0)
  refine (@layout_yields _ 0 [] _ distinct).bind fun laid _ held => ?_
  obtain ⟨codes, indices⟩ := laid
  exact planOf_laid (fun present member => (within present member).2) held rfl

theorem scalarFields_ok {length objectSize : ℕ} {fields : List (ℕ × Format)} {index : ℕ}
    (low : 0 ≤ vtable) (known : length = unsignedAt data vtable 2)
    (room : ∀ field ∈ fields, field.1 < length → vtable + field.1 + 2 ≤ data.length)
    (scalars : ∀ field ∈ fields, entry data vtable field.1 ≠ 0 → 4 ≤ entry data vtable field.1 ∧
      entry data vtable field.1 + field.2.width ≤ objectSize) :
    scalarFields data vtable length objectSize index fields =
      .ok (presentFields data vtable index fields) := by
  induction fields generalizing index with
  | nil => rfl
  | cons head rest ih =>
      have others := @ih (index + 1) (fun field member => room field (List.mem_cons_of_mem _ member))
        fun field member => scalars field (List.mem_cons_of_mem _ member)
      rw [scalarFields, entryOffset_eq low known (room head List.mem_cons_self), presentFields]
      change (if entry data vtable head.1 = 0 then _ else _) = _
      by_cases omitted : entry data vtable head.1 = 0
      · rw [if_pos omitted, if_pos omitted, others]
      · have fits := scalars head List.mem_cons_self omitted
        rw [if_neg omitted, if_neg omitted, if_neg (by omega), others]
        rfl

instance : Std.Total Field.Before := ⟨fun first second => by unfold Field.Before; omega⟩

instance : IsTrans Field Field.Before := ⟨fun first second third => by unfold Field.Before; omega⟩

/-- The plan of a valid vtable exists. -/
theorem statePlan_ok (valid : ValidVtable data vtable) : ∃ plan, statePlan data vtable = .ok plan := by
  have low := Int.toNat_of_nonneg valid.low
  have length := valid.even.1
  have inside := valid.inside
  have room := slot_room valid.even.2 inside
  have sorted := List.perm_insertionSort Field.Before (presentFields data vtable 0 STATE_FIELDS)
  have order := List.pairwise_insertionSort Field.Before (presentFields data vtable 0 STATE_FIELDS)
  have present {field : Field} (member : field ∈ (presentFields data vtable 0 STATE_FIELDS).insertionSort
      Field.Before) := mem_presentFields.mp (sorted.mem_iff.mp member)
  have distinct : ((presentFields data vtable 0 STATE_FIELDS).insertionSort Field.Before).Pairwise
      fun first second => first.index ≠ second.index :=
    List.pairwise_map.mp ((sorted.map Field.index).nodup_iff.mpr (presentFields_nodup STATE_FIELDS 0))
  have apart : ((presentFields data vtable 0 STATE_FIELDS).insertionSort Field.Before).Pairwise
      fun first second => first.offset + first.format.width ≤ second.offset ∨
        second.offset + second.format.width ≤ first.offset := by
    refine distinct.imp_of_mem fun {first second} member other differ => ?_
    obtain ⟨place, field, found, nonzero, rfl⟩ := present member
    obtain ⟨place', field', found', nonzero', rfl⟩ := present other
    simp only [Nat.zero_add] at differ
    exact valid.separate found found' differ nonzero nonzero'
  have wide : ∀ field ∈ (presentFields data vtable 0 STATE_FIELDS).insertionSort Field.Before,
      0 < field.format.width := by
    intro field member
    obtain ⟨place, named, found, _, rfl⟩ := present member
    exact (stateFields_even named (List.mem_of_getElem? found)).2
  obtain ⟨laid, done⟩ := @layout_total _ 0 0 [] (List.replicate STATE_FIELDS.length
    (presentFields data vtable 0 STATE_FIELDS).length) order wide apart fun _ _ => Nat.zero_le _
  refine ⟨⟨laid.1, laid.2, unsignedAt data (vtable + 2) 2⟩, ?_⟩
  unfold statePlan
  rw [checkBounds_ok valid.low (by decide) (by omega), header_read valid.low (by omega)]
  change (if _ then _ else _) = _
  rw [low, if_neg (by have := valid.even.2; have := valid.object; omega),
    checkBounds_ok valid.low (by omega) inside]
  change (scalarFields data vtable _ _ 0 STATE_FIELDS >>= _) = _
  rw [scalarFields_ok valid.low rfl room valid.scalars]
  change (layout _ 0 0 [] _ >>= _) = _
  rw [done]
  rfl

end HumanoidSdk.Codec
