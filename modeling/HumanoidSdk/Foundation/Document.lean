import Mathlib.Data.List.Basic

namespace HumanoidSdk.Foundation

universe u v

/-- A document of lists and dictionaries over scalar leaves. -/
inductive Document (Leaf : Type u) where
  | leaf (value : Leaf)
  | list (items : List (Document Leaf))
  | dict (entries : List (String × Document Leaf))

/-- A step from a document into one of its parts. -/
inductive Place where
  | index (position : ℕ)
  | key (name : String)
  deriving DecidableEq

variable {Leaf : Type u} {Image : Type v}

namespace Document

mutual

/-- The leaves from left to right. -/
def leaves : Document Leaf → List Leaf
  | .leaf value => [value]
  | .list items => leavesOfItems items
  | .dict entries => leavesOfEntries entries

def leavesOfItems : List (Document Leaf) → List Leaf
  | [] => []
  | item :: rest => item.leaves ++ leavesOfItems rest

def leavesOfEntries : List (String × Document Leaf) → List Leaf
  | [] => []
  | (_, item) :: rest => item.leaves ++ leavesOfEntries rest

end

mutual

/-- The document of the same shape with other leaves. -/
def map (change : Leaf → Image) : Document Leaf → Document Image
  | .leaf value => .leaf (change value)
  | .list items => .list (mapItems change items)
  | .dict entries => .dict (mapEntries change entries)

def mapItems (change : Leaf → Image) : List (Document Leaf) → List (Document Image)
  | [] => []
  | item :: rest => item.map change :: mapItems change rest

def mapEntries (change : Leaf → Image) : List (String × Document Leaf) → List (String × Document Image)
  | [] => []
  | (name, item) :: rest => (name, item.map change) :: mapEntries change rest

end

/-- The part of a document at the end of a path. -/
def part : Document Leaf → List Place → Option (Document Leaf)
  | document, [] => some document
  | .list items, .index position :: rest => items[position]?.bind fun item => item.part rest
  | .dict entries, .key name :: rest => (entries.lookup name).bind fun item => item.part rest
  | _, _ :: _ => none

/-- The assignment of a value to a name of a dictionary, which keeps the place of a known name. -/
def assign {Value : Type v} (name : String) (value : Value) : List (String × Value) → List (String × Value)
  | [] => [(name, value)]
  | (known, old) :: rest =>
      if known = name then (known, value) :: rest else (known, old) :: assign name value rest

/-- A property of all trees follows from the leaves, from the items of lists and from the entries of
dictionaries. -/
@[elab_as_elim, induction_eliminator]
theorem induction {motive : Document Leaf → Prop} (leaf : ∀ value, motive (.leaf value))
    (list : ∀ items, (∀ item ∈ items, motive item) → motive (.list items))
    (dict : ∀ entries, (∀ entry ∈ entries, motive entry.2) → motive (.dict entries)) (document : Document Leaf) :
    motive document := by
  refine @Document.rec Leaf motive (fun items => ∀ item ∈ items, motive item)
    (fun entries => ∀ entry ∈ entries, motive entry.2) (fun entry => motive entry.2)
    ?_ ?_ ?_ ?_ ?_ ?_ ?_ ?_ document
  · exact leaf
  · exact list
  · exact dict
  · exact fun item member => absurd member List.not_mem_nil
  · exact fun item rest head tail => List.forall_mem_cons.mpr ⟨head, tail⟩
  · exact fun entry member => absurd member List.not_mem_nil
  · exact fun entry rest head tail => List.forall_mem_cons.mpr ⟨head, tail⟩
  · exact fun name item held => held

section Assignments

variable {Value : Type v} {name other : String} {value : Value}

theorem lookup_assign_same (entries : List (String × Value)) :
    (assign name value entries).lookup name = some value := by
  induction entries with
  | nil => rw [assign, List.lookup_cons_self]
  | cons entry rest ih =>
      obtain ⟨known, old⟩ := entry
      rw [assign]
      split
      · rename_i same
        rw [same, List.lookup_cons_self]
      · rename_i different
        rw [List.lookup_cons, beq_false_of_ne fun same => different same.symm]
        exact ih

theorem lookup_assign_other (different : other ≠ name) (entries : List (String × Value)) :
    (assign name value entries).lookup other = entries.lookup other := by
  induction entries with
  | nil => rw [assign, List.lookup_cons, beq_false_of_ne different]
  | cons entry rest ih =>
      obtain ⟨known, old⟩ := entry
      rw [assign]
      split
      · rename_i same
        rw [List.lookup_cons, List.lookup_cons, same, beq_false_of_ne different]
      · rw [List.lookup_cons, List.lookup_cons, ih]

/-- An entry after an assignment is the new one or an old one. -/
theorem mem_assign {entry : String × Value} {entries : List (String × Value)}
    (member : entry ∈ assign name value entries) : entry = (name, value) ∨ entry ∈ entries := by
  induction entries with
  | nil => exact .inl (List.mem_singleton.mp member)
  | cons first rest ih =>
      obtain ⟨known, old⟩ := first
      rw [assign] at member
      split at member
      · rename_i same
        rcases List.mem_cons.mp member with new | kept
        · exact .inl (same ▸ new)
        · exact .inr (List.mem_cons_of_mem _ kept)
      · rcases List.mem_cons.mp member with kept | later
        · exact .inr (kept ▸ List.mem_cons_self)
        · exact (ih later).imp_right (List.mem_cons_of_mem _)

end Assignments

section Maps

variable (change : Leaf → Image)

theorem mapItems_eq (items : List (Document Leaf)) : mapItems change items = items.map (map change) := by
  induction items with
  | nil => rfl
  | cons item rest ih => rw [mapItems, ih, List.map_cons]

theorem mapEntries_eq (entries : List (String × Document Leaf)) :
    mapEntries change entries = entries.map fun entry => (entry.1, entry.2.map change) := by
  induction entries with
  | nil => rfl
  | cons entry rest ih => rw [mapEntries, ih, List.map_cons]

theorem leavesOfItems_eq (items : List (Document Leaf)) : leavesOfItems items = items.flatMap leaves := by
  induction items with
  | nil => rfl
  | cons item rest ih => rw [leavesOfItems, ih, List.flatMap_cons]

theorem leavesOfEntries_eq (entries : List (String × Document Leaf)) :
    leavesOfEntries entries = entries.flatMap fun entry => entry.2.leaves := by
  induction entries with
  | nil => rfl
  | cons entry rest ih => rw [leavesOfEntries, ih, List.flatMap_cons]

theorem leaves_map (document : Document Leaf) : (document.map change).leaves = document.leaves.map change := by
  induction document with
  | leaf value => rfl
  | list items ih =>
      rw [map, leaves, leaves, mapItems_eq, leavesOfItems_eq, leavesOfItems_eq, List.map_flatMap, List.flatMap_map]
      exact List.flatMap_congr ih
  | dict entries ih =>
      rw [map, leaves, leaves, mapEntries_eq, leavesOfEntries_eq, leavesOfEntries_eq, List.map_flatMap,
        List.flatMap_map]
      exact List.flatMap_congr ih

theorem lookup_mapEntries (name : String) (entries : List (String × Document Leaf)) :
    (mapEntries change entries).lookup name = (entries.lookup name).map (map change) := by
  induction entries with
  | nil => rfl
  | cons entry rest ih =>
      rw [mapEntries, List.lookup_cons, List.lookup_cons, ih]
      split <;> rfl

/-- Every part of the image is the image of the part. -/
theorem part_map (document : Document Leaf) (path : List Place) :
    (document.map change).part path = (document.part path).map (map change) := by
  induction path generalizing document with
  | nil =>
      rw [part, part]
      rfl
  | cons place rest ih =>
      cases document with
      | leaf value => cases place <;> rfl
      | list items =>
          cases place with
          | key name => rfl
          | index position =>
              rw [map, part, part, mapItems_eq, List.getElem?_map, Option.bind_map, Option.map_bind]
              exact Option.bind_congr fun item _ => ih item
      | dict entries =>
          cases place with
          | index position => rfl
          | key name =>
              rw [map, part, part, lookup_mapEntries, Option.bind_map, Option.map_bind]
              exact Option.bind_congr fun item _ => ih item

end Maps

theorem list_map_fixed {Item : Type*} {change : Item → Item} {items : List Item} :
    items.map change = items ↔ ∀ item ∈ items, change item = item := by
  have same := List.map_inj_left (l := items) (f := change) (g := id)
  rwa [List.map_id] at same

/-- A document stays as it is if and only if its leaves do. -/
theorem map_eq_self_iff (change : Leaf → Leaf) (document : Document Leaf) :
    document.map change = document ↔ ∀ value ∈ document.leaves, change value = value := by
  induction document with
  | leaf value => simp [map, leaves]
  | list items ih =>
      rw [map, leaves, mapItems_eq, leavesOfItems_eq, Document.list.injEq, list_map_fixed]
      simp only [List.mem_flatMap]
      constructor
      · intro same value ⟨item, member, inside⟩
        exact (ih item member).mp (same item member) value inside
      · exact fun same item member => (ih item member).mpr fun value inside => same value ⟨item, member, inside⟩
  | dict entries ih =>
      rw [map, leaves, mapEntries_eq, leavesOfEntries_eq, Document.dict.injEq, list_map_fixed]
      simp only [List.mem_flatMap]
      constructor
      · intro same value ⟨entry, member, inside⟩
        exact (ih entry member).mp (congrArg Prod.snd (same entry member)) value inside
      · intro same entry member
        have kept := (ih entry member).mpr fun value inside => same value ⟨entry, member, inside⟩
        rw [kept]

end Document

end HumanoidSdk.Foundation
