import Mathlib.Data.List.Forall2

namespace HumanoidSdk.Foundation

universe u v

variable {Error : Type u} {Value Result : Type v}

/-- A computation ends in an error of one kind or in a value of another. -/
def Yields (bad : Error → Prop) (good : Value → Prop) : Except Error Value → Prop
  | .error error => bad error
  | .ok value => good value

namespace Yields

variable {bad : Error → Prop} {good middle : Value → Prop} {final : Result → Prop}

@[simp] theorem ok_iff {value : Value} : Yields bad good (.ok value) ↔ good value := Iff.rfl

@[simp] theorem error_iff {error : Error} : Yields bad good (.error error) ↔ bad error := Iff.rfl

/-- The continuation runs on what the first computation yields. -/
theorem bind {computation : Except Error Value} {rest : Value → Except Error Result}
    (first : Yields bad middle computation)
    (second : ∀ value, computation = .ok value → middle value → Yields bad final (rest value)) :
    Yields bad final (computation >>= rest) := by
  cases computation with
  | error error => exact first
  | ok value => exact second value rfl first

/-- A check raises its error or lets the rest run. -/
theorem check {failing : Prop} [Decidable failing] {error : Error} {rest : Except Error Value}
    (raised : failing → bad error) (passed : ¬failing → Yields bad good rest) :
    Yields bad good (if failing then .error error else rest) := by
  by_cases fails : failing
  · rw [if_pos fails]
    exact raised fails
  · rw [if_neg fails]
    exact passed fails

theorem weaken {computation : Except Error Value} (held : Yields bad middle computation)
    (implies : ∀ value, middle value → good value) : Yields bad good computation := by
  cases computation with
  | error error => exact held
  | ok value => exact implies value held

/-- A known result has the properties of every yielded value. -/
theorem value {computation : Except Error Value} {value : Value} (held : Yields bad good computation)
    (known : computation = .ok value) : good value := by
  rw [known] at held
  exact held

/-- Nothing is known about an arbitrary computation. -/
theorem any {computation : Except Error Value} : Yields (fun _ => True) (fun _ => True) computation := by
  cases computation with
  | error error => exact trivial
  | ok value => exact trivial

end Yields

/-- A sequence of two computations succeeds when both do. -/
theorem bind_eq_ok {computation : Except Error Value} {rest : Value → Except Error Result} {result : Result} :
    computation >>= rest = .ok result ↔ ∃ value, computation = .ok value ∧ rest value = .ok result := by
  cases computation with
  | error error =>
      constructor
      · rintro ⟨⟩
      · rintro ⟨_, ⟨⟩, _⟩
  | ok value =>
      constructor
      · intro done
        exact ⟨value, rfl, done⟩
      · rintro ⟨_, ⟨⟩, done⟩
        exact done

/-- A list of computations has the values that they have one by one. -/
theorem mapM_ok_iff {Item : Type*} {step : Item → Except Error Value} {items : List Item}
    {values : List Value} :
    items.mapM step = .ok values ↔ List.Forall₂ (fun item value => step item = .ok value) items values := by
  induction items generalizing values with
  | nil =>
      rw [List.forall₂_nil_left_iff]
      exact ⟨fun same => (Except.ok.inj same).symm, fun same => congrArg Except.ok same.symm⟩
  | cons item rest ih =>
      rw [List.mapM_cons, bind_eq_ok, List.forall₂_cons_left_iff]
      constructor
      · rintro ⟨value, head, done⟩
        obtain ⟨others, tail, same⟩ := bind_eq_ok.mp done
        exact ⟨value, others, head, ih.mp tail, (Except.ok.inj same).symm⟩
      · rintro ⟨value, others, head, tail, rfl⟩
        refine ⟨value, head, ?_⟩
        rw [ih.mpr tail]
        rfl

/-- Computations that all succeed have values with the properties of each. -/
theorem mapM_exists {Item : Type*} {step : Item → Except Error Value} {holds : Item → Value → Prop}
    {items : List Item} (each : ∀ item ∈ items, ∃ value, step item = .ok value ∧ holds item value) :
    ∃ values, items.mapM step = .ok values ∧ List.Forall₂ holds items values := by
  induction items with
  | nil => exact ⟨[], rfl, List.Forall₂.nil⟩
  | cons item rest ih =>
      obtain ⟨value, head, held⟩ := each item List.mem_cons_self
      obtain ⟨values, tail, others⟩ := ih fun other member => each other (List.mem_cons_of_mem _ member)
      refine ⟨value :: values, ?_, List.Forall₂.cons held others⟩
      rw [List.mapM_cons, head, tail]
      rfl

/-- A change of each value changes the list of values. -/
theorem mapM_map_values {Item Changed : Type*} (step : Item → Except Error Value) (change : Value → Changed)
    (items : List Item) :
    items.mapM (fun item => (step item).map change) = (items.mapM step).map (List.map change) := by
  induction items with
  | nil => rfl
  | cons item rest ih =>
      rw [List.mapM_cons, List.mapM_cons, ih]
      cases step item with
      | error error => rfl
      | ok value =>
          cases rest.mapM step with
          | error error => rfl
          | ok values => rfl

/-- A property of every row determines a column. -/
theorem column_of_rows {Item Value Cell : Type*} {holds : Item → Value → Prop} {items : List Item}
    {values : List Value} {column : List Cell} {field : Value → Cell} (rows : List.Forall₂ holds items values)
    (count : column.length = items.length)
    (cell : ∀ (index : ℕ) item value, items[index]? = some item → holds item value →
      column[index]? = some (field value)) : values.map field = column := by
  refine List.ext_getElem? fun index => ?_
  rw [List.getElem?_map]
  obtain ⟨same, each⟩ := List.forall₂_iff_get.mp rows
  by_cases inside : index < values.length
  · have held := each index (by omega) inside
    rw [cell index _ _ (List.getElem?_eq_getElem (by omega)) held, List.getElem?_eq_getElem inside]
    rfl
  · rw [List.getElem?_eq_none (by omega), List.getElem?_eq_none (by omega)]
    rfl

end HumanoidSdk.Foundation
