import HumanoidSdk.Foundation.Clocked
import HumanoidSdk.Foundation.Precondition
import Mathlib.Data.List.Count
import Mathlib.Order.Lattice

namespace HumanoidSdk.Foundation

/-- What a tenant does with a resource. It enters, checks its grant, computes results from sources,
publishes products of them and exits. A source may be sighted before the entry. -/
inductive Act (Grant Source Result Product Time : Type*)
  | sighted (source : Source)
  | entering
  | entered (grant : Grant)
  | checked (reading : Option Grant)
  | computed (source : Source) (result : Result)
  | published (source : Source) (product : Product) (time : Time)
  | exiting
  deriving DecidableEq

/-- The order of the sources, when a reading still agrees with a grant, and how a product is built. -/
structure Terms (Grant Source Result Product : Type*) where
  rank : Source → ℤ
  owns : Grant → Grant → Prop
  build : Result → Source → Product

variable {Grant Source Result Product Time : Type*}

namespace Act

def isEntering : Act Grant Source Result Product Time → Bool
  | .entering => true
  | _ => false

def isExiting : Act Grant Source Result Product Time → Bool
  | .exiting => true
  | _ => false

/-- The time of a publication. -/
def publication : Act Grant Source Result Product Time → Option Time
  | .published _ _ time => some time
  | _ => none

end Act

def entries (log : List (Act Grant Source Result Product Time)) : ℕ := log.countP Act.isEntering

def exits (log : List (Act Grant Source Result Product Time)) : ℕ := log.countP Act.isExiting

@[simp] theorem entries_append (log acts : List (Act Grant Source Result Product Time)) :
    entries (log ++ acts) = entries log + entries acts := List.countP_append

@[simp] theorem exits_append (log acts : List (Act Grant Source Result Product Time)) :
    exits (log ++ acts) = exits log + exits acts := List.countP_append

namespace Terms

variable (terms : Terms Grant Source Result Product)

/-- The rank of a source that was sighted or published from. -/
def rankOf : Act Grant Source Result Product Time → Option ℤ
  | .sighted source | .published source _ _ => some (terms.rank source)
  | _ => none

/-- The ranks of all sources that were sighted or published from. -/
def ranks (log : List (Act Grant Source Result Product Time)) : List ℤ := log.filterMap terms.rankOf

theorem ranks_append (log acts : List (Act Grant Source Result Product Time)) :
    terms.ranks (log ++ acts) = terms.ranks log ++ terms.ranks acts := List.filterMap_append

/-- A sight comes first. A publication comes within the tenure, right after a check that agrees with the
grant, and its product is built from a source that is newer than all earlier ones. -/
def Proper (log : List (Act Grant Source Result Product Time)) : Act Grant Source Result Product Time → Prop
  | .entering => entries log = 0
  | .entered _ => entries log = 1 ∧ exits log = 0 ∧ ∀ grant, .entered grant ∉ log
  | .published source product _ =>
      entries log = 1 ∧ exits log = 0 ∧ (∀ rank ∈ terms.ranks log, rank < terms.rank source) ∧
        ∃ past grant reading result, log = past ++ [.computed source result, .checked (some reading)] ∧
          .entered grant ∈ past ∧ terms.owns reading grant ∧ product = terms.build result source
  | .exiting => entries log = 1 ∧ exits log = 0
  | .sighted _ => log = []
  | .checked _ | .computed _ _ => True

end Terms

/-- Where a tenant stands. The floor bounds the ranks of the sources so far. -/
inductive Tenure (Grant Source Result : Type*)
  | fresh
  | outside (floor : ℤ)
  | entering (floor : ℤ)
  | holding (grant : Grant) (floor : ℤ)
  | working (grant : Grant) (source : Source)
  | ready (grant : Grant) (source : Source) (result : Result)
  | confirmed (grant : Grant) (source : Source) (result : Result)
  | leaving
  | released
  | declined

namespace Tenure

/-- The tenant has entered and has not exited. -/
def Inside : Tenure Grant Source Result → Prop
  | .entering _ | .holding _ _ | .working _ _ | .ready _ _ _ | .confirmed _ _ _ => True
  | _ => False

/-- What a step of a tenant does, with its acts. -/
inductive Step (terms : Terms Grant Source Result Product) (now : Time) :
    Tenure Grant Source Result → List (Act Grant Source Result Product Time) → Tenure Grant Source Result → Prop
  | stay (tenure : Tenure Grant Source Result) : Step terms now tenure [] tenure
  | sight (source : Source) : Step terms now .fresh [.sighted source] (.outside (terms.rank source))
  | refuse : Step terms now .fresh [] .declined
  | decline (floor : ℤ) : Step terms now (.outside floor) [] .declined
  | enter (floor : ℤ) : Step terms now (.outside floor) [.entering] (.entering floor)
  | grant (grant : Grant) (floor : ℤ) : Step terms now (.entering floor) [.entered grant] (.holding grant floor)
  | deny (grant : Grant) (floor : ℤ) : Step terms now (.entering floor) [.entered grant] .leaving
  | check (reading : Option Grant) (grant : Grant) (floor : ℤ) :
      Step terms now (.holding grant floor) [.checked reading] (.holding grant floor)
  | adopt {grant : Grant} {floor : ℤ} {source : Source} (newer : floor < terms.rank source) :
      Step terms now (.holding grant floor) [] (.working grant source)
  | compute (grant : Grant) (source : Source) (result : Result) :
      Step terms now (.working grant source) [.computed source result] (.ready grant source result)
  | confirm {grant reading : Grant} {source : Source} {result : Result} (owned : terms.owns reading grant) :
      Step terms now (.ready grant source result) [.checked (some reading)] (.confirmed grant source result)
  | fail (reading : Option Grant) {tenure : Tenure Grant Source Result} (inside : tenure.Inside) :
      Step terms now tenure [.checked reading] .leaving
  | publish (grant : Grant) (source : Source) (result : Result) :
      Step terms now (.confirmed grant source result) [.published source (terms.build result source) now]
        (.holding grant (terms.rank source))
  | leave {tenure : Tenure Grant Source Result} (inside : tenure.Inside) : Step terms now tenure [] .leaving
  | release : Step terms now .leaving [.exiting] .released

section Holds

variable (terms : Terms Grant Source Result Product) (log : List (Act Grant Source Result Product Time))

/-- The tenant holds its grant and has sighted and published nothing that is newer than the floor. -/
structure Granted (grant : Grant) (floor : ℤ) : Prop where
  entered : entries log = 1
  inside : exits log = 0
  granted : .entered grant ∈ log
  below : ∀ rank ∈ terms.ranks log, rank ≤ floor

/-- What the acts so far say about the place of the tenant. -/
def Holds : Tenure Grant Source Result → Prop
  | .fresh => log = []
  | .outside floor => entries log = 0 ∧ exits log = 0 ∧ (∀ grant, .entered grant ∉ log) ∧
      ∀ rank ∈ terms.ranks log, rank ≤ floor
  | .entering floor => entries log = 1 ∧ exits log = 0 ∧ (∀ grant, .entered grant ∉ log) ∧
      ∀ rank ∈ terms.ranks log, rank ≤ floor
  | .holding grant floor => Granted terms log grant floor
  | .working grant source => ∃ floor < terms.rank source, Granted terms log grant floor
  | .ready grant source result => (∃ floor < terms.rank source, Granted terms log grant floor) ∧
      ∃ past, log = past ++ [.computed source result] ∧ .entered grant ∈ past
  | .confirmed grant source result => (∃ floor < terms.rank source, Granted terms log grant floor) ∧
      ∃ past reading, log = past ++ [.computed source result, .checked (some reading)] ∧
        .entered grant ∈ past ∧ terms.owns reading grant
  | .leaving => entries log = 1 ∧ exits log = 0
  | .released => entries log = 1 ∧ exits log = 1
  | .declined => entries log = 0 ∧ exits log = 0

end Holds

variable {terms : Terms Grant Source Result Product} {log acts : List (Act Grant Source Result Product Time)}
  {tenure next : Tenure Grant Source Result} {now : Time}

/-- An act that is no entry, no exit, no sight and no publication. -/
theorem Granted.quiet {grant : Grant} {floor : ℤ} (granted : Granted terms log grant floor)
    (silent : entries acts = 0 ∧ exits acts = 0 ∧ terms.ranks acts = []) :
    Granted terms (log ++ acts) grant floor := by
  obtain ⟨noEntry, noExit, noRank⟩ := silent
  constructor
  · rw [entries_append, noEntry, granted.entered]
  · rw [exits_append, noExit, granted.inside]
  · exact List.mem_append_left acts granted.granted
  · rw [terms.ranks_append, noRank, List.append_nil]
    exact granted.below

/-- A tenant inside has entered once and has not exited. -/
theorem Inside.counts (inside : tenure.Inside) (held : tenure.Holds terms log) :
    entries log = 1 ∧ exits log = 0 := by
  cases tenure with
  | entering floor => exact ⟨held.1, held.2.1⟩
  | holding grant floor => exact ⟨held.entered, held.inside⟩
  | working grant source =>
      obtain ⟨floor, -, granted⟩ := held
      exact ⟨granted.entered, granted.inside⟩
  | ready grant source result =>
      obtain ⟨⟨floor, -, granted⟩, -⟩ := held
      exact ⟨granted.entered, granted.inside⟩
  | confirmed grant source result =>
      obtain ⟨⟨floor, -, granted⟩, -⟩ := held
      exact ⟨granted.entered, granted.inside⟩
  | _ => exact inside.elim

/-- A step keeps what the acts say. -/
theorem Step.holds (step : Step terms now tenure acts next) (held : tenure.Holds terms log) :
    next.Holds terms (log ++ acts) := by
  cases step with
  | stay =>
      rw [List.append_nil]
      exact held
  | sight source =>
      obtain rfl : log = [] := held
      exact ⟨rfl, rfl, fun grant => by simp, fun rank member => (List.mem_singleton.mp member).le⟩
  | refuse =>
      obtain rfl : log = [] := held
      exact ⟨rfl, rfl⟩
  | decline floor =>
      rw [List.append_nil]
      exact ⟨held.1, held.2.1⟩
  | enter floor =>
      obtain ⟨noEntry, noExit, ungranted, below⟩ := held
      refine ⟨?_, ?_, fun grant => ?_, ?_⟩
      · rw [entries_append, noEntry]
        rfl
      · rw [exits_append, noExit]
        rfl
      · simpa using ungranted grant
      · rw [terms.ranks_append, show terms.ranks [.entering] = [] from rfl, List.append_nil]
        exact below
  | grant grant floor =>
      obtain ⟨entered, inside, -, below⟩ := held
      constructor
      · rw [entries_append, entered]
        rfl
      · rw [exits_append, inside]
        rfl
      · simp
      · rw [terms.ranks_append, show terms.ranks [.entered grant] = [] from rfl, List.append_nil]
        exact below
  | deny grant floor =>
      obtain ⟨entered, inside, -, -⟩ := held
      constructor
      · rw [entries_append, entered]
        rfl
      · rw [exits_append, inside]
        rfl
  | check reading grant floor => exact Granted.quiet held ⟨rfl, rfl, rfl⟩
  | @adopt grant floor source newer =>
      rw [List.append_nil]
      exact ⟨floor, newer, held⟩
  | compute grant source result =>
      obtain ⟨floor, newer, granted⟩ := held
      exact ⟨⟨floor, newer, granted.quiet ⟨rfl, rfl, rfl⟩⟩, log, rfl, granted.granted⟩
  | @confirm grant reading source result owned =>
      obtain ⟨⟨floor, newer, granted⟩, past, rfl, member⟩ := held
      refine ⟨⟨floor, newer, granted.quiet ⟨rfl, rfl, rfl⟩⟩, past, reading, ?_, member, owned⟩
      rw [List.append_assoc, List.singleton_append]
  | fail reading inside =>
      obtain ⟨entered, outside⟩ := inside.counts held
      constructor
      · rw [entries_append, entered]
        rfl
      · rw [exits_append, outside]
        rfl
  | publish grant source result =>
      obtain ⟨⟨floor, newer, granted⟩, -⟩ := held
      constructor
      · rw [entries_append, granted.entered]
        rfl
      · rw [exits_append, granted.inside]
        rfl
      · exact List.mem_append_left _ granted.granted
      · rw [terms.ranks_append]
        intro rank member
        rcases List.mem_append.mp member with earlier | last
        · exact (granted.below rank earlier).trans newer.le
        · exact (List.mem_singleton.mp last).le
  | leave inside =>
      rw [List.append_nil]
      exact inside.counts held
  | release =>
      obtain ⟨entered, inside⟩ := held
      constructor
      · rw [entries_append, entered]
        rfl
      · rw [exits_append, inside]
        rfl

/-- The acts of a step are proper. -/
theorem Step.justified (step : Step terms now tenure acts next) (held : tenure.Holds terms log)
    (justified : Justified terms.Proper log) : Justified terms.Proper (log ++ acts) := by
  cases step with
  | stay | refuse | decline | adopt | leave =>
      rw [List.append_nil]
      exact justified
  | sight source => exact justified.snoc held
  | check | compute | confirm | fail => exact justified.snoc trivial
  | enter floor => exact justified.snoc held.1
  | grant grant floor => exact justified.snoc ⟨held.1, held.2.1, held.2.2.1⟩
  | deny grant floor => exact justified.snoc ⟨held.1, held.2.1, held.2.2.1⟩
  | publish grant source result =>
      obtain ⟨⟨floor, newer, granted⟩, past, reading, shape, member, owned⟩ := held
      apply justified.snoc
      refine ⟨granted.entered, granted.inside, ?_, past, grant, reading, result, shape, member, owned, rfl⟩
      exact fun rank earlier => (granted.below rank earlier).trans_lt newer
  | release => exact justified.snoc held

/-- A tenant that starts fresh acts only after its sight of a source. -/
def Opened (log : List (Act Grant Source Result Product Time)) (tenure : Tenure Grant Source Result) : Prop :=
  (log = [] ∧ (tenure = .fresh ∨ tenure = .declined)) ∨ ∃ source rest, log = .sighted source :: rest

theorem Step.opened (step : Step terms now tenure acts next) (opened : Opened log tenure) :
    Opened (log ++ acts) next := by
  rcases opened with ⟨rfl, rfl | rfl⟩ | ⟨source, rest, rfl⟩
  · cases step with
    | stay => exact .inl ⟨rfl, .inl rfl⟩
    | sight source => exact .inr ⟨source, [], rfl⟩
    | refuse => exact .inl ⟨rfl, .inr rfl⟩
    | fail reading inside => exact inside.elim
    | leave inside => exact inside.elim
  · cases step with
    | stay => exact .inl ⟨rfl, .inr rfl⟩
    | fail reading inside => exact inside.elim
    | leave inside => exact inside.elim
  · exact .inr ⟨source, rest ++ acts, rfl⟩

/-- Over before the entry or after the exit. -/
def Over : Tenure Grant Source Result → Prop
  | .released | .declined => True
  | _ => False

theorem Inside.account (inside : tenure.Inside) (held : tenure.Holds terms log) :
    exits log ≤ entries log ∧ entries log ≤ 1 ∧ (tenure.Over → exits log = entries log) := by
  obtain ⟨entered, outside⟩ := inside.counts held
  have open' : ¬tenure.Over := by
    cases tenure with
    | released | declined => exact inside.elim
    | _ => exact id
  exact ⟨by omega, by omega, fun ended => absurd ended open'⟩

/-- There is one entry at most and an exit only after it. -/
theorem Holds.counts (held : tenure.Holds terms log) :
    exits log ≤ entries log ∧ entries log ≤ 1 ∧ (tenure.Over → exits log = entries log) := by
  cases tenure with
  | fresh =>
      obtain rfl : log = [] := held
      exact ⟨le_refl _, Nat.zero_le _, fun _ => rfl⟩
  | outside floor =>
      obtain ⟨noEntry, noExit, -, -⟩ := held
      exact ⟨by omega, by omega, False.elim⟩
  | entering floor => exact Inside.account (show Inside (.entering floor) from trivial) held
  | holding grant floor => exact Inside.account (show Inside (.holding grant floor) from trivial) held
  | working grant source => exact Inside.account (show Inside (.working grant source) from trivial) held
  | ready grant source result => exact Inside.account (show Inside (.ready grant source result) from trivial) held
  | confirmed grant source result => exact Inside.account (show Inside (.confirmed grant source result) from trivial) held
  | leaving =>
      obtain ⟨entered, inside⟩ := held
      exact ⟨by omega, by omega, False.elim⟩
  | released =>
      obtain ⟨entered, exited⟩ := held
      exact ⟨by omega, by omega, fun _ => by omega⟩
  | declined =>
      obtain ⟨noEntry, noExit⟩ := held
      exact ⟨by omega, by omega, fun _ => by omega⟩

section Runs

variable [LinearOrder Time] {State Input : Type*}
  {advance : State → Time → Input → Option (State × List (Act Grant Source Result Product Time))}
  {start final : Timed Time State}
  {moves : List (Move (Timed Time State) (Time × Input) (Act Grant Source Result Product Time))}

/-- The acts of a machine whose steps are those of a tenant are proper. -/
theorem of_run (tenure : State → Tenure Grant Source Result)
    (refines : ∀ state now input next acts, advance state now input = some (next, acts) →
      Step terms now (tenure state) acts (tenure next))
    (run : (clocked advance).Run start moves final)
    (initial : (tenure start.state).Holds terms ([] : List (Act Grant Source Result Product Time))) :
    Justified terms.Proper (trace moves) ∧ (tenure final.state).Holds terms (trace moves) := by
  apply clocked_invariant (fun log _ state => Justified terms.Proper log ∧ (tenure state).Holds terms log) _ _ run
  · exact ⟨.empty, initial⟩
  · intro log time state now input next acts held _ advanced
    have step := refines state now input next acts advanced
    exact ⟨step.justified held.2 held.1, step.holds held.2⟩

/-- A machine that starts fresh acts only after its sight of a source. -/
theorem opened_of_run (tenure : State → Tenure Grant Source Result)
    (refines : ∀ state now input next acts, advance state now input = some (next, acts) →
      Step terms now (tenure state) acts (tenure next))
    (run : (clocked advance).Run start moves final) (fresh : tenure start.state = .fresh) :
    Opened (trace moves) (tenure final.state) := by
  apply clocked_invariant (fun log _ state => Opened log (tenure state)) _ _ run
  · exact .inl ⟨rfl, .inl fresh⟩
  · intro log time state now input next acts held _ advanced
    exact (refines state now input next acts advanced).opened held

end Runs

end Tenure

end HumanoidSdk.Foundation
