import HumanoidSdk.Demo.Body
import HumanoidSdk.Foundation.Conveyor
import HumanoidSdk.Foundation.Run
import HumanoidSdk.Value.PyValue

/-
This file translates Recorder of examples/wbc_tracking_mode/wbc_tracking_mode.py. Every section under the
lock is one step, and so is every call of the file. The conversion of arrays, the digest and the JSON
encoder are parameters.
-/

namespace HumanoidSdk.Demo
open Foundation

/-- The conversion `str` of an exception. -/
def Failure.text : Failure → String
  | .valueError message | .runtimeError message | .timeoutError message | .osError message
  | .external message => message

/-- What the method `statistics` returns. -/
structure Statistics where
  recordsSubmitted : ℕ
  recordsEnqueued : ℕ
  recordsWritten : ℕ
  recordsDropped : ℕ
  queueMaxDepth : ℕ
  queueCapacity : ℕ
  writerError : Option String
  deriving DecidableEq

/-- A value of a row. Values that the recorder does not look at are objects. -/
inductive RowValue (Object : Type) where
  | text (value : String)
  | number (value : ℕ)
  | statistics (value : Statistics)
  | object (value : Object)
  deriving DecidableEq

/-- A dictionary in the order of its keys. -/
abbrev Row (Object : Type) := List (String × RowValue Object)

namespace Row

variable {Object : Type} (row : Row Object)

def get (key : String) : Option (RowValue Object) := row.lookup key

def pop (key : String) : Row Object := row.filter (·.1 ≠ key)

/-- An assignment keeps the place of a key that is there. -/
def set (key : String) (value : RowValue Object) : Row Object :=
  if row.any (·.1 = key) then row.map fun entry => if entry.1 = key then (key, value) else entry
  else row ++ [(key, value)]

/-- The test `row.get('kind') == 'summary'`. -/
def isSummary : Bool :=
  match row.get "kind" with
  | some (.text kind) => kind = "summary"
  | _ => false

end Row

/-- An array of numbers as `_format` uses it. -/
structure ArrayText (Object : Type) where
  size : ℕ
  sha256 : String
  tolist : Object

/-- The conversion to an array, and `json.dumps` with its options. -/
structure Encoder (Object : Type) where
  asarray : RowValue Object → Except Failure (ArrayText Object)
  dumps : Row Object → Except Failure String

def checkCapacity : PyValue → Except Failure ℕ
  | .int value =>
      if 0 < value then .ok value.toNat else .error (.valueError "log queue capacity must be a positive integer")
  | _ => .error (.valueError "log queue capacity must be a positive integer")

/-- The arguments of a recorder whose constructor has returned. -/
structure RecorderSetup (Object : Type) where
  encoder : Encoder Object
  logObservation : Bool
  header : Row Object
  given : PyValue
  capacity : ℕ
  accepted : checkCapacity given = .ok capacity

theorem RecorderSetup.capacity_pos {Object : Type} (setup : RecorderSetup Object) : 0 < setup.capacity := by
  have accepted := setup.accepted
  unfold checkCapacity at accepted
  split at accepted
  · split at accepted
    · rename_i value positive
      rw [← Except.ok.inj accepted]
      omega
    · cases accepted
  · cases accepted

/-- The next statement of the writer thread. -/
inductive WriterPhase (Object : Type) where
  | waiting
  | holding (row : Row Object)
  | counting
  | failing (row : Row Object) (failure : Failure)
  | testing
  | summing
  | crediting
  | flushing
  | aborting (failure : Failure)
  | shutting
  | faulting (failure : Failure)
  | finished
  deriving DecidableEq

def WriterPhase.isFinished {Object : Type} : WriterPhase Object → Bool
  | .finished => true
  | _ => false

/-- The fields of the recorder, the calls of `close` that wait for the thread, and the text of the file. -/
structure Recorder (Object : Type) where
  rows : List (Row Object) := []
  closing : Bool := false
  summary : Option (Row Object) := none
  error : Option Failure := none
  submitted : ℕ := 0
  enqueued : ℕ := 0
  written : ℕ := 0
  dropped : ℕ := 0
  maxDepth : ℕ := 0
  phase : WriterPhase Object := .waiting
  joining : ℕ := 0
  file : String := ""

/-- How a call of the file ends. A write that raises may have written a part of its text. -/
inductive Ending where
  | returns
  | raises (failure : Failure) (landed : ℕ)

inductive RecorderInput (Object : Type) where
  | write (row : Row Object)
  | close
  | join
  | writer (ending : Ending)

/-- What `write` and `close` answer, and what becomes of the rows. -/
inductive RecorderEvent (Object : Type) where
  | accepted (row : Row Object)
  | summarised (row : Row Object)
  | refused (row : Row Object)
  | rejected (row : Row Object)
  | closing
  | returned
  | raised (statistics : Statistics)
  | handed (row : Row Object)
  | lost (rows : List (Row Object))
  | concluded (row : Row Object)
  deriving DecidableEq

namespace Recorder

variable {Object : Type} (setup : RecorderSetup Object) (recorder : Recorder Object)

def statistics : Statistics where
  recordsSubmitted := recorder.submitted
  recordsEnqueued := recorder.enqueued
  recordsWritten := recorder.written
  recordsDropped := recorder.dropped
  queueMaxDepth := recorder.maxDepth
  queueCapacity := setup.capacity
  writerError := recorder.error.map Failure.text

/-- The method `_format`. -/
def format (row : Row Object) : Except Failure String :=
  match row.get "observation" with
  | none => (setup.encoder.dumps row).map (· ++ "\n")
  | some value =>
      match setup.encoder.asarray value with
      | .error failure => .error failure
      | .ok observation =>
          let compact := (((row.pop "observation").set "observation_length" (.number observation.size)).set
            "observation_sha256" (.text observation.sha256)).set
            "observation_encoding" (.text "little-endian float32, C order")
          let row := if setup.logObservation then compact.set "observation" (.object observation.tolist) else compact
          (setup.encoder.dumps row).map (· ++ "\n")

/-- The section of `write` under the lock. -/
def write (row : Row Object) : Recorder Object × List (RecorderEvent Object) :=
  if recorder.closing then (recorder, [.rejected row])
  else if row.isSummary then
    ({ recorder with submitted := recorder.submitted + 1, summary := some row }, [.summarised row])
  else if recorder.error.isSome ∨ setup.capacity ≤ recorder.rows.length then
    ({ recorder with submitted := recorder.submitted + 1, dropped := recorder.dropped + 1 }, [.refused row])
  else
    ({ recorder with
      submitted := recorder.submitted + 1
      rows := recorder.rows ++ [row]
      enqueued := recorder.enqueued + 1
      maxDepth := max recorder.maxDepth (recorder.rows.length + 1) }, [.accepted row])

/-- The method `_failed` with the row that is dropped. -/
def failed (failure : Failure) (current : List (Row Object)) (next : WriterPhase Object) :
    Recorder Object × List (RecorderEvent Object) :=
  ({ recorder with
    error := some (recorder.error.getD failure)
    dropped := recorder.dropped + (recorder.rows.length + current.length)
    rows := []
    phase := next }, [.lost (current ++ recorder.rows)])

/-- The last row of the file. -/
def summaryRow (written : ℕ) : Row Object :=
  (recorder.summary.getD [("kind", .text "logging_summary")]).set "logging"
    (.statistics { recorder.statistics setup with recordsWritten := written })

/-- `file.write(self._format(row))`, which leads to one of two statements. -/
def print (row : Row Object) (ending : Ending) (done : WriterPhase Object) (raised : Failure → WriterPhase Object)
    (event : RecorderEvent Object) : Recorder Object × List (RecorderEvent Object) :=
  match format setup row, ending with
  | .error failure, _ => ({ recorder with phase := raised failure }, [])
  | .ok text, .returns => ({ recorder with file := recorder.file ++ text, phase := done }, [event])
  | .ok text, .raises failure landed =>
      ({ recorder with file := recorder.file ++ String.ofList (text.toList.take landed), phase := raised failure }, [])

/-- `file.flush()` and `file.close()`. -/
def settle (ending : Ending) (done : WriterPhase Object) (raised : Failure → WriterPhase Object) : Recorder Object :=
  match ending with
  | .returns => { recorder with phase := done }
  | .raises failure _ => { recorder with phase := raised failure }

/-- One statement of the writer thread. It waits while there is no row and no call of `close`. -/
def run (ending : Ending) : Option (Recorder Object × List (RecorderEvent Object)) :=
  match recorder.phase with
  | .waiting =>
      match recorder.rows with
      | row :: rest => some ({ recorder with rows := rest, phase := .holding row }, [])
      | [] => if recorder.closing then some ({ recorder with phase := .testing }, []) else none
  | .holding row => some (recorder.print setup row ending .counting (.failing row) (.handed row))
  | .counting => some ({ recorder with written := recorder.written + 1, phase := .waiting }, [])
  | .failing row failure => some (recorder.failed failure [row] .waiting)
  | .testing => some ({ recorder with phase := if recorder.error.isNone then .summing else .shutting }, [])
  | .summing =>
      let row := recorder.summaryRow setup (recorder.written + 1)
      some (recorder.print setup row ending .crediting .aborting (.concluded row))
  | .crediting => some ({ recorder with written := recorder.written + 1, phase := .flushing }, [])
  | .flushing => some (recorder.settle ending .shutting .aborting, [])
  | .aborting failure => some (recorder.failed failure [] .shutting)
  | .shutting => some (recorder.settle ending .finished .faulting, [])
  | .faulting failure => some (recorder.failed failure [] .finished)
  | .finished => none

/-- A call of `close` sets the flag, and joins the thread later. -/
def advance : RecorderInput Object → Option (Recorder Object × List (RecorderEvent Object))
  | .write row => some (recorder.write setup row)
  | .close => some ({ recorder with closing := true, joining := recorder.joining + 1 }, [.closing])
  | .join =>
      if recorder.joining ≠ 0 ∧ recorder.phase.isFinished then
        some ({ recorder with joining := recorder.joining - 1 },
          [if recorder.error.isNone then .returned else .raised (recorder.statistics setup)])
      else none
  | .writer ending => recorder.run setup ending

/-- The last statement of the constructor. -/
def start : Recorder Object × List (RecorderEvent Object) :=
  write setup {} (("kind", .text "header") :: setup.header)

end Recorder

def recorderMachine {Object : Type} (setup : RecorderSetup Object) :
    Machine (Recorder Object) (RecorderInput Object) (RecorderEvent Object) where
  step recorder input := recorder.advance setup input

end HumanoidSdk.Demo
