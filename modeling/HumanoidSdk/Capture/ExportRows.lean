import HumanoidSdk.Capture.Export
import HumanoidSdk.Foundation.Outcome

/-
This file shows what the loop over the messages of an archive hands to the stream of a trace.
-/

namespace HumanoidSdk.Capture
open Foundation

variable {codecs : Codecs} {selection : Selection} {fields : Fields} {kind : ArchiveKind} {message : Message}

section Lines

theorem ArchiveKind.name_free (kind : ArchiveKind) : kind.name ≠ "metadata" ∧ kind.name ≠ "end" := by
  rcases kind with kind | _ | _
  · cases kind with
    | bodyState | bodyCmd | controlStatus => decide
    | handCmd side | handState side | handTouch side | handInfo side | gripperCmd side | gripperState side
    | gripperInfo side => cases side <;> decide
  · decide
  · decide

theorem dumpable_update {updates : Fields} (held : dumpable (.dict fields) = true)
    (new : ∀ entry ∈ updates, dumpable entry.2 = true) : dumpable (.dict (update fields updates)) = true := by
  induction updates generalizing fields with
  | nil => exact held
  | cons entry rest ih =>
      exact ih (dumpable_assign held (new entry List.mem_cons_self))
        fun other member => new other (List.mem_cons_of_mem entry member)

theorem lookup_update_other {updates : Fields} {name : String} (absent : name ∉ updates.map Prod.fst) :
    (update fields updates).lookup name = fields.lookup name := by
  induction updates generalizing fields with
  | nil => rfl
  | cons entry rest ih =>
      rw [List.map_cons, List.mem_cons, not_or] at absent
      exact (ih absent.2).trans (Document.lookup_assign_other absent.1 fields)

/-- The first update of a name counts if it is the only one. -/
theorem lookup_update_first {updates : Fields} {name : String} {item : Document Scalar}
    (absent : name ∉ updates.map Prod.fst) :
    (update fields ((name, item) :: updates)).lookup name = some item :=
  (lookup_update_other absent).trans (Document.lookup_assign_same fields)

/-- A decoded record has nothing that JSON cannot write. -/
theorem decode_dumpable {payload : List UInt8} (decoded : codecs.decode kind payload = .ok fields) :
    dumpable (.dict fields) = true := by
  unfold Codecs.decode at decoded
  split at decoded
  · cases decoded
  · obtain ⟨result, -, rest⟩ := bind_eq_ok.mp decoded
    split at rest
    · cases rest
      exact jsonFeedback_dumpable result
    · split at rest
      · rename_i finite
        cases rest
        exact finite
      · cases rest

namespace TraceFile

theorem sampleLine_type : textOf (sampleLine codecs kind message fields) "type" = some kind.name := by
  rw [textOf, sampleLine, lookup_update_first (by simp)]
  rfl

theorem header_type (digest : String) : textOf (header fields digest) "type" = some "metadata" := by
  rw [textOf, header, lookup_update_first (by simp)]
  rfl

theorem sampleLine_dumpable (held : dumpable (.dict fields) = true) :
    dumpable (.dict (sampleLine codecs kind message fields)) = true := by
  apply dumpable_update held
  intro entry member
  simp only [List.mem_cons, List.not_mem_nil, or_false] at member
  rcases member with rfl | rfl | rfl | rfl | rfl <;> rfl

theorem endLine_dumpable (complete : Bool) (counts : Counts) (error : Option String) :
    dumpable (.dict (endLine complete counts error)) = true := by
  have tallies : dumpable (.dict (counts.map fun entry => (entry.1, number entry.2))) = true := by
    apply dumpable_dict
    intro entry member
    obtain ⟨old, -, rfl⟩ := List.mem_map.mp member
    rfl
  apply dumpable_dict
  intro entry member
  simp only [endLine, List.mem_cons, List.not_mem_nil, or_false] at member
  rcases member with rfl | rfl | rfl | rfl | rfl | rfl
  · rfl
  · rfl
  · rfl
  · exact tallies
  · cases error <;> rfl
  · rfl

end TraceFile

end Lines

section Tallies

theorem lookup_bump_same (counts : Counts) (name : String) :
    (TraceFile.bump counts name).lookup name = some ((counts.lookup name).getD 0 + 1) :=
  Document.lookup_assign_same counts

theorem lookup_bump_other {counts : Counts} {name other : String} (different : other ≠ name) :
    (TraceFile.bump counts name).lookup other = counts.lookup other :=
  Document.lookup_assign_other different counts

/-- A count is the number of times that its name was counted. -/
theorem tally_count (names : List String) (counts : Counts) (name : String) :
    ((names.foldl TraceFile.bump counts).lookup name).getD 0 = (counts.lookup name).getD 0 + names.count name := by
  induction names generalizing counts with
  | nil => rfl
  | cons first rest ih =>
      rw [List.foldl_cons, ih]
      by_cases same : first = name
      · rw [same, lookup_bump_same, List.count_cons_self, Option.getD_some]
        omega
      · rw [lookup_bump_other (Ne.symm same), List.count_cons_of_ne same]

/-- A name has a count if and only if it was counted. -/
theorem tally_known (names : List String) (counts : Counts) (name : String) :
    ((names.foldl TraceFile.bump counts).lookup name).isSome ↔ (counts.lookup name).isSome ∨ name ∈ names := by
  induction names generalizing counts with
  | nil => simp
  | cons first rest ih =>
      rw [List.foldl_cons, ih, List.mem_cons]
      by_cases same : first = name
      · rw [same, lookup_bump_same]
        simp
      · rw [lookup_bump_other (Ne.symm same)]
        have apart : name ≠ first := Ne.symm same
        tauto

end Tallies

/-- The kind of a line. -/
def kindOf (line : Fields) : String := (textOf line "type").getD ""

/-- The line says that the trace is complete. -/
def Completes (line : Fields) : Prop := kindOf line = "end" ∧ line.lookup "complete" = some (.leaf (.bool true))

/-- The topic of the message is in the map. -/
def asked (selection : Selection) (message : Message) : Bool :=
  ((selection.topicMap.lookup message.topic).bind ArchiveKind.find).isSome

/-- The line that a message becomes. -/
def Line (codecs : Codecs) (selection : Selection) (message : Message) (line : Fields) : Prop :=
  ∃ kind record, selection.examine codecs message = .ok (some kind) ∧ codecs.decode kind message.data = .ok record ∧
    line = TraceFile.sampleLine codecs kind message record

section Loops

variable {line : Fields}

theorem Line.kindOf (made : Line codecs selection message line) :
    ∃ kind : ArchiveKind, Capture.kindOf line = kind.name := by
  obtain ⟨kind, record, -, -, rfl⟩ := made
  exact ⟨kind, by rw [Capture.kindOf, TraceFile.sampleLine_type, Option.getD_some]⟩

theorem Line.dumpable (made : Line codecs selection message line) : Capture.dumpable (.dict line) = true := by
  obtain ⟨kind, record, -, decoded, rfl⟩ := made
  exact TraceFile.sampleLine_dumpable (decode_dumpable decoded)

/-- The text of some lines. -/
def Codecs.lines (codecs : Codecs) (fields : List Fields) : List Char := fields.flatMap codecs.line

theorem Codecs.lines_append (codecs : Codecs) (first second : List Fields) :
    codecs.lines (first ++ second) = codecs.lines first ++ codecs.lines second := List.flatMap_append

theorem Codecs.lines_singleton (codecs : Codecs) (line : Fields) : codecs.lines [line] = codecs.line line :=
  List.flatMap_singleton _ _

theorem Codecs.lines_cons (codecs : Codecs) (line : Fields) (rest : List Fields) :
    codecs.lines (line :: rest) = codecs.line line ++ codecs.lines rest := List.flatMap_cons

/-- The counts after some rows. -/
def tally (counts : Counts) (rows : List Fields) : Counts := (rows.map kindOf).foldl TraceFile.bump counts

namespace TraceFile

/-- What a write of a line does. An error of the stream may lose the end of the text. -/
inductive Wrote (codecs : Codecs) (file : TraceFile) (line : Fields) (ending : StreamEnding Failure) :
    TraceFile → Option Failure → Prop
  | whole {next : TraceFile} (fine : dumpable (.dict line) = true) (counts : next.counts = file.counts)
      (content : next.stream.content = file.stream.content ++ codecs.line line) (returned : ending.raised = none) :
      Wrote codecs file line ending next none
  | refused (failure : Failure) : Wrote codecs file line ending file (some failure)
  | torn {next : TraceFile} {failure : Failure} (fine : dumpable (.dict line) = true)
      (counts : next.counts = file.counts) (content : next.stream.content <+: file.stream.content ++ codecs.line line)
      (raised : ending.raised = some failure) : Wrote codecs file line ending next (some failure)

theorem wrote (codecs : Codecs) (file : TraceFile) (line : Fields) (ending : StreamEnding Failure) :
    Wrote codecs file line ending (file.write codecs line ending).1 (file.write codecs line ending).2 := by
  unfold write
  split
  · rename_i fine
    dsimp only
    cases known : ending.raised with
    | none => exact .whole fine rfl (BufferedStream.write_content known) known
    | some failure => exact .torn fine rfl (BufferedStream.write_starts _ _ _) known
  · exact .refused _

/-- What one message does to a file. -/
inductive Took (codecs : Codecs) (selection : Selection) (file : TraceFile) (message : Message)
    (ending : StreamEnding Failure) : TraceFile → Option Failure → Prop
  | skipped (other : asked selection message = false) : Took codecs selection file message ending file none
  | counted {line : Fields} {next : TraceFile} (wanted : asked selection message = true)
      (made : Line codecs selection message line) (counts : next.counts = tally file.counts [line])
      (content : next.stream.content = file.stream.content ++ codecs.line line) :
      Took codecs selection file message ending next none
  | failed (failure : Failure) : Took codecs selection file message ending file (some failure)
  | torn {line : Fields} {next : TraceFile} {failure : Failure} (wanted : asked selection message = true)
      (made : Line codecs selection message line) (counts : next.counts = file.counts)
      (content : next.stream.content <+: file.stream.content ++ codecs.line line)
      (raised : ending.raised = some failure) : Took codecs selection file message ending next (some failure)

/-- A message is examined for a kind only if it was asked for. -/
theorem examine_asked {found : Option ArchiveKind} (examined : selection.examine codecs message = .ok found) :
    asked selection message = found.isSome := by
  unfold Selection.examine at examined
  unfold asked
  split at examined
  · rename_i missing
    cases examined
    rw [missing]
  · rename_i kind known
    split at examined
    · cases examined
      rw [known]
    · cases examined

theorem took (codecs : Codecs) (selection : Selection) (file : TraceFile) (message : Message)
    (ending : StreamEnding Failure) : Took codecs selection file message ending
      (file.take codecs selection message ending).1 (file.take codecs selection message ending).2 := by
  unfold take
  cases examined : selection.examine codecs message with
  | error failure => exact .failed failure
  | ok found =>
      have wanted := examine_asked examined
      cases found with
      | none => exact .skipped wanted
      | some kind =>
          dsimp only
          unfold sample
          cases decoded : codecs.decode kind message.data with
          | error failure => exact .failed failure
          | ok record =>
              have made : Line codecs selection message (sampleLine codecs kind message record) :=
                ⟨kind, record, examined, decoded, rfl⟩
              have named : kindOf (sampleLine codecs kind message record) = kind.name := by
                rw [kindOf, sampleLine_type, Option.getD_some]
              have step := wrote codecs file (sampleLine codecs kind message record) ending
              dsimp only
              cases result : file.write codecs (sampleLine codecs kind message record) ending with
              | mk next outcome =>
                  rw [result] at step
                  cases step with
                  | whole fine counts content returned =>
                      refine .counted wanted made ?_ content
                      show bump next.counts kind.name = _
                      rw [counts, ← named]
                      rfl
                  | refused failure => exact .failed failure
                  | torn fine counts content raised => exact .torn wanted made counts content raised

/-- What the loop leaves in a file: rows of the messages that were asked for in their order. The last one is not
counted and may be torn if its write raised. -/
structure Followed (codecs : Codecs) (selection : Selection) (file : TraceFile)
    (messages : List (Message × StreamEnding Failure)) (ending : Option Failure) (taken : List Message)
    (rows extra : List Fields) (final : TraceFile) (outcome : Option Failure) : Prop where
  starts : taken <+: (messages.map Prod.fst).filter (asked selection)
  made : List.Forall₂ (Line codecs selection) taken (rows ++ extra)
  counts : final.counts = tally file.counts rows
  content : final.stream.content <+: file.stream.content ++ codecs.lines (rows ++ extra)
  single : extra.length ≤ 1
  whole : extra = [] → final.stream.content = file.stream.content ++ codecs.lines rows
  torn : extra ≠ [] → ∃ entry ∈ messages, entry.2.raised ≠ none
  ended : outcome = none → ending = none ∧ extra = [] ∧ taken = (messages.map Prod.fst).filter (asked selection)

variable {messages : List (Message × StreamEnding Failure)} {ending : Option Failure}

/-- A loop that stops at once. -/
theorem Followed.stop (file : TraceFile) (outcome : Option Failure)
    (ended : outcome = none → ending = none ∧ (messages.map Prod.fst).filter (asked selection) = []) :
    Followed codecs selection file messages ending [] [] [] file outcome where
  starts := List.nil_prefix
  made := .nil
  counts := rfl
  content := by rw [List.append_nil]; exact List.prefix_append _ _
  single := Nat.zero_le 1
  whole := fun _ => (List.append_nil _).symm
  torn := fun some => absurd rfl some
  ended := fun done => ⟨(ended done).1, rfl, (ended done).2.symm⟩

/-- The messages in which a file ends. -/
theorem followed (codecs : Codecs) (selection : Selection) (messages : List (Message × StreamEnding Failure))
    (ending : Option Failure) (file : TraceFile) : ∃ taken rows extra,
      Followed codecs selection file messages ending taken rows extra
        (file.takeAll codecs selection messages ending).1 (file.takeAll codecs selection messages ending).2 := by
  induction messages generalizing file with
  | nil => exact ⟨[], [], [], .stop file ending fun done => ⟨done, rfl⟩⟩
  | cons entry rest ih =>
      obtain ⟨message, written⟩ := entry
      have step := took codecs selection file message written
      rw [takeAll]
      cases result : file.take codecs selection message written with
      | mk next outcome =>
          rw [result] at step
          cases step with
          | skipped other =>
              have kept : (((message, written) :: rest).map Prod.fst).filter (asked selection) =
                  (rest.map Prod.fst).filter (asked selection) := by
                rw [List.map_cons, List.filter_cons_of_neg (Bool.eq_false_iff.mp other)]
              obtain ⟨taken, rows, extra, loop⟩ := ih next
              refine ⟨taken, rows, extra, ?_, loop.made, loop.counts, loop.content, loop.single, loop.whole, ?_, ?_⟩
              · rw [kept]
                exact loop.starts
              · intro some
                obtain ⟨entry, member, raised⟩ := loop.torn some
                exact ⟨entry, List.mem_cons_of_mem _ member, raised⟩
              · rw [kept]
                exact loop.ended
          | @counted line _ wanted made counts content =>
              have kept : (((message, written) :: rest).map Prod.fst).filter (asked selection) =
                  message :: (rest.map Prod.fst).filter (asked selection) := by
                rw [List.map_cons, List.filter_cons_of_pos wanted]
              obtain ⟨taken, rows, extra, loop⟩ := ih next
              refine ⟨message :: taken, line :: rows, extra, ?_, .cons made loop.made, ?_, ?_, loop.single, ?_, ?_, ?_⟩
              · rw [kept]
                exact List.cons_prefix_cons.mpr ⟨rfl, loop.starts⟩
              · rw [loop.counts, counts]
                rfl
              · rw [List.cons_append, codecs.lines_cons, ← List.append_assoc, ← content]
                exact loop.content
              · intro none
                rw [codecs.lines_cons, ← List.append_assoc, ← content]
                exact loop.whole none
              · intro some
                obtain ⟨entry, member, raised⟩ := loop.torn some
                exact ⟨entry, List.mem_cons_of_mem _ member, raised⟩
              · intro done
                obtain ⟨fine, none, all⟩ := loop.ended done
                exact ⟨fine, none, by rw [kept, all]⟩
          | failed failure => exact ⟨[], [], [], .stop next (some failure) nofun⟩
          | @torn line _ failure wanted made counts content raised =>
              refine ⟨[message], [], [line], ?_, .cons made .nil, counts, ?_, le_refl 1, nofun, ?_, nofun⟩
              · rw [List.map_cons, List.filter_cons_of_pos wanted]
                exact List.cons_prefix_cons.mpr ⟨rfl, List.nil_prefix⟩
              · rw [List.nil_append, codecs.lines_singleton]
                exact content
              · intro some
                refine ⟨(message, written), List.mem_cons_self, ?_⟩
                rw [raised]
                exact Option.some_ne_none failure

/-- The loop with the comparison of the kinds after it. -/
theorem collected (codecs : Codecs) (selection : Selection) (messages : List (Message × StreamEnding Failure))
    (ending : Option Failure) (file : TraceFile) : ∃ taken rows extra,
      Followed codecs selection file messages ending taken rows extra
          (file.collect codecs selection messages ending).1 (file.collect codecs selection messages ending).2 ∧
        ((file.collect codecs selection messages ending).2 = none → sameKeys
          ((file.collect codecs selection messages ending).1.counts.map Prod.fst) selection.kinds = true) := by
  obtain ⟨taken, rows, extra, loop⟩ := followed codecs selection messages ending file
  refine ⟨taken, rows, extra, ?_⟩
  unfold collect
  cases result : file.takeAll codecs selection messages ending with
  | mk next outcome =>
      rw [result] at loop
      cases outcome with
      | some failure => exact ⟨loop, nofun⟩
      | none =>
          dsimp only
          split
          · rename_i same
            exact ⟨loop, fun _ => same⟩
          · exact ⟨⟨loop.starts, loop.made, loop.counts, loop.content, loop.single, loop.whole, loop.torn, nofun⟩,
              nofun⟩

end TraceFile

end Loops

end HumanoidSdk.Capture
