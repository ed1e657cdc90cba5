import HumanoidSdk.Capture.ExportRows

/-
This file shows that a trace of an archive which says that it is complete has one line for each message that was
asked for, and that no other trace says so, whatever the stream loses.
-/

namespace HumanoidSdk.Capture
open Foundation

variable {codecs : Codecs} {selection : Selection} {fields : Fields} {message : Message}

theorem endLine_completes {complete : Bool} {counts : Counts} {error : Option String}
    (held : Completes (TraceFile.endLine complete counts error)) : complete = true := by
  have told : (some (.leaf (.bool complete)) : Option (Document Scalar)) = some (.leaf (.bool true)) := held.2
  cases told
  rfl

/-- The counts are the numbers of the lines, and every kind that was asked for has one. -/
def Counted (selection : Selection) (rows : List Fields) (counts : Counts) : Prop :=
  ∀ kind, counts.lookup kind = (if kind ∈ selection.kinds then some ((rows.map kindOf).count kind) else none) ∧
    (kind ∈ selection.kinds → 0 < (rows.map kindOf).count kind)

theorem mem_keys {counts : Counts} {name : String} : name ∈ counts.map Prod.fst ↔ (counts.lookup name).isSome := by
  rw [List.lookup_isSome_iff, List.mem_map]
  simp only [beq_iff_eq]
  exact exists_congr fun entry => and_congr_right fun _ => eq_comm

theorem counted_of_tally {rows : List Fields}
    (same : TraceFile.sameKeys ((tally [] rows).map Prod.fst) selection.kinds = true) :
    Counted selection rows (tally [] rows) := by
  unfold tally at same ⊢
  intro kind
  have number := tally_count (rows.map kindOf) [] kind
  have known := tally_known (rows.map kindOf) [] kind
  simp only [TraceFile.sameKeys, Bool.and_eq_true, List.all_eq_true, List.contains_iff_mem] at same
  rw [List.lookup_nil, Option.getD_none, Nat.zero_add] at number
  have keys : ((rows.map kindOf).foldl TraceFile.bump []).lookup kind ≠ none ↔ kind ∈ selection.kinds := by
    rw [← Option.isSome_iff_ne_none, ← mem_keys]
    exact ⟨same.1 kind, same.2 kind⟩
  by_cases wanted : kind ∈ selection.kinds
  · obtain ⟨count, found⟩ := Option.ne_none_iff_exists'.mp (keys.mpr wanted)
    rw [found, Option.getD_some] at number
    have seen : kind ∈ rows.map kindOf := by
      have held := known.mp (by rw [found]; rfl)
      simpa using held
    rw [if_pos wanted, found, number]
    exact ⟨rfl, fun _ => List.count_pos_iff.mpr seen⟩
  · rw [if_neg wanted]
    exact ⟨not_not.mp (mt keys.mp wanted), fun held => absurd held wanted⟩

theorem header_kind (metadata : Fields) (digest : String) :
    kindOf (TraceFile.header metadata digest) = "metadata" := by
  rw [kindOf, TraceFile.header_type, Option.getD_some]

theorem Line.incomplete {line : Fields} (made : Line codecs selection message line) : ¬ Completes line := by
  intro complete
  obtain ⟨kind, named⟩ := made.kindOf
  exact kind.name_free.2 (named.symm.trans complete.1)

theorem line_of_mem {taken : List Message} {rows : List Fields}
    (made : List.Forall₂ (Line codecs selection) taken rows) {row : Fields} (member : row ∈ rows) :
    ∃ message, Line codecs selection message row := by
  induction made with
  | nil => cases member
  | cons head tail ih =>
      rcases List.mem_cons.mp member with rfl | later
      · exact ⟨_, head⟩
      · exact ih later

/-- The messages of an archive that were asked for. -/
def Archive.wanted (archive : Archive) (selection : Selection) : List Message :=
  (archive.messages.map Prod.fst).filter (asked selection)

/-- No statement of the end raises. -/
structure Archive.Settles (archive : Archive) : Prop where
  last : archive.last.raised = none
  flushed : archive.flushed.raised = none
  closed : archive.closed.raised = none
  incoming : archive.incoming = none

/-- No call of the stream raises. -/
structure Archive.Smooth (archive : Archive) : Prop where
  header : archive.header.raised = none
  messages : ∀ entry ∈ archive.messages, entry.2.raised = none
  last : archive.last.raised = none
  flushed : archive.flushed.raised = none
  closed : archive.closed.raised = none

/-- The messages, their rows and the lines that are handed to the stream before the end line: nothing, or the header
with the rows of the first messages that were asked for. -/
inductive Handed (codecs : Codecs) (selection : Selection) (document : Document Scalar) (archive : Archive) :
    List Message → List Fields → List Fields → Prop
  | nothing : Handed codecs selection document archive [] [] []
  | begun {fields : Fields} {digest : String} {taken : List Message} {rows : List Fields}
      (checked : metadataChecked document = .ok fields) (known : archive.digest = .ok digest)
      (fine : dumpable (.dict (TraceFile.header fields digest)) = true) (starts : taken <+: archive.wanted selection)
      (made : List.Forall₂ (Line codecs selection) taken rows) :
      Handed codecs selection document archive taken rows (TraceFile.header fields digest :: rows)

/-- A text that does not say that the trace is complete. An error of the stream may have lost the end of the lines and
the end of the end line. The end line counts all rows, or all but the last one. -/
def Broken (codecs : Codecs) (selection : Selection) (document : Document Scalar) (archive : Archive)
    (disk : List Char) : Prop :=
  ∃ taken rows extra lines torn error, Handed codecs selection document archive taken (rows ++ extra) lines ∧
    extra.length ≤ 1 ∧ torn <+: codecs.lines lines ∧
      disk <+: torn ++ codecs.line (TraceFile.endLine false (tally [] rows) error)

/-- The archive was read to its end, each message that was asked for has its row, and the counts are right. -/
def Complete (codecs : Codecs) (selection : Selection) (document : Document Scalar) (archive : Archive)
    (lines : List Fields) (counts : Counts) : Prop :=
  archive.ending = none ∧ ∃ rows, Handed codecs selection document archive (archive.wanted selection) rows lines ∧
    Counted selection rows counts

/-- The whole text of a complete trace. -/
def Codecs.whole (codecs : Codecs) (lines : List Fields) (counts : Counts) : List Char :=
  codecs.lines (lines ++ [TraceFile.endLine true counts none])

/-- What a reader of the text of a trace may rely on. -/
structure Trustworthy (codecs : Codecs) (selection : Selection) (document : Document Scalar) (archive : Archive)
    (disk : List Char) (result : Except Failure Counts) : Prop where
  strict : ∀ taken rows lines, Handed codecs selection document archive taken rows lines →
    ∀ line ∈ lines, dumpable (.dict line) = true ∧ ¬ Completes line
  ending : ∀ complete counts error, dumpable (.dict (TraceFile.endLine complete counts error)) = true ∧
    (Completes (TraceFile.endLine complete counts error) → complete = true)
  shape : Broken codecs selection document archive disk ∨
    ∃ lines counts, Complete codecs selection document archive lines counts ∧ disk <+: codecs.whole lines counts
  returned : ∀ counts, result = .ok counts →
    ∃ lines, Complete codecs selection document archive lines counts ∧ disk = codecs.whole lines counts
  failed : ∀ failure, result = .error failure → archive.Settles → Broken codecs selection document archive disk
  untorn : archive.Smooth → disk = [] ∨ ∃ taken rows lines complete error,
    Handed codecs selection document archive taken rows lines ∧
      disk = codecs.lines (lines ++ [TraceFile.endLine complete (tally [] rows) error])

section Texts

variable {document : Document Scalar} {archive : Archive} {text disk : List Char} {result : Except Failure Counts}

/-- JSON can write each line that is handed over, and none says that the trace is complete. -/
theorem Handed.strict {taken : List Message} {rows lines : List Fields}
    (handed : Handed codecs selection document archive taken rows lines) {line : Fields} (member : line ∈ lines) :
    dumpable (.dict line) = true ∧ ¬ Completes line := by
  cases handed with
  | nothing => cases member
  | begun checked known fine starts made =>
      rcases List.mem_cons.mp member with rfl | row
      · refine ⟨fine, fun complete => ?_⟩
        have named := (header_kind _ _).symm.trans complete.1
        exact absurd named (by decide)
      · obtain ⟨message, line⟩ := line_of_mem made row
        exact ⟨line.dumpable, line.incomplete⟩

theorem Broken.starts (broken : Broken codecs selection document archive text) (starts : disk <+: text) :
    Broken codecs selection document archive disk := by
  obtain ⟨taken, rows, extra, lines, torn, error, handed, single, cut, inside⟩ := broken
  exact ⟨taken, rows, extra, lines, torn, error, handed, single, cut, starts.trans inside⟩

/-- The beginning of some lines is broken. -/
theorem broken_of_lines {taken : List Message} {rows lines : List Fields}
    (handed : Handed codecs selection document archive taken rows lines) (starts : disk <+: codecs.lines lines)
    (single : rows.length ≤ 1) : Broken codecs selection document archive disk :=
  ⟨taken, [], rows, lines, disk, none, handed, single, starts, List.prefix_append _ _⟩

/-- The text of a trace whose block has raised before the end line. -/
theorem trustworthy_of_broken (broken : Broken codecs selection document archive text) {failure : Failure}
    (untorn : archive.Smooth → text = [] ∨ ∃ taken rows lines complete error,
      Handed codecs selection document archive taken rows lines ∧
        text = codecs.lines (lines ++ [TraceFile.endLine complete (tally [] rows) error])) :
    Trustworthy codecs selection document archive text (.error failure) where
  strict := fun _ _ _ handed _ member => handed.strict member
  ending := fun _ _ _ => ⟨TraceFile.endLine_dumpable _ _ _, endLine_completes⟩
  shape := .inl broken
  returned := nofun
  failed := fun _ _ _ => broken
  untorn := untorn

/-- The `with` statement closes the stream and the archive. -/
theorem Trustworthy.close {stream : BufferedStream Char}
    (trusted : Trustworthy codecs selection document archive stream.content result) :
    Trustworthy codecs selection document archive (stream.close archive.closed).disk
      ((archive.incoming.or archive.closed.raised).elim result .error) := by
  have starts := stream.close_starts archive.closed
  constructor
  · exact trusted.strict
  · exact trusted.ending
  · rcases trusted.shape with broken | ⟨lines, counts, complete, inside⟩
    · exact .inl (broken.starts starts)
    · exact .inr ⟨lines, counts, complete, starts.trans inside⟩
  · intro counts value
    cases quiet : archive.incoming.or archive.closed.raised with
    | some failure =>
        rw [quiet] at value
        cases value
    | none =>
        rw [quiet] at value
        rw [BufferedStream.close_disk (Option.or_eq_none_iff.mp quiet).2]
        exact trusted.returned counts value
  · intro failure value settles
    rw [settles.incoming, settles.closed] at value
    rw [BufferedStream.close_disk settles.closed]
    exact trusted.failed failure value settles
  · intro smooth
    rw [BufferedStream.close_disk smooth.closed]
    exact trusted.untorn smooth

end Texts

section Ends

variable {file : TraceFile} {complete : Bool} {error : Option String} {last flushed : StreamEnding Failure}

/-- The end line is written, which JSON can always do. -/
theorem TraceFile.finish_eq (codecs : Codecs) (file : TraceFile) (complete : Bool) (error : Option String)
    (last flushed : StreamEnding Failure) : file.finish codecs complete error last flushed =
      match last.raised with
      | some failure =>
          ({ file with stream := file.stream.write (codecs.line (endLine complete file.counts error)) last },
            some failure)
      | none => ({ file with stream :=
          (file.stream.write (codecs.line (endLine complete file.counts error)) last).flush flushed },
            flushed.raised) := by
  unfold finish write
  rw [if_pos (endLine_dumpable complete file.counts error)]
  cases last with
  | returns landed => rfl
  | raises failure landed kept => rfl

theorem TraceFile.finish_counts :
    (file.finish codecs complete error last flushed).1.counts = file.counts := by
  rw [finish_eq]
  cases last.raised with
  | none => rfl
  | some failure => rfl

theorem TraceFile.finish_raised :
    (file.finish codecs complete error last flushed).2 = last.raised.or flushed.raised := by
  rw [finish_eq]
  cases last.raised with
  | none => rfl
  | some failure => rfl

theorem TraceFile.finish_starts : (file.finish codecs complete error last flushed).1.stream.content <+:
    file.stream.content ++ codecs.line (endLine complete file.counts error) := by
  have written := file.stream.write_starts (codecs.line (endLine complete file.counts error)) last
  rw [finish_eq]
  cases last.raised with
  | none => exact (BufferedStream.flush_starts _ flushed).trans written
  | some failure => exact written

theorem TraceFile.finish_content (wrote : last.raised = none) (left : flushed.raised = none) :
    (file.finish codecs complete error last flushed).1.stream.content =
      file.stream.content ++ codecs.line (endLine complete file.counts error) := by
  rw [finish_eq, wrote]
  exact (BufferedStream.flush_content left).trans (BufferedStream.write_content wrote)

/-- What the end of a whole block returns or raises. -/
theorem TraceFile.conclude_result : (conclude codecs last flushed (file, none)).2 =
    (last.raised.or flushed.raised).elim (.ok file.counts) .error := by
  change (finish codecs file true none last flushed).2.elim
    (Except.ok (finish codecs file true none last flushed).1.counts) Except.error = _
  rw [finish_raised, finish_counts]

end Ends

section Blocks

variable {document : Document Scalar} {archive : Archive} {digest : String} {taken : List Message}
  {rows extra : List Fields} {start final : TraceFile} {outcome : Option Failure}

/-- Nothing is on the disk. -/
theorem trustworthy_nothing (failure : Failure) :
    Trustworthy codecs selection document archive ({} : TraceFile).stream.content (.error failure) :=
  trustworthy_of_broken (broken_of_lines .nothing List.nil_prefix (Nat.zero_le 1)) fun _ => .inl rfl

/-- The end line of a failed block does not say that the trace is complete, and the one of a whole block has its
counts. -/
theorem trustworthy_conclude (checked : metadataChecked document = .ok fields) (known : archive.digest = .ok digest)
    (fine : dumpable (.dict (TraceFile.header fields digest)) = true) (fresh : start.counts = [])
    (begun : start.stream.content = codecs.line (TraceFile.header fields digest))
    (loop : TraceFile.Followed codecs selection start archive.messages archive.ending taken rows extra final outcome)
    (same : outcome = none → TraceFile.sameKeys (final.counts.map Prod.fst) selection.kinds = true) :
    Trustworthy codecs selection document archive
      (TraceFile.conclude codecs archive.last archive.flushed (final, outcome)).1.stream.content
      (TraceFile.conclude codecs archive.last archive.flushed (final, outcome)).2 := by
  have handed : Handed codecs selection document archive taken (rows ++ extra)
      (TraceFile.header fields digest :: (rows ++ extra)) := .begun checked known fine loop.starts loop.made
  have counts : final.counts = tally [] rows := by
    rw [loop.counts, fresh]
  have torn : final.stream.content <+: codecs.lines (TraceFile.header fields digest :: (rows ++ extra)) := by
    rw [codecs.lines_cons, ← begun]
    exact loop.content
  have whole (none : extra = []) :
      final.stream.content = codecs.lines (TraceFile.header fields digest :: rows) := by
    rw [codecs.lines_cons, ← begun]
    exact loop.whole none
  cases outcome with
  | some failure =>
      have ended := @TraceFile.finish_starts codecs final false (some failure.text) archive.last archive.flushed
      rw [counts] at ended
      refine trustworthy_of_broken
        ⟨taken, rows, extra, _, final.stream.content, some failure.text, handed, loop.single, torn, ended⟩ ?_
      intro smooth
      have none : extra = [] := by
        by_contra some
        obtain ⟨entry, member, raised⟩ := loop.torn some
        exact raised (smooth.messages entry member)
      subst none
      rw [List.append_nil] at handed
      refine .inr ⟨taken, rows, _, false, some failure.text, handed, ?_⟩
      have written := @TraceFile.finish_content codecs final false (some failure.text) _ _ smooth.last smooth.flushed
      rw [whole rfl, counts] at written
      rw [codecs.lines_append, codecs.lines_singleton]
      exact written
  | none =>
      obtain ⟨ended, rfl, all⟩ := loop.ended rfl
      obtain rfl : taken = archive.wanted selection := all
      rw [List.append_nil] at handed
      have counted : Counted selection rows final.counts := by
        have keys := same rfl
        rw [counts] at keys ⊢
        exact counted_of_tally keys
      have complete : Complete codecs selection document archive (TraceFile.header fields digest :: rows)
          final.counts := ⟨ended, rows, handed, counted⟩
      have text : codecs.whole (TraceFile.header fields digest :: rows) final.counts =
          final.stream.content ++ codecs.line (TraceFile.endLine true final.counts none) := by
        rw [Codecs.whole, codecs.lines_append, codecs.lines_singleton, whole rfl]
      have written (wrote : archive.last.raised = none) (left : archive.flushed.raised = none) :
          (final.finish codecs true none archive.last archive.flushed).1.stream.content =
            codecs.whole (TraceFile.header fields digest :: rows) final.counts := by
        rw [text]
        exact TraceFile.finish_content wrote left
      constructor
      · exact fun _ _ _ handed _ member => handed.strict member
      · exact fun _ _ _ => ⟨TraceFile.endLine_dumpable _ _ _, endLine_completes⟩
      · refine .inr ⟨_, final.counts, complete, ?_⟩
        rw [text]
        exact TraceFile.finish_starts
      · intro found value
        rw [TraceFile.conclude_result] at value
        cases quiet : archive.last.raised.or archive.flushed.raised with
        | some failure =>
            rw [quiet] at value
            cases value
        | none =>
            rw [quiet] at value
            cases value
            obtain ⟨wrote, left⟩ := Option.or_eq_none_iff.mp quiet
            exact ⟨_, complete, written wrote left⟩
      · intro failure value settles
        rw [TraceFile.conclude_result, settles.last, settles.flushed] at value
        cases value
      · intro smooth
        refine .inr ⟨_, rows, _, true, none, handed, ?_⟩
        rw [← counts]
        exact written smooth.last smooth.flushed

/-- The trace that the block leaves. -/
theorem trustworthy_block (codecs : Codecs) (selection : Selection) (archive : Archive)
    (checked : metadataChecked document = .ok fields) :
    Trustworthy codecs selection document archive (exportBlock codecs selection fields archive).1.stream.content
      (exportBlock codecs selection fields archive).2 := by
  unfold exportBlock
  cases known : archive.digest with
  | error failure => exact trustworthy_nothing failure
  | ok digest =>
      dsimp only
      have step := TraceFile.wrote codecs {} (TraceFile.header fields digest) archive.header
      cases landed : ({} : TraceFile).write codecs (TraceFile.header fields digest) archive.header with
      | mk start error =>
          rw [landed] at step
          cases step with
          | refused failure => exact trustworthy_nothing failure
          | @torn _ failure fine counts content raised =>
              have handed : Handed codecs selection document archive [] [] [TraceFile.header fields digest] :=
                .begun checked known fine List.nil_prefix .nil
              refine trustworthy_of_broken (broken_of_lines handed ?_ (Nat.zero_le 1)) fun smooth => ?_
              · rw [codecs.lines_singleton]
                exact content
              · rw [smooth.header] at raised
                cases raised
          | whole fine counts content returned =>
              obtain ⟨taken, rows, extra, loop, same⟩ :=
                TraceFile.collected codecs selection archive.messages archive.ending start
              exact trustworthy_conclude checked known fine counts content loop same

end Blocks

theorem checkExport_ok {document : Document Scalar} {archive : Archive}
    (checked : checkExport selection document archive = .ok (fields, codecs)) :
    metadataChecked document = .ok fields ∧ archive.opens = .ok codecs := by
  unfold checkExport at checked
  obtain ⟨metadata, first, checked⟩ := bind_eq_ok.mp checked
  obtain ⟨kinds, -, checked⟩ := bind_eq_ok.mp checked
  obtain ⟨-, -, checked⟩ := bind_eq_ok.mp checked
  obtain ⟨-, -, checked⟩ := bind_eq_ok.mp checked
  obtain ⟨opened, known, last⟩ := bind_eq_ok.mp checked
  cases last
  exact ⟨first, known⟩

/-- Whatever the archive and the stream do, the disk holds a beginning of a complete trace, or lines that may be torn
before an end line that does not say so. A trace is complete only if the archive was read to its end, each message
that was asked for has its row in the order of the archive, and the counts are right. If the export returns, all of
that is on the disk with the returned counts. If it fails although its end raised nothing, then the trace does not
say that it is complete, and without any error of the stream no line is torn. -/
theorem export_trustworthy {document : Document Scalar} {archive : Archive} {disk : List Char}
    {result : Except Failure Counts} (exported : exportMcap selection document archive = (some disk, result)) :
    ∃ codecs, archive.opens = .ok codecs ∧ Trustworthy codecs selection document archive disk result := by
  unfold exportMcap at exported
  cases checked : checkExport selection document archive with
  | error failure =>
      rw [checked] at exported
      cases exported
  | ok values =>
      obtain ⟨fields, codecs⟩ := values
      rw [checked] at exported
      cases exported
      obtain ⟨first, opened⟩ := checkExport_ok checked
      exact ⟨codecs, opened, (trustworthy_block codecs selection archive first).close⟩

section Examples

def quoted (value : String) : List Char := "\"".toList ++ value.toList ++ "\"".toList

mutual

/-- The text of `json.dumps` for a document without floats and without characters to escape. -/
def plainText : Document Scalar → List Char
  | .leaf .null => "null".toList
  | .leaf (.bool value) => (toString value).toList
  | .leaf (.int value) => (toString value).toList
  | .leaf (.float _) => []
  | .leaf (.str value) => quoted value
  | .list items => "[".toList ++ plainItems items ++ "]".toList
  | .dict entries => "\x7b".toList ++ plainEntries entries ++ "\x7d".toList

def plainItems : List (Document Scalar) → List Char
  | [] => []
  | [item] => plainText item
  | item :: rest => plainText item ++ ", ".toList ++ plainItems rest

def plainEntries : Fields → List Char
  | [] => []
  | [(name, item)] => quoted name ++ ": ".toList ++ plainText item
  | (name, item) :: rest => quoted name ++ ": ".toList ++ plainText item ++ ", ".toList ++ plainEntries rest

end

def sampleDigest : String := "0123456789abcdef0123456789abcdef0123456789abcdef0123456789abcdef"

/-- Each record has one float, which is a NaN. -/
def sampleCodecs : Codecs where
  record _ _ := .ok [("q", .leaf (.float .nan))]
  sha256 _ := sampleDigest
  dumps fields := plainText (.dict fields)
  complaint _ := "Out of range float values are not JSON compliant"

def sampleSelection : Selection where
  topicMap := [("/hand/left/state", "left_hand_state")]
  schemaHashes := [("left_hand_state", sampleDigest)]

def sampleMetadata : Document Scalar :=
  .dict [("format_version", number 1), ("device", text "robot"), ("boot_id", text "boot"),
    ("source_commit", text "0123456789abcdef0123456789abcdef01234567"), ("config_sha256", text sampleDigest),
    ("schema_sha256", text sampleDigest), ("expected_sides", .list [number 1])]

def sampleMessage (topic : String) (sequence : ℤ) : Message where
  schema := some ⟨"lowlevel.HandState", "flatbuffer", []⟩
  topic := topic
  messageEncoding := "flatbuffer"
  data := List.replicate 8 0
  logTime := 0
  sequence := sequence

/-- Two messages of three are asked for. The write of the second one ends in some way. -/
def sampleArchive (second : StreamEnding Failure) : Archive where
  schemaHash _ := .ok sampleDigest
  opens := .ok sampleCodecs
  digest := .ok sampleDigest
  header := .returns 4096
  messages := [(sampleMessage "/hand/left/state" 2, .returns 4096), (sampleMessage "/hand/left/touch" 3, .returns 0),
    (sampleMessage "/hand/left/state" 1, second)]
  ending := none
  last := .returns 0
  flushed := .returns 0
  closed := .returns 0
  incoming := none

def diskFull : Failure := .external "[Errno 28] No space left on device"

/-- The beginning of a row before the end line. -/
def tornEnd : String :=
  "\n\x7b\"q\": nu\x7b\"type\": \"end\", \"complete\": false, \"dropped_messages\": 0, " ++
    "\"counts\": \x7b\"left_hand_state\": 1\x7d, \"error\": \"[Errno 28] No space left on device\", " ++
    "\"transport_loss\": \"not_measured\"\x7d\n"

/-- The trace with both rows is complete. If eight characters of the second row land, it is torn and says so. -/
theorem export_trustworthy_hand :
    (∃ disk, exportMcap sampleSelection sampleMetadata (sampleArchive (.returns 0)) =
        (some disk, .ok [("left_hand_state", 2)]) ∧
      Trustworthy sampleCodecs sampleSelection sampleMetadata (sampleArchive (.returns 0)) disk
        (.ok [("left_hand_state", 2)])) ∧
    ∃ disk, exportMcap sampleSelection sampleMetadata (sampleArchive (.raises diskFull 8 0)) =
        (some disk, .error diskFull) ∧ tornEnd.toList <:+ disk ∧
      Trustworthy sampleCodecs sampleSelection sampleMetadata (sampleArchive (.raises diskFull 8 0)) disk
        (.error diskFull) := by
  have trusted {second : StreamEnding Failure} {disk : List Char} {result : Except Failure Counts}
      (exported : exportMcap sampleSelection sampleMetadata (sampleArchive second) = (some disk, result)) :
      Trustworthy sampleCodecs sampleSelection sampleMetadata (sampleArchive second) disk result := by
    obtain ⟨codecs, same, trusted⟩ := export_trustworthy exported
    cases same
    exact trusted
  constructor
  · have opened : (exportMcap sampleSelection sampleMetadata (sampleArchive (.returns 0))).1.isSome = true := by
      decide +kernel
    have counted : (exportMcap sampleSelection sampleMetadata (sampleArchive (.returns 0))).2 =
        .ok [("left_hand_state", 2)] := by decide +kernel
    obtain ⟨disk, found⟩ := Option.isSome_iff_exists.mp opened
    exact ⟨disk, Prod.ext found counted, trusted (Prod.ext found counted)⟩
  · have torn : (exportMcap sampleSelection sampleMetadata (sampleArchive (.raises diskFull 8 0))).1.any
        (tornEnd.toList.isSuffixOf ·) = true := by decide +kernel
    have raised : (exportMcap sampleSelection sampleMetadata (sampleArchive (.raises diskFull 8 0))).2 =
        .error diskFull := by decide +kernel
    obtain ⟨disk, found, last⟩ := (Option.any_eq_true _ _).mp torn
    exact ⟨disk, Prod.ext found raised, List.isSuffixOf_iff_suffix.mp last, trusted (Prod.ext found raised)⟩

end Examples

end HumanoidSdk.Capture
