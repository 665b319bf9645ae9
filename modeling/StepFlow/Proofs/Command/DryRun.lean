import StepFlow.Proofs.Command.Arguments
import StepFlow.Proofs.Command.Steps
import StepFlow.Proofs.Files.Replacing

/-! What a run that only prints tells about the run that writes. Main statement: the run that writes
ends well exactly if what the dry run prints can be read again, and then this is what it writes.
Insertions and changes are checked for that in either run; deletions only when they are written. The
runs are executions of their own, which have to list sets alike: the elements of a set come in no order
that is the same for all executions. -/
namespace StepFlow

open Outcome Files

/-! ### Executions that list sets alike -/

section

variable {first second : Execution}

namespace Yaml

mutual

theorem write_of_listing (alike : first.listing = second.listing) (column : Nat) (inMapping : Bool) :
    ∀ (value : Value) (pen : Pen), @write first column inMapping value pen = @write second column inMapping value pen
  | .scalar s, pen => by simp only [write]
  | .list [], pen => by simp only [write]
  | .list (item :: items), pen => by
    simp only [write]
    exact writeItems_of_listing alike _ (item :: items) pen
  | .pair before after, pen => by
    simp only [write]
    rw [write_of_listing alike _ _ before, write_of_listing alike _ _ after]
  | .map [], pen => by simp only [write]
  | .map (member :: members), pen => by
    simp only [write]
    exact writeMembers_of_listing alike _ (member :: members) pen
  | .set elements, pen => by simp only [write, alike]

theorem writeItems_of_listing (alike : first.listing = second.listing) (column : Nat) :
    ∀ (items : List Value) (pen : Pen), @writeItems first column items pen = @writeItems second column items pen
  | [], pen => by simp only [writeItems]
  | item :: items, pen => by
    simp only [writeItems]
    rw [write_of_listing alike _ _ item, writeItems_of_listing alike _ items]

theorem writeMembers_of_listing (alike : first.listing = second.listing) (column : Nat) :
    ∀ (members : List (Scalar × Value)) (pen : Pen),
      @writeMembers first column members pen = @writeMembers second column members pen
  | [], pen => by simp only [writeMembers]
  | (key, value) :: members, pen => by
    simp only [writeMembers]
    rw [write_of_listing alike _ _ value, writeMembers_of_listing alike _ members]

end

end Yaml

variable (alike : first.listing = second.listing)

include alike

namespace Graph

variable {graph : Graph}

theorem render_of_listing : @render first graph = @render second graph := by
  simp only [render, Yaml.render, Yaml.writeMembers_of_listing alike]

variable [Installation]

theorem dump_of_listing : @dump _ first graph = @dump _ second graph := by
  simp only [dump, render_of_listing alike]

theorem checked_of_listing {catalog : Option Catalog} {location : String} :
    @checked _ first graph catalog location = @checked _ second graph catalog location := by
  simp only [checked, confirm, dump_of_listing alike]

end Graph

theorem Command.edit_of_listing [Installation] {files : Files} {settings : Settings} {invocation : Invocation}
    {graph : Graph} : @edit _ first files settings invocation graph = @edit _ second files settings invocation graph := by
  simp only [edit, Graph.applyChecked, Graph.updateChecked, Graph.checked_of_listing alike]

end

namespace Graph

theorem exists_confirm_iff [Installation] [Execution] {graph : Graph} {label : String} :
    (∃ reread, graph.confirm = .ok reread) ↔ ∃ text reread, graph.dump = .ok text ∧ load text label = .ok reread := by
  simp only [confirm_eq_ok_iff, load_eq_ok_iff]
  constructor
  · rintro ⟨reread, dumped, spelled⟩
    exact ⟨_, reread, dumped, spelled⟩
  · rintro ⟨text, reread, dumped, spelled⟩
    obtain rfl := render_of_dump dumped
    exact ⟨reread, dumped, spelled⟩

end Graph

namespace Command

section

variable [Installation] {arguments writeArguments : List String} {environment : Environment} {files : Files}
  {invocation : Invocation} {outcome printed written : Outcome} {execution : Execution}

def EndsWell (execution : Execution) (arguments : List String) (environment : Environment) (files : Files)
    (outcome : Outcome) : Prop :=
  run arguments environment files = .ok outcome ∧ outcome.status = .success

/-- An edit that is made, and is still to be printed or written. -/
structure Pending where
  settings : Settings
  updated : Graph
  version : String
  summary : String
  traces : Traces

namespace Pending

variable {pending other : Pending}

def finish [Execution] (pending : Pending) (invocation : Invocation) : Step String :=
  Command.finish invocation pending.settings pending.updated pending.version pending.summary

def IsMadeBy (pending : Pending) (execution : Execution) (environment : Environment) (files : Files)
    (invocation : Invocation) : Prop :=
  ∃ settled graph, Settings.resolve environment Installation.configuration = .ok settled ∧
    pending.settings = settled.value ∧ files.readFlow invocation.flow = .ok (graph, pending.version) ∧
    runFrom (edit files settled.value invocation graph) ⟨settled.warnings, files⟩ =
      (.ok (pending.updated, pending.summary), pending.traces)

/-- Standard output takes the text of the edited graph, and that it was written. -/
structure IsTaken (pending : Pending) (printing writing : Execution) (path : Path) : Prop where
  printed : printing.refusal? (@Graph.render printing pending.updated) = none
  said : writing.refusal? (wroteLine pending.summary path) = none

theorem IsMadeBy.unique (made : pending.IsMadeBy execution environment files invocation)
    (madeToo : other.IsMadeBy execution environment files invocation) : pending = other := by
  obtain ⟨settled, graph, resolved, settings, read, edits⟩ := made
  obtain ⟨settledToo, graphToo, resolvedToo, settingsToo, readToo, editsToo⟩ := madeToo
  obtain rfl := Except.ok.inj (resolved.symm.trans resolvedToo)
  obtain ⟨rfl, sameVersion⟩ := Prod.mk.inj (Except.ok.inj (read.symm.trans readToo))
  obtain ⟨same, sameTraces⟩ := Prod.mk.inj (edits.symm.trans editsToo)
  obtain ⟨sameGraph, sameSummary⟩ := Prod.mk.inj (Except.ok.inj same)
  cases pending
  cases other
  simp_all

theorem IsMadeBy.files_eq (made : pending.IsMadeBy execution environment files invocation) :
    pending.traces.files = files := by
  obtain ⟨settled, graph, -, -, -, edits⟩ := made
  exact keepsFiles_edit.files_eq edits

theorem IsMadeBy.confirm (made : pending.IsMadeBy execution environment files invocation)
    (isChecked : invocation.task.IsChecked) : ∃ reread, pending.updated.confirm = .ok reread := by
  obtain ⟨settled, graph, -, -, -, edits⟩ := made
  obtain ⟨catalog, candidate, location, -, passed⟩ := edit_eq_ok isChecked edits
  obtain ⟨same, reread, confirmed, -⟩ := Graph.checked_eq_ok passed
  exact ⟨reread, same ▸ confirmed⟩

theorem isMadeBy_of_listing {printing writing : Execution} (alike : printing.listing = writing.listing) :
    pending.IsMadeBy printing environment files invocation ↔
      pending.IsMadeBy writing environment files invocation := by
  simp only [IsMadeBy, edit_of_listing alike]

end Pending

theorem endsWell_iff (asked : Invocation.ofArguments arguments = .ok invocation)
    (isEdit : invocation.task ≠ .validate) : EndsWell execution arguments environment files outcome ↔
    ∃ pending : Pending, pending.IsMadeBy execution environment files invocation ∧ ∃ output later,
      runFrom (pending.finish invocation) pending.traces = (.ok output, later) ∧
        outcome = ⟨.success, output, "", later⟩ := by
  rw [EndsWell, run, asked]
  simp only [run_eq_ok_iff, carryOut_edit_eq_ok isEdit]
  constructor
  · rintro ⟨settled, output, later, resolved, carried, rfl⟩
    obtain ⟨graph, version, updated, summary, middle, read, edits, done⟩ := carried
    exact ⟨⟨settled.value, updated, version, summary, middle⟩,
      ⟨settled, graph, resolved, rfl, read, edits⟩, output, later, done, rfl⟩
  · rintro ⟨⟨_, updated, version, summary, middle⟩, made, output, later, done, rfl⟩
    obtain ⟨settled, graph, resolved, rfl, read, edits⟩ := made
    exact ⟨settled, output, later, resolved,
      ⟨graph, version, updated, summary, middle, read, edits, done⟩, rfl⟩

section

variable {dry : Invocation} (isEdit : dry.task ≠ .validate)

include isEdit

/-- A dry run prints the text of the edited graph, whether or not that can be read again. -/
theorem endsWell_print_iff (asked : Invocation.ofArguments arguments = .ok dry) (prints : dry.write = false)
    (plain : dry.json = false) : EndsWell execution arguments environment files outcome ↔
    ∃ pending : Pending, pending.IsMadeBy execution environment files dry ∧ ∃ text,
      pending.updated.dump = .ok text ∧ execution.refusal? text = none ∧
        outcome = ⟨.success, text, "", pending.traces⟩ := by
  rw [endsWell_iff asked isEdit]
  refine exists_congr fun pending => and_congr_right fun _ => ?_
  refine exists_congr fun text => ?_
  simp only [Pending.finish, finish_eq_ok prints plain]
  constructor
  · rintro ⟨later, ⟨dumped, taken, rfl⟩, rfl⟩
    exact ⟨dumped, taken, rfl⟩
  · rintro ⟨dumped, taken, rfl⟩
    exact ⟨_, ⟨dumped, taken, rfl⟩, rfl⟩

/-- A run that writes saves the edited graph over the version that was read. -/
theorem endsWell_write (asked : Invocation.ofArguments writeArguments = .ok { dry with write := true })
    (endsWell : EndsWell execution writeArguments environment files written) :
    ∃ pending : Pending, pending.IsMadeBy execution environment files dry ∧ ∃ saved,
      (Change.saveFlow dry.flow pending.updated (some pending.version) pending.settings.keepBackup).outcome files =
        (.ok saved, written.traces.files) := by
  obtain ⟨pending, made, output, later, done, rfl⟩ := (endsWell_iff asked isEdit).mp endsWell
  obtain ⟨-, saved, after, saves, rfl⟩ := (exists_finish_iff rfl).mp ⟨output, done⟩
  rw [Pending.IsMadeBy.files_eq made] at saves
  exact ⟨pending, made, saved, saves⟩

/-- Where the file can be replaced, the run that writes hangs on the graph alone. -/
theorem exists_endsWell_write_iff (asked : Invocation.ofArguments writeArguments = .ok { dry with write := true })
    (replaceable : ∀ settled, Settings.resolve environment Installation.configuration = .ok settled →
      files.IsReplaceable dry.flow settled.value.keepBackup)
    (taken : ∀ pending : Pending, pending.IsMadeBy execution environment files dry →
      execution.refusal? (wroteLine pending.summary dry.flow) = none) :
    (∃ written, EndsWell execution writeArguments environment files written) ↔
      ∃ pending : Pending, pending.IsMadeBy execution environment files dry ∧
        ∃ reread, pending.updated.confirm = .ok reread := by
  constructor
  · rintro ⟨written, endsWell⟩
    obtain ⟨pending, made, saved, saves⟩ := endsWell_write isEdit asked endsWell
    exact ⟨pending, made, (Change.saveFlow_eq_ok saves).2.1⟩
  · rintro ⟨pending, made, confirmed⟩
    have ⟨settled, graph, resolved, settings, found, edits⟩ := made
    obtain ⟨saved, after, saves⟩ :=
      (Change.exists_saveFlow_iff (settings ▸ replaceable settled resolved) found).mpr confirmed
    rw [← made.files_eq] at saves
    have finishes : ∃ output, runFrom (pending.finish { dry with write := true }) pending.traces =
        (.ok output, { pending.traces with files := after }) :=
      (exists_finish_iff rfl).mpr ⟨.inr (taken pending made), saved, after, saves, rfl⟩
    obtain ⟨output, done⟩ := finishes
    exact ⟨_, (endsWell_iff asked isEdit).mpr ⟨pending, made, output, _, done, rfl⟩⟩

end

/-- The dry run foretells the run that writes, as long as what it prints can be read again: always
after an edit that is checked, but a deletion is checked only when it is written. Both executions list
sets alike, and standard output takes what either has to say. -/
theorem run_write_iff {printing writing : Execution} {dry : Invocation} (alike : printing.listing = writing.listing)
    (asked : Invocation.ofArguments arguments = .ok dry)
    (askedToWrite : Invocation.ofArguments writeArguments = .ok { dry with write := true })
    (prints : dry.write = false) (plain : dry.json = false) (isEdit : dry.task ≠ .validate)
    (replaceable : ∀ settled, Settings.resolve environment Installation.configuration = .ok settled →
      @IsReplaceable writing files dry.flow settled.value.keepBackup)
    (taken : ∀ pending : Pending, pending.IsMadeBy writing environment files dry →
      pending.IsTaken printing writing dry.flow) :
    ((∃ written, EndsWell writing writeArguments environment files written) ↔
      ∃ printed reread, EndsWell printing arguments environment files printed ∧
        Graph.load printed.output dry.flow.text = .ok reread) ∧
    (dry.task.IsChecked → ((∃ printed, EndsWell printing arguments environment files printed) ↔
      ∃ written, EndsWell writing writeArguments environment files written)) ∧
    ∀ printed written, EndsWell printing arguments environment files printed →
      EndsWell writing writeArguments environment files written →
        written.traces.files.read dry.flow = .ok printed.output.toUTF8 := by
  -- the dry run in terms of the execution that writes
  have prints_iff {outcome : Outcome} : EndsWell printing arguments environment files outcome ↔
      ∃ pending : Pending, pending.IsMadeBy writing environment files dry ∧ ∃ text,
        @Graph.dump _ writing pending.updated = .ok text ∧ outcome = ⟨.success, text, "", pending.traces⟩ := by
    rw [endsWell_print_iff isEdit asked prints plain]
    simp only [Pending.isMadeBy_of_listing alike, Graph.dump_of_listing alike]
    refine exists_congr fun pending => and_congr_right fun made => exists_congr fun text => ?_
    refine and_congr_right fun dumped => and_iff_right ?_
    rw [Graph.render_of_dump dumped, ← Graph.render_of_listing alike]
    exact (taken pending made).printed
  have writes : (∃ written, EndsWell writing writeArguments environment files written) ↔
      ∃ pending : Pending, pending.IsMadeBy writing environment files dry ∧
        ∃ reread, @Graph.confirm _ writing pending.updated = .ok reread :=
    exists_endsWell_write_iff isEdit askedToWrite replaceable fun pending made => (taken pending made).said
  refine ⟨?_, fun isChecked => ?_, fun printed written isPrinted isWritten => ?_⟩
  · rw [writes]
    constructor
    · rintro ⟨pending, made, confirmed⟩
      obtain ⟨text, reread, dumped, loaded⟩ := Graph.exists_confirm_iff.mp confirmed
      exact ⟨_, reread, prints_iff.mpr ⟨pending, made, text, dumped, rfl⟩, loaded⟩
    · rintro ⟨printed, reread, isPrinted, loaded⟩
      obtain ⟨pending, made, text, dumped, rfl⟩ := prints_iff.mp isPrinted
      exact ⟨pending, made, Graph.exists_confirm_iff.mpr ⟨text, reread, dumped, loaded⟩⟩
  · rw [writes]
    constructor
    · rintro ⟨printed, isPrinted⟩
      obtain ⟨pending, made, -⟩ := prints_iff.mp isPrinted
      exact ⟨pending, made, made.confirm isChecked⟩
    · rintro ⟨pending, made, reread, confirmed⟩
      have dumped := (Graph.confirm_eq_ok_iff.mp confirmed).1
      exact ⟨_, prints_iff.mpr ⟨pending, made, _, dumped, rfl⟩⟩
  · obtain ⟨pending, made, text, dumped, rfl⟩ := prints_iff.mp isPrinted
    obtain ⟨other, madeToo, saved, saves⟩ := endsWell_write isEdit askedToWrite isWritten
    obtain rfl := made.unique madeToo
    rw [Change.read_of_saveFlow saves, Graph.render_of_dump dumped]

end

attribute [local instance] Installation.usual Execution.usual

def flowFile : Path := ⟨["flow.ygtc"]⟩

def directoryOf (flow : String) : Files := ⟨[(["flow.ygtc"], .file flow.toUTF8)]⟩

theorem isReplaceable_directoryOf {flow : String} {keepBackup : Bool} :
    (directoryOf flow).IsReplaceable flowFile keepBackup where
  named := by decide
  temporary := by
    have means : (directoryOf flow).Means flowFile.backup ["flow.ygtc.bak"] :=
      ⟨["flow.ygtc.bak"], by rfl, by rfl⟩
    refine ⟨0, by decide, ["flow_abcdefg0.tmp"], by rfl, by rfl, fun _ meansToo => ?_⟩
    exact absurd (means.unique meansToo) (by decide)
  copy _ := ⟨by rfl, ["flow.ygtc.bak"], ⟨["flow.ygtc.bak"], by rfl, by rfl⟩, .inr ⟨by rfl, by rfl, by decide⟩⟩

def reply : Invocation :=
  ⟨flowFile, [], false, false, .updateStep "say" none none none ⟨false, true, none, none, none⟩⟩

def replyOptions : List String := ["flow.ygtc", "--step", "say", "--routing-reply"]

def replyFiles : Files := directoryOf "id: hi\ntype: messaging\nnodes:\n  say:\n    template: Hi\n"

theorem ofArguments_reply : Invocation.ofArguments ("update-step" :: replyOptions) = .ok reply := by
  decide +kernel

theorem status_reply : (run ("update-step" :: replyOptions) [] replyFiles).map Outcome.status = .ok .success ∧
    (run ("update-step" :: writeSwitch :: replyOptions) [] replyFiles).map Outcome.status = .ok .success := by
  decide +kernel

/-- Standard output took what the runs said that ended well. -/
theorem isTaken_reply : ∀ pending : Pending, pending.IsMadeBy .usual [] replyFiles reply →
    pending.IsTaken .usual .usual reply.flow := by
  have isEdit : reply.task ≠ .validate := nofun
  obtain ⟨prints, writes⟩ := status_reply
  obtain ⟨printed, isPrinted⟩ := map_eq_ok.mp prints
  obtain ⟨written, isWritten⟩ := map_eq_ok.mp writes
  obtain ⟨first, madeFirst, text, dumped, taken, -⟩ :=
    (endsWell_print_iff isEdit ofArguments_reply rfl rfl).mp isPrinted
  obtain ⟨second, madeSecond, output, later, done, -⟩ :=
    (endsWell_iff (Invocation.ofArguments_writeSwitch ofArguments_reply) isEdit).mp isWritten
  obtain ⟨said, -⟩ := (exists_finish_iff rfl).mp ⟨output, done⟩
  intro pending made
  obtain rfl := made.unique madeFirst
  obtain rfl := made.unique madeSecond
  exact ⟨Graph.render_of_dump dumped ▸ taken, said.resolve_left (by decide)⟩

theorem run_write_iff_reply : ∃ printed written,
    EndsWell .usual ("update-step" :: replyOptions) [] replyFiles printed ∧
    EndsWell .usual ("update-step" :: writeSwitch :: replyOptions) [] replyFiles written ∧
    (∃ reread, Graph.load printed.output "flow.ygtc" = .ok reread) ∧
    written.traces.files.read flowFile = .ok printed.output.toUTF8 := by
  have askedToWrite := Invocation.ofArguments_writeSwitch ofArguments_reply
  have replaceable : ∀ settled, Settings.resolve [] Installation.configuration = .ok settled →
      replyFiles.IsReplaceable reply.flow settled.value.keepBackup :=
    fun _ _ => isReplaceable_directoryOf
  obtain ⟨readable, predicts, same⟩ :=
    run_write_iff rfl ofArguments_reply askedToWrite rfl rfl nofun replaceable isTaken_reply
  obtain ⟨printed, done, succeeded⟩ := map_eq_ok.mp status_reply.1
  obtain ⟨written, writes⟩ := (predicts trivial).mp ⟨printed, done, succeeded⟩
  obtain ⟨again, reread, prints, loaded⟩ := readable.mp ⟨written, writes⟩
  exact ⟨again, written, prints, writes, ⟨reread, loaded⟩, same again written prints writes⟩

/-- A flow in which a step is deleted beside one that has a number for its name. -/
def numberedFiles : Files :=
  directoryOf "id: f\ntype: t\nnodes:\n  1:\n    template: one\n  a:\n    template: two\n"

def deleteOptions : List String := ["flow.ygtc", "--step", "a"]

theorem status_numbered :
    (run ("delete-step" :: deleteOptions) [] numberedFiles).map Outcome.status = .ok .success ∧
    (run ("delete-step" :: writeSwitch :: deleteOptions) [] numberedFiles).map Outcome.status = .ok .refused := by
  decide +kernel

/-- The dry run of the deletion ends well, and the run that writes does not. -/
theorem not_run_write_iff_numbered : numberedFiles.IsReplaceable flowFile true ∧
    ¬ ((∃ printed, EndsWell .usual ("delete-step" :: deleteOptions) [] numberedFiles printed) ↔
      ∃ written, EndsWell .usual ("delete-step" :: writeSwitch :: deleteOptions) [] numberedFiles written) := by
  obtain ⟨prints, writes⟩ := status_numbered
  obtain ⟨printed, done, succeeded⟩ := map_eq_ok.mp prints
  obtain ⟨refused, doneToo, isRefused⟩ := map_eq_ok.mp writes
  refine ⟨isReplaceable_directoryOf, fun predicts => ?_⟩
  obtain ⟨written, ran, isWritten⟩ := predicts.mp ⟨printed, done, succeeded⟩
  obtain rfl := Except.ok.inj (ran.symm.trans doneToo)
  cases isWritten.symm.trans isRefused

end Command

end StepFlow
