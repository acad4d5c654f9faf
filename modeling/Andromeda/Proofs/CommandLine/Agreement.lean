import Mathlib.Algebra.Order.Floor.Div
import Andromeda.Display.Plain
import Andromeda.Proofs.Assembly.Offsets
import Andromeda.Proofs.CommandLine.Blame
import Andromeda.Proofs.CommandLine.Delivery

namespace Andromeda

open Outcome

def Shown.diagnostic : Shown → Bool
  | .trace _ | .log _ => true
  | _ => false

def Trouble.fault? : Trouble → Option FileFault
  | .fault reason => some reason
  | _ => none

def Trouble.told : Trouble → List Shown
  | .missing path => [.text .err (missingText path)]
  | .fault _ => []
  | .undecodable name error => [.text .err (styled "red" (name ++ ": " ++ error.message))]

/-- A command that was stopped says why, and has done nothing else. -/
structure Report.Tells (environment : Environment) (report : Report) (trouble : Trouble) :
    Prop where
  exitCode : report.exitCode = 1
  fault : report.fault = trouble.fault?
  told : (report.shown.filter fun item => !item.diagnostic) = trouble.told
  output : report.output = []
  files : report.files = environment.files

/-- The figures of an image are those of its bytes, and of the blocks that came for it. -/
structure Summary.Describes (summary : Summary) (limits : Limits) (data : Bytes) : Prop where
  length : summary.length = data.length
  checksum : summary.checksum = total data.values
  blockCount : summary.blockCount = (data.length ⌈/⌉ 256 : Nat)
  frames : (summary.frames : Int) = summary.blockCount + summary.duplicates.length
  inside : ∀ index ∈ summary.duplicates, 0 ≤ index ∧ index < summary.blockCount
  strict : limits.strict = true → summary.duplicates = []
  kind : summary.kind = some .os ∨ summary.kind = some .boot

structure Report.Summarizes (paths : List Path) (limits : Limits) (report : Report)
    (data : Bytes) : Prop where
  fault : report.fault = none
  output : report.output = []
  summary : ∃ summary, (report.shown.filter fun item => item.channel = .out) =
      [.summary .out summary] ∧
    summary.sources = paths.map Path.text ∧ summary.Describes limits data

structure Report.Prints (report : Report) (data : Bytes) : Prop where
  fault : report.fault = none
  output : report.output = data
  aside : Aside report.shown

/-- The figures of inputs and their bytes: both are there, or both are missing for one reason. -/
structure Report.AgreeOn (environment : Environment) (paths : List Path) (limits : Limits)
    (figures bytes : Report) : Prop where
  together : figures.exitCode = 0 ↔ bytes.exitCode = 0
  stopped : figures.exitCode ≠ 0 →
    ∃ trouble, figures.Tells environment trouble ∧ bytes.Tells environment trouble
  made : figures.exitCode = 0 →
    ∃ data, figures.Summarizes paths limits data ∧ bytes.Prints data

section Figures

variable {limits : Limits} {buffers : List Bytes} {image : Image} {sources : List String}

theorem decode_update_kind
    (made : ((Decoder.start limits .update).decode buffers).result = .ok image) :
    image.kind = some .os ∨ image.kind = some .boot := by
  obtain ⟨_, plain, assembled, fields⟩ := decode_ok_iff.mp made
  have known : image.kind ≠ none := by
    rw [fields]
    cases found : framesOf .update buffers with
    | nil =>
        rw [found] at assembled
        exact absurd assembled (assemble_nothing limits plain)
    | cons frame rest =>
        have member : frame ∈ framesOf .update buffers := found ▸ List.mem_cons_self
        obtain ⟨data, _, inside⟩ := List.mem_flatMap.mp member
        exact ofOpcode?_update frame.opcode ((mem_frames_iff ..).mp inside).opcode
  cases told : image.kind with
  | none => exact absurd told known
  | some kind =>
      cases kind with
      | os => exact .inl rfl
      | boot => exact .inr rfl

theorem summarize_describes
    (made : ((Decoder.start limits .update).decode buffers).result = .ok image) :
    (summarize sources ((Decoder.start limits .update).decode buffers).state image).Describes
      limits image.data := by
  have kind := decode_update_kind made
  obtain ⟨counted, assembly⟩ := decode_state made
  rw [contentsOf, List.length_map] at counted
  rw [contentsOf, blocksOf_map_content] at assembly
  obtain ⟨_, plain, assembled, rfl⟩ := decode_ok_iff.mp made
  obtain ⟨header, deliverable, rfl⟩ := (assemble_ok_iff ..).mp assembled
  obtain ⟨_, added, _⟩ := andThen_ok_iff.mp assembled
  have accepted := (addAll_start limits _).1.mp added
  have duplicates :
      (((Decoder.start limits .update).decode buffers).state.assembly.warnings).toList =
        repeatsAfter [] ((framesOf .update buffers).map Frame.block) := by
    rw [assembly, after_warnings]
  have frames : (((Decoder.start limits .update).decode buffers).state.frameCount : Int) =
      header.blockCount +
        (repeatsAfter [] ((framesOf .update buffers).map Frame.block)).length := by
    rw [counted, ← List.length_map Frame.block, deliverable.length_blocks, after_warnings,
      List.size_toArray]
  have length := deliverable.length_imageData
  have count := deliverable.count
  refine ⟨length.symm, deliverable.total_imageData.symm, ?_, ?_, ?_, ?_, kind⟩
  · rw [Nat.ceilDiv_eq_add_pred_div]
    change header.blockCount = (((imageData header _).length + 256 - 1) / 256 : Nat)
    omega
  · simp only [summarize, duplicates, List.length_map]
    exact frames
  · simp only [summarize, duplicates, List.forall_mem_map]
    intro warning warned
    obtain ⟨before, block, after, parts, _, rfl⟩ := mem_repeatsAfter.mp warned
    have present : block ∈ (framesOf .update buffers).map Frame.block := by simp [parts]
    exact ⟨fieldAt_nonneg block 14 2, deliverable.index block present⟩
  · intro strict
    rw [summarize, duplicates, repeatsAfter_strict strict accepted]
    rfl

end Figures

section Reports

variable {environment : Environment} {shown : List Shown}

theorem filter_shownLog (verbose : Bool) (records : List LogRecord) :
    ((shownLog verbose records).filter fun item => !item.diagnostic) = [] := by
  rw [List.filter_eq_nil_iff]
  intro item member
  obtain ⟨record, _, rfl⟩ := List.mem_map.mp member
  exact Bool.false_ne_true

theorem troubled_tells (verbose : Bool) (records : List LogRecord) (trouble : Trouble) :
    (Report.troubled environment verbose (shownLog verbose records) trouble).Tells environment
      trouble := by
  have logged := filter_shownLog verbose records
  cases trouble with
  | missing path =>
      refine ⟨rfl, rfl, ?_, rfl, rfl⟩
      change ((shownLog verbose records ++ _).filter _) = _
      rw [List.filter_append, logged]
      rfl
  | fault fault => exact ⟨rfl, rfl, logged, rfl, rfl⟩
  | undecodable name error =>
      refine ⟨rfl, rfl, ?_, rfl, rfl⟩
      change ((shownLog verbose records ++ _).filter _) = _
      rw [List.filter_append, logged]
      cases verbose <;> rfl

theorem filter_aside (aside : Aside shown) :
    (shown.filter fun item => item.channel = .out) = [] := by
  rw [List.filter_eq_nil_iff]
  intro item member
  rw [aside item member]
  decide

end Reports

/-- The figures that are asked for are those of the bytes that would be written, and where there are
no bytes, there are no figures for the same reason. -/
theorem figures_agree {paths : List Path} (some : paths ≠ []) (environment : Environment)
    (limits : Limits) (hex verbose loud : Bool) :
    Report.AgreeOn environment paths limits
      ((Command.info ⟨paths, hex, true, limits, verbose⟩).run environment)
      ((Command.decode ⟨paths, none, false, limits, loud⟩).run environment) := by
  have names := names_inputsOf some environment.files environment.standard
  have whole := @decodedBytes_image ⟨paths, none, false, limits, loud⟩
    (inputsOf environment.files environment.standard paths) rfl
  rw [Command.run, Command.run, runInfo, runDecode]
  simp only [whole]
  cases result : (decodeInputs (.start limits .update) standardName #[]
      (inputsOf environment.files environment.standard paths)).result with
  | error trouble =>
      refine ⟨?_, fun _ => ⟨trouble, troubled_tells .., troubled_tells ..⟩, ?_⟩
      · simp only [Except.map, (troubled_tells ..).exitCode]
      · intro made
        exact absurd ((troubled_tells ..).exitCode.symm.trans made) Nat.one_ne_zero
  | ok finished =>
      obtain ⟨decoder, image⟩ := finished
      obtain ⟨buffers, _, made, rfl⟩ := decodeInputs_ok_iff.mp result
      refine ⟨Iff.rfl, fun failed => absurd rfl failed, fun _ => ⟨image.data, ?_, ?_⟩⟩
      · refine ⟨rfl, rfl, _, ?_, names, summarize_describes made⟩
        change ((shownLog _ _ ++ [_]).filter _) = _
        rw [List.filter_append, filter_aside (aside_shownLog _ _)]
        rfl
      · exact ⟨rfl, rfl, aside_append.mpr ⟨aside_shownLog _ _, aside_lines _ image⟩⟩

theorem firstFile_agrees :
    strayPaths.take 1 ≠ [] ∧
      ((Command.decode ⟨strayPaths.take 1, none, false, .widest, false⟩).run strayFiles).output =
        [0x00] ∧
      Report.AgreeOn strayFiles (strayPaths.take 1) .widest
        ((Command.info ⟨strayPaths.take 1, false, true, .widest, false⟩).run strayFiles)
        ((Command.decode ⟨strayPaths.take 1, none, false, .widest, false⟩).run strayFiles) := by
  have some : strayPaths.take 1 ≠ [] := by decide
  exact ⟨some, by decide +kernel, figures_agree some strayFiles .widest false false false⟩

end Andromeda
