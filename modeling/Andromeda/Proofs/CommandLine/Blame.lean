import Andromeda.Proofs.CommandLine.Inputs
import Andromeda.Proofs.Decoder.Modes
import Andromeda.Proofs.Decoder.Opcodes

/-!
Whom an error is blamed on. A frame whose opcode is not that of the frames before it stands in one
of the inputs, at an offset of that input. Inputs that are decoded one by one are blamed for what
they hold; where all of them are read first, the last one is blamed.
-/

namespace Andromeda

open Outcome

def Command.inputs (environment : Environment) : Command → List Input
  | .decode command => inputsOf environment.files environment.standard command.files
  | .info command => inputsOf environment.files environment.standard command.files
  | _ => []

def Decoded.trouble? {α : Type} (decoded : Decoded α) : Option Trouble :=
  match decoded.result with
  | .error trouble => some trouble
  | .ok _ => none

def Command.trouble? (environment : Environment) : Command → Option Trouble
  | .decode command =>
    (decodedBytes command ((Command.decode command).inputs environment)).trouble?
  | .info command =>
    (decodeInputs (.start command.limits .update) standardName #[]
      ((Command.info command).inputs environment)).trouble?
  | _ => none

def Command.stepwise : Command → Bool
  | .decode command => !command.blocks
  | _ => true

/-- A frame in an input has another opcode than all the frames before it, in that input and in
those in front of it. -/
structure StraysIn (before : List Input) (input : Input) (buffers : List Bytes) (data : Bytes)
    (front : List Frame) (frame : Frame) (expected : Int) : Prop where
  read : List.Forall₂ Input.Holds before buffers
  holds : input.Holds data
  found : ∃ back, frames .update data = front ++ frame :: back
  some : framesOf .update buffers ++ front ≠ []
  same : ∀ earlier ∈ framesOf .update buffers ++ front, earlier.opcode = expected
  other : frame.opcode ≠ expected
  byte : ∃ (position : Nat) (byte : UInt8), frame.opcodePosition = position ∧
    data[position]? = .some byte ∧ frame.opcode = byte.toNat

variable {environment : Environment} {command : Command} {limits : Limits} {input : Input}
  {inputs before after : List Input} {buffers : List Bytes} {data : Bytes} {front : List Frame}
  {frame : Frame} {name : String} {offset expected actual : Int} {trouble : Trouble}

theorem FirstStray.straysIn {found back : List Frame}
    (stray : FirstStray found (framesOf .update buffers ++ front) expected frame)
    (read : List.Forall₂ Input.Holds before buffers) (holds : input.Holds data)
    (inside : frames .update data = front ++ frame :: back) :
    StraysIn before input buffers data front frame expected := by
  have occurs : Occurs OpcodeSet.update.members data frame :=
    (mem_frames_iff ..).mp (by simp [inside])
  exact ⟨read, holds, ⟨back, inside⟩, stray.some, stray.same, stray.other, occurs.opcode_byte⟩

def Input.Unseen (input : Input) : Prop :=
  ∀ name error, input.content ≠ .error (.undecodable name error)

theorem unseen_read (tree : FileTree) (path : Path) (name : String) :
    Input.Unseen ⟨name, tree.read path⟩ := by
  intro name error unread
  rw [FileTree.read] at unread
  split at unread <;> cases unread

theorem unseen_inputsFrom (tree : FileTree) (standard : Bytes) (paths : List Path) :
    ∀ input ∈ inputsFrom tree standard paths, input.Unseen := by
  induction paths generalizing standard with
  | nil => exact List.forall_mem_nil _
  | cons path paths ih =>
      rw [inputsFrom]
      split
      · refine List.forall_mem_cons.mpr ⟨?_, ih []⟩
        intro name error unread
        cases unread
      · exact List.forall_mem_cons.mpr ⟨unseen_read tree path _, ih standard⟩

theorem unseen_inputs (environment : Environment) (command : Command) :
    ∀ input ∈ command.inputs environment, input.Unseen := by
  have all (paths : List Path) :
      ∀ input ∈ inputsOf environment.files environment.standard paths, input.Unseen := by
    rw [inputsOf]
    split
    · refine List.forall_mem_cons.mpr ⟨?_, List.forall_mem_nil _⟩
      intro name error unread
      cases unread
    · exact unseen_inputsFrom environment.files environment.standard paths
  cases command with
  | decode command => exact all command.files
  | info command => exact all command.files
  | _ => exact List.forall_mem_nil _

theorem feed_stray (fed : ((Decoder.start limits .update).feedAll buffers).result = .ok ())
    (fails : (((Decoder.start limits .update).feedAll buffers).state.feed data).result =
      .error (.inconsistentOpcode offset expected actual)) :
    ∃ front back frame, FirstStray (framesOf .update buffers ++ frames .update data)
        (framesOf .update buffers ++ front) expected frame ∧
      frames .update data = front ++ frame :: back ∧
      offset = frame.opcodePosition ∧ actual = frame.opcode := by
  have whole := feedAll_agrees (Decoder.start limits .update) (buffers ++ [data])
  have before := feedAll_agrees (Decoder.start limits .update) buffers
  have parts : framesOf .update (buffers ++ [data]) =
      framesOf .update buffers ++ frames .update data := by
    rw [framesOf, framesOf, List.flatMap_append, List.flatMap_singleton]
  have added := before.result.symm.trans fed
  have failed : ((Decoder.start limits .update).addFrames
      (framesOf .update (buffers ++ [data]))).result =
        .error (.inconsistentOpcode offset expected actual) := by
    apply whole.result.symm.trans
    rw [feedAll_concat, (andThen_ok fed).1]
    exact fails
  rcases addFrames_stray rfl rfl failed with ⟨_, frame, stray, place, opcode⟩
  rw [parts] at stray
  rcases stray.behind (addFrames_ok_iff.mp added).1 with ⟨front, back, inside, rfl⟩
  exact ⟨front, back, frame, stray, inside, place, opcode⟩

theorem BrokenOff.straysIn
    (broken : BrokenOff (.start limits .update) standardName inputs
      (.undecodable name (.inconsistentOpcode offset expected actual)))
    (unseen : ∀ input ∈ inputs, input.Unseen) :
    ∃ before input after buffers data front frame, inputs = before ++ input :: after ∧
      StraysIn before input buffers data front frame expected ∧
      offset = frame.opcodePosition ∧ actual = frame.opcode ∧ name = input.name := by
  cases broken with
  | unread parts read fed unread =>
      exact absurd unread (unseen _ (by simp [parts]) _ _)
  | feeding parts read holds fed fails =>
      rcases feed_stray fed fails with ⟨front, back, frame, stray, inside, place, opcode⟩
      exact ⟨_, _, _, _, _, front, frame, parts, stray.straysIn read holds inside, place, opcode,
        rfl⟩
  | finishing read fed fails =>
      have running : (Decoder.start limits .update).assembly = .after limits [] := rfl
      exact absurd ⟨_, _, _, rfl⟩ (finish_error_other (feedAll_running running fed) fails)

theorem holds_split {later : List Bytes}
    (read : List.Forall₂ Input.Holds inputs (buffers ++ data :: later)) :
    ∃ before input after, inputs = before ++ input :: after ∧
      List.Forall₂ Input.Holds before buffers ∧ input.Holds data := by
  have front := List.forall₂_take_append inputs buffers (data :: later) read
  have back := List.forall₂_drop_append inputs buffers (data :: later) read
  rcases List.forall₂_cons_right_iff.mp back with ⟨input, after, holds, _, rest⟩
  refine ⟨inputs.take buffers.length, input, after, ?_, front, holds⟩
  rw [← rest, List.take_append_drop]

theorem collectInputs_straysIn
    (failed : (collectInputs (.start limits .update) inputs).result =
      .error (.undecodable name (.inconsistentOpcode offset expected actual)))
    (unseen : ∀ input ∈ inputs, input.Unseen) :
    ∃ before input after buffers data front frame, inputs = before ++ input :: after ∧
      StraysIn before input buffers data front frame expected ∧
      offset = frame.opcodePosition ∧ actual = frame.opcode ∧ name = lastName inputs := by
  rcases collectInputs_error failed with ⟨input, member, unread⟩ | ⟨_, error, read, stops, same⟩
  · exact absurd unread (unseen input member _ _)
  · cases same
    rcases rawBlocks_error stops with ⟨_, _, frame, stray, reads⟩
    cases reads
    rcases stray.place with ⟨_, split⟩
    rcases framesOf_split split with ⟨earlier, data, later, front, back, rfl, rfl, inside⟩
    rcases holds_split read with ⟨before, input, after, parts, read_before, holds⟩
    exact ⟨before, input, after, earlier, data, front, frame, parts,
      stray.straysIn read_before holds inside, rfl, rfl, rfl⟩

theorem trouble?_eq_some {α : Type} {decoded : Decoded α} :
    decoded.trouble? = some trouble ↔ decoded.result = .error trouble := by
  rw [Decoded.trouble?]
  cases decoded.result <;> simp

theorem run_troubled (stopped : command.trouble? environment = some trouble) :
    ∃ verbose shown, command.run environment = .troubled environment verbose shown trouble := by
  cases command with
  | decode command =>
      have failed := trouble?_eq_some.mp stopped
      rw [Command.inputs] at failed
      exact ⟨command.verbose, _, by simp only [Command.run, runDecode, failed]; rfl⟩
  | info command =>
      have failed := trouble?_eq_some.mp stopped
      rw [Command.inputs] at failed
      exact ⟨command.verbose, _, by simp only [Command.run, runInfo, failed]; rfl⟩
  | _ => cases stopped

theorem trouble?_straysIn (stopped : command.trouble? environment =
      some (.undecodable name (.inconsistentOpcode offset expected actual))) :
    ∃ before input after buffers data front frame,
      command.inputs environment = before ++ input :: after ∧
      StraysIn before input buffers data front frame expected ∧
      offset = frame.opcodePosition ∧ actual = frame.opcode ∧
      name = if command.stepwise then input.name else lastName (command.inputs environment) := by
  have unseen := unseen_inputs environment command
  cases command with
  | decode command =>
      have failed := trouble?_eq_some.mp stopped
      cases mode : command.blocks with
      | true =>
          rw [decodedBytes_blocks mode, map_error_iff] at failed
          simpa [Command.stepwise, mode] using collectInputs_straysIn failed unseen
      | false =>
          rw [decodedBytes_image mode, map_error_iff] at failed
          simpa [Command.stepwise, mode] using (decodeInputs_brokenOff failed).straysIn unseen
  | info command =>
      have failed := trouble?_eq_some.mp stopped
      simpa [Command.stepwise] using (decodeInputs_brokenOff failed).straysIn unseen
  | _ => cases stopped

/-- A stray frame is reported with its offset in the input that it stands in. Where the inputs are
decoded one by one that input is named, and otherwise the last one is. -/
theorem opcode_blame (stopped : command.trouble? environment =
      some (.undecodable name (.inconsistentOpcode offset expected actual))) :
    (command.run environment).exitCode = 1 ∧
      .text .err (styled "red" (name ++ ": " ++
        (DecodeError.inconsistentOpcode offset expected actual).message)) ∈
          (command.run environment).shown ∧
      ∃ before input after buffers data front frame,
        command.inputs environment = before ++ input :: after ∧
        StraysIn before input buffers data front frame expected ∧
        offset = frame.opcodePosition ∧ actual = frame.opcode ∧
        name = if command.stepwise then input.name else lastName (command.inputs environment) := by
  rcases run_troubled stopped with ⟨verbose, shown, report⟩
  rw [report]
  exact ⟨rfl, List.mem_append_right _ List.mem_cons_self, trouble?_straysIn stopped⟩

def strayFiles : Environment where
  files := ⟨[
    ("first.syx", .file ([0xF0, 0x00, 0x00, 0x0E, 0x1D, 0x30] ++ List.replicate 12 0x00 ++
      [0x10, 0x00, 0x40] ++ List.replicate 296 0x00 ++ [0xF7])),
    ("stray.syx", .file [0xF0, 0x00, 0x00, 0x0E, 0x1D, 0x3F, 0xF7]),
    ("last.syx", .file [])]⟩
  standard := []
  host := ⟨[], [], [], ⟨[], .exact 0⟩⟩
  stamp := ""

def strayPaths : List Path := ["first.syx", "stray.syx", "last.syx"].map fun name => ⟨"", [name]⟩

def strayInfo : Command := .info ⟨strayPaths, false, false, .widest, false⟩

def strayBlocks : Command := .decode ⟨strayPaths, none, true, .widest, false⟩

theorem strayInfo_blame :
    strayInfo.trouble? strayFiles =
        some (.undecodable "stray.syx" (.inconsistentOpcode 5 0x30 0x3F)) ∧
      (strayInfo.run strayFiles).exitCode = 1 ∧
      .text .err (styled "red" ("stray.syx" ++ ": " ++
        (DecodeError.inconsistentOpcode 5 0x30 0x3F).message)) ∈ (strayInfo.run strayFiles).shown ∧
      ∃ before input after buffers data front frame,
        strayInfo.inputs strayFiles = before ++ input :: after ∧
        StraysIn before input buffers data front frame 0x30 ∧
        5 = frame.opcodePosition ∧ 0x3F = frame.opcode ∧
        "stray.syx" =
          if strayInfo.stepwise then input.name else lastName (strayInfo.inputs strayFiles) := by
  have stopped : strayInfo.trouble? strayFiles =
      some (.undecodable "stray.syx" (.inconsistentOpcode 5 0x30 0x3F)) := by decide +kernel
  exact ⟨stopped, opcode_blame stopped⟩

/-- In a read of blocks the stray frame is in none of the inputs with the name that is shown. -/
theorem strayBlocks_blame_last :
    strayBlocks.trouble? strayFiles =
        some (.undecodable "last.syx" (.inconsistentOpcode 5 0x30 0x3F)) ∧
      (strayBlocks.run strayFiles).shown =
        [.text .err "[red]last.syx: sysex offset 5: expected 30, but found 3F[/red]"] ∧
      ¬ ∃ before input after buffers data front frame,
        strayBlocks.inputs strayFiles = before ++ input :: after ∧
        StraysIn before input buffers data front frame 0x30 ∧
        5 = frame.opcodePosition ∧ 0x3F = frame.opcode ∧ "last.syx" = input.name := by
  refine ⟨by decide +kernel, by decide +kernel, ?_⟩
  rintro ⟨before, input, after, buffers, data, front, frame, parts, stray, _, _, name⟩
  have empty : ∀ input ∈ strayBlocks.inputs strayFiles, "last.syx" = input.name →
      input.content = .ok [] := by decide +kernel
  have nothing := empty input (by simp [parts]) name
  rcases stray.byte with ⟨position, byte, _, stands, _⟩
  cases stray.holds.symm.trans nothing
  cases stands

end Andromeda
