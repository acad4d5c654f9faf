import Andromeda.CommandLine.Run
import Andromeda.Proofs.Decoder.RawBlocks
import Mathlib.Data.List.Forall2

namespace Andromeda

open Outcome

/-- What the inputs at some paths hold, in order: files by their paths, and standard input, of which
nothing is left once it was read. -/
inductive FileTree.Holds (tree : FileTree) : Bytes → List Path → List Bytes → Prop where
  | nil {standard : Bytes} : tree.Holds standard [] []
  | dash {standard : Bytes} {path : Path} {paths : List Path} {buffers : List Bytes}
      (dash : path.text = "-") (rest : tree.Holds [] paths buffers) :
      tree.Holds standard (path :: paths) (standard :: buffers)
  | file {standard data : Bytes} {path : Path} {paths : List Path} {buffers : List Bytes}
      (name : path.text ≠ "-") (content : tree.content? path = .ok (some data))
      (rest : tree.Holds standard paths buffers) :
      tree.Holds standard (path :: paths) (data :: buffers)

def Input.Holds (input : Input) (data : Bytes) : Prop := input.content = .ok data

/-- How a decode that takes its inputs one by one comes to an early end. Whatever is wrong with what
an input holds is blamed on that input, and what is wrong in the end on the last one. -/
inductive BrokenOff (decoder : Decoder) (name : String) (inputs : List Input) : Trouble → Prop where
  | unread {before after : List Input} {input : Input} {buffers : List Bytes} {trouble : Trouble}
      (parts : inputs = before ++ input :: after)
      (read : List.Forall₂ Input.Holds before buffers)
      (fed : (decoder.feedAll buffers).result = .ok ())
      (unread : input.content = .error trouble) : BrokenOff decoder name inputs trouble
  | feeding {before after : List Input} {input : Input} {buffers : List Bytes} {data : Bytes}
      {error : DecodeError} (parts : inputs = before ++ input :: after)
      (read : List.Forall₂ Input.Holds before buffers) (holds : input.Holds data)
      (fed : (decoder.feedAll buffers).result = .ok ())
      (fails : ((decoder.feedAll buffers).state.feed data).result = .error error) :
      BrokenOff decoder name inputs (.undecodable input.name error)
  | finishing {buffers : List Bytes} {error : DecodeError}
      (read : List.Forall₂ Input.Holds inputs buffers)
      (fed : (decoder.feedAll buffers).result = .ok ())
      (fails : (decoder.feedAll buffers).state.finish.result = .error error) :
      BrokenOff decoder name inputs
        (.undecodable ((inputs.getLast?.map Input.name).getD name) error)

section Contents

variable {tree : FileTree} {standard : Bytes} {path : Path} {paths : List Path} {inputs : List Input}
  {buffers : List Bytes} {trouble : Trouble}

theorem mapM_content_iff :
    inputs.mapM Input.content = .ok buffers ↔ List.Forall₂ Input.Holds inputs buffers := by
  induction inputs generalizing buffers with
  | nil => simp [pure, Except.pure, eq_comm]
  | cons input inputs ih =>
      rw [List.mapM_cons, List.forall₂_cons_left_iff]
      cases content : input.content with
      | error trouble => simp [bind, Except.bind, Input.Holds, content]
      | ok data =>
          cases rest : inputs.mapM Input.content with
          | error trouble => simp [bind, Except.bind, ← ih, rest]
          | ok others =>
              simp [bind, Except.bind, pure, Except.pure, ← ih, rest, Input.Holds, content, eq_comm]

theorem mapM_content_error (failed : inputs.mapM Input.content = .error trouble) :
    ∃ input ∈ inputs, input.content = .error trouble := by
  induction inputs with
  | nil => cases failed
  | cons input inputs ih =>
      rw [List.mapM_cons] at failed
      cases content : input.content with
      | error reason =>
          rw [content] at failed
          cases failed
          exact ⟨input, List.mem_cons_self, content⟩
      | ok data =>
          rw [content] at failed
          cases rest : inputs.mapM Input.content with
          | error reason =>
              rw [rest] at failed
              cases failed
              rcases ih rest with ⟨other, member, fails⟩
              exact ⟨other, List.mem_cons_of_mem _ member, fails⟩
          | ok others =>
              rw [rest] at failed
              cases failed

theorem exists_holds_cons {input : Input} {data : Bytes} {P : List Bytes → Prop}
    (holds : input.Holds data) :
    (∃ buffers, List.Forall₂ Input.Holds (input :: inputs) buffers ∧ P buffers) ↔
      ∃ rest, List.Forall₂ Input.Holds inputs rest ∧ P (data :: rest) := by
  constructor
  · rintro ⟨_, _ | ⟨first, others⟩, fits⟩
    cases holds.symm.trans first
    exact ⟨_, others, fits⟩
  · rintro ⟨rest, others, fits⟩
    exact ⟨_, .cons holds others, fits⟩

end Contents

theorem names_inputsFrom (tree : FileTree) (standard : Bytes) (paths : List Path) :
    (inputsFrom tree standard paths).map Input.name = paths.map Path.text := by
  induction paths generalizing standard with
  | nil => rfl
  | cons path paths ih =>
      rw [inputsFrom]
      split
      case isTrue dash => rw [List.map_cons, List.map_cons, ih, dash]
      case isFalse => rw [List.map_cons, List.map_cons, ih]

theorem names_inputsOf {paths : List Path} (some : paths ≠ []) (tree : FileTree)
    (standard : Bytes) : (inputsOf tree standard paths).map Input.name = paths.map Path.text := by
  rw [inputsOf, if_neg (by simpa using some), names_inputsFrom]

section Decoding

variable {decoder last : Decoder} {name : String} {log : Array LogRecord} {input : Input}
  {inputs : List Input} {buffers : List Bytes} {data stream : Bytes} {image : Image}
  {trouble : Trouble}

theorem decodeInputs_unread (unread : input.content = .error trouble) :
    decodeInputs decoder name log (input :: inputs) = ⟨.error trouble, log⟩ := by
  rw [decodeInputs, unread]

theorem decodeInputs_refused {error : DecodeError} (holds : input.Holds data)
    (fails : (decoder.feed data).result = .error error) :
    (decodeInputs decoder name log (input :: inputs)).result =
      .error (.undecodable input.name error) := by
  rw [decodeInputs, holds]
  simp only [fails]

theorem decodeInputs_fed (holds : input.Holds data) (fed : (decoder.feed data).result = .ok ()) :
    decodeInputs decoder name log (input :: inputs) =
      decodeInputs (decoder.feed data).state input.name (log ++ (decoder.feed data).log) inputs := by
  rw [decodeInputs, holds]
  simp only [fed]

theorem decodeInputs_ok_iff :
    (decodeInputs decoder name log inputs).result = .ok (last, image) ↔
      ∃ buffers, List.Forall₂ Input.Holds inputs buffers ∧
        (decoder.decode buffers).result = .ok image ∧ (decoder.decode buffers).state = last := by
  induction inputs generalizing decoder name log with
  | nil =>
      simp only [List.forall₂_nil_left_iff, exists_eq_left, decode_nil, decodeInputs]
      cases decoder.finish.result with
      | error error => simp
      | ok made => simp [and_comm]
  | cons input inputs ih =>
      cases content : input.content with
      | error trouble =>
          simp [decodeInputs_unread content, List.forall₂_cons_left_iff, Input.Holds, content]
      | ok data =>
          rw [exists_holds_cons content]
          cases fed : (decoder.feed data).result with
          | error error =>
              rw [decodeInputs_refused content fed]
              simp [decode_cons, (andThen_error fed).1]
          | ok _ =>
              rw [decodeInputs_fed content fed, ih]
              simp only [decode_cons, (andThen_ok fed).1, (andThen_ok fed).2]

theorem feedAll_fed (fed : (decoder.feed data).result = .ok ()) :
    (decoder.feedAll (data :: buffers)).result = ((decoder.feed data).state.feedAll buffers).result ∧
      (decoder.feedAll (data :: buffers)).state =
        ((decoder.feed data).state.feedAll buffers).state := by
  rw [feedAll_cons]
  exact andThen_ok fed

theorem lastName_cons (input : Input) (inputs : List Input) (name : String) :
    ((input :: inputs).getLast?.map Input.name).getD name =
      (inputs.getLast?.map Input.name).getD input.name := by
  rw [List.getLast?_cons]
  cases inputs.getLast? <;> rfl

theorem BrokenOff.cons (holds : input.Holds data) (fed : (decoder.feed data).result = .ok ())
    (broken : BrokenOff (decoder.feed data).state input.name inputs trouble) :
    BrokenOff decoder name (input :: inputs) trouble := by
  have taken (buffers : List Bytes) : (decoder.feedAll (data :: buffers)).result = _ ∧
      (decoder.feedAll (data :: buffers)).state = _ := feedAll_fed fed
  cases broken with
  | unread parts read before_fed unread =>
      rw [parts, ← List.cons_append]
      exact .unread rfl (.cons holds read) ((taken _).1.trans before_fed) unread
  | feeding parts read content before_fed fails =>
      rw [parts, ← List.cons_append]
      refine .feeding rfl (.cons holds read) content ((taken _).1.trans before_fed) ?_
      rw [(taken _).2]
      exact fails
  | finishing read all_fed fails =>
      rw [← lastName_cons]
      refine .finishing (.cons holds read) ((taken _).1.trans all_fed) ?_
      rw [(taken _).2]
      exact fails

theorem decodeInputs_brokenOff
    (failed : (decodeInputs decoder name log inputs).result = .error trouble) :
    BrokenOff decoder name inputs trouble := by
  induction inputs generalizing decoder name log with
  | nil =>
      simp only [decodeInputs] at failed
      cases finished : decoder.finish.result with
      | ok image =>
          rw [finished] at failed
          cases failed
      | error error =>
          rw [finished] at failed
          cases failed
          exact .finishing .nil rfl finished
  | cons input inputs ih =>
      cases content : input.content with
      | error reason =>
          rw [decodeInputs_unread content] at failed
          cases failed
          exact .unread (List.nil_append _).symm .nil rfl content
      | ok data =>
          cases fed : (decoder.feed data).result with
          | error error =>
              rw [decodeInputs_refused content fed] at failed
              cases failed
              exact .feeding (List.nil_append _).symm .nil content rfl fed
          | ok _ =>
              rw [decodeInputs_fed content fed] at failed
              exact (ih failed).cons content fed

theorem collectInputs_error (failed : (collectInputs decoder inputs).result = .error trouble) :
    (∃ input ∈ inputs, input.content = .error trouble) ∨
      ∃ buffers error, List.Forall₂ Input.Holds inputs buffers ∧
        (decoder.rawBlocks buffers).result = .error error ∧
        trouble = .undecodable (lastName inputs) error := by
  rw [collectInputs] at failed
  cases read : inputs.mapM Input.content with
  | error reason =>
      rw [read] at failed
      cases failed
      exact .inl (mapM_content_error read)
  | ok buffers =>
      right
      rw [read] at failed
      dsimp only at failed
      cases collected : (decoder.rawBlocks buffers).result with
      | ok stream =>
          rw [collected] at failed
          cases failed
      | error error =>
          rw [collected] at failed
          cases failed
          exact ⟨buffers, error, mapM_content_iff.mp read, collected, rfl⟩

end Decoding

section Modes

variable {command : DecodeCommand} {inputs : List Input}

theorem map_error_iff {α β : Type} {result : Except Trouble α} {value : α → β}
    {trouble : Trouble} : result.map value = .error trouble ↔ result = .error trouble := by
  cases result with
  | error other => simp [Except.map]
  | ok first => simp [Except.map]

theorem decodedBytes_blocks (raw : command.blocks = true) :
    (decodedBytes command inputs).result =
      (collectInputs (.start command.limits .update) inputs).result.map
        fun blocks => ([], blocks) := by
  simp only [decodedBytes, raw, if_true]

theorem decodedBytes_image (whole : command.blocks = false) :
    (decodedBytes command inputs).result =
      (decodeInputs (.start command.limits .update) standardName #[] inputs).result.map
        fun finished => (command.lines finished.2, finished.2.data) := by
  simp only [decodedBytes, whole, Bool.false_eq_true, if_false]

end Modes

end Andromeda
