import Andromeda.Proofs.Assembly.Halting
import Andromeda.Proofs.Decoder.Buffers
import Andromeda.Proofs.Decoder.RawBlocks

namespace Andromeda

open Outcome

inductive Assembly.Took (limits : Limits) (taken : List Bytes) (assembly : Assembly) : Prop where
  | running (accepted : Accepted limits taken) (same : assembly = .after limits taken)
  | halted (error : DecodeError) (accepted : Accepted limits taken)
      (keeps : (Assembly.after limits taken).Keeps assembly)
      (refused : assembly.halted = some error) (other : ¬ error.OfOpcode)

/-- A decoder that has looked at some frames and added the blocks of some of them. -/
structure Decoder.Took (limits : Limits) (opcodes : OpcodeSet) (examined added : List Frame)
    (decoder : Decoder) : Prop where
  opcodes : decoder.opcodes = opcodes
  first : decoder.firstOpcode = examined.head?.map Frame.opcode
  kind : decoder.kind = decoder.firstOpcode.bind ImageKind.ofOpcode?
  same : ∀ frame ∈ added, decoder.firstOpcode = some frame.opcode
  assembly : Assembly.Took limits (added.map Frame.block) decoder.assembly

structure Decoder.RefusesFrame (decoder stopped : Decoder) (found examined before : List Frame)
    (frame : Frame) (error : DecodeError) : Prop where
  found : ∃ after, found = before ++ frame :: after
  examined : examined = before ++ [frame]
  opcode : stopped.withOpcode frame = .error error
  halted : stopped.assembly.halted = decoder.assembly.halted

section Taking

variable {limits : Limits} {taken : List Bytes} {assembly : Assembly} {block : Bytes}
  {error : DecodeError}

theorem Assembly.Took.keeps (took : Assembly.Took limits taken assembly) :
    (Assembly.after limits taken).Keeps assembly := by
  cases took with
  | running accepted same =>
      rw [same]
      exact .refl _
  | halted reason accepted keeps refused other => exact keeps

theorem Assembly.Took.add_ok (took : Assembly.Took limits taken assembly)
    (ok : (assembly.add block).result = .ok ()) :
    assembly = .after limits taken ∧ Accepted limits (taken ++ [block]) ∧
      (assembly.add block).state = .after limits (taken ++ [block]) := by
  cases took with
  | running accepted same =>
      rw [same] at ok ⊢
      have admits := admits_of_add ok
      exact ⟨rfl, .next accepted admits, (add_admitted admits).2⟩
  | halted reason accepted keeps refused other =>
      rw [add_halted refused] at ok
      cases ok

theorem Assembly.Took.add_error (took : Assembly.Took limits taken assembly)
    (failed : (assembly.add block).result = .error error) :
    ¬ error.OfOpcode ∧ (assembly.add block).state.halted = some error ∧
      Assembly.Took limits taken (assembly.add block).state := by
  cases took with
  | running accepted same =>
      rw [same] at failed ⊢
      have reached : Assembly.Reached limits (.after limits taken) := .taking accepted
      have other := add_error_other (after_halted limits taken) failed
      have halts := reached.add_halts failed
      exact ⟨other, halts, .halted error accepted (reached.refuses failed).keeps halts other⟩
  | halted reason accepted keeps refused other =>
      rw [add_halted refused] at failed ⊢
      cases failed
      exact ⟨other, refused, .halted _ accepted keeps refused other⟩

theorem image_error_other (failed : assembly.image = .error error) : ¬ error.OfOpcode := by
  intro opcode
  rcases opcode with ⟨offset, expected, actual, rfl⟩
  exact image_error failed

theorem Assembly.Took.finish (took : Assembly.Took limits taken assembly) :
    Assembly.Took limits taken assembly.finish.state := by
  cases took with
  | running accepted same =>
      have running := after_halted limits taken
      rw [same]
      cases made : (Assembly.after limits taken).image with
      | ok image =>
          rw [finish_of_image running made]
          exact .running accepted rfl
      | error error =>
          rw [finish_of_failed running made]
          exact .halted error accepted (.halt _ error) rfl (image_error_other made)
  | halted reason accepted keeps refused other =>
      rw [finish_halted refused]
      exact .halted reason accepted keeps refused other

theorem Assembly.Took.finish_error (took : Assembly.Took limits taken assembly)
    (failed : assembly.finish.result = .error error) : ¬ error.OfOpcode := by
  cases took with
  | running accepted same =>
      rw [same, finish_result (after_halted limits taken)] at failed
      exact image_error_other failed
  | halted reason accepted keeps refused other =>
      rw [finish_halted refused] at failed
      cases failed
      exact other

theorem Assembly.Took.image (took : Assembly.Took limits taken assembly) {image : Image}
    (made : assembly.finish.result = .ok image) :
    (Assembly.assemble limits taken).result = .ok image := by
  cases took with
  | running accepted same =>
      have added := (addAll_start limits taken).1.mpr accepted
      rw [Assembly.assemble, (andThen_ok added).1, (addAll_start limits taken).2 accepted, ← same]
      exact made
  | halted reason accepted keeps refused other =>
      rw [finish_halted refused] at made
      cases made

end Taking

section Looking

variable {limits : Limits} {opcodes : OpcodeSet} {examined added : List Frame} {decoder : Decoder}
  {frame : Frame} {error : DecodeError} {image : Image}

theorem head?_concat_same (known : decoder.firstOpcode = examined.head?.map Frame.opcode)
    (same : ∀ opcode ∈ decoder.firstOpcode, frame.opcode = opcode) :
    some frame.opcode = (examined ++ [frame]).head?.map Frame.opcode := by
  cases examined with
  | nil => rfl
  | cons first rest =>
      have equal : frame.opcode = first.opcode := same first.opcode known
      rw [equal]
      rfl

theorem head?_concat_known {first : Int}
    (known : decoder.firstOpcode = examined.head?.map Frame.opcode)
    (present : decoder.firstOpcode = some first) :
    decoder.firstOpcode = (examined ++ [frame]).head?.map Frame.opcode := by
  cases examined with
  | nil =>
      rw [known] at present
      cases present
  | cons head rest => exact known

theorem Decoder.Took.kind_noted (took : Decoder.Took limits opcodes examined added decoder)
    (same : ∀ opcode ∈ decoder.firstOpcode, frame.opcode = opcode) :
    decoder.kindBehind [frame] = ImageKind.ofOpcode? frame.opcode := by
  have recorded := took.kind
  rw [Decoder.kindBehind.eq_def]
  cases known : decoder.firstOpcode with
  | none => rfl
  | some opcode =>
      rw [known] at recorded
      rw [same opcode known]
      exact recorded

theorem Decoder.Took.noted (took : Decoder.Took limits opcodes examined added decoder)
    (same : ∀ opcode ∈ decoder.firstOpcode, frame.opcode = opcode) :
    ∀ other ∈ added, some frame.opcode = some other.opcode := by
  intro other member
  rw [same other.opcode (took.same other member)]

theorem Decoder.Took.addFrame_ok (took : Decoder.Took limits opcodes examined added decoder)
    (ok : (decoder.addFrame frame).result = .ok ()) :
    Decoder.Took limits opcodes (examined ++ [frame]) (added ++ [frame])
      (decoder.addFrame frame).state := by
  rcases addFrame_ok_iff.mp ok with ⟨same, added_ok⟩
  rw [addFrame_state ok]
  refine ⟨took.opcodes, head?_concat_same took.first same, took.kind_noted same, ?_, ?_⟩
  · intro other member
    rcases List.mem_append.mp member with before | last
    · exact took.noted same other before
    · rw [List.mem_singleton.mp last]
  · rcases took.assembly.add_ok added_ok with ⟨_, accepted, state⟩
    rw [List.map_append]
    exact .running accepted state

theorem Decoder.Took.unknown (took : Decoder.Took limits opcodes examined added decoder)
    (refused : decoder.withOpcode frame = .error error) :
    Decoder.Took limits opcodes (examined ++ [frame]) added decoder := by
  rcases withOpcode_error_iff.mp refused with ⟨first, present, _, _⟩
  exact ⟨took.opcodes, head?_concat_known took.first present, took.kind, took.same,
    took.assembly⟩

theorem Decoder.Took.addFrame_error (took : Decoder.Took limits opcodes examined added decoder)
    (failed : (decoder.addFrame frame).result = .error error) :
    Decoder.Took limits opcodes (examined ++ [frame]) added (decoder.addFrame frame).state ∧
      (error.OfOpcode → decoder.withOpcode frame = .error error ∧
        (decoder.addFrame frame).state = decoder) ∧
      (¬ error.OfOpcode → (decoder.addFrame frame).state.assembly.halted = some error) := by
  cases known : decoder.withOpcode frame with
  | error reason =>
      rcases withOpcode_error_iff.mp known with ⟨_, _, _, reads⟩
      rw [addFrame_of_error known] at failed ⊢
      cases failed
      refine ⟨took.unknown known, fun _ => ⟨rfl, rfl⟩, ?_⟩
      intro other
      exact absurd ⟨_, _, _, reads⟩ other
  | ok noted =>
      rcases withOpcode_ok_iff.mp known with ⟨same, _⟩
      rcases addFrame_of_ok known with ⟨result, state⟩
      rw [result] at failed
      rcases took.assembly.add_error failed with ⟨other, halts, assembly⟩
      rw [state]
      refine ⟨⟨took.opcodes, head?_concat_same took.first same, took.kind_noted same,
        took.noted same, assembly⟩, ?_, fun _ => halts⟩
      intro opcode
      exact absurd opcode other

theorem Decoder.Took.collectFrame (took : Decoder.Took limits opcodes examined added decoder)
    (blocks : List Bytes) :
    Decoder.Took limits opcodes (examined ++ [frame]) added
      (decoder.collectFrame blocks frame).state := by
  cases known : decoder.withOpcode frame with
  | error reason =>
      rw [collectFrame_of_error known]
      exact took.unknown known
  | ok noted =>
      rcases withOpcode_ok_iff.mp known with ⟨same, _⟩
      rw [collectFrame_of_ok known]
      exact ⟨took.opcodes, head?_concat_same took.first same, took.kind_noted same,
        took.noted same, took.assembly⟩

theorem Decoder.Took.addFrames (took : Decoder.Took limits opcodes examined added decoder)
    (found : List Frame) :
    Decoder.Took limits opcodes
      (examined ++ tried (fun decoder _ frame => decoder.addFrame frame) decoder () found)
      (added ++ passed (fun decoder _ frame => decoder.addFrame frame) decoder () found)
      (decoder.addFrames found).state := by
  refine each_traced (Decoder.Took limits opcodes) _ _ ?_ ?_ took
  · intro seen kept decoder value frame next before ok
    exact before.addFrame_ok ok
  · intro seen kept decoder value frame error before failed
    exact (before.addFrame_error failed).1

theorem Decoder.Took.collectFrames (took : Decoder.Took limits opcodes examined added decoder)
    (found : List Frame) :
    Decoder.Took limits opcodes (examined ++ tried Decoder.collectFrame decoder [] found) added
      (decoder.collectFrames [] found).state := by
  refine each_traced (fun seen _ => Decoder.Took limits opcodes seen added) _ [] ?_ ?_ took
  · intro seen kept decoder blocks frame next before ok
    exact before.collectFrame blocks
  · intro seen kept decoder blocks frame error before failed
    exact before.collectFrame blocks

theorem Decoder.Took.finish (took : Decoder.Took limits opcodes examined added decoder) :
    Decoder.Took limits opcodes examined added decoder.finish.state := by
  have assembly := took.assembly.finish
  rw [Decoder.finish]
  cases decoder.assembly.finish.result with
  | error error => exact ⟨took.opcodes, took.first, took.kind, took.same, assembly⟩
  | ok image => exact ⟨took.opcodes, took.first, took.kind, took.same, assembly⟩

theorem Decoder.Took.addFrames_halted (took : Decoder.Took limits opcodes examined added decoder)
    {found : List Frame} (ok : (decoder.addFrames found).result = .ok ()) :
    (decoder.addFrames found).state.assembly.halted = decoder.assembly.halted := by
  cases found with
  | nil => rfl
  | cons frame rest =>
      have blocks := (addFrames_ok_iff.mp ok).2
      rw [List.map_cons, addAll_cons, andThen_ok_iff] at blocks
      rcases blocks with ⟨_, first, _⟩
      have running := (took.assembly.add_ok first).1
      rw [addFrames_running running ok, running, after_halted, after_halted]

theorem Decoder.Took.addFrames_error (took : Decoder.Took limits opcodes examined added decoder)
    {found : List Frame} (failed : (decoder.addFrames found).result = .error error) :
    (error.OfOpcode → ∃ before frame, decoder.RefusesFrame (decoder.addFrames found).state found
      (tried (fun decoder _ frame => decoder.addFrame frame) decoder () found) before frame
      error) ∧
    (¬ error.OfOpcode → (decoder.addFrames found).state.assembly.halted = some error) := by
  rcases each_stops failed with ⟨before, frame, parts, ends, tries, _⟩
  rcases ends with ⟨_, passes, fails, state⟩
  rcases (took.addFrames before).addFrame_error fails with ⟨_, unknown, halts⟩
  constructor
  · intro opcode
    rcases unknown opcode with ⟨refused, same⟩
    have stopped : (decoder.addFrames found).state = (decoder.addFrames before).state :=
      state.trans same
    rw [stopped]
    exact ⟨before, frame, parts, tries, refused, took.addFrames_halted passes⟩
  · intro other
    rw [Decoder.addFrames, state]
    exact halts other

theorem collectFrames_error {found : List Frame}
    (failed : (decoder.collectFrames [] found).result = .error error) :
    error.OfOpcode ∧ ∃ before frame, decoder.RefusesFrame (decoder.collectFrames [] found).state
      found (tried Decoder.collectFrame decoder [] found) before frame error := by
  rcases each_stops failed with ⟨before, frame, parts, ends, tries, _⟩
  rcases ends with ⟨blocks, passes, fails, state⟩
  have halted := congrArg Assembly.halted (collectFrames_assembly decoder [] found)
  cases known : (decoder.collectFrames [] before).state.withOpcode frame with
  | ok noted =>
      have kept := fails.symm.trans (congrArg Outcome.result (collectFrame_of_ok known))
      cases kept
  | error reason =>
      have refuses : (decoder.collectFrames [] before).state.collectFrame blocks frame =
          .failed (decoder.collectFrames [] before).state reason := collectFrame_of_error known
      have stopped : (decoder.collectFrames [] found).state =
          ((decoder.collectFrames [] before).state.collectFrame blocks frame).state := state
      rw [refuses, Outcome.failed] at stopped
      have same := fails.symm.trans (congrArg Outcome.result refuses)
      cases same
      rcases withOpcode_error_iff.mp known with ⟨first, _, _, reads⟩
      rw [← stopped] at known
      exact ⟨⟨_, _, _, reads⟩, before, frame, parts, tries, known, halted⟩

theorem Decoder.Took.finish_error (took : Decoder.Took limits opcodes examined added decoder)
    (failed : decoder.finish.result = .error error) :
    ¬ error.OfOpcode ∧ decoder.finish.state.assembly.halted = some error := by
  cases refused : decoder.assembly.finish.result with
  | ok image =>
      rw [Decoder.finish, refused] at failed
      cases failed
  | error reason =>
      rw [Decoder.finish, refused] at failed ⊢
      cases failed
      exact ⟨took.assembly.finish_error refused, finish_halts refused⟩

theorem Decoder.Took.finish_image (took : Decoder.Took limits opcodes examined added decoder)
    (made : decoder.finish.result = .ok image) :
    decoder.finish.state = decoder ∧
      ∃ plain, (Assembly.assemble limits (added.map Frame.block)).result = .ok plain ∧
        image = { plain with kind := decoder.kind } := by
  rcases finish_ok_iff.mp made with ⟨plain, finished, same⟩
  exact ⟨finish_state made, plain, took.assembly.image finished, same⟩

end Looking

end Andromeda
