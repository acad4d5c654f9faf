import Andromeda.Proofs.Decoder.Taking

/-!
The first frame of a capture whose opcode is not that of the frames before it. It is the frame that
a decoder which has looked at none before refuses for its opcode, whether it adds the blocks of
frames to an image or keeps them as they are.
-/

namespace Andromeda

open Outcome

/-- The frames before a frame have one opcode, and the frame has another one. -/
structure FirstStray (found before : List Frame) (opcode : Int) (frame : Frame) : Prop where
  place : ∃ after, found = before ++ frame :: after
  some : before ≠ []
  same : ∀ earlier ∈ before, earlier.opcode = opcode
  other : frame.opcode ≠ opcode

variable {decoder : Decoder} {found before : List Frame} {frame : Frame} {opcode : Int}
  {error : DecodeError}

theorem FirstStray.not_consistent (stray : FirstStray found before opcode frame) :
    ¬ Consistent none found := by
  rcases stray.place with ⟨after, rfl⟩
  rcases List.exists_mem_of_ne_nil before stray.some with ⟨first, member⟩
  intro consistent
  apply stray.other
  rw [← stray.same first member]
  apply consistent_none.mp consistent
  · exact List.mem_append_right _ List.mem_cons_self
  · exact List.mem_append_left _ member

theorem FirstStray.behind {rest : List Frame}
    (stray : FirstStray (found ++ rest) before opcode frame) (consistent : Consistent none found) :
    ∃ front after, rest = front ++ frame :: after ∧ before = found ++ front := by
  rcases stray.place with ⟨after, split⟩
  rcases List.append_eq_append_iff.mp split with ⟨front, whole, behind⟩ | ⟨front, whole, behind⟩
  · exact ⟨front, after, behind, whole⟩
  · cases front with
    | nil =>
        rw [List.append_nil] at whole
        exact ⟨[], after, behind.symm, by rw [List.append_nil, whole]⟩
    | cons head front =>
        cases behind
        have inside : FirstStray found before opcode frame :=
          ⟨⟨front, whole⟩, stray.some, stray.same, stray.other⟩
        exact absurd consistent inside.not_consistent

theorem firstStray_of_refused {stopped : Decoder} {after : List Frame}
    (consistent : Consistent none before)
    (first : stopped.firstOpcode = before.head?.map Frame.opcode)
    (refused : stopped.withOpcode frame = .error error) :
    ∃ opcode, FirstStray (before ++ frame :: after) before opcode frame ∧
      error = .inconsistentOpcode frame.opcodePosition opcode frame.opcode := by
  rcases withOpcode_error_iff.mp refused with ⟨opcode, known, other, reads⟩
  rw [known] at first
  cases before with
  | nil => cases first
  | cons head rest =>
      cases first
      refine ⟨head.opcode, ⟨⟨after, rfl⟩, List.cons_ne_nil _ _, ?_, other⟩, reads⟩
      intro earlier member
      exact consistent_none.mp consistent earlier member head List.mem_cons_self

theorem collectFrames_state {blocks kept : List Bytes}
    (ok : (decoder.collectFrames blocks found).result = .ok kept) :
    (decoder.collectFrames blocks found).state = ⟨decoder.opcodes, decoder.assembly,
      decoder.firstOpcode.or (found.head?.map Frame.opcode), decoder.kindBehind found,
      decoder.frameCount + found.length⟩ := by
  induction found generalizing decoder blocks with
  | nil => simp [Decoder.collectFrames, Outcome.each, Outcome.done, kindBehind_nil]
  | cons frame rest ih =>
      rw [Decoder.collectFrames, each_cons] at ok ⊢
      rcases andThen_ok_iff.mp ok with ⟨_, first, later⟩
      have same := (collectFrame_ok_iff.mp first).1
      have opcode : decoder.firstOpcode.or (some frame.opcode) = some frame.opcode := by
        cases known : decoder.firstOpcode with
        | none => rfl
        | some opcode => rw [Option.some_or, same opcode known]
      have taken : decoder.collectFrame blocks frame = _ :=
        collectFrame_of_ok (withOpcode_ok_iff.mpr ⟨same, rfl⟩)
      rw [(andThen_ok first).2]
      apply (ih later).trans
      rw [taken]
      simp only [Outcome.done, Option.some_or, List.head?_cons, Option.map_some, opcode,
        List.length_cons, Nat.add_assoc, Nat.add_comm 1, kindBehind_cons]

theorem collectFrames_stray (fresh : decoder.firstOpcode = none)
    (failed : (decoder.collectFrames [] found).result = .error error) :
    ∃ before opcode frame, FirstStray found before opcode frame ∧
      error = .inconsistentOpcode frame.opcodePosition opcode frame.opcode := by
  rcases each_stops failed with ⟨before, frame, ⟨after, rfl⟩, ⟨blocks, passes, fails, _⟩, _, _⟩
  have consistent := (collectFrames_ok_iff.mp passes).1
  rw [fresh] at consistent
  have first := congrArg Decoder.firstOpcode (collectFrames_state passes)
  rw [fresh, Option.none_or] at first
  cases known : (decoder.collectFrames [] before).state.withOpcode frame with
  | ok noted => cases fails.symm.trans (congrArg Outcome.result (collectFrame_of_ok known))
  | error reason =>
      cases fails.symm.trans (congrArg Outcome.result (collectFrame_of_error known))
      rcases firstStray_of_refused consistent first known with ⟨opcode, stray, reads⟩
      exact ⟨before, opcode, frame, stray, reads⟩

theorem addFrames_stray {limits : Limits} {offset expected actual : Int}
    (fresh : decoder.firstOpcode = none) (start : decoder.assembly = .start limits)
    (failed : (decoder.addFrames found).result =
      .error (.inconsistentOpcode offset expected actual)) :
    ∃ before frame, FirstStray found before expected frame ∧
      offset = frame.opcodePosition ∧ actual = frame.opcode := by
  rcases each_stops failed with ⟨before, frame, ⟨after, rfl⟩, ⟨_, passes, fails, _⟩, _, _⟩
  have consistent := (addFrames_ok_iff.mp passes).1
  rw [fresh] at consistent
  have first := congrArg Decoder.firstOpcode (addFrames_state passes)
  rw [fresh, Option.none_or] at first
  cases known : (decoder.addFrames before).state.withOpcode frame with
  | ok noted =>
      have running : decoder.assembly = .after limits [] := start
      have halted := congrArg Assembly.halted (addFrames_running running passes)
      rw [after_halted] at halted
      have added := fails.symm.trans (addFrame_of_ok known).1
      exact absurd ⟨_, _, _, rfl⟩ (add_error_other halted added.symm)
  | error reason =>
      cases fails.symm.trans (congrArg Outcome.result (addFrame_of_error known))
      rcases firstStray_of_refused consistent first known with ⟨opcode, stray, reads⟩
      cases reads
      exact ⟨before, frame, stray, rfl, rfl⟩

end Andromeda
