import Andromeda.Proofs.Update.Alteration

namespace Andromeda

open Outcome

structure Update.FirstLost (update : Update) (sent : List Sending) (least : Nat) : Prop where
  inside : least < update.blockCount
  lost : ∀ sending ∈ sent, sending.index ≠ least
  before : ∀ index < least, ∃ sending ∈ sent, sending.index = index

/-- The frames of some blocks, cut in two inside the frame of one of them. -/
structure Update.CutInside (update : Update) (before : List Sending) (cut : Sending)
    (after : List Sending) (front back : Bytes) : Prop where
  whole : front ++ back = update.chain (before ++ cut :: after)
  begun : (update.chain before).length < front.length
  unfinished : front.length < (update.chain (before ++ [cut])).length

variable {update : Update} {limits : Limits} {sent before after : List Sending} {cut : Sending}
  {front back : Bytes} {least : Nat}

theorem Update.exists_firstLost
    (gap : ∃ index < update.blockCount, ∀ sending ∈ sent, sending.index ≠ index) :
    ∃ least, update.FirstLost sent least := by
  classical
  rcases Nat.find_spec gap with ⟨inside, lost⟩
  refine ⟨Nat.find gap, inside, lost, ?_⟩
  intro index below
  by_contra none
  apply Nat.find_min gap below
  refine ⟨below.trans inside, ?_⟩
  intro sending member same
  exact none ⟨sending, member, same⟩

theorem Update.FirstLost.unique {other : Nat} (first : update.FirstLost sent least)
    (second : update.FirstLost sent other) : least = other := by
  rcases Nat.lt_trichotomy least other with below | same | above
  · rcases second.before least below with ⟨sending, member, equal⟩
    exact absurd equal (first.lost sending member)
  · exact same
  · rcases first.before other above with ⟨sending, member, equal⟩
    exact absurd equal (second.lost sending member)

section Lost

variable (fits : update.Fits limits)
  (inside : ∀ sending ∈ sent, sending.index < update.blockCount)
  (once : limits.strict = true → (sent.map Sending.index).Nodup)

include fits inside once

theorem Update.accepted_sent : Accepted limits (sent.map update.sent) := by
  cases sent with
  | nil => exact .start
  | cons sending rest =>
      have read := update.read_sent fits inside sending List.mem_cons_self
      rw [List.map_cons]
      apply (accepted_iff_uniform ..).mpr
      apply (update.uniform_sent fits inside once).of_repeats
      rw [read]
      exact ⟨rfl, rfl, rfl, rfl⟩

omit once in
theorem Update.FirstLost.firstMissing (first : update.FirstLost sent least) :
    (Assembly.after limits (sent.map update.sent)).firstMissing = some least := by
  have read := update.read_sent fits inside
  have newest_iff (index : Nat) : newest (sent.map update.sent) index = none ↔
      ∀ sending ∈ sent, sending.index ≠ index := by
    rw [newest_eq_none_iff, List.forall_mem_map]
    apply forall₂_congr
    intro sending member
    rw [read sending member]
    exact not_congr Int.ofNat_inj
  cases sent with
  | nil =>
      have zero : least = 0 := by
        by_contra positive
        rcases first.before 0 (Nat.pos_of_ne_zero positive) with ⟨_, member, _⟩
        cases member
      rw [zero]
      rfl
  | cons sending rest =>
      have head := read sending List.mem_cons_self
      rw [List.map_cons, Assembly.after, ← List.map_cons, holding_firstMissing_iff]
      refine ⟨?_, (newest_iff least).mpr first.lost, ?_⟩
      · rw [head]
        exact first.inside
      · intro index below none
        rcases first.before index below with ⟨other, member, same⟩
        exact (newest_iff index).mp none other member same

theorem Update.decode_lost {buffers : List Bytes} (first : update.FirstLost sent least)
    (same : contentsOf .update buffers = sent.map update.content) :
    ((Decoder.start limits .update).decode buffers).result = .error (.missingBlocks least) := by
  have accepted := update.accepted_sent fits inside once
  have missing := first.firstMissing fits inside
  have blocks : (framesOf .update buffers).map Frame.block = sent.map update.sent := by
    rw [← blocksOf_map_content, ← contentsOf, same, update.blocksOf_contents]
  have consistent : Consistent none (framesOf .update buffers) := by
    have opcode : ∀ frame ∈ framesOf .update buffers, frame.opcode = update.kind.opcode := by
      intro frame member
      have carried : frame.content ∈ sent.map update.content := by
        rw [← same]
        exact List.mem_map_of_mem member
      rcases List.mem_map.mp carried with ⟨sending, _, equal⟩
      exact (congrArg Prod.fst equal).symm
    apply consistent_none.mpr
    intro frame left other right
    rw [opcode frame left, opcode other right]
  have added : ((Decoder.start limits .update).addFrames (framesOf .update buffers)).result =
      .ok () := by
    apply addFrames_ok_iff.mpr
    rw [blocks]
    exact ⟨consistent, (addAll_start limits _).1.mpr accepted⟩
  have state := congrArg Decoder.assembly (addFrames_state added)
  rw [blocks] at state
  have after := state.trans ((addAll_start limits _).2 accepted)
  have finished := finish_result (after_halted limits (sent.map update.sent))
  rw [(decode_agrees limits .update buffers).result, (andThen_ok added).1, Decoder.finish, after,
    finished, image_of_missing missing]
  rfl

end Lost

theorem Update.frames_piece {filling : Nat → UInt8} {index : Nat}
    (piece : front ++ back = update.send filling index) :
    (back ≠ [] → frames .update front = []) ∧ (front ≠ [] → frames .update back = []) := by
  have payload : ∀ byte ∈ (update.frame filling 0 index).payload, isData byte = true := by
    rw [update.payload_frame]
    exact isData_pack _
  exact ⟨frames_of_front update.kind.accepts_opcode payload piece,
    frames_of_back update.kind.accepts_opcode payload piece⟩

theorem Update.chain_append (update : Update) (first second : List Sending) :
    update.chain (first ++ second) = update.chain first ++ update.chain second :=
  List.flatMap_append

theorem pieces_of_cut {first second third : Bytes}
    (whole : front ++ back = first ++ (second ++ third)) (begun : first.length < front.length)
    (unfinished : front.length < (first ++ second).length) :
    ∃ start rest, front = first ++ start ∧ back = rest ++ third ∧ start ++ rest = second ∧
      start ≠ [] ∧ rest ≠ [] := by
  rw [List.length_append] at unfinished
  rcases List.append_eq_append_iff.mp whole with ⟨short, same, _⟩ | ⟨start, rfl, behind⟩
  · rw [same, List.length_append] at begun
    omega
  · rw [List.length_append] at begun unfinished
    rcases List.append_eq_append_iff.mp behind with ⟨long, same, _⟩ | ⟨rest, same, rfl⟩
    · rw [same, List.length_append] at unfinished
      omega
    · rw [same, List.length_append] at unfinished
      have some : 0 < start.length := by omega
      have more : 0 < rest.length := by omega
      exact ⟨start, rest, rfl, rfl, same.symm, List.ne_nil_of_length_pos some,
        List.ne_nil_of_length_pos more⟩

theorem Update.CutInside.pieces (cuts : update.CutInside before cut after front back) :
    ∃ start rest, front = update.chain before ++ start ∧ back = rest ++ update.chain after ∧
      start ++ rest = update.send cut.filling cut.index ∧ start ≠ [] ∧ rest ≠ [] := by
  rcases cuts with ⟨whole, begun, unfinished⟩
  have last : update.chain [cut] = update.send cut.filling cut.index := List.flatMap_singleton ..
  rw [update.chain_append, last] at unfinished
  rw [← List.singleton_append, update.chain_append, update.chain_append, last] at whole
  exact pieces_of_cut whole begun unfinished

theorem Update.contents_broken_off {filling : Nat → UInt8} {index : Nat}
    (piece : front ++ back = update.send filling index) (unfinished : back ≠ []) :
    contentsOf .update [update.chain sent ++ front] = sent.map update.content := by
  rw [contentsOf_single, contents_append _ _ (update.parted_behind_chain sent front),
    update.contents_chain, (update.frames_piece piece).1 unfinished]
  exact List.append_nil _

theorem Update.CutInside.contents (cuts : update.CutInside before cut after front back) :
    contentsOf .update [front, back] = (before ++ after).map update.content := by
  rcases cuts.pieces with ⟨start, rest, rfl, rfl, piece, begun, unfinished⟩
  have behind := update.parted_behind_chain before start
  have ahead := update.parted_before_chain rest after
  have quiet := update.frames_piece piece
  calc
    contentsOf .update [update.chain before ++ start, rest ++ update.chain after] =
        (frames .update (update.chain before ++ start)).map Frame.content ++
          (frames .update (rest ++ update.chain after)).map Frame.content := by
      simp only [contentsOf, framesOf, List.flatMap_cons, List.flatMap_nil, List.append_nil,
        List.map_append]
    _ = before.map update.content ++ after.map update.content := by
      rw [contents_append _ _ behind, contents_append _ _ ahead, quiet.1 unfinished,
        quiet.2 begun, update.contents_chain, update.contents_chain]
      simp only [List.map_nil, List.append_nil, List.nil_append]
    _ = (before ++ after).map update.content := List.map_append.symm

/-- What is lost of an update is reported. Where the frames of its blocks leave one out, a piece of
a further frame behind them does not make up for it; and where they are cut in two inside the only
frame of a block, that block is lost. -/
theorem Update.loss_reported (fits : update.Fits limits)
    (inside : ∀ sending ∈ sent, sending.index < update.blockCount)
    (once : limits.strict = true → (sent.map Sending.index).Nodup) :
    (∀ filling index front back, front ++ back = update.send filling index → back ≠ [] →
      (∃ gap < update.blockCount, ∀ sending ∈ sent, sending.index ≠ gap) →
      ∃ least, update.FirstLost sent least ∧
        ((Decoder.start limits .update).decode [update.chain sent ++ front]).result =
          .error (.missingBlocks least)) ∧
    ∀ before cut after front back, sent = before ++ cut :: after →
      (∀ sending ∈ before ++ after, sending.index ≠ cut.index) →
      update.CutInside before cut after front back →
      ∃ least, update.FirstLost (before ++ after) least ∧
        ((Decoder.start limits .update).decode [front, back]).result =
          .error (.missingBlocks least) := by
  constructor
  · intro filling index front back piece unfinished gap
    rcases update.exists_firstLost gap with ⟨least, first⟩
    refine ⟨least, first, ?_⟩
    exact update.decode_lost fits inside once first (update.contents_broken_off piece unfinished)
  · rintro before cut after front back rfl alone cuts
    have sublist : (before ++ after).Sublist (before ++ cut :: after) :=
      (List.sublist_cons_self cut after).append_left before
    have within := inside cut (by simp)
    rcases update.exists_firstLost ⟨cut.index, within, alone⟩ with ⟨least, first⟩
    refine ⟨least, first, ?_⟩
    apply update.decode_lost fits _ _ first cuts.contents
    · intro sending member
      exact inside sending (sublist.subset member)
    · intro strict
      exact (once strict).sublist (sublist.map Sending.index)

theorem oneByteOver_loss :
    let first : Sending := ⟨0, fun _ => 0x00, []⟩
    let second : Sending := ⟨1, fun _ => 0xFF, []⟩
    let broken := oneByteOver.send second.filling second.index
    oneByteOver.Fits .widest ∧
      (∀ sending ∈ [first, second, first], sending.index < oneByteOver.blockCount) ∧
      (Limits.widest.strict = true → ([first, second, first].map Sending.index).Nodup) ∧
      ((Decoder.start .widest .update).decode
          [oneByteOver.chain [first, first] ++ broken.take 317]).result =
        .error (.missingBlocks 1) ∧
      ((Decoder.start .widest .update).decode
          [oneByteOver.chain [first] ++ broken.take 6,
            broken.drop 6 ++ oneByteOver.chain [first]]).result = .error (.missingBlocks 1) := by
  intro first second broken
  have count := oneByteOver_blockCount
  have length : broken.length = 318 := oneByteOver.length_send second.filling second.index
  have inside : ∀ sending ∈ [first, second, first], sending.index < oneByteOver.blockCount := by
    rw [count]
    decide
  have once : Limits.widest.strict = true →
      ([first, second, first].map Sending.index).Nodup := by decide
  have lost : oneByteOver.FirstLost [first, first] 1 := by
    refine ⟨?_, by decide, by decide⟩
    rw [count]
    decide
  refine ⟨oneByteOver_fits, inside, once, ?_, ?_⟩
  · have few : ∀ sending ∈ [first, first], sending.index < oneByteOver.blockCount := by
      rw [count]
      decide
    have unfinished : broken.drop 317 ≠ [] := by
      apply List.ne_nil_of_length_pos
      rw [List.length_drop, length]
      decide
    rcases (Update.loss_reported oneByteOver_fits few (by decide)).1 second.filling second.index _ _
      (List.take_append_drop 317 broken) unfinished ⟨1, lost.inside, lost.lost⟩ with
      ⟨least, other, reported⟩
    rw [← lost.unique other] at reported
    exact reported
  · have cuts : oneByteOver.CutInside [first] second [first]
        (oneByteOver.chain [first] ++ broken.take 6)
        (broken.drop 6 ++ oneByteOver.chain [first]) := by
      have last : oneByteOver.chain [second] = broken := List.flatMap_singleton ..
      refine ⟨?_, ?_, ?_⟩
      · have piece : broken.take 6 ++ broken.drop 6 = broken := List.take_append_drop 6 broken
        have parts : [first, second, first] = [first] ++ ([second] ++ [first]) := rfl
        rw [List.singleton_append, parts, oneByteOver.chain_append, oneByteOver.chain_append, last,
          List.append_assoc, ← List.append_assoc (broken.take 6), piece]
      · rw [List.length_append, List.length_take, length]
        omega
      · rw [oneByteOver.chain_append, last, List.length_append, List.length_append,
          List.length_take, length]
        omega
    rcases (Update.loss_reported oneByteOver_fits inside once).2 [first] second [first] _ _ rfl
      lost.lost cuts with ⟨least, other, reported⟩
    rw [← lost.unique other] at reported
    exact reported

end Andromeda
