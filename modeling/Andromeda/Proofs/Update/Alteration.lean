import Andromeda.Proofs.Update.Capture

/-!
The frames of an update one behind the other, with one byte replaced. The replacement stays in
the frame it falls into: the frames around it are found as before, and that frame is lost,
broken into pieces of the wrong size, or one with another opcode or another packed byte.
-/

namespace Andromeda

def Update.chain (update : Update) (sent : List Sending) : Bytes :=
  sent.flatMap fun sending => update.send sending.filling sending.index

variable {update : Update} {sent : List Sending} {frame other : Frame}

theorem set_flatMap {α : Type} (piece : α → Bytes) (items : List α) (place : Nat) (byte : UInt8)
    (inside : place < (items.flatMap piece).length) :
    ∃ front item back spot, items = front ++ item :: back ∧
      (items.flatMap piece).set place byte =
        front.flatMap piece ++ ((piece item).set spot byte ++ back.flatMap piece) := by
  induction items generalizing place with
  | nil => cases inside
  | cons item items ih =>
      rw [List.flatMap_cons] at inside ⊢
      by_cases first : place < (piece item).length
      · exact ⟨[], item, items, place, rfl, List.set_append_left place byte first⟩
      · rw [List.length_append] at inside
        rcases ih (place - (piece item).length) (by omega) with
          ⟨front, later, back, spot, rfl, altered⟩
        refine ⟨item :: front, later, back, spot, rfl, ?_⟩
        rw [List.set_append_right place byte (by omega), altered, List.flatMap_cons,
          List.append_assoc]

theorem parts_of_set {front back front' back' : Bytes} {place : Nat} {byte : UInt8}
    (size : front.length = front'.length)
    (same : (front ++ back).set place byte = front' ++ back') :
    (∃ spot, front' = front.set spot byte) ∧ ∃ spot, back' = back.set spot byte := by
  by_cases first : place < front.length
  · rw [List.set_append_left place byte first] at same
    rcases List.append_inj same (by rw [List.length_set, size]) with ⟨before, behind⟩
    refine ⟨⟨place, before.symm⟩, back.length, ?_⟩
    rw [List.set_eq_of_length_le (Nat.le_refl _), behind]
  · rw [List.set_append_right place byte (Nat.le_of_not_lt first)] at same
    rcases List.append_inj same size with ⟨before, behind⟩
    refine ⟨⟨front.length, ?_⟩, place - front.length, behind.symm⟩
    rw [List.set_eq_of_length_le (Nat.le_refl _), before]

theorem Frame.payload_of_set {place : Nat} {byte : UInt8}
    (same : frame.toBytes.set place byte = other.toBytes) :
    ∃ spot, other.payload = frame.payload.set spot byte := by
  have size := congrArg List.length same
  rw [List.length_set, Frame.length_toBytes, Frame.length_toBytes] at size
  have parts (frame : Frame) : frame.toBytes =
      (frameStart ++ [UInt8.ofNat frame.opcode.toNat]) ++ (frame.payload ++ [frameEnd]) := by
    simp [Frame.toBytes]
  have head : (frameStart ++ [UInt8.ofNat frame.opcode.toNat]).length =
      (frameStart ++ [UInt8.ofNat other.opcode.toNat]).length := rfl
  rw [parts frame, parts other] at same
  rcases (parts_of_set head same).2 with ⟨spot, behind⟩
  exact (parts_of_set (by omega) behind.symm).1

theorem Occurs.fills {listed : List Int} {data : Bytes} (occurs : Occurs listed data frame)
    (size : frame.block.length = 272) (length : data.length = 318) : data = frame.toBytes := by
  rcases occurs.place with ⟨front, back, same, _⟩
  have packed : 7 * frame.payload.length / 8 = 272 := by
    rw [← size, Frame.block, length_unpack, Bytes.length_values]
  have whole := congrArg List.length same
  rw [length, List.length_append, List.length_append, Frame.length_toBytes] at whole
  have before : front = [] := List.eq_nil_of_length_eq_zero (by omega)
  have behind : back = [] := List.eq_nil_of_length_eq_zero (by omega)
  rw [same, before, behind, List.nil_append, List.append_nil]

theorem Update.length_send (update : Update) (filling : Nat → UInt8) (index : Nat) :
    (update.send filling index).length = 318 := by
  rw [Update.send, Frame.length_toBytes, Update.payload_frame, length_pack,
    Bytes.length_values, update.length_block]

def Update.altered (update : Update) (sending : Sending) (spot : Nat) (byte : UInt8) : Bytes :=
  (update.send sending.filling sending.index).set spot byte

theorem Update.frames_altered {sending : Sending} {spot : Nat} {byte : UInt8}
    (found : frame ∈ frames .update (update.altered sending spot byte))
    (size : frame.block.length = 272) :
    (frames .update (update.altered sending spot byte)).map Frame.content = [frame.content] ∧
      (∀ packed ∈ frame.payload, isData packed = true) ∧
      ∃ place, frame.payload = (pack (update.sent sending).values).set place byte := by
  have occurs := (mem_frames_iff ..).mp found
  have length := update.length_send sending.filling sending.index
  have whole := occurs.fills size (by rw [Update.altered, List.length_set, length])
  have accepted := (OpcodeSet.update.accepts_iff _).mpr occurs.opcode
  have payload : ∀ packed ∈ frame.payload, isData packed = true := by
    intro packed member
    exact (isData_iff packed).mpr (occurs.payload packed member)
  refine ⟨?_, payload, ?_⟩
  · rw [whole]
    exact frames_toBytes accepted payload
  · rw [Update.sent, ← update.payload_frame _ 0]
    exact Frame.payload_of_set whole

theorem Update.chain_eq_capture (update : Update) (sent : List Sending) :
    update.chain sent =
      update.capture [] (sent.map fun sending => { sending with noise := [] }) := by
  simp [Update.chain, Update.capture, List.flatMap_map]

theorem Update.contents_chain (update : Update) (sent : List Sending) :
    (frames .update (update.chain sent)).map Frame.content = sent.map update.content := by
  have silent : Quiet [] := quiet_iff.mpr rfl
  have bare : ∀ sending ∈ sent.map fun sending => { sending with noise := [] },
      Quiet sending.noise := by
    intro sending member
    rcases List.mem_map.mp member with ⟨_, _, rfl⟩
    exact silent
  rw [update.chain_eq_capture, update.contents_capture [] _ silent bare, List.map_map]
  rfl

theorem Update.parted_behind_chain (update : Update) (sent : List Sending) (back : Bytes) :
    Parted (update.chain sent) back := by
  rcases List.eq_nil_or_concat' sent with rfl | ⟨sent, sending, rfl⟩
  · exact .inl rfl
  · rw [Update.chain, List.flatMap_append, List.flatMap_singleton]
    exact parted_behind_frame _ _ back

theorem Update.parted_before_chain (update : Update) (front : Bytes) (sent : List Sending) :
    Parted front (update.chain sent) := by
  cases sent with
  | nil => exact .inr (.inl rfl)
  | cons sending sent =>
      rw [Update.chain, List.flatMap_cons]
      exact parted_before_frame front _ _

theorem Update.contents_altered (update : Update) (sent : List Sending) (place : Nat)
    (byte : UInt8) (inside : place < (update.chain sent).length) :
    ∃ before sending behind spot, sent = before ++ sending :: behind ∧
      contentsOf .update [(update.chain sent).set place byte] =
        before.map update.content ++
          ((frames .update (update.altered sending spot byte)).map Frame.content ++
            behind.map update.content) := by
  rcases set_flatMap _ sent place byte inside with
    ⟨before, sending, behind, spot, whole, altered⟩
  refine ⟨before, sending, behind, spot, whole, ?_⟩
  have first := update.parted_behind_chain before
    (update.altered sending spot byte ++ update.chain behind)
  have second := update.parted_before_chain (update.altered sending spot byte) behind
  calc
    contentsOf .update [(update.chain sent).set place byte] =
        (frames .update (update.chain before ++
          (update.altered sending spot byte ++ update.chain behind))).map Frame.content := by
      rw [contentsOf_single]
      exact congrArg _ (congrArg _ altered)
    _ = (frames .update (update.chain before)).map Frame.content ++
        (frames .update (update.altered sending spot byte ++ update.chain behind)).map
          Frame.content := contents_append _ _ first
    _ = before.map update.content ++
        ((frames .update (update.altered sending spot byte)).map Frame.content ++
          behind.map update.content) := by
      rw [contents_append _ _ second, update.contents_chain, update.contents_chain]

end Andromeda
