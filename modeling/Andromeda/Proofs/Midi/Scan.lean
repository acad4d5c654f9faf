import Andromeda.Proofs.Decoder.Frames
import Andromeda.Proofs.Midi.Rounds

namespace Andromeda

open Outcome

def wireLength (messages : List Message) : Nat :=
  ((messages.filterMap Message.exclusive?).map fun data => data.length + 2).sum

namespace Message

def frame? (opcodes : OpcodeSet) (offset : Nat) : Message → Option Frame
  | .exclusive (0x00 :: 0x00 :: 0x0E :: 0x1D :: opcode :: payload) =>
    if opcodes.accepts opcode.toNat then some ⟨offset, opcode.toNat, payload⟩ else none
  | _ => none

def Clean (message : Message) : Prop :=
  ∀ data ∈ message.exclusive?, ∀ byte ∈ data, byte ≤ 0x7F

instance (message : Message) : Decidable message.Clean :=
  inferInstanceAs (Decidable (∀ data ∈ message.exclusive?, ∀ byte ∈ data, byte ≤ 0x7F))

end Message

def wireFrames (opcodes : OpcodeSet) (messages : List Message) : List Frame :=
  messages.zipIdx.filterMap fun entry =>
    entry.1.frame? opcodes (wireLength (messages.take entry.2))

def BeginsUpdate (data : Bytes) : Prop :=
  [0x00, 0x00, 0x0E, 0x1D, 0x30] <+: data ∨ [0x00, 0x00, 0x0E, 0x1D, 0x3F] <+: data

instance (data : Bytes) : Decidable (BeginsUpdate data) := inferInstanceAs (Decidable (_ ∨ _))

/-- A capture counts its update messages, and decoding its data takes just these messages. -/
structure Capture.Scanned (capture : Capture) : Prop where
  data : capture.data = recordedBytes (capture.messages.map Message.exclusive)
  updateFrames : capture.updateFrames = capture.messages.countP fun data => BeginsUpdate data
  decoded : ∀ decoder : Decoder, Agrees (decoder.decode [capture.data])
    ((decoder.addFrames (wireFrames decoder.opcodes
      (capture.messages.map Message.exclusive))).andThen fun decoder _ => decoder.finish)

section Wire

variable {opcodes : OpcodeSet} {data : Bytes} {messages : List Message}

theorem wireLength_append (first second : List Message) :
    wireLength (first ++ second) = wireLength first + wireLength second := by
  rw [wireLength, List.filterMap_append, List.map_append, List.sum_append]
  rfl

theorem recordedBytes_append (first second : List Message) :
    recordedBytes (first ++ second) = recordedBytes first ++ recordedBytes second := by
  rw [recordedBytes, List.filterMap_append, List.flatMap_append]
  rfl

theorem length_recordedBytes (messages : List Message) :
    (recordedBytes messages).length = wireLength messages := by
  rw [recordedBytes, List.length_flatMap, wireLength]
  congr 2
  funext data
  simp [exclusiveBytes]

theorem frame?_eq_some_iff {offset : Nat} {frame : Frame} :
    (Message.exclusive data).frame? opcodes offset = some frame ↔
      frame.offset = offset ∧ opcodes.accepts frame.opcode = true ∧ data = frame.body := by
  constructor
  · intro found
    rw [Message.frame?.eq_def] at found
    split at found
    case h_2 => cases found
    case h_1 opcode payload same =>
      cases same
      split at found
      case isFalse => cases found
      case isTrue accepted =>
        cases Option.some.inj found
        refine ⟨rfl, accepted, ?_⟩
        simp [Frame.body]
  · rintro ⟨position, accepted, rfl⟩
    have value := opcodes.toNat_accepted accepted
    simp only [Frame.body, List.cons_append, List.nil_append, Message.frame?, value, accepted,
      if_true]
    rw [← position]

theorem frameAt?_exclusive (offset : Nat) (clean : ∀ byte ∈ data, isData byte = true) :
    frameAt? opcodes offset (exclusiveBytes data) =
      (Message.exclusive data).frame? opcodes offset := by
  have run (bytes back : Bytes) (clean : ∀ byte ∈ bytes, isData byte = true) :
      (bytes ++ frameEnd :: back).takeWhile isData = bytes := by
    rw [List.takeWhile_append_of_pos clean]
    simp [frameEnd, isData]
  apply Option.ext
  intro frame
  rw [frameAt?_eq_some_iff, frame?_eq_some_iff]
  constructor
  · rintro ⟨position, accepted, payload, back, same⟩
    rw [Frame.toBytes_eq, exclusiveBytes, List.cons_append, List.append_assoc] at same
    have ended := congrArg (List.takeWhile isData) (List.cons.inj same).2
    rw [run data [] clean] at ended
    exact ⟨position, accepted, ended.trans (run _ _ (Frame.isData_body accepted payload))⟩
  · rintro ⟨position, accepted, rfl⟩
    refine ⟨position, accepted, ?_, [], by rw [Frame.toBytes_eq, List.append_nil]; rfl⟩
    intro byte member
    exact clean byte (by simp [Frame.body, member])

theorem framesAt_exclusive (offset : Nat) (clean : ∀ byte ∈ data, isData byte = true) :
    framesAt opcodes offset (exclusiveBytes data) =
      ((Message.exclusive data).frame? opcodes offset).toList := by
  have first : frameAt? opcodes offset (exclusiveBytes data) = _ :=
    frameAt?_exclusive offset clean
  have quiet : ∀ byte ∈ data ++ [frameEnd], byte ≠ 0xF0 := by
    intro byte member
    rcases List.mem_append.mp member with inside | last
    · exact ne_of_isData (clean byte inside) rfl
    · rw [List.mem_singleton.mp last]
      decide
  have rest := framesAt_behind opcodes (offset + 1) (data ++ [frameEnd]) [] quiet
  rw [List.append_nil] at rest
  rw [exclusiveBytes] at first ⊢
  rw [framesAt, first, rest, framesAt, List.append_nil]

theorem framesAt_message (offset : Nat) {message : Message} (clean : message.Clean) :
    framesAt opcodes offset (recordedBytes [message]) =
      (message.frame? opcodes offset).toList := by
  cases message with
  | other => rfl
  | exclusive data =>
      have one : recordedBytes [.exclusive data] = exclusiveBytes data := List.append_nil _
      rw [one]
      apply framesAt_exclusive
      intro byte member
      exact (isData_iff byte).mpr (clean data rfl byte member)

theorem parted_before_messages (front : Bytes) (messages : List Message) :
    Parted front (recordedBytes messages) := by
  rw [recordedBytes]
  cases messages.filterMap Message.exclusive? with
  | nil => exact .inr (.inl rfl)
  | cons data rest => exact .inr (.inr (.inr ⟨0xF0, rfl, rfl, by decide⟩))

theorem framesAt_recorded (offset : Nat) (clean : ∀ message ∈ messages, message.Clean) :
    framesAt opcodes offset (recordedBytes messages) =
      messages.zipIdx.filterMap fun entry =>
        entry.1.frame? opcodes (offset + wireLength (messages.take entry.2)) := by
  induction messages generalizing offset with
  | nil => rfl
  | cons message messages ih =>
      have behind (place : Nat) : wireLength ((message :: messages).take (place + 1)) =
          wireLength [message] + wireLength (messages.take place) :=
        wireLength_append [message] (messages.take place)
      have first : framesAt opcodes offset (recordedBytes [message]) = _ :=
        framesAt_message offset (clean message List.mem_cons_self)
      have rest := ih (offset + wireLength [message]) fun later member =>
        clean later (List.mem_cons_of_mem _ member)
      calc
        framesAt opcodes offset (recordedBytes ([message] ++ messages)) =
            framesAt opcodes offset (recordedBytes [message]) ++
              framesAt opcodes (offset + wireLength [message]) (recordedBytes messages) := by
          rw [recordedBytes_append, framesAt_append _ _ _ (parted_before_messages ..),
            length_recordedBytes]
        _ = (message.frame? opcodes offset).toList ++ messages.zipIdx.filterMap fun entry =>
              entry.1.frame? opcodes
                (offset + wireLength ((message :: messages).take (entry.2 + 1))) := by
          simp only [first, rest, behind, Nat.add_assoc]
        _ = _ := by
          rw [List.zipIdx_cons', List.filterMap_cons, List.filterMap_map]
          have start : offset + wireLength ((message :: messages).take 0) = offset := rfl
          simp only [start]
          cases message.frame? opcodes offset <;> rfl

theorem frames_recorded (opcodes : OpcodeSet) (clean : ∀ message ∈ messages, message.Clean) :
    frames opcodes (recordedBytes messages) = wireFrames opcodes messages := by
  have found : framesAt opcodes 0 (recordedBytes messages) = _ := framesAt_recorded 0 clean
  simp only [Nat.zero_add] at found
  rw [frames_eq_framesAt, found, wireFrames]

end Wire

section Update

theorem isSome_frame?_update (data : Bytes) (offset : Nat) :
    ((Message.exclusive data).frame? .update offset).isSome = true ↔ BeginsUpdate data := by
  rw [Option.isSome_iff_exists]
  simp only [frame?_eq_some_iff]
  constructor
  · rintro ⟨frame, _, accepted, rfl⟩
    have listed := (OpcodeSet.update.accepts_iff _).mp accepted
    rcases List.mem_cons.mp listed with os | later
    · exact .inl ⟨frame.payload, by rw [Frame.body, os]; rfl⟩
    · exact .inr ⟨frame.payload, by rw [Frame.body, List.mem_singleton.mp later]; rfl⟩
  · rintro (⟨payload, rfl⟩ | ⟨payload, rfl⟩)
    · exact ⟨⟨offset, 0x30, payload⟩, rfl, rfl, rfl⟩
    · exact ⟨⟨offset, 0x3F, payload⟩, rfl, rfl, rfl⟩

theorem length_wireFrames_update (messages : List Bytes) :
    (wireFrames .update (messages.map Message.exclusive)).length =
      messages.countP fun data => BeginsUpdate data := by
  calc
    _ = (messages.map Message.exclusive).zipIdx.countP fun entry =>
        (entry.1.frame? .update (wireLength ((messages.map Message.exclusive).take entry.2))).isSome
      := List.length_filterMap_eq_countP
    _ = messages.zipIdx.countP fun entry => decide (BeginsUpdate entry.1) := by
      rw [List.zipIdx_map, List.countP_map]
      apply List.countP_congr
      intro entry _
      rw [decide_eq_true_eq]
      exact isSome_frame?_update entry.1 _
    _ = (messages.zipIdx.map Prod.fst).countP fun data => decide (BeginsUpdate data) := by
      rw [List.countP_map]
      rfl
    _ = messages.countP fun data => decide (BeginsUpdate data) := by rw [List.zipIdx_map_fst]

end Update

variable {σ : Type*} {listener : σ → Bytes → σ} {nothing told : σ} {host : Host}
  {settings : CaptureSettings} {capture : Capture}

theorem captured_clean (clean : ∀ batch ∈ host.batches, ∀ message ∈ batch, message.Clean)
    (ok : captureWith listener nothing host settings = .ok (capture, told)) :
    ∀ message ∈ capture.messages.map Message.exclusive, message.Clean := by
  obtain ⟨name, found, named⟩ := Host.captureWith_finds ok
  obtain ⟨polls, _, _, _, recorded, _⟩ := (Host.captureWith_ok_iff found named).mp ok
  have heard : capture.messages = host.heard polls := by
    rw [Capture.messages, recorded]
    rfl
  rw [heard, List.forall_mem_map]
  intro data member
  obtain ⟨batch, listed, inside⟩ := host.mem_heard member
  exact clean batch listed (.exclusive data) inside

theorem Capture.scanned
    (clean : ∀ message ∈ capture.messages.map Message.exclusive, message.Clean) :
    capture.Scanned := by
  have exclusive : (capture.messages.map Message.exclusive).filterMap Message.exclusive? =
      capture.messages := by
    rw [List.filterMap_map]
    exact List.filterMap_some
  have wire : capture.data = recordedBytes (capture.messages.map Message.exclusive) := by
    rw [recordedBytes, exclusive]
    rfl
  have found (opcodes : OpcodeSet) := frames_recorded opcodes clean
  simp only [← wire] at found
  refine ⟨wire, ?_, ?_⟩
  · rw [Capture.updateFrames, found, length_wireFrames_update]
  · intro decoder
    rw [decode_eq, ← found]
    have fed := feedAll_agrees decoder [capture.data]
    rw [framesOf, List.flatMap_singleton] at fed
    exact fed.andThen fun _ _ => Agrees.refl _

/-- A scan of clean messages finds those that have the form of a frame, and no other frames. So a
capture counts its updates right, and a decoder takes just these. -/
theorem captured_scanned :
    (∀ (opcodes : OpcodeSet) (messages : List Message), (∀ message ∈ messages, message.Clean) →
      (pass opcodes (recordedBytes messages) none).filterMap Segment.frame? =
        wireFrames opcodes messages) ∧
    ∀ (σ : Type) (listener : σ → Bytes → σ) (nothing told : σ) (host : Host)
      (settings : CaptureSettings) (capture : Capture),
      (∀ batch ∈ host.batches, ∀ message ∈ batch, message.Clean) →
      captureWith listener nothing host settings = .ok (capture, told) → capture.Scanned := by
  constructor
  · intro opcodes messages clean
    rw [pass_frames, frames_recorded opcodes clean]
  · intro σ listener nothing told host settings capture clean ok
    exact Capture.scanned (captured_clean clean ok)

theorem mixedHost_scanned :
    (∀ batch ∈ mixedHost.batches, ∀ message ∈ batch, message.Clean) ∧
      (Capture.mk .idle (mixedHost.finished "USB A6" 6)).updateFrames = 1 ∧
      (Capture.mk .idle (mixedHost.finished "USB A6" 6)).Scanned := by
  have clean : ∀ batch ∈ mixedHost.batches, ∀ message ∈ batch, message.Clean := by
    decide +kernel
  have ok := mixedHost_captured (fun _ _ => ()) ()
  exact ⟨clean, by decide +kernel, captured_scanned.2 _ _ _ _ _ _ _ clean ok⟩

end Andromeda
