import Andromeda.Proofs.Decoder.Calls
import Andromeda.Proofs.Frame.Passes

namespace Andromeda

open Outcome

/-- A buffer is fed up to one of its frames, and that frame is refused whatever stands behind it. -/
structure Decoder.StopsAt (decoder : Decoder) (data : Bytes) (offset : Nat) (frame : Frame)
    (error : DecodeError) : Prop where
  place : frame.offset = offset
  examined : decoder.examined (.feed data) =
    decoder.examined (.feed (data.take offset)) ++ [frame]
  before : (decoder.feed (data.take offset)).result = .ok ()
  refused : ((decoder.feed (data.take offset)).state.addFrame frame).result = .error error
  behind : ∀ rest, decoder.feed (data.take frame.stop.toNat ++ rest) = decoder.feed data

/-- A decoder before and after a frame that it refused, when it had looked at some frames and added
some of them. -/
structure Decoder.Unmoved (before after : Decoder) (examined added : List Frame) : Prop where
  keeps : before.assembly.Keeps after.assembly
  frameCount : after.frameCount = before.frameCount
  same : after = { before with
    firstOpcode := after.firstOpcode
    kind := after.kind
    assembly := { before.assembly with
      halted := after.assembly.halted
      header := after.assembly.header
      slots := after.assembly.slots } }
  kind : after.kind = after.firstOpcode.bind ImageKind.ofOpcode?
  opcode : examined ≠ [] →
    after.firstOpcode = before.firstOpcode ∧ after.kind = before.kind
  header : added ≠ [] →
    after.assembly.header = before.assembly.header ∧ after.assembly.slots = before.assembly.slots
  blank : added = [] → ∀ index, after.assembly.slice index = none

structure Assembly.Unmoved (before after : Assembly) (taken : List Bytes) : Prop where
  keeps : before.Keeps after
  same : after = { before with
    halted := after.halted, header := after.header, slots := after.slots }
  header : taken ≠ [] → after.header = before.header ∧ after.slots = before.slots

section Splitting

variable {opcodes : OpcodeSet} {frame : Frame} {before after : List Frame} {front : Bytes}

theorem frames_split {data : Bytes} (found : frames opcodes data = before ++ frame :: after) :
    ∃ front back, data = front ++ (frame.toBytes ++ back) ∧ frame.offset = front.length ∧
      frames opcodes front = before := by
  rw [frames_eq_framesAt] at found
  obtain ⟨front, back, bytes, position, left, _⟩ := framesAt_split found
  refine ⟨front, back, bytes, ?_, ?_⟩
  · rw [position, Int.natCast_zero, Int.zero_add]
  · rw [frames_eq_framesAt, left]

theorem pass_at_frame (accepted : opcodes.accepts frame.opcode = true)
    (payload : ∀ byte ∈ frame.payload, isData byte = true)
    (position : frame.offset = front.length) (back : Bytes) :
    ∃ later, pass opcodes (front ++ (frame.toBytes ++ back)) none =
      pass opcodes front none ++ .found frame :: later := by
  have place : frame.offset = (0 : Nat) + front.length := by
    rw [position, Int.natCast_zero, Int.zero_add]
  have found : frames opcodes (front ++ (frame.toBytes ++ back)) = frames opcodes front ++ frame ::
      framesAt opcodes (0 + front.length + frame.payload.length + 7) back := by
    rw [frames_eq_framesAt, frames_eq_framesAt, framesAt_around accepted payload place]
  refine ⟨tile (some (front ++ (frame.toBytes ++ back)).length) frame.stop []
    (framesAt opcodes (0 + front.length + frame.payload.length + 7) back), ?_⟩
  calc
    pass opcodes (front ++ (frame.toBytes ++ back)) none =
        tile (some (front ++ (frame.toBytes ++ back)).length) 0 []
          (frames opcodes (front ++ (frame.toBytes ++ back))) := rfl
    _ = _ := by
      rw [found, tile_append, position]
      rfl

end Splitting

section Refusing

variable {limits : Limits} {opcodes : OpcodeSet} {examined added : List Frame} {decoder : Decoder}
  {frame : Frame} {error : DecodeError} {front data : Bytes}

theorem Assembly.Unmoved.refl (assembly : Assembly) (taken : List Bytes) :
    assembly.Unmoved assembly taken :=
  ⟨.refl assembly, rfl, fun _ => ⟨rfl, rfl⟩⟩

theorem Assembly.Took.unmoved {taken : List Bytes} {assembly : Assembly} {block : Bytes}
    (took : Assembly.Took limits taken assembly)
    (failed : (assembly.add block).result = .error error) :
    assembly.Unmoved (assembly.add block).state taken := by
  cases took with
  | running accepted same =>
      subst same
      have reached : Assembly.Reached limits (.after limits taken) := .taking accepted
      have keeps := (reached.refuses failed).keeps
      rcases add_refused failed with ⟨state, _⟩ | ⟨rfl, _, _, _, state⟩
      · rw [state] at keeps ⊢
        exact ⟨keeps, rfl, fun _ => ⟨rfl, rfl⟩⟩
      · rw [state] at keeps ⊢
        refine ⟨keeps, ?_, fun some => absurd rfl some⟩
        rw [← holding_nil]
        rfl
  | halted reason accepted keeps refused other =>
      rw [add_halted refused]
      exact .refl assembly taken

theorem Decoder.Took.unmoved (took : Decoder.Took limits opcodes examined added decoder)
    (failed : (decoder.addFrame frame).result = .error error) :
    decoder.Unmoved (decoder.addFrame frame).state examined added := by
  have empty (none : added = []) (index : Nat) : decoder.assembly.slice index = Option.none := by
    subst none
    exact took.assembly.keeps.slice index
  have kind := (took.addFrame_error failed).1.kind
  cases known : decoder.withOpcode frame with
  | error reason =>
      rw [addFrame_of_error known]
      exact ⟨.refl _, rfl, rfl, took.kind, fun _ => ⟨rfl, rfl⟩, fun _ => ⟨rfl, rfl⟩, empty⟩
  | ok noted =>
      obtain ⟨same, _⟩ := withOpcode_ok_iff.mp known
      obtain ⟨result, state⟩ := addFrame_of_ok known
      rw [result] at failed
      have assembly := took.assembly.unmoved failed
      rw [failed] at state
      rw [state] at kind ⊢
      refine ⟨assembly.keeps, rfl, ?_, kind, ?_, ?_, ?_⟩
      · rw [← assembly.same]
      · -- the opcode was known before, as that of the first frame that was looked at
        intro looked
        have first : some frame.opcode = decoder.firstOpcode := by
          rw [head?_concat_same took.first same, took.first, List.head?_append_of_ne_nil _ looked]
        exact ⟨first, kind.trans (by rw [took.kind, ← first])⟩
      · intro some
        exact assembly.header (by simpa using some)
      · intro none index
        rw [assembly.keeps.slice, empty none]

theorem feed_at_frame (accepted : decoder.opcodes.accepts frame.opcode = true)
    (payload : ∀ byte ∈ frame.payload, isData byte = true)
    (position : frame.offset = front.length) (back : Bytes) :
    ∃ later : List Segment, decoder.feed (front ++ (frame.toBytes ++ back)) =
      (decoder.feed front).andThen fun decoder _ =>
        (decoder.feedSegment (.found frame)).andThen fun decoder _ =>
          Outcome.each (fun decoder _ segment => decoder.feedSegment segment) decoder () later := by
  obtain ⟨later, segments⟩ := pass_at_frame accepted payload position back
  refine ⟨later, ?_⟩
  rw [Decoder.feed, segments, each_append]
  simp only [each_cons]
  rfl

theorem andThen_refused {σ α β γ : Type} {outcome : Outcome σ α} {next : σ → α → Outcome σ β}
    {value : α} (ok : outcome.result = .ok value)
    (failed : (next outcome.state value).result = .error error)
    (later : σ → β → Outcome σ γ) :
    (outcome.andThen fun state value => (next state value).andThen later) =
      ⟨(next outcome.state value).state, .error error,
        outcome.log ++ (next outcome.state value).log⟩ := by
  rcases outcome with ⟨state, result, log⟩
  cases ok
  simp only [Outcome.andThen]
  generalize next state value = refused at failed ⊢
  rcases refused with ⟨after, result, noted⟩
  cases failed
  rfl

theorem feed_refused (accepted : decoder.opcodes.accepts frame.opcode = true)
    (payload : ∀ byte ∈ frame.payload, isData byte = true)
    (position : frame.offset = front.length) (ready : (decoder.feed front).result = .ok ())
    (refused : ((decoder.feed front).state.addFrame frame).result = .error error) :
    ∃ log, ∀ back, decoder.feed (front ++ (frame.toBytes ++ back)) =
      ⟨((decoder.feed front).state.addFrame frame).state, .error error, log⟩ := by
  have here : ((decoder.feed front).state.feedSegment (.found frame)).result = .error error :=
    refused
  refine ⟨(decoder.feed front).log ++
    ((decoder.feed front).state.feedSegment (.found frame)).log, fun back => ?_⟩
  obtain ⟨later, same⟩ := feed_at_frame accepted payload position back
  rw [same, andThen_refused ready here]
  rfl

theorem examined_feed (decoder : Decoder) (data : Bytes) :
    decoder.examined (.feed data) =
      tried (fun decoder _ frame => decoder.addFrame frame) decoder ()
        (frames decoder.opcodes data) := by
  have found : framesOf decoder.opcodes [data] = frames decoder.opcodes data :=
    List.flatMap_singleton ..
  rw [← found]
  rfl

theorem feed_stops (failed : (decoder.feed data).result = .error error) :
    ∃ offset frame, decoder.StopsAt data offset frame error ∧ (decoder.feed data).state =
      ((decoder.feed (data.take offset)).state.addFrame frame).state := by
  have agrees := feed_agrees decoder data
  rw [agrees.result] at failed
  obtain ⟨before, frame, ⟨after, found⟩, ⟨_, passes, fails, _⟩, tries, _⟩ := each_stops failed
  have member : frame ∈ framesAt decoder.opcodes 0 data := by
    rw [← frames_eq_framesAt, found]
    simp
  obtain ⟨accepted, payload, _⟩ := (mem_framesAt 0 data).mp member
  obtain ⟨front, back, rfl, position, left⟩ := frames_split found
  have fed : Agrees (decoder.feed front) (decoder.addFrames before) := by
    rw [← left]
    exact feed_agrees decoder front
  have ready : (decoder.feed front).result = .ok () := fed.result.trans passes
  have refused : ((decoder.feed front).state.addFrame frame).result = .error error := by
    rw [fed.state]
    exact fails
  obtain ⟨log, stops⟩ := feed_refused accepted payload position ready refused
  have cut : (front ++ (frame.toBytes ++ back)).take front.length = front := List.take_left
  have through : (front ++ (frame.toBytes ++ back)).take frame.stop.toNat =
      front ++ frame.toBytes := by
    have length : frame.stop.toNat = (front ++ frame.toBytes).length := by
      rw [List.length_append, Frame.length_toBytes, Frame.stop, Frame.opcodePosition]
      omega
    rw [length, ← List.append_assoc, List.take_left]
  refine ⟨front.length, frame, ⟨position, ?_, ?_, ?_, ?_⟩, ?_⟩
  · rw [cut, examined_feed, examined_feed, tries, left, (each_succeeded passes).1]
  · rw [cut, ready]
  · rw [cut, refused]
  · intro rest
    rw [through, List.append_assoc, stops, stops]
  · rw [cut, stops]

theorem call_feed_state (decoder : Decoder) (data : Bytes) :
    (decoder.call (.feed data)).state = (decoder.feed data).state := by
  rw [Decoder.call, andThen_done]

end Refusing

/-- A buffer that is not taken as a whole is taken up to one of its frames, and that frame changes
neither the data nor the sums and the counts, whatever was done before. -/
theorem refused_frame_stops (limits : Limits) (opcodes : OpcodeSet)
    (history : List Decoder.Call) (data : Bytes) (error : DecodeError)
    (failed : (((Decoder.start limits opcodes).run history).feed data).result = .error error) :
    ∃ offset frame,
      ((Decoder.start limits opcodes).run history).StopsAt data offset frame error ∧
      Decoder.Unmoved
        ((Decoder.start limits opcodes).run (history ++ [.feed (data.take offset)]))
        ((Decoder.start limits opcodes).run (history ++ [.feed data]))
        ((Decoder.start limits opcodes).examinedBy (history ++ [.feed (data.take offset)]))
        ((Decoder.start limits opcodes).addedBy (history ++ [.feed (data.take offset)])) := by
  obtain ⟨offset, frame, stops, state⟩ := feed_stops failed
  have reached (bytes : Bytes) :
      (Decoder.start limits opcodes).run (history ++ [.feed bytes]) =
        (((Decoder.start limits opcodes).run history).feed bytes).state := by
    rw [run_append]
    exact call_feed_state _ bytes
  have took := took_run limits opcodes (history ++ [.feed (data.take offset)])
  have refused := stops.refused
  rw [← reached] at refused
  have unmoved := took.unmoved refused
  rw [reached, ← state, ← reached data, ← reached] at unmoved
  exact ⟨offset, frame, stops, unmoved⟩

def hollowCapture : Bytes :=
  [0xF8, 0xF0, 0x00, 0x00, 0x0E, 0x1D, 0x30, 0xF7] ++ onlyBlockFrame

theorem hollowCapture_stops :
    ((Decoder.start .widest .update).feed hollowCapture).result =
        .error (.malformedBlock 0 272 0) ∧
      ∃ offset frame,
        (Decoder.start .widest .update).StopsAt hollowCapture offset frame
          (.malformedBlock 0 272 0) ∧
        Decoder.Unmoved
          ((Decoder.start .widest .update).run [.feed (hollowCapture.take offset)])
          ((Decoder.start .widest .update).run [.feed hollowCapture])
          ((Decoder.start .widest .update).examinedBy [.feed (hollowCapture.take offset)])
          ((Decoder.start .widest .update).addedBy [.feed (hollowCapture.take offset)]) := by
  have refused : ((Decoder.start .widest .update).feed hollowCapture).result =
      .error (.malformedBlock 0 272 0) := by
    decide +kernel
  exact ⟨refused, refused_frame_stops .widest .update [] hollowCapture _ refused⟩

end Andromeda
