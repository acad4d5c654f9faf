import Andromeda.Decoder
import Andromeda.Proofs.Assembly.Delivery
import Andromeda.Proofs.Frame.Concatenation

namespace Andromeda

open Outcome

def framesOf (opcodes : OpcodeSet) (buffers : List Bytes) : List Frame :=
  buffers.flatMap (frames opcodes)

def Decoder.addFrames (decoder : Decoder) (found : List Frame) : Outcome Decoder Unit :=
  Outcome.each (fun decoder _ frame => decoder.addFrame frame) decoder () found

/-- The kind on record once some frames are let through. Only the first frame of all decides it. -/
def Decoder.kindBehind (decoder : Decoder) (found : List Frame) : Option ImageKind :=
  match decoder.firstOpcode, found with
  | none, frame :: _ => ImageKind.ofOpcode? frame.opcode
  | _, _ => decoder.kind

theorem withOpcode_ok_iff {decoder noted : Decoder} {frame : Frame} :
    decoder.withOpcode frame = .ok noted ↔
      (∀ opcode ∈ decoder.firstOpcode, frame.opcode = opcode) ∧
      noted = { decoder with
        firstOpcode := some frame.opcode, kind := decoder.kindBehind [frame] } := by
  rcases decoder with ⟨opcodes, assembly, firstOpcode, kind, frameCount⟩
  cases firstOpcode with
  | none => simp [Decoder.withOpcode, Decoder.kindBehind, eq_comm]
  | some first =>
      by_cases same : frame.opcode = first
      · simp [Decoder.withOpcode, Decoder.kindBehind, same, eq_comm]
      · simp [Decoder.withOpcode, same]

theorem withOpcode_error_iff {decoder : Decoder} {frame : Frame} {error : DecodeError} :
    decoder.withOpcode frame = .error error ↔
      ∃ first, decoder.firstOpcode = some first ∧ frame.opcode ≠ first ∧
        error = .inconsistentOpcode frame.opcodePosition first frame.opcode := by
  rcases decoder with ⟨opcodes, assembly, firstOpcode, kind, frameCount⟩
  cases firstOpcode with
  | none => simp [Decoder.withOpcode]
  | some first =>
      by_cases same : frame.opcode = first
      · simp [Decoder.withOpcode, same]
      · simp only [Decoder.withOpcode, if_neg same, Except.error.injEq, Option.some.injEq,
          exists_eq_left']
        exact ⟨fun refused => ⟨same, refused.symm⟩, fun refused => refused.2.symm⟩

theorem addFrame_of_error {decoder : Decoder} {frame : Frame} {error : DecodeError}
    (refused : decoder.withOpcode frame = .error error) :
    decoder.addFrame frame = .failed decoder error := by
  rw [Decoder.addFrame, refused]

theorem addFrame_of_ok {decoder noted : Decoder} {frame : Frame}
    (known : decoder.withOpcode frame = .ok noted) :
    (decoder.addFrame frame).result = (decoder.assembly.add frame.block).result ∧
      (decoder.addFrame frame).state = ⟨decoder.opcodes, (decoder.assembly.add frame.block).state,
        some frame.opcode, decoder.kindBehind [frame],
        match (decoder.assembly.add frame.block).result with
          | .ok () => decoder.frameCount + 1
          | .error _ => decoder.frameCount⟩ := by
  rcases withOpcode_ok_iff.mp known with ⟨_, rfl⟩
  rw [Decoder.addFrame, known]
  exact ⟨rfl, rfl⟩

theorem addFrame_opcodes (decoder : Decoder) (frame : Frame) :
    (decoder.addFrame frame).state.opcodes = decoder.opcodes := by
  cases known : decoder.withOpcode frame with
  | error error => rw [addFrame_of_error known, Outcome.failed]
  | ok noted => rw [(addFrame_of_ok known).2]

theorem addFrames_opcodes (decoder : Decoder) (found : List Frame) :
    (decoder.addFrames found).state.opcodes = decoder.opcodes :=
  each_kept Decoder.opcodes (fun decoder _ frame => addFrame_opcodes decoder frame) decoder () found

theorem each_framesOf {α : Type} {scan : Decoder → α → Bytes → Outcome Decoder α}
    {step : Decoder → α → Frame → Outcome Decoder α}
    (kept : ∀ decoder value frame, (step decoder value frame).state.opcodes = decoder.opcodes)
    (agrees : ∀ decoder value data, Agrees (scan decoder value data)
      (Outcome.each step decoder value (frames decoder.opcodes data)))
    (decoder : Decoder) (value : α) (buffers : List Bytes) :
    Agrees (Outcome.each scan decoder value buffers)
      (Outcome.each step decoder value (framesOf decoder.opcodes buffers)) := by
  induction buffers generalizing decoder value with
  | nil => exact Agrees.refl _
  | cons data buffers ih =>
      rw [each_cons, framesOf, List.flatMap_cons, each_append]
      apply (agrees decoder value data).andThen
      intro next _
      have later := ih (Outcome.each step decoder value (frames decoder.opcodes data)).state next
      rw [each_kept Decoder.opcodes kept] at later
      exact later

theorem feed_agrees (decoder : Decoder) (data : Bytes) :
    Agrees (decoder.feed data) (decoder.addFrames (frames decoder.opcodes data)) := by
  rw [← pass_frames, Decoder.feed, Decoder.addFrames]
  apply each_filterMap
  · intro decoder value segment noise
    cases segment with
    | found frame => cases noise
    | skipped length offset => exact ⟨rfl, rfl⟩
  · intro decoder value segment frame found
    cases segment with
    | skipped length offset => cases found
    | found inside =>
        cases found
        exact ⟨rfl, rfl⟩

def Decoder.feedAll (decoder : Decoder) (buffers : List Bytes) : Outcome Decoder Unit :=
  Outcome.each (fun decoder _ data => decoder.feed data) decoder () buffers

theorem feedAll_cons (decoder : Decoder) (data : Bytes) (rest : List Bytes) :
    decoder.feedAll (data :: rest) =
      (decoder.feed data).andThen fun decoder _ => decoder.feedAll rest :=
  each_cons ..

theorem feedAll_concat (decoder : Decoder) (buffers : List Bytes) (data : Bytes) :
    decoder.feedAll (buffers ++ [data]) =
      (decoder.feedAll buffers).andThen fun decoder _ => decoder.feed data := by
  simp only [Decoder.feedAll, each_append, each_singleton]

theorem decode_eq (decoder : Decoder) (buffers : List Bytes) :
    decoder.decode buffers =
      (decoder.feedAll buffers).andThen fun decoder _ => decoder.finish := rfl

theorem decode_nil (decoder : Decoder) : decoder.decode [] = decoder.finish := by
  rw [decode_eq]
  exact done_andThen decoder () _

theorem decode_cons (decoder : Decoder) (data : Bytes) (buffers : List Bytes) :
    decoder.decode (data :: buffers) =
      (decoder.feed data).andThen fun decoder _ => decoder.decode buffers := by
  rw [decode_eq, feedAll_cons, andThen_assoc]
  rfl

theorem feedAll_agrees (decoder : Decoder) (buffers : List Bytes) :
    Agrees (decoder.feedAll buffers)
      (decoder.addFrames (framesOf decoder.opcodes buffers)) :=
  each_framesOf (fun decoder _ frame => addFrame_opcodes decoder frame)
    (fun decoder _ data => feed_agrees decoder data) decoder () buffers

/-- Every frame has the opcode of the one before it, and the first one has a given opcode, if
there is one. -/
def Consistent : Option Int → List Frame → Prop
  | _, [] => True
  | first, frame :: rest =>
    (∀ opcode ∈ first, frame.opcode = opcode) ∧ Consistent (some frame.opcode) rest

theorem consistent_some {opcode : Int} {found : List Frame} :
    Consistent (some opcode) found ↔ ∀ frame ∈ found, frame.opcode = opcode := by
  induction found generalizing opcode with
  | nil => simp [Consistent]
  | cons frame rest ih =>
      simp only [Consistent, ih, Option.mem_some_iff, forall_eq', List.forall_mem_cons]
      constructor
      · intro consistent
        rcases consistent with ⟨same, others⟩
        rw [same] at others
        exact ⟨same, others⟩
      · intro all
        refine ⟨all.1, ?_⟩
        rw [all.1]
        exact all.2

theorem consistent_none {found : List Frame} :
    Consistent none found ↔
      ∀ first ∈ found, ∀ second ∈ found, first.opcode = second.opcode := by
  cases found with
  | nil => simp [Consistent]
  | cons frame rest =>
      simp only [Consistent, consistent_some, Option.not_mem_none, false_implies, implies_true,
        true_and]
      constructor
      · intro same first left second right
        have all : ∀ other ∈ frame :: rest, other.opcode = frame.opcode :=
          List.forall_mem_cons.mpr ⟨rfl, same⟩
        rw [all first left, all second right]
      · intro same other member
        exact same other (List.mem_cons_of_mem _ member) frame List.mem_cons_self

theorem addFrame_ok_iff {decoder : Decoder} {frame : Frame} :
    (decoder.addFrame frame).result = .ok () ↔
      (∀ opcode ∈ decoder.firstOpcode, frame.opcode = opcode) ∧
      (decoder.assembly.add frame.block).result = .ok () := by
  cases known : decoder.withOpcode frame with
  | error error =>
      rcases withOpcode_error_iff.mp known with ⟨first, present, other, _⟩
      rw [addFrame_of_error known, present]
      simp [Outcome.failed, other]
  | ok noted =>
      rw [(addFrame_of_ok known).1]
      exact (and_iff_right (withOpcode_ok_iff.mp known).1).symm

theorem addFrame_state {decoder : Decoder} {frame : Frame}
    (ok : (decoder.addFrame frame).result = .ok ()) :
    (decoder.addFrame frame).state = ⟨decoder.opcodes, (decoder.assembly.add frame.block).state,
      some frame.opcode, decoder.kindBehind [frame], decoder.frameCount + 1⟩ := by
  rcases addFrame_ok_iff.mp ok with ⟨same, added⟩
  rw [(addFrame_of_ok (withOpcode_ok_iff.mpr ⟨same, rfl⟩)).2, added]

theorem addAll_cons (assembly : Assembly) (block : Bytes) (blocks : List Bytes) :
    assembly.addAll (block :: blocks) =
      (assembly.add block).andThen fun assembly _ => assembly.addAll blocks := by
  simp only [Assembly.addAll, each_cons]

theorem addFrames_ok_iff {decoder : Decoder} {found : List Frame} :
    (decoder.addFrames found).result = .ok () ↔
      Consistent decoder.firstOpcode found ∧
      (decoder.assembly.addAll (found.map Frame.block)).result = .ok () := by
  induction found generalizing decoder with
  | nil => simp [Decoder.addFrames, Assembly.addAll, Consistent, Outcome.each, Outcome.done]
  | cons frame rest ih =>
      rw [Decoder.addFrames, each_cons, andThen_ok_iff, List.map_cons, addAll_cons,
        andThen_ok_iff, Consistent]
      constructor
      · intro run
        rcases run with ⟨_, first, later⟩
        have state := addFrame_state first
        have taken := addFrame_ok_iff.mp first
        rw [state] at later
        obtain ⟨consistent, added⟩ := ih.mp later
        exact ⟨⟨taken.1, consistent⟩, (), taken.2, added⟩
      · intro run
        rcases run with ⟨⟨same, consistent⟩, _, added, later⟩
        have first := addFrame_ok_iff.mpr ⟨same, added⟩
        refine ⟨(), first, ?_⟩
        rw [addFrame_state first]
        exact ih.mpr ⟨consistent, later⟩

theorem kindBehind_nil (decoder : Decoder) : decoder.kindBehind [] = decoder.kind := by
  rw [Decoder.kindBehind.eq_def]
  cases decoder.firstOpcode <;> rfl

theorem kindBehind_cons (decoder : Decoder) (assembly : Assembly) (count : Nat) (frame : Frame)
    (rest : List Frame) :
    Decoder.kindBehind ⟨decoder.opcodes, assembly, some frame.opcode, decoder.kindBehind [frame],
      count⟩ rest = decoder.kindBehind (frame :: rest) := by
  simp only [Decoder.kindBehind.eq_def]
  cases decoder.firstOpcode <;> rfl

theorem addFrames_state {decoder : Decoder} {found : List Frame}
    (ok : (decoder.addFrames found).result = .ok ()) :
    (decoder.addFrames found).state =
      ⟨decoder.opcodes, (decoder.assembly.addAll (found.map Frame.block)).state,
        decoder.firstOpcode.or (found.head?.map Frame.opcode), decoder.kindBehind found,
        decoder.frameCount + found.length⟩ := by
  induction found generalizing decoder with
  | nil => simp [Decoder.addFrames, Assembly.addAll, Outcome.each, Outcome.done, kindBehind_nil]
  | cons frame rest ih =>
      rw [Decoder.addFrames, each_cons] at ok ⊢
      obtain ⟨_, first, later⟩ := andThen_ok_iff.mp ok
      have taken := addFrame_ok_iff.mp first
      have opcode : decoder.firstOpcode.or (some frame.opcode) = some frame.opcode := by
        cases known : decoder.firstOpcode with
        | none => rfl
        | some opcode => rw [Option.some_or, taken.1 opcode known]
      rw [(andThen_ok first).2]
      have state := ih later
      rw [Decoder.addFrames] at state
      rw [state, addFrame_state first, List.map_cons, addAll_cons, (andThen_ok taken.2).2]
      simp only [Option.some_or, List.head?_cons, Option.map_some, opcode, List.length_cons,
        Nat.add_assoc, Nat.add_comm 1, kindBehind_cons]

theorem finish_ok_iff {decoder : Decoder} {image : Image} :
    decoder.finish.result = .ok image ↔
      ∃ plain, decoder.assembly.finish.result = .ok plain ∧
        image = { plain with kind := decoder.kind } := by
  cases result : decoder.assembly.finish.result with
  | error error => simp [Decoder.finish, result, Outcome.failed]
  | ok plain =>
      simp only [Decoder.finish, result, Except.ok.injEq, exists_eq_left']
      exact eq_comm

theorem finish_state {decoder : Decoder} {image : Image}
    (ok : decoder.finish.result = .ok image) : decoder.finish.state = decoder := by
  obtain ⟨plain, made, _⟩ := finish_ok_iff.mp ok
  have kept := finish_again made
  simp [Decoder.finish, made, kept]

theorem decode_agrees (limits : Limits) (opcodes : OpcodeSet) (buffers : List Bytes) :
    Agrees ((Decoder.start limits opcodes).decode buffers)
      (((Decoder.start limits opcodes).addFrames (framesOf opcodes buffers)).andThen
        fun decoder _ => decoder.finish) :=
  (feedAll_agrees (Decoder.start limits opcodes) buffers).andThen fun _ _ => Agrees.refl _

/-- Buffers give an image when their frames have one opcode and the blocks of the frames make
up an image. The opcode tells the kind. -/
theorem decode_ok_iff {limits : Limits} {opcodes : OpcodeSet} {buffers : List Bytes}
    {image : Image} :
    ((Decoder.start limits opcodes).decode buffers).result = .ok image ↔
      (∀ first ∈ framesOf opcodes buffers, ∀ second ∈ framesOf opcodes buffers,
        first.opcode = second.opcode) ∧
      ∃ plain, (Assembly.assemble limits ((framesOf opcodes buffers).map Frame.block)).result =
          .ok plain ∧
        image = { plain with
          kind := (framesOf opcodes buffers).head?.bind fun frame =>
            ImageKind.ofOpcode? frame.opcode } := by
  have agrees := decode_agrees limits opcodes buffers
  rw [agrees.result, andThen_ok_iff, ← consistent_none]
  simp only [Assembly.assemble, andThen_ok_iff]
  have kind (found : List Frame) : (Decoder.start limits opcodes).kindBehind found =
      found.head?.bind fun frame => ImageKind.ofOpcode? frame.opcode := by
    cases found <;> rfl
  constructor
  · intro run
    rcases run with ⟨_, added, finished⟩
    obtain ⟨consistent, taken⟩ := addFrames_ok_iff.mp added
    rw [addFrames_state added] at finished
    obtain ⟨plain, made, same⟩ := finish_ok_iff.mp finished
    exact ⟨consistent, plain, ⟨(), taken, made⟩, by rw [same]; exact congrArg _ (kind ..)⟩
  · intro run
    rcases run with ⟨consistent, plain, ⟨_, taken, made⟩, same⟩
    have added : ((Decoder.start limits opcodes).addFrames (framesOf opcodes buffers)).result =
        .ok () := addFrames_ok_iff.mpr ⟨consistent, taken⟩
    refine ⟨(), added, ?_⟩
    rw [addFrames_state added]
    refine finish_ok_iff.mpr ⟨plain, made, ?_⟩
    rw [same]
    exact congrArg _ (kind ..).symm

def contentsOf (opcodes : OpcodeSet) (buffers : List Bytes) : List (Int × Bytes) :=
  (framesOf opcodes buffers).map Frame.content

def blocksOf (contents : List (Int × Bytes)) : List Bytes :=
  contents.map fun content => unpack content.2.values

theorem contentsOf_single (opcodes : OpcodeSet) (data : Bytes) :
    contentsOf opcodes [data] = (frames opcodes data).map Frame.content := by
  rw [contentsOf, framesOf, List.flatMap_singleton]

theorem blocksOf_append (first second : List (Int × Bytes)) :
    blocksOf (first ++ second) = blocksOf first ++ blocksOf second :=
  List.map_append

theorem blocksOf_map_content (found : List Frame) :
    blocksOf (found.map Frame.content) = found.map Frame.block := by
  rw [blocksOf, List.map_map]
  rfl

theorem decode_contents_iff {limits : Limits} {opcodes : OpcodeSet} {buffers : List Bytes}
    {image : Image} :
    ((Decoder.start limits opcodes).decode buffers).result = .ok image ↔
      (∀ first ∈ contentsOf opcodes buffers, ∀ second ∈ contentsOf opcodes buffers,
        first.1 = second.1) ∧
      ∃ plain, (Assembly.assemble limits (blocksOf (contentsOf opcodes buffers))).result =
          .ok plain ∧
        image = { plain with
          kind := (contentsOf opcodes buffers).head?.bind fun content =>
            ImageKind.ofOpcode? content.1 } := by
  rw [decode_ok_iff, contentsOf, blocksOf_map_content]
  simp only [List.forall_mem_map, List.head?_map, Option.bind_map]
  rfl

theorem head_opcode {contents : List (Int × Bytes)}
    (same : ∀ first ∈ contents, ∀ second ∈ contents, first.1 = second.1)
    {content : Int × Bytes} (member : content ∈ contents) :
    (contents.head?.bind fun first => ImageKind.ofOpcode? first.1) =
      ImageKind.ofOpcode? content.1 := by
  cases contents with
  | nil => cases member
  | cons first rest =>
      rw [List.head?_cons, Option.bind_some, same first List.mem_cons_self content member]

theorem decode_state {limits : Limits} {opcodes : OpcodeSet} {buffers : List Bytes}
    {image : Image}
    (ok : ((Decoder.start limits opcodes).decode buffers).result = .ok image) :
    ((Decoder.start limits opcodes).decode buffers).state.frameCount =
        (contentsOf opcodes buffers).length ∧
      ((Decoder.start limits opcodes).decode buffers).state.assembly =
        .after limits (blocksOf (contentsOf opcodes buffers)) := by
  have agrees := decode_agrees limits opcodes buffers
  rw [agrees.result] at ok
  rw [agrees.state, contentsOf, blocksOf_map_content, List.length_map]
  obtain ⟨_, added, finished⟩ := andThen_ok_iff.mp ok
  obtain ⟨_, taken⟩ := addFrames_ok_iff.mp added
  have accepted := (addAll_start limits _).1.mp taken
  rw [(andThen_ok added).2, finish_state finished, addFrames_state added]
  exact ⟨Nat.zero_add _, (addAll_start limits _).2 accepted⟩

end Andromeda
