import Andromeda.Proofs.Assembly.Offsets
import Andromeda.Proofs.Decoder.Strays

/-!
Two ways to read a capture: as the stream of its blocks, and as the image that they make up. Both
see the same frames in the same order. Where an image comes out, every block has its full length,
so the stream can be cut into its blocks again and put together apart from any frames.
-/

namespace Andromeda

open Outcome

def takeBlocks : Nat → Bytes → List Bytes
  | 0, _ => []
  | count + 1, stream => stream.take blockLength :: takeBlocks count (stream.drop blockLength)

def cutBlocks (stream : Bytes) : List Bytes := takeBlocks (stream.length / blockLength) stream

/-- The blocks of a decoded image, read as a stream: each frame brings a block of full length, and
the pieces of the stream make up the same image on their own. -/
structure Image.InStream (image : Image) (limits : Limits) (decoded : Outcome Decoder Image)
    (raw : Outcome Decoder Bytes) (stream : Bytes) : Prop where
  read : raw.result = .ok stream
  frames : raw.state.frameCount = decoded.state.frameCount
  length : stream.length = 272 * decoded.state.frameCount
  count : (decoded.state.frameCount : Int) =
    image.blockCount + decoded.state.assembly.warnings.size
  image : ∃ plain, (Assembly.assemble limits (cutBlocks stream)).result = .ok plain ∧
    image = { plain with kind := image.kind }
  assembly : (Assembly.assemble limits (cutBlocks stream)).state = decoded.state.assembly

/-- What comes of reading the blocks of a capture. Only opcodes can stand in the way. -/
structure Decoder.ReadsBlocks (limits : Limits) (opcodes : OpcodeSet) (buffers : List Bytes)
    (raw : Outcome Decoder Bytes) : Prop where
  untouched : raw.state.assembly = .start limits
  fails : (∃ error, raw.result = .error error) ↔ ∃ first ∈ framesOf opcodes buffers,
    ∃ second ∈ framesOf opcodes buffers, first.opcode ≠ second.opcode
  error : ∀ error, raw.result = .error error → ∃ before opcode frame,
    FirstStray (framesOf opcodes buffers) before opcode frame ∧
      error = .inconsistentOpcode frame.opcodePosition opcode frame.opcode
  stream : ∀ stream, raw.result = .ok stream →
    stream = (framesOf opcodes buffers).flatMap fun frame => unpack frame.payload.values

variable {limits : Limits} {opcodes : OpcodeSet} {buffers : List Bytes}

theorem takeBlocks_flatten {blocks : List Bytes}
    (sizes : ∀ block ∈ blocks, block.length = blockLength) :
    takeBlocks blocks.length blocks.flatten = blocks := by
  induction blocks with
  | nil => rfl
  | cons block rest ih =>
      have size := sizes block List.mem_cons_self
      have later := ih fun other member => sizes other (List.mem_cons_of_mem _ member)
      rw [List.flatten_cons, List.length_cons, takeBlocks, ← size, List.take_left, List.drop_left,
        later]

theorem cutBlocks_flatten {blocks : List Bytes}
    (sizes : ∀ block ∈ blocks, block.length = blockLength) :
    cutBlocks blocks.flatten = blocks := by
  have some : 0 < blockLength := by decide
  rw [cutBlocks, length_flatten_blocks sizes, Nat.mul_div_cancel _ some]
  exact takeBlocks_flatten sizes

theorem rawBlocks_collects (limits : Limits) (opcodes : OpcodeSet) (buffers : List Bytes) :
    Agrees ((Decoder.start limits opcodes).rawBlocks buffers)
      (((Decoder.start limits opcodes).collectFrames [] (framesOf opcodes buffers)).andThen
        fun decoder blocks => .done decoder blocks.reverse.flatten) :=
  rawBlocks_agrees (Decoder.start limits opcodes) buffers

theorem rawBlocks_assembly :
    ((Decoder.start limits opcodes).rawBlocks buffers).state.assembly = .start limits := by
  rw [(rawBlocks_collects limits opcodes buffers).state, andThen_done]
  exact collectFrames_assembly _ _ _

theorem rawBlocks_error {error : DecodeError}
    (failed : ((Decoder.start limits opcodes).rawBlocks buffers).result = .error error) :
    ∃ before opcode frame, FirstStray (framesOf opcodes buffers) before opcode frame ∧
      error = .inconsistentOpcode frame.opcodePosition opcode frame.opcode := by
  rw [(rawBlocks_collects limits opcodes buffers).result] at failed
  cases collected : ((Decoder.start limits opcodes).collectFrames []
      (framesOf opcodes buffers)).result with
  | ok blocks => cases failed.symm.trans (andThen_ok collected).1
  | error reason =>
      cases failed.symm.trans (andThen_error collected).1
      exact collectFrames_stray rfl collected

theorem rawBlocks_count {stream : Bytes}
    (ok : ((Decoder.start limits opcodes).rawBlocks buffers).result = .ok stream) :
    ((Decoder.start limits opcodes).rawBlocks buffers).state.frameCount =
      (framesOf opcodes buffers).length := by
  have agrees := rawBlocks_collects limits opcodes buffers
  rw [agrees.result] at ok
  rcases andThen_ok_iff.mp ok with ⟨_, collected, _⟩
  have counted := congrArg Decoder.frameCount (collectFrames_state collected)
  rw [agrees.state, andThen_done]
  exact counted.trans (Nat.zero_add _)

theorem rawBlocks_error_iff :
    (∃ error, ((Decoder.start limits opcodes).rawBlocks buffers).result = .error error) ↔
      ∃ first ∈ framesOf opcodes buffers, ∃ second ∈ framesOf opcodes buffers,
        first.opcode ≠ second.opcode := by
  constructor
  · intro failed
    rcases failed with ⟨error, failed⟩
    rcases rawBlocks_error failed with ⟨_, _, _, stray, _⟩
    by_contra none
    apply stray.not_consistent
    apply consistent_none.mpr
    intro first left second right
    by_contra other
    exact none ⟨first, left, second, right, other⟩
  · intro two
    rcases two with ⟨first, left, second, right, other⟩
    cases result : ((Decoder.start limits opcodes).rawBlocks buffers).result with
    | error error => exact ⟨error, rfl⟩
    | ok stream => exact absurd ((rawBlocks_ok_iff.mp result).1 first left second right) other

theorem rawBlocks_reads (limits : Limits) (opcodes : OpcodeSet) (buffers : List Bytes) :
    Decoder.ReadsBlocks limits opcodes buffers
      ((Decoder.start limits opcodes).rawBlocks buffers) := by
  refine ⟨rawBlocks_assembly, rawBlocks_error_iff, fun _ => rawBlocks_error, ?_⟩
  intro stream ok
  rw [(rawBlocks_ok_iff.mp ok).2, List.flatMap_def]
  rfl

theorem Deliverable.length_blocks {header : Header} {blocks : List Bytes}
    (deliverable : Deliverable limits header blocks) :
    (blocks.length : Int) =
      header.blockCount + (Assembly.after limits blocks).warnings.size := by
  have some := deliverable.nonempty
  have count := deliverable.count
  have length := deliverable.length_pos
  have repeated := length_repeatsAfter blocks
  have indexes :
      (blocks.map fun block => (Header.read block).blockIndex).toFinset.card =
        header.blockCount.toNat := by
    apply card_of_covers
    · intro index member
      rcases List.mem_map.mp member with ⟨block, present, rfl⟩
      exact ⟨fieldAt_nonneg block 14 2, deliverable.index block present⟩
    · intro index inside
      rcases deliverable.covers index inside with ⟨block, present, same⟩
      exact List.mem_map.mpr ⟨block, present, same⟩
  rw [after_warnings, List.size_toArray]
  omega

/-- Reading blocks and reading an image are two views of one capture. -/
theorem modes_agree (limits : Limits) (opcodes : OpcodeSet) (buffers : List Bytes) :
    Decoder.ReadsBlocks limits opcodes buffers
        ((Decoder.start limits opcodes).rawBlocks buffers) ∧
      ∀ image, ((Decoder.start limits opcodes).decode buffers).result = .ok image →
        ∃ stream, image.InStream limits ((Decoder.start limits opcodes).decode buffers)
          ((Decoder.start limits opcodes).rawBlocks buffers) stream := by
  refine ⟨rawBlocks_reads limits opcodes buffers, ?_⟩
  intro image made
  rcases decode_ok_iff.mp made with ⟨same, plain, assembled, fields⟩
  rcases (assemble_ok_iff ..).mp assembled with ⟨header, deliverable, plain_eq⟩
  rcases decode_state made with ⟨count, assembly⟩
  rw [contentsOf, List.length_map] at count
  rw [contentsOf, blocksOf_map_content] at assembly
  have sizes := deliverable.size
  have pieces := cutBlocks_flatten sizes
  have read := @rawBlocks_ok limits opcodes buffers same
  have length := deliverable.length_blocks
  rw [List.length_map] at length
  refine ⟨_, ⟨read, ?_, ?_, ?_, ?_, ?_⟩⟩
  · rw [rawBlocks_count read, count]
  · rw [length_flatten_blocks sizes, List.length_map, count, Nat.mul_comm]
    rfl
  · rw [count, assembly, length, fields, plain_eq]
    rfl
  · rw [pieces]
    exact ⟨plain, assembled, by rw [fields]⟩
  · rw [pieces, assembly]
    rcases andThen_ok_iff.mp assembled with ⟨_, added, finished⟩
    have accepted := (addAll_start limits _).1.mp added
    rw [Assembly.assemble, (andThen_ok added).2, finish_again finished]
    exact (addAll_start limits _).2 accepted

end Andromeda
