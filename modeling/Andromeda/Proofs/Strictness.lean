import Andromeda.Proofs.Assembly.Offsets
import Andromeda.Proofs.Decoder.Frames

/-!
Strict limits and others. Two assemblies that differ only there go in step as long as no block comes
again. The first one that does halts the strict assembly, with the error that the other one gives as
a warning, so an image made under strict limits is one that was made without warnings. Limits that
allow longer images change no image.
-/

namespace Andromeda

open Outcome

def Limits.strictly (limits : Limits) : Limits := { limits with strict := true }

def Limits.laxly (limits : Limits) : Limits := { limits with strict := false }

def Assembly.strictly (assembly : Assembly) : Assembly :=
  { assembly with limits := assembly.limits.strictly }

def Outcome.strictly {α : Type} (outcome : Outcome Assembly α) : Outcome Assembly α :=
  { outcome with state := outcome.state.strictly }

def Assembly.offerAll (assembly : Assembly) (blocks : List Bytes) : Assembly :=
  blocks.foldl (fun assembly block => (assembly.add block).state) assembly

structure Assembly.HaltsAt (strict lax : Assembly) (block : Bytes) (warning : Duplicate) :
    Prop where
  warned : (lax.add block).state.warnings = lax.warnings.push warning
  told : (lax.add block).log[0]? = some ⟨.warning, warning.error.message⟩
  taken : (lax.add block).result = .ok ()
  halts : strict.add block = .failed { strict with halted := some warning.error } warning.error

/-- A strict assembly and another one are the same when they are offered a block, and they stay the
same unless it comes again. -/
structure Assembly.InStep (strict lax : Assembly) (block : Bytes) : Prop where
  same : strict = lax.strictly
  next : (lax.add block).state.warnings = lax.warnings →
    strict.add block = (lax.add block).strictly
  again : (lax.add block).state.warnings ≠ lax.warnings →
    ∃ warning, strict.HaltsAt lax block warning

section Stepping

variable {assembly admitted : Assembly} {header : Header} {block : Bytes}

theorem strictly_withHeader (assembly : Assembly) (header : Header) :
    assembly.strictly.withHeader header =
      (assembly.withHeader header).map Assembly.strictly := by
  rcases assembly with ⟨limits, reference, slots, checksum, consumed, position, warnings, halted⟩
  cases reference with
  | none =>
      have first : checkFirst limits.strictly header = checkFirst limits header := rfl
      simp only [Assembly.withHeader, Assembly.strictly, first]
      cases checkFirst limits header <;> rfl
  | some reference =>
      simp only [Assembly.withHeader, Assembly.strictly]
      cases checkRepeated reference header position <;> rfl

theorem withHeader_cases (recorded : assembly.withHeader header = .ok admitted) :
    admitted = assembly ∨ admitted = { assembly with
      header := some header, slots := Array.replicate header.blockCount.toNat none } := by
  rw [Assembly.withHeader] at recorded
  split at recorded
  · obtain ⟨_, _, same⟩ := bind_ok_iff.mp recorded
    exact .inl (Except.ok.inj same).symm
  · obtain ⟨_, _, same⟩ := bind_ok_iff.mp recorded
    exact .inr (Except.ok.inj same).symm

theorem withHeader_kept (recorded : assembly.withHeader header = .ok admitted) :
    admitted.limits = assembly.limits ∧ admitted.warnings = assembly.warnings := by
  rcases withHeader_cases recorded with rfl | rfl
  · exact ⟨rfl, rfl⟩
  · exact ⟨rfl, rfl⟩

theorem place_once (block : Bytes)
    (once : 0 ≤ header.blockIndex → header.blockIndex < header.blockCount →
      ∀ previous, assembly.slots[header.blockIndex.toNat]? ≠ some (some previous)) :
    assembly.strictly.place header block = (assembly.place header block).strictly ∧
      (assembly.place header block).state.warnings = assembly.warnings := by
  have slots : assembly.strictly.slots = assembly.slots := rfl
  simp only [Assembly.place, slots]
  split
  · exact ⟨rfl, rfl⟩
  · next inside =>
      split
      · next previous found => exact absurd found (once (by omega) (by omega) previous)
      · exact ⟨rfl, rfl⟩

theorem place_again (block : Bytes) {previous : Bytes} (lax : assembly.limits.strict = false)
    (least : 0 ≤ header.blockIndex) (below : header.blockIndex < header.blockCount)
    (found : assembly.slots[header.blockIndex.toNat]? = some (some previous)) :
    ∃ warning : Duplicate,
      (assembly.place header block).state.warnings = assembly.warnings.push warning ∧
      (assembly.place header block).log[0]? = some ⟨.warning, warning.error.message⟩ ∧
      (assembly.place header block).result = .ok () ∧
      assembly.strictly.place header block = assembly.strictly.halt warning.error := by
  have slots : assembly.strictly.slots = assembly.slots := rfl
  have strict : assembly.strictly.limits.strict = true := rfl
  have usable : ¬ (header.blockIndex < 0 ∨ header.blockCount ≤ header.blockIndex) := by omega
  refine ⟨⟨header.blockIndex, assembly.position + 14⟩, ?_⟩
  simp only [Assembly.place, slots, if_neg usable, found, lax, strict, Bool.false_eq_true,
    if_false, if_true]
  exact ⟨rfl, rfl, trivial, rfl⟩

theorem place_limits : (assembly.place header block).state.limits = assembly.limits := by
  simp only [Assembly.place]
  split
  · rfl
  · split
    · split <;> rfl
    · rfl

theorem add_limits (assembly : Assembly) (block : Bytes) :
    (assembly.add block).state.limits = assembly.limits := by
  cases halted : assembly.halted with
  | some error =>
      rw [add_halted halted]
      rfl
  | none =>
      by_cases size : block.length = blockLength
      case neg =>
        rw [add_malformed halted size]
        rfl
      cases recorded : assembly.withHeader (Header.read block) with
      | error error =>
          rw [add_unrecorded halted size recorded]
          rfl
      | ok admitted =>
          rw [add_recorded halted size recorded, place_limits, (withHeader_kept recorded).1]

theorem Assembly.InStep.of_same
    (same : assembly.strictly.add block = (assembly.add block).strictly)
    (kept : (assembly.add block).state.warnings = assembly.warnings) :
    assembly.strictly.InStep assembly block :=
  ⟨rfl, fun _ => same, fun other => absurd kept other⟩

theorem recorded_in_step (lax : assembly.limits.strict = false)
    (running : assembly.halted = none) (size : block.length = blockLength)
    (recorded : assembly.withHeader (Header.read block) = .ok admitted) :
    assembly.strictly.InStep assembly block := by
  have strict : assembly.strictly.add block =
      admitted.strictly.place (Header.read block) block := by
    have strictly_running : assembly.strictly.halted = none := running
    apply add_recorded strictly_running size
    rw [strictly_withHeader, recorded]
    rfl
  have other := add_recorded running size recorded
  by_cases once : 0 ≤ (Header.read block).blockIndex →
      (Header.read block).blockIndex < (Header.read block).blockCount →
      ∀ previous, admitted.slots[(Header.read block).blockIndex.toNat]? ≠ some (some previous)
  case pos =>
    obtain ⟨placed, warnings⟩ := place_once block once
    apply Assembly.InStep.of_same
    · rw [strict, other, placed]
    · rw [other, warnings, (withHeader_kept recorded).2]
  simp only [not_forall, Decidable.not_not] at once
  obtain ⟨least, below, previous, found⟩ := once
  rcases withHeader_cases recorded with rfl | rfl
  · obtain ⟨warning, warned, told, taken, halts⟩ := place_again block lax least below found
    rw [← other] at warned told taken
    rw [← strict] at halts
    refine ⟨rfl, ?_, fun _ => ⟨warning, warned, told, taken, halts⟩⟩
    intro kept
    rw [warned] at kept
    exact absurd (congrArg Array.size kept) (by simp)
  · -- the slots of a first block are free
    simp [Array.getElem?_replicate] at found

theorem add_in_step (lax : assembly.limits.strict = false) (block : Bytes) :
    assembly.strictly.InStep assembly block := by
  cases halted : assembly.halted with
  | some error =>
      have strict : assembly.strictly.halted = some error := halted
      apply Assembly.InStep.of_same
      · rw [add_halted strict, add_halted halted]
        rfl
      · rw [add_halted halted]
        rfl
  | none =>
      have strict : assembly.strictly.halted = none := halted
      by_cases size : block.length = blockLength
      case neg =>
        apply Assembly.InStep.of_same
        · rw [add_malformed strict size, add_malformed halted size]
          rfl
        · rw [add_malformed halted size]
          rfl
      cases recorded : assembly.withHeader (Header.read block) with
      | error error =>
          have refused : assembly.strictly.withHeader (Header.read block) = .error error := by
            rw [strictly_withHeader, recorded]
            rfl
          apply Assembly.InStep.of_same
          · rw [add_unrecorded strict size refused, add_unrecorded halted size recorded]
            rfl
          · rw [add_unrecorded halted size recorded]
            rfl
      | ok admitted => exact recorded_in_step lax halted size recorded

end Stepping

section Running

variable {limits : Limits} {blocks : List Bytes} {image : Image}

theorem offerAll_concat (assembly : Assembly) (blocks : List Bytes) (block : Bytes) :
    assembly.offerAll (blocks ++ [block]) = ((assembly.offerAll blocks).add block).state := by
  rw [Assembly.offerAll, List.foldl_append]
  rfl

theorem offerAll_limits (assembly : Assembly) (blocks : List Bytes) :
    (assembly.offerAll blocks).limits = assembly.limits := by
  induction blocks using List.reverseRecOn with
  | nil => rfl
  | append_singleton blocks block ih => rw [offerAll_concat, add_limits, ih]

theorem offered_in_step (limits : Limits) (blocks : List Bytes) (block : Bytes) :
    ((Assembly.start limits.laxly).offerAll blocks).strictly.InStep
      ((Assembly.start limits.laxly).offerAll blocks) block := by
  apply add_in_step
  rw [offerAll_limits]
  rfl

theorem offerAll_quiet (limits : Limits) (blocks : List Bytes)
    (quiet : ((Assembly.start limits.laxly).offerAll blocks).warnings = #[]) :
    (Assembly.start limits.strictly).offerAll blocks =
      ((Assembly.start limits.laxly).offerAll blocks).strictly := by
  -- warnings are never taken back, so there are none before the last block either
  induction blocks using List.reverseRecOn with
  | nil => rfl
  | append_singleton blocks block ih =>
      have step := offered_in_step limits blocks block
      rw [offerAll_concat] at quiet
      by_cases kept : (((Assembly.start limits.laxly).offerAll blocks).add block).state.warnings =
          ((Assembly.start limits.laxly).offerAll blocks).warnings
      · rw [offerAll_concat, offerAll_concat, ih (kept.symm.trans quiet), step.next kept]
        rfl
      · obtain ⟨warning, halts⟩ := step.again kept
        have impossible := halts.warned.symm.trans quiet
        exact absurd impossible Array.push_ne_empty

theorem repeatsAfter_eq_nil_iff :
    repeatsAfter [] blocks = [] ↔
      (blocks.map fun block => (Header.read block).blockIndex).Nodup := by
  have parts := length_repeatsAfter blocks
  generalize same : (blocks.map fun block => (Header.read block).blockIndex) = indexes at parts ⊢
  have length : indexes.length = blocks.length := by rw [← same, List.length_map]
  have distinct : indexes.toFinset.card = indexes.length ↔ indexes.Nodup :=
    @Multiset.toFinset_card_eq_card_iff_nodup _ _ (indexes : Multiset Int)
  rw [← distinct, ← List.length_eq_zero_iff]
  omega

theorem Deliverable.of_limits {header : Header} {other : Limits}
    (deliverable : Deliverable limits header blocks) (wider : limits.capacity ≤ other.capacity)
    (once : other.strict = true →
      (blocks.map fun block => (Header.read block).blockIndex).Nodup) :
    Deliverable other header blocks where
  size := deliverable.size
  agree := deliverable.agree
  fits := Int.le_trans deliverable.fits wider
  count := deliverable.count
  index := deliverable.index
  once := once
  nonempty := deliverable.nonempty
  covers := deliverable.covers
  checksum := deliverable.checksum

theorem assemble_of_limits {other : Limits}
    (made : (Assembly.assemble limits blocks).result = .ok image)
    (wider : limits.capacity ≤ other.capacity)
    (once : other.strict = true →
      (blocks.map fun block => (Header.read block).blockIndex).Nodup) :
    (Assembly.assemble other blocks).result = .ok image := by
  obtain ⟨header, deliverable, same⟩ := (assemble_ok_iff ..).mp made
  exact (assemble_ok_iff ..).mpr ⟨header, deliverable.of_limits wider once, same⟩

theorem assemble_once (strict : limits.strict = true)
    (made : (Assembly.assemble limits blocks).result = .ok image) :
    (blocks.map fun block => (Header.read block).blockIndex).Nodup := by
  obtain ⟨header, deliverable, _⟩ := (assemble_ok_iff ..).mp made
  exact deliverable.once strict

end Running

section Decoding

variable {limits : Limits} {opcodes : OpcodeSet} {buffers : List Bytes} {image : Image}

theorem decode_of_limits {other : Limits}
    (made : ((Decoder.start limits opcodes).decode buffers).result = .ok image)
    (wider : limits.capacity ≤ other.capacity)
    (once : other.strict = true → ((blocksOf (contentsOf opcodes buffers)).map fun block =>
      (Header.read block).blockIndex).Nodup) :
    ((Decoder.start other opcodes).decode buffers).result = .ok image := by
  obtain ⟨consistent, plain, assembled, same⟩ := decode_contents_iff.mp made
  exact decode_contents_iff.mpr
    ⟨consistent, plain, assemble_of_limits assembled wider once, same⟩

theorem decode_once (strict : limits.strict = true)
    (made : ((Decoder.start limits opcodes).decode buffers).result = .ok image) :
    ((blocksOf (contentsOf opcodes buffers)).map fun block =>
      (Header.read block).blockIndex).Nodup := by
  obtain ⟨_, _, assembled, _⟩ := decode_contents_iff.mp made
  exact assemble_once strict assembled

theorem decode_quiet_iff
    (made : ((Decoder.start limits opcodes).decode buffers).result = .ok image) :
    ((Decoder.start limits opcodes).decode buffers).state.assembly.warnings = #[] ↔
      ((blocksOf (contentsOf opcodes buffers)).map fun block =>
        (Header.read block).blockIndex).Nodup := by
  rw [(decode_state made).2, after_warnings, ← repeatsAfter_eq_nil_iff, List.toArray_eq_iff]

theorem decode_strictly_iff (limits : Limits) :
    ((Decoder.start limits.strictly opcodes).decode buffers).result = .ok image ↔
      ((Decoder.start limits.laxly opcodes).decode buffers).result = .ok image ∧
      ((Decoder.start limits.laxly opcodes).decode buffers).state.assembly.warnings = #[] := by
  constructor
  · intro made
    have once := decode_once rfl made
    have kept : ((Decoder.start limits.laxly opcodes).decode buffers).result = .ok image :=
      decode_of_limits made (Int.le_refl _) fun _ => once
    exact ⟨kept, (decode_quiet_iff kept).mpr once⟩
  · intro quiet
    obtain ⟨made, warnings⟩ := quiet
    have once := (decode_quiet_iff made).mp warnings
    exact decode_of_limits made (Int.le_refl _) fun _ => once

end Decoding

/-- A strict assembly is another one that stops at the first block that comes again. So strict
limits give just the images that are made without warnings, and wider limits give at least the
images that narrow ones do. -/
theorem strict_until_repeat (limits : Limits) :
    (∀ blocks block, ((Assembly.start limits.laxly).offerAll blocks).warnings = #[] →
      ((Assembly.start limits.strictly).offerAll blocks).InStep
        ((Assembly.start limits.laxly).offerAll blocks) block) ∧
    (∀ opcodes buffers image,
      ((Decoder.start limits.strictly opcodes).decode buffers).result = .ok image ↔
        ((Decoder.start limits.laxly opcodes).decode buffers).result = .ok image ∧
        ((Decoder.start limits.laxly opcodes).decode buffers).state.assembly.warnings = #[]) ∧
    ∀ wider : Limits, limits.capacity ≤ wider.capacity → wider.strict = limits.strict →
      (∀ blocks image, (Assembly.assemble limits blocks).result = .ok image →
        (Assembly.assemble wider blocks).result = .ok image) ∧
      ∀ opcodes buffers image,
        ((Decoder.start limits opcodes).decode buffers).result = .ok image →
        ((Decoder.start wider opcodes).decode buffers).result = .ok image := by
  refine ⟨?_, ?_, ?_⟩
  · intro blocks block quiet
    rw [offerAll_quiet limits blocks quiet]
    exact offered_in_step limits blocks block
  · intro opcodes buffers image
    exact decode_strictly_iff limits
  · intro wider capacity strict
    constructor
    · intro blocks image made
      exact assemble_of_limits made capacity fun always => assemble_once (strict ▸ always) made
    · intro opcodes buffers image made
      exact decode_of_limits made capacity fun always => decode_once (strict ▸ always) made

example :
    let block : Bytes := List.replicate 11 0 ++ [1, 0, 1, 0, 0] ++ List.replicate 256 0
    let offered (limits : Limits) := (Assembly.start limits).offerAll [block, block]
    (offered Limits.widest.laxly).warnings = #[⟨0, 286⟩] ∧
      (offered Limits.widest.strictly).halted = some (.duplicateBlock 0 286) ∧
      (offered Limits.widest.strictly).position = 272 := by
  decide +kernel

end Andromeda
