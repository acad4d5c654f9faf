import Andromeda.Proofs.Assembly.Acceptance
import Andromeda.Proofs.Checksum

namespace Andromeda

def Assembly.assemble (limits : Limits) (blocks : List Bytes) : Outcome Assembly Image :=
  ((Assembly.start limits).addAll blocks).andThen fun assembly _ => assembly.finish

/-- The image with a header's fields. Its kind is not told by the blocks. -/
def Header.image (header : Header) (data : Bytes) : Image where
  data
  version := header.version
  checksum := header.checksum
  length := header.length
  blockCount := header.blockCount
  kind := none

variable {limits : Limits} {header : Header} {blocks : List Bytes}

theorem holding_firstMissing :
    (Assembly.holding limits header blocks).firstMissing = none ↔
      ∀ index < header.blockCount.toNat, newest blocks index ≠ none := by
  simp [Assembly.firstMissing, Assembly.holding, List.findIdx?_eq_none_iff, slotOf,
    Option.isSome_iff_ne_none]

theorem holding_firstMissing_iff {least : Nat} :
    (Assembly.holding limits header blocks).firstMissing = some least ↔
      least < header.blockCount.toNat ∧ newest blocks least = none ∧
        ∀ index < least, newest blocks index ≠ none := by
  simp only [Assembly.firstMissing, Assembly.holding, List.findIdx?_toArray,
    List.findIdx?_eq_some_iff_getElem, List.length_map, List.length_range, List.getElem_map,
    List.getElem_range, slotOf, Option.isNone_map, Option.isNone_iff_eq_none]
  exact exists_prop

theorem image_of_missing {assembly : Assembly} {least : Nat}
    (missing : assembly.firstMissing = some least) :
    assembly.image = .error (.missingBlocks least) := by
  rw [Assembly.image, missing]

theorem holding_image {image : Image} :
    (Assembly.holding limits header blocks).image = .ok image ↔
      (∀ index < header.blockCount.toNat, newest blocks index ≠ none) ∧
      Checksum.add 0 (stored header.blockCount.toNat blocks).values = header.checksum ∧
      image = header.image (stored header.blockCount.toNat blocks) := by
  have data : (Assembly.holding limits header blocks).slots.toList.flatMap (·.getD []) =
      stored header.blockCount.toNat blocks := by
    simp only [Assembly.holding, stored, List.flatMap_map]
  rw [← @holding_firstMissing limits]
  cases missing : (Assembly.holding limits header blocks).firstMissing with
  | some index => simp [Assembly.image, missing]
  | none =>
      have sum : (Assembly.holding limits header blocks).checksum =
          Checksum.add 0 (stored header.blockCount.toNat blocks).values := rfl
      simp only [Assembly.image, missing, data, sum, true_and]
      change (if _ = header.checksum then _ else _) = _ ↔ _
      split
      · next same =>
          simp only [same, true_and, Except.ok.injEq]
          exact eq_comm
      · next different => simp [different]

section Finishing

variable {assembly : Assembly} {error : DecodeError} {image : Image}

theorem finish_halted (halted : assembly.halted = some error) :
    assembly.finish = .failed assembly error := by
  simp only [Assembly.finish, halted]

theorem finish_of_image (running : assembly.halted = none)
    (made : assembly.image = .ok image) : assembly.finish = .done assembly image := by
  simp only [Assembly.finish, running, made]

theorem finish_of_failed (running : assembly.halted = none)
    (failed : assembly.image = .error error) : assembly.finish = assembly.halt error := by
  simp only [Assembly.finish, running, failed]

theorem finish_result (running : assembly.halted = none) :
    assembly.finish.result = assembly.image := by
  cases result : assembly.image with
  | ok image =>
      rw [finish_of_image running result]
      rfl
  | error error =>
      rw [finish_of_failed running result]
      rfl

theorem finish_again (made : assembly.finish.result = .ok image) :
    assembly.finish.state = assembly := by
  cases halted : assembly.halted with
  | some error =>
      rw [finish_halted halted] at made
      cases made
  | none =>
      rw [finish_result halted] at made
      rw [finish_of_image halted made]
      rfl

end Finishing

theorem start_finish {image : Image} : (Assembly.start limits).finish.result ≠ .ok image := by
  rw [finish_result rfl]
  intro impossible
  cases impossible

theorem Header.Repeats.symm {other : Header} (repeated : header.Repeats other) :
    other.Repeats header :=
  ⟨repeated.version.symm, repeated.checksum.symm, repeated.length.symm,
    repeated.blockCount.symm⟩

theorem Header.Repeats.trans {middle last : Header} (first : header.Repeats middle)
    (second : middle.Repeats last) : header.Repeats last :=
  ⟨first.version.trans second.version, first.checksum.trans second.checksum,
    first.length.trans second.length, first.blockCount.trans second.blockCount⟩

theorem Header.Repeats.image_eq {other : Header} (repeated : header.Repeats other)
    (data : Bytes) : header.image data = other.image data := by
  rw [Header.image, Header.image, repeated.version, repeated.checksum, repeated.length,
    repeated.blockCount]

theorem Header.Repeats.imageData_eq {other : Header} (repeated : header.Repeats other)
    (blocks : List Bytes) : imageData header blocks = imageData other blocks := by
  have pieces : imagePiece header blocks = imagePiece other blocks := by
    funext index
    rw [imagePiece, imagePiece, repeated.length]
  rw [imageData, imageData, repeated.blockCount, pieces]

theorem Uniform.of_repeats {other : Header} (uniform : Uniform limits header blocks)
    (repeated : header.Repeats other) : Uniform limits other blocks := by
  rcases uniform with ⟨size, agree, fits, count, index, once⟩
  refine ⟨size, ?_, by rwa [← repeated.length], ?_, ?_, once⟩
  · intro block member
    exact (agree block member).trans repeated
  · rw [← repeated.length, ← repeated.blockCount, count]
  · intro block member
    rw [← repeated.blockCount]
    exact index block member

theorem Deliverable.of_repeats {other : Header} (deliverable : Deliverable limits header blocks)
    (repeated : header.Repeats other) : Deliverable limits other blocks := by
  refine ⟨deliverable.toUniform.of_repeats repeated, deliverable.nonempty, ?_, ?_⟩
  · rw [← repeated.blockCount]
    exact deliverable.covers
  · rw [← repeated.imageData_eq, ← repeated.checksum]
    exact deliverable.checksum

theorem Uniform.length_nonneg (uniform : Uniform limits header blocks) (some : blocks ≠ []) :
    0 ≤ header.length := by
  rcases List.exists_mem_of_ne_nil blocks some with ⟨block, member⟩
  rw [← (uniform.agree block member).length]
  exact fieldAt_nonneg block 8 4

theorem Uniform.covers_iff (uniform : Uniform limits header blocks) (some : blocks ≠ []) :
    (∀ index < header.blockCount.toNat, newest blocks index ≠ none) ↔
      ∀ index : Nat, index < header.blockCount →
        ∃ block ∈ blocks, (Header.read block).blockIndex = index := by
  have least := uniform.length_nonneg some
  have count := uniform.count
  have present (index : Nat) : newest blocks index ≠ none ↔
      ∃ block ∈ blocks, (Header.read block).blockIndex = index := by
    rw [Ne, newest_eq_none_iff]
    simp
  constructor
  · intro all index inside
    exact (present index).mp (all index (by omega))
  · intro all index inside
    exact (present index).mpr (all index (by omega))

theorem assemble_ok_iff (limits : Limits) (blocks : List Bytes) (image : Image) :
    (Assembly.assemble limits blocks).result = .ok image ↔
      ∃ header, Deliverable limits header blocks ∧
        image = header.image (imageData header blocks) := by
  rw [Assembly.assemble, Outcome.andThen_ok_iff]
  cases blocks with
  | nil =>
      constructor
      · intro run
        rcases run with ⟨_, _, ok⟩
        exact absurd ok start_finish
      · intro present
        rcases present with ⟨header, deliverable, _⟩
        exact absurd rfl deliverable.nonempty
  | cons first rest =>
      have some : first :: rest ≠ [] := List.cons_ne_nil first rest
      have state (accepted : Accepted limits (first :: rest)) :
          ((Assembly.start limits).addAll (first :: rest)).state.finish.result =
            (Assembly.holding limits (Header.read first) (first :: rest)).image := by
        rw [(addAll_start limits _).2 accepted]
        exact finish_result rfl
      constructor
      · intro run
        rcases run with ⟨_, added, ok⟩
        have accepted := (addAll_start limits _).1.mp added
        have uniform := (accepted_iff_uniform ..).mp accepted
        rw [state accepted, holding_image, stored_eq_imageData uniform
          (uniform.length_nonneg some), uniform.covers_iff some,
          Checksum.add_zero] at ok
        rcases ok with ⟨covers, checksum, same⟩
        exact ⟨Header.read first, ⟨uniform, some, covers, checksum⟩, same⟩
      · intro present
        rcases present with ⟨header, deliverable, same⟩
        have repeated := (deliverable.agree first List.mem_cons_self).symm
        rcases deliverable.of_repeats repeated with ⟨uniform, _, covers, checksum⟩
        have accepted := (accepted_iff_uniform ..).mpr uniform
        refine ⟨(), (addAll_start limits _).1.mpr accepted, ?_⟩
        rw [state accepted, holding_image, stored_eq_imageData uniform
          (uniform.length_nonneg some), uniform.covers_iff some,
          Checksum.add_zero]
        refine ⟨covers, checksum, ?_⟩
        rw [same, repeated.image_eq, repeated.imageData_eq]

theorem Deliverable.exists_piece (deliverable : Deliverable limits header blocks) {index : Nat}
    (inside : index < header.blockCount.toNat) :
    ∃ block ∈ blocks, (Header.read block).blockIndex = index ∧
      imagePiece header blocks index =
        (block.drop 16).take (min (header.length.toNat - index * 256) 256) := by
  have all := (deliverable.covers_iff deliverable.nonempty).mpr deliverable.covers
  cases found : newest blocks index with
  | none => exact absurd found (all index inside)
  | some block =>
      rcases newest_mem found with ⟨member, place⟩
      exact ⟨block, member, place, by rw [imagePiece, found]⟩

theorem Deliverable.length_imageData (deliverable : Deliverable limits header blocks) :
    ((imageData header blocks).length : Int) = header.length := by
  have least := deliverable.length_nonneg deliverable.nonempty
  have count := deliverable.count
  have pieces : (imageData header blocks).length =
      ((List.range header.blockCount.toNat).map fun index =>
        min (header.length.toNat - index * blockDataLength) blockDataLength).sum := by
    rw [imageData, List.length_flatMap]
    congr 1
    apply List.map_congr_left
    intro index member
    rcases deliverable.exists_piece (List.mem_range.mp member) with ⟨block, present, _, piece⟩
    have size := deliverable.size block present
    simp only [piece, List.length_take, List.length_drop, size, blockDataLength]
    omega
  rw [pieces, sum_slices, blockDataLength]
  omega

theorem Deliverable.length_pos (deliverable : Deliverable limits header blocks) :
    1 ≤ header.length := by
  rcases List.exists_mem_of_ne_nil blocks deliverable.nonempty with ⟨block, member⟩
  have inside := deliverable.index block member
  have least : 0 ≤ (Header.read block).blockIndex := fieldAt_nonneg block 14 2
  have count := deliverable.count
  omega

theorem Deliverable.total_imageData (deliverable : Deliverable limits header blocks) :
    total (imageData header blocks).values = header.checksum := by
  have bounds := total_values_bounds (imageData header blocks)
  have length := deliverable.length_imageData
  have fits := deliverable.fits
  have longest : limits.capacity ≤ 2 * 1024 * 1024 := limits.capacity_le
  have checksum := deliverable.checksum
  rw [Int.emod_eq_of_lt bounds.1 (by omega)] at checksum
  exact checksum

/-- A run of blocks ends in an image exactly when the blocks make one up. The image has the
fields that all headers name and the data of the newest blocks, and there is as much data as
the headers say. -/
theorem assemble_exact (limits : Limits) (blocks : List Bytes) :
    ((∃ image, (Assembly.assemble limits blocks).result = .ok image) ↔
      ∃ header, Deliverable limits header blocks) ∧
    ∀ image, (Assembly.assemble limits blocks).result = .ok image ↔
      (∃ header, Deliverable limits header blocks ∧
        image = header.image (imageData header blocks)) ∧
      (image.data.length : Int) = image.length ∧ 1 ≤ image.length := by
  constructor
  · constructor
    · intro delivered
      rcases delivered with ⟨image, ok⟩
      rcases (assemble_ok_iff ..).mp ok with ⟨header, deliverable, _⟩
      exact ⟨header, deliverable⟩
    · intro present
      rcases present with ⟨header, deliverable⟩
      exact ⟨_, (assemble_ok_iff ..).mpr ⟨header, deliverable, rfl⟩⟩
  · intro image
    constructor
    · intro ok
      rcases (assemble_ok_iff ..).mp ok with ⟨header, deliverable, same⟩
      refine ⟨⟨header, deliverable, same⟩, ?_, ?_⟩
      · rw [same]
        exact deliverable.length_imageData
      · rw [same]
        exact deliverable.length_pos
    · intro present
      exact (assemble_ok_iff ..).mpr present.1

end Andromeda
