import Andromeda.Proofs.Assembly.Delivery
import Andromeda.Proofs.Packing.Stream
import Andromeda.Update

namespace Andromeda

/-- An update that can be sent to a receiver with these limits. -/
structure Update.Fits (update : Update) (limits : Limits) : Prop where
  nonempty : 1 ≤ update.data.length
  capacity : (update.data.length : Int) ≤ limits.capacity
  version : 0 ≤ update.version ∧ update.version < 2 ^ 32

/-- A block as it is sent: its index, the bytes that fill it up, and what stands behind its
frame. -/
structure Sending where
  index : Nat
  filling : Nat → UInt8
  noise : Bytes

def Update.sent (update : Update) (sending : Sending) : Bytes :=
  update.block sending.filling sending.index

variable {update : Update} {limits : Limits}

theorem Update.blockCount_eq (update : Update) :
    update.blockCount = (update.data.length + 255) / 256 := by
  rw [Update.blockCount, pieceCount_eq]
  omega

theorem Update.Fits.length_le (fits : update.Fits limits) :
    update.data.length ≤ 2 * 1024 * 1024 := by
  have capacity := fits.capacity
  have limit := limits.capacity_le
  rw [longestImage] at limit
  omega

theorem Update.total_data (update : Update) : total update.data.values = update.checksum := by
  rw [checksum, foldl_toNat, Int.natCast_zero, Int.zero_add]

theorem Update.Fits.checksum_lt (fits : update.Fits limits) : update.checksum < 2 ^ 32 := by
  have length := fits.length_le
  have most := (total_values_bounds update.data).2
  rw [update.total_data] at most
  omega

theorem Update.Fits.checksum_eq (fits : update.Fits limits) :
    Checksum.add 0 update.data.values = update.checksum := by
  have below := fits.checksum_lt
  rw [Checksum.add_zero, update.total_data]
  omega

theorem fitsWord_of_bounds {width : Nat} {value : Int} (least : 0 ≤ value)
    (below : value < (256 ^ width : Nat)) : fitsWord width value = true := by
  simp only [fitsWord, Nat.pow_eq, Bool.and_eq_true, decide_eq_true_eq]
  exact ⟨least, below⟩

theorem Update.Fits.header_fits (fits : update.Fits limits) {index : Nat}
    (inside : index < update.blockCount) : (update.header index).fits = true := by
  have length := fits.length_le
  have count := update.blockCount_eq
  have sum := fits.checksum_lt
  have long : (2 : Int) ^ 32 = (256 ^ 4 : Nat) := by norm_num
  have short : (256 ^ 2 : Nat) = 65536 := by norm_num
  have limit : (256 ^ 4 : Nat) = 4294967296 := by norm_num
  rcases fits.version with ⟨least, below⟩
  rw [long] at below
  simp only [Header.fits, Update.header, Bool.and_eq_true]
  refine ⟨⟨⟨⟨?_, ?_⟩, ?_⟩, ?_⟩, ?_⟩
  · exact fitsWord_of_bounds least below
  · apply fitsWord_of_bounds <;> omega
  · apply fitsWord_of_bounds <;> omega
  · apply fitsWord_of_bounds <;> omega
  · apply fitsWord_of_bounds <;> omega

theorem Update.Fits.toBytes (fits : update.Fits limits) {index : Nat}
    (inside : index < update.blockCount) :
    (update.header index).toBytes? = some (update.header index).bytes :=
  if_pos (fits.header_fits inside)

theorem Update.length_slice (update : Update) (index : Nat) :
    (update.slice index).length = min (update.data.length - index * 256) 256 := by
  simp only [Update.slice, List.length_take, List.length_drop, blockDataLength]
  omega

theorem Update.length_block (update : Update) (filling : Nat → UInt8) (index : Nat) :
    (update.block filling index).length = 272 := by
  have slice := update.length_slice index
  simp only [Update.block, List.length_append, Header.length_bytes, List.length_map,
    List.length_range, headerLength, blockDataLength]
  omega

theorem Update.payload_frame (update : Update) (filling : Nat → UInt8) (offset : Int)
    (index : Nat) :
    (update.frame filling offset index).payload = pack (update.block filling index).values := by
  rw [Update.frame]

theorem Update.read_block (fits : update.Fits limits) (filling : Nat → UInt8) {index : Nat}
    (inside : index < update.blockCount) :
    Header.read (update.block filling index) = update.header index := by
  rw [Update.block, List.append_assoc]
  exact Header.read_bytes _ (fits.header_fits inside) _

theorem Update.data_block (update : Update) (filling : Nat → UInt8) (index : Nat) :
    ((update.block filling index).drop 16).take (min (update.data.length - index * 256) 256) =
      update.slice index := by
  have header := Header.length_bytes (update.header index)
  rw [headerLength] at header
  rw [Update.block, List.append_assoc, ← header, List.drop_left, ← update.length_slice,
    List.take_left]

theorem Update.flatMap_slice (update : Update) :
    (List.range update.blockCount).flatMap update.slice = update.data := by
  have count := update.blockCount_eq
  have whole := flatMap_slices update.data update.blockCount
  rw [List.take_of_length_le (by rw [blockDataLength]; omega)] at whole
  exact whole

section Sent

variable {sent : List Sending}

structure Update.Covered (update : Update) (sent : List Sending) : Prop where
  inside : ∀ sending ∈ sent, sending.index < update.blockCount
  all : ∀ index < update.blockCount, ∃ sending ∈ sent, sending.index = index

theorem Update.read_sent (fits : update.Fits limits)
    (inside : ∀ sending ∈ sent, sending.index < update.blockCount) :
    ∀ sending ∈ sent, Header.read (update.sent sending) = update.header sending.index := by
  intro sending member
  apply update.read_block fits sending.filling
  exact inside sending member

theorem Update.indexes_sent (fits : update.Fits limits)
    (inside : ∀ sending ∈ sent, sending.index < update.blockCount) :
    (sent.map update.sent).map (fun block => (Header.read block).blockIndex) =
      sent.map fun sending => (sending.index : Int) := by
  rw [List.map_map]
  apply List.map_congr_left
  intro sending member
  rw [Function.comp_apply, update.read_sent fits inside sending member]
  rfl

theorem Update.uniform_sent (fits : update.Fits limits)
    (inside : ∀ sending ∈ sent, sending.index < update.blockCount)
    (once : limits.strict = true → (sent.map Sending.index).Nodup) :
    Uniform limits (update.header 0) (sent.map update.sent) := by
  have read := update.read_sent fits inside
  have count := update.blockCount_eq
  refine ⟨?_, ?_, fits.capacity, ?_, ?_, ?_⟩
  · intro block member
    rcases List.mem_map.mp member with ⟨sending, _, rfl⟩
    exact update.length_block sending.filling sending.index
  · intro block member
    rcases List.mem_map.mp member with ⟨sending, present, rfl⟩
    rw [read sending present]
    exact ⟨rfl, rfl, rfl, rfl⟩
  · simp only [Update.header]
    omega
  · intro block member
    rcases List.mem_map.mp member with ⟨sending, present, rfl⟩
    rw [read sending present]
    apply Int.ofNat_lt.mpr
    exact inside sending present
  · intro strict
    have indexes : (sent.map fun sending => (sending.index : Int)) =
        (sent.map Sending.index).map Nat.cast := by
      rw [List.map_map]
      rfl
    rw [update.indexes_sent fits inside, indexes]
    exact (once strict).map Nat.cast_injective

theorem Update.imageData_sent (fits : update.Fits limits) (covered : update.Covered sent) :
    imageData (update.header 0) (sent.map update.sent) = update.data := by
  have read := update.read_sent fits covered.inside
  apply Eq.trans _ update.flatMap_slice
  apply List.flatMap_congr
  intro index member
  have inside := List.mem_range.mp member
  cases found : newest (sent.map update.sent) index with
  | none =>
      rcases covered.all index inside with ⟨sending, present, same⟩
      have other := (newest_eq_none_iff _ _).mp found _ (List.mem_map_of_mem present)
      rw [read sending present] at other
      exact absurd (congrArg Nat.cast same) other
  | some block =>
      rcases newest_mem found with ⟨place, same⟩
      rcases List.mem_map.mp place with ⟨sending, present, rfl⟩
      rw [read sending present] at same
      have index_eq : sending.index = index := Int.ofNat.inj same
      rw [imagePiece, found, ← index_eq]
      exact update.data_block sending.filling sending.index

theorem Update.deliverable (fits : update.Fits limits) (covered : update.Covered sent)
    (once : limits.strict = true → (sent.map Sending.index).Nodup) :
    Deliverable limits (update.header 0) (sent.map update.sent) := by
  have read := update.read_sent fits covered.inside
  have first : 0 < update.blockCount := by
    have count := update.blockCount_eq
    have nonempty := fits.nonempty
    omega
  refine ⟨update.uniform_sent fits covered.inside once, ?_, ?_, ?_⟩
  · rcases covered.all 0 first with ⟨sending, present, _⟩
    apply List.ne_nil_of_mem
    exact List.mem_map_of_mem present
  · intro index inside
    rcases covered.all index (Int.ofNat_lt.mp inside) with ⟨sending, present, same⟩
    refine ⟨update.sent sending, List.mem_map_of_mem present, ?_⟩
    rw [read sending present]
    exact congrArg Nat.cast same
  · rw [update.imageData_sent fits covered]
    exact (Checksum.add_zero _).symm.trans fits.checksum_eq

end Sent

end Andromeda
