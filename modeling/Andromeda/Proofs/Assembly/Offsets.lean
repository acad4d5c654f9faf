import Andromeda.Proofs.Assembly.Halting
import Andromeda.Proofs.Decoder.RawBlocks

namespace Andromeda

open Outcome

structure WordAt (stream : Bytes) (position width : Nat) (value : Int) : Prop where
  inside : position + width ≤ stream.length
  reads : fieldAt stream position width = value

structure SharedField where
  name : String
  place : Nat
  width : Nat

def sharedFields : List SharedField :=
  [⟨"version", 0, 4⟩, ⟨"checksum", 4, 4⟩, ⟨"length", 8, 4⟩, ⟨"block count", 12, 2⟩]

def SharedField.read (field : SharedField) (block : Bytes) : Int :=
  fieldAt block field.place field.width

def SharedField.Common (field : SharedField) (stream : Bytes) (start : Nat) : Prop :=
  ∃ value, WordAt stream field.place field.width value ∧
    WordAt stream (start + field.place) field.width value

/-- The first field in which the block that starts at some place differs from the first block. -/
structure SharedField.Differs (field : SharedField) (stream : Bytes) (start : Nat)
    (expected actual : Int) : Prop where
  listed : ∃ before after, sharedFields = before ++ field :: after ∧
    ∀ other ∈ before, other.Common stream start
  first : WordAt stream field.place field.width expected
  here : WordAt stream (start + field.place) field.width actual
  other : actual ≠ expected

def DecodeError.PointsAt (stream : Bytes) (start : Nat) (block : Bytes) : DecodeError → Prop
  | .malformedBlock actual expected offset =>
    offset = start ∧ actual = block.length ∧ expected = blockLength ∧ actual ≠ expected
  | .invalidImageLength .. | .invalidBlockCount .. => start = 0
  | .inconsistentHeader name expected actual index offset =>
    ∃ (field : SharedField) (number : Int), name = field.name ∧
      offset = (start + field.place : Nat) ∧ field.Differs stream start expected actual ∧
      index = some number ∧ WordAt stream (start + 14) 2 number
  | .indexOutOfRange index _ offset | .duplicateBlock index offset =>
    offset = (start + 14 : Nat) ∧ WordAt stream (start + 14) 2 index
  | _ => False

def Duplicate.Repeats (taken : List Bytes) (warning : Duplicate) : Prop :=
  ∃ before block after, taken = before ++ block :: after ∧
    (∃ earlier ∈ before, (Header.read earlier).blockIndex = (Header.read block).blockIndex) ∧
    warning = ⟨(Header.read block).blockIndex, (before.flatten.length + 14 : Nat)⟩

def Assembly.offered (limits : Limits) (blocks : List Bytes) : List Bytes :=
  tried (fun assembly _ block => Assembly.add assembly block) (.start limits) () blocks

def Assembly.taken (limits : Limits) (blocks : List Bytes) : List Bytes :=
  passed (fun assembly _ block => Assembly.add assembly block) (.start limits) () blocks

/-- Errors and warnings of a run against the stream of the blocks that were offered. -/
structure Assembly.Reports (limits : Limits) (blocks offered taken : List Bytes)
    (outcome : Outcome Assembly Unit) : Prop where
  front : offered <+: blocks
  stream : ∀ (other : Limits) (opcodes : OpcodeSet) (buffers : List Bytes),
    (∀ first ∈ framesOf opcodes buffers, ∀ second ∈ framesOf opcodes buffers,
      first.opcode = second.opcode) →
    (framesOf opcodes buffers).map Frame.block = offered →
    ((Decoder.start other opcodes).rawBlocks buffers).result = .ok offered.flatten
  complete : outcome.result = .ok () → offered = blocks ∧ taken = blocks
  error : ∀ error, outcome.result = .error error →
    ∃ block, offered = taken ++ [block] ∧
      error.PointsAt offered.flatten taken.flatten.length block
  warning : ∀ warning ∈ outcome.state.warnings, ∃ position : Nat,
    warning.offset = position ∧ WordAt offered.flatten position 2 warning.index
  repeated : ∀ warning, warning ∈ outcome.state.warnings ↔ warning.Repeats taken
  order : outcome.state.warnings.toList.Pairwise fun earlier later => earlier.offset < later.offset
  strict : limits.strict = true → outcome.state.warnings = #[]

theorem wordAt_flatten (before after : List Bytes) {block : Bytes} {place width : Nat}
    (inside : place + width ≤ block.length) :
    WordAt (before ++ block :: after).flatten (before.flatten.length + place) width
      (fieldAt block place width) := by
  constructor
  · simp only [List.flatten_append, List.flatten_cons, List.length_append]
    omega
  · have rest : width ≤ (block.drop place).length := by
      rw [List.length_drop]
      omega
    calc
      fieldAt (before ++ block :: after).flatten (before.flatten.length + place) width =
          fieldAt (block ++ after.flatten) place width := by
        rw [List.flatten_append, List.flatten_cons, fieldAt, List.drop_length_add_append, fieldAt]
      _ = fieldAt block place width := by
        rw [fieldAt, List.drop_append_of_le_length (by omega),
          List.take_append_of_le_length rest, fieldAt]

theorem wordAt_first (after : List Bytes) {first : Bytes} {place width : Nat}
    (inside : place + width ≤ first.length) :
    WordAt (first :: after).flatten place width (fieldAt first place width) := by
  have word := wordAt_flatten [] after inside
  rwa [List.flatten_nil, List.length_nil, Nat.zero_add] at word

def checkShared (first block : Bytes) (position : Int) :
    List SharedField → Except DecodeError Unit
  | [] => .ok ()
  | field :: fields => do
    checkField field.name (field.read block) (field.read first)
      (some (Header.read block).blockIndex) (position + field.place)
    checkShared first block position fields

theorem checkRepeated_read (first block : Bytes) (position : Int) :
    checkRepeated (Header.read first) (Header.read block) position =
      checkShared first block position sharedFields := by
  have last (check : Except DecodeError Unit) : (do check; .ok ()) = check := by
    cases check <;> rfl
  simp only [checkRepeated, checkShared, sharedFields, last, Int.ofNat_zero, Int.add_zero]
  rfl

theorem checkShared_error {first block : Bytes} {position : Int} {fields : List SharedField}
    {error : DecodeError} (failed : checkShared first block position fields = .error error) :
    ∃ before field after, fields = before ++ field :: after ∧
      (∀ other ∈ before, other.read block = other.read first) ∧
      field.read block ≠ field.read first ∧
      error = .inconsistentHeader field.name (field.read first) (field.read block)
        (some (Header.read block).blockIndex) (position + field.place) := by
  induction fields with
  | nil => cases failed
  | cons field fields ih =>
      rcases bind_error failed with differs | ⟨_, same, later⟩
      · rcases checkField_error_iff.mp differs with ⟨other, reads⟩
        exact ⟨[], field, fields, rfl, by simp, other, reads⟩
      · rcases ih later with ⟨before, found, after, rfl, equal, other, reads⟩
        refine ⟨field :: before, found, after, rfl, ?_, other, reads⟩
        exact List.forall_mem_cons.mpr ⟨checkField_ok_iff.mp same, equal⟩

theorem sharedFields_inside : ∀ field ∈ sharedFields, field.place + field.width ≤ blockLength := by
  decide

section Pointing

variable {limits : Limits} {taken : List Bytes} {block : Bytes} {error : DecodeError}

theorem accepted_sizes (accepted : Accepted limits taken) :
    ∀ block ∈ taken, block.length = blockLength := by
  cases taken with
  | nil => simp
  | cons first rest => exact ((accepted_iff_uniform limits first rest).mp accepted).size

theorem length_flatten_blocks (sizes : ∀ block ∈ taken, block.length = blockLength) :
    taken.flatten.length = taken.length * blockLength := by
  induction taken with
  | nil => rfl
  | cons first rest ih =>
      have later := ih fun other member => sizes other (List.mem_cons_of_mem _ member)
      calc
        (first :: rest).flatten.length = first.length + rest.flatten.length := by
          rw [List.flatten_cons, List.length_append]
        _ = blockLength + rest.length * blockLength := by
          rw [sizes first List.mem_cons_self, later]
        _ = (rest.length + 1) * blockLength := by
          rw [Nat.succ_mul, Nat.add_comm]

theorem after_position (limits : Limits) (sizes : ∀ block ∈ taken, block.length = blockLength) :
    (Assembly.after limits taken).position = taken.flatten.length := by
  rw [length_flatten_blocks sizes]
  cases taken <;> rfl

theorem after_warnings (limits : Limits) (taken : List Bytes) :
    (Assembly.after limits taken).warnings = (repeatsAfter [] taken).toArray := by
  cases taken <;> rfl

theorem checkRepeated_points {first : Bytes} {rest : List Bytes}
    (fits : first.length = blockLength) (size : block.length = blockLength)
    (failed : checkRepeated (Header.read first) (Header.read block)
      ((first :: rest).flatten.length : Nat) = .error error) :
    error.PointsAt (first :: rest ++ [block]).flatten (first :: rest).flatten.length block := by
  rw [checkRepeated_read] at failed
  rcases checkShared_error failed with ⟨before, field, after, listed, equal, differs, rfl⟩
  have words (other : SharedField) (member : other ∈ sharedFields) :
      WordAt (first :: (rest ++ [block])).flatten other.place other.width (other.read first) ∧
      WordAt (first :: rest ++ [block]).flatten ((first :: rest).flatten.length + other.place)
        other.width (other.read block) := by
    have bound := sharedFields_inside other member
    exact ⟨wordAt_first _ (by omega), wordAt_flatten _ [] (by omega)⟩
  -- the fields in front of the one reported were let through, so both blocks agree in them
  have common : ∀ other ∈ before,
      other.Common (first :: rest ++ [block]).flatten (first :: rest).flatten.length := by
    intro other member
    have both := words other (by simp [listed, member])
    rw [equal other member] at both
    exact ⟨_, both⟩
  have here := words field (by simp [listed])
  have index : WordAt (first :: rest ++ [block]).flatten ((first :: rest).flatten.length + 14) 2
      (Header.read block).blockIndex := wordAt_flatten _ [] (by rw [size]; decide)
  exact ⟨field, _, rfl, rfl, ⟨⟨before, after, listed, common⟩, here.1, here.2, differs⟩, rfl,
    index⟩

theorem withHeader_points (accepted : Accepted limits taken) (size : block.length = blockLength)
    (failed : (Assembly.after limits taken).withHeader (Header.read block) = .error error) :
    error.PointsAt (taken ++ [block]).flatten taken.flatten.length block := by
  have sizes := accepted_sizes accepted
  have position := after_position limits sizes
  cases taken with
  | nil =>
      rcases bind_error failed with refused | ⟨_, _, impossible⟩
      · simp only [checkFirst] at refused
        split at refused
        · cases refused
          rfl
        · split at refused
          · cases refused
          · cases refused
            rfl
      · cases impossible
  | cons first rest =>
      rcases bind_error failed with refused | ⟨_, _, impossible⟩
      · rw [position] at refused
        exact checkRepeated_points (sizes first List.mem_cons_self) size refused
      · cases impossible

theorem add_points (accepted : Accepted limits taken)
    (failed : ((Assembly.after limits taken).add block).result = .error error) :
    error.PointsAt (taken ++ [block]).flatten taken.flatten.length block := by
  have running := after_halted limits taken
  have sizes := accepted_sizes accepted
  have position := after_position limits sizes
  have offset : ((taken.length * blockLength : Nat) : Int) + 14 =
      (taken.flatten.length + 14 : Nat) := by
    rw [length_flatten_blocks sizes]
    rfl
  by_cases size : block.length = blockLength
  case neg =>
    rw [add_malformed running size] at failed
    cases failed
    exact ⟨position, rfl, rfl, fun same => size (Int.ofNat.inj same)⟩
  have index : WordAt (taken ++ [block]).flatten (taken.flatten.length + 14) 2
      (Header.read block).blockIndex := wordAt_flatten taken [] (by rw [size]; decide)
  cases admitted : (Assembly.after limits taken).withHeader (Header.read block) with
  | error reason =>
      rw [add_unrecorded running size admitted] at failed
      cases failed
      exact withHeader_points accepted size admitted
  | ok assembly =>
      rw [add_recorded running size admitted] at failed
      rcases after_withHeader.mp admitted with ⟨_, later, rfl⟩
      by_cases within : (Header.read block).blockIndex < (Header.read block).blockCount
      case neg =>
        rw [place_outside (Int.not_lt.mp within)] at failed
        cases failed
        exact ⟨offset, index⟩
      by_cases fresh : limits.strict = true →
          newest taken (Header.read block).blockIndex.toNat = none
      case pos =>
        rw [(holding_place size (inside_head later within) within fresh).1] at failed
        cases failed
      rw [Classical.not_imp] at fresh
      rcases Option.ne_none_iff_exists'.mp fresh.2 with ⟨previous, found⟩
      rw [holding_place_again (inside_head later within) within fresh.1 found] at failed
      cases failed
      exact ⟨offset, index⟩

end Pointing

theorem newest_isSome_iff {taken : List Bytes} {block : Bytes} :
    (newest taken (Header.read block).blockIndex.toNat).isSome = true ↔
      ∃ earlier ∈ taken, (Header.read earlier).blockIndex = (Header.read block).blockIndex := by
  rw [Option.isSome_iff_ne_none, Ne, newest_eq_none_iff, Header.read_index]
  simp only [not_forall, not_not, exists_prop]

theorem mem_repeatsAfter {seen blocks : List Bytes} {warning : Duplicate} :
    warning ∈ repeatsAfter seen blocks ↔ ∃ before block after, blocks = before ++ block :: after ∧
      (newest (seen ++ before) (Header.read block).blockIndex.toNat).isSome = true ∧
      warning = ⟨(Header.read block).blockIndex,
        ((seen ++ before).length * blockLength : Nat) + 14⟩ := by
  induction blocks generalizing seen with
  | nil => simp [repeatsAfter]
  | cons head rest ih =>
      rw [repeatsAfter, List.mem_append, ih]
      constructor
      · intro either
        rcases either with here | ⟨before, block, after, rfl, again, same⟩
        · rcases List.mem_ite_nil_right.mp here with ⟨again, same⟩
          refine ⟨[], head, rest, rfl, ?_, ?_⟩
          · rwa [List.append_nil]
          · rw [List.mem_singleton.mp same, List.append_nil]
        · rw [List.append_assoc] at again same
          exact ⟨head :: before, block, after, rfl, again, same⟩
      · intro split
        rcases split with ⟨before, block, after, parts, again, same⟩
        cases before with
        | nil =>
            cases parts
            rw [List.append_nil] at again same
            exact .inl (List.mem_ite_nil_right.mpr ⟨again, List.mem_singleton.mpr same⟩)
        | cons first before =>
            cases parts
            refine .inr ⟨before, block, after, rfl, ?_, ?_⟩
            · rwa [List.append_assoc]
            · rwa [List.append_assoc]

theorem repeatsAfter_order (seen blocks : List Bytes) :
    (repeatsAfter seen blocks).Pairwise fun earlier later => earlier.offset < later.offset := by
  induction blocks generalizing seen with
  | nil => exact List.Pairwise.nil
  | cons head rest ih =>
      rw [repeatsAfter, List.pairwise_append]
      refine ⟨?_, ih _, ?_⟩
      · split
        · exact List.pairwise_singleton ..
        · exact List.Pairwise.nil
      · intro earlier here later behind
        rcases List.mem_ite_nil_right.mp here with ⟨_, same⟩
        rcases mem_repeatsAfter.mp behind with ⟨before, block, after, _, _, rfl⟩
        rw [List.mem_singleton.mp same]
        simp only [List.length_append, List.length_singleton, blockLength, headerLength,
          blockDataLength]
        omega

theorem mem_repeatsAfter_iff {taken : List Bytes}
    (sizes : ∀ block ∈ taken, block.length = blockLength) {warning : Duplicate} :
    warning ∈ repeatsAfter [] taken ↔ warning.Repeats taken := by
  rw [mem_repeatsAfter, Duplicate.Repeats]
  refine exists_congr fun before => exists_congr fun block => exists_congr fun after => ?_
  refine and_congr_right fun parts => ?_
  have length : before.flatten.length = before.length * blockLength :=
    length_flatten_blocks fun other member => sizes other (by simp [parts, member])
  rw [List.nil_append, newest_isSome_iff, length]
  rfl

theorem repeatsAfter_strict {limits : Limits} {taken : List Bytes} (strict : limits.strict = true)
    (accepted : Accepted limits taken) : repeatsAfter [] taken = [] := by
  induction accepted with
  | start => rfl
  | next before admits ih =>
      rw [repeatsAfter_concat, ih, List.nil_append, List.nil_append, admits.fresh strict]
      rfl

section Running

variable (limits : Limits) (blocks : List Bytes)

theorem addAll_took :
    Accepted limits (Assembly.taken limits blocks) ∧
      ((Assembly.start limits).addAll blocks).state.warnings =
        (Assembly.after limits (Assembly.taken limits blocks)).warnings := by
  cases result : ((Assembly.start limits).addAll blocks).result with
  | ok value =>
      have whole := (each_succeeded result).2
      have accepted := (addAll_start limits blocks).1.mp result
      rw [Assembly.taken, whole, (addAll_start limits blocks).2 accepted]
      exact ⟨accepted, rfl⟩
  | error error =>
      rcases each_stops result with ⟨before, block, parts, ends, _, passes⟩
      rcases ends with ⟨_, passes_all, fails, state⟩
      have accepted := (addAll_start limits before).1.mp passes_all
      have after := (addAll_start limits before).2 accepted
      rw [Assembly.addAll] at after ⊢
      rw [Assembly.taken, passes, state]
      rw [after] at fails ⊢
      have reached : Assembly.Reached limits (.after limits before) := .taking accepted
      exact ⟨accepted, (reached.refuses fails).keeps.warnings⟩

theorem addAll_stops {error : DecodeError}
    (failed : ((Assembly.start limits).addAll blocks).result = .error error) :
    ∃ block, Assembly.offered limits blocks = Assembly.taken limits blocks ++ [block] ∧
      ((Assembly.after limits (Assembly.taken limits blocks)).add block).result =
        .error error := by
  rcases each_stops failed with ⟨before, block, parts, ends, tries, passes⟩
  rcases ends with ⟨_, passes_all, fails, _⟩
  have after := (addAll_start limits before).2 ((addAll_start limits before).1.mp passes_all)
  rw [Assembly.addAll] at after
  rw [after] at fails
  rw [Assembly.offered, Assembly.taken, tries, passes]
  exact ⟨block, rfl, fails⟩

theorem taken_front :
    ∃ last, Assembly.offered limits blocks = Assembly.taken limits blocks ++ last := by
  cases result : ((Assembly.start limits).addAll blocks).result with
  | ok value =>
      rcases each_succeeded result with ⟨tries, passes⟩
      rw [Assembly.offered, Assembly.taken, tries, passes]
      exact ⟨[], (List.append_nil _).symm⟩
  | error error =>
      rcases addAll_stops limits blocks result with ⟨block, offered, _⟩
      exact ⟨[block], offered⟩

end Running

/-- All that a run of blocks has to say of them stands in the stream of the blocks. -/
theorem offsets_exact (limits : Limits) (blocks : List Bytes) :
    Assembly.Reports limits blocks (Assembly.offered limits blocks) (Assembly.taken limits blocks)
      ((Assembly.start limits).addAll blocks) := by
  rcases addAll_took limits blocks with ⟨accepted, warnings⟩
  have sizes := accepted_sizes accepted
  have listed (warning : Duplicate) :
      warning ∈ ((Assembly.start limits).addAll blocks).state.warnings ↔
        warning.Repeats (Assembly.taken limits blocks) := by
    rw [warnings, after_warnings, List.mem_toArray]
    exact mem_repeatsAfter_iff sizes
  refine ⟨tried_front, ?_, each_succeeded, ?_, ?_, listed, ?_, ?_⟩
  · intro other opcodes buffers same collected
    rw [rawBlocks_ok same, collected]
  · intro error failed
    rcases addAll_stops limits blocks failed with ⟨block, offered, refused⟩
    rw [offered]
    exact ⟨block, rfl, add_points accepted refused⟩
  · intro warning member
    rcases (listed warning).mp member with ⟨before, block, after, parts, _, rfl⟩
    rcases taken_front limits blocks with ⟨last, offered⟩
    rw [offered, parts, List.append_assoc, List.cons_append]
    have size := sizes block (by simp [parts])
    exact ⟨_, rfl, wordAt_flatten before _ (by rw [size]; decide)⟩
  · rw [warnings, after_warnings, List.toList_toArray]
    exact repeatsAfter_order [] _
  · intro strict
    rw [warnings, after_warnings, repeatsAfter_strict strict accepted]

example :
    let block (version : UInt8) : Bytes :=
      [0, 0, 0, version] ++ [0, 0, 0, 0] ++ [0, 0, 0, 1] ++ [0, 1] ++ [0, 0] ++ List.replicate 256 0
    let outcome := (Assembly.start .widest).addAll [block 0, block 0, block 1]
    outcome.result = .error (.inconsistentHeader "version" 0 1 (some 0) 544) ∧
      outcome.state.warnings = #[⟨0, 286⟩] := by
  decide +kernel

end Andromeda
