import Andromeda.Proofs.Assembly.History

namespace Andromeda

theorem bind_ok_iff {α β : Type} {first : Except DecodeError α}
    {next : α → Except DecodeError β} {value : β} :
    (first >>= next) = .ok value ↔ ∃ middle, first = .ok middle ∧ next middle = .ok value := by
  cases first with
  | error error => simp [bind, Except.bind]
  | ok middle => simp [bind, Except.bind]

theorem bind_error {α β : Type} {first : Except DecodeError α} {next : α → Except DecodeError β}
    {error : DecodeError} (failed : (first >>= next) = .error error) :
    first = .error error ∨ ∃ middle, first = .ok middle ∧ next middle = .error error := by
  cases first with
  | error reason =>
      cases failed
      exact .inl rfl
  | ok middle => exact .inr ⟨middle, rfl, failed⟩

theorem checkField_ok_iff {field : String} {actual expected : Int} {index : Option Int}
    {offset : Int} {value : Unit} :
    checkField field actual expected index offset = .ok value ↔ actual = expected := by
  rw [checkField]
  split <;> simp [*]

theorem checkField_error_iff {name : String} {actual expected : Int} {index : Option Int}
    {offset : Int} {error : DecodeError} :
    checkField name actual expected index offset = .error error ↔
      actual ≠ expected ∧ error = .inconsistentHeader name expected actual index offset := by
  rw [checkField]
  split <;> simp [*, eq_comm]

theorem checkRepeated_ok_iff {reference header : Header} {position : Int} {value : Unit} :
    checkRepeated reference header position = .ok value ↔ header.Repeats reference := by
  simp only [checkRepeated, bind_ok_iff, checkField_ok_iff]
  constructor
  · intro checked
    rcases checked with ⟨_, version, _, checksum, _, length, blockCount⟩
    exact ⟨version, checksum, length, blockCount⟩
  · intro repeated
    rcases repeated with ⟨version, checksum, length, blockCount⟩
    exact ⟨(), version, (), checksum, (), length, blockCount⟩

theorem checkFirst_ok_iff {limits : Limits} {header : Header} {value : Unit} :
    checkFirst limits header = .ok value ↔ header.Leads limits := by
  simp only [checkFirst]
  constructor
  · intro ok
    split at ok
    · cases ok
    · split at ok
      · exact ⟨by omega, by assumption⟩
      · cases ok
  · intro leads
    rcases leads with ⟨length, blockCount⟩
    rw [if_neg (by omega), if_pos blockCount]

theorem stored_nil (count : Nat) : stored count [] = [] := by
  simp [stored, slotOf, newest]

theorem holding_nil (limits : Limits) (header : Header) :
    { Assembly.start limits with
      header := some header, slots := Array.replicate header.blockCount.toNat none } =
      Assembly.holding limits header [] := by
  have slots : ((List.range header.blockCount.toNat).map (slotOf [])).toArray =
      Array.replicate header.blockCount.toNat none := by
    rw [show slotOf [] = fun _ => none by rfl, List.map_const', List.length_range,
      List.toArray_replicate]
  rw [Assembly.holding, stored_nil, slots]
  rfl

theorem start_withHeader {limits : Limits} {header : Header} {admitted : Assembly} :
    (Assembly.start limits).withHeader header = .ok admitted ↔
      header.Leads limits ∧ admitted = .holding limits header [] := by
  rw [← holding_nil]
  simp only [Assembly.withHeader, Assembly.start, bind_ok_iff, checkFirst_ok_iff]
  constructor
  · intro recorded
    rcases recorded with ⟨_, leads, same⟩
    exact ⟨leads, (Except.ok.inj same).symm⟩
  · intro parts
    rcases parts with ⟨leads, rfl⟩
    exact ⟨(), leads, rfl⟩

theorem holding_withHeader {limits : Limits} {reference header : Header} {taken : List Bytes}
    {admitted : Assembly} :
    (Assembly.holding limits reference taken).withHeader header = .ok admitted ↔
      header.Repeats reference ∧ admitted = .holding limits reference taken := by
  simp only [Assembly.withHeader, Assembly.holding, bind_ok_iff, checkRepeated_ok_iff]
  constructor
  · intro recorded
    rcases recorded with ⟨_, repeated, same⟩
    exact ⟨repeated, (Except.ok.inj same).symm⟩
  · intro parts
    rcases parts with ⟨repeated, rfl⟩
    exact ⟨(), repeated, rfl⟩

theorem after_withHeader {limits : Limits} {taken : List Bytes} {block : Bytes}
    {admitted : Assembly} :
    (Assembly.after limits taken).withHeader (Header.read block) = .ok admitted ↔
      (taken = [] → (Header.read block).Leads limits) ∧
      (∀ reference ∈ taken.head?, (Header.read block).Repeats (Header.read reference)) ∧
      admitted = .holding limits (Header.read (taken.headD block)) taken := by
  cases taken with
  | nil => simp [Assembly.after, start_withHeader]
  | cons first rest => simp [Assembly.after, holding_withHeader]

section Placing

variable {limits : Limits} {reference : Header} {taken : List Bytes} {block : Bytes}

theorem getElem?_holding {slot : Nat} (inside : slot < reference.blockCount.toNat) :
    (Assembly.holding limits reference taken).slots[slot]? = some (slotOf taken slot) := by
  simp [Assembly.holding, inside]

theorem slots_concat :
    (Assembly.holding limits reference taken).slots.setIfInBounds
        (Header.read block).blockIndex.toNat (some (usedData (Header.read block) block)) =
      (Assembly.holding limits reference (taken ++ [block])).slots := by
  have same := Header.read_index block
  simp only [Assembly.holding, List.setIfInBounds_toArray]
  congr 1
  apply List.ext_getElem
  · simp
  · intro index left right
    simp only [List.getElem_set, List.getElem_map, List.getElem_range, slotOf_concat]
    by_cases here : (Header.read block).blockIndex.toNat = index
    · rw [if_pos here, if_pos (by omega)]
    · rw [if_neg here, if_neg (by omega)]

theorem slotOf_of_fresh {index : Nat} (new : newest taken index = none) :
    slotOf taken index = none := by
  rw [slotOf, new]
  rfl

theorem slotOf_of_newest {previous : Bytes} {index : Nat}
    (found : newest taken index = some previous) :
    slotOf taken index = some (usedData (Header.read previous) previous) := by
  rw [slotOf, found]
  rfl

theorem checksum_exchange (front old new back : Bytes) :
    Checksum.add (Checksum.remove (Checksum.add 0 (front ++ (old ++ back)).values) old.values)
      new.values = Checksum.add 0 (front ++ (new ++ back)).values := by
  simp only [Bytes.values_append, total_append, Checksum.add, Checksum.remove, Checksum.word]
  omega

theorem checksum_insert (front new back : Bytes) :
    Checksum.add (Checksum.add 0 (front ++ back).values) new.values =
      Checksum.add 0 (front ++ (new ++ back)).values := by
  simp only [Bytes.values_append, total_append, Checksum.add, Checksum.word]
  omega

theorem position_concat (size : block.length = blockLength) :
    (Assembly.holding limits reference taken).position + block.length =
      (Assembly.holding limits reference (taken ++ [block])).position := by
  simp only [Assembly.holding, List.length_append, List.length_singleton, Nat.succ_mul, size]
  push_cast
  rfl

theorem length_usedData (size : block.length = blockLength) (header : Header) :
    ((usedData header block).length : Int) = sliceLength header.blockIndex header.length := by
  rw [usedData, List.length_take, List.length_drop, size, sliceLength, blockDataLength, blockLength,
    blockDataLength]
  omega

theorem holding_store (size : block.length = blockLength)
    (inside : (Header.read block).blockIndex.toNat < reference.blockCount.toNat)
    (new : newest taken (Header.read block).blockIndex.toNat = none) :
    (Assembly.holding limits reference taken).store (Header.read block) block =
      .holding limits reference (taken ++ [block]) := by
  obtain ⟨front, back, before, behind⟩ := stored_concat taken block _ inside
  rw [slotOf_of_fresh new, Option.getD_none, List.nil_append] at before
  have checksum : Checksum.add (Assembly.holding limits reference taken).checksum
      (usedData (Header.read block) block).values =
        (Assembly.holding limits reference (taken ++ [block])).checksum := by
    simp only [Assembly.holding, before, behind, checksum_insert]
  have consumed : (Assembly.holding limits reference taken).consumed +
      sliceLength (Header.read block).blockIndex (Header.read block).length =
        (Assembly.holding limits reference (taken ++ [block])).consumed := by
    simp only [Assembly.holding, before, behind, List.length_append, ← length_usedData size]
    omega
  have warnings : (Assembly.holding limits reference taken).warnings =
      (Assembly.holding limits reference (taken ++ [block])).warnings := by
    simp [Assembly.holding, repeatsAfter_concat, new]
  rw [Assembly.store, slots_concat, checksum, consumed, position_concat size, warnings]
  rfl

theorem holding_discard_store (size : block.length = blockLength)
    (inside : (Header.read block).blockIndex.toNat < reference.blockCount.toNat)
    {previous : Bytes} (old : slotOf taken (Header.read block).blockIndex.toNat = some previous) :
    ((Assembly.holding limits reference taken).discard
        ⟨(Header.read block).blockIndex, (taken.length * blockLength : Nat) + 14⟩ previous).store
        (Header.read block) block =
      .holding limits reference (taken ++ [block]) := by
  obtain ⟨front, back, before, behind⟩ := stored_concat taken block _ inside
  rw [old, Option.getD_some] at before
  have found : (newest taken (Header.read block).blockIndex.toNat).isSome = true := by
    rw [slotOf] at old
    obtain ⟨block, found, _⟩ := Option.map_eq_some_iff.mp old
    rw [found]
    rfl
  have checksum : Checksum.add (Checksum.remove
      (Assembly.holding limits reference taken).checksum previous.values)
      (usedData (Header.read block) block).values =
        (Assembly.holding limits reference (taken ++ [block])).checksum := by
    simp only [Assembly.holding, before, behind, checksum_exchange]
  have consumed : (Assembly.holding limits reference taken).consumed - previous.length +
      sliceLength (Header.read block).blockIndex (Header.read block).length =
        (Assembly.holding limits reference (taken ++ [block])).consumed := by
    simp only [Assembly.holding, before, behind, List.length_append, ← length_usedData size]
    omega
  have warnings : (Assembly.holding limits reference taken).warnings.push
      ⟨(Header.read block).blockIndex, (taken.length * blockLength : Nat) + 14⟩ =
        (Assembly.holding limits reference (taken ++ [block])).warnings := by
    simp [Assembly.holding, repeatsAfter_concat, found]
  rw [Assembly.store, Assembly.discard, slots_concat, checksum, consumed,
    position_concat size, warnings]
  rfl

theorem usable_index
    (within : (Header.read block).blockIndex < (Header.read block).blockCount) :
    ¬ ((Header.read block).blockIndex < 0 ∨
      (Header.read block).blockCount ≤ (Header.read block).blockIndex) := by
  have least : 0 ≤ (Header.read block).blockIndex := fieldAt_nonneg block 14 2
  omega

theorem place_outside {assembly : Assembly} {header : Header} {block : Bytes}
    (outside : header.blockCount ≤ header.blockIndex) :
    assembly.place header block = assembly.halt
      (.indexOutOfRange header.blockIndex header.blockCount (assembly.position + 14)) :=
  if_pos (Or.inr outside)

theorem holding_place_again
    (inside : (Header.read block).blockIndex.toNat < reference.blockCount.toNat)
    (within : (Header.read block).blockIndex < (Header.read block).blockCount)
    (strict : limits.strict = true) {previous : Bytes}
    (found : newest taken (Header.read block).blockIndex.toNat = some previous) :
    (Assembly.holding limits reference taken).place (Header.read block) block =
      (Assembly.holding limits reference taken).halt (.duplicateBlock
        (Header.read block).blockIndex ((taken.length * blockLength : Nat) + 14)) := by
  have usable := usable_index within
  have slot : (Assembly.holding limits reference taken).slots[_]? = _ := getElem?_holding inside
  simp only [Assembly.place, if_neg usable, slot, slotOf_of_newest found]
  exact if_pos strict

theorem holding_place (size : block.length = blockLength)
    (inside : (Header.read block).blockIndex.toNat < reference.blockCount.toNat)
    (within : (Header.read block).blockIndex < (Header.read block).blockCount)
    (fresh : limits.strict = true → newest taken (Header.read block).blockIndex.toNat = none) :
    ((Assembly.holding limits reference taken).place (Header.read block) block).result = .ok () ∧
      ((Assembly.holding limits reference taken).place (Header.read block) block).state =
        .holding limits reference (taken ++ [block]) := by
  have usable := usable_index within
  have slot : (Assembly.holding limits reference taken).slots[_]? = _ := getElem?_holding inside
  simp only [Assembly.place, if_neg usable, slot]
  cases found : newest taken (Header.read block).blockIndex.toNat with
  | none =>
      simp only [slotOf_of_fresh found]
      exact ⟨trivial, holding_store size inside found⟩
  | some previous =>
      have old := slotOf_of_newest found
      have lax : ¬ (Assembly.holding limits reference taken).limits.strict = true := by
        intro strict
        rw [fresh strict] at found
        cases found
      simp only [old, if_neg lax]
      exact ⟨trivial, holding_discard_store size inside old⟩

end Placing

theorem after_halted (limits : Limits) (taken : List Bytes) :
    (Assembly.after limits taken).halted = none := by
  cases taken <;> rfl

theorem after_concat (limits : Limits) (taken : List Bytes) (block : Bytes) :
    Assembly.after limits (taken ++ [block]) =
      .holding limits (Header.read (taken.headD block)) (taken ++ [block]) := by
  cases taken <;> rfl

theorem repeats_head {taken : List Bytes} {block : Bytes}
    (later : ∀ reference ∈ taken.head?, (Header.read block).Repeats (Header.read reference)) :
    (Header.read block).Repeats (Header.read (taken.headD block)) := by
  cases taken with
  | nil => exact ⟨rfl, rfl, rfl, rfl⟩
  | cons first rest => exact later first rfl

theorem inside_head {taken : List Bytes} {block : Bytes}
    (later : ∀ reference ∈ taken.head?, (Header.read block).Repeats (Header.read reference))
    (within : (Header.read block).blockIndex < (Header.read block).blockCount) :
    (Header.read block).blockIndex.toNat < (Header.read (taken.headD block)).blockCount.toNat := by
  have least : 0 ≤ (Header.read block).blockIndex := fieldAt_nonneg block 14 2
  have same := (repeats_head later).blockCount
  omega

theorem add_admitted {limits : Limits} {taken : List Bytes} {block : Bytes}
    (admits : Admits limits taken block) :
    ((Assembly.after limits taken).add block).result = .ok () ∧
      ((Assembly.after limits taken).add block).state = .after limits (taken ++ [block]) := by
  have admitted := after_withHeader.mpr ⟨admits.first, admits.later, rfl⟩
  have inside := inside_head admits.later admits.index
  rw [after_concat]
  simp only [Assembly.add, after_halted, Header.ofBlock_eq, if_pos admits.size, admitted]
  exact holding_place admits.size inside admits.index admits.fresh

theorem admits_of_add {limits : Limits} {taken : List Bytes} {block : Bytes}
    (ok : ((Assembly.after limits taken).add block).result = .ok ()) :
    Admits limits taken block := by
  simp only [Assembly.add, after_halted, Header.ofBlock_eq] at ok
  by_cases size : block.length = blockLength
  case neg =>
    rw [if_neg size] at ok
    cases ok
  simp only [if_pos size] at ok
  cases admitted : (Assembly.after limits taken).withHeader (Header.read block) with
  | error error =>
      rw [admitted] at ok
      cases ok
  | ok assembly =>
      obtain ⟨first, later, rfl⟩ := after_withHeader.mp admitted
      rw [admitted] at ok
      change (Assembly.place _ _ _).result = _ at ok
      by_cases within : (Header.read block).blockIndex < (Header.read block).blockCount
      case neg =>
        rw [place_outside (Int.not_lt.mp within)] at ok
        cases ok
      refine ⟨size, first, later, within, ?_⟩
      intro strict
      cases found : newest taken (Header.read block).blockIndex.toNat with
      | none => rfl
      | some previous =>
          rw [holding_place_again (inside_head later within) within strict found] at ok
          cases ok

/-- The blocks go in one after the other, each into the assembly of those before it. -/
inductive Accepted (limits : Limits) : List Bytes → Prop where
  | start : Accepted limits []
  | next {taken : List Bytes} {block : Bytes} (before : Accepted limits taken)
      (admits : Admits limits taken block) : Accepted limits (taken ++ [block])

theorem accepted_concat {limits : Limits} {taken : List Bytes} {block : Bytes} :
    Accepted limits (taken ++ [block]) ↔ Accepted limits taken ∧ Admits limits taken block := by
  constructor
  · intro accepted
    generalize whole : taken ++ [block] = blocks at accepted
    cases accepted with
    | start => simp at whole
    | next before admits =>
        obtain ⟨rfl, last⟩ := List.append_inj' whole rfl
        cases last
        exact ⟨before, admits⟩
  · intro parts
    rcases parts with ⟨before, admits⟩
    exact .next before admits

def Assembly.addAll (assembly : Assembly) (blocks : List Bytes) : Outcome Assembly Unit :=
  Outcome.each (fun assembly _ block => assembly.add block) assembly () blocks

theorem addAll_concat (assembly : Assembly) (blocks : List Bytes) (block : Bytes) :
    assembly.addAll (blocks ++ [block]) =
      (assembly.addAll blocks).andThen fun assembly _ => assembly.add block := by
  simp only [Assembly.addAll, Outcome.each_append, Outcome.each_singleton]

theorem addAll_start (limits : Limits) (blocks : List Bytes) :
    (((Assembly.start limits).addAll blocks).result = .ok () ↔ Accepted limits blocks) ∧
    (Accepted limits blocks →
      ((Assembly.start limits).addAll blocks).state = .after limits blocks) := by
  induction blocks using List.reverseRecOn with
  | nil => exact ⟨⟨fun _ => .start, fun _ => rfl⟩, fun _ => rfl⟩
  | append_singleton taken block ih =>
      rw [addAll_concat, Outcome.andThen_ok_iff, accepted_concat]
      constructor
      · constructor
        · intro run
          rcases run with ⟨_, before, ok⟩
          have accepted := ih.1.mp before
          rw [ih.2 accepted] at ok
          exact ⟨accepted, admits_of_add ok⟩
        · intro parts
          rcases parts with ⟨accepted, admits⟩
          refine ⟨(), ih.1.mpr accepted, ?_⟩
          rw [ih.2 accepted]
          exact (add_admitted admits).1
      · intro parts
        rcases parts with ⟨accepted, admits⟩
        rw [(Outcome.andThen_ok (ih.1.mpr accepted)).2, ih.2 accepted]
        exact (add_admitted admits).2

end Andromeda
