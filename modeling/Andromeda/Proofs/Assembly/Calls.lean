import Andromeda.Proofs.Assembly.Delivery

/-!
What calls do to an assembly, one by one and in any order. An assembly is either the one that has
taken some blocks, or it is halted there; only a first block that names an index outside its own
image leaves something else behind, its header on record and no data.
-/

namespace Andromeda

inductive Assembly.Call where
  | add (block : Bytes)
  | finish

def Assembly.call (assembly : Assembly) : Assembly.Call → Outcome Assembly (Option Image)
  | .add block => (assembly.add block).andThen fun assembly _ => .done assembly none
  | .finish => assembly.finish.andThen fun assembly image => .done assembly (some image)

def Assembly.run (assembly : Assembly) (calls : List Assembly.Call) : Assembly :=
  calls.foldl (fun assembly call => (assembly.call call).state) assembly

def Assembly.slice (assembly : Assembly) (index : Nat) : Option Bytes :=
  (assembly.slots[index]?).join

def DecodeError.Outside (error : DecodeError) : Prop :=
  ∃ index blockCount offset, error = .indexOutOfRange index blockCount offset

def DecodeError.OfHeader : DecodeError → Prop
  | .invalidImageLength .. | .invalidBlockCount .. | .inconsistentHeader .. => True
  | _ => False

def DecodeError.OfPlace : DecodeError → Prop
  | .indexOutOfRange .. | .duplicateBlock .. => True
  | _ => False

def DecodeError.OfImage : DecodeError → Prop
  | .missingBlocks .. | .checksumMismatch .. => True
  | _ => False

inductive Assembly.Reached (limits : Limits) : Assembly → Prop where
  | taking {taken : List Bytes} (accepted : Accepted limits taken) :
      Assembly.Reached limits (.after limits taken)
  | halted {taken : List Bytes} {error : DecodeError} (accepted : Accepted limits taken)
      (inside : taken = [] → ¬ error.Outside) :
      Assembly.Reached limits { Assembly.after limits taken with halted := some error }
  | announced {block : Bytes} {error : DecodeError} (leads : (Header.read block).Leads limits) :
      Assembly.Reached limits
        { Assembly.holding limits (Header.read block) [] with halted := some error }

variable {limits : Limits} {assembly : Assembly} {taken : List Bytes} {block : Bytes}
  {error : DecodeError}

theorem call_add (assembly : Assembly) (block : Bytes) :
    assembly.call (.add block) = ⟨(assembly.add block).state,
      (assembly.add block).result.map fun _ => none, (assembly.add block).log⟩ :=
  Outcome.andThen_done _ _

theorem call_finish (assembly : Assembly) :
    assembly.call .finish =
      ⟨assembly.finish.state, assembly.finish.result.map some, assembly.finish.log⟩ :=
  Outcome.andThen_done _ _

theorem run_cons (assembly : Assembly) (call : Assembly.Call) (calls : List Assembly.Call) :
    assembly.run (call :: calls) = (assembly.call call).state.run calls := rfl

theorem run_concat (assembly : Assembly) (calls : List Assembly.Call) (call : Assembly.Call) :
    assembly.run (calls ++ [call]) = ((assembly.run calls).call call).state := by
  rw [Assembly.run, List.foldl_append]
  rfl

theorem checkField_error {field : String} {actual expected offset : Int} {index : Option Int}
    (failed : checkField field actual expected index offset = .error error) :
    error.OfHeader := by
  rw [(checkField_error_iff.mp failed).2]
  trivial

theorem checkRepeated_error {reference header : Header} {position : Int}
    (failed : checkRepeated reference header position = .error error) : error.OfHeader := by
  rcases bind_error failed with version | ⟨_, _, failed⟩
  · exact checkField_error version
  rcases bind_error failed with checksum | ⟨_, _, failed⟩
  · exact checkField_error checksum
  rcases bind_error failed with length | ⟨_, _, failed⟩
  · exact checkField_error length
  · exact checkField_error failed

theorem checkFirst_error {header : Header} (failed : checkFirst limits header = .error error) :
    error.OfHeader := by
  simp only [checkFirst] at failed
  split at failed
  · cases failed
    trivial
  · split at failed
    · cases failed
    · cases failed
      trivial

theorem withHeader_error {header : Header} (failed : assembly.withHeader header = .error error) :
    error.OfHeader := by
  rw [Assembly.withHeader] at failed
  split at failed
  · rcases bind_error failed with refused | ⟨_, _, impossible⟩
    · exact checkRepeated_error refused
    · cases impossible
  · rcases bind_error failed with refused | ⟨_, _, impossible⟩
    · exact checkFirst_error refused
    · cases impossible

theorem place_error {header : Header}
    (failed : (assembly.place header block).result = .error error) : error.OfPlace := by
  simp only [Assembly.place] at failed
  split at failed
  · cases failed
    trivial
  · split at failed
    · split at failed
      · cases failed
        trivial
      · cases failed
    · cases failed

theorem image_error (failed : assembly.image = .error error) : error.OfImage := by
  simp only [Assembly.image] at failed
  split at failed
  · cases failed
    trivial
  · cases failed
    trivial
  · split at failed
    · cases failed
    · cases failed
      trivial

theorem add_malformed (running : assembly.halted = none) (size : block.length ≠ blockLength) :
    assembly.add block =
      assembly.halt (.malformedBlock block.length blockLength assembly.position) := by
  simp only [Assembly.add, running, Header.ofBlock_eq, if_neg size]

theorem add_unrecorded (running : assembly.halted = none) (size : block.length = blockLength)
    (refused : assembly.withHeader (Header.read block) = .error error) :
    assembly.add block = assembly.halt error := by
  simp only [Assembly.add, running, Header.ofBlock_eq, if_pos size, refused]

theorem add_recorded {admitted : Assembly} (running : assembly.halted = none)
    (size : block.length = blockLength)
    (recorded : assembly.withHeader (Header.read block) = .ok admitted) :
    assembly.add block = admitted.place (Header.read block) block := by
  simp only [Assembly.add, running, Header.ofBlock_eq, if_pos size, recorded]

theorem add_error (running : assembly.halted = none)
    (failed : (assembly.add block).result = .error error) :
    error = .malformedBlock block.length blockLength assembly.position ∨ error.OfHeader ∨
      error.OfPlace := by
  by_cases size : block.length = blockLength
  case neg =>
    rw [add_malformed running size] at failed
    cases failed
    exact .inl rfl
  cases recorded : assembly.withHeader (Header.read block) with
  | error reason =>
      rw [add_unrecorded running size recorded] at failed
      cases failed
      exact .inr (.inl (withHeader_error recorded))
  | ok admitted =>
      rw [add_recorded running size recorded] at failed
      exact .inr (.inr (place_error failed))

theorem add_refused
    (failed : ((Assembly.after limits taken).add block).result = .error error) :
    ((Assembly.after limits taken).add block).state =
        { Assembly.after limits taken with halted := some error } ∧
      (taken = [] → ¬ error.Outside) ∨
    taken = [] ∧ error.Outside ∧ block.length = blockLength ∧ (Header.read block).Leads limits ∧
      ((Assembly.after limits taken).add block).state =
        { Assembly.holding limits (Header.read block) [] with halted := some error } := by
  have running := after_halted limits taken
  by_cases size : block.length = blockLength
  case neg =>
    rw [add_malformed running size] at failed ⊢
    cases failed
    refine .inl ⟨rfl, ?_⟩
    intro _ outside
    rcases outside with ⟨index, count, offset, impossible⟩
    cases impossible
  cases recorded : (Assembly.after limits taken).withHeader (Header.read block) with
  | error reason =>
      rw [add_unrecorded running size recorded] at failed ⊢
      cases failed
      refine .inl ⟨rfl, ?_⟩
      intro _ outside
      rcases outside with ⟨index, count, offset, rfl⟩
      exact withHeader_error recorded
  | ok admitted =>
      rw [add_recorded running size recorded] at failed ⊢
      rcases after_withHeader.mp recorded with ⟨first, later, rfl⟩
      by_cases within : (Header.read block).blockIndex < (Header.read block).blockCount
      case neg =>
        rw [place_outside (Int.not_lt.mp within)] at failed ⊢
        cases failed
        cases taken with
        | nil => exact .inr ⟨rfl, ⟨_, _, _, rfl⟩, size, first rfl, rfl⟩
        | cons head rest => exact .inl ⟨rfl, by simp⟩
      -- Only a repeated block is refused from here on, so some block was taken before.
      by_cases fresh : limits.strict = true →
          newest taken (Header.read block).blockIndex.toNat = none
      · rw [(holding_place size (inside_head later within) within fresh).1] at failed
        cases failed
      · rw [Classical.not_imp] at fresh
        rcases fresh with ⟨strict, again⟩
        rcases Option.ne_none_iff_exists'.mp again with ⟨previous, found⟩
        rw [holding_place_again (inside_head later within) within strict found] at failed ⊢
        cases failed
        cases taken with
        | nil => cases found
        | cons head rest => exact .inl ⟨rfl, by simp⟩

theorem add_halted (halted : assembly.halted = some error) (block : Bytes) :
    assembly.add block = .failed assembly error := by
  simp [Assembly.add, halted]

theorem call_halted (halted : assembly.halted = some error) (call : Assembly.Call) :
    (assembly.call call).result = .error error ∧ (assembly.call call).state = assembly := by
  cases call with
  | add block =>
      rw [Assembly.call, add_halted halted]
      exact ⟨rfl, rfl⟩
  | finish =>
      rw [Assembly.call, finish_halted halted]
      exact ⟨rfl, rfl⟩

theorem Assembly.Reached.call (reached : Assembly.Reached limits assembly)
    (call : Assembly.Call) : Assembly.Reached limits (assembly.call call).state := by
  cases reached with
  | halted accepted inside =>
      rw [(call_halted rfl call).2]
      exact .halted accepted inside
  | announced leads =>
      rw [(call_halted rfl call).2]
      exact .announced leads
  | @taking taken accepted =>
      cases call with
      | add block =>
          rw [call_add]
          change Assembly.Reached limits ((Assembly.after limits taken).add block).state
          cases result : ((Assembly.after limits taken).add block).result with
          | ok value =>
              have admits := admits_of_add result
              rw [(add_admitted admits).2]
              exact .taking (.next accepted admits)
          | error error =>
              rcases add_refused result with ⟨state, inside⟩ | ⟨_, _, _, leads, state⟩
              · rw [state]
                exact .halted accepted inside
              · rw [state]
                exact .announced leads
      | finish =>
          have running := after_halted limits taken
          rw [call_finish]
          change Assembly.Reached limits (Assembly.after limits taken).finish.state
          cases result : (Assembly.after limits taken).image with
          | ok image =>
              rw [finish_of_image running result]
              exact .taking accepted
          | error error =>
              rw [finish_of_failed running result]
              refine .halted accepted ?_
              intro _ outside
              rcases outside with ⟨index, count, offset, rfl⟩
              exact image_error result

theorem reached_run (limits : Limits) (calls : List Assembly.Call) :
    Assembly.Reached limits ((Assembly.start limits).run calls) := by
  induction calls using List.reverseRecOn with
  | nil => exact .taking .start
  | append_singleton calls call ih =>
      rw [run_concat]
      exact ih.call call

end Andromeda
