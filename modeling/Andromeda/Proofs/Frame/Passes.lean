import Andromeda.Proofs.Frame.Concatenation
import Mathlib.Data.List.Chain

/-!
Passes over captured data, whole ones and ones that stop early. A pass is what an iteration notes
that is asked for one frame after the other, and it starts anew whatever was asked before. Its
segments stand one behind the other and leave out no byte up to where the pass stops.
-/

namespace Andromeda

def Segment.start : Segment → Int
  | .skipped _ offset => offset
  | .found frame => frame.offset

def Segment.stop : Segment → Int
  | .skipped length offset => offset + length
  | .found frame => frame.stop

/-- Segments from one position to another, each where the one before it ends, and none empty. -/
def Tiles : Int → List Segment → Int → Prop
  | start, [], stop => start = stop
  | start, segment :: rest, stop =>
    segment.start = start ∧ start < segment.stop ∧ Tiles segment.stop rest stop

def Segment.Apart (first second : Segment) : Prop :=
  first.frame?.isSome = true ∨ second.frame?.isSome = true

def passEnd (data : Bytes) (found : List Frame) : Option Nat → Int
  | none => data.length
  | some 0 => 0
  | some (count + 1) => (found[count]?).elim (data.length : Int) Frame.stop

/-- The segments of a pass that stops early are the front of a full one, and they account for all
bytes up to where it stops. -/
structure Accounts (opcodes : OpcodeSet) (data : Bytes) (limit : Option Nat)
    (segments : List Segment) : Prop where
  frames : segments.filterMap Segment.frame? =
    let all := (pass opcodes data none).filterMap Segment.frame?
    limit.elim all all.take
  tiles : Tiles 0 segments
    (passEnd data ((pass opcodes data none).filterMap Segment.frame?) limit)
  apart : segments.IsChain Segment.Apart

inductive Iteration where
  | behind (position : Nat)
  | exhausted

def Iteration.next (opcodes : OpcodeSet) (data : Bytes) :
    Iteration → List Segment × Iteration
  | .behind position =>
    match framesFrom opcodes position 0 [] (data.drop position) with
    | frame :: _ => (gap position frame.offset ++ [.found frame], .behind frame.stop.toNat)
    | [] => (gap position data.length, .exhausted)
  | .exhausted => ([], .exhausted)

inductive Access where
  | restart
  | next

def browse (opcodes : OpcodeSet) (data : Bytes) : Iteration → List Access → List Segment
  | _, [] => []
  | _, .restart :: later => browse opcodes data (.behind 0) later
  | iteration, .next :: later =>
    (iteration.next opcodes data).1 ++ browse opcodes data (iteration.next opcodes data).2 later

def Access.pass (opcodes : OpcodeSet) (data : Bytes) (limit : Option Nat) : List Access :=
  .restart :: List.replicate (limit.getD ((frames opcodes data).length + 1)) .next

section Cutting

variable {opcodes : OpcodeSet} {frame : Frame} {before after : List Frame} {offset : Nat}
  {bytes : Bytes}

theorem not_mem_around (sorted : (before ++ frame :: after).Pairwise
    fun first second : Frame => first.offset < second.offset) :
    frame ∉ before ∧ frame ∉ after := by
  obtain ⟨_, behind, across⟩ := List.pairwise_append.mp sorted
  constructor
  · intro member
    have impossible := across frame member frame List.mem_cons_self
    omega
  · intro member
    have impossible := List.rel_of_pairwise_cons behind member
    omega

theorem framesAt_increasing (offset : Nat) (bytes : Bytes) :
    (framesAt opcodes offset bytes).Pairwise fun first second => first.offset < second.offset := by
  apply (framesAt_apart offset bytes).imp
  intro first second order
  exact Int.lt_of_lt_of_le first.offset_lt_stop order

theorem framesAt_around {front : Bytes} (accepted : opcodes.accepts frame.opcode = true)
    (payload : ∀ byte ∈ frame.payload, isData byte = true)
    (position : frame.offset = offset + front.length) (back : Bytes) :
    framesAt opcodes offset (front ++ (frame.toBytes ++ back)) =
      framesAt opcodes offset front ++ frame ::
        framesAt opcodes (offset + front.length + frame.payload.length + 7) back := by
  have here : { frame with offset := (offset + front.length : Nat) } = frame := by
    rw [Int.natCast_add, ← position]
  rw [framesAt_append _ _ _ (parted_before_frame front frame back),
    framesAt_toBytes accepted payload, here]

theorem framesAt_split (found : framesAt opcodes offset bytes = before ++ frame :: after) :
    ∃ front back, bytes = front ++ (frame.toBytes ++ back) ∧
      frame.offset = offset + front.length ∧ framesAt opcodes offset front = before ∧
      framesAt opcodes (offset + front.length + frame.payload.length + 7) back = after := by
  have member : frame ∈ framesAt opcodes offset bytes := by simp [found]
  obtain ⟨accepted, payload, front, back, rfl, position⟩ := (mem_framesAt offset bytes).mp member
  have parts := framesAt_around accepted payload position back
  have sorted : (framesAt opcodes offset (front ++ (frame.toBytes ++ back))).Pairwise
      fun first second => first.offset < second.offset := framesAt_increasing _ _
  rw [found] at sorted
  obtain ⟨fresh, once⟩ := not_mem_around sorted
  obtain ⟨same, _, rest⟩ :=
    (List.append_cons_inj_of_notMem fresh once).mp (found.symm.trans parts)
  exact ⟨front, back, rfl, position, same.symm, rest.symm⟩

end Cutting

section Tiling

variable {start middle stop : Int} {found : List Frame}

theorem tiles_append {first second : List Segment} (left : Tiles start first middle)
    (right : Tiles middle second stop) : Tiles start (first ++ second) stop := by
  induction first generalizing start with
  | nil =>
      have same : start = middle := left
      rwa [same]
  | cons segment rest ih => exact ⟨left.1, left.2.1, ih left.2.2⟩

theorem tiles_gap (order : start ≤ stop) : Tiles start (gap start stop) stop := by
  rw [gap]
  split
  · next some =>
      have length : start + (stop - start) = stop := by omega
      exact ⟨rfl, by rwa [Segment.stop, length], length⟩
  · next none => exact Int.le_antisymm order (Int.not_lt.mp none)

theorem tiles_found (frame : Frame) : Tiles frame.offset [.found frame] frame.stop :=
  ⟨rfl, frame.offset_lt_stop, rfl⟩

theorem tile_done (stop : Option Int) (position : Int) (done : List Segment)
    (found : List Frame) :
    tile stop position done found = done.reverse ++ tile stop position [] found := by
  induction found generalizing position done with
  | nil => cases stop <;> simp [tile]
  | cons frame rest ih =>
      rw [tile, tile, ih, ih frame.stop (_ :: (_ ++ []))]
      simp

theorem gap_reverse (start stop : Int) : (gap start stop).reverse = gap start stop := by
  rw [gap]
  split <;> rfl

theorem tile_nil_some (position stop : Int) : tile (some stop) position [] [] =
    gap position stop := by
  rw [tile, List.append_nil, gap_reverse]

theorem tile_cons (stop : Option Int) (position : Int) (frame : Frame) (rest : List Frame) :
    tile stop position [] (frame :: rest) =
      gap position frame.offset ++ .found frame :: tile stop frame.stop [] rest := by
  rw [tile, tile_done, List.append_nil, List.reverse_cons, gap_reverse, List.append_assoc]
  rfl

theorem tile_append (stop : Option Int) (position : Int) (before : List Frame) (frame : Frame)
    (after : List Frame) :
    tile stop position [] (before ++ frame :: after) =
      tile (some frame.offset) position [] before ++
        .found frame :: tile stop frame.stop [] after := by
  induction before generalizing position with
  | nil => rw [List.nil_append, tile_cons, tile_nil_some]
  | cons first rest ih =>
      rw [List.cons_append, tile_cons, ih, tile_cons, List.append_assoc]
      rfl

structure Spread (start : Int) (found : List Frame) (stop : Int) : Prop where
  apart : found.Pairwise fun first second => first.stop ≤ second.offset
  front : ∀ frame ∈ found, start ≤ frame.offset
  back : ∀ frame ∈ found, frame.stop ≤ stop
  order : start ≤ stop

theorem Spread.tiles (spread : Spread start found stop) :
    Tiles start (tile (some stop) start [] found) stop := by
  induction found generalizing start with
  | nil =>
      rw [tile_nil_some]
      exact tiles_gap spread.order
  | cons frame rest ih =>
      obtain ⟨behind, apart⟩ := List.pairwise_cons.mp spread.apart
      have later : Spread frame.stop rest stop :=
        ⟨apart, behind, fun other member => spread.back other (List.mem_cons_of_mem _ member),
          spread.back frame List.mem_cons_self⟩
      rw [tile_cons]
      apply tiles_append (tiles_gap (spread.front frame List.mem_cons_self))
      exact tiles_append (tiles_found frame) (ih later)

theorem Spread.before {before after : List Frame} {frame : Frame}
    (spread : Spread start (before ++ frame :: after) stop) :
    Spread start before frame.offset := by
  obtain ⟨apart, _, across⟩ := List.pairwise_append.mp spread.apart
  refine ⟨apart, ?_, ?_, ?_⟩
  · intro other member
    exact spread.front other (List.mem_append_left _ member)
  · intro other member
    exact across other member frame List.mem_cons_self
  · exact spread.front frame (by simp)

theorem Spread.tiles_until {before after : List Frame} {frame : Frame}
    (spread : Spread start (before ++ frame :: after) stop) :
    Tiles start (tile none start [] (before ++ [frame])) frame.stop := by
  rw [tile_append]
  exact tiles_append spread.before.tiles (tiles_found frame)

theorem apart_gap (start stop : Int) {rest : List Segment} (chain : rest.IsChain Segment.Apart)
    (frame : ∀ segment ∈ rest.head?, segment.frame?.isSome = true) :
    (gap start stop ++ rest).IsChain Segment.Apart := by
  rw [gap]
  split
  · apply List.isChain_cons.mpr
    exact ⟨fun segment first => .inr (frame segment first), chain⟩
  · exact chain

theorem apart_tile (stop : Option Int) (position : Int) (found : List Frame) :
    (tile stop position [] found).IsChain Segment.Apart := by
  induction found generalizing position with
  | nil =>
      cases stop with
      | none => exact List.IsChain.nil
      | some stop =>
          have alone := apart_gap position stop List.IsChain.nil (by simp)
          rwa [tile_nil_some, ← List.append_nil (gap position stop)]
  | cons frame rest ih =>
      rw [tile_cons]
      apply apart_gap
      · apply List.isChain_cons.mpr
        exact ⟨fun _ _ => .inl rfl, ih frame.stop⟩
      · simp [Segment.frame?]

end Tiling

section Passing

variable {opcodes : OpcodeSet} {data : Bytes}

theorem spread_frames (opcodes : OpcodeSet) (data : Bytes) :
    Spread 0 (frames opcodes data) data.length := by
  have inside (frame : Frame) (member : frame ∈ frames opcodes data) :
      0 ≤ frame.offset ∧ frame.stop ≤ data.length := by
    obtain ⟨front, back, same, position⟩ := ((mem_frames_iff ..).mp member).place
    have length := congrArg List.length same
    rw [List.length_append, List.length_append, Frame.length_toBytes] at length
    rw [Frame.stop, Frame.opcodePosition]
    omega
  refine ⟨?_, fun frame member => (inside frame member).1,
    fun frame member => (inside frame member).2, Int.natCast_nonneg _⟩
  rw [frames_eq_framesAt]
  exact framesAt_apart 0 data

theorem pass_some (opcodes : OpcodeSet) (data : Bytes) (count : Nat) :
    pass opcodes data (some count) =
      if count ≤ (frames opcodes data).length then
        tile none 0 [] ((frames opcodes data).take count)
      else pass opcodes data none := rfl

theorem pass_beyond {count : Nat} (beyond : (frames opcodes data).length < count) :
    pass opcodes data (some count) = pass opcodes data none := by
  rw [pass_some, if_neg (Nat.not_le.mpr beyond)]

theorem pass_limited_frames (opcodes : OpcodeSet) (data : Bytes) (count : Nat) :
    (pass opcodes data (some count)).filterMap Segment.frame? =
      (frames opcodes data).take count := by
  rw [pass_some]
  split
  · rw [tile_frames]
    rfl
  · next beyond => rw [pass_frames, List.take_of_length_le (by omega)]

theorem tiles_pass (opcodes : OpcodeSet) (data : Bytes) :
    Tiles 0 (pass opcodes data none) data.length :=
  (spread_frames opcodes data).tiles

theorem tiles_pass_limited (opcodes : OpcodeSet) (data : Bytes) (count : Nat) :
    Tiles 0 (pass opcodes data (some count))
      (passEnd data (frames opcodes data) (some count)) := by
  cases count with
  | zero => rfl
  | succ count =>
      rw [passEnd]
      cases last : (frames opcodes data)[count]? with
      | none =>
          have beyond := List.getElem?_eq_none_iff.mp last
          rw [pass_beyond (by omega)]
          exact tiles_pass opcodes data
      | some frame =>
          obtain ⟨inside, _⟩ := List.getElem?_eq_some_iff.mp last
          have split : frames opcodes data = (frames opcodes data).take count ++ frame ::
              (frames opcodes data).drop (count + 1) := by
            calc
              frames opcodes data = (frames opcodes data).take (count + 1) ++
                  (frames opcodes data).drop (count + 1) := (List.take_append_drop ..).symm
              _ = _ := by
                rw [List.take_add_one, last, List.append_assoc]
                rfl
          have spread := spread_frames opcodes data
          rw [split] at spread
          rw [pass_some, if_pos (Nat.succ_le_of_lt inside), List.take_add_one, last]
          exact spread.tiles_until

theorem apart_pass (opcodes : OpcodeSet) (data : Bytes) (limit : Option Nat) :
    (pass opcodes data limit).IsChain Segment.Apart := by
  cases limit with
  | none => exact apart_tile _ _ _
  | some count =>
      rw [pass_some]
      split
      · exact apart_tile _ _ _
      · exact apart_tile _ _ _

theorem browse_exhausted (opcodes : OpcodeSet) (data : Bytes) (count : Nat) :
    browse opcodes data .exhausted (List.replicate count .next) = [] := by
  induction count with
  | zero => rfl
  | succ count ih => exact ih

theorem browse_append (iteration : Iteration) (history : List Access) (later : List Access) :
    browse opcodes data iteration (history ++ .restart :: later) =
      browse opcodes data iteration history ++ browse opcodes data (.behind 0) later := by
  induction history generalizing iteration with
  | nil => rfl
  | cons access history ih =>
      cases access with
      | restart => exact ih _
      | next => rw [List.cons_append, browse, ih, browse, List.append_assoc]

theorem framesAt_behind_first {position : Nat} {frame : Frame} {rest : List Frame}
    (left : framesAt opcodes position (data.drop position) = frame :: rest) :
    (frame.stop.toNat : Int) = frame.stop ∧
      framesAt opcodes frame.stop.toNat (data.drop frame.stop.toNat) = rest := by
  have first : framesAt opcodes position (data.drop position) = [] ++ frame :: rest := left
  obtain ⟨front, back, bytes, offset, _, behind⟩ := framesAt_split first
  have stop : frame.stop = (position + front.length + frame.payload.length + 7 : Nat) := by
    rw [Frame.stop, Frame.opcodePosition]
    omega
  have further : data.drop (position + front.length + frame.payload.length + 7) = back := by
    have length : position + (front ++ frame.toBytes).length =
        position + front.length + frame.payload.length + 7 := by
      rw [List.length_append, Frame.length_toBytes]
      omega
    calc
      data.drop (position + front.length + frame.payload.length + 7) =
          (data.drop position).drop (front ++ frame.toBytes).length := by
        rw [List.drop_drop, length]
      _ = back := by rw [bytes, ← List.append_assoc, List.drop_left]
  rw [stop, Int.toNat_natCast, further]
  exact ⟨rfl, behind⟩

theorem browse_behind {position : Nat} {found : List Frame}
    (left : framesAt opcodes position (data.drop position) = found) (count : Nat) :
    browse opcodes data (.behind position) (List.replicate count .next) =
      if count ≤ found.length then tile none position [] (found.take count)
      else tile (some data.length) position [] found := by
  -- one more request goes behind the first frame that is left, so the frames left lose their head
  induction count generalizing position found with
  | zero => rfl
  | succ count ih =>
      have search : framesFrom opcodes position 0 [] (data.drop position) = found := by
        rw [framesFrom_eq_framesAt _ _ _ _ (by simp), left]
      cases found with
      | nil =>
          have none : ¬ count + 1 ≤ ([] : List Frame).length := Nat.not_succ_le_zero count
          rw [List.replicate_succ, browse, Iteration.next, search, if_neg none, tile_nil_some]
          simp only [browse_exhausted, List.append_nil]
      | cons frame rest =>
          obtain ⟨place, behind⟩ := framesAt_behind_first left
          have next := ih behind
          rw [place] at next
          rw [List.replicate_succ, browse, Iteration.next, search]
          simp only [next, List.length_cons, Nat.add_le_add_iff_right, List.take_succ_cons,
            tile_cons]
          split
          · rw [List.append_assoc]
            rfl
          · rw [List.append_assoc]
            rfl

theorem browse_pass (opcodes : OpcodeSet) (data : Bytes) (limit : Option Nat) :
    browse opcodes data (.behind 0)
        (List.replicate (limit.getD ((frames opcodes data).length + 1)) .next) =
      pass opcodes data limit := by
  have whole : framesAt opcodes 0 (data.drop 0) = frames opcodes data :=
    (frames_eq_framesAt opcodes data).symm
  rw [browse_behind whole]
  cases limit with
  | none => exact if_neg (Nat.not_succ_le_self _)
  | some count => rfl

end Passing

/-- A pass accounts for every byte up to where it stops, and it is what a reader of the frames gets
that asks for them one by one, whatever passes it made or gave up before. -/
theorem pass_accounts (opcodes : OpcodeSet) (data : Bytes) (limit : Option Nat) :
    Accounts opcodes data limit (pass opcodes data limit) ∧
      ∀ history : List Access,
        browse opcodes data (.behind 0) (history ++ Access.pass opcodes data limit) =
          browse opcodes data (.behind 0) history ++ pass opcodes data limit := by
  constructor
  · refine ⟨?_, ?_, apart_pass opcodes data limit⟩
    · rw [pass_frames]
      cases limit with
      | none => exact pass_frames opcodes data
      | some count => exact pass_limited_frames opcodes data count
    · rw [pass_frames]
      cases limit with
      | none => exact tiles_pass opcodes data
      | some count => exact tiles_pass_limited opcodes data count
  · intro history
    rw [Access.pass, browse_append, browse_pass]

example :
    let data : Bytes := [0xF0, 0xF0, 0x00, 0x00, 0x0E, 0x1D, 0x30, 0x01, 0xF7, 0xF8, 0xF8]
    pass .update data (some 1) = [.skipped 1 0, .found ⟨1, 0x30, [0x01]⟩] ∧
      pass .update data none = [.skipped 1 0, .found ⟨1, 0x30, [0x01]⟩, .skipped 2 9] := by
  decide

end Andromeda
