import Andromeda.Proofs.Block.Slices
import Andromeda.Proofs.Display.DumpRows

namespace Andromeda

def readCell? : List Char → Option UInt8
  | [high, low] => do return .ofNat (16 * (← hexValue? high) + (← hexValue? low))
  | _ => none

def DumpRow.bytes? (row : DumpRow) : Option Bytes := (wordsOf row.cells.toList).mapM readCell?

def ShowsByte (char : Char) (byte : UInt8) : Prop :=
  if 32 ≤ byte.toNat ∧ byte.toNat < 127 then char.toNat = byte.toNat else char = '.'

structure DumpRow.Shows (row : DumpRow) (width place : Nat) (bytes : Bytes) : Prop where
  address : readHex? row.address.toList = some place
  cells : row.bytes? = some bytes
  breadth : row.cells.length = width * 3 + 2
  ascii : List.Forall₂ ShowsByte row.ascii.toList bytes
  mark : row.mark = if place % 256 = 0 then some ((place / 256 : Nat) : Int) else none

def remainderLine (rest : Nat) : List String :=
  if rest = 0 then [] else [styled "dim" s!"... {rest} more bytes ..."]

def shownCount (width most : Nat) (data : Bytes) : Nat := min data.length (most * width)

def lineLimit (width most : Nat) (data : Bytes) : Nat :=
  min most ((data.length + (width - 1)) / width)

/-- The content of a dump accounts for every byte: those that are not in its rows are counted on a
line behind them. -/
structure DumpAccount (start width most : Nat) (data : Bytes) (content : String)
    (rows : List DumpRow) : Prop where
  lines : linesOf content = rows.map DumpRow.text ++
    remainderLine (data.length - shownCount width most data)
  count : rows.length = lineLimit width most data
  each : ∀ index (row : DumpRow), rows[index]? = some row →
    row.Shows width (start + index * width) ((data.drop (index * width)).take width)
  once : (rows.mapM DumpRow.bytes?).map List.flatten =
    some (data.take (shownCount width most data))
  blocks : width ∣ 256 → width ∣ start → ∀ place < shownCount width most data,
    (start + place) % 256 = 0 ↔ ∃ index row, rows[index]? = some row ∧ place = index * width ∧
      row.mark = some (((start + place) / 256 : Nat) : Int)

theorem wordsOf_joinCells (bytes : Bytes) :
    wordsOf (joinCells bytes).toList = bytes.map fun byte => (hexNumeral 2 byte.toNat).toList := by
  rw [toList_joinCells]
  apply wordsOf_intercalate
  rw [List.forall_mem_map]
  intro byte _
  refine ⟨fun space => ?_, by simp [toList_hexNumeral_byte]⟩
  exact absurd (hexNumeral_mem space) (by decide)

theorem readCell?_numeral (byte : UInt8) :
    readCell? (hexNumeral 2 byte.toNat).toList = some byte := by
  have high : byte.toNat / 16 < 16 := by
    have size := byte.toNat_lt
    omega
  have low : byte.toNat % 16 < 16 := Nat.mod_lt _ (by decide)
  have whole : UInt8.ofNat (16 * (byte.toNat / 16) + byte.toNat % 16) = byte := by
    rw [Nat.div_add_mod, UInt8.ofNat_toNat]
  rw [toList_hexNumeral_byte]
  simp only [readCell?, hexValue?_hexDigit high, hexValue?_hexDigit low]
  exact congrArg some whole

theorem mapM_eq_some_of {function : α → Option β} {image : γ → α} {value : γ → β} {items : List γ}
    (each : ∀ item ∈ items, function (image item) = some (value item)) :
    (items.map image).mapM function = some (items.map value) := by
  induction items with
  | nil => rfl
  | cons item items ih =>
      have first := each item List.mem_cons_self
      have later := ih fun item member => each item (List.mem_cons_of_mem _ member)
      simp [first, later]

theorem wordsOf_cellsText (bytes : Bytes) :
    wordsOf (cellsText bytes).toList = bytes.map fun byte => (hexNumeral 2 byte.toNat).toList := by
  rw [cellsText]
  split
  · exact wordsOf_joinCells bytes
  · have gap : (joinCells (bytes.take 8) ++ "   " ++ joinCells (bytes.drop 8)).toList =
        (joinCells (bytes.take 8)).toList ++
          ' ' :: ' ' :: ' ' :: (joinCells (bytes.drop 8)).toList := by
      simp [String.toList_append]
    rw [gap, wordsOf_append, wordsOf_space, wordsOf_space, wordsOf_joinCells, wordsOf_joinCells,
      ← List.map_append, List.take_append_drop]

theorem DumpLine.bytes?_row (width : Nat) (line : DumpLine) :
    (line.row width).bytes? = some line.bytes := by
  rw [DumpRow.bytes?, DumpLine.row, padRight, String.toList_append, spaces, String.toList_ofList,
    wordsOf_spaces, wordsOf_cellsText, mapM_eq_some_of fun byte _ => readCell?_numeral byte,
    List.map_id']

theorem length_joinCells (bytes : Bytes) : (joinCells bytes).length = bytes.length * 3 - 1 := by
  rw [← String.length_toList, toList_joinCells]
  induction bytes with
  | nil => rfl
  | cons byte bytes ih =>
      cases bytes with
      | nil => simp [toList_hexNumeral_byte]
      | cons next bytes =>
          rw [List.map_cons] at ih
          rw [List.map_cons, List.map_cons, List.intercalate_cons_cons, List.length_append, ih,
            toList_hexNumeral_byte]
          simp only [List.length_append, List.length_cons, List.length_nil]
          omega

theorem length_cellsText_le {width : Nat} {bytes : Bytes} (fits : bytes.length ≤ width) :
    (cellsText bytes).length ≤ width * 3 + 2 := by
  rw [cellsText]
  split
  · rw [length_joinCells]
    omega
  · have gap : "   ".length = 3 := rfl
    rw [String.length_append, String.length_append, length_joinCells, length_joinCells, gap,
      List.length_take, List.length_drop]
    omega

theorem asciiText_shows (bytes : Bytes) : List.Forall₂ ShowsByte (asciiText bytes).toList bytes := by
  rw [asciiText, String.toList_ofList, List.forall₂_map_left_iff, List.forall₂_same]
  intro byte _
  rw [ShowsByte]
  split
  case isTrue printable => exact toNat_ofNat_of_lt printable.2
  case isFalse => rfl

theorem DumpLine.row_shows {width : Nat} (place : Nat) {bytes : Bytes}
    (fits : bytes.length ≤ width) :
    (DumpLine.row width ⟨place, bytes⟩).Shows width place bytes where
  address := readHex?_hexNumeral 8 place
  cells := DumpLine.bytes?_row width _
  breadth := by
    have most := length_cellsText_le fits
    simp only [DumpLine.row, padRight, String.length_append, spaces, String.length_ofList,
      List.length_replicate]
    omega
  ascii := asciiText_shows bytes
  mark := by
    simp only [DumpLine.row]
    norm_cast

def numberedLine (start width : Nat) (data : Bytes) (index : Nat) : DumpLine :=
  ⟨(start + index * width : Nat), (data.drop (index * width)).take width⟩

theorem numberedLine_shows (start width : Nat) (data : Bytes) (index : Nat) :
    ((numberedLine start width data index).row width).Shows width (start + index * width)
      ((data.drop (index * width)).take width) :=
  DumpLine.row_shows _ (List.length_take_le _ _)

theorem dumpLines_eq (start width : Nat) (done : List DumpLine) (count : Nat) (data : Bytes) :
    dumpLines width start done count data =
      done.reverse ++ (List.range count).map (numberedLine start width data) := by
  induction count generalizing start done data with
  | zero => simp [dumpLines]
  | succ count ih =>
      have later : numberedLine (start + width) width (data.drop width) =
          numberedLine start width data ∘ Nat.succ := by
        funext index
        simp only [numberedLine, Function.comp_apply, List.drop_drop, Nat.succ_mul]
        congr 2
        · omega
        · rw [Nat.add_comm width]
      have first : numberedLine start width data 0 = ⟨start, data.take width⟩ := by
        simp [numberedLine]
      have next := ih (start + width) (⟨start, data.take width⟩ :: done) (data.drop width)
      rw [dumpLines, List.range_succ_eq_map, List.map_cons, List.map_map, ← later, first]
      simpa using next

theorem getElem?_map_range {function : Nat → α} {count index : Nat} {item : α} :
    ((List.range count).map function)[index]? = some item ↔
      index < count ∧ function index = item := by
  rw [List.getElem?_map, Option.map_eq_some_iff]
  constructor
  · rintro ⟨place, found, rfl⟩
    obtain ⟨below, rfl⟩ := List.getElem?_eq_some_iff.mp found
    rw [List.length_range] at below
    exact ⟨below, by rw [List.getElem_range]⟩
  · rintro ⟨below, rfl⟩
    exact ⟨index, List.getElem?_range below, rfl⟩

abbrev DumpOptions.natural (title : String) (start width most : Nat) : DumpOptions :=
  ⟨title, start, width, most⟩

section Dump

variable {title : String} {start width most : Nat} {data : Bytes} {lines : List DumpLine}

theorem extent_natCast :
    (DumpOptions.natural title start width most).extent data = shownCount width most data := by
  simp only [DumpOptions.extent, shownCount]
  omega

theorem lineLimit_le_iff (positive : 0 < width) {count : Nat} :
    lineLimit width most data ≤ count ↔ shownCount width most data ≤ count * width := by
  rw [lineLimit, shownCount, min_le_iff, min_le_iff, roundedUp_le_iff positive,
    Nat.mul_le_mul_right_iff positive, or_comm]

theorem shownCount_le (positive : 0 < width) :
    shownCount width most data ≤ lineLimit width most data * width :=
  (lineLimit_le_iff positive).mp le_rfl

theorem take_lineLimit (positive : 0 < width) :
    data.take (lineLimit width most data * width) = data.take (shownCount width most data) := by
  have room : min data.length (most * width) ≤ lineLimit width most data * width :=
    shownCount_le positive
  have few : lineLimit width most data * width ≤ most * width :=
    Nat.mul_le_mul_right width (Nat.min_le_left _ _)
  rw [shownCount, List.take_eq_take_min, List.take_eq_take_min]
  congr 1
  omega

theorem lineCount_eq (positive : 0 < width) :
    (DumpOptions.natural title start width most).lineCount data = lineLimit width most data := by
  apply eq_of_forall_ge_iff
  intro count
  rw [lineLimit_le_iff positive, DumpOptions.lineCount, extent_natCast,
    pieceCount_toNat_le_iff positive]

theorem lines?_natCast (positive : 0 < width) :
    (DumpOptions.natural title start width most).lines? data =
      some ((List.range (lineLimit width most data)).map (numberedLine start width data)) := by
  have filled : (0 : Int) < width := Int.natCast_pos.mpr positive
  simp only [DumpOptions.lines?, filled, if_true, lineCount_eq positive, Int.toNat_natCast,
    dumpLines_eq, List.reverse_nil, List.nil_append]

theorem remainder_natCast :
    (if 0 < (data.length - (DumpOptions.natural title start width most).extent data : Int) then
      [remainderText (data.length - (DumpOptions.natural title start width most).extent data)]
    else []) = remainderLine (data.length - shownCount width most data) := by
  have within : shownCount width most data ≤ data.length := Nat.min_le_left _ _
  rw [extent_natCast, ← Int.ofNat_sub within, remainderLine]
  split
  case isTrue more =>
    rw [if_neg (Int.natCast_pos.mp more).ne']
    rfl
  case isFalse none => rw [if_pos (by omega)]

theorem block_begins_iff (positive : 0 < width) (even : width ∣ 256) (begins : width ∣ start)
    {place : Nat} (below : place < shownCount width most data) :
    (start + place) % 256 = 0 ↔ ∃ index row,
      (index < lineLimit width most data ∧
        (numberedLine start width data index).row width = row) ∧
      place = index * width ∧ row.mark = some (((start + place) / 256 : Nat) : Int) := by
  constructor
  · intro block
    have whole : width ∣ start + place := even.trans (Nat.dvd_of_mod_eq_zero block)
    obtain ⟨index, rfl⟩ := (Nat.dvd_add_right begins).mp whole
    rw [Nat.mul_comm width] at below block ⊢
    have inside := Nat.lt_of_mul_lt_mul_right (below.trans_le (shownCount_le positive))
    refine ⟨index, _, ⟨inside, rfl⟩, rfl, ?_⟩
    rw [(numberedLine_shows start width data index).mark, if_pos block]
  · rintro ⟨index, row, ⟨_, rfl⟩, rfl, marked⟩
    by_contra other
    rw [(numberedLine_shows start width data index).mark, if_neg other] at marked
    cases marked

theorem account_rows (positive : 0 < width)
    (numbered : lines = (List.range (lineLimit width most data)).map
      (numberedLine start width data)) :
    DumpAccount start width most data
      (Span.page ((DumpOptions.natural title start width most).spans data lines))
      (lines.map (DumpLine.row width)) := by
  have rows : lines.map (DumpLine.row width) =
      (List.range (lineLimit width most data)).map fun index =>
        (numberedLine start width data index).row width := by
    rw [numbered, List.map_map]
    rfl
  constructor
  case lines => rw [linesOf_page, map_line_spans, remainder_natCast, Int.toNat_natCast]
  case count => rw [rows, List.length_map, List.length_range]
  case each =>
    intro index row found
    rw [rows, getElem?_map_range] at found
    exact found.2 ▸ numberedLine_shows start width data index
  case once =>
    rw [rows, mapM_eq_some_of fun index _ => (numberedLine_shows start width data index).cells,
      Option.map_some, ← List.flatMap_def, flatMap_pieces, take_lineLimit positive]
  case blocks =>
    intro even begins place below
    simp only [rows, getElem?_map_range]
    exact block_begins_iff positive even begins below

end Dump

/-- However wide its lines are and wherever it begins, there is a dump, and it accounts for every
byte. -/
theorem hexDump_accounts (title : String) {width : Nat} (positive : 0 < width) (start most : Nat)
    (data : Bytes) :
    ∃ content rows, hexDump? ⟨title, start, width, most⟩ data = some (.panel .out title content) ∧
      DumpAccount start width most data content rows := by
  have lined := @lines?_natCast title start width most data positive
  exact ⟨_, _, hexDump?_eq_some_iff.mpr ⟨_, lined, rfl⟩, account_rows positive rfl⟩

def longBytes : Bytes := [0x48, 0x65, 0x6C, 0x6C, 0x6F, 0, 1, 2, 3, 0x7E, 0x7F, 0x80, 0xFE, 0xFF]

theorem longDump_accounts :
    0 < 4 ∧ ∃ content rows, hexDump? ⟨"Hex Dump", 512, 4, 3⟩ longBytes =
        some (.panel .out "Hex Dump" content) ∧ DumpAccount 512 4 3 longBytes content rows :=
  ⟨by decide, hexDump_accounts "Hex Dump" (by decide) 512 3 longBytes⟩

end Andromeda
