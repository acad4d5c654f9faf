import Andromeda.Assembly
import Andromeda.Block
import Andromeda.Bytes
import Andromeda.Checksum
import Andromeda.CommandLine.Command
import Andromeda.CommandLine.FileTree
import Andromeda.CommandLine.Inputs
import Andromeda.CommandLine.Options
import Andromeda.CommandLine.Path
import Andromeda.CommandLine.Report
import Andromeda.CommandLine.Run
import Andromeda.DecodeError
import Andromeda.Decoder
import Andromeda.Display.Console
import Andromeda.Display.FrameTable
import Andromeda.Display.HexDump
import Andromeda.Display.ImagePanel
import Andromeda.Display.Markup
import Andromeda.Display.Plain
import Andromeda.Display.Shown
import Andromeda.Frame
import Andromeda.Frame.Pass
import Andromeda.Image
import Andromeda.Log
import Andromeda.Main
import Andromeda.Midi.Clock
import Andromeda.Midi.Message
import Andromeda.Midi.Port
import Andromeda.Midi.Recording
import Andromeda.Number.Binary64
import Andromeda.Number.Numeral
import Andromeda.Number.Shortest
import Andromeda.Opcode
import Andromeda.Outcome
import Andromeda.Packing
import Andromeda.Setting
import Andromeda.Text.Blank
import Andromeda.Text.Hexadecimal
import Andromeda.Text.Lower
import Andromeda.Text.Padding
import Andromeda.Text.Printable
import Andromeda.Text.Quoted
import Andromeda.Update
import Andromeda.Proofs.Packing.Digits
import Andromeda.Proofs.Packing.Stream
import Andromeda.Proofs.Packing.Positional
import Andromeda.Proofs.Frame.Occurrence
import Andromeda.Proofs.Frame.Extraction
import Andromeda.Proofs.Frame.Concatenation
import Andromeda.Proofs.Block.Layout
import Andromeda.Proofs.Block.Slices
import Andromeda.Proofs.Assembly.History
import Andromeda.Proofs.Assembly.Step
import Andromeda.Proofs.Assembly.Acceptance
import Andromeda.Proofs.Assembly.Delivery
import Andromeda.Proofs.Decoder.Frames
import Andromeda.Proofs.Update.Blocks
import Andromeda.Proofs.Packing.Replacement
import Andromeda.Proofs.Update.Capture
import Andromeda.Proofs.Update.Alteration
import Andromeda.Proofs.Update.Corruption
import Andromeda.Proofs.Update.Loss
import Andromeda.Proofs.Assembly.Calls
import Andromeda.Proofs.Assembly.Halting
import Andromeda.Proofs.Assembly.Balance
import Andromeda.Proofs.Assembly.Order
import Andromeda.Proofs.Decoder.Buffers
import Andromeda.Proofs.Packing.Canonical
import Andromeda.Proofs.Decoder.RawBlocks
import Andromeda.Proofs.Decoder.Calls
import Andromeda.Proofs.Decoder.Halting
import Andromeda.Proofs.Decoder.Opcodes
import Andromeda.Proofs.Decoder.Strays
import Andromeda.Proofs.Decoder.Modes
import Andromeda.Proofs.Assembly.Offsets
import Andromeda.Proofs.CommandLine.Inputs
import Andromeda.Proofs.CommandLine.Writing
import Andromeda.Proofs.CommandLine.Showing
import Andromeda.Proofs.CommandLine.Delivery
import Andromeda.Proofs.CommandLine.Blame
import Andromeda.Proofs.CommandLine.Agreement
import Andromeda.Proofs.Midi.Readings
import Andromeda.Proofs.Midi.Rounds
import Andromeda.Proofs.Midi.Scan
import Andromeda.Proofs.Midi.Stopping
import Andromeda.Proofs.Block.WireForm
import Andromeda.Proofs.Frame.Passes
import Andromeda.Proofs.Decoder.Refusal
import Andromeda.Proofs.Strictness
import Andromeda.Proofs.Midi.Ending
import Andromeda.Proofs.Display.Markup
import Andromeda.Proofs.Text.Numerals
import Andromeda.Proofs.Text.Parts
import Andromeda.Proofs.Display.Spans
import Andromeda.Proofs.Display.Console
import Andromeda.Proofs.Display.DumpRows
import Andromeda.Proofs.Display.HexDump
import Andromeda.Proofs.Display.DumpMarkup
import Andromeda.Proofs.Display.FrameTable
import Andromeda.Proofs.Packing.Lengths
import Andromeda.Proofs.Block.Partition
import Andromeda.Proofs.Checksum.Running
import Andromeda.Proofs.Block.Version
