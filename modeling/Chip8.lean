import Chip8.Memory.Range
import Chip8.Keypad.HostKeys
import Chip8.Instruction.Text
import Chip8.Trace
import Chip8.Decimal.Shortest
import Chip8.Text.Quoted
import Chip8.Json.Skip
import Chip8.Json.Value
import Chip8.Trace.Writer
import Chip8.Trace.Reader
import Chip8.Keypad.EventText
import Chip8.Log.Filter
import Chip8.Machine.Journal
import Chip8.Image.File
import Chip8.Trace.File
import Chip8.Machine.Action
import Chip8.CommandLine.Program
import Chip8.Main
import Chip8.Proofs.Decoding
import Chip8.Proofs.Execution
import Chip8.Proofs.Cycles
import Chip8.Proofs.Faults
import Chip8.Proofs.Operations
import Chip8.Proofs.Runs
import Chip8.Proofs.Calls
import Chip8.Proofs.Bounds
import Chip8.Proofs.LiveState
import Chip8.Proofs.Effects
import Chip8.Proofs.Frame
import Chip8.Proofs.KeyEvents
import Chip8.Proofs.Checked
import Chip8.Proofs.NoPanic
import Chip8.Proofs.KeyTests
import Chip8.Proofs.JsonRoundTrip
import Chip8.Proofs.Redraw
import Chip8.Proofs.TraceRoundTrip
import Chip8.Proofs.Recording
import Chip8.Proofs.HeadlessTrace
import Chip8.Proofs.Halting
import Chip8.Proofs.KeyWait
import Chip8.Proofs.RandomStream
import Chip8.Proofs.Timers
import Chip8.Proofs.Painting
import Chip8.Proofs.PaintOrder
import Chip8.Proofs.FlagArithmetic
import Chip8.Proofs.SpriteCycle
import Chip8.Proofs.BlockMoves
import Chip8.Proofs.Divergence
import Chip8.Proofs.ImageLoads
import Chip8.Proofs.Skips
import Chip8.Proofs.BoundedStore
import Chip8.Proofs.MissingBytes
import Chip8.Proofs.DamagedTraces
import Chip8.Proofs.GlyphDrawing
