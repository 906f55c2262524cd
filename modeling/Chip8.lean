import Chip8.CommandLine.PlayInWindow
import Chip8.Console.Session
import Chip8.Main
import Chip8.Proofs.Addresses
import Chip8.Proofs.Arithmetic
import Chip8.Proofs.Calls
import Chip8.Proofs.Clock
import Chip8.Proofs.Coupling
import Chip8.Proofs.Dialects
import Chip8.Proofs.Disassembly
import Chip8.Proofs.Drawing
import Chip8.Proofs.Extents
import Chip8.Proofs.Failures
import Chip8.Proofs.Faults
import Chip8.Proofs.Footprint
import Chip8.Proofs.Frames
import Chip8.Proofs.Headless
import Chip8.Proofs.HeldKeys
import Chip8.Proofs.KeyLists
import Chip8.Proofs.KeyQueue
import Chip8.Proofs.KeySets
import Chip8.Proofs.KeyWait
import Chip8.Proofs.Listings
import Chip8.Proofs.Loading
import Chip8.Proofs.Pictures
import Chip8.Proofs.Punctual
import Chip8.Proofs.Releases
import Chip8.Proofs.Reset
import Chip8.Proofs.Restoring
import Chip8.Proofs.Sprites
import Chip8.Proofs.Starts
import Chip8.Proofs.Summary
import Chip8.Proofs.Symmetries
import Chip8.Proofs.Ticks
import Chip8.Proofs.Traces
import Chip8.Proofs.Turns
import Chip8.Proofs.Uploads
import Chip8.Proofs.Waves
