import ZMachine.Main
import ZMachine.Command.World
import ZMachine.Terminal.Script
import ZMachine.Wire.Snapshot
import ZMachine.Proofs.Action
import ZMachine.Proofs.Memory
import ZMachine.Proofs.Stack
import ZMachine.Proofs.Object.Forest
import ZMachine.Proofs.Object.Tree
import ZMachine.Proofs.Object.PropertyList
import ZMachine.Proofs.Text.Words
import ZMachine.Proofs.Text.Dictionary
import ZMachine.Proofs.Text.Parsing
import ZMachine.Proofs.Instruction.Encoding
import ZMachine.Proofs.Instruction.Scanning
import ZMachine.Proofs.Instruction.Extent
import ZMachine.Proofs.Execution.Setting
import ZMachine.Proofs.Execution.Course
import ZMachine.Proofs.Block.Refinement
import ZMachine.Proofs.Engine.Beginning
import ZMachine.Proofs.Engine.History
import ZMachine.Proofs.Engine.Coherence
import ZMachine.Proofs.Snapshot.Container
import ZMachine.Proofs.Engine.Saving
import ZMachine.Proofs.Engine.Restart
import ZMachine.Proofs.Engine.Halting
import ZMachine.Proofs.Undo
import ZMachine.Proofs.Engine.Discipline
import ZMachine.Proofs.Window
import ZMachine.Proofs.Telling
import ZMachine.Proofs.Execution.Screen
import ZMachine.Proofs.Execution.Callee
import ZMachine.Proofs.Engine.Batch
import ZMachine.Proofs.Engine.Slicing
import ZMachine.Proofs.Engine.GoingBack
import ZMachine.Proofs.Engine.Checkpoint
import ZMachine.Proofs.Engine.Rollback
import ZMachine.Proofs.Json.Number
import ZMachine.Proofs.Json.Value
import ZMachine.Proofs.Engine.Seedless
import ZMachine.Proofs.Engine.Forgetting
import ZMachine.Proofs.Snapshot.Limits
import ZMachine.Proofs.Engine.Undoing
import ZMachine.Proofs.Engine.Stopping
import ZMachine.Proofs.Window.Emission
import ZMachine.Proofs.Terminal.Echo
import ZMachine.Proofs.Engine.Line
import ZMachine.Proofs.Loop
import ZMachine.Proofs.Execution.Rounds
import ZMachine.Proofs.Execution.Settling
import ZMachine.Proofs.Execution.Ending
import ZMachine.Proofs.Arithmetic
import ZMachine.Proofs.Execution.Arithmetic
import ZMachine.Proofs.Redirection
import ZMachine.Proofs.Text.Zscii
import ZMachine.Proofs.Text.DictionaryForm
import ZMachine.Proofs.Header.Capabilities
import ZMachine.Proofs.Execution.Throwing
import ZMachine.Proofs.Snapshot.Sections
import ZMachine.Proofs.Snapshot.Truncation
import ZMachine.Proofs.Instruction.Inline
import ZMachine.Proofs.Text.Lookup
import ZMachine.Proofs.Execution.Searching
import ZMachine.Proofs.Random
