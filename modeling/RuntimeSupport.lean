import RuntimeSupport.Memory.Session
import RuntimeSupport.Trial
import RuntimeSupport.Truth
import RuntimeSupport.Workload
import RuntimeSupport.Proofs.Element.Range
import RuntimeSupport.Proofs.Element.Access
import RuntimeSupport.Proofs.Format.Reading
import RuntimeSupport.Proofs.Format.Spelling
import RuntimeSupport.Proofs.Format.Emission
import RuntimeSupport.Proofs.Format.Supply
import RuntimeSupport.Proofs.Format.Form
import RuntimeSupport.Proofs.Format.Integer
import RuntimeSupport.Proofs.Format.Exactness
import RuntimeSupport.Proofs.Format.Acceptance
import RuntimeSupport.Proofs.Format.Composition
import RuntimeSupport.Proofs.Format.Parts
import RuntimeSupport.Proofs.Format.Failure
import RuntimeSupport.Proofs.Format.Single
import RuntimeSupport.Proofs.Format.Star
import RuntimeSupport.Proofs.Format.Text
import RuntimeSupport.Proofs.Format.Padding
import RuntimeSupport.Proofs.Format.InPlace
import RuntimeSupport.Proofs.Memory.Heap
import RuntimeSupport.Proofs.Memory.Writing
import RuntimeSupport.Proofs.Memory.Effect
import RuntimeSupport.Proofs.Memory.Soundness
import RuntimeSupport.Proofs.Memory.Account
import RuntimeSupport.Proofs.Memory.Independence
import RuntimeSupport.Proofs.Memory.Interleaving
import RuntimeSupport.Proofs.Sink
import RuntimeSupport.Proofs.Numeral
import RuntimeSupport.Proofs.Text.Utf8
import RuntimeSupport.Proofs.Log.Line
import RuntimeSupport.Proofs.Log.Logger
import RuntimeSupport.Proofs.Variadic
import RuntimeSupport.Proofs.Settings.Loading
import RuntimeSupport.Proofs.Settings.Environment
import RuntimeSupport.Proofs.Program.Action
import RuntimeSupport.Proofs.Program.Outcome
import RuntimeSupport.Proofs.Program.Congruence
import RuntimeSupport.Proofs.Program.Run
import RuntimeSupport.Proofs.Program.Ending
import RuntimeSupport.Proofs.Program.Printing
import RuntimeSupport.Proofs.Program.Boundary
import RuntimeSupport.Proofs.Program.Capture
import RuntimeSupport.Proofs.Program.Ownership
import RuntimeSupport.Proofs.Program.Refinement
import RuntimeSupport.Proofs.Program.BrokenOutput
import RuntimeSupport.Proofs.Program.Collapse
import RuntimeSupport.Proofs.Format.Escape
import RuntimeSupport.Proofs.Format.Respelling
import RuntimeSupport.Proofs.Memory.Resizing
import RuntimeSupport.Proofs.Program.Reallocation
import RuntimeSupport.Proofs.Memory.Copying
import RuntimeSupport.Proofs.Arguments
import RuntimeSupport.Proofs.Element.Tiling
import RuntimeSupport.Proofs.Program.Elements
import RuntimeSupport.Proofs.Program.Memory
import RuntimeSupport.Proofs.Program.Allocation
import RuntimeSupport.Proofs.Element.Overwriting
import RuntimeSupport.Proofs.Program.Stores
import RuntimeSupport.Proofs.Settings.Values
import RuntimeSupport.Proofs.Program.Host
import RuntimeSupport.Proofs.Workload
import RuntimeSupport.Proofs.Program.Warnings
import RuntimeSupport.Proofs.Format.Saturation
import RuntimeSupport.Proofs.Text.Numeral
import RuntimeSupport.Proofs.Text.Quoted
import RuntimeSupport.Proofs.Fault
import RuntimeSupport.Proofs.Program.LastWords
