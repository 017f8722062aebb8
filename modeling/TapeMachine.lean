import TapeMachine.CommandLine.Execution
import TapeMachine.Files.Tree
import TapeMachine.Format.Grammar
import TapeMachine.Format.Printer
import TapeMachine.Json.Document
import TapeMachine.Main
import TapeMachine.Tape.Lemmas
import TapeMachine.Textbook
import TapeMachine.Proofs.Tape.Refinement
import TapeMachine.Proofs.Run.Sequence
import TapeMachine.Proofs.Run.Course
import TapeMachine.Proofs.Run.Calls
import TapeMachine.Proofs.Tape.Equality
import TapeMachine.Proofs.Building
import TapeMachine.Proofs.Run.Textbook
import TapeMachine.Proofs.Run.Equality
import TapeMachine.Proofs.Format.Token
import TapeMachine.Proofs.Format.Statement
import TapeMachine.Proofs.Format.Acceptance
import TapeMachine.Proofs.CommandLine.Transcript
import TapeMachine.Proofs.Format.RoundTrip
import TapeMachine.Proofs.Catalogue.Programs
import TapeMachine.Proofs.Run.Walk
import TapeMachine.Proofs.Catalogue.Palindrome
import TapeMachine.Proofs.Run.Revisit
import TapeMachine.Proofs.Format.Padding
import TapeMachine.Proofs.Format.Joining
import TapeMachine.Proofs.Format.Placement
import TapeMachine.Proofs.Format.LineOrder
import TapeMachine.Proofs.Json.Literals
import TapeMachine.Proofs.Symbols
import TapeMachine.Proofs.Json.Symbols
import TapeMachine.Proofs.BlankSymbol
import TapeMachine.Proofs.Run.Lockstep
import TapeMachine.Proofs.Run.IdleRules
import TapeMachine.Proofs.Tape.Renaming
import TapeMachine.Proofs.Run.Renaming
import TapeMachine.Proofs.Tape.Rendering
import TapeMachine.Proofs.Run.Rendering
import TapeMachine.Proofs.Number.Rounding
import TapeMachine.Proofs.Number.Decimal
import TapeMachine.Proofs.CommandLine.Delay
import TapeMachine.Proofs.CommandLine.ExitCode
import TapeMachine.Proofs.Table
import TapeMachine.Proofs.Json.RoundTrip
import TapeMachine.Proofs.Format.Faults
import TapeMachine.Format.Tree
import TapeMachine.Format.Expression
import TapeMachine.Proofs.Format.Attempts
import TapeMachine.Proofs.Format.Expression
import TapeMachine.Proofs.Format.Trial
import TapeMachine.Proofs.Format.Furthest
import TapeMachine.Proofs.Format.Tree
import TapeMachine.Proofs.Catalogue.Increment
import TapeMachine.Proofs.Files.Loader
import TapeMachine.Proofs.CommandLine.Interaction
import TapeMachine.Proofs.CommandLine.WordSource
import TapeMachine.Proofs.Catalogue.Addition
import TapeMachine.Proofs.Files.Listing
import TapeMachine.Proofs.Run.Store
