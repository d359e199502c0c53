import CircuitScript.Circuit.Join
import CircuitScript.Circuit.Simulation
import CircuitScript.Gate.Printer
import CircuitScript.Main
import CircuitScript.Proofs.Angle
import CircuitScript.Proofs.Angle.Negation
import CircuitScript.Proofs.Angle.Radians
import CircuitScript.Proofs.Branches
import CircuitScript.Proofs.Circuit.AdjointConcat
import CircuitScript.Proofs.Circuit.AdjointSemantics
import CircuitScript.Proofs.Circuit.AdjointSymbols
import CircuitScript.Proofs.Circuit.AdjointTwice
import CircuitScript.Proofs.Circuit.AngleRange
import CircuitScript.Proofs.Circuit.Append
import CircuitScript.Proofs.Circuit.Blocks
import CircuitScript.Proofs.Circuit.FirstFault
import CircuitScript.Proofs.Circuit.Join
import CircuitScript.Proofs.Circuit.Legality
import CircuitScript.Proofs.Circuit.Lines
import CircuitScript.Proofs.Circuit.Loading
import CircuitScript.Proofs.Circuit.Overwriting
import CircuitScript.Proofs.Circuit.Picture
import CircuitScript.Proofs.Circuit.QubitRange
import CircuitScript.Proofs.Circuit.Saving
import CircuitScript.Proofs.Circuit.SharedSink
import CircuitScript.Proofs.Circuit.Slice
import CircuitScript.Proofs.Circuit.Stride
import CircuitScript.Proofs.Circuit.Symbols
import CircuitScript.Proofs.Circuit.TextBuilt
import CircuitScript.Proofs.Circuit.Typed
import CircuitScript.Proofs.Circuit.Writing
import CircuitScript.Proofs.CommandLine.ParameterText
import CircuitScript.Proofs.CommandLine.Pipeline
import CircuitScript.Proofs.CommandLine.Runs
import CircuitScript.Proofs.Control
import CircuitScript.Proofs.Decimal
import CircuitScript.Proofs.Decimal.Finite
import CircuitScript.Proofs.Decimal.Overflow
import CircuitScript.Proofs.Decimal.Rounding
import CircuitScript.Proofs.Decimal.Shortest
import CircuitScript.Proofs.Decimal.Written
import CircuitScript.Proofs.Denotation
import CircuitScript.Proofs.Directory
import CircuitScript.Proofs.Format
import CircuitScript.Proofs.Gate.Distance
import CircuitScript.Proofs.Gate.Exact
import CircuitScript.Proofs.Gate.KernelCalls
import CircuitScript.Proofs.Gate.Turn
import CircuitScript.Proofs.Gate.Uniform
import CircuitScript.Proofs.Gate.Unitary
import CircuitScript.Proofs.Grammar
import CircuitScript.Proofs.OneLine
import CircuitScript.Proofs.Placeholder
import CircuitScript.Proofs.Placeholder.Lexeme
import CircuitScript.Proofs.Placeholder.Reading
import CircuitScript.Proofs.ReadBack
import CircuitScript.Proofs.Reader
import CircuitScript.Proofs.Spelling
import CircuitScript.Proofs.Stateful
import CircuitScript.Proofs.Text.Fields
import CircuitScript.Proofs.Text.Lexer
import CircuitScript.Proofs.Text.Plain
import CircuitScript.Proofs.Text.Significant
import CircuitScript.Proofs.Text.Trimmed
import CircuitScript.Proofs.WellFormed
