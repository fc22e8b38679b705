import Gosub.Console.Basic
import Gosub.Console.CommandLine
import Gosub.Environment.Basic
import Gosub.Evaluation.Expression
import Gosub.Fault
import Gosub.Machine.Script
import Gosub.Machine.World
import Gosub.Main
import Gosub.Program.Basic
import Gosub.Statement.Execution
import Gosub.Proofs.Machine.Conditionals
import Gosub.Proofs.Machine.Runs
import Gosub.Proofs.Machine.Subroutines
import Gosub.Proofs.Environment.Memory
import Gosub.Proofs.Machine.Limits
import Gosub.Proofs.Machine.Loops
import Gosub.Proofs.Machine.Termination
import Gosub.Proofs.Evaluation.Arithmetic
import Gosub.Proofs.Token.Lexemes
import Gosub.Proofs.Evaluation.Substitution
import Gosub.Proofs.Number.Rounding
import Gosub.Proofs.Number.Shortest
import Gosub.Proofs.Number.ReadBack
import Gosub.Proofs.Program.SourceLines
import Gosub.Proofs.Token.Cuts
import Gosub.Proofs.Program.Listing
import Gosub.Proofs.Evaluation.Expressions
import Gosub.Proofs.Program.Remarks
import Gosub.Proofs.Machine.Relocation
import Gosub.Proofs.Machine.Histories
import Gosub.Proofs.Machine.Remarks
import Gosub.Proofs.Evaluation.Faults
import Gosub.Proofs.Evaluation.Operands
import Gosub.Proofs.Statement.Reports
import Gosub.Proofs.Machine.Reports
import Gosub.Proofs.Machine.Rosters
import Gosub.Proofs.Statement.Failures
import Gosub.Proofs.Machine.Failures
import Gosub.Proofs.Machine.Modes
import Gosub.Proofs.Statement.Tokens
import Gosub.Proofs.Statement.Writes
import Gosub.Proofs.Environment.Names
import Gosub.Proofs.Machine.LoopVariables
import Gosub.Proofs.Machine.SharedNames
import Gosub.Proofs.Environment.Views
import Gosub.Proofs.Statement.Views
import Gosub.Proofs.Machine.Views
import Gosub.Proofs.Machine.Namespaces
import Gosub.Proofs.Machine.Unmentioned
import Gosub.Proofs.Environment.Cells
import Gosub.Proofs.Machine.Chains
import Gosub.Proofs.Machine.Walks
import Gosub.Proofs.Machine.ErrorLines
import Gosub.Proofs.Number.Order
import Gosub.Proofs.Number.Naturals
import Gosub.Proofs.Evaluation.Comparison
import Gosub.Proofs.Statement.Targets
import Gosub.Proofs.Evaluation.Brackets
import Gosub.Proofs.Evaluation.Groups
import Gosub.Proofs.Evaluation.References
import Gosub.Proofs.Evaluation.Overflow
