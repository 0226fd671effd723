import Brainfuck.Main
import Brainfuck.Runner
import Brainfuck.Proofs.Tape
import Brainfuck.Proofs.Block
import Brainfuck.Proofs.Bracket
import Brainfuck.Proofs.Program
import Brainfuck.Proofs.Evaluation
import Brainfuck.Proofs.Session.Run
import Brainfuck.Proofs.Endpoints
import Brainfuck.Proofs.Session.Execution
import Brainfuck.Proofs.Session.Adequacy
import Brainfuck.Proofs.Refinement
import Brainfuck.Proofs.Optimization
import Brainfuck.Proofs.Session.Optimized
import Brainfuck.Proofs.Session.Recovery
import Brainfuck.Proofs.Session.Invariant
import Brainfuck.Proofs.Session.Bound
import Brainfuck.Proofs.Session.Rerun
import Brainfuck.Proofs.Runner
import Brainfuck.Proofs.Session.Resumption
import Brainfuck.Proofs.Session.Mirror
import Brainfuck.Proofs.Session.Observation
import Brainfuck.Proofs.Debugger
import Brainfuck.Proofs.Session.Refusal
import Brainfuck.Proofs.Session.Ledger
import Brainfuck.Proofs.Config
import Brainfuck.Proofs.CommandLine.Agreement
import Brainfuck.Proofs.Session.Stretch
import Brainfuck.Proofs.Builder
import Brainfuck.Proofs.Copies
import Brainfuck.Proofs.Setting
import Brainfuck.Proofs.Settings
import Brainfuck.Proofs.Settings.Refusal
import Brainfuck.Proofs.Settings.Number
import Brainfuck.Proofs.Spelling
import Brainfuck.Proofs.Settings.Environment
import Brainfuck.Proofs.CommandLine.Precedence
import Brainfuck.Proofs.Session.Coded
import Brainfuck.Proofs.CommandLine.Exit
import Brainfuck.Proofs.Depth
import Brainfuck.Proofs.Loops
import Brainfuck.Proofs.Matching
import Brainfuck.Proofs.Folding
import Brainfuck.Proofs.Reduction
import Brainfuck.Proofs.Skeleton
import Brainfuck.Proofs.Tape.Window
import Brainfuck.Proofs.Debugger.View
import Brainfuck.Proofs.Tape.History
import Brainfuck.Proofs.Endpoints.Queue
