import ParserGraph.Main
import ParserGraph.Parser.Display
import ParserGraph.Proofs.Parser.FurthestFailure
import ParserGraph.Proofs.Parser.Labels
import ParserGraph.Proofs.Parser.Laws
import ParserGraph.Proofs.Parser.Likeness
import ParserGraph.Proofs.Parser.Loops
import ParserGraph.Proofs.Parser.PassedText
import ParserGraph.Proofs.Parser.Shifting
import ParserGraph.Proofs.Parser.Termination
import ParserGraph.Proofs.Parser.Truncation
import ParserGraph.Proofs.Parser.Values
import ParserGraph.Proofs.Report.Header
import ParserGraph.Proofs.Transform.Joins
import ParserGraph.Proofs.Transform.Numbers
import ParserGraph.Proofs.Tree.Commuting
import ParserGraph.Proofs.Tree.Dropping
import ParserGraph.Proofs.Tree.EmptyUpdates
import ParserGraph.Proofs.Tree.Reasons
import ParserGraph.Proofs.Tree.Refinement
import ParserGraph.Proofs.Tree.Refusals
import ParserGraph.Proofs.Tree.Shortcut
import ParserGraph.Proofs.Tree.Splicing
import ParserGraph.Proofs.Tree.Termination
import ParserGraph.Proofs.Tree.Undoing
import ParserGraph.Proofs.Wire.NormalForms
import ParserGraph.Proofs.Wire.Replay
import ParserGraph.Wire.Outcome
