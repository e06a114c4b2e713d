import SourceCheck.Inspector.Session
import SourceCheck.CommandLine.Run
import SourceCheck.Main
import SourceCheck.Proofs.Text.Bookkeeping
import SourceCheck.Proofs.Grammar.Parentheses
import SourceCheck.Proofs.Scan.FirstFlaw
import SourceCheck.Proofs.Scan.LineBreak
import SourceCheck.Proofs.Scan.LineEnds
import SourceCheck.Proofs.Scan.Order
import SourceCheck.Proofs.Scan.Parts
import SourceCheck.Proofs.Check.Layout
import SourceCheck.Proofs.Check.Locality
import SourceCheck.Proofs.Check.LineEnds
import SourceCheck.Proofs.Inspector.AtError
import SourceCheck.Proofs.Inspector.Bounds
import SourceCheck.Proofs.Inspector.CurrentLine
import SourceCheck.Proofs.Inspector.Caret
import SourceCheck.Proofs.Inspector.Tones
import SourceCheck.Proofs.Inspector.Agreement
import SourceCheck.Proofs.CommandLine.Listing
import SourceCheck.Proofs.Check.Pulls
import SourceCheck.Proofs.Check.Outline
import SourceCheck.Proofs.Check.Progress
import SourceCheck.Proofs.Grammar.Expectation
import SourceCheck.Proofs.Inspector.Colours
import SourceCheck.Proofs.Inspector.Window
import SourceCheck.Proofs.Inspector.Arrows
import SourceCheck.Proofs.Inspector.Selection
import SourceCheck.Proofs.Inspector.CaretColumn
import SourceCheck.Proofs.Inspector.Scrolling
import SourceCheck.Proofs.Inspector.Slices
import SourceCheck.Proofs.Inspector.TokenRows
