import LogReview.Main
import LogReview.Session
import LogReview.Proofs.Tree.Layout
import LogReview.Proofs.Tree.Tokens
import LogReview.Proofs.Tree.Chain
import LogReview.Proofs.Rule.Agreement
import LogReview.Proofs.Rule.LayoutInvariance
import LogReview.Proofs.Rule.Battery
import LogReview.Proofs.Rule.Composition
import LogReview.Proofs.Project.Contents
import LogReview.Proofs.Project.Discovery
import LogReview.Proofs.Project.Names
import LogReview.Proofs.Scan.Pool
import LogReview.Proofs.Scan.Isolation
import LogReview.Proofs.Review.Failure
import LogReview.Proofs.Session.Constancy
import LogReview.Proofs.Report.Quotation
import LogReview.Proofs.Report.Lines
import LogReview.Proofs.Project.Pattern
import LogReview.Proofs.Terminal.Message
import LogReview.Proofs.Command.Ending
import LogReview.Proofs.Rule.SilentCatch
import LogReview.Proofs.Rule.Provenance
import LogReview.Proofs.Rule.Threshold
import LogReview.Proofs.Command.Essentials
import LogReview.Proofs.Command.Independence
import LogReview.Proofs.Tree.Descent
import LogReview.Proofs.Rule.Rethrow
import LogReview.Proofs.Rule.Repetition
import LogReview.Proofs.Rule.Spelling
import LogReview.Proofs.Tree.Correspondence
import LogReview.Proofs.Tree.Enclosure
import LogReview.Proofs.Rule.Loop
import LogReview.Proofs.Rule.Excess
import LogReview.Proofs.Tree.Preorder
import LogReview.Proofs.Tree.Spans
import LogReview.Proofs.Tree.Damage
import LogReview.Proofs.Tree.Navigation
import LogReview.Proofs.Rule.DocumentOrder
import LogReview.Proofs.Tree.Rendering
import LogReview.Proofs.Tree.Operation
import LogReview.Proofs.Text.Encoding
import LogReview.Proofs.Text.LetterCase
import LogReview.Proofs.Rule.Hint
import LogReview.Proofs.Rule.MessageLength
import LogReview.Proofs.Project.Selection
import LogReview.Proofs.Project.Nearest
import LogReview.Proofs.Settings.Fields
import LogReview.Proofs.Collector.Memory
import LogReview.Proofs.Collector.Clients
import LogReview.Proofs.Project.Places
import LogReview.Proofs.Report.Determination
