import MenuLine.Editing
import MenuLine.Main
import MenuLine.Stream.Relay
import MenuLine.Network
import MenuLine.Proofs.Relay
import MenuLine.Proofs.Network
import MenuLine.Proofs.Schedule
import MenuLine.Proofs.Progress
import MenuLine.Proofs.Evaluation
import MenuLine.Proofs.Grammar
import MenuLine.Proofs.Layout
import MenuLine.Proofs.Respelling
import MenuLine.Statement.DescriptionGrammar
import MenuLine.Proofs.Separation
import MenuLine.Proofs.Sequencing
import MenuLine.Proofs.Requoting
import MenuLine.Proofs.Suggestion
import MenuLine.Proofs.ByteOrder
import MenuLine.Proofs.SuggestionList
import MenuLine.Proofs.MenuPath
import MenuLine.Proofs.Agreement
import MenuLine.Proofs.CanonicalText
import MenuLine.Job
import MenuLine.Proofs.Joining
import MenuLine.Proofs.Editing
import MenuLine.Proofs.SuggestedLines
import MenuLine.Proofs.HalfTyped
import MenuLine.Proofs.Regularity
import MenuLine.Proofs.StartUp
import MenuLine.Proofs.ExitStatus
import MenuLine.Proofs.Matching
import MenuLine.Proofs.Selection
import MenuLine.Proofs.Arguments
import MenuLine.Proofs.Continuation
import MenuLine.Proofs.Finishing
import MenuLine.Checked
import MenuLine.Proofs.Checked
import MenuLine.Catalog
import MenuLine.Proofs.Registration
import MenuLine.Proofs.Thorough
import MenuLine.Proofs.Outcome
import MenuLine.Proofs.Simulation
import MenuLine.Proofs.Routing
import MenuLine.Proofs.Quoting
import MenuLine.Proofs.LineSelection
import MenuLine.Proofs.Prompt
import MenuLine.Proofs.ShownWord
