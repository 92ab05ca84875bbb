import Antecedent.Rulebook
import Antecedent.Test.Property
import Antecedent.Proofs.Condition.Choices
import Antecedent.Proofs.Pattern.Registration
import Antecedent.Proofs.Rule.WrittenOut
import Antecedent.Proofs.Rule.ParsedText
import Antecedent.Proofs.Rule.References
import Antecedent.Proofs.Rule.WellFormed
import Antecedent.Proofs.Rulebook.Sessions
import Antecedent.Proofs.Source.RoundTrip
import Antecedent.Proofs.Source.Precedence
import Antecedent.Proofs.Source.Progress
import Antecedent.Proofs.Source.Places
import Antecedent.Proofs.Source.Signs
import Antecedent.Proofs.Source.Alongside
import Antecedent.Proofs.Source.Seams
import Antecedent.Proofs.Source.Grammar
import Antecedent.Proofs.Source.Concatenation
import Antecedent.Proofs.Condition.Leaves
import Antecedent.Proofs.Rule.IllFormed
import Antecedent.Proofs.Rule.Reordering
import Antecedent.Proofs.Source.NormalText
import Antecedent.Proofs.Source.Layout
import Antecedent.Proofs.Pattern.Contents
import Antecedent.Proofs.Rule.Renaming
import Antecedent.Proofs.Rule.Equality
import Antecedent.Proofs.Rule.Prefixes
import Antecedent.Proofs.Rule.Numbering
import Antecedent.Proofs.Clause.Order
import Antecedent.Proofs.Condition.Regrouping
import Antecedent.Proofs.Pattern.Halts
import Antecedent.Proofs.Pattern.Frame
import Antecedent.Proofs.Path.Segments
import Antecedent.Proofs.Source.Quotes
import Antecedent.Proofs.Pattern.Supply
