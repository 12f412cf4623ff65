import OfferPolicy.Main
import OfferPolicy.Session
import OfferPolicy.Proofs.Churn.Draws
import OfferPolicy.Proofs.Command.Agreement
import OfferPolicy.Proofs.Condition.ClosingQuote
import OfferPolicy.Proofs.Condition.Numbers
import OfferPolicy.Proofs.Condition.Rejection
import OfferPolicy.Proofs.Dataset.Cap
import OfferPolicy.Proofs.Dataset.Row
import OfferPolicy.Proofs.Dataset.Source
import OfferPolicy.Proofs.Fixture
import OfferPolicy.Proofs.Policy.Blocks
import OfferPolicy.Proofs.Policy.Flowchart
import OfferPolicy.Proofs.Policy.Frame
import OfferPolicy.Proofs.Policy.LineForm
import OfferPolicy.Proofs.Policy.Numbers
import OfferPolicy.Proofs.Policy.RoundTrip
import OfferPolicy.Proofs.Rule.Append
import OfferPolicy.Proofs.Rule.Form
import OfferPolicy.Proofs.Rule.Made
import OfferPolicy.Proofs.Rule.Missing
import OfferPolicy.Proofs.Rule.Relevance
import OfferPolicy.Proofs.Rule.Threshold
import OfferPolicy.Proofs.Rule.Trace
import OfferPolicy.Proofs.Score.Bounds
import OfferPolicy.Proofs.Score.Monotone
import OfferPolicy.Proofs.Policy.Spacing
import OfferPolicy.Proofs.Policy.Capitals
import OfferPolicy.Proofs.Customer.Form
import OfferPolicy.Proofs.Command.Reports
