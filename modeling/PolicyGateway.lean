import PolicyGateway.Gateway.Session
import PolicyGateway.Main
import PolicyGateway.Proofs.RuleOrder
import PolicyGateway.Proofs.SentPath
import PolicyGateway.Proofs.ShownQuery
import PolicyGateway.Proofs.Exposure
import PolicyGateway.Proofs.Referrals
import PolicyGateway.Policy.Traffic
import PolicyGateway.Proofs.Isolation
import PolicyGateway.Proofs.RequestIds
import PolicyGateway.Proofs.Relaying
import PolicyGateway.Proofs.BackendPlace
import PolicyGateway.Proofs.SettingsText
import PolicyGateway.Proofs.Accounting
import PolicyGateway.Proofs.Readiness
import PolicyGateway.Proofs.WrittenCallers
import PolicyGateway.Proofs.RequiredCallers
import PolicyGateway.Proofs.ExactRules
import PolicyGateway.Proofs.ConnectionFields
import PolicyGateway.Proofs.Specificity
import PolicyGateway.Proofs.PathGrammar
import PolicyGateway.Proofs.Selections
import PolicyGateway.Proofs.Projections
import PolicyGateway.Proofs.Previews
import PolicyGateway.Proofs.WholeRequests
import PolicyGateway.Proofs.ShownPath
import PolicyGateway.Proofs.ShownParameters
import PolicyGateway.Proofs.AnswerLength
import PolicyGateway.Proofs.AnswerReading
import PolicyGateway.Proofs.SavedTimes
