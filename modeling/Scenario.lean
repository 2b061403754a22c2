import Scenario.Main
import Scenario.Path.Navigation
import Scenario.Path.Session
import Scenario.Proofs.Matcher.WellFormed
import Scenario.Proofs.Matcher.Grammar
import Scenario.Proofs.Matcher.Literal
import Scenario.Proofs.Matcher.Acceptance
import Scenario.Proofs.Matcher.Canonical
import Scenario.Proofs.Correlation.Entries
import Scenario.Proofs.Correlation.Interleaving
import Scenario.Proofs.Correlation.Ledger
import Scenario.Proofs.Correlation.Clock
import Scenario.Proofs.Correlation.Polling
import Scenario.Proofs.Path.Suffix
import Scenario.Proofs.Path.Split
import Scenario.Proofs.Path.Rejoin
import Scenario.Proofs.Correlation.Recency
import Scenario.Proofs.Path.Pointer
import Scenario.Proofs.Path.Concatenation
import Scenario.Proofs.Path.Address
import Scenario.Proofs.Matcher.Inlining
import Scenario.Proofs.Correlation.Scheduling
import Scenario.Proofs.Correlation.Isolation
import Scenario.Proofs.Correlation.Capacity
import Scenario.Proofs.Correlation.Passage
import Scenario.Proofs.Correlation.Sharing
import Scenario.Proofs.Matcher.Resumption
import Scenario.Proofs.Matcher.Extension
import Scenario.Proofs.Matcher.Evidence
import Scenario.Proofs.Matcher.NestedCall
import Scenario.Proofs.Unicode.Membership
import Scenario.Proofs.Matcher.IgnoringCase
import Scenario.Proofs.Matcher.IntegerMembership
import Scenario.Proofs.Matcher.WholeMatch
import Scenario.Proofs.Matcher.Validation
import Scenario.Proofs.Scope.Substitution
import Scenario.Proofs.Scope.Joining
import Scenario.Proofs.Path.Failure
import Scenario.Proofs.Matcher.EqualValues
import Scenario.Proofs.Matcher.Negation
import Scenario.Proofs.Matcher.NullChecks
import Scenario.Proofs.Text.Offset
import Scenario.Proofs.Path.Boundary
import Scenario.Proofs.Correlation.Budget
import Scenario.Proofs.Scope.Bindings
import Scenario.Proofs.CommandLine.Evaluation
