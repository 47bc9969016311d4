import Balancing.Client
import Balancing.Config.Encode
import Balancing.Config.Load
import Balancing.Document.Json
import Balancing.Metrics
import Balancing.Proofs.Attempt.History
import Balancing.Proofs.Attempt.Retrying
import Balancing.Proofs.Service.Frame
import Balancing.Proofs.Service.Moment
import Balancing.Proofs.Service.Ledger
import Balancing.Proofs.Service.Stray
import Balancing.Proofs.Attempt.Session
import Balancing.Proofs.Attempt.Traffic
import Balancing.Proofs.Attempt.Loop
import Balancing.Proofs.Attempt.Reports
import Balancing.Proofs.Choice.Ranking
import Balancing.Proofs.Choice.Laps
import Balancing.Proofs.Choice.Draw
import Balancing.Proofs.Service.Eligible
import Balancing.Proofs.Service.Rotation
import Balancing.Proofs.Service.Fairness
import Balancing.Proofs.Service.Exact
import Balancing.Proofs.Registry.Names
import Balancing.Proofs.Registry.Renewal
import Balancing.Proofs.Registry.Reloading
import Balancing.Proofs.Attempt.Rounds
import Balancing.Proofs.Attempt.Trace
import Balancing.Proofs.Attempt.Rewriting
import Balancing.Proofs.Numbers.Seconds
import Balancing.Proofs.Attempt.Deadline
import Balancing.Proofs.Registry.Batch
import Balancing.Proofs.Registry.Degradation
import Balancing.Proofs.Registry.Operation
import Balancing.Proofs.Registry.Refresh
import Balancing.Proofs.Text.Lowercase
import Balancing.Proofs.Registry.Safety
import Balancing.Proofs.Service.Failures
import Balancing.Proofs.Service.Separation
import Balancing.Proofs.Service.Stuck
import Balancing.Proofs.Uri.Spelling
import Balancing.Proofs.Attempt.Targets
import Balancing.Proofs.Choice.Tickets
import Balancing.Proofs.Choice.Preference
import Balancing.Proofs.Service.Rescaling
import Balancing.Proofs.Service.Matching
import Balancing.Proofs.Registry.Locality
import Balancing.Proofs.Health.Errors
import Balancing.Proofs.Health.Latencies
import Balancing.Proofs.Choice.Overflow
import Balancing.Proofs.Attempt.Arithmetic
import Balancing.Proofs.Config.Violations
import Balancing.Proofs.Retry.Rules
import Balancing.Proofs.Attempt.Factor
