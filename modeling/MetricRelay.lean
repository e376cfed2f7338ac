import MetricRelay.Main
import MetricRelay.Proofs.Exposition.RoundTrip
import MetricRelay.Proofs.Translation.Conservation
import MetricRelay.Proofs.Translation.Filtering
import MetricRelay.Proofs.Retry.Attempts
import MetricRelay.Proofs.Submission.Account
import MetricRelay.Proofs.Submission.Accounting
import MetricRelay.Proofs.Exposition.Contributions
import MetricRelay.Proofs.Exposition.Index
import MetricRelay.Proofs.Exposition.Keeping
import MetricRelay.Proofs.Cycle.Account
import MetricRelay.Proofs.Cycle.Coverage
import MetricRelay.Proofs.Tag.Canonical
import MetricRelay.Proofs.Tag.Limits
import MetricRelay.Proofs.Batch.Fit
import MetricRelay.Proofs.Batch.Run
import MetricRelay.Proofs.Binary64.Order
import MetricRelay.Proofs.Translation.Exits
import MetricRelay.Proofs.Translation.Observations
import MetricRelay.Proofs.Exposition.EmptyLabels
import MetricRelay.Proofs.Exposition.Agreement
import MetricRelay.Proofs.Exposition.Commuting
import MetricRelay.Proofs.Exposition.LineOrder
import MetricRelay.Proofs.Translation.Agreement
import MetricRelay.Proofs.Translation.LineOrder
import MetricRelay.Proofs.Collection.Covers
import MetricRelay.Proofs.Submission.Secrecy
import MetricRelay.Proofs.Config.Precedence
import MetricRelay.Proofs.Json.Numerals
import MetricRelay.Proofs.Batch.Payload
import MetricRelay.Proofs.Translation.Repetition
import MetricRelay.Proofs.NodeConditions
import MetricRelay.Proofs.Translation.Reduction
import MetricRelay.Proofs.Exposition.SampleGrammar
import MetricRelay.Proofs.Batch.Writing
import MetricRelay.Proofs.Retry.Backoff
import MetricRelay.Proofs.Sample.Conversion
import MetricRelay.Proofs.Tag.Decoded
import MetricRelay.Proofs.Exposition.FirstFault
import MetricRelay.Proofs.Exposition.ValidIndex
import MetricRelay.Proofs.Config.MissingField
