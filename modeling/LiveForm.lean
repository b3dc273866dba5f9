import LiveForm.Main
import LiveForm.Trace.Sink
import LiveForm.Proofs.Evaluation.Convergence
import LiveForm.Proofs.Panel.Flags
import LiveForm.Proofs.Panel.Mirror
import LiveForm.Proofs.Evaluation.Calls
import LiveForm.Proofs.Evaluation.Containment
import LiveForm.Proofs.Evaluation.Rest
import LiveForm.Proofs.Evaluation.Stale
import LiveForm.Proofs.Panel.Rest
import LiveForm.Proofs.Evaluation.Checked
import LiveForm.Proofs.Panel.Integrity
import LiveForm.Proofs.Decimal.Exact
import LiveForm.Proofs.Decimal.Order
import LiveForm.Proofs.Form.Range
import LiveForm.Proofs.Panel.Range
import LiveForm.Proofs.Panel.Stale
import LiveForm.Proofs.Evaluation.Cap
import LiveForm.Proofs.Form.Values
import LiveForm.Proofs.Panel.Baseline
import LiveForm.Proofs.Hook.Renewal
import LiveForm.Proofs.Panel.Compilation
import LiveForm.Proofs.Panel.WriteBack
import LiveForm.Proofs.Panel.Accounting
import LiveForm.Proofs.Form.Document
import LiveForm.Proofs.Evaluation.Anew
import LiveForm.Proofs.Evaluation.Precedence
import LiveForm.Proofs.Panel.Copies
import LiveForm.Proofs.Evaluation.Dirty
import LiveForm.Proofs.Evaluation.Stages
import LiveForm.Proofs.Json.Agreement
import LiveForm.Proofs.Form.Respect
import LiveForm.Proofs.Form.Exactness
import LiveForm.Proofs.Form.Clamping
import LiveForm.Proofs.Panel.Untouched
import LiveForm.Proofs.Evaluation.Options
import LiveForm.Proofs.Form.Template
import LiveForm.Proofs.Panel.ActionCheck
import LiveForm.Proofs.Json.RoundTrip
import LiveForm.Proofs.Form.Assignment
import LiveForm.Proofs.Trace.Deliveries
