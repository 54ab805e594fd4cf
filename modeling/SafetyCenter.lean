import SafetyCenter.Catalogue.File
import SafetyCenter.Proofs.Id.Code
import SafetyCenter.Proofs.Ledger.History
import SafetyCenter.Proofs.Ledger.Locality
import SafetyCenter.Scenario.Play
import SafetyCenter.Settings.Layers
import SafetyCenter.Proofs.Center.Locality
import SafetyCenter.Proofs.Center.Delivery
import SafetyCenter.Proofs.Center.Noninterference
import SafetyCenter.Proofs.Center.Interleaving
import SafetyCenter.Proofs.Center.NoLostUpdate
import SafetyCenter.Proofs.Ledger.Lookup
import SafetyCenter.Proofs.Center.Journal
import SafetyCenter.Proofs.Center.Refusal
import SafetyCenter.Proofs.Ledger.Presentation
import SafetyCenter.Proofs.Center.Progress
import SafetyCenter.Proofs.Center.SinkDiscipline
import SafetyCenter.Proofs.Center.Setting
import SafetyCenter.Proofs.Ledger.Dismissal
import SafetyCenter.Proofs.Center.Inactivity
import SafetyCenter.Proofs.Center.Actionable
import SafetyCenter.Proofs.Center.Coverage
import SafetyCenter.Proofs.Scenario.Refresh
import SafetyCenter.Proofs.Scenario.Course
import SafetyCenter.Proofs.Scenario.Conduct
import SafetyCenter.Proofs.Scenario.Listening
import SafetyCenter.Proofs.Scenario.Contact
import SafetyCenter.Proofs.Scenario.Reentry
import SafetyCenter.Proofs.Center.Timeline
import SafetyCenter.Proofs.Center.Broadcast
import SafetyCenter.Proofs.Center.Toggle
import SafetyCenter.Proofs.Center.Watcher
import SafetyCenter.Proofs.Scenario.Handover
import SafetyCenter.Proofs.Ledger.Independence
import SafetyCenter.Proofs.Ledger.Accounting
import SafetyCenter.Proofs.Center.Accounting
import SafetyCenter.Proofs.Ledger.IssueOnly
import SafetyCenter.Proofs.Center.Sharing
import SafetyCenter.Proofs.Ledger.Idempotence
import SafetyCenter.Proofs.Ledger.Effect
import SafetyCenter.Proofs.Center.Notification
import SafetyCenter.Proofs.Center.Confinement
import SafetyCenter.Proofs.Subscriptions.History
import SafetyCenter.Proofs.Catalogue.Loading
import SafetyCenter.Proofs.Ledger.Acceptance
import SafetyCenter.Proofs.Scenario.Isolation
import SafetyCenter.Proofs.Id.Prefix
import SafetyCenter.Proofs.Settings.Precedence
