import TraceAudit.Main
import TraceAudit.Program.FileSystem
import TraceAudit.Proofs.Analysis.Accounting
import TraceAudit.Proofs.Analysis.Bounds
import TraceAudit.Proofs.Analysis.Enforcement
import TraceAudit.Proofs.Analysis.Extension
import TraceAudit.Proofs.Analysis.Fingerprint
import TraceAudit.Proofs.Analysis.KeyNames
import TraceAudit.Proofs.Analysis.Order
import TraceAudit.Proofs.Analysis.Printout
import TraceAudit.Proofs.Analysis.Segments
import TraceAudit.Proofs.Analysis.Spacing
import TraceAudit.Proofs.Program.Failures
import TraceAudit.Proofs.Report.RoundTrip
import TraceAudit.Proofs.Rules.Reach
import TraceAudit.Proofs.Rules.Spellings
import TraceAudit.Proofs.Sql.NormalForms
import TraceAudit.Proofs.Sql.Rewriting
import TraceAudit.Proofs.Sql.Statements
import TraceAudit.Proofs.Sql.ThreeValued
import TraceAudit.Proofs.Trace.Commands
import TraceAudit.Proofs.Trace.Ingestion
