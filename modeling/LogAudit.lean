import LogAudit.Incident
import LogAudit.Main
import LogAudit.Masking.Mask
import LogAudit.Proofs.Exposure
import LogAudit.Proofs.Isolation
import LogAudit.Proofs.Joining
import LogAudit.Proofs.Noninterference
import LogAudit.Proofs.Provenance
import LogAudit.Proofs.Regions
import LogAudit.Proofs.Discovering
import LogAudit.Proofs.Rewriting
import LogAudit.Proofs.Accounting
import LogAudit.Proofs.CodeSets
import LogAudit.Proofs.Utf8
import LogAudit.Proofs.Written
import LogAudit.Proofs.Markup
import LogAudit.Proofs.Parsing
import LogAudit.Proofs.RuleDocuments
import LogAudit.Proofs.RuleFaults
import LogAudit.Proofs.Layout
import LogAudit.Proofs.Writing
import LogAudit.Proofs.Reading
import LogAudit.Proofs.Pages
import LogAudit.Proofs.ResultDocuments
import LogAudit.Proofs.Runs
import LogAudit.Proofs.Choices
import LogAudit.Proofs.Comparing
import LogAudit.Proofs.Tracking
import LogAudit.Proofs.Contents
import LogAudit.Proofs.Residues
import LogAudit.Proofs.CallNames
import LogAudit.Proofs.Cycles
import LogAudit.Proofs.Deadlines
import LogAudit.Proofs.WalkOrder
import LogAudit.Proofs.Newlines
import LogAudit.Proofs.Declarations
import LogAudit.Proofs.RuleOffences
import LogAudit.Proofs.Chronicles
import LogAudit.Proofs.ListTexts
import LogAudit.Proofs.QuotePairs
