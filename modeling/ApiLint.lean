import ApiLint.Main
import ApiLint.Proofs.Outcome
import ApiLint.Proofs.Issues
import ApiLint.Proofs.Routing
import ApiLint.Proofs.Writable
import ApiLint.Proofs.Addressing
import ApiLint.Proofs.Completion
import ApiLint.Proofs.Entries
import ApiLint.Proofs.Site
import ApiLint.Proofs.OptOut
import ApiLint.Proofs.Violations
import ApiLint.Proofs.Locality
import ApiLint.Proofs.Simulation
import ApiLint.Proofs.WellFormed
import ApiLint.Proofs.Reordering
import ApiLint.Proofs.TextKeys
import ApiLint.Proofs.Locator
import ApiLint.Proofs.Identity
import ApiLint.Proofs.Coverage
import ApiLint.Proofs.JsonReading
import ApiLint.Proofs.Searches
import ApiLint.Proofs.ConfigLoading
import ApiLint.Proofs.Preparation
import ApiLint.Proofs.DocumentLoading
import ApiLint.Proofs.ExitStatus
import ApiLint.Proofs.JsonWriting
import ApiLint.Proofs.PlainTable
import ApiLint.Proofs.Reports
import ApiLint.Proofs.Precedence
import ApiLint.Proofs.BareMapping
import ApiLint.Proofs.ParameterOrder
import ApiLint.Proofs.Inlining
import ApiLint.Proofs.Content
import ApiLint.Proofs.FileTrees
import ApiLint.Proofs.Replacing
import ApiLint.Proofs.PlainForm
import ApiLint.Proofs.Installation
import ApiLint.Proofs.Acceptance
import ApiLint.Proofs.PointerTexts
import ApiLint.Proofs.Conversions
import ApiLint.Proofs.FormatHints
import ApiLint.Proofs.TerminalText
import ApiLint.Proofs.Layout
import ApiLint.Proofs.BoxedTable
import ApiLint.Proofs.TableReading
import ApiLint.Proofs.RuleListing
import ApiLint.Proofs.Listing
