import DocumentRules.Archive.Blob
import DocumentRules.Archive.Codec
import DocumentRules.Archive.Digest
import DocumentRules.Archive.Files
import DocumentRules.Archive.Varint
import DocumentRules.Collection.SortedSet
import DocumentRules.Condition.Field
import DocumentRules.Condition.Operator
import DocumentRules.Condition.Reduction
import DocumentRules.Condition.Structure
import DocumentRules.Condition.Token
import DocumentRules.Condition.Validation
import DocumentRules.Condition.Value
import DocumentRules.Disk.FileEvaluation
import DocumentRules.Disk.SlashPath
import DocumentRules.Disk.Volume
import DocumentRules.Evaluation.Answering
import DocumentRules.Evaluation.FormField
import DocumentRules.Evaluation.NodeView
import DocumentRules.Evaluation.PathScope
import DocumentRules.Evaluation.Search
import DocumentRules.Evaluation.Version
import DocumentRules.Form.Fields
import DocumentRules.Form.Selection
import DocumentRules.History.CommitLog
import DocumentRules.History.Inquiry
import DocumentRules.History.Memo
import DocumentRules.History.Query
import DocumentRules.Project.Node
import DocumentRules.Project.Tree
import DocumentRules.Proofs.Archive.Alteration
import DocumentRules.Proofs.Archive.Extent
import DocumentRules.Proofs.Archive.Frame
import DocumentRules.Proofs.Archive.Freshness
import DocumentRules.Proofs.Archive.Numbers
import DocumentRules.Proofs.Archive.Parts
import DocumentRules.Proofs.Archive.RoundTrip
import DocumentRules.Proofs.Collection.StableSort
import DocumentRules.Proofs.Condition.Acceptance
import DocumentRules.Proofs.Condition.Agreement
import DocumentRules.Proofs.Condition.Brackets
import DocumentRules.Proofs.Condition.Chains
import DocumentRules.Proofs.Condition.Expressions
import DocumentRules.Proofs.Condition.Faults
import DocumentRules.Proofs.Condition.Grammar
import DocumentRules.Proofs.Condition.GroupReplacement
import DocumentRules.Proofs.Condition.Groups
import DocumentRules.Proofs.Condition.Lockstep
import DocumentRules.Proofs.Condition.Matching
import DocumentRules.Proofs.Condition.Monotone
import DocumentRules.Proofs.Condition.Passes
import DocumentRules.Proofs.Condition.Stance
import DocumentRules.Proofs.Condition.Surroundings
import DocumentRules.Proofs.Condition.TruthChains
import DocumentRules.Proofs.Disk.Agreement
import DocumentRules.Proofs.Disk.FileSpelling
import DocumentRules.Proofs.Disk.Following
import DocumentRules.Proofs.Disk.Mirror
import DocumentRules.Proofs.Disk.Outside
import DocumentRules.Proofs.Evaluation.Containment
import DocumentRules.Proofs.Evaluation.Descent
import DocumentRules.Proofs.Evaluation.LogCuts
import DocumentRules.Proofs.Evaluation.Scope
import DocumentRules.Proofs.Evaluation.Searches
import DocumentRules.Proofs.Evaluation.Spelling
import DocumentRules.Proofs.Form.CheckLists
import DocumentRules.Proofs.Form.Choices
import DocumentRules.Proofs.Form.Items
import DocumentRules.Proofs.History.Remembered
import DocumentRules.Proofs.History.Requests
import DocumentRules.Proofs.History.Sequencing
import DocumentRules.Proofs.Project.Ancestry
import DocumentRules.Proofs.Project.Ascent
import DocumentRules.Proofs.Project.Copies
import DocumentRules.Proofs.Project.Growth
import DocumentRules.Proofs.Project.Links
import DocumentRules.Proofs.Project.Numbering
import DocumentRules.Proofs.Project.Placement
import DocumentRules.Proofs.Project.Preorder
import DocumentRules.Proofs.Project.ResourcePaths
import DocumentRules.Proofs.Project.Routes
import DocumentRules.Proofs.Project.Subtree
import DocumentRules.Proofs.Project.Walks
import DocumentRules.Proofs.Report.Bounds
import DocumentRules.Proofs.Report.Endings
import DocumentRules.Proofs.Report.Exactness
import DocumentRules.Proofs.Report.Expansion
import DocumentRules.Proofs.Report.Failure
import DocumentRules.Proofs.Report.FormScope
import DocumentRules.Proofs.Report.Lifetime
import DocumentRules.Proofs.Report.Outcome
import DocumentRules.Proofs.Report.Remembering
import DocumentRules.Proofs.Report.Restriction
import DocumentRules.Proofs.Report.Sorting
import DocumentRules.Proofs.Text.ByteOrder
import DocumentRules.Proofs.Text.CaseVariants
import DocumentRules.Proofs.Text.IntegerLiterals
import DocumentRules.Proofs.Text.LowercaseContext
import DocumentRules.Proofs.Text.Segments
import DocumentRules.Proofs.Text.Utf8
import DocumentRules.Proofs.Text.Words
import DocumentRules.Report.Configured
import DocumentRules.Report.Entry
import DocumentRules.Report.Order
import DocumentRules.Report.Rule
import DocumentRules.Report.Run
import DocumentRules.Settings.Reader
import DocumentRules.Settings.Settings
import DocumentRules.Text.Blank
import DocumentRules.Text.CaseFold
import DocumentRules.Text.Integer
import DocumentRules.Text.Lowercase
import DocumentRules.Text.RangeTable
import DocumentRules.Text.Search
import DocumentRules.Text.Segments
import DocumentRules.Text.Utf8
import DocumentRules.Text.WordCharacter
