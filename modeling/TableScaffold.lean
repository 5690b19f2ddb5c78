import TableScaffold.Proofs.Text.Ascii
import TableScaffold.Main
import TableScaffold.Schema.Load
import TableScaffold.Value.Json
import TableScaffold.Proofs.Sql.Part
import TableScaffold.Proofs.Sql.Reading
import TableScaffold.Proofs.Sql.Type
import TableScaffold.Proofs.Sql.Entry
import TableScaffold.Proofs.Sql.Script
import TableScaffold.Proofs.Decimal.Whole
import TableScaffold.Proofs.Sql.Declared
import TableScaffold.Proofs.Definition.Tree
import TableScaffold.Proofs.Sql.RoundTrip
import TableScaffold.Proofs.Artifact.Content
import TableScaffold.Proofs.Artifact.Imports
import TableScaffold.Proofs.Attempt
import TableScaffold.Proofs.Extraction.FieldNames
import TableScaffold.Proofs.Template.Reading
import TableScaffold.Proofs.Disk.Parts
import TableScaffold.Proofs.Disk.Growth
import TableScaffold.Proofs.Artifact.Paths
import TableScaffold.Proofs.Disk.Faults
import TableScaffold.Proofs.Host.Machine
import TableScaffold.Proofs.Generation.Lazy
import TableScaffold.Proofs.Generation.Prefix
import TableScaffold.Proofs.Generation.Run
import TableScaffold.Proofs.Decimal.Digits
import TableScaffold.Proofs.Sql.Convert
import TableScaffold.Proofs.Artifact.NulCharacter
import TableScaffold.Proofs.Generation.Failure
import TableScaffold.Proofs.Text.CaseMap
import TableScaffold.Proofs.Path.Reshaped
import TableScaffold.Proofs.Artifact.Inside
import TableScaffold.Proofs.Artifact.Distinct
import TableScaffold.Proofs.Extraction.Accounts
import TableScaffold.Proofs.Sql.Written
import TableScaffold.Proofs.Sql.Dialects
import TableScaffold.Proofs.Sql.Alike
import TableScaffold.Proofs.Sql.Alike.Expression
import TableScaffold.Proofs.Sql.Alike.Name
import TableScaffold.Proofs.Sql.Alike.Clause
import TableScaffold.Proofs.Sql.Alike.Entry
import TableScaffold.Proofs.Sql.Alike.Statement
import TableScaffold.Proofs.Sql.Boundary
import TableScaffold.Proofs.Sql.Exchange
import TableScaffold.Proofs.Sql.Remarks
import TableScaffold.Proofs.Sql.Alike.Moved
import TableScaffold.Proofs.Sql.Alike.Place
import TableScaffold.Proofs.Sql.Alike.Commented
import TableScaffold.Proofs.Sql.Kinds
import TableScaffold.Proofs.Extraction.Acceptance
import TableScaffold.Proofs.Extraction.Joined
import TableScaffold.Proofs.Extraction.Commented
import TableScaffold.Proofs.Artifact.Dependence
import TableScaffold.Proofs.Host.Watched
import TableScaffold.Proofs.Generation.Watched
import TableScaffold.Proofs.Generation.Rejected
import TableScaffold.Proofs.Disk.Joined
import TableScaffold.Proofs.Generation.Neighbours
import TableScaffold.Proofs.Extraction.References
import TableScaffold.Proofs.Extraction.Columns
import TableScaffold.Proofs.Artifact.Classes
import TableScaffold.Proofs.Settings.Fields
import TableScaffold.Proofs.Settings.Load
import TableScaffold.Proofs.Settings.Priority
import TableScaffold.Proofs.Naming.CamelCase
import TableScaffold.Proofs.Artifact.Client
import TableScaffold.Proofs.Text.SmallForm
import TableScaffold.Proofs.Extraction.RelatedModel
import TableScaffold.Proofs.View.FirstColumns
import TableScaffold.Proofs.View.Projections
import TableScaffold.Proofs.Yaml.Faults
import TableScaffold.Proofs.Settings.Failure
import TableScaffold.Proofs.Text.Letters
import TableScaffold.Proofs.Decimal.Numeral
import TableScaffold.Proofs.Definition.Spelling
import TableScaffold.Proofs.Naming.WordBreaks
import TableScaffold.Proofs.Text.LowerCase
import TableScaffold.Proofs.Naming.FileName
import TableScaffold.Proofs.Sql.Literal
import TableScaffold.Proofs.Sql.Layout
import TableScaffold.Proofs.Sql.Constraint
import TableScaffold.Proofs.Sql.KeyClause
import TableScaffold.Proofs.Sql.Constrained
import TableScaffold.Proofs.Extraction.LetterCase
import TableScaffold.Proofs.Disk.Place
import TableScaffold.Proofs.Generation.Scaffold
import TableScaffold.Proofs.Definition.TypeCase
import TableScaffold.Proofs.Extraction.ColumnTypes
import TableScaffold.Proofs.Schema.Reloaded
import TableScaffold.Proofs.Definition.Records
import TableScaffold.Proofs.Extraction.Records
