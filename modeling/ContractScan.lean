import ContractScan.CommandLine.Run
import ContractScan.Request
import ContractScan.Proofs.Text.Lowering
import ContractScan.Proofs.Text.Sigma
import ContractScan.Proofs.Text.Lines
import ContractScan.Proofs.Text.Utf8
import ContractScan.Proofs.Text.Undecodable
import ContractScan.Proofs.Text.AsciiCase
import ContractScan.Proofs.Text.Letters
import ContractScan.Proofs.Json.Grammar
import ContractScan.Proofs.Json.Reader
import ContractScan.Proofs.Pattern.Meaning
import ContractScan.Proofs.Pattern.Margins
import ContractScan.Proofs.Pattern.Embedding
import ContractScan.Proofs.Pattern.AsciiCase
import ContractScan.Proofs.Pattern.Language
import ContractScan.Proofs.Pattern.Positions
import ContractScan.Proofs.Pattern.Verdict
import ContractScan.Proofs.Pattern.Literal
import ContractScan.Proofs.Pattern.EmptyLine
import ContractScan.Proofs.Severity.Names
import ContractScan.Proofs.Catalog.Definition
import ContractScan.Proofs.Catalog.Build
import ContractScan.Proofs.Catalog.Builtin
import ContractScan.Proofs.Catalog.Embedding
import ContractScan.Proofs.Catalog.Shapes
import ContractScan.Proofs.Catalog.Returns
import ContractScan.Proofs.Catalog.Visibility
import ContractScan.Proofs.Catalog.Timestamps
import ContractScan.Proofs.Scan.Order
import ContractScan.Proofs.Scan.Margins
import ContractScan.Proofs.Scan.Blank
import ContractScan.Proofs.Scan.Composition
import ContractScan.Proofs.Scan.Selection
import ContractScan.Proofs.Scan.Narrowing
import ContractScan.Proofs.Scan.AsciiCase
import ContractScan.Proofs.Scan.TrailingFeed
import ContractScan.Proofs.Scan.Rearrangement
import ContractScan.Proofs.Report.Aggregates
import ContractScan.Proofs.Report.View
import ContractScan.Proofs.Report.Document
import ContractScan.Proofs.Request.Faults
import ContractScan.Proofs.Request.Options
import ContractScan.Proofs.Project.Damage
import ContractScan.Proofs.Project.Tree
import ContractScan.Proofs.Project.Walk
import ContractScan.Proofs.Project.Opening
import ContractScan.Proofs.Project.Scan
import ContractScan.Proofs.Project.Reading
import ContractScan.Proofs.Project.Resolution
import ContractScan.Proofs.Project.Validation
import ContractScan.Proofs.CommandLine.ExitCode
import ContractScan.Proofs.EntryPoints
