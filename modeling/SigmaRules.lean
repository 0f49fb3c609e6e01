import SigmaRules.Main
import SigmaRules.Proofs.Condition.Grammar
import SigmaRules.Proofs.Expr.Evaluation
import SigmaRules.Proofs.Condition.Parsing
import SigmaRules.Proofs.Expr.Brief
import SigmaRules.Proofs.Regex.Spelling
import SigmaRules.Proofs.Regex.Joining
import SigmaRules.Proofs.Regex.Reading
import SigmaRules.Proofs.Search.BadValues
import SigmaRules.Proofs.Search.Expression
import SigmaRules.Proofs.Pattern.Glob
import SigmaRules.Proofs.Search.Glob
import SigmaRules.Proofs.Pattern.Alignment
import SigmaRules.Proofs.Search.Alignment
import SigmaRules.Proofs.Report.Explanation
import SigmaRules.Proofs.Matching
import SigmaRules.Proofs.Search.Answering
import SigmaRules.Proofs.Search.RegexList
import SigmaRules.Proofs.Condition.Printing
import SigmaRules.Proofs.Number.Whole
import SigmaRules.Proofs.Detection.Scalars
import SigmaRules.Proofs.Yaml.Values
import SigmaRules.Proofs.Rule.Parsing
import SigmaRules.Proofs.Search.SingleRegex
import SigmaRules.Proofs.Search.EveryPattern
import SigmaRules.Proofs.Detection.Wildcards
import SigmaRules.Proofs.Detection.Composition
import SigmaRules.Proofs.Detection.Shape
import SigmaRules.Proofs.Detection.Order
import SigmaRules.Proofs.Search.LetterCase
import SigmaRules.Proofs.RuleSet
import SigmaRules.Proofs.Loading.Rules
import SigmaRules.Proofs.Search.AnyAlignment
import SigmaRules.Proofs.Search.AnyPattern
import SigmaRules.Proofs.Loading.Entries
import SigmaRules.Proofs.Report.Writing
import SigmaRules.Proofs.CommandLine.Input
import SigmaRules.Proofs.Json.Strings
import SigmaRules.Proofs.Number.Numeral
import SigmaRules.Proofs.Json.Numbers
import SigmaRules.Proofs.Json.Documents
import SigmaRules.Proofs.Report.Decoding
import SigmaRules.Proofs.Network.Blocks
import SigmaRules.Proofs.Network.Reading
import SigmaRules.Proofs.Network.Writing
import SigmaRules.Proofs.Search.Networks
import SigmaRules.Proofs.Pattern.Dash
import SigmaRules.Proofs.Search.Dashes
import SigmaRules.Proofs.Search.Expansion
import SigmaRules.Proofs.Condition.Aggregation
import SigmaRules.Proofs.Origin
import SigmaRules.Proofs.Loading.Lines
import SigmaRules.Proofs.Search.MoreValues
import SigmaRules.Proofs.Expr.Counting
import SigmaRules.Proofs.Loading.Appending
import SigmaRules.Proofs.CommandLine.Failures
import SigmaRules.Proofs.Report.Summary
import SigmaRules.Proofs.Loading.Listing
import SigmaRules.Proofs.Condition.Tokens
import SigmaRules.Proofs.Condition.Wildcard
import SigmaRules.Proofs.Search.Acceptance
import SigmaRules.Proofs.Search.ModifierOrder
import SigmaRules.Proofs.Text.Numeral
import SigmaRules.Proofs.Yaml.Calendar
import SigmaRules.Proofs.Rule.Date
