import RuleLexer.Json.Record
import RuleLexer.Unicode.Class
import RuleLexer.Unicode.Folding
import RuleLexer.Unicode.Lowercase
import RuleLexer.Scan
import RuleLexer.Premade
import RuleLexer.Json.Token
import RuleLexer.Grammar.Json
import RuleLexer.Grammar.Basic
import RuleLexer.Binary64.Shortest
import RuleLexer.Toml.Document
import RuleLexer.Setting.Decode
import RuleLexer.Grammar.Load
import RuleLexer.Setting.Json
import RuleLexer.Main
import RuleLexer.Proofs.Outcome
import RuleLexer.Proofs.Table.Index
import RuleLexer.Proofs.Scan.Run
import RuleLexer.Proofs.Scan.Slices
import RuleLexer.Proofs.Scan.Failure
import RuleLexer.Proofs.Scan.Position
import RuleLexer.Proofs.Scan.Locality
import RuleLexer.Proofs.Scan.Callback
import RuleLexer.Proofs.Scan.Growth
import RuleLexer.Proofs.Regex.Leftmost
import RuleLexer.Proofs.Regex.Numbering
import RuleLexer.Proofs.Regex.Enclosed
import RuleLexer.Proofs.Pattern.Anchor
import RuleLexer.Proofs.Scan.Simulation
import RuleLexer.Proofs.Scan.Lossless
import RuleLexer.Proofs.Scan.Wording
import RuleLexer.Proofs.Scan.Dependency
import RuleLexer.Proofs.Scan.Dead
import RuleLexer.Proofs.Scan.Order
import RuleLexer.Proofs.Grammar.Entries
import RuleLexer.Proofs.Setting.Put
import RuleLexer.Proofs.Grammar.Override
import RuleLexer.Proofs.Command.Stages
import RuleLexer.Proofs.Json.Number
import RuleLexer.Proofs.Json.Text
import RuleLexer.Proofs.Json.Roundtrip
import RuleLexer.Proofs.Json.Token
import RuleLexer.Proofs.Table.Extend
import RuleLexer.Proofs.Table.Refusal
import RuleLexer.Proofs.Descriptor.Template
import RuleLexer.Proofs.Text.Digits
import RuleLexer.Proofs.Text.Quoted
import RuleLexer.Proofs.Token.Listing
import RuleLexer.Proofs.Regex.Captures
import RuleLexer.Proofs.Premade.Faultless
import RuleLexer.Proofs.Scan.LineBreak
import RuleLexer.Proofs.Scan.Suffix
import RuleLexer.Proofs.Regex.Words
import RuleLexer.Proofs.Premade.Collection
import RuleLexer.Proofs.Regex.Marked
import RuleLexer.Proofs.Pattern.Intact
import RuleLexer.Proofs.Grammar.Sum
import RuleLexer.Proofs.Regex.Preference
import RuleLexer.Proofs.Regex.Choice
import RuleLexer.Proofs.Pattern.Preferred
import RuleLexer.Proofs.Scan.Line
import RuleLexer.Proofs.Premade.Comment
import RuleLexer.Proofs.Premade.Quoted
import RuleLexer.Proofs.Premade.Value
import RuleLexer.Proofs.Premade.Declaration
import RuleLexer.Proofs.Pattern.Ordered
import RuleLexer.Proofs.Premade.Composition
import RuleLexer.Proofs.Setting.Like
import RuleLexer.Proofs.Setting.Merge
import RuleLexer.Proofs.Grammar.Layers
