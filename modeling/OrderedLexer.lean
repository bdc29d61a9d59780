import OrderedLexer.Main
import OrderedLexer.Proofs.Offset
import OrderedLexer.Proofs.Session
import OrderedLexer.Proofs.Production
import OrderedLexer.Proofs.Invariant
import OrderedLexer.Proofs.Partition
import OrderedLexer.Proofs.Location
import OrderedLexer.Proofs.Agreement
import OrderedLexer.Proofs.Merge
import OrderedLexer.Proofs.Restart
import OrderedLexer.Proofs.Capture
import OrderedLexer.Proofs.Suffix
import OrderedLexer.Proofs.Reading
import OrderedLexer.Proofs.Anchoring
import OrderedLexer.Proofs.RuleOrder
import OrderedLexer.Proofs.Grammar
import OrderedLexer.Proofs.WhiteSpace
import OrderedLexer.Proofs.JsonRoundTrip
import OrderedLexer.Proofs.Lexing
import OrderedLexer.Proofs.JsonReading
import OrderedLexer.Proofs.OptionValues
import OrderedLexer.Proofs.SpecForms
import OrderedLexer.Proofs.SpecRoundTrip
import OrderedLexer.Proofs.AnchoredMatches
import OrderedLexer.Proofs.FirstMatch
import OrderedLexer.Proofs.LabelSource
import OrderedLexer.Proofs.LineConcat
import OrderedLexer.Proofs.Diagnostic
import OrderedLexer.Proofs.Panic
import OrderedLexer.Proofs.StringLiteral
import OrderedLexer.Proofs.QuotedPattern
import OrderedLexer.Proofs.PlainText
import OrderedLexer.Proofs.Brackets
import OrderedLexer.Proofs.SlashClasses
import OrderedLexer.Proofs.ModuleText
import OrderedLexer.Proofs.TokenListing
import OrderedLexer.Proofs.ErrorColumns
import OrderedLexer.Proofs.ErrorOffsets
import OrderedLexer.Proofs.FirstDefect
import OrderedLexer.Proofs.Sniffing
import OrderedLexer.Proofs.OutputFile
import OrderedLexer.Proofs.ModuleTokens
import OrderedLexer.Proofs.SliceBounds
import OrderedLexer.Proofs.OptionObjects
