import TreeQuery.Grammar.Label
import TreeQuery.Grammar.Level
import TreeQuery.Grammar.Operator
import TreeQuery.Grammar.Production
import TreeQuery.Label.BasicCategory
import TreeQuery.Label.Descriptor
import TreeQuery.Label.HeadFinder
import TreeQuery.Pattern.Basic
import TreeQuery.Pattern.Error
import TreeQuery.Pattern.Node
import TreeQuery.Pattern.Printer
import TreeQuery.Pattern.Scope
import TreeQuery.Regex.Basic
import TreeQuery.Regex.CharacterClass
import TreeQuery.Regex.Error
import TreeQuery.Regex.Escape
import TreeQuery.Regex.Group
import TreeQuery.Regex.Message
import TreeQuery.Regex.Nesting
import TreeQuery.Regex.Property
import TreeQuery.Regex.Reader
import TreeQuery.Regex.Repetition
import TreeQuery.Regex.Syntax
import TreeQuery.Relation.Basic
import TreeQuery.Relation.Error
import TreeQuery.Relation.Inspect
import TreeQuery.Relation.Resolver
import TreeQuery.Relation.Symbol
import TreeQuery.Text.Basic
import TreeQuery.Text.Blank
import TreeQuery.Text.Hidden
import TreeQuery.Text.Letter
import TreeQuery.Text.Numeral
import TreeQuery.Text.Position
import TreeQuery.Text.Quoted
import TreeQuery.Token.Basic
import TreeQuery.Token.Expected
import TreeQuery.Token.Kind
import TreeQuery.Token.Lexer
import TreeQuery.Token.Stream
import TreeQuery.Proofs.Depth.Counted
import TreeQuery.Proofs.Depth.Flat
import TreeQuery.Proofs.Depth.Levels
import TreeQuery.Proofs.Depth.Runs
import TreeQuery.Proofs.Depth.Trace
import TreeQuery.Proofs.Grammar.Act
import TreeQuery.Proofs.Grammar.Commute
import TreeQuery.Proofs.Grammar.Context
import TreeQuery.Proofs.Grammar.Derivation
import TreeQuery.Proofs.Grammar.Expected
import TreeQuery.Proofs.Grammar.Kinds
import TreeQuery.Proofs.Grammar.Local.Basic
import TreeQuery.Proofs.Grammar.Local.Level
import TreeQuery.Proofs.Grammar.Modifiers
import TreeQuery.Proofs.Grammar.NegatedGroup
import TreeQuery.Proofs.Grammar.Offers.Basic
import TreeQuery.Proofs.Grammar.Offers.Level
import TreeQuery.Proofs.Grammar.Offers.Word
import TreeQuery.Proofs.Grammar.Phrase
import TreeQuery.Proofs.Grammar.Reads.Basic
import TreeQuery.Proofs.Grammar.Reads.Level
import TreeQuery.Proofs.Grammar.Reads.Word
import TreeQuery.Proofs.Grammar.Run
import TreeQuery.Proofs.Grammar.Separate
import TreeQuery.Proofs.Grammar.Stretch
import TreeQuery.Proofs.Grammar.Takes.Basic
import TreeQuery.Proofs.Grammar.Takes.Level
import TreeQuery.Proofs.Grammar.Takes.Word
import TreeQuery.Proofs.Grammar.WellFormed
import TreeQuery.Proofs.Pattern.Assembly
import TreeQuery.Proofs.Pattern.Nodes
import TreeQuery.Proofs.Pattern.Place
import TreeQuery.Proofs.Pattern.Rearranged
import TreeQuery.Proofs.Pattern.Same
import TreeQuery.Proofs.Printing.Exclusive
import TreeQuery.Proofs.Printing.Label
import TreeQuery.Proofs.Printing.Limit
import TreeQuery.Proofs.Printing.Nesting
import TreeQuery.Proofs.Printing.Readable
import TreeQuery.Proofs.Printing.Relation
import TreeQuery.Proofs.Printing.RoundTrip
import TreeQuery.Proofs.Printing.Spells
import TreeQuery.Proofs.Printing.Tree
import TreeQuery.Proofs.Scope.Admission
import TreeQuery.Proofs.Scope.Agreement
import TreeQuery.Proofs.Scope.Behind
import TreeQuery.Proofs.Scope.Declared
import TreeQuery.Proofs.Scope.Listing
import TreeQuery.Proofs.Scope.Names
import TreeQuery.Proofs.Scope.Polarity
import TreeQuery.Proofs.Scope.WellNamed
import TreeQuery.Proofs.Text.Numeral
import TreeQuery.Proofs.Text.Slice
import TreeQuery.Proofs.Token.Layout
import TreeQuery.Proofs.Token.Lexeme
import TreeQuery.Proofs.Token.Scan
import TreeQuery.Proofs.Depth.Exact
import TreeQuery.Proofs.Depth.Bounded
import TreeQuery.Proofs.Strategy.Mirror
import TreeQuery.Proofs.Strategy.Compile
import TreeQuery.Proofs.Errors.Cited
import TreeQuery.Proofs.Errors.Word
import TreeQuery.Proofs.Errors.Level
import TreeQuery.Proofs.Errors.Located
import TreeQuery.Proofs.Printing.Key
import TreeQuery.Proofs.Scope.History
import TreeQuery.Proofs.Grammar.Redundant
import TreeQuery.Proofs.Pattern.Terminated
import TreeQuery.Proofs.Token.Lookahead
import TreeQuery.Proofs.Token.Spacing
import TreeQuery.Proofs.Token.RegexLiteral
import TreeQuery.Proofs.Grammar.Piece
import TreeQuery.Proofs.Relation.Canonical
import TreeQuery.Proofs.Relation.Chain
import TreeQuery.Proofs.Relation.Index
import TreeQuery.Proofs.Grammar.Heeds.Basic
import TreeQuery.Proofs.Grammar.Heeds.Word
import TreeQuery.Proofs.Grammar.Heeds.Level
import TreeQuery.Proofs.Grammar.Heeds.Number
import TreeQuery.Proofs.Grammar.Group
import TreeQuery.Proofs.Pattern.Numbers
import TreeQuery.Proofs.Relation.Known
import TreeQuery.Proofs.Token.Unread
import TreeQuery.Proofs.Token.Cursor
import TreeQuery.Proofs.Token.Discipline
import TreeQuery.Proofs.Scope.Sets
import TreeQuery.Proofs.Scope.Keyed
import TreeQuery.Proofs.Label.Annotation
import TreeQuery.Proofs.Token.Form
import TreeQuery.Proofs.Token.Longest
import TreeQuery.Proofs.Errors.Rejected
