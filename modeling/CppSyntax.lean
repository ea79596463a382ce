import CppSyntax.Main
import CppSyntax.Command.Run
import CppSyntax.Proofs.Lexing.Layout
import CppSyntax.Proofs.Lexing.Division
import CppSyntax.Proofs.Lexing.Order
import CppSyntax.Proofs.Parsing.Outcome
import CppSyntax.Proofs.Parsing.Place
import CppSyntax.Proofs.Parsing.Supply
import CppSyntax.Proofs.Grammar.Name
import CppSyntax.Proofs.Grammar.Specifier
import CppSyntax.Proofs.Grammar.Declarator
import CppSyntax.Proofs.Grammar.Operand
import CppSyntax.Proofs.Grammar.Declaration
import CppSyntax.Proofs.Grammar.Statement
import CppSyntax.Proofs.Parsing.Fuel
import CppSyntax.Proofs.Expression.Follow
import CppSyntax.Proofs.Expression.Brackets
import CppSyntax.Proofs.Expression.Reading
import CppSyntax.Proofs.Expression.Forms
import CppSyntax.Proofs.Expression.Combination
import CppSyntax.Proofs.Expression.Appended
import CppSyntax.Proofs.Expression.Cast
import CppSyntax.Proofs.Expression.Fold
import CppSyntax.Proofs.Expression.Writing
import CppSyntax.Proofs.Expression.Nameless
import CppSyntax.Proofs.Parsing.Guarded
import CppSyntax.Proofs.Parsing.Names
import CppSyntax.Proofs.RoundTrip.Lines
import CppSyntax.Proofs.RoundTrip.Frame
import CppSyntax.Session
import CppSyntax.Proofs.Session.Detail
import CppSyntax.Proofs.Session.Nodes
import CppSyntax.Proofs.Session.Inspection
import CppSyntax.Proofs.Session.Likeness
import CppSyntax.Proofs.Session.Mirror
import CppSyntax.Proofs.Session.Composition
import CppSyntax.Proofs.Session.Comments
import CppSyntax.Proofs.Session.Grammar.Name
import CppSyntax.Proofs.Session.Grammar.Specifier
import CppSyntax.Proofs.Session.Grammar.Declarator
import CppSyntax.Proofs.Session.Grammar.Operand
import CppSyntax.Proofs.Session.Grammar.Expression
import CppSyntax.Proofs.Session.Grammar.Declaration
import CppSyntax.Proofs.Session.Grammar.Statement
import CppSyntax.Proofs.Session.Standing
import CppSyntax.Proofs.Session.Resumption
import CppSyntax.Proofs.Session.Traceless
import CppSyntax.Proofs.Session.LayoutFree
import CppSyntax.Proofs.Parsing.Rows
import CppSyntax.Proofs.Statement.Block
import CppSyntax.Proofs.Statement.Writing
import CppSyntax.Proofs.Statement.Conditions
import CppSyntax.Proofs.Statement.Control
import CppSyntax.Proofs.Statement.Lines
import CppSyntax.Proofs.Statement.Texts
import CppSyntax.Proofs.Statement.Repair
import CppSyntax.Proofs.Statement.Drawing
import CppSyntax.Proofs.RoundTrip.Branches
import CppSyntax.Proofs.WellFormed.Shape
import CppSyntax.Proofs.WellFormed.Value
import CppSyntax.Proofs.WellFormed.Yield
import CppSyntax.Proofs.WellFormed.Promise
import CppSyntax.Proofs.WellFormed.Grammar.Name
import CppSyntax.Proofs.WellFormed.Grammar.Specifier
import CppSyntax.Proofs.WellFormed.Grammar.Declarator
import CppSyntax.Proofs.WellFormed.Grammar.Operand
import CppSyntax.Proofs.WellFormed.Grammar.Declaration
import CppSyntax.Proofs.WellFormed.Grammar.Statement
import CppSyntax.Proofs.WellFormed.Parsed
import CppSyntax.Proofs.Lexing.Lines
import CppSyntax.Proofs.Commented.Writing
import CppSyntax.Proofs.Commented.Reading
import CppSyntax.Proofs.Layout.Doc
import CppSyntax.Proofs.Layout.Drawing
import CppSyntax.Proofs.Layout.Tree
import CppSyntax.Proofs.RoundTrip.Commented
import CppSyntax.Proofs.Guess.Passage
import CppSyntax.Proofs.Guess.Keeping
import CppSyntax.Proofs.Guess.Promise
import CppSyntax.Proofs.Guess.Grammar.Name
import CppSyntax.Proofs.Guess.Grammar.Type
import CppSyntax.Proofs.Guess.Grammar.Expression
import CppSyntax.Proofs.Expression.Named
import CppSyntax.Proofs.Expression.Sight
import CppSyntax.Proofs.Expression.LaidOut
import CppSyntax.Proofs.Expression.OverNames
import CppSyntax.Proofs.RoundTrip.Expressions
import CppSyntax.Proofs.Account.Names
import CppSyntax.Proofs.Account.Contract
import CppSyntax.Proofs.Account.Promise
import CppSyntax.Proofs.Account.Grammar.Name
import CppSyntax.Proofs.Account.Grammar.Specifier
import CppSyntax.Proofs.Account.Grammar.Declarator
import CppSyntax.Proofs.Account.Grammar.Operand
import CppSyntax.Proofs.Account.Grammar.Declaration
import CppSyntax.Proofs.Account.Grammar.Statement
import CppSyntax.Proofs.Account.Reading
import CppSyntax.Proofs.Account.TypeNames
import CppSyntax.Proofs.Gathering.Piece
import CppSyntax.Proofs.Gathering.Reading
import CppSyntax.Proofs.Gathering.Comments
import CppSyntax.Proofs.Gathering.Order
import CppSyntax.Proofs.Gathering.Nesting
import CppSyntax.Proofs.Gathering.Contract
import CppSyntax.Proofs.Gathering.Promise
import CppSyntax.Proofs.Gathering.Grammar.Name
import CppSyntax.Proofs.Gathering.Grammar.Specifier
import CppSyntax.Proofs.Gathering.Grammar.Declarator
import CppSyntax.Proofs.Gathering.Grammar.Operand
import CppSyntax.Proofs.Gathering.Grammar.Declaration
import CppSyntax.Proofs.Gathering.Grammar.Statement
import CppSyntax.Proofs.Gathering.Parsed
import CppSyntax.Proofs.Gathering.Repetition
import CppSyntax.Proofs.Session.Progress
import CppSyntax.Proofs.Everywhere.Value
import CppSyntax.Proofs.Everywhere.Builds
import CppSyntax.Proofs.Everywhere.Grammar.Type
import CppSyntax.Proofs.Everywhere.Grammar.Expression
import CppSyntax.Proofs.Everywhere.Grammar.Declaration
import CppSyntax.Proofs.Statement.OpenIf
import CppSyntax.Proofs.Lexing.Number
import CppSyntax.Proofs.Declarator.Tokens
import CppSyntax.Proofs.Declarator.Pointers
import CppSyntax.Proofs.Declarator.Suffixes
import CppSyntax.Proofs.Declarator.InsideOut
import CppSyntax.Proofs.Declarator.Spaces
import CppSyntax.Proofs.RoundTrip.Typedef
import CppSyntax.Proofs.Angles.Reading
import CppSyntax.Proofs.Angles.Writing
import CppSyntax.Proofs.RoundTrip.Alias
import CppSyntax.Proofs.Lexing.Respacing
import CppSyntax.Proofs.Lexing.Returns
import CppSyntax.Proofs.Lexing.LineEnds
import CppSyntax.Proofs.Lexing.Kinds
import CppSyntax.Proofs.Lexing.Respelling
import CppSyntax.Proofs.Statement.Evaluated
import CppSyntax.Proofs.Lexing.Resumption
import CppSyntax.Proofs.RoundTrip.TemplateFree
import CppSyntax.Proofs.RoundTrip.Units
import CppSyntax.Proofs.Origin.Reading
import CppSyntax.Proofs.Command.Atomicity
