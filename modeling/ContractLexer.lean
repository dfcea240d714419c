import ContractLexer.Command
import ContractLexer.Cursor.Basic
import ContractLexer.Cursor.Walk
import ContractLexer.LexicalError
import ContractLexer.Listing.Basic
import ContractLexer.Listing.Options
import ContractLexer.Location
import ContractLexer.Log.Filter
import ContractLexer.Log.Record
import ContractLexer.Main
import ContractLexer.Proofs.LiteralBody
import ContractLexer.Proofs.ReadingRules
import ContractLexer.Proofs.Spelling
import ContractLexer.Reading
import ContractLexer.Session
import ContractLexer.SourceFile
import ContractLexer.Stream
import ContractLexer.Text.Alphabetic
import ContractLexer.Text.Basic
import ContractLexer.Text.CodeRange
import ContractLexer.Text.Quoted
import ContractLexer.Text.Unprintable
import ContractLexer.Text.Whitespace
import ContractLexer.Token.Basic
import ContractLexer.Token.Keyword
import ContractLexer.Token.StringLiteral
import ContractLexer.Token.Symbol
import ContractLexer.WorkingDirectory
import ContractLexer.Proofs.LongestMatch
import ContractLexer.Proofs.SessionStream
import ContractLexer.Proofs.Rejection
import ContractLexer.Proofs.Rebuilding
import ContractLexer.Proofs.Positions
import ContractLexer.Proofs.SessionCalls
import ContractLexer.Proofs.TokenLocations
import ContractLexer.Proofs.Concatenation
import ContractLexer.Proofs.Printing
import ContractLexer.Proofs.Lookahead
import ContractLexer.Proofs.SelfDelimiting
import ContractLexer.Proofs.ListedTokens
import ContractLexer.Proofs.LexCommand
import ContractLexer.Proofs.LogFilters
import ContractLexer.Proofs.LogLines
import ContractLexer.Proofs.Indentation
import ContractLexer.Proofs.LiteralRoundTrip
import ContractLexer.Proofs.WholeText
import ContractLexer.Proofs.ReservedWords
import ContractLexer.Proofs.LastFlag
import ContractLexer.Proofs.Progress
import ContractLexer.Guarded.Cursor
import ContractLexer.Guarded.Reading
import ContractLexer.Guarded.Session
import ContractLexer.Proofs.Places
import ContractLexer.Proofs.GuardedCursor
import ContractLexer.Proofs.GuardedReading
import ContractLexer.Proofs.NoFault
import ContractLexer.Proofs.ByteForms
import ContractLexer.Proofs.LoadedText
import ContractLexer.Proofs.Cuts
import ContractLexer.Proofs.WalkPositions
import ContractLexer.Proofs.WalkRuns
