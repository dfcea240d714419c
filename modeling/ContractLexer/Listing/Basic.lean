import ContractLexer.Listing.Options
import ContractLexer.Session

/-!
# Listings

A listing shows the tokens of a text, one on a line, indented by the braces that
are open.  A closing brace stands at the depth of the line that opened it, and a
surplus closing brace leaves the depth at zero.

A text that cannot be read to its end has no listing.
-/

namespace ContractLexer
namespace Listing

/-- The depth at which a token is shown, when `depth` braces are open before it. -/
def shownAt (depth : Nat) (t : Token) : Nat :=
  if t.isSymbol .rightBrace then depth - 1 else depth

/-- The depth after a token that is shown at `depth`. -/
def openAfter (depth : Nat) (t : Token) : Nat :=
  if t.isSymbol .leftBrace then depth + 1 else depth

/-- The line of a token that is shown at `depth`. -/
def line (o : Options) (depth : Nat) (t : Token) : Text :=
  List.replicate (depth * o.indentWidth) ' ' ++ t.kind.shown ++
    (if o.locations then " @ ".toList ++ t.location.written else []) ++ ['\n']

/-- The listing of what a session has still to give, when `depth` braces are open
before it.  The session is asked for one token after the other, up to an error. -/
def ofSession (o : Options) (depth : Nat) (s : Session) : Program (Except LexicalError Text) :=
  s.pullLogged.pbind fun
    | (none, _), _ => return .ok []
    | (some (.error e), _), _ => return .error e
    | (some (.ok t), behind), _h =>
        if t.isTrivia && !o.trivia then ofSession o depth behind
        else do
          let below ← ofSession o (openAfter (shownAt depth t) t) behind
          return below.map fun lines => line o (shownAt depth t) t ++ lines
  termination_by s.remaining
  decreasing_by all_goals exact _h.elim fun _ => Session.remaining_pullLogged_lt

/-- The listing of a text, or the error that stops reading; what is read is logged. -/
def ofTextLogged (o : Options) (text : Text) : Program (Except LexicalError Text) :=
  ofSession o 0 (.ofText text)

/-- The listing of a text, or the error that stops reading. -/
def ofText (o : Options) (text : Text) : Except LexicalError Text :=
  (ofTextLogged o text none).1

end Listing
end ContractLexer
