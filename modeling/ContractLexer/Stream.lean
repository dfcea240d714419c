import ContractLexer.Reading

/-!
# Token streams

The stream of a text is the list of what reading it yields: its tokens in order,
each at its location, and at the end an error if the text cannot be read to its
end.

**Contents.**  The stream, the list of all tokens of a text, and the list of its
significant tokens.  Both lists exist only if the stream holds no error.
-/

namespace ContractLexer

/-- What a stream holds: a token, or the error that ends it. -/
abbrev Item := Except LexicalError Token

namespace Stream

/-- The stream of a text that stands at `start`. -/
def ofTextAt (start : Location) (text : Text) : List Item :=
  match text with
  | [] => []
  | c :: rest =>
      match _ : readToken c rest with
      | .ok r =>
          .ok { kind := r.kind, location := start } ::
            ofTextAt (start.after r.spelling) r.rest
      | .error f => [.error (f.toError start)]
  termination_by text.length
  decreasing_by exact readToken_length_rest_lt ‹_›

/-- The stream of a whole text. -/
def ofText (text : Text) : List Item :=
  ofTextAt .start text

/-- The tokens of a stream, or its first error. -/
def collect : List Item → Except LexicalError (List Token)
  | [] => .ok []
  | .error e :: _ => .error e
  | .ok t :: rest => (collect rest).map fun tokens => t :: tokens

/-- Everything but a token of trivia. -/
def isSignificant : Item → Bool
  | .ok t => !t.isTrivia
  | .error _ => true

end Stream

/-- All tokens of a text, or the error that stops reading. -/
def tokenize (text : Text) : Except LexicalError (List Token) :=
  Stream.collect (Stream.ofText text)

/-- The tokens of a text without trivia, or the error that stops reading. -/
def significantTokens (text : Text) : Except LexicalError (List Token) :=
  Stream.collect ((Stream.ofText text).filter Stream.isSignificant)

/-- The source text that a list of tokens spells, each in its canonical form. -/
def rebuilt (tokens : List Token) : Text :=
  tokens.flatMap fun t => t.kind.canonical

end ContractLexer
