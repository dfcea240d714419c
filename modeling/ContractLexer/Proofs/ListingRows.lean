import ContractLexer.Command
import ContractLexer.Proofs.ListedTokens

/-!
# The lines of a listing as text

A listing is printed as one text, and a reader sees its lines: the stretches between
line feeds.  A value may hold line feeds and may look like a line of a listing, but what
is quoted holds none, so every line that is seen is the line of one token.

The options choose between views of one listing.  Without trivia some lines are left out
and the others keep their indentation, because trivia open and close no braces.  With
locations every line is prolonged.

**Contents.**  The lines of a text, the line of a token without its line feed, and the
test on a line that tells trivia from other tokens.

**Results.**
* `Text.rows_unlines`: lines that hold no line feed are seen again in their text.
* `Listing.rows_unlines_rowsFrom`: the lines seen in a listing are those of its tokens.
* `Listing.filter_rowsFrom`: leaving out tokens of trivia and leaving out lines that show
  trivia come to the same.
* `Listing.rows_ofText_views`: the options are views of one listing, line by line.
-/

namespace ContractLexer

/-! ## Lines of a text -/

namespace Text

/-- The lines of a text, each without the line feed that ends it.  What stands behind the
last line feed is no line. -/
def rows (t : Text) : List Text :=
  (t.splitOn '\n').dropLast

theorem rows_cons
    {row : Text}
    (h : '\n' ∉ row)
    (t : Text) :
    rows (row ++ '\n' :: t) = row :: rows t := by
  have hother : ∀ c ∈ row, (c == '\n') = false := by
    intro c hc
    rw [beq_eq_false_iff_ne]
    rintro rfl
    exact h hc
  rw [rows, List.splitOn_eq_splitOnP, List.splitOnP_append_cons_of_forall_mem hother '\n' rfl,
    ← List.splitOn_eq_splitOnP, List.dropLast_cons_of_ne_nil (List.splitOn_ne_nil '\n' t)]
  rfl

/-- Lines that hold no line feed are seen again in their text. -/
theorem rows_unlines
    {lines : List Text}
    (h : ∀ row ∈ lines, '\n' ∉ row) :
    rows (Command.unlines lines) = lines := by
  induction lines with
  | nil =>
      rfl
  | cons row lines ih =>
      have hsplit : Command.unlines (row :: lines) = row ++ '\n' :: Command.unlines lines := by
        simp [Command.unlines]
      rw [hsplit, rows_cons (h row List.mem_cons_self),
        ih fun other hother => h other (List.mem_cons_of_mem row hother)]

end Text

/-! ## No line feed inside a line -/

theorem Location.lineFeed_not_mem_written
    (l : Location) :
    '\n' ∉ l.written := by
  have hdigits : ∀ n, '\n' ∉ Text.decimal n :=
    Text.not_mem_toDigits (by decide) (by decide) (by decide)
  simp [written, hdigits]

namespace Quoted

theorem lineFeed_not_mem_shortEscapes :
    ∀ p ∈ shortEscapes '"', p.2 ≠ '\n' := by
  decide

theorem lineFeed_not_mem_written
    (c : Char) :
    '\n' ∉ written '"' c := by
  by_cases hc : c = '\n'
  · subst hc
    decide
  · have hform := form_written '"' c
    generalize written '"' c = u at hform
    cases hform with
    | short h =>
        have hescape := lineFeed_not_mem_shortEscapes _ h
        simpa using hescape.symm
    | code =>
        have hdigits : '\n' ∉ Text.hexadecimal c.toNat :=
          Text.not_mem_toDigits (by decide) (by decide) (by decide) c.toNat
        simp [codePoint, hdigits]
    | plain =>
        simpa using Ne.symm hc

/-- A quoted text fits on one line. -/
theorem lineFeed_not_mem_text
    (t : Text) :
    '\n' ∉ text t := by
  have hbody : '\n' ∉ t.flatMap (written '"') := by
    intro hmem
    obtain ⟨c, -, hc⟩ := List.mem_flatMap.1 hmem
    exact lineFeed_not_mem_written c hc
  simp [text, between, hbody]

end Quoted

namespace TokenKind

theorem lineFeed_not_mem_shown
    (kind : TokenKind) :
    '\n' ∉ kind.shown := by
  have hlabel : '\n' ∉ kind.label := kind.not_mem_label rfl
  simp [shown, hlabel, Quoted.lineFeed_not_mem_text kind.value]

end TokenKind

/-! ## The lines of a listing -/

namespace Listing

/-- What a line shows behind its token: the location, if the options ask for it. -/
def place (o : Options) (t : Token) : Text :=
  if o.locations then " @ ".toList ++ t.location.written else []

/-- The line of a token that is shown at `depth`, without the line feed that ends it. -/
def row (o : Options) (depth : Nat) (t : Token) : Text :=
  List.replicate (depth * o.indentWidth) ' ' ++ t.kind.shown ++ place o t

theorem line_eq_row_append
    (o : Options)
    (depth : Nat)
    (t : Token) :
    line o depth t = row o depth t ++ ['\n'] := by
  rfl

theorem lineFeed_not_mem_row
    (o : Options)
    (depth : Nat)
    (t : Token) :
    '\n' ∉ row o depth t := by
  have hspaces : '\n' ∉ List.replicate (depth * o.indentWidth) ' ' := by
    intro hmem
    cases List.eq_of_mem_replicate hmem
  have hplace : '\n' ∉ place o t := by
    unfold place
    split
    · simp [t.location.lineFeed_not_mem_written]
    · exact List.not_mem_nil
  simp [row, hspaces, hplace, t.kind.lineFeed_not_mem_shown]

/-- The depth behind a token, when `depth` braces are open before it. -/
def depthBehind (depth : Nat) (t : Token) : Nat :=
  openAfter (shownAt depth t) t

/-- The lines of a list of tokens without their line feeds, when `depth` braces are open
before it. -/
def rowsFrom (o : Options) (depth : Nat) : List Token → List Text
  | [] => []
  | t :: ts => row o (shownAt depth t) t :: rowsFrom o (depthBehind depth t) ts

@[simp] theorem rowsFrom_nil
    (o : Options)
    (depth : Nat) :
    rowsFrom o depth [] = [] := by
  rfl

@[simp] theorem rowsFrom_cons
    (o : Options)
    (depth : Nat)
    (t : Token)
    (ts : List Token) :
    rowsFrom o depth (t :: ts) =
      row o (shownAt depth t) t :: rowsFrom o (depthBehind depth t) ts := by
  rfl

@[simp] theorem length_rowsFrom
    (o : Options)
    (depth : Nat)
    (ts : List Token) :
    (rowsFrom o depth ts).length = ts.length := by
  induction ts generalizing depth with
  | nil =>
      rfl
  | cons t ts ih =>
      simp [ih]

theorem lines_eq_unlines
    (o : Options)
    (depth : Nat)
    (ts : List Token) :
    lines o depth ts = Command.unlines (rowsFrom o depth ts) := by
  induction ts generalizing depth with
  | nil =>
      rfl
  | cons t ts ih =>
      rw [lines, line_eq_row_append, ih]
      rfl

/-- The lines seen in a listing are those of its tokens. -/
theorem rows_unlines_rowsFrom
    (o : Options)
    (depth : Nat)
    (ts : List Token) :
    Text.rows (Command.unlines (rowsFrom o depth ts)) = rowsFrom o depth ts := by
  apply Text.rows_unlines
  induction ts generalizing depth with
  | nil =>
      exact List.forall_mem_nil _
  | cons t ts ih =>
      rw [rowsFrom_cons, List.forall_mem_cons]
      exact ⟨lineFeed_not_mem_row o _ t, ih _⟩

/-- The listing of a text that can be read to its end. -/
theorem ofText_eq_ok_unlines
    (o : Options)
    {text : Text}
    {ts : List Token}
    (h : tokenize text = .ok ts) :
    ofText o text = .ok (Command.unlines (rowsFrom o 0 (ts.filter (isListed o)))) := by
  rw [ofText_eq_map_lines, listed, h, ← lines_eq_unlines]
  rfl

/-! ## Trivia -/

/-- All tokens are listed if the options ask for trivia, and else the significant ones. -/
theorem filter_isListed
    (o : Options)
    (ts : List Token) :
    ts.filter (isListed o) = if o.trivia then ts else ts.filter fun t => !t.isTrivia := by
  cases htrivia : o.trivia with
  | false =>
      rw [if_neg Bool.false_ne_true]
      apply List.filter_congr
      intro t _
      simp [isListed, htrivia]
  | true =>
      rw [if_pos rfl, List.filter_eq_self]
      intro t _
      simp [isListed, htrivia]

/-- The line shows a token of trivia, as far as its text tells: behind the leading spaces
it starts with the name of a class of trivia. -/
def showsTrivia (row : Text) : Bool :=
  let shown := row.dropWhile fun c => c == ' '
  "Whitespace(".toList.isPrefixOf shown || "Comment(".toList.isPrefixOf shown

/-- What is shown of a kind tells by its first letters whether it is trivia. -/
theorem isPrefixOf_shown_append
    (kind : TokenKind)
    (r : Text) :
    ("Whitespace(".toList.isPrefixOf (kind.shown ++ r) ||
      "Comment(".toList.isPrefixOf (kind.shown ++ r)) = kind.isTrivia := by
  cases kind <;> rfl

theorem showsTrivia_row
    (o : Options)
    (depth : Nat)
    (t : Token) :
    showsTrivia (row o depth t) = t.isTrivia := by
  have hdrop :
      (row o depth t).dropWhile (fun c => c == ' ') = t.kind.shown ++ place o t := by
    rw [row, List.append_assoc]
    exact dropWhile_indent _ (t.kind.endsRun_shown _)
  rw [showsTrivia, hdrop]
  exact isPrefixOf_shown_append t.kind (place o t)

theorem depthBehind_of_isTrivia
    {t : Token}
    (h : t.isTrivia = true)
    (depth : Nat) :
    depthBehind depth t = depth := by
  have hsign : ∀ sign, t.isSymbol sign = false := by
    intro sign
    rw [Token.isSymbol, decide_eq_false_iff_not]
    intro hkind
    rw [Token.isTrivia, hkind] at h
    cases h
  simp [depthBehind, openAfter, shownAt, hsign]

/-- Leaving out the lines that show trivia leaves the lines of the other tokens, each at
the depth it had. -/
theorem filter_rowsFrom
    (o : Options)
    (depth : Nat)
    (ts : List Token) :
    (rowsFrom o depth ts).filter (fun row => !showsTrivia row) =
      rowsFrom o depth (ts.filter fun t => !t.isTrivia) := by
  induction ts generalizing depth with
  | nil =>
      rfl
  | cons t ts ih =>
      rw [rowsFrom_cons, List.filter_cons, List.filter_cons, showsTrivia_row, ih]
      -- The token that is left out must not count for the depth of the lines behind it.
      cases htrivia : t.isTrivia with
      | false =>
          rfl
      | true =>
          rw [depthBehind_of_isTrivia htrivia]
          rfl

theorem rowsFrom_setTrivia
    (o : Options)
    (trivia : Bool)
    (depth : Nat)
    (ts : List Token) :
    rowsFrom { o with trivia := trivia } depth ts = rowsFrom o depth ts := by
  induction ts generalizing depth with
  | nil =>
      rfl
  | cons t ts ih =>
      rw [rowsFrom_cons, ih]
      rfl

/-! ## Locations -/

/-- With locations shown, every line is the line without them and the location of its
token. -/
theorem rowsFrom_showLocations
    (o : Options)
    (depth : Nat)
    (ts : List Token) :
    rowsFrom { o with locations := true } depth ts =
      List.zipWith (fun row t => row ++ " @ ".toList ++ t.location.written)
        (rowsFrom { o with locations := false } depth ts) ts := by
  induction ts generalizing depth with
  | nil =>
      rfl
  | cons t ts ih =>
      rw [rowsFrom_cons, rowsFrom_cons, List.zipWith_cons_cons, ih]
      simp [row, place]

/-- The options are views of one listing, line by line.

The listing with trivia has one line for each token of the text.  Without the lines that
show trivia, by their text alone, it is the listing without trivia.  And the listing with
locations is the one without, where each line is prolonged by the location of its
token. -/
theorem rows_ofText_views
    (o : Options)
    {text : Text}
    {ts : List Token}
    (h : tokenize text = .ok ts) :
    (∃ full,
      ofText { o with trivia := true } text = .ok full ∧
        Command.unlines (Text.rows full) = full ∧
        (Text.rows full).length = ts.length ∧
        ofText { o with trivia := false } text =
          .ok (Command.unlines ((Text.rows full).filter fun row => !showsTrivia row))) ∧
      ∃ plain,
        ofText { o with locations := false } text = .ok plain ∧
          Command.unlines (Text.rows plain) = plain ∧
          (Text.rows plain).length = (ts.filter (isListed o)).length ∧
          ofText { o with locations := true } text =
            .ok
              (Command.unlines
                (List.zipWith (fun row t => row ++ " @ ".toList ++ t.location.written)
                  (Text.rows plain) (ts.filter (isListed o)))) := by
  constructor
  · have hall : ts.filter (isListed { o with trivia := true }) = ts :=
      filter_isListed _ ts
    have hsome :
        ts.filter (isListed { o with trivia := false }) = ts.filter fun t => !t.isTrivia :=
      filter_isListed _ ts
    refine ⟨_, ofText_eq_ok_unlines _ h, ?_, ?_, ?_⟩
    · rw [rows_unlines_rowsFrom]
    · rw [rows_unlines_rowsFrom, length_rowsFrom, hall]
    · rw [ofText_eq_ok_unlines _ h, rows_unlines_rowsFrom, filter_rowsFrom, hall, hsome,
        rowsFrom_setTrivia o false, rowsFrom_setTrivia o true]
  · refine ⟨_, ofText_eq_ok_unlines _ h, ?_, ?_, ?_⟩
    · rw [rows_unlines_rowsFrom]
    · rw [rows_unlines_rowsFrom, length_rowsFrom]
      rfl
    · rw [ofText_eq_ok_unlines _ h, rows_unlines_rowsFrom, rowsFrom_showLocations]
      rfl

theorem rows_ofText_views_quoted :
    let o : Options := { trivia := false, indentWidth := 2, locations := true }
    let text := "\x7b\"Comment(\n\"//x\n\x7d".toList
    let tokens : List Token :=
      [{ kind := .symbol .leftBrace, location := { line := 1, column := 1 } },
       { kind := .string "Comment(\n".toList, location := { line := 1, column := 2 } },
       { kind := .comment "//x".toList, location := { line := 2, column := 2 } },
       { kind := .whitespace "\n".toList, location := { line := 2, column := 5 } },
       { kind := .symbol .rightBrace, location := { line := 3, column := 1 } }]
    let full :=
      Command.unlines
        ["Symbol(\"\x7b\") @ 1:1".toList,
         "  String(\"Comment(\\n\") @ 1:2".toList,
         "  Comment(\"//x\") @ 2:2".toList,
         "  Whitespace(\"\\n\") @ 2:5".toList,
         "Symbol(\"\x7d\") @ 3:1".toList]
    tokenize text = .ok tokens ∧
      ofText { o with trivia := true } text = .ok full ∧
      (Text.rows full).length = tokens.length ∧
      ofText { o with trivia := false } text =
        .ok (Command.unlines ((Text.rows full).filter fun row => !showsTrivia row)) := by
  intro o text tokens full
  have htokens : tokenize text = .ok tokens := by
    decide +kernel
  have hfull : ofText { o with trivia := true } text = .ok full := by
    decide +kernel
  obtain ⟨full', hfull', -, hlength, hfiltered⟩ := (rows_ofText_views o htokens).1
  rw [hfull, Except.ok.injEq] at hfull'
  subst hfull'
  exact ⟨htokens, hfull, hlength, hfiltered⟩

end Listing
end ContractLexer
