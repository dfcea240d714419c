import ContractLexer.Proofs.Positions
import ContractLexer.Proofs.Rebuilding

/-!
# Reading one text behind another

A text is put behind another one that can be read to its end.  If the last token of
the first text is closed against what follows, the tokens of both are found side by
side, and those of the second are moved by the size of the first.

A point does not close: behind the digits of a number it may become the point of a
fraction.

**Results.**
* `TokenKind.stopsAt_append`: what does not prolong a token does not do so with more
  text behind it, unless it is empty or a point alone.
* `Lexeme.longestMatch_of_last`: lexemes keep the longest-match condition in front of
  any text that does not prolong the last of them.
* `Stream.ofTextAt_moved`: the stream of a text, when the text is moved.
* `tokenize_append`: the tokens and the error of two texts, one behind the other.
-/

namespace ContractLexer

/-! ## What more text changes -/

theorem Text.endsRun_append_of_ne_nil
    {p : Char → Bool}
    {s : Text}
    (h : EndsRun p s)
    (hne : s ≠ [])
    (t : Text) :
    EndsRun p (s ++ t) := by
  obtain ⟨c, s, rfl⟩ := List.exists_cons_of_ne_nil hne
  exact h

/-- A text that does not prolong a token does not do so with more text behind it,
unless it is empty or a point alone. -/
theorem TokenKind.stopsAt_append
    {kind : TokenKind}
    {s : Text}
    (h : kind.StopsAt s)
    (hne : s ≠ [])
    (hpoint : s ≠ ['.'])
    (t : Text) :
    kind.StopsAt (s ++ t) := by
  cases kind with
  | whitespace | keyword | identifier =>
      exact Text.endsRun_append_of_ne_nil h hne t
  | comment text =>
      rw [stopsAt_comment_iff] at h ⊢
      exact Text.endsRun_append_of_ne_nil h hne t
  | symbol | string =>
      trivial
  | number digits =>
      refine ⟨Text.endsRun_append_of_ne_nil h.1 hne t, ?_⟩
      intro hwhole d rest heq
      -- A point and a digit behind it prolong the number.  Both are in `s` already,
      -- unless `s` ends with the point.
      match s with
      | [] =>
          exact absurd rfl hne
      | [c] =>
          obtain ⟨rfl, -⟩ := List.cons.inj heq
          exact absurd rfl hpoint
      | c :: d' :: s =>
          cases heq
          exact h.2 hwhole d s rfl

namespace Lexeme

@[simp] theorem joined_append
    (ls ms : List Lexeme) :
    joined (ls ++ ms) = joined ls ++ joined ms := by
  exact List.flatMap_append

theorem longestMatch_append_iff
    {ls ms : List Lexeme}
    {r : Text} :
    LongestMatch (ls ++ ms) r ↔
      LongestMatch ls (joined ms ++ r) ∧ LongestMatch ms r := by
  induction ls with
  | nil =>
      simp [LongestMatch]
  | cons l ls ih =>
      simp [LongestMatch, ih, and_assoc]

/-- More text may follow the text behind lexemes, unless that is empty or a point
alone. -/
theorem longestMatch_append
    {ls : List Lexeme}
    {s : Text}
    (h : LongestMatch ls s)
    (hne : s ≠ [])
    (hpoint : s ≠ ['.'])
    (t : Text) :
    LongestMatch ls (s ++ t) := by
  induction ls with
  | nil =>
      trivial
  | cons l ls ih =>
      obtain ⟨hstops, hlongest⟩ := h
      refine ⟨?_, ih hlongest⟩
      rw [← List.append_assoc]
      apply TokenKind.stopsAt_append hstops
      · simp [hne]
      · intro heq
        rcases List.append_eq_singleton_iff.1 heq with ⟨-, hs⟩ | ⟨-, hs⟩
        · exact hpoint hs
        · exact hne hs

/-- Lexemes keep the longest-match condition in front of any text that does not
prolong the last of them, if that is no point. -/
theorem longestMatch_of_last
    {ls : List Lexeme}
    {l : Lexeme}
    {r : Text}
    (h : LongestMatch (ls ++ [l]) [])
    (hpoint : l.kind ≠ .symbol .dot)
    (hstops : l.kind.StopsAt r) :
    LongestMatch (ls ++ [l]) r := by
  obtain ⟨hls, -⟩ := longestMatch_append_iff.1 h
  rw [List.append_nil, joined_cons, joined_nil, List.append_nil] at hls
  refine longestMatch_append_iff.2 ⟨?_, ?_, trivial⟩
  · have htext : l.text ≠ ['.'] := by
      intro heq
      exact hpoint (kind_eq_dot heq)
    rw [joined_cons, joined_nil, List.append_nil]
    exact longestMatch_append hls l.text_ne_nil htext r
  · exact hstops

end Lexeme

/-! ## Texts that are moved -/

namespace Location

/-- The location moved by `a` lines, and on the first line by `b` columns. -/
def moved (a b : Nat) (l : Location) : Location :=
  if l.line = 1 then { line := l.line + a, column := l.column + b }
  else { line := l.line + a, column := l.column }

theorem step_moved
    (a b : Nat)
    {l : Location}
    (hl : 1 ≤ l.line)
    (c : Char) :
    (l.moved a b).step c = (l.step c).moved a b := by
  have hline : (l.moved a b).line = l.line + a := by
    unfold moved
    split <;> rfl
  by_cases hc : c = '\n'
  · have hnext : l.line + 1 ≠ 1 := by
      omega
    rw [step, if_pos hc, hline, step, if_pos hc, moved, if_neg hnext, Nat.add_right_comm]
  · by_cases hfirst : l.line = 1 <;>
      simp [moved, step, hc, hfirst, Nat.add_right_comm]

theorem one_le_line_step
    {l : Location}
    (hl : 1 ≤ l.line)
    (c : Char) :
    1 ≤ (l.step c).line := by
  by_cases hc : c = '\n' <;> simp [step, hc, hl]

theorem one_le_line_after
    {l : Location}
    (hl : 1 ≤ l.line)
    (t : Text) :
    1 ≤ (l.after t).line := by
  induction t generalizing l with
  | nil =>
      exact hl
  | cons c t ih =>
      exact ih (one_le_line_step hl c)

/-- Moving a text moves the location reached after it. -/
theorem after_moved
    (a b : Nat)
    {l : Location}
    (hl : 1 ≤ l.line)
    (t : Text) :
    (l.moved a b).after t = (l.after t).moved a b := by
  induction t generalizing l with
  | nil =>
      rfl
  | cons c t ih =>
      rw [after_cons, after_cons, step_moved a b hl, ih (one_le_line_step hl c)]

end Location

/-- The token at the moved location. -/
def Token.moved (a b : Nat) (t : Token) : Token :=
  { t with location := t.location.moved a b }

/-- The error at the moved location. -/
def LexicalError.moved (a b : Nat) (e : LexicalError) : LexicalError :=
  { e with location := e.location.moved a b }

/-- The item at the moved location. -/
def Item.moved (a b : Nat) : Item → Item
  | .ok t => .ok (t.moved a b)
  | .error e => .error (e.moved a b)

namespace Stream

/-- The stream of a text that is moved holds the same items at the moved locations. -/
theorem ofTextAt_moved
    (a b : Nat)
    {start : Location}
    (hstart : 1 ≤ start.line)
    (text : Text) :
    ofTextAt (start.moved a b) text = (ofTextAt start text).map (Item.moved a b) := by
  fun_induction ofTextAt start text with
  | case1 start =>
      rw [ofTextAt]
      rfl
  | case2 start c rest r h ih =>
      have htail := ih (Location.one_le_line_after hstart r.spelling)
      rw [← Location.after_moved a b hstart] at htail
      rw [ofTextAt_of_readToken _ h, htail]
      rfl
  | case3 start c rest f h =>
      have hlead := Location.after_moved a b hstart f.lead
      rw [ofTextAt_of_failure _ h, List.map_cons, List.map_nil, Item.moved, Failure.toError,
        hlead]
      rfl

theorem collect_map_moved
    (a b : Nat)
    (items : List Item) :
    collect (items.map (Item.moved a b)) =
      match collect items with
      | .ok tokens => .ok (tokens.map (Token.moved a b))
      | .error e => .error (e.moved a b) := by
  induction items with
  | nil =>
      rfl
  | cons item items ih =>
      cases item with
      | error e =>
          rfl
      | ok t =>
          rw [List.map_cons, Item.moved, collect, ih, collect]
          cases collect items <;> rfl

end Stream

/-! ## Two texts -/

/-- No text `r` behind a token of the kind changes it or a token in front of it: the
kind is white space and `r` starts with none, a string literal, or a symbol other than
the point. -/
def TokenKind.ClosedBefore : TokenKind → Text → Prop
  | whitespace _, r => Text.EndsRun isWhitespace r
  | string _, _ => True
  | symbol sign, _ => sign ≠ .dot
  | keyword _, _ => False
  | identifier _, _ => False
  | number _, _ => False
  | comment _, _ => False

theorem TokenKind.stopsAt_of_closedBefore
    {kind : TokenKind}
    {r : Text}
    (h : kind.ClosedBefore r) :
    kind ≠ .symbol .dot ∧ kind.StopsAt r := by
  cases kind with
  | whitespace =>
      exact ⟨by simp, h⟩
  | string =>
      exact ⟨by simp, trivial⟩
  | symbol sign =>
      refine ⟨?_, trivial⟩
      intro heq
      cases heq
      exact h rfl
  | keyword | identifier | number | comment =>
      cases h

/-- The last token of a text and its last lexeme are of one kind. -/
theorem Lexeme.exists_last_of_located
    {ls : List Lexeme}
    {start : Location}
    {t : Token}
    (h : (located start ls).getLast? = some t) :
    ∃ ms l, ls = ms ++ [l] ∧ l.kind = t.kind := by
  have hkinds : (ls.map Lexeme.kind).getLast? = some t.kind := by
    rw [← map_kind_located start, List.getLast?_map, h]
    rfl
  rw [List.getLast?_map, Option.map_eq_some_iff] at hkinds
  obtain ⟨l, hl, hkind⟩ := hkinds
  obtain ⟨ms, rfl⟩ := List.getLast?_eq_some_iff.1 hl
  exact ⟨ms, l, rfl, hkind⟩

/-- Let a text have tokens of which the last is closed before another text.  Then the
two texts, one behind the other, have the tokens of both, or the error of the second,
with the locations of the second moved by the lines and columns of the first. -/
theorem tokenize_append
    {front back : Text}
    {tokens : List Token}
    {last : Token}
    (hfront : tokenize front = .ok tokens)
    (hlast : tokens.getLast? = some last)
    (hclosed : last.kind.ClosedBefore back) :
    ∃ a b,
      Location.start.after front = { line := 1 + a, column := 1 + b } ∧
        (∀ more,
          tokenize back = .ok more →
            tokenize (front ++ back) = .ok (tokens ++ more.map (Token.moved a b))) ∧
        ∀ e,
          tokenize back = .error e →
            tokenize (front ++ back) = .error (e.moved a b) := by
  obtain ⟨ls, rfl, hlongest, rfl⟩ := tokenize_eq_ok_iff.1 hfront
  obtain ⟨ms, l, rfl, hkind⟩ := Lexeme.exists_last_of_located hlast
  rw [← hkind] at hclosed
  obtain ⟨hpoint, hstops⟩ := TokenKind.stopsAt_of_closedBefore hclosed
  have hmatch := Lexeme.longestMatch_of_last hlongest hpoint hstops
  generalize ms ++ [l] = ls at hmatch
  obtain ⟨a, b, hafter⟩ :
      ∃ a b, Location.start.after (Lexeme.joined ls) = { line := 1 + a, column := 1 + b } :=
    ⟨_, _, Location.after_start_eq_counted _⟩
  have hstream :
      Stream.ofText (Lexeme.joined ls ++ back) =
        (Lexeme.located .start ls).map .ok ++ (Stream.ofText back).map (Item.moved a b) := by
    have hmoved : Location.start.after (Lexeme.joined ls) = Location.start.moved a b := hafter
    rw [Stream.ofText, Stream.ofTextAt_append .start hmatch, hmoved,
      Stream.ofTextAt_moved a b (Nat.le_refl 1), Stream.ofText]
  refine ⟨a, b, hafter, ?_, ?_⟩
  · intro more hmore
    have hcollect : Stream.collect (Stream.ofText back) = .ok more := hmore
    rw [tokenize, hstream, Stream.collect_append, Stream.collect_map_moved, hcollect]
    rfl
  · intro e he
    have hcollect : Stream.collect (Stream.ofText back) = .error e := he
    rw [tokenize, hstream, Stream.collect_append, Stream.collect_map_moved, hcollect]
    rfl

theorem tokenize_append_string :
    tokenize "\"\n\"".toList =
        .ok [{ kind := .string ['\n'], location := { line := 1, column := 1 } }] ∧
      tokenize "x\n+".toList =
        .error { cause := .unexpectedSymbol '+', location := { line := 2, column := 1 } } ∧
      tokenize ("\"\n\"".toList ++ "x\n+".toList) =
        .error { cause := .unexpectedSymbol '+', location := { line := 3, column := 1 } } := by
  have hfront :
      tokenize "\"\n\"".toList =
        .ok [{ kind := .string ['\n'], location := { line := 1, column := 1 } }] := by
    decide +kernel
  have hback :
      tokenize "x\n+".toList =
        .error { cause := .unexpectedSymbol '+', location := { line := 2, column := 1 } } := by
    decide +kernel
  obtain ⟨a, b, hafter, -, herror⟩ := tokenize_append hfront rfl trivial
  refine ⟨hfront, hback, ?_⟩
  rw [herror _ hback]
  have hlines : 1 + a = 2 := by
    exact (congrArg Location.line hafter).symm
  have ha : a = 1 := by
    omega
  subst ha
  rfl

/-- A point is not closed: a digit behind it makes one numeral of three tokens. -/
example :
    (tokenize "1.".toList).toOption.map List.length = some 2 ∧
      tokenize ("1.".toList ++ "5".toList) =
        .ok [{ kind := .number "1.5".toList, location := .start }] := by
  decide +kernel

end ContractLexer
