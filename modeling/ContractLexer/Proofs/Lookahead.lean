import ContractLexer.Proofs.TokenLocations

/-!
# Bounded lookahead

What stands behind a token decides whether the token is prolonged.  Two characters
are enough for that: a run is ended by the first of them, and the digits of a number
are prolonged by a point and a digit.  So two texts that agree up to two characters
behind some tokens both start with these tokens.

**Results.**
* `TokenKind.stopsAt_of_take_eq`: whether a token is prolonged is seen from two
  characters.
* `Session.given_of_longestMatch`, `Session.exists_longestMatch_of_given`: calls that
  all give a token cut off lexemes that meet the longest-match condition.
* `Session.given_of_take_eq`: tokens depend on no text beyond the second character
  behind them.
-/

namespace ContractLexer

/-! ## Two characters -/

theorem Text.endsRun_of_take_eq
    {p : Char → Bool}
    {r r' : Text}
    (h : EndsRun p r)
    (hr : r.take 2 = r'.take 2) :
    EndsRun p r' := by
  have hhead : r.head? = r'.head? := by
    have htaken := congrArg List.head? hr
    rwa [List.head?_take, List.head?_take] at htaken
  intro c hc
  exact h c (hhead.trans hc)

/-- Whether a text prolongs a token is seen from its first two characters. -/
theorem TokenKind.stopsAt_of_take_eq
    {kind : TokenKind}
    {r r' : Text}
    (h : kind.StopsAt r)
    (hr : r.take 2 = r'.take 2) :
    kind.StopsAt r' := by
  cases kind with
  | whitespace | keyword | identifier =>
      exact Text.endsRun_of_take_eq h hr
  | comment text =>
      rw [stopsAt_comment_iff] at h ⊢
      exact Text.endsRun_of_take_eq h hr
  | symbol | string =>
      trivial
  | number digits =>
      refine ⟨Text.endsRun_of_take_eq h.1 hr, ?_⟩
      rintro hwhole d rest rfl
      -- The point and the digit are the two characters, so they stand in `r` as well.
      match r with
      | [] | [_] =>
          simp at hr
      | c :: d' :: behind =>
          simp only [List.take_succ_cons, List.take_zero, List.cons.injEq, and_true] at hr
          obtain ⟨rfl, rfl⟩ := hr
          exact h.2 hwhole d' behind rfl

theorem Text.take_append_congr
    {n : Nat}
    {r r' : Text}
    (hr : r.take n = r'.take n)
    (s : Text) :
    (s ++ r).take n = (s ++ r').take n := by
  have hless : r.take (n - s.length) = r'.take (n - s.length) := by
    have htaken := congrArg (List.take (n - s.length)) hr
    rwa [List.take_take, List.take_take, Nat.min_eq_left (Nat.sub_le n s.length)] at htaken
  rw [List.take_append, List.take_append, hless]

/-- A text that agrees with `s ++ r` up to `n` characters behind `s` starts with `s`. -/
theorem Text.exists_append_of_take_eq
    {s r t : Text}
    {n : Nat}
    (h : (s ++ r).take (s.length + n) = t.take (s.length + n)) :
    ∃ r', t = s ++ r' ∧ r.take n = r'.take n := by
  induction s generalizing t with
  | nil =>
      rw [List.length_nil, Nat.zero_add] at h
      exact ⟨t, rfl, h⟩
  | cons c s ih =>
      rw [List.length_cons, Nat.add_right_comm, List.cons_append, List.take_succ_cons] at h
      cases t with
      | nil =>
          cases h
      | cons c' t =>
          rw [List.take_succ_cons, List.cons.injEq] at h
          obtain ⟨r', rfl, hr⟩ := ih h.2
          exact ⟨r', by rw [h.1, List.cons_append], hr⟩

/-- Lexemes keep the longest-match condition when the text behind them changes after
its second character. -/
theorem Lexeme.longestMatch_of_take_eq
    {ls : List Lexeme}
    {r r' : Text}
    (h : LongestMatch ls r)
    (hr : r.take 2 = r'.take 2) :
    LongestMatch ls r' := by
  induction ls with
  | nil =>
      trivial
  | cons l ls ih =>
      obtain ⟨hstops, hlongest⟩ := h
      exact ⟨TokenKind.stopsAt_of_take_eq hstops (Text.take_append_congr hr (joined ls)),
        ih hlongest⟩

/-! ## Calls that give tokens -/

namespace Session

/-- What the calls of a run give: for each of them the token, if it gives one. -/
def given (s : Session) (calls : List Call) : List (Option Token) :=
  (s.run calls).map fun step => step.1.token?

theorem given_cons
    (s : Session)
    (call : Call)
    (calls : List Call) :
    s.given (call :: calls) = (s.perform call).1.token? :: (s.perform call).2.given calls := by
  rfl

/-- A call gives the lexeme that stands next in the text, and passes it. -/
theorem read_of_lexeme
    {text passed r : Text}
    {s : Session}
    {l : Lexeme}
    (hfailed : s.failed = none)
    (hbehind : s.cursor.Behind text passed)
    (hrest : s.cursor.rest = l.text ++ r)
    (hstops : l.kind.StopsAt r) :
    (s.perform .read).1.token? = some { kind := l.kind, location := s.location } ∧
      (s.perform .read).2.failed = none ∧
      (s.perform .read).2.cursor.Behind text (passed ++ l.text) ∧
      (s.perform .read).2.cursor.rest = r := by
  obtain ⟨c, rest, htext, hread⟩ := l.exists_readToken hstops
  have hcons : s.cursor.rest = c :: rest := hrest.trans htext
  have hperform :
      s.perform .read =
        (.token (.ok (some { kind := l.kind, location := s.location })),
          { s with cursor := s.cursor.forward l.text.length }) := by
    simp [perform, read, readLogged, hfailed, hcons, hread]
  have hforward := hbehind.forward l.text.length
  rw [hrest, List.take_left] at hforward
  rw [hperform]
  refine ⟨rfl, hfailed, hforward, ?_⟩
  rw [Cursor.rest_forward, hrest, List.drop_left]

/-- A call that gives a token finds a lexeme. -/
theorem exists_lexeme_of_read
    {s : Session}
    {t : Token}
    (h : (s.perform .read).1.token? = some t) :
    s.failed = none ∧
      ∃ (l : Lexeme) (r : Text), s.cursor.rest = l.text ++ r ∧ l.kind.StopsAt r := by
  have hpulled := pull_of_token? h
  cases s.step with
  | failed _ _ hpull | atEnd _ _ _ hpull | failure _ _ _ _ _ _ hpull =>
      rw [hpull] at hpulled
      cases hpulled
  | @token c rest r _ _ hfailed hrest hread ht hnext _ hpull =>
      rw [hpull] at hpulled
      cases hpulled
      obtain ⟨hspelled, hstops⟩ := spelledBy_and_stopsAt_of_readToken hread
      have hcovers := (readToken_covers hread).1
      refine ⟨hfailed, ⟨r.kind, r.spelling, hspelled⟩, r.rest, ?_, hstops⟩
      rw [hrest, hcovers]

/-- In front of lexemes that meet the longest-match condition, as many calls give their
tokens and pass them. -/
theorem given_of_longestMatch
    {ls : List Lexeme}
    {text passed r : Text}
    {s : Session}
    (hfailed : s.failed = none)
    (hbehind : s.cursor.Behind text passed)
    (hrest : s.cursor.rest = Lexeme.joined ls ++ r)
    (hlongest : Lexeme.LongestMatch ls r) :
    s.given (List.replicate ls.length .read) = (Lexeme.located s.location ls).map some ∧
      (s.after (List.replicate ls.length .read)).cursor.Behind text
        (passed ++ Lexeme.joined ls) := by
  induction ls generalizing s passed with
  | nil =>
      simpa [given, run, Lexeme.located] using hbehind
  | cons l ls ih =>
      obtain ⟨hstops, hlongest⟩ := hlongest
      rw [Lexeme.joined_cons, List.append_assoc] at hrest
      obtain ⟨htoken, hfailed', hbehind', hrest'⟩ :=
        read_of_lexeme hfailed hbehind hrest hstops
      obtain ⟨htail, hafter⟩ := ih hfailed' hbehind' hrest' hlongest
      have hlocation :
          (s.perform .read).2.location = s.location.after l.text := by
        rw [location, hbehind'.location_eq, Location.after_append, ← hbehind.location_eq]
        rfl
      rw [hlocation] at htail
      rw [List.append_assoc] at hafter
      rw [List.length_cons, List.replicate_succ, given_cons, htoken, htail, after_cons]
      exact ⟨rfl, hafter⟩

/-- Calls that all give a token cut off lexemes that meet the longest-match condition. -/
theorem exists_longestMatch_of_given
    {k : Nat}
    {tokens : List Token}
    {text passed : Text}
    {s : Session}
    (hbehind : s.cursor.Behind text passed)
    (h : s.given (List.replicate k .read) = tokens.map some) :
    ∃ (ls : List Lexeme) (r : Text),
      s.cursor.rest = Lexeme.joined ls ++ r ∧
        Lexeme.LongestMatch ls r ∧
        ls.length = k := by
  induction k generalizing s passed tokens with
  | zero =>
      exact ⟨[], s.cursor.rest, rfl, trivial, rfl⟩
  | succ k ih =>
      rw [List.replicate_succ, given_cons] at h
      obtain ⟨t, tokens', rfl, htoken, htail⟩ := List.map_eq_cons_iff.1 h.symm
      obtain ⟨hfailed, l, r, hrest, hstops⟩ := exists_lexeme_of_read htoken.symm
      obtain ⟨-, -, hbehind', hrest'⟩ := read_of_lexeme hfailed hbehind hrest hstops
      obtain ⟨ls, r', hjoined, hlongest, hlength⟩ := ih hbehind' htail.symm
      rw [hrest'] at hjoined
      subst hjoined
      refine ⟨l :: ls, r', ?_, ⟨hstops, hlongest⟩, by simp [hlength]⟩
      rw [hrest, Lexeme.joined_cons, List.append_assoc]

/-- Let the first calls on a session all give a token and pass `n` characters together.
On any text that agrees with the first one in its first `n + 2` characters, the same
number of calls give the same tokens at the same locations, and leave the session at
the same place. -/
theorem given_of_take_eq
    {text text' : Text}
    {k n : Nat}
    {tokens : List Token}
    (hgiven : (ofText text).given (List.replicate k .read) = tokens.map some)
    (hpassed : ((ofText text).after (List.replicate k .read)).cursor.charOffset = n)
    (hagree : text.take (n + 2) = text'.take (n + 2)) :
    (ofText text').given (List.replicate k .read) = tokens.map some ∧
      let s := (ofText text).after (List.replicate k .read)
      let s' := (ofText text').after (List.replicate k .read)
      s'.cursor.charOffset = n ∧
        s'.cursor.byteOffset = s.cursor.byteOffset ∧
        s'.location = s.location := by
  obtain ⟨ls, r, htext, hlongest, rfl⟩ :=
    exists_longestMatch_of_given (Cursor.behind_ofText text) hgiven
  obtain ⟨htokens, hbehind⟩ :=
    given_of_longestMatch (s := ofText text) rfl (Cursor.behind_ofText text) htext hlongest
  have hn : (Lexeme.joined ls).length = n := by
    rw [← hpassed, hbehind.charOffset_eq, List.nil_append]
  -- The texts agree on the lexemes and on two characters behind them.
  obtain ⟨r', htext', hr⟩ : ∃ r', text' = Lexeme.joined ls ++ r' ∧ r.take 2 = r'.take 2 := by
    apply Text.exists_append_of_take_eq
    rw [hn, ← hagree]
    exact congrArg (List.take (n + 2)) htext.symm
  have hlongest' := Lexeme.longestMatch_of_take_eq hlongest hr
  obtain ⟨htokens', hbehind'⟩ :=
    given_of_longestMatch (s := ofText text') rfl (Cursor.behind_ofText text') htext' hlongest'
  refine ⟨?_, ?_, ?_, ?_⟩
  · rw [htokens', ← hgiven, htokens]
    rfl
  · rw [hbehind'.charOffset_eq, List.nil_append, hn]
  · rw [hbehind'.byteOffset_eq, hbehind.byteOffset_eq]
  · rw [location, location, hbehind'.location_eq, hbehind.location_eq]

theorem given_of_take_eq_number :
    "é 1.x\"".toList ≠ "é 1.x+\n".toList ∧
      (ofText "é 1.x+\n".toList).given [.read, .read, .read] =
        [some { kind := .identifier ['é'], location := { line := 1, column := 1 } },
         some { kind := .whitespace [' '], location := { line := 1, column := 2 } },
         some { kind := .number ['1'], location := { line := 1, column := 3 } }] ∧
      ((ofText "é 1.x+\n".toList).after [.read, .read, .read]).cursor.charOffset = 3 := by
  have hfirst :
      (ofText "é 1.x\"".toList).given (List.replicate 3 .read) =
        [{ kind := .identifier ['é'], location := { line := 1, column := 1 } },
         { kind := .whitespace [' '], location := { line := 1, column := 2 } },
         { kind := .number ['1'], location := { line := 1, column := 3 } }].map some := by
    decide +kernel
  have hthree :
      ((ofText "é 1.x\"".toList).after (List.replicate 3 .read)).cursor.charOffset = 3 := by
    decide +kernel
  have hagree : "é 1.x\"".toList.take (3 + 2) = "é 1.x+\n".toList.take (3 + 2) := by
    decide
  obtain ⟨hgiven, hpassed, -⟩ := given_of_take_eq hfirst hthree hagree
  exact ⟨by decide, hgiven, hpassed⟩

/-- One character behind a token is not enough: behind a number both texts have a point. -/
example :
    "1.".toList.take (1 + 1) = "1.5".toList.take (1 + 1) ∧
      (ofText "1.".toList).given [.read] = [some { kind := .number ['1'], location := .start }] ∧
      (ofText "1.5".toList).given [.read] =
        [some { kind := .number "1.5".toList, location := .start }] := by
  decide +kernel

end Session
end ContractLexer
