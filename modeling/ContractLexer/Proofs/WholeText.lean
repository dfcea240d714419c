import ContractLexer.Proofs.ListingRows
import ContractLexer.Proofs.SessionCalls

/-!
# Going through a whole text

A text is gone through to its end by four loops: one collects all tokens, one collects
the significant tokens, one writes the listing, and one asks a session for the next token
until there is none.  They leave out different tokens, and none of them leaves out an
error or goes on behind one.

**Contents.**  The loop that asks a session, and the relation between a line of a listing
and the token it shows.

**Results.**
* `Session.readAll_eq_collect_drain`: asking for one token after the other gives what
  collecting the items of the session gives.
* `Stream.collect_filter_isSignificant`: trivia may be left out before or after the tokens
  are collected.
* `Listing.shows_rowsFrom`: the lines of a list of tokens show the tokens one by one.
* `whole_text_agrees`: the four loops agree on every text.
-/

namespace ContractLexer

/-! ## Asking a session until there is no token -/

namespace Session

/-- A call that gives a token brings the end nearer. -/
theorem remaining_read_lt
    {s behind : Session}
    {t : Token}
    (h : s.read = (.ok (some t), behind)) :
    behind.remaining < s.remaining := by
  cases s.step with
  | failed _ hread | atEnd _ _ hread | failure _ _ _ _ _ hread =>
      rw [hread] at h
      cases h
  | token _ _ _ _ _ hread hpull =>
      rw [hread] at h
      cases h
      exact remaining_pull_lt hpull

/-- Read one token after the other until there is none.  The result is the tokens, or the
error that stops reading. -/
def readAll (s : Session) : Except LexicalError (List Token) :=
  match _ : s.read with
  | (.error e, _) => .error e
  | (.ok none, _) => .ok []
  | (.ok (some t), behind) => behind.readAll.map fun tokens => t :: tokens
  termination_by s.remaining
  decreasing_by exact remaining_read_lt ‹_›

/-- Asking for one token after the other gives what collecting the items of the session
gives. -/
theorem readAll_eq_collect_drain
    {s : Session}
    (hfailed : s.failed = none) :
    s.readAll = Stream.collect s.drain.1 := by
  fun_induction readAll s with
  | case1 s e behind h =>
      cases s.step with
      | failed hsome =>
          rw [hfailed] at hsome
          cases hsome
      | atEnd _ _ hread | token _ _ _ _ _ hread =>
          rw [hread] at h
          cases h
      | failure _ _ _ _ hbehind hread hpull =>
          rw [hread] at h
          cases h
          rw [drain_of_pull_some hpull]
          rfl
  | case2 s behind h =>
      cases s.step with
      | failed _ hread | token _ _ _ _ _ hread | failure _ _ _ _ _ hread =>
          rw [hread] at h
          cases h
      | atEnd _ _ _ hpull =>
          rw [drain_of_pull_none hpull]
          rfl
  | case3 s t behind h ih =>
      cases s.step with
      | failed _ hread | atEnd _ _ hread | failure _ _ _ _ _ hread =>
          rw [hread] at h
          cases h
      | token _ _ _ _ hbehind hread hpull =>
          rw [hread] at h
          cases h
          -- A token leaves the session without an error, so the rest is read as well.
          have hgood : behind.failed = none := by
            rw [hbehind]
            exact hfailed
          rw [ih hgood, drain_of_pull_some hpull]
          rfl

end Session

/-! ## Leaving out trivia -/

/-- White space and comments are trivia, and nothing else is. -/
theorem TokenKind.isTrivia_iff
    {kind : TokenKind} :
    kind.isTrivia = true ↔
      (∃ text, kind = .whitespace text) ∨ ∃ text, kind = .comment text := by
  cases kind <;> simp [isTrivia]

/-- Trivia may be left out before or after the tokens are collected; an error is left out
in neither case. -/
theorem Stream.collect_filter_isSignificant
    (items : List Item) :
    collect (items.filter isSignificant) =
      (collect items).map fun ts => ts.filter fun t => !t.isTrivia := by
  induction items with
  | nil =>
      rfl
  | cons item items ih =>
      cases item with
      | error e =>
          rfl
      | ok t =>
          rw [List.filter_cons, isSignificant, collect]
          cases htrivia : t.isTrivia with
          | false =>
              rw [Bool.not_false, if_pos rfl, collect, ih]
              cases collect items <;> simp [Except.map, htrivia]
          | true =>
              rw [Bool.not_true, if_neg Bool.false_ne_true, ih]
              cases collect items <;> simp [Except.map, htrivia]

theorem significantTokens_eq_map
    (text : Text) :
    significantTokens text =
      (tokenize text).map fun ts => ts.filter fun t => !t.isTrivia := by
  exact Stream.collect_filter_isSignificant (Stream.ofText text)

namespace Listing

/-- The line shows the token, at some depth. -/
def Shows (o : Options) (seen : Text) (t : Token) : Prop :=
  ∃ depth, seen = row o depth t

/-- The lines of a list of tokens show the tokens one by one. -/
theorem shows_rowsFrom
    (o : Options)
    (depth : Nat)
    (ts : List Token) :
    List.Forall₂ (Shows o) (rowsFrom o depth ts) ts := by
  induction ts generalizing depth with
  | nil =>
      exact .nil
  | cons t ts ih =>
      exact .cons ⟨shownAt depth t, rfl⟩ (ih (depthBehind depth t))

end Listing

/-- The loops that go through a whole text agree.  What a session yields is the stream
that the others go through, and asking it for one token after the other gives all tokens
or the error.

If the text has an error, all tokens, the significant tokens and the listing fail with
it.  Otherwise the significant tokens are all tokens without white space and comments, and
the listing consists of one line for each token that it is to show, in order. -/
theorem whole_text_agrees
    (o : Listing.Options)
    (text : Text) :
    (Session.ofText text).drain.1 = Stream.ofText text ∧
      (Session.ofText text).readAll = tokenize text ∧
      ((∃ e,
          tokenize text = .error e ∧
            significantTokens text = .error e ∧
            Listing.ofText o text = .error e) ∨
        ∃ tokens significant listing,
          tokenize text = .ok tokens ∧
            significantTokens text = .ok significant ∧
            Listing.ofText o text = .ok listing ∧
            significant = tokens.filter (fun t => !t.isTrivia) ∧
            (∀ t : Token,
              t.isTrivia = true ↔
                (∃ space, t.kind = .whitespace space) ∨ ∃ remark, t.kind = .comment remark) ∧
            Command.unlines (Text.rows listing) = listing ∧
            List.Forall₂ (Listing.Shows o) (Text.rows listing)
              (if o.trivia then tokens else significant)) := by
  have hdrain := Session.drain_ofText text
  have hread : (Session.ofText text).readAll = tokenize text := by
    rw [Session.readAll_eq_collect_drain rfl, hdrain]
    rfl
  have hsignificant := significantTokens_eq_map text
  refine ⟨hdrain, hread, ?_⟩
  cases htokens : tokenize text with
  | error e =>
      left
      rw [htokens] at hsignificant
      have hlisting := Listing.ofText_eq_map_lines o text
      rw [Listing.listed, htokens] at hlisting
      exact ⟨e, rfl, hsignificant, hlisting⟩
  | ok tokens =>
      right
      rw [htokens] at hsignificant
      refine ⟨tokens, _, _, rfl, hsignificant, Listing.ofText_eq_ok_unlines o htokens, rfl,
        fun t => TokenKind.isTrivia_iff, ?_⟩
      rw [Listing.rows_unlines_rowsFrom, ← Listing.filter_isListed]
      exact ⟨rfl, Listing.shows_rowsFrom o 0 _⟩

end ContractLexer
