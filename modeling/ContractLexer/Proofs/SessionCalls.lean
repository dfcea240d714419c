import ContractLexer.Proofs.Positions
import ContractLexer.Proofs.Rejection

/-!
# Calls on a session

The next token of a session is asked for in two ways.  Both take the same step
through the text and differ only in what they reply at the end and after an error.
So the place of a session depends on how many such calls were made, and not on
which of the two was made when.

**Contents.**  The session after a list of calls, the tokens and the error of a stream,
and the place where an error leaves a session.

**Results.**
* `Session.read_fst_eq`: the reply of one way of asking, given by the other.
* `Session.follows_after`: the session after a list of calls has gone through as
  many items of the stream as there were advancing calls.
* `Session.replies_after_calls`: the replies of a session, whatever mixture of calls
  drives it.
-/

namespace ContractLexer

/-! ## The tokens and the error of a stream -/

namespace Stream

/-- The tokens of a stream in front of its first error. -/
def tokens : List Item → List Token
  | [] => []
  | .error _ :: _ => []
  | .ok t :: rest => t :: tokens rest

/-- The first error of a stream. -/
def error? : List Item → Option LexicalError
  | [] => none
  | .error e :: _ => some e
  | .ok _ :: rest => error? rest

theorem error?_append
    (items more : List Item) :
    error? (items ++ more) = (error? items).or (error? more) := by
  induction items with
  | nil =>
      rfl
  | cons item items ih =>
      cases item with
      | ok t =>
          exact ih
      | error e =>
          rfl

theorem collect_eq_error_iff
    {items : List Item}
    {e : LexicalError} :
    collect items = .error e ↔ error? items = some e := by
  induction items with
  | nil =>
      simp [collect, error?]
  | cons item items ih =>
      cases item with
      | error e' =>
          simp [collect, error?]
      | ok t =>
          rw [collect, error?, ← ih]
          cases collect items <;> simp [Except.map]

theorem collect_eq_ok_iff
    {items : List Item}
    {ts : List Token} :
    collect items = .ok ts ↔ error? items = none ∧ tokens items = ts := by
  induction items generalizing ts with
  | nil =>
      simp [collect, error?, tokens]
  | cons item items ih =>
      cases item with
      | error e =>
          simp [collect, error?]
      | ok t =>
          rw [collect, error?, tokens]
          cases hcollect : collect items with
          | error e =>
              simp [Except.map, collect_eq_error_iff.1 hcollect]
          | ok more =>
              obtain ⟨hnone, rfl⟩ := ih.1 hcollect
              simp [Except.map, hnone]

/-- A stream is made up of its tokens and of its error, which stands at its end. -/
theorem ofTextAt_eq_tokens_append
    (start : Location)
    (text : Text) :
    ofTextAt start text =
      (tokens (ofTextAt start text)).map .ok ++
        (error? (ofTextAt start text)).toList.map .error := by
  fun_induction ofTextAt start text with
  | case1 start =>
      rfl
  | case2 start c rest r h ih =>
      simpa [tokens, error?] using ih
  | case3 start c rest f h =>
      rfl

theorem ofText_eq_tokens_append
    (text : Text) :
    ofText text =
      (tokens (ofText text)).map .ok ++ (error? (ofText text)).toList.map .error := by
  exact ofTextAt_eq_tokens_append .start text

theorem getElem?_of_tokens
    {text : Text}
    {n : Nat}
    {t : Token}
    (h : (tokens (ofText text))[n]? = some t) :
    (ofText text)[n]? = some (.ok t) := by
  obtain ⟨hn, -⟩ := List.getElem?_eq_some_iff.1 h
  rw [ofText_eq_tokens_append, List.getElem?_append_left (by simpa using hn),
    List.getElem?_map, h]
  rfl

theorem getElem?_of_error?
    {text : Text}
    {e : LexicalError}
    (h : error? (ofText text) = some e) :
    (ofText text)[(tokens (ofText text)).length]? = some (.error e) := by
  have hstream := ofText_eq_tokens_append text
  rw [h] at hstream
  generalize tokens (ofText text) = front at hstream ⊢
  simp [hstream]

theorem length_ofText
    (text : Text) :
    (ofText text).length =
      (tokens (ofText text)).length + (error? (ofText text)).toList.length := by
  have hlengths := congrArg List.length (ofText_eq_tokens_append text)
  rwa [List.length_append, List.length_map, List.length_map] at hlengths

theorem length_ofText_le
    (text : Text) :
    (ofText text).length ≤ (tokens (ofText text)).length + 1 := by
  have hlength := length_ofText text
  cases herror : error? (ofText text) with
  | none =>
      rw [herror, Option.toList_none, List.length_nil] at hlength
      omega
  | some e =>
      rw [herror, Option.toList_some, List.length_singleton] at hlength
      omega

end Stream

/-! ## What an error has passed -/

/-- How much of a text is passed when no token can be read from it: nothing, what
stands up to the character of a bad escape, or all of it. -/
inductive Failure.Passes : Text → Failure → Prop
  | character
      (c : Char)
      (rest : Text) :
      Passes (c :: rest) (.here (.unexpectedCharacter c))
  | sign
      (c : Char)
      (rest : Text) :
      Passes (c :: rest) (.here (.unexpectedSymbol c))
  | escape
      (x : Char)
      (before rest : Text) :
      Passes (before ++ x :: rest)
        { cause := .invalidEscape x, lead := before, passed := before ++ [x] }
  | everything
      (text : Text) :
      Passes text { cause := .unterminatedString, lead := [], passed := text }

theorem passes_of_readToken
    {c : Char}
    {rest : Text}
    {f : Failure}
    (h : readToken c rest = .error f) :
    f.Passes (c :: rest) := by
  have hrule := rule_readToken c rest
  generalize readToken c rest = result at hrule h
  cases hrule with
  | whitespace | comment | word | number =>
      cases h
  | symbol =>
      obtain ⟨-, -, rfl⟩ := Reading.ofSymbol_eq_error_iff.1 h
      exact .sign c rest
  | string =>
      unfold Reading.ofString at h
      split at h
      · cases h
      · next x before hbody =>
          cases h
          obtain ⟨body, value, behind, -, -, rfl, rfl⟩ :=
            StringLiteral.readBody_eq_badEscape_iff.1 hbody
          have hescape := Failure.Passes.escape x ('"' :: (body ++ ['\\'])) behind
          simpa using hescape
      · cases h
        exact .everything _
  | unexpected =>
      cases h
      exact .character c rest

namespace Session

/-- Where a session over `text` stands after the error `e`.  It stands in front of
an unexpected character, behind the character of a bad escape, and at the end of
the text if a string literal is not closed. -/
def StandsAfter (text : Text) (e : LexicalError) (s : Session) : Prop :=
  match e.cause with
  | .unexpectedCharacter _ => s.location = e.location ∧ s.atEnd = false
  | .unexpectedSymbol _ => s.location = e.location ∧ s.atEnd = false
  | .invalidEscape x =>
      s.location = e.location.step x ∧
        ∃ front rest,
          text = front ++ x :: rest ∧
            e.location = Location.start.after front ∧
            s.cursor.rest = rest ∧
            s.atEnd = rest.isEmpty
  | .unterminatedString => s.location = Location.start.after text ∧ s.atEnd = true

theorem standsAfter_of_passes
    {text passed : Text}
    {s : Session}
    {f : Failure}
    (hbehind : s.cursor.Behind text passed)
    (hpasses : f.Passes s.cursor.rest) :
    StandsAfter text (f.toError s.location)
      { cursor := s.cursor.forward f.passed.length
        failed := some (f.toError s.location) } := by
  have hsplit := hbehind.append_rest
  have hlocation : s.location = Location.start.after passed := hbehind.location_eq
  generalize hrest : s.cursor.rest = rest at hpasses hsplit
  cases hpasses with
  | character c rest =>
      exact ⟨rfl, by simp [atEnd, Cursor.atEnd, Failure.here, hrest]⟩
  | sign c rest =>
      exact ⟨rfl, by simp [atEnd, Cursor.atEnd, Failure.here, hrest]⟩
  | escape x before rest =>
      have hcut : before ++ x :: rest = (before ++ [x]) ++ rest := by
        simp
      have hrest' : (s.cursor.forward (before ++ [x]).length).rest = rest := by
        rw [Cursor.rest_forward, hrest, hcut, List.drop_left]
      refine ⟨?_, passed ++ before, rest, ?_, ?_, hrest', ?_⟩
      · simp only [location, Cursor.location_forward, hrest, hcut, List.take_left,
          Location.after_append]
        rfl
      · rw [← hsplit, List.append_assoc]
      · rw [Location.after_append, ← hlocation]
        rfl
      · rw [atEnd, Cursor.atEnd, hrest']
  | everything rest =>
      refine ⟨?_, ?_⟩
      · simp only [location, Cursor.location_forward, hrest, List.take_length]
        rw [← hsplit, Location.after_append, ← hlocation]
        rfl
      · simp [atEnd, Cursor.atEnd, hrest]

/-! ## One advancing call -/

/-- Both ways of asking lead to the same session. -/
theorem read_snd_eq_pull_snd
    (s : Session) :
    s.read.2 = s.pull.2 := by
  cases s.step <;> simp [*]

/-- The reply to `read` is the item that `pull` yields.  Where it yields none, the
reply is the error that the session keeps, if there is one. -/
theorem read_fst_eq
    (s : Session) :
    s.read.1 =
      match s.pull.1, s.failed with
      | some (.ok t), _ => .ok (some t)
      | some (.error e), _ => .error e
      | none, some e => .error e
      | none, none => .ok none := by
  cases s.step <;> simp [*]

/-- Where nothing is yielded, the session stays as it is. -/
theorem pull_eq_of_none
    {s : Session}
    (h : s.pull.1 = none) :
    s.pull = (none, s) := by
  cases s.step with
  | failed _ _ hpull | atEnd _ _ _ hpull =>
      exact hpull
  | token _ _ _ _ _ _ hpull | failure _ _ _ _ _ _ hpull =>
      rw [hpull] at h
      cases h

/-- A session that yields nothing and has not failed stands at the end. -/
theorem atEnd_of_pull_none
    {s : Session}
    (h : s.pull.1 = none)
    (hfailed : s.failed = none) :
    s.atEnd = true := by
  cases s.step with
  | failed hsome =>
      rw [hfailed] at hsome
      cases hsome
  | atEnd _ hrest =>
      simp [atEnd, Cursor.atEnd, hrest]
  | token _ _ _ _ _ _ hpull | failure _ _ _ _ _ _ hpull =>
      rw [hpull] at h
      cases h

/-- The item that is yielded is the first of those still to come. -/
theorem pull_fst_eq_head?
    (s : Session) :
    s.pull.1 = s.drain.1.head? := by
  cases hpull : s.pull with
  | mk item behind =>
      cases item with
      | none =>
          rw [drain_of_pull_none hpull]
          rfl
      | some item =>
          rw [drain_of_pull_some hpull]
          rfl

/-- Behind an advancing call the other items are still to come. -/
theorem drain_pull_snd
    (s : Session) :
    s.pull.2.drain.1 = s.drain.1.tail := by
  cases hpull : s.pull with
  | mk item behind =>
      cases item with
      | none =>
          have hsame := pull_eq_of_none (congrArg Prod.fst hpull)
          rw [hpull, Prod.mk.injEq] at hsame
          rw [hsame.2, drain_of_pull_none (hsame.2 ▸ hpull)]
          rfl
      | some item =>
          rw [drain_of_pull_some hpull]
          rfl

end Session

/-! ## Lists of calls -/

/-- The call asks for the next token, in one way or the other. -/
def Call.advances : Call → Bool
  | .read => true
  | .pull => true
  | .count => false
  | .look => false

namespace Session

/-- The session after a list of calls. -/
def after (s : Session) (calls : List Call) : Session :=
  ((s.run calls).map Prod.snd).getLastD s

@[simp] theorem after_nil
    (s : Session) :
    s.after [] = s := by
  rfl

@[simp] theorem after_cons
    (s : Session)
    (call : Call)
    (calls : List Call) :
    s.after (call :: calls) = (s.perform call).2.after calls := by
  rw [after, run, List.map_cons, List.getLastD_cons]
  rfl

theorem perform_snd_of_advances
    {call : Call}
    (hcall : call.advances = true)
    (s : Session) :
    (s.perform call).2 = s.pull.2 := by
  cases call with
  | read =>
      exact s.read_snd_eq_pull_snd
  | pull =>
      rfl
  | count | look =>
      cases hcall

/-- Where nothing is yielded, no call changes the session. -/
theorem perform_snd_of_pull_none
    {s : Session}
    (h : s.pull.1 = none)
    (call : Call) :
    (s.perform call).2 = s := by
  have hpull := pull_eq_of_none h
  cases call with
  | read | pull =>
      rw [perform_snd_of_advances rfl, hpull]
  | count =>
      change s.drain.2 = s
      rw [drain_of_pull_none hpull]
  | look =>
      rfl

theorem after_of_pull_none
    {s : Session}
    (h : s.pull.1 = none)
    (calls : List Call) :
    s.after calls = s := by
  induction calls with
  | nil =>
      rfl
  | cons call calls ih =>
      rw [after_cons, perform_snd_of_pull_none h, ih]

/-- What every advancing call carries on, a list of calls carries on as often as
there are advancing calls in it. -/
theorem after_induction
    {P : Nat → Session → Prop}
    (hstep : ∀ n s, P n s → P (n + 1) s.pull.2)
    {calls : List Call}
    (hcalls : .count ∉ calls)
    {n : Nat}
    {s : Session}
    (h : P n s) :
    P (n + calls.countP Call.advances) (s.after calls) := by
  induction calls generalizing n s with
  | nil =>
      exact h
  | cons call calls ih =>
      rw [List.mem_cons, not_or] at hcalls
      rw [after_cons]
      cases call with
      | read | pull =>
          have hcount : n + 1 + calls.countP Call.advances =
              n + (calls.countP Call.advances + 1) := by
            omega
          rw [perform_snd_of_advances rfl, List.countP_cons_of_pos rfl, ← hcount]
          exact ih hcalls.2 (hstep n s h)
      | count =>
          exact absurd rfl hcalls.1
      | look =>
          rw [List.countP_cons_of_neg (by decide)]
          exact ih hcalls.2 h

/-- The session over `text` has gone through the first `n` items of its stream. -/
structure Follows (text : Text) (n : Nat) (s : Session) : Prop where
  items : s.drain.1 = (Stream.ofText text).drop n
  failed : s.failed = Stream.error? ((Stream.ofText text).take n)
  behind : ∃ passed, s.cursor.Behind text passed
  stands : ∀ e, s.failed = some e → s.StandsAfter text e

theorem follows_ofText
    (text : Text) :
    (ofText text).Follows text 0 := by
  refine ⟨drain_ofText text, rfl, ⟨[], Cursor.behind_ofText text⟩, ?_⟩
  intro e he
  cases he

theorem Follows.pull_fst
    {text : Text}
    {n : Nat}
    {s : Session}
    (h : s.Follows text n) :
    s.pull.1 = (Stream.ofText text)[n]? := by
  rw [pull_fst_eq_head?, h.items, List.head?_drop]

/-- Past the end of the stream nothing is yielded, and the error of the stream is
kept. -/
theorem Follows.past_end
    {text : Text}
    {n : Nat}
    {s : Session}
    (h : s.Follows text n)
    (hn : (Stream.ofText text).length ≤ n) :
    s.pull.1 = none ∧ s.failed = Stream.error? (Stream.ofText text) := by
  constructor
  · rw [h.pull_fst, List.getElem?_eq_none hn]
  · rw [h.failed, List.take_of_length_le hn]

theorem Follows.pull
    {text : Text}
    {n : Nat}
    {s : Session}
    (h : s.Follows text n) :
    s.pull.2.Follows text (n + 1) := by
  have hitem := h.pull_fst
  -- The items and the error move on by one in every case.  The cases of the step are
  -- only needed for the error that is kept and for where it leaves the session.
  have hitems : s.pull.2.drain.1 = (Stream.ofText text).drop (n + 1) := by
    rw [drain_pull_snd, h.items, List.tail_drop]
  have herror :
      Stream.error? ((Stream.ofText text).take (n + 1)) =
        s.failed.or (Stream.error? s.pull.1.toList) := by
    rw [List.take_add_one, Stream.error?_append, ← h.failed, ← hitem]
  obtain ⟨passed, hbehind⟩ := h.behind
  cases s.step with
  | failed _ _ hpull | atEnd _ _ _ hpull =>
      rw [hpull] at hitems herror ⊢
      exact ⟨hitems, by simp [herror, Stream.error?], h.behind, h.stands⟩
  | token hfailed hrest hread ht hnext _ hpull =>
      rw [hpull] at hitems herror ⊢
      subst hnext
      refine ⟨hitems, ?_, ⟨_, hbehind.forward _⟩, ?_⟩
      · simp [herror, Stream.error?, hfailed]
      · intro e he
        rw [hfailed] at he
        cases he
  | failure hfailed hrest hread he hnext _ hpull =>
      rw [hpull] at hitems herror ⊢
      subst hnext he
      refine ⟨hitems, ?_, ⟨_, hbehind.forward _⟩, ?_⟩
      · simp [herror, Stream.error?, hfailed]
      · intro e he
        cases he
        apply standsAfter_of_passes hbehind
        rw [hrest]
        exact passes_of_readToken hread

/-- The session after a list of calls has gone through as many items of the stream
as there were advancing calls. -/
theorem follows_after
    (text : Text)
    {calls : List Call}
    (hcalls : .count ∉ calls) :
    ((ofText text).after calls).Follows text (calls.countP Call.advances) := by
  have h := after_induction (P := fun n s => s.Follows text n) (fun _ _ h => h.pull) hcalls
    (follows_ofText text)
  rwa [Nat.zero_add] at h

/-- A session over a text replies as one fixed stream, in whatever order it is asked.
Let `n` advancing calls have been made.  As long as `n` counts a token of the text,
both ways of asking give that token.  Then a text without an error gives nothing any
more and the session stands at the end, while a text with an error gives the error;
afterwards `read` repeats it and `pull` gives nothing.  From the first of these
final replies on, no call moves the session. -/
theorem replies_after_calls
    (text : Text)
    (calls : List Call)
    (hcalls : .count ∉ calls) :
    let tokens := Stream.tokens (Stream.ofText text)
    let n := calls.countP Call.advances
    let s := (ofText text).after calls
    (∀ t, tokens[n]? = some t →
        s.read.1 = .ok (some t) ∧ s.pull.1 = some (.ok t)) ∧
      (∀ found, tokenize text = .ok found →
        found = tokens ∧
          (tokens.length ≤ n →
            s.read.1 = .ok none ∧ s.pull.1 = none ∧ s.atEnd = true)) ∧
      (∀ e, tokenize text = .error e →
        (n = tokens.length → s.read.1 = .error e ∧ s.pull.1 = some (.error e)) ∧
        (tokens.length < n →
          s.read.1 = .error e ∧ s.pull.1 = none ∧ s.StandsAfter text e)) ∧
      (tokens.length < n → ∀ more,
        (s.after more).location = s.location ∧ (s.after more).atEnd = s.atEnd) := by
  intro tokens n s
  have hfollows : s.Follows text n := follows_after text hcalls
  have hpull := hfollows.pull_fst
  have hread := s.read_fst_eq
  have hpast : tokens.length < n → (Stream.ofText text).length ≤ n :=
    Nat.le_trans (Stream.length_ofText_le text)
  refine ⟨?_, ?_, ?_, ?_⟩
  · intro t ht
    rw [Stream.getElem?_of_tokens ht] at hpull
    exact ⟨by rw [hread, hpull], hpull⟩
  · intro found hok
    obtain ⟨hnone, rfl⟩ := Stream.collect_eq_ok_iff.1 hok
    refine ⟨rfl, ?_⟩
    intro hn
    have hlength := Stream.length_ofText text
    rw [hnone, Option.toList_none, List.length_nil, Nat.add_zero] at hlength
    obtain ⟨hitem, hfailed⟩ := hfollows.past_end (hlength ▸ hn)
    rw [hnone] at hfailed
    exact ⟨by rw [hread, hitem, hfailed], hitem, atEnd_of_pull_none hitem hfailed⟩
  · intro e herror
    have hsome := Stream.collect_eq_error_iff.1 herror
    constructor
    · intro hn
      rw [hn, Stream.getElem?_of_error? hsome] at hpull
      exact ⟨by rw [hread, hpull], hpull⟩
    · intro hn
      obtain ⟨hitem, hfailed⟩ := hfollows.past_end (hpast hn)
      rw [hsome] at hfailed
      exact ⟨by rw [hread, hitem, hfailed], hitem, hfollows.stands e hfailed⟩
  · intro hn more
    rw [after_of_pull_none (hfollows.past_end (hpast hn)).1]
    exact ⟨rfl, rfl⟩

theorem replies_after_calls_badEscape :
    let s := (ofText "a\"\\\n".toList).after [.pull, .look, .read, .look]
    s.read.1 =
        .error { cause := .invalidEscape '\n', location := { line := 1, column := 4 } } ∧
      s.pull.1 = none ∧
      s.location = { line := 2, column := 1 } := by
  have herror :
      tokenize "a\"\\\n".toList =
        .error { cause := .invalidEscape '\n', location := { line := 1, column := 4 } } := by
    decide +kernel
  have hlength :
      (Stream.tokens (Stream.ofText "a\"\\\n".toList)).length <
        [Call.pull, .look, .read, .look].countP Call.advances := by
    decide +kernel
  obtain ⟨-, -, hfails, -⟩ :=
    replies_after_calls "a\"\\\n".toList [.pull, .look, .read, .look] (by decide)
  obtain ⟨hread, hpull, hlocation, -⟩ := (hfails _ herror).2 hlength
  exact ⟨hread, hpull, hlocation⟩

end Session
end ContractLexer
