import ContractLexer.Guarded.Session
import ContractLexer.Proofs.GuardedReading
import ContractLexer.Proofs.Indentation
import ContractLexer.Proofs.Progress

/-!
# Nothing fails

A guarded session cuts every part it looks at out of the text by byte positions, keeps its
counters in a limited width, and says so when it cannot.  Here it is shown that on a text of
at most `2 ^ 32 - 2` characters it always can: every list of calls is answered, and every
listing is written, just as if the counters had no limit.

**Results.**
* `Session.run_guarded`: a list of calls on a guarded session.
* `Listing.ofSession_guarded`: the listing of what a guarded session gives.
* `Listing.depthAfter_le_countP`: the depth of a listing is bounded by the braces seen.
* `nothing_fails`: on a text that is small enough, nothing fails.
-/

namespace ContractLexer

namespace Session

/-- The session by the counters of its cursor alone. -/
def guarded (s : Session) : Guarded.Session :=
  { cursor := s.cursor.guarded, failed := s.failed }

/-! ## One call -/

theorem read_guarded
    {s : Session}
    (h : s.cursor.Fits) :
    s.guarded.read = .ok (s.read.1, s.read.2.guarded) := by
  have hnext : s.cursor.guarded.next? = .ok s.cursor.rest.head? := h.next?_guarded
  cases s.step with
  | failed hfailed hread =>
      simp [Guarded.Session.read, guarded, hfailed, hread]
  | atEnd hfailed hrest hread =>
      simp [Guarded.Session.read, guarded, hfailed, hread, hnext, hrest]
  | token hfailed hrest htoken ht hbehind hread =>
      have hguarded := h.readToken_guarded hrest
      rw [htoken] at hguarded
      rw [hread, hbehind, ht]
      simp [Guarded.Session.read, guarded, hfailed, hnext, hrest, hguarded, Cursor.outcome,
        location]
  | failure hfailed hrest hfailure he hbehind hread =>
      have hguarded := h.readToken_guarded hrest
      rw [hfailure] at hguarded
      rw [hread, hbehind, he]
      simp [Guarded.Session.read, guarded, hfailed, hnext, hrest, hguarded, Cursor.outcome,
        location]

theorem pull_guarded
    {s : Session}
    (h : s.cursor.Fits) :
    s.guarded.pull = .ok (s.pull.1, s.pull.2.guarded) := by
  have hread := read_guarded h
  cases s.step with
  | failed hfailed _ hpull =>
      simp [Guarded.Session.pull, guarded, hfailed, hpull]
  | atEnd hfailed _ hreply hpull
  | token hfailed _ _ _ _ hreply hpull
  | failure hfailed _ _ _ _ hreply hpull =>
      have hopen : s.guarded.failed = none := hfailed
      rw [hreply] at hread
      simp [Guarded.Session.pull, hopen, hread, hpull]

theorem fits_perform
    {s : Session}
    (h : s.cursor.Fits)
    (call : Call) :
    (s.perform call).2.cursor.Fits := by
  obtain ⟨passed, hbehind⟩ := exists_behind_perform h.exists_behind call
  exact hbehind.fits h.length_le

theorem fits_of_pull
    {s behind : Session}
    {item : Item}
    (h : s.cursor.Fits)
    (hpull : s.pull = (some item, behind)) :
    behind.cursor.Fits := by
  have hfits : s.pull.2.cursor.Fits := fits_perform h .pull
  rwa [hpull] at hfits

/-- Every round of a loop over the items brings the end nearer. -/
theorem remaining_guarded_lt
    {s behind : Session}
    {item : Item}
    (h : s.cursor.Fits)
    (hpull : s.pull = (some item, behind)) :
    behind.guarded.remaining < s.guarded.remaining := by
  cases s.step with
  | failed _ _ hnone | atEnd _ _ _ hnone =>
      rw [hnone] at hpull
      cases hpull
  | token hfailed hrest htoken _ hbehind _ hsome =>
      rw [hsome] at hpull
      cases hpull
      have hne := List.length_pos_iff.2 (readToken_covers htoken).2
      have hleft := h.left_forward_lt hne (by simp [hrest])
      subst hbehind
      simpa [Guarded.Session.remaining, guarded, hfailed] using hleft
  | failure hfailed _ _ _ hbehind _ hsome =>
      rw [hsome] at hpull
      cases hpull
      subst hbehind
      simp [Guarded.Session.remaining, guarded, hfailed]

theorem drain_guarded
    {s : Session}
    (h : s.cursor.Fits) :
    s.guarded.drain = .ok (s.drain.1, s.drain.2.guarded) := by
  fun_induction drain s with
  | case1 s behind hpull =>
      rw [Guarded.Session.drain, pull_guarded h, hpull]
      rfl
  | case2 s item behind hpull tail ih =>
      have hlt := remaining_guarded_lt h hpull
      have htail : behind.guarded.drain = .ok (tail.1, tail.2.guarded) :=
        ih (fits_of_pull h hpull)
      rw [Guarded.Session.drain, pull_guarded h, hpull]
      simp [hlt, htail]

theorem perform_guarded
    {s : Session}
    (h : s.cursor.Fits)
    (call : Call) :
    s.guarded.perform call = .ok ((s.perform call).1, (s.perform call).2.guarded) := by
  cases call with
  | read =>
      rw [Guarded.Session.perform, read_guarded h]
      rfl
  | pull =>
      rw [Guarded.Session.perform, pull_guarded h]
      rfl
  | count =>
      rw [Guarded.Session.perform, drain_guarded h]
      rfl
  | look =>
      rfl

/-! ## A list of calls -/

/-- A list of calls on a guarded session is answered as it is without a guard. -/
theorem run_guarded
    {s : Session}
    (h : s.cursor.Fits)
    (calls : List Call) :
    s.guarded.run calls = .ok ((s.run calls).map fun step => (step.1, step.2.guarded)) := by
  induction calls generalizing s with
  | nil =>
      rfl
  | cons call calls ih =>
      rw [Guarded.Session.run, perform_guarded h, Guarded.ok_bind, ih (fits_perform h call)]
      rfl

end Session

namespace Listing

/-! ## The depth of a listing -/

theorem depthBehind_le
    (depth : Nat)
    (t : Token) :
    depthBehind depth t ≤ depth + if t.isSymbol .leftBrace then 1 else 0 := by
  unfold depthBehind openAfter shownAt
  split <;> split <;> omega

/-- The depth of a listing is bounded by the opening braces that have been seen. -/
theorem foldl_depthBehind_le
    (depth : Nat)
    (ts : List Token) :
    ts.foldl depthBehind depth ≤ depth + ts.countP fun t => t.isSymbol .leftBrace := by
  induction ts generalizing depth with
  | nil =>
      exact Nat.le_refl depth
  | cons t ts ih =>
      have hstep := depthBehind_le depth t
      have htail := ih (depthBehind depth t)
      rw [List.foldl_cons, List.countP_cons]
      omega

theorem depthAfter_le_countP
    (o : Options)
    (ts : List Token) :
    depthAfter (ts.filter (isListed o)) ≤ ts.countP fun t => t.isSymbol .leftBrace := by
  have hlisted := foldl_depthBehind_le 0 (ts.filter (isListed o))
  have hall := (List.filter_sublist (p := isListed o) (l := ts)).countP_le
    (p := fun t => t.isSymbol .leftBrace)
  rw [Nat.zero_add] at hlisted
  exact hlisted.trans hall

theorem ofStream_ok_cons
    (o : Options)
    (depth : Nat)
    (t : Token)
    (items : List Item) :
    ofStream o depth (.ok t :: items) =
      if isListed o t then
        (ofStream o (depthBehind depth t) items).map fun tail =>
          line o (shownAt depth t) t ++ tail
      else ofStream o depth items := by
  rw [ofStream, isSkipped_eq]
  cases isListed o t <;> rfl

/-- Behind some tokens the listing goes on at the depth that they leave. -/
theorem ofStream_append
    (o : Options)
    (depth : Nat)
    (ts : List Token)
    (items : List Item) :
    ofStream o depth (ts.map .ok ++ items) =
      (ofStream o ((ts.filter (isListed o)).foldl depthBehind depth) items).map fun tail =>
        lines o depth (ts.filter (isListed o)) ++ tail := by
  induction ts generalizing depth with
  | nil =>
      cases h : ofStream o depth items <;> simp [lines, h, Except.map]
  | cons t ts ih =>
      rw [List.map_cons, List.cons_append, ofStream_ok_cons]
      cases hlisted : isListed o t with
      | false =>
          rw [if_neg Bool.false_ne_true, ih, List.filter_cons_of_neg (by simp [hlisted])]
      | true =>
          rw [if_pos rfl, ih, List.filter_cons_of_pos hlisted, List.foldl_cons]
          cases ofStream o (List.foldl depthBehind (depthBehind depth t) _) items with
          | error e =>
              rfl
          | ok tail =>
              simp [Except.map, lines, depthBehind]

/-! ## The loop over the tokens -/

theorem openAfter_guarded
    {d : Nat}
    (h : d < 2 ^ 32)
    (t : Token) :
    Guarded.Listing.openAfter d t = .ok (openAfter d t) := by
  have hadd : Guarded.add Guarded.sizeLimit d 1 = .ok (d + 1) :=
    Guarded.add_eq_ok (by rw [Guarded.sizeLimit_eq]; omega)
  rw [Guarded.Listing.openAfter, openAfter, hadd]
  split <;> rfl

/-- At a depth that a text can have, the product is exact and the margin is small. -/
theorem spaces_guarded
    {d : Nat}
    (h : d < 2 ^ 32)
    (width : Fin 256) :
    Guarded.Listing.spaces (Guarded.Listing.boundedProduct d width) =
      .ok (List.replicate (d * width) ' ') := by
  have hproduct : d * width < 2 ^ 32 * 256 :=
    Nat.mul_lt_mul'' h width.isLt
  have hexact : Guarded.Listing.boundedProduct d width = d * width := by
    rw [Guarded.Listing.boundedProduct, Guarded.sizeLimit_eq]
    omega
  rw [hexact, Guarded.Listing.spaces, if_pos]
  rw [Guarded.Listing.storageLimit, Guarded.sizeLimit_eq]
  omega

/-- The listing of what a guarded session gives is written as it is without a guard.  Every
token that opens a brace leaves a character less to open further ones. -/
theorem ofSession_guarded
    (o : Options)
    {depth : Nat}
    {s : Session}
    (h : s.cursor.Fits)
    (hdepth : depth + s.ahead ≤ 2 ^ 32 - 2) :
    Guarded.Listing.ofSession o depth s.guarded = .ok (ofStream o depth s.drain.1) := by
  induction s using Session.drain.induct generalizing depth with
  | case1 s behind hpull =>
      rw [Guarded.Listing.ofSession, Session.pull_guarded h, hpull,
        Session.drain_of_pull_none hpull]
      rfl
  | case2 s item behind hpull ih =>
      rw [Guarded.Listing.ofSession, Session.pull_guarded h, hpull,
        Session.drain_of_pull_some hpull]
      cases item with
      | error e =>
          rfl
      | ok t =>
          have hlt := Session.remaining_guarded_lt h hpull
          have hahead := Session.ahead_pull_lt hpull
          have hfits := Session.fits_of_pull h hpull
          have hshown : shownAt depth t ≤ depth := by
            unfold shownAt
            split <;> omega
          simp only [Guarded.ok_bind, dif_pos hlt, isSkipped_eq]
          rw [ofStream_ok_cons]
          cases isListed o t with
          | false =>
              exact ih hfits (by omega)
          | true =>
              have hdeep : shownAt depth t < 2 ^ 32 := by
                omega
              have hbelow : depthBehind depth t + behind.ahead ≤ 2 ^ 32 - 2 := by
                have hopened := depthBehind_le depth t
                split at hopened <;> omega
              have htail := ih hfits hbelow
              unfold depthBehind at htail
              simp [spaces_guarded hdeep, openAfter_guarded hdeep, htail, line, depthBehind]

end Listing

/-- On a text of at most `2 ^ 32 - 2` characters nothing fails.

At every place of the text, lines and columns count from one and together exceed the
characters passed by at most two, so that passing one more character overflows no counter.
What is still to come can be cut out of the text there, and so can what lies between that
place and any later one.

Every list of calls leads to such a place, and is answered with every cut and every sum
checked just as it is without.  So is every listing written; its depth never exceeds the
opening braces seen. -/
theorem nothing_fails
    {source : Text}
    (hlength : source.length ≤ 2 ^ 32 - 2) :
    (∀ n,
      let k := (Cursor.ofText source).forward n
      k.location.Reached k.charOffset ∧
        k.guarded.advance = .ok (k.next?, k.advance.guarded) ∧
        k.cut k.byteOffset source.byteSize = some k.rest ∧
        ∀ m,
          k.byteOffset ≤ (k.forward m).byteOffset ∧
            (k.forward m).byteOffset ≤ source.byteSize ∧
            k.cut k.byteOffset (k.forward m).byteOffset = some (k.rest.take m)) ∧
      (∀ calls,
        (∃ n, ((Session.ofText source).after calls).cursor = (Cursor.ofText source).forward n) ∧
          (Guarded.Session.ofText source).run calls =
            .ok (((Session.ofText source).run calls).map fun step => (step.1, step.2.guarded))) ∧
      ∀ o,
        Guarded.Listing.ofText o source = .ok (Listing.ofText o source) ∧
          ∀ (ts : List Token) (items : List Item),
            Stream.ofText source = ts.map .ok ++ items →
              let depth := Listing.depthAfter (ts.filter (Listing.isListed o))
              depth ≤ ts.countP (fun t => t.isSymbol .leftBrace) ∧
                Listing.ofText o source =
                  (Listing.ofStream o depth items).map fun tail =>
                    Listing.lines o 0 (ts.filter (Listing.isListed o)) ++ tail := by
  have hstart : (Session.ofText source).cursor.Fits :=
    (Cursor.behind_ofText source).fits hlength
  refine ⟨?_, ?_, ?_⟩
  · intro n k
    have hbehind := (Cursor.behind_ofText source).forward n
    refine ⟨hbehind.reached, (hstart.forward n).advance_guarded, hbehind.cut_rest, ?_⟩
    intro m
    have hsize := (hbehind.forward m).byteSize_eq
    refine ⟨hbehind.byteOffset_le_forward m, ?_, hbehind.cut_forward m⟩
    exact hsize ▸ Nat.le_add_right _ _
  · intro calls
    obtain ⟨passed, hbehind⟩ := Session.exists_behind_after source calls
    exact ⟨⟨passed.length, hbehind.eq_forward⟩, Session.run_guarded hstart calls⟩
  · intro o
    have hdepth : 0 + (Session.ofText source).ahead ≤ 2 ^ 32 - 2 := by
      rw [Nat.zero_add]
      exact hlength
    have hlisting := Listing.ofSession_guarded o hstart hdepth
    rw [Session.drain_ofText, ← Listing.ofText_eq_ofStream] at hlisting
    refine ⟨hlisting, ?_⟩
    intro ts items hstream depth
    refine ⟨Listing.depthAfter_le_countP o ts, ?_⟩
    rw [Listing.ofText_eq_ofStream, hstream]
    exact Listing.ofStream_append o 0 ts items

theorem nothing_fails_surplusBrace :
    let source := "é\x7b\x7d\x7d".toList
    let o : Listing.Options := { trivia := false, indentWidth := 255, locations := true }
    let ts : List Token :=
      [{ kind := .identifier ['é'], location := { line := 1, column := 1 } },
       { kind := .symbol .leftBrace, location := { line := 1, column := 2 } }]
    let items : List Item :=
      [.ok { kind := .symbol .rightBrace, location := { line := 1, column := 3 } },
       .ok { kind := .symbol .rightBrace, location := { line := 1, column := 4 } }]
    source.length ≤ 2 ^ 32 - 2 ∧
      Stream.ofText source = ts.map .ok ++ items ∧
      (Guarded.Session.ofText source).run [.read, .count, .pull] =
        .ok (((Session.ofText source).run [.read, .count, .pull]).map fun step =>
          (step.1, step.2.guarded)) ∧
      Guarded.Listing.ofText o source = .ok (Listing.ofText o source) ∧
      Listing.depthAfter (ts.filter (Listing.isListed o)) ≤ 1 := by
  intro source o ts items
  have hlength : source.length ≤ 2 ^ 32 - 2 := by
    decide
  have hstream : Stream.ofText source = ts.map .ok ++ items := by
    decide +kernel
  obtain ⟨-, hcalls, hlistings⟩ := nothing_fails hlength
  obtain ⟨hlisting, hdepth⟩ := hlistings o
  exact ⟨hlength, hstream, (hcalls _).2, hlisting, (hdepth ts items hstream).1⟩

end ContractLexer
