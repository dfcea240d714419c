import ContractLexer.Proofs.ListingRows
import Mathlib.Algebra.Order.Ring.Int
import Mathlib.Data.Finset.Lattice.Fold

/-!
# Indentation of listings

A listing is indented by a counter that goes up behind an opening brace and down in front
of a closing one, and that never goes below zero.  Here the depth of a line is given
without a counter: by the balance of the braces up to it, measured from the lowest
balance that was reached on the way.  A surplus closing brace lowers that mark, so it is
forgotten once new braces are opened.

**Contents.**  The balance of a list of tokens, the lowest balance up to a token, and the
nesting, which is the difference of the two.

**Results.**
* `Listing.nesting_step`: one token moves the counter as it moves the nesting.
* `Listing.depthAfter_take`: the counter is the nesting, at every place of a listing.
* `Listing.rows_ofText_indented`: every line of a listing, with its indentation.
-/

namespace ContractLexer
namespace Listing

/-- The opening braces less the closing braces in a list of tokens. -/
def balance (ts : List Token) : Int :=
  (ts.countP fun t => t.isSymbol .leftBrace : Nat) -
    (ts.countP fun t => t.isSymbol .rightBrace : Nat)

/-- The lowest balance of the first `i` tokens, where `i` goes from zero to `j`. -/
def lowest (ts : List Token) (j : Nat) : Int :=
  (Finset.range (j + 1)).inf' Finset.nonempty_range_add_one fun i => balance (ts.take i)

/-- How far the balance of the first `j` tokens lies above the lowest one up to there. -/
def nesting (ts : List Token) (j : Nat) : Int :=
  balance (ts.take j) - lowest ts j

theorem balance_concat
    (ts : List Token)
    (t : Token) :
    balance (ts ++ [t]) =
      balance ts + (if t.isSymbol .leftBrace then 1 else 0) -
        (if t.isSymbol .rightBrace then 1 else 0) := by
  simp only [balance, List.countP_append, List.countP_singleton]
  split <;> split <;> omega

theorem lowest_succ
    (ts : List Token)
    (j : Nat) :
    lowest ts (j + 1) = min (balance (ts.take (j + 1))) (lowest ts j) := by
  simp only [lowest, Finset.range_add_one (n := j + 1)]
  exact Finset.inf'_insert _ _

theorem lowest_le
    (ts : List Token)
    (j : Nat) :
    lowest ts j ≤ balance (ts.take j) := by
  exact Finset.inf'_le _ (Finset.self_mem_range_succ j)

/-- No token is a brace of both kinds. -/
theorem isSymbol_rightBrace_eq_false
    {t : Token}
    (h : t.isSymbol .leftBrace = true) :
    t.isSymbol .rightBrace = false := by
  have hkind : t.kind = .symbol .leftBrace := of_decide_eq_true h
  simp [Token.isSymbol, hkind]

/-! ## The counter -/

/-- One token moves the counter as it moves the nesting.  A closing brace is shown at the
nesting behind it, any other token at the nesting before it. -/
theorem nesting_step
    {ts : List Token}
    {j : Nat}
    {t : Token}
    (ht : ts[j]? = some t)
    {depth : Nat}
    (hdepth : (depth : Int) = nesting ts j) :
    (depthBehind depth t : Int) = nesting ts (j + 1) ∧
      (shownAt depth t : Int) =
        if t.isSymbol .rightBrace then nesting ts (j + 1) else nesting ts j := by
  have htake : ts.take (j + 1) = ts.take j ++ [t] := by
    rw [List.take_add_one, ht]
    rfl
  have hbalance := balance_concat (ts.take j) t
  have hlowest := lowest_succ ts j
  have hle := lowest_le ts j
  rw [htake, hbalance] at hlowest
  simp only [nesting, htake, hbalance, hlowest, depthBehind, openAfter, shownAt] at hdepth ⊢
  cases hleft : t.isSymbol .leftBrace with
  | true =>
      simp only [isSymbol_rightBrace_eq_false hleft, if_true, Bool.false_eq_true, if_false]
      omega
  | false =>
      cases hright : t.isSymbol .rightBrace with
      | true =>
          -- At depth zero the balance is at its lowest, and the brace lowers both.
          simp only [if_true, Bool.false_eq_true, if_false]
          omega
      | false =>
          simp only [Bool.false_eq_true, if_false]
          omega

/-- The braces that are open behind a list of tokens, as the counter has them. -/
def depthAfter (ts : List Token) : Nat :=
  ts.foldl depthBehind 0

/-- The counter is the nesting, at every place of a listing. -/
theorem depthAfter_take
    (ts : List Token)
    {j : Nat}
    (hj : j ≤ ts.length) :
    (depthAfter (ts.take j) : Int) = nesting ts j := by
  induction j with
  | zero =>
      rfl
  | succ j ih =>
      have ht : ts[j]? = some ts[j] := List.getElem?_eq_getElem hj
      have hfold :
          depthAfter (ts.take (j + 1)) = depthBehind (depthAfter (ts.take j)) ts[j] := by
        rw [List.take_add_one, ht, depthAfter, List.foldl_append]
        rfl
      rw [hfold]
      exact (nesting_step ht (ih (Nat.le_of_succ_le hj))).1

theorem getElem?_rowsFrom
    (o : Options)
    (depth : Nat)
    (ts : List Token)
    (j : Nat) :
    (rowsFrom o depth ts)[j]? =
      ts[j]?.map fun t => row o (shownAt ((ts.take j).foldl depthBehind depth) t) t := by
  induction ts generalizing depth j with
  | nil =>
      rfl
  | cons t ts ih =>
      cases j with
      | zero =>
          rfl
      | succ j =>
          rw [rowsFrom_cons, List.getElem?_cons_succ, ih]
          rfl

/-- Every line of a listing: as many indentations as the braces are nested, the token, and
its location if locations are shown.  A closing brace is indented by the nesting behind
it, any other token by the nesting before it. -/
theorem rows_ofText_indented
    (o : Options)
    {text : Text}
    {tokens : List Token}
    (h : tokenize text = .ok tokens) :
    let ts := tokens.filter (isListed o)
    ∃ listing,
      ofText o text = .ok listing ∧
        Command.unlines (Text.rows listing) = listing ∧
        (Text.rows listing).length = ts.length ∧
        ∀ j t, ts[j]? = some t →
          ∃ spaces : Nat,
            (spaces : Int) =
                (o.indentWidth : Nat) *
                  (if t.isSymbol .rightBrace then nesting ts (j + 1) else nesting ts j) ∧
              (Text.rows listing)[j]? =
                some
                  (List.replicate spaces ' ' ++ t.kind.shown ++
                    (if o.locations then " @ ".toList ++ t.location.written else [])) := by
  intro ts
  refine ⟨_, ofText_eq_ok_unlines o h, ?_, ?_, ?_⟩
  · rw [rows_unlines_rowsFrom]
  · rw [rows_unlines_rowsFrom, length_rowsFrom]
  · intro j t ht
    have hj : j ≤ ts.length := (List.getElem?_eq_some_iff.1 ht).1.le
    have hshown := (nesting_step ht (depthAfter_take ts hj)).2
    refine ⟨shownAt (depthAfter (ts.take j)) t * o.indentWidth, ?_, ?_⟩
    · rw [Int.natCast_mul, hshown, Int.mul_comm]
    · rw [rows_unlines_rowsFrom, getElem?_rowsFrom]
      change ts[j]?.map _ = _
      rw [ht]
      rfl

theorem rows_ofText_indented_surplus :
    let o : Options := { trivia := false, indentWidth := 4, locations := false }
    let text := "\x7d \x7bx".toList
    let tokens : List Token :=
      [{ kind := .symbol .rightBrace, location := { line := 1, column := 1 } },
       { kind := .whitespace [' '], location := { line := 1, column := 2 } },
       { kind := .symbol .leftBrace, location := { line := 1, column := 3 } },
       { kind := .identifier ['x'], location := { line := 1, column := 4 } }]
    tokenize text = .ok tokens ∧
      balance (tokens.filter (isListed o)) = 0 ∧
      nesting (tokens.filter (isListed o)) 2 = 1 ∧
      ∃ listing,
        ofText o text = .ok listing ∧
          (Text.rows listing)[2]? = some "    Identifier(\"x\")".toList := by
  intro o text tokens
  have htokens : tokenize text = .ok tokens := by
    decide +kernel
  have hnesting : nesting (tokens.filter (isListed o)) 2 = 1 := by
    decide
  obtain ⟨listing, hlisting, -, -, hrows⟩ := rows_ofText_indented o htokens
  obtain ⟨spaces, hspaces, hrow⟩ := hrows 2 _ rfl
  have hfour : spaces = 4 := by
    rw [if_neg (by decide), hnesting] at hspaces
    exact Int.natCast_inj.1 hspaces
  subst hfour
  exact ⟨htokens, by decide, hnesting, listing, hlisting, hrow⟩

end Listing
end ContractLexer
