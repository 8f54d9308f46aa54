import CalcScript.Proofs.Grammar.Blame
import CalcScript.Proofs.Grammar.Descent

/-!
# Descents used again

A descent can be asked for one expression after another. Each call brings it back to the outermost
level, so the next does what a fresh descent does with the tokens that are left. A call that fails for
a token stops in front of it.
-/

set_option autoImplicit false

namespace CalcScript

/-- What is left of some tokens behind those that were passed. Behind the last of them that is an end
of file where it stops. -/
def leftBehind (passed : List Token) : List Token → List Token
  | [] => [.endOfFile (Grammar.lastSpan .unplaced passed).stop]
  | next :: later => next :: later

/-- A descent on the outermost level that has passed some of the tokens it was given. -/
structure Descent.Behind (descent : Descent) (tokens passed rest : List Token) : Prop where
  split : tokens = passed ++ rest
  unread : descent.unread = leftBehind passed rest
  outermost : descent.nesting = 0

theorem Descent.shows_ofList (tokens : List Token) :
    (Descent.ofList tokens).Shows 0 (.ofList tokens) where
  current := by cases tokens <;> rfl
  rest := rfl
  nesting := rfl

namespace Descent.Shows

variable {nesting : Nat} {descent : Descent} {stream : TokenStream}

theorem unread_eq (shows : descent.Shows nesting stream) :
    descent.unread = stream.current :: stream.remaining.tail := by
  rw [Descent.unread, shows.current, shows.rest]

/-- A fresh descent that is given the tokens not passed yet stands where the old one stands. -/
theorem fresh (shows : descent.Shows 0 stream) : (Descent.ofList descent.unread).Shows 0 stream where
  current := shows.current
  rest := shows.rest
  nesting := rfl

theorem behind {tokens passed : List Token} (shows : descent.Shows 0 stream)
    (reads : Grammar.Reads (.ofList tokens) passed stream) :
    descent.Behind tokens passed stream.remaining where
  split := reads.ahead
  unread := by
    rw [shows.unread_eq, TokenStream.current, reads.behind]
    cases stream.remaining <;> rfl
  outermost := shows.nesting

end Descent.Shows

namespace Descending

open CalcScript.Grammar (Reads)
open CalcScript.Parser (maxNesting)

theorem exists_reads_askExpression (stream : TokenStream) :
    ∃ passed, Reads stream passed (Parser.askExpression stream).2 := by
  rw [Parser.askExpression]
  cases parsed : Parser.expression stream with
  | ok tree after =>
      obtain ⟨passed, reads, -⟩ := Grammar.expression_sound parsed
      exact ⟨passed, reads⟩
  | error error after =>
      obtain ⟨passed, reads, -⟩ := Grammar.expression_blames parsed
      exact ⟨passed, reads⟩

section Calls

variable {room : Nat} (enough : maxNesting < room) {descent : Descent} {stream : TokenStream}
  (shows : descent.Shows 0 stream)

include enough shows

theorem exists_expression :
    ∃ stopped, expression room descent = some ((Parser.askExpression stream).1, stopped) ∧
      stopped.Shows 0 (Parser.askExpression stream).2 := by
  have follows := follows_expression enough shows
  rw [Parser.askExpression]
  generalize expression room descent = ran, Parser.expression stream = parsed at follows
  cases follows with
  | ok stopped => exact ⟨_, rfl, stopped⟩
  | error stopped => exact ⟨_, rfl, stopped⟩

/-- Any number of calls, one after another, end where the parser ends. -/
theorem exists_expressions (times : Nat) :
    ∃ stopped passed after,
      expressions room times descent = some (Parser.askExpressions stream times, stopped) ∧
      stopped.Shows 0 after ∧ Reads stream passed after := by
  induction times generalizing descent stream with
  | zero => exact ⟨descent, [], stream, rfl, shows, .refl stream⟩
  | succ times ih =>
      obtain ⟨middle, ran, showsMiddle⟩ := exists_expression enough shows
      obtain ⟨first, reads⟩ := exists_reads_askExpression stream
      obtain ⟨stopped, second, after, ranLater, showsAfter, readsLater⟩ := ih showsMiddle
      refine ⟨stopped, first ++ second, after, ?_, showsAfter, reads.trans readsLater⟩
      change (expression room descent).bind _ = _
      rw [ran, Option.bind_some]
      change (expressions room times middle).bind _ = _
      rw [ranLater]
      rfl

end Calls

theorem found_of_askExpression {stream : TokenStream} {error : SyntaxError} {found : Token}
    (failed : (Parser.askExpression stream).1 = .error error)
    (blamed : error.fault.found? = some found) :
    found = (Parser.askExpression stream).2.current ∧ error.span = found.span := by
  rw [Parser.askExpression] at failed ⊢
  cases parsed : Parser.expression stream with
  | ok tree after =>
      rw [parsed] at failed
      cases failed
  | error other after =>
      rw [parsed] at failed
      cases failed
      obtain ⟨passed, -, fails⟩ := Grammar.expression_blames parsed
      obtain ⟨rfl, place⟩ := fails.found_eq blamed
      exact ⟨rfl, place⟩

/-- After any number of calls, whatever came of them, a descent is back on the outermost level, and
the next call gives what it gives on a fresh descent over the tokens that are left. If it fails for a
token, it has passed the tokens in front of that one and no others. -/
theorem expression_after_expressions (tokens : List Token) (times spare : Nat) :
    ∃ descent passed rest,
      expressions (maxNesting + 1 + spare) times (Descent.ofList tokens) =
        some (Parser.askExpressions (.ofList tokens) times, descent) ∧
      descent.Behind tokens passed rest ∧
      ∃ outcome stopped fresh front back,
        expression (maxNesting + 1 + spare) descent = some (outcome, stopped) ∧
        expression (maxNesting + 1 + spare) (Descent.ofList descent.unread) = some (outcome, fresh) ∧
        stopped.unread = fresh.unread ∧ stopped.Behind descent.unread front back ∧
        ∀ error found, outcome = .error error → error.fault.found? = some found →
          stopped.current = found ∧ error.span = found.span := by
  have enough : maxNesting < maxNesting + 1 + spare := by omega
  obtain ⟨descent, passed, stream, ran, shows, reads⟩ :=
    exists_expressions enough (Descent.shows_ofList tokens) times
  obtain ⟨stopped, gives, showsStopped⟩ := exists_expression enough shows
  -- the fresh descent stands in two streams, the old one and that of the tokens it is given
  obtain ⟨fresh, givesFresh, showsFresh⟩ := exists_expression enough shows.fresh
  obtain ⟨_, givesAgain, showsAgain⟩ :=
    exists_expression enough (Descent.shows_ofList descent.unread)
  obtain ⟨-, rfl⟩ := Prod.mk.inj (Option.some.inj (givesFresh.symm.trans givesAgain))
  obtain ⟨front, readsFresh⟩ := exists_reads_askExpression (.ofList descent.unread)
  have behindFresh := showsAgain.behind readsFresh
  have sameUnread : stopped.unread = fresh.unread :=
    showsStopped.unread_eq.trans showsFresh.unread_eq.symm
  have behindStopped : stopped.Behind descent.unread front _ :=
    ⟨behindFresh.split, sameUnread.trans behindFresh.unread, showsStopped.nesting⟩
  refine ⟨descent, passed, stream.remaining, ran, shows.behind reads, _, stopped, fresh, front, _,
    gives, givesFresh, sameUnread, behindStopped, fun error found failed blamed => ?_⟩
  obtain ⟨rfl, place⟩ := found_of_askExpression failed blamed
  exact ⟨showsStopped.current, place⟩

end Descending

end CalcScript
