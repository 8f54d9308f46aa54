import Mathlib.Data.Nat.PSub
import CalcScript.Proofs.Grammar.Sources

/-!
# Parentheses

A run is balanced if each of its parentheses has its partner in it. What is derived from tokens is
balanced, so the text of every program is.
-/

set_option autoImplicit false

namespace CalcScript

/-- How many parentheses are open behind a token, unless it closes one that is not open. -/
def Token.depth? (depth : Nat) (token : Token) : Option Nat :=
  match token.kind with
  | .openParen => some (depth + 1)
  | .closeParen => depth.ppred
  | _ => some depth

def Token.Balanced (tokens : List Token) : Prop := tokens.foldlM depth? 0 = some 0

/-- How many parentheses are open behind a character, unless it closes one that is not open. -/
def Text.depth? (depth : Nat) (character : Char) : Option Nat :=
  if character = '(' then some (depth + 1)
  else if character = ')' then depth.ppred
  else some depth

def Text.Balanced (characters : List Char) : Prop := characters.foldlM depth? 0 = some 0

instance Text.decidableBalanced (characters : List Char) : Decidable (Balanced characters) :=
  inferInstanceAs (Decidable (_ = _))

namespace Token

variable {token : Token} {tokens first second : List Token} {depth before after : Nat}

theorem depth?_of_open (opens : token.kind = .openParen) :
    token.depth? depth = some (depth + 1) := by
  rw [depth?, opens]

theorem depth?_of_close (closes : token.kind = .closeParen) :
    token.depth? (depth + 1) = some depth := by
  rw [depth?, closes]
  rfl

theorem depth?_of_other (noOpen : token.kind ≠ .openParen) (noClose : token.kind ≠ .closeParen) :
    token.depth? depth = some depth := by
  unfold depth?
  split
  case h_1 opens => exact absurd opens noOpen
  case h_2 closes => exact absurd closes noClose
  case h_3 => rfl

/-- What is open around a run does not matter to it. -/
theorem depth?_add (step : token.depth? before = some after) (around : Nat) :
    token.depth? (before + around) = some (after + around) := by
  unfold depth? at *
  split at step
  case h_1 =>
    cases step
    exact congrArg some (Nat.add_right_comm ..)
  case h_2 =>
    cases before with
    | zero => cases step
    | succ before =>
        cases step
        rw [Nat.add_right_comm]
        rfl
  case h_3 =>
    cases step
    rfl

theorem foldlM_depth?_add (run : tokens.foldlM depth? before = some after) (around : Nat) :
    tokens.foldlM depth? (before + around) = some (after + around) := by
  induction tokens generalizing before with
  | nil =>
      cases run
      rfl
  | cons token tokens ih =>
      obtain ⟨middle, step, rest⟩ := Option.bind_eq_some_iff.mp run
      exact Option.bind_eq_some_iff.mpr ⟨middle + around, depth?_add step around, ih rest⟩

theorem foldlM_depth?_append :
    (first ++ second).foldlM depth? before = some after ↔
      ∃ middle, first.foldlM depth? before = some middle ∧
        second.foldlM depth? middle = some after := by
  rw [List.foldlM_append]
  exact Option.bind_eq_some_iff

theorem foldlM_depth?_cons {kind : TokenKind} (same : token.kind = kind)
    (other : kind ≠ .openParen ∧ kind ≠ .closeParen) (depth : Nat) :
    (token :: tokens).foldlM depth? depth = tokens.foldlM depth? depth := by
  subst same
  rw [List.foldlM_cons, depth?_of_other other.1 other.2]
  rfl

theorem Balanced.append (balanced : Balanced first) (other : Balanced second) :
    Balanced (first ++ second) :=
  foldlM_depth?_append.mpr ⟨0, balanced, other⟩

theorem Balanced.cons (balanced : Balanced tokens) {kind : TokenKind} (same : token.kind = kind)
    (other : kind ≠ .openParen ∧ kind ≠ .closeParen) : Balanced (token :: tokens) :=
  (foldlM_depth?_cons same other 0).trans balanced

theorem Balanced.group (balanced : Balanced tokens) {opening closing : Token}
    (opens : opening.kind = .openParen) (closes : closing.kind = .closeParen) :
    Balanced (opening :: tokens ++ [closing]) := by
  have inner : tokens.foldlM depth? 1 = some 1 := by simpa using foldlM_depth?_add balanced 1
  refine foldlM_depth?_append.mpr ⟨1, ?_, ?_⟩
  · rw [List.foldlM_cons, depth?_of_open opens]
    exact inner
  · rw [List.foldlM_cons, depth?_of_close closes]
    rfl

theorem foldlM_depth?_opens (opens : ∀ token ∈ tokens, token.kind = .openParen) (depth : Nat) :
    tokens.foldlM depth? depth = some (depth + tokens.length) := by
  induction tokens generalizing depth with
  | nil => rfl
  | cons token tokens ih =>
      obtain ⟨here, later⟩ := List.forall_mem_cons.mp opens
      rw [List.foldlM_cons, depth?_of_open here, List.length_cons, Nat.add_comm tokens.length,
        ← Nat.add_assoc]
      exact ih later (depth + 1)

/-- Parentheses that open a balanced run have their partners in the rest, which is then not
balanced by itself. -/
theorem Balanced.opens_eq_nil (balanced : Balanced (first ++ second))
    (opens : ∀ token ∈ first, token.kind = .openParen)
    (rest : second.foldlM depth? 0 = some after) : first = [] := by
  obtain ⟨middle, front, back⟩ := foldlM_depth?_append.mp balanced
  rw [foldlM_depth?_opens opens] at front
  cases front
  have sum := Option.some.inj ((foldlM_depth?_add rest _).symm.trans back)
  exact List.eq_nil_of_length_eq_zero (Nat.eq_zero_of_add_eq_zero_left sum)

theorem Balanced.closes_eq_nil (balanced : Balanced (first ++ second))
    (closes : ∀ token ∈ second, token.kind = .closeParen) (front : Balanced first) :
    second = [] := by
  obtain ⟨middle, again, back⟩ := foldlM_depth?_append.mp balanced
  cases again.symm.trans front
  cases second with
  | nil => rfl
  | cons token rest =>
      rw [List.foldlM_cons, depth?, closes token List.mem_cons_self] at back
      cases back

end Token

/-! ## Derivations -/

namespace Grammar

open Token

variable {tokens : List Token}

theorem Derives.balanced {stage : Stage} {levels : Nat} {tree : Expr}
    (derived : Derives stage levels tokens tree) : Token.Balanced tokens := by
  induction derived with
  | name kind | number kind => exact Token.Balanced.cons rfl kind (by decide)
  | group opens _ closes ih => exact ih.group opens closes
  | factor _ ih | term _ ih | plain _ ih => exact ih
  | product _ sign _ _ leftIH rightIH | sum _ sign _ _ leftIH rightIH =>
      exact leftIH.append (rightIH.cons sign.1 (by decide))
  | assignment _ equals _ targetIH valueIH =>
      exact targetIH.append (valueIH.cons equals (by decide))

theorem DerivesAction.balanced {action : Action} (derived : DerivesAction Limited tokens action) :
    Token.Balanced tokens := by
  have ended {semicolon : Token} (kind : semicolon.kind = .semicolon) :
      Token.Balanced [semicolon] :=
    Token.Balanced.cons rfl kind (by decide)
  cases derived with
  | bare keyword name semicolon =>
      exact ((ended semicolon).cons name (by decide)).cons keyword (by decide)
  | @initialized constant _ _ _ _ _ _ keyword name equals value semicolon =>
      have valued := (value.derives.balanced.append (ended semicolon)).cons equals (by decide)
      exact (valued.cons name (by decide)).cons keyword (by cases constant <;> decide)
  | expression value semicolon => exact value.derives.balanced.append (ended semicolon)

theorem DerivesStatements.balanced {statements : List Statement}
    (derived : DerivesStatements Limited tokens statements) : Token.Balanced tokens := by
  induction derived with
  | nil => rfl
  | last value => exact value.derives.balanced
  | cons first _ ih => exact first.balanced.append ih

end Grammar

/-! ## Texts -/

/-- Characters of a class that no parenthesis is in. -/
theorem Text.foldlM_depth?_of_class {accepts : Char → Bool} {characters : List Char}
    (noOpen : accepts '(' = false) (noClose : accepts ')' = false)
    (accepted : ∀ character ∈ characters, accepts character = true) (depth : Nat) :
    characters.foldlM depth? depth = some depth := by
  have other {parenthesis character : Char} (no : accepts parenthesis = false)
      (yes : accepts character = true) : character ≠ parenthesis := by
    intro same
    subst same
    cases no.symm.trans yes
  induction characters with
  | nil => rfl
  | cons character characters ih =>
      obtain ⟨here, later⟩ := List.forall_mem_cons.mp accepted
      rw [List.foldlM_cons, depth?, if_neg (other noOpen here), if_neg (other noClose here)]
      exact ih later

theorem Token.Lexeme.foldlM_depth?_eq {kind : TokenKind} {run rest : List Char}
    (lexeme : Lexeme kind run rest) (span : Span) (depth : Nat) :
    run.foldlM Text.depth? depth = depth? depth ⟨kind, String.ofList run, span⟩ := by
  cases lexeme with
  | @symbol character _ _ symbol =>
      have alone : [character].foldlM Text.depth? depth = Text.depth? depth character := by simp
      rw [alone]
      unfold symbolKind? at symbol
      split at symbol <;> cases symbol <;> rfl
  | number _ longest =>
      rw [depth?_of_other (by simp) (by simp)]
      exact Text.foldlM_depth?_of_class rfl rfl longest.accepted depth
  | word _ longest =>
      have other : wordKind run ≠ .openParen ∧ wordKind run ≠ .closeParen := by
        unfold wordKind TokenKind.keyword?
        split
        · exact ⟨nofun, nofun⟩
        · split <;> exact ⟨nofun, nofun⟩
      rw [depth?_of_other other.1 other.2]
      exact Text.foldlM_depth?_of_class (by decide +kernel) (by decide +kernel)
        longest.accepted depth

/-- The parentheses of a text are those of its tokens. -/
theorem Token.Splits.foldlM_depth?_eq {place : Position} {characters : List Char}
    {tokens : List Token} (splits : Splits place characters tokens) (depth : Nat) :
    characters.foldlM Text.depth? depth = tokens.foldlM depth? depth := by
  induction splits generalizing depth with
  | stop blank => exact Text.foldlM_depth?_of_class rfl rfl blank depth
  | token blank found _ ih =>
      rw [List.foldlM_append, Text.foldlM_depth?_of_class rfl rfl blank, List.foldlM_cons]
      change List.foldlM _ _ _ = _
      rw [List.foldlM_append, found.foldlM_depth?_eq]
      exact congrArg _ (funext ih)

theorem Token.Splits.balanced_iff {place : Position} {characters : List Char}
    {tokens : List Token} (splits : Splits place characters tokens) :
    Text.Balanced characters ↔ Token.Balanced tokens.dropLast := by
  rw [Text.Balanced, splits.foldlM_depth?_eq, splits.eq_concat_end, List.dropLast_concat]
  constructor
  · intro whole
    obtain ⟨depth, inside, last⟩ := foldlM_depth?_append.mp whole
    cases last
    exact inside
  · intro inside
    exact foldlM_depth?_append.mpr ⟨0, inside, rfl⟩

theorem Program.balanced_of_source {source : String} {program : Program}
    (formed : Program.ofSource source = .ok program) : Text.Balanced source.toList := by
  obtain ⟨tokens, scanned, derived⟩ := Program.ofSource_eq_ok_iff_derives.mp formed
  exact (Token.scan_eq_ok_iff.mp scanned).balanced_iff.mpr derived.balanced

end CalcScript
