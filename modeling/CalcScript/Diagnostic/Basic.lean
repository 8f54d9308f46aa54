import CalcScript.Evaluation
import CalcScript.Parser.Program
import CalcScript.Text.Quoted
import CalcScript.Token.Lexer

/-!
# Diagnostics

A diagnostic says why a script has no value: it contains a foreign character, its tokens form no
program, or it failed while it ran. Each diagnostic has a category, a place and a message.
-/

set_option autoImplicit false

namespace CalcScript

inductive Category where
  | lexical
  | syntactic
  | semantic
deriving DecidableEq, Repr

namespace Category

def name : Category → String
  | lexical => "Lexical"
  | syntactic => "Syntactic"
  | semantic => "Semantic"

/-- The exit code of a command that ends with a diagnostic of a category. -/
def exitCode : Category → Nat
  | lexical => 65
  | syntactic => 66
  | semantic => 70

end Category

def SyntaxFault.message : SyntaxFault → String
  | expectedToken expected found =>
    "Expected " ++ expected.description ++ ", but instead got " ++ found.description
  | expectedExpression found => "Expected expression, but instead got " ++ found.description
  | uninitializedConstant name =>
    "Constant `" ++ name ++ "` must be initialized in its declaration"
  | nestedTooDeep limit =>
    "Expression is nested more than " ++ toString limit ++ " levels deep"

/-- A constant without a value is well formed and means nothing. -/
def SyntaxFault.category : SyntaxFault → Category
  | uninitializedConstant _ => .semantic
  | _ => .syntactic

inductive Diagnostic where
  | lexical (error : ForeignCharacter)
  | syntactic (error : SyntaxError)
  | runtime (error : RuntimeError)
deriving DecidableEq, Repr

namespace Diagnostic

def category : Diagnostic → Category
  | lexical _ => .lexical
  | syntactic error => error.fault.category
  | runtime _ => .semantic

def span : Diagnostic → Span
  | lexical error => error.span
  | syntactic error => error.span
  | runtime error => error.span

/-- What a diagnostic says, without its place. -/
def reason : Diagnostic → String
  | lexical error => "Unrecognized character " ++ Text.quoted error.character
  | syntactic error => error.fault.message
  | runtime error => error.fault.message

/-- What a diagnostic says, with the place where its span starts. -/
def message (diagnostic : Diagnostic) : String :=
  diagnostic.reason ++ " at " ++ diagnostic.span.shown

end Diagnostic

end CalcScript
