import CalcScript.Command.Request
import CalcScript.Diagnostic.Marked
import CalcScript.Session

/-!
# The command

The command runs one script, from a file or from what is piped into it, and writes the value of the
script. Two options write the tokens and the tree of the script first, as far as the script has
them. A script without a value is reported with its diagnostic, and the exit code tells the
category of the diagnostic.

Reading and writing are left to the program around: everything here is a function of the arguments
and of the bytes that were read.
-/

set_option autoImplicit false

namespace CalcScript.Command

inductive ReadFault where
  | missing
  | directory
  | notDirectory
  | tooLong
  | notText
  | other (reason : String)
deriving DecidableEq, Repr

def ReadFault.message : ReadFault → String
  | missing => "No such file or directory (os error 2)"
  | directory => "Is a directory (os error 21)"
  | notDirectory => "Not a directory (os error 20)"
  | tooLong => "File name too long (os error 36)"
  | notText => "stream did not contain valid UTF-8"
  | other reason => reason

structure Outcome where
  code : Nat
  output : String
  errors : String
deriving DecidableEq, Repr

/-- A line of the list of tokens: the place, aligned to the right in six columns, and the token. -/
def tokenLine (token : Token) : String :=
  let place := token.span.shown
  Text.repeated (6 - place.length) ' ' ++ place ++ "  " ++ token.description ++ "\n"

/-- The list of the tokens of a script. A script with a foreign character has none. -/
def tokenList (source : String) : String :=
  match Token.scan source with
  | .ok tokens => String.join (tokens.map tokenLine)
  | .error _ => ""

/-- The tree of a script. A script that is no program has none. -/
def tree (source : String) : String :=
  match Program.ofSource source with
  | .ok program => program.printed ++ "\n"
  | .error _ => ""

def runScript (options : Options) (source : String) : Outcome :=
  let shown := (if options.tokens then tokenList source else "") ++
    (if options.tree then tree source else "")
  match evaluate source with
  | .ok value => ⟨0, shown ++ value.text ++ "\n", ""⟩
  | .error diagnostic =>
    ⟨diagnostic.category.exitCode, shown, diagnostic.marked source ++ "\n"⟩

/-- The text that a sequence of bytes is the UTF-8 form of. -/
def decoded (bytes : ByteArray) : Except ReadFault String :=
  match String.fromUTF8? bytes with
  | some text => .ok text
  | none => .error .notText

/-- Runs the script in a file, by what was read from the file. -/
def runFile (path : String) (options : Options) (contents : Except ReadFault ByteArray) : Outcome :=
  match contents.bind decoded with
  | .ok source => runScript options source
  | .error fault => ⟨74, "", "Failed to read " ++ path ++ ": " ++ fault.message ++ "\n"⟩

/-- Runs the script that was piped into the command. -/
def runPiped (options : Options) (contents : Except ReadFault ByteArray) : Outcome :=
  match contents.bind decoded with
  | .ok source => runScript options source
  | .error fault => ⟨1, "", "error: " ++ fault.message ++ "\n"⟩

def version : Outcome := ⟨0, "tally 0.1.0\n", ""⟩

/-- An argument that is out of place. -/
def misuse (argument : String) : Outcome :=
  ⟨2, "", "error: unexpected argument \x27" ++ argument ++ "\x27 found\n"⟩

end CalcScript.Command
