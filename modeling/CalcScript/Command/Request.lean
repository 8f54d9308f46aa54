/-!
# Requests

What the command is asked to do, as its arguments say. Arguments are read from left to right. The
first one that asks for the version, or that is out of place, decides. An option that is given
twice is out of place too, but that is noticed only after all the others are read.
-/

set_option autoImplicit false

namespace CalcScript.Command

/-- What is written besides the value of a script. -/
structure Options where
  tokens : Bool
  tree : Bool
deriving DecidableEq, Repr

inductive Request where
  | version
  | file (path : String) (options : Options)
  | piped (options : Options)
  | misuse (argument : String)
deriving DecidableEq, Repr

/-- What the arguments ask for as far as they are read. -/
structure Draft where
  options : Options
  path? : Option String
  repeated? : Option String
deriving DecidableEq, Repr

namespace Draft

def empty : Draft := ⟨⟨false, false⟩, none, none⟩

def addTokens (draft : Draft) : Draft :=
  if draft.options.tokens then { draft with repeated? := some "--tokens" }
  else { draft with options.tokens := true }

def addTree (draft : Draft) : Draft :=
  if draft.options.tree then { draft with repeated? := some "--ast" }
  else { draft with options.tree := true }

/-- Adds the path of a script, of which there is at most one. -/
def addPath? (draft : Draft) (path : String) : Option Draft :=
  match draft.path? with
  | none => some { draft with path? := some path }
  | some _ => none

def request (draft : Draft) : Request :=
  match draft.repeated?, draft.path? with
  | some option, _ => .misuse option
  | none, none => .piped draft.options
  | none, some path => .file path draft.options

end Draft

namespace Request

/-- Tells whether an argument asks for the version. Short options can be joined in one argument, and
the first of them decides. -/
def asksVersion (argument : String) : Bool :=
  argument = "--version" || argument.toList.take 2 = ['-', 'V']

/-- Tells whether an argument has the form of an option. A lone dash has not. -/
def looksLikeOption (argument : String) : Bool :=
  argument ≠ "-" && argument.toList.head? = some '-'

/-- The request of a draft and the arguments after the end of the options, which all are paths. -/
def ofPaths (draft : Draft) : List String → Request
  | [] => draft.request
  | argument :: rest =>
    match draft.addPath? argument with
    | some draft => ofPaths draft rest
    | none => misuse argument

def ofRest (draft : Draft) : List String → Request
  | [] => draft.request
  | argument :: rest =>
    if argument = "--" then ofPaths draft rest
    else if asksVersion argument then version
    else if argument = "--tokens" then ofRest draft.addTokens rest
    else if argument = "--ast" then ofRest draft.addTree rest
    else if looksLikeOption argument then misuse argument
    else
      match draft.addPath? argument with
      | some draft => ofRest draft rest
      | none => misuse argument

def ofArguments (arguments : List String) : Request := ofRest Draft.empty arguments

end Request

end CalcScript.Command
