namespace PreviewEnv.Template

/-- How much is told of a fault: its kind, or its detail and line as well. -/
inductive Wording where
  | brief
  | full
deriving DecidableEq, Repr

/-- The kinds of faults in a template. -/
inductive FaultKind where
  | syntaxError
  | badEscape
  | undefinedValue
  | invalidOperation
  | unknownFilter
  | unknownTest
  | unknownFunction
  | unknownMethod
  | missingArgument
  | tooManyArguments
  | cannotUnpack
deriving DecidableEq, Repr

def FaultKind.text : FaultKind → String
  | syntaxError => "syntax error"
  | badEscape => "bad string escape"
  | undefinedValue => "undefined value"
  | invalidOperation => "invalid operation"
  | unknownFilter => "unknown filter"
  | unknownTest => "unknown test"
  | unknownFunction => "unknown function"
  | unknownMethod => "unknown method"
  | missingArgument => "missing argument"
  | tooManyArguments => "too many arguments"
  | cannotUnpack => "cannot unpack"

/-- A fault, with what is known about it and the line on which it was met. -/
structure Fault where
  kind : FaultKind
  detail : Option String
  line : Nat
deriving DecidableEq, Repr

def Fault.text (wording : Wording) (f : Fault) : String :=
  match wording with
  | .brief => f.kind.text
  | .full =>
    f.kind.text ++ (match f.detail with
      | some d => ": " ++ d
      | none => "") ++ " (in <string>:" ++ toString f.line ++ ")"

end PreviewEnv.Template
