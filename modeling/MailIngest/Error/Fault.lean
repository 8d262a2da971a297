import MailIngest.Error.Kind
import MailIngest.Json.Value

/-!
# Failures

A `Fault` is what an operation can end with instead of a result: one of the library's own
errors (a kind, a message, details and possibly the fault it wraps), a rejected input with the
list of its `Issue`s, or a failure of the machinery underneath, known only by its class name and,
for texts the library itself writes, its message.
-/

namespace MailIngest

/-- One complaint of input validation: the path of the offending field, the rule it broke and,
for rules written by the library, the rule's message. -/
structure Issue where
  loc : List String
  rule : String
  msg : Option String := none
deriving Inhabited

/-- What an operation ends with when it does not succeed. -/
inductive Fault where
  | raised (kind : ErrorKind) (message : String) (details : List (String × Json))
      (cause : Option Fault)
  | invalid (issues : List Issue)
  | runtime (name : String) (text : Option String)
deriving Inhabited

namespace Fault

def ofKind (k : ErrorKind) : Fault := raised k k.defaultMessage [] none

def withMessage (k : ErrorKind) (msg : String) : Fault := raised k msg [] none

def named (name : String) : Fault := runtime name none

def name : Fault → String
  | raised k _ _ _ => k.name
  | invalid _ => "ValidationError"
  | runtime n _ => n

/-- The library kind of a failure, if it is one of the library's errors. -/
def kind? : Fault → Option ErrorKind
  | raised k _ _ _ => some k
  | _ => none

/-- Whether the failure is a library error of kind `k` or below it. -/
def isA (f : Fault) (k : ErrorKind) : Bool :=
  match f with
  | raised k' _ _ _ => k'.isA k
  | _ => false

def message? : Fault → Option String
  | raised _ m _ _ => some m
  | runtime _ t => t
  | invalid _ => none

end Fault

/-- A computation that yields a value or stops with a fault. -/
abbrev Outcome (α : Type) := Except Fault α

end MailIngest
