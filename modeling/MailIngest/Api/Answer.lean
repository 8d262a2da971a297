import MailIngest.Error.Fault
import MailIngest.Json.Value

/-!
# Failures as answers

A failure is answered by an object naming its class in `error`. A library error adds its
message and code; errors whose message would quote a wrapped failure (configuration and parse
errors) name that failure's class in `cause`, as retry failures always do, and a wrapped
validation failure lists its issues. A validation failure lists its issues, each with the
dotted path of the field and the broken rule, and joins them into its message.

- `answer_error` : every answer to a failure names the failure's class.
-/

namespace MailIngest.Api

/-- The dotted path of a field; the whole input is the empty path. -/
def dotted (loc : List String) : String := String.intercalate "." loc

def issueJson (i : Issue) : Json :=
  .obj ([("loc", .str (dotted i.loc)), ("type", .str i.rule)] ++
    match i.msg with
    | some m => [("msg", .str m)]
    | none => [])

/-- The message of a validation failure: each issue as `path: rule`. -/
def issuesMessage (is : List Issue) : String :=
  String.intercalate "; " (is.map fun i => dotted i.loc ++ ": " ++ i.rule)

def showsCause : ErrorKind → Bool
  | .configuration | .messageParse | .retriesExhausted => true
  | _ => false

def causeFields : Option Fault → List (String × Json)
  | none => [("cause", .null)]
  | some (.invalid is) => [("cause", .str "ValidationError"), ("errors", .arr (is.map issueJson))]
  | some f => [("cause", .str f.name)]

def faultJson : Fault → Json
  | .raised k msg _ cause =>
    .obj ([("error", .str k.name), ("message", .str msg), ("code", .str k.code)] ++
      if showsCause k ∧ (cause.isSome ∨ k = .retriesExhausted) then causeFields cause else [])
  | .invalid is =>
    .obj [("error", .str "ValidationError"), ("errors", .arr (is.map issueJson)),
      ("message", .str (issuesMessage is))]
  | .runtime n t =>
    .obj ([("error", .str n)] ++
      match t with
      | some m => [("message", .str m)]
      | none => [])

/-- The answer to an outcome: the value itself, or the failure's answer. -/
def outcomeJson : Outcome Json → Json
  | .ok v => v
  | .error f => faultJson f

/-- Every answer to a failure names the failure's class. -/
theorem answer_error (f : Fault) : (faultJson f).get? "error" = some (.str f.name) := by
  cases f <;> simp [faultJson, Json.get?, Json.lookup, Fault.name]

end MailIngest.Api
