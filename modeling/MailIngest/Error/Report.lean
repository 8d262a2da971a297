import MailIngest.Error.Catalogue
import MailIngest.Error.Fault

/-!
# Errors as callers build and show them

A `Report` is a library error as a caller constructs it: its kind, message, an optional
replacement for the catalogue's sentence, and details. A kind may take further named fields:
a retry failure records the attempts and the operation, a parse failure the message's uid and
mailbox, and these are written into the details, after any given ones. An empty message takes
the kind's default; empty details are none.

A report is shown four ways: as a record of code, message, sentence, recoverability and
details; as its message; by its recovery suggestion; and as a terminal report.

- `build_message_default` : building keeps the kind, and an empty message is the kind's
  default message.
-/

namespace MailIngest.Error

/-- A library error as a caller builds it. -/
structure Report where
  kind : ErrorKind
  message : Json
  userOverride : Json
  details : Json
deriving Inhabited

/-- The further named fields a kind takes, with their defaults, in the order they are written
into the details. -/
def extraFields : ErrorKind → List (String × Json)
  | .retriesExhausted => [("attempts", .int 0), ("context", .str "")]
  | .messageParse => [("uid", .null), ("mailbox_path", .null)]
  | _ => []

/-- Builds a report; a named field the kind does not take is a failure. -/
def Report.build (k : ErrorKind) (message userOverride details : Json)
    (extras : List (String × Json)) : Outcome Report := do
  let accepted := extraFields k
  if extras.any (fun (n, _) => !(accepted.any (·.1 = n))) then
    throw (Fault.named "TypeError")
  let given := if details.truthy then details else .obj []
  let full ← if accepted.isEmpty then pure given else
    match given with
    | .obj ms =>
      pure (Json.obj (accepted.foldl
        (fun acc (n, d) => Json.setMember n ((Json.lookup n extras).getD d) acc) ms))
    | _ => throw (Fault.named "TypeError")
  pure { kind := k
         message := if message.truthy then message else .str k.defaultMessage
         userOverride := userOverride
         details := full }

/-- The sentence for users: the override if there is one, the catalogue's otherwise. -/
def Report.userMessage (r : Report) : Json :=
  if r.userOverride.truthy then r.userOverride else .str (Catalogue.userMessage r.kind.code)

def Report.toRecord (r : Report) : Json :=
  .obj [("code", .str r.kind.code), ("message", r.message), ("user_message", r.userMessage),
    ("recoverable", .bool r.kind.recoverable), ("details", r.details)]

def Report.text (r : Report) : String := r.message.plainText

/-- The report laid out for a terminal; details that are no object cannot be listed. -/
def Report.terminal (r : Report) : Outcome String :=
  match r.details with
  | .obj ms => pure (Catalogue.cliReport (some r.kind.code) r.kind.code ms)
  | d => if d.truthy then throw (Fault.named "AttributeError")
    else pure (Catalogue.cliReport (some r.kind.code) r.kind.code [])

/-- Building never changes the kind, and an empty message becomes the kind's default. -/
theorem build_message_default (k : ErrorKind) (u d : Json) (r : Report)
    (h : Report.build k (.str "") u d [] = .ok r) :
    r.kind = k ∧ r.message = .str k.defaultMessage := by
  unfold Report.build at h
  simp only [List.any_nil, Bool.false_eq_true, ↓reduceIte, bind, Except.bind, pure,
    Except.pure] at h
  split at h
  · simp only [Except.ok.injEq] at h
    subst h
    exact ⟨rfl, rfl⟩
  · split at h
    · simp only [Except.ok.injEq] at h
      subst h
      exact ⟨rfl, rfl⟩
    · simp [throw, throwThe, MonadExceptOf.throw] at h

end MailIngest.Error
