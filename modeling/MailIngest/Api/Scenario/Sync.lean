import MailIngest.Api.Scenario.Mailserver
import MailIngest.Api.Messages
import MailIngest.Sync.Cycle

/-!
# Scenario steps that sync

A sync step opens its own connection to the mail server, as a connection step describes it,
and runs one of three things on it: a whole cycle over the account's mailboxes, the listing of
the mailboxes a cycle would archive, or a check of the connection. A cycle starts from a
position given in its wire form, from none, or from the position the previous cycle left; its
consumer reacts to the messages with the events of the step, and may stop after some of them
or fail. Every sync step shows the connection's state and waits, and the server's history.
-/

namespace MailIngest.Api

open Service

/-- The options of a cycle: from settings, checked, or from plain options. -/
def syncOptions (step : Json) : Act Sync.Options := do
  match step.get? "settings" with
  | some s =>
    let r ← decoded (Settings.Sync.check s).toOutcome
    pure { batchSize := r.batchSize, allInclusive := r.allInclusiveArchive, policy := r.parseFailurePolicy }
  | none =>
    let o := fieldD step "options" (.obj [])
    let batchSize ← match fieldD o "batch_size" (.int 250) with
      | .int n => pure n
      | _ => fail (Fault.named "TypeError")
    let policy ← match fieldD o "parse_failure_policy" (.str "abort_mailbox") with
      | .str "abort_mailbox" => pure Settings.ParsePolicy.abortMailbox
      | .str "skip" => pure .skip
      | _ => fail (Fault.named "ValueError")
    pure { batchSize, allInclusive := (fieldD o "all_inclusive_archive" (.bool false)).truthy, policy }

/-- The position a cycle starts from: none, the previous cycle's, or one in its wire form. -/
def startPosition (step : Json) : Act (Option Sync.Position) := do
  match step.get? "position" with
  | none | some .null => pure none
  | some (.str "last") => pure (← get).lastPosition
  | some wire => some <$> decoded (Sync.Position.ofWire wire)

def countD (step : Json) (key : String) : Act (Option Nat) :=
  match step.get? key with
  | none | some .null => pure none
  | some (.int n) => pure (some n.toNat)
  | some _ => fail (Fault.named "TypeError")

/-- The consumer of a cycle: it applies the events due after each message, and stops or fails
after as many messages as the step says. -/
def consumerOf (step : Json) : Act Sync.Consumer := do
  let events := (fieldD step "events" (.arr [])).getArr?.getD []
  let take ← countD step "take"
  let raiseAfter ← countD step "raise_after"
  pure { react := fun n => events.forM fun e => do
           match e.get? "after" with
           | some (.int a) => if a = n then applyEvent e
           | _ => pure ()
         take, raiseAfter }

/-- A message as a cycle shows it: a few fields, or all of them. -/
def messageView (full : Bool) (m : Archive.Message) : Json :=
  if full then messageJson m
  else .obj [("id", .str m.id), ("uid", .int m.uid), ("thread_id", .str m.threadId),
    ("subject", .str m.subject), ("path", .str m.path)]

def entryJson (e : Mailbox.Entry) : Json :=
  .obj [("path", .str e.path), ("flags", Json.strs e.flags), ("delimiter", Json.optStr e.delimiter)]

/-- What a sync step shows of its connection: state, waits and the server's history. -/
def syncLinkFields (w : World) : List (String × Json) :=
  match w.link with
  | some l => [("state", .str l.state.name), ("sleeps", .arr (l.sleeps.map Number.toJson)),
      ("server", w.server.snapshot)]
  | none => []

def cycleAnswer (step : Json) (options : Sync.Options) : Act Json := do
  let position ← startPosition step
  let consumer ← consumerOf step
  let w ← get
  let engine : Sync.Engine := { options, now := w.arrival }
  let (r, w, e) := (Sync.run consumer position).run.run (w, engine)
  set { w with lastPosition := some e.position }
  let failure := match r with
    | .ok f => f
    | .error _ => none
  pure (.obj ([("messages", .arr (e.handed.map (messageView (flagD step "full" false)))),
    ("position", e.position.toJson),
    ("mailbox_errors", .obj (e.errors.map fun (k, v) => (k, .str v)))] ++
    match failure with
    | some f => [("consumer_error", faultJson f)]
    | none => []))

/-- The answer of one sync mode, a failure answered as such. -/
def syncMode (step : Json) (options : Sync.Options) : Act Json := do
  match ← decoded (textD step "mode" "cycle") with
  | "list_mailboxes" =>
    tryCatch (do
        let es ← Sync.listMailboxes options.allInclusive
        pure (.obj [("mailboxes", .arr (es.map entryJson))]))
      fun f => pure (faultJson f)
  | "test_connection" =>
    tryCatch (do
        let ok ← Sync.testConnection
        pure (.obj [("result", .bool ok)]))
      fun f => pure (faultJson f)
  | "cycle" => cycleAnswer step options
  | _ => fail (Fault.named "ValueError")

/-- A sync step on a connection of its own; the step's connection is shown, and the scenario's
connection is kept as it was. -/
def syncStep (op : String) (step : Json) : Option (Act Json) :=
  if op ≠ "sync" then none
  else some do
    let l ← linkOf step
    let options ← syncOptions step
    let saved := (← get).link
    modify fun w => { w with link := some l }
    let answer ← syncMode step options
    let w ← get
    set { w with link := saved }
    pure (match answer with
      | .obj ms => .obj (ms ++ syncLinkFields w)
      | j => j)

end MailIngest.Api
