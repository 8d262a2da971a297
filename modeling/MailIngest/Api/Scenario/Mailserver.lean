import MailIngest.Api.Scenario.Setup
import MailIngest.Service.Connection

/-!
# Scenario steps about the mail server

Setting up the server's mailboxes and messages, scheduling trouble on it, and driving one
connection to it: opening it, running an operation with retries, logging out or dropping the
client, and resolving how it signs in. Every connection step shows the connection's state and
waits, and the server's history.

A message is given as text, as raw bytes (`raw`, or `raw_b64` in base64), or as the template
message of its UID, under the body key `BODY[]` unless another key, or none, is named.
-/

namespace MailIngest.Api

open Service

def templateMessage (uid : Nat) : String :=
  "From: Alice Example <alice@example.com>\r\nTo: bob@example.com\r\nSubject: Message " ++
    toString uid ++ "\r\nDate: Wed, 01 May 2024 10:00:00 +0200\r\nMessage-ID: <m" ++
    toString uid ++ "@example.com>\r\n\r\nBody of message " ++ toString uid ++ "\r\n"

/-- The body key a message names: `BODY[]` unless it names another, or `null` for none. -/
def bodyKey (m : Json) : Outcome (Option String) :=
  match m.get? "key" with
  | none => .ok (some "BODY[]")
  | some .null => .ok none
  | some v => some <$> asText v

def storedOf (uid : Nat) : Json → Outcome Imap.Stored
  | .str s => .ok { uid, key := some "BODY[]", source := Text.Utf8.encode s }
  | m => do
    let key ← bodyKey m
    if (fieldD m "template" .null).truthy then
      pure { uid, key, source := Text.Utf8.encode (templateMessage uid) }
    else pure { uid, key, source := ← bytesField m "raw" }

def uidOf (s : String) : Outcome Nat :=
  match (Text.trim s).toNat? with
  | some n => .ok n
  | none => .error (Fault.named "ValueError")

/-- The messages of a mailbox spec: a range of template messages, or messages by UID. -/
def messagesOf (spec : Json) : Outcome (List Imap.Stored) :=
  match spec.get? "range" with
  | some (.arr [.int lo, .int hi]) =>
    .ok ((List.range (hi - lo + 1).toNat).map fun (i : Nat) =>
      let u := (lo + Int.ofNat i).toNat
      { uid := u, key := some "BODY[]", source := Text.Utf8.encode (templateMessage u) })
  | _ => spec.members.mapM fun (k, v) => do storedOf (← uidOf k) v

def mailboxOf (spec : Json) : Outcome (Imap.Listing × List Imap.Stored) := do
  let path ← text spec "path"
  let flags ← ((fieldD spec "flags" (Json.strs ["\\HasNoChildren"])).getArr?.getD []).mapM asText
  let delimiter ← match fieldD spec "delimiter" (.str "/") with
    | .null => pure none
    | v => some <$> asText v
  let messages ← messagesOf (fieldD spec "messages" (.obj []))
  pure ({ path, flags, delimiter, sloppy := (fieldD spec "sloppy" (.bool false)).truthy }, messages)

/-- A fresh server with the given mailboxes and broken paths. -/
def setupServer (step : Json) : Outcome Imap.Server := do
  let boxes ← ((fieldD step "mailboxes" (.arr [])).getArr?.getD []).mapM mailboxOf
  let broken ← ((fieldD step "broken" (.arr [])).getArr?.getD []).mapM asText
  pure { listing := boxes.map (·.1), boxes := boxes.map fun (l, ms) => (l.path, ms),
         broken := broken }

def countOf (v : Json) : Outcome Nat :=
  match v with
  | .int n => .ok n.toNat
  | _ => .error (Fault.named "TypeError")

def applyEvent (e : Json) : Act Unit := do
  if let some v := e.get? "fail_next" then
    let n ← decoded (countOf v)
    modify fun w => { w with server := { w.server with failing := n } }
  if let some v := e.get? "rejected_logins" then
    let n ← decoded (countOf v)
    modify fun w => { w with server := { w.server with rejecting := n } }
  if let some v := e.get? "break" then
    let p ← decoded (asText v)
    modify fun w => { w with server := { w.server with
      broken := if w.server.broken.contains p then w.server.broken else w.server.broken ++ [p] } }
  if let some v := e.get? "fix" then
    let p ← decoded (asText v)
    modify fun w => { w with server := { w.server with broken := w.server.broken.filter (· ≠ p) } }
  if let some v := e.get? "add" then
    for (path, spec) in v.members do
      let ms ← decoded (messagesOf spec)
      modify fun w => { w with server := w.server.file path ms }
  if let some v := e.get? "advance" then
    let secs ← decoded (floatD (.obj [("s", v)]) "s" 0.0)
    let us ← decoded (Time.floatSecondsMicros secs)
    let t ← decoded ((← get).wall.addMicros us)
    modify fun w => { w with wall := t }
  if let some v := e.get? "logout_fails" then
    let n ← decoded (countOf v)
    modify fun w => { w with server := { w.server with logoutFailing := n } }
  if let some v := e.get? "shutdown_fails" then
    let n ← decoded (countOf v)
    modify fun w => { w with server := { w.server with shutdownFailing := n } }

def numberField (step : Json) (key : String) (dflt : Number) : Outcome Number :=
  match step.get? key with
  | none => .ok dflt
  | some v => match Number.ofJson? v with
    | some n => .ok n
    | none => .error (Fault.named "TypeError")

/-- The account a connection step names, its credential id resolved as a reference. -/
def accountOf (step : Json) : Act Imap.Account := do
  let given := fieldD step "account" (.obj [("host", .str "imap.example.com"),
    ("username", .str "user@example.com"), ("password", .str "pw")])
  let given ← match given.get? "oauth_credential_id" with
    | some (.str r) => do
      let id ← credentialRef (.obj [("credential", .str r)])
      pure (given.set "oauth_credential_id" (.str id))
    | _ => pure given
  decoded (Imap.Account.check given).toOutcome

def linkOf (step : Json) : Act Link := do
  let account ← accountOf step
  let withFlow := (fieldD step "with_flow" (.bool true)).truthy
  if Imap.present account.oauthCredentialId && !withFlow then
    fail (.runtime "ValueError" (some "OAuth accounts need an OAuthFlowManager"))
  let maxAttempts ← match fieldD step "max_attempts" (.int 5) with
    | .int n => pure n
    | _ => fail (Fault.named "TypeError")
  let jitter ← ((fieldD step "jitter" (.arr [.float 0.0])).getArr?.getD []).mapM fun j =>
    decoded (numberField (.obj [("u", j)]) "u" (.real 0.0))
  pure { account := account
         withFlow := withFlow
         policy := { maxAttempts := maxAttempts
                     backoffBase := ← decoded (numberField step "backoff_base" (.real 2.0))
                     maxJitter := ← decoded (numberField step "max_jitter" (.real 1.0)) }
         jitter := { fractions := jitter }
         timeout := ← decoded (numberField step "timeout" (.real 30.0)) }

def listingJson (l : Imap.Listing) : Json :=
  .arr [Json.strs l.flags, Json.optStr l.delimiter, .str l.path]

def operationOf (name : String) : Act Json :=
  match name with
  | "noop" => do
    clientStep Imap.Server.noop
    pure (.str "NOOP completed")
  | "list" => do pure (.arr ((← clientStep Imap.Server.listFolders).map listingJson))
  | _ =>
    if name.startsWith "select:" then do
      pure (.int (← openMailbox (String.ofList (name.toList.drop 7))))
    else fail (Fault.named "ValueError")

def authJson : Auth → Json
  | .password u p => .obj [("type", .str "PasswordAuth"), ("username", .str u), ("password", .str p)]
  | .bearer u t c => .obj [("type", .str "BearerAuth"), ("username", .str u),
      ("access_token", .str t), ("credential_id", .str c)]

/-- The steps about the mail server and the connection to it. -/
def mailStep (op : String) (step : Json) : Option (Act Json) :=
  match op with
  | "imap_setup" => some do
    let s ← decoded (setupServer step)
    modify fun w => { w with server := s }
    pure (.obj [("mailboxes", Json.strs (s.listing.map (·.path)))])
  | "imap_event" => some do
    applyEvent step
    pure (.obj [("ok", .bool true)])
  | "conn_new" => some do
    let l ← linkOf step
    modify fun w => { w with link := some l }
    pure (.obj [("ok", .bool true)])
  | "conn_ensure" => some do
    ensureConnected
    pure (.obj [("ok", .bool true)])
  | "conn_with_retry" => some do
    let name ← decoded (textD step "operation" "noop")
    let context ← decoded (textD step "context" "noop")
    let r ← withRetry (operationOf name) context
    pure (.obj [("result", r)])
  | "conn_logout" => some do
    logout
    pure (.obj [("ok", .bool true)])
  | "conn_discard" => some do
    discard
    pure (.obj [("ok", .bool true)])
  | "conn_resolve" => some do
    let a ← resolveAuth (flagD step "force_refresh" false)
    pure (.obj [("auth", authJson a)])
  | "conn_can_refresh" => some do
    pure (.obj [("result", .bool (← canRefreshAfterRejection))])
  | _ => none

/-- What a connection step shows besides its result: the connection's state, whether it has
a client, its waits, the server's history and how clients were asked to connect. -/
def linkFields (w : World) : List (String × Json) :=
  match w.link with
  | some l => [("state", .str l.state.name), ("has_client", .bool l.client.isSome),
      ("sleeps", .arr (l.sleeps.map Number.toJson)), ("server", w.server.snapshot),
      ("connects", .arr w.server.connects)]
  | none => []

end MailIngest.Api
