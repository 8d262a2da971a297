import MailIngest.Api.Scenario.Credentials
import MailIngest.Api.Scenario.Mailserver
import MailIngest.Api.Scenario.Sync

/-!
# Scenarios

A scenario is a run of steps against one world: clocks, the vault, the credential store, the
token lifecycle, the mailbox connection service and its pending sign-ins, the mail server and a
connection to it. Each step answers on its own, and a step that fails does not stop the run;
the token endpoint posts a step makes are shown with its answer, and a connection step shows
the connection.
-/

namespace MailIngest.Api

open Service

def scenarioStep (step : Json) : Act Json := do
  let op ← decoded (textD step "op" "")
  match clockStep op step <|> tokenStep op step <|> serviceStep op step <|> mailStep op step <|>
      syncStep op step with
  | some act => act
  | none => fail (Fault.named "ValueError")

def withFields (answer : Json) (extra : List (String × Json)) : Json :=
  match answer with
  | .obj ms => .obj (ms ++ extra)
  | j => j

/-- Runs one step: its answer, with the token endpoint posts it made and, for a connection
step, the connection. -/
def runStep (step : Json) : StateM World Json := do
  modify fun w => { w with endpoint := w.endpoint.clearPosts }
  let r ← (scenarioStep step).run
  let w ← get
  let posts := w.endpoint.posts
  let isConn := match step.get? "op" with
    | some (.str op) => op.startsWith "conn_"
    | _ => false
  let answer := withFields (outcomeJson r) (if posts.isEmpty then [] else [("posts", .arr posts)])
  pure (if isConn then withFields answer (linkFields w) else answer)

def scenario (host : Host) (req : Json) : Outcome Json := do
  let w ← startWorld host req
  let steps := (fieldD req "steps" (.arr [])).getArr?.getD []
  let (results, _) := (steps.mapM runStep).run w
  pure (.obj [("results", .arr results)])

end MailIngest.Api
