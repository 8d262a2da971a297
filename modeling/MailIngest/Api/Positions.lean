import MailIngest.Api.Request
import MailIngest.Api.Answer
import MailIngest.Sync.Position

/-!
# Requests about sync positions

A position read from its wire form or from its typed fields, with the last UID of the paths a
request asks about, and a run of steps on a store of positions by source.
-/

namespace MailIngest.Api

open Sync

/-- A position read as a request's mode says, with the last UIDs of the looked-up paths. -/
def syncPosition (req : Json) : Outcome Json := do
  let mode ← textD req "mode" "from_wire"
  let p ← if mode = "validate" then (Position.check (fieldD req "data" (.obj []))).toOutcome
    else Position.ofWire (fieldD req "payload" .null)
  let paths ← ((fieldD req "lookup" (.arr [])).getArr?.getD []).mapM asText
  pure (match p.toJson with
    | .obj ms => .obj (ms ++ [("last_uid", .obj (paths.map fun k => (k, .int (p.lastUid k))))])
    | j => j)

/-- One step on a position store: its result and the store after it. -/
def positionStep (s : PositionStore) (step : Json) : Outcome (Json × PositionStore) :=
  let ok : Json := .obj [("ok", .bool true)]
  match step.get? "op" with
  | some (.str "upsert") => do
    let src ← text step "source_id"
    let p ← Position.ofWire (← need step "position")
    pure (ok, ← s.upsert src p)
  | some (.str "fetch") => do
    let p ← s.fetch (← text step "source_id")
    pure (.obj [("position", match p with
      | some p => p.toJson
      | none => .null)], s)
  | some (.str "remove") => do
    let src ← text step "source_id"
    pure (ok, s.remove src)
  | some (.str "list") => pure (.obj [("sources", Json.strs s.sources)], s)
  | _ => throw (Fault.named "ValueError")

/-- The results of steps run one after another on a store; a failed step leaves the store as
it was. -/
def positionSteps : PositionStore → List Json → List Json
  | _, [] => []
  | s, step :: rest =>
    match positionStep s step with
    | .ok (r, s') => r :: positionSteps s' rest
    | .error f => faultJson f :: positionSteps s rest

def positionStore (req : Json) : Json :=
  .obj [("results", .arr (positionSteps {} ((fieldD req "steps" (.arr [])).getArr?.getD [])))]

end MailIngest.Api
