import MailIngest.Json.Value

/-!
# The token endpoint

The provider's token endpoint answers form posts. Its replies come from a queue, in order: a
response with a status and a JSON body (a body that is no JSON cannot be read), or a failure to
reach the endpoint. With nothing queued the endpoint cannot be reached. A queued reply may also
name a credential that disappears while the post is in flight.

Every post is recorded with its address, its form fields and its timeout.

- `post_posts` : a post is recorded whatever the reply.
-/

namespace MailIngest.OAuth

/-- A reply of the token endpoint. -/
inductive Reply where
  /-- A response: its status and its JSON body, `none` when the body is no JSON. -/
  | response (status : Int) (body : Option Json)
  /-- The endpoint could not be reached: the connection failed, or it timed out. -/
  | unreachable (timedOut : Bool)
deriving Inhabited

/-- A queued reply and the credential that vanishes when it is taken. -/
structure Queued where
  reply : Reply
  vanishing : Option String := none
deriving Inhabited

/-- The endpoint: replies still to come, and the posts made so far. -/
structure Endpoint where
  queue : List Queued := []
  posts : List Json := []
deriving Inhabited

namespace Endpoint

def enqueue (e : Endpoint) (q : Queued) : Endpoint := { e with queue := e.queue ++ [q] }

def postRecord (url : String) (form : List (String × Json)) (timeout : Float) : Json :=
  .obj [("url", .str url), ("data", .obj form), ("timeout", .float timeout)]

/-- Posts a form: records it and takes the next reply; with none queued the endpoint cannot be
reached. -/
def post (e : Endpoint) (url : String) (form : List (String × Json)) (timeout : Float) :
    Queued × Endpoint :=
  let e := { e with posts := e.posts ++ [postRecord url form timeout] }
  match e.queue with
  | [] => ({ reply := .unreachable false }, e)
  | q :: rest => (q, { e with queue := rest })

def clearPosts (e : Endpoint) : Endpoint := { e with posts := [] }

end Endpoint

theorem post_posts (e : Endpoint) (url : String) (form : List (String × Json)) (t : Float) :
    (e.post url form t).2.posts = e.posts ++ [Endpoint.postRecord url form t] := by
  obtain ⟨q, ps⟩ := e
  cases q <;> rfl

end MailIngest.OAuth
