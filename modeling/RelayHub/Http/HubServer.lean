/-
A hub on the web.

The hub takes calls as posted JSON and says on request that it is healthy. A
failed call is answered with the failure as JSON and the code of its status, so
that the hub that called gets the same failure back.
-/
import RelayHub.Hub.Connectors
import RelayHub.Http.Peer

set_option autoImplicit false

namespace RelayHub

open Json

/-! ## Addresses -/

namespace HubAddress

/-- Where calls are posted. -/
def invokePath : String := "/hub/invoke"

/-- Where the state of a hub is asked for. -/
def healthPath : String := "/health"

/-- The address for calls of the hub at an endpoint. -/
def invoke (endpoint : String) : String :=
  withoutSlashes endpoint ++ invokePath

end HubAddress

/-! ## The server -/

/-- A web request: its method, its target and its body. -/
structure HttpRequest where
  method : String
  target : String
  body : Bytes
deriving DecidableEq, Repr

/-- What a target says after its scheme, if it names one. -/
def HttpRequest.afterScheme? (target : List Char) : Option (List Char) :=
  match target.dropWhile fun c => c.isAlphanum || c = '+' || c = '-' || c = '.' || c = '~' with
  | ':' :: '/' :: '/' :: rest => some rest
  | _ => none

/-- The path of a request: its target up to a query or fragment, without the
scheme and the host if they are there. -/
def HttpRequest.path (r : HttpRequest) : String :=
  let target := r.target.toList.takeWhile fun c => c ≠ '?' ∧ c ≠ '#'
  match HttpRequest.afterScheme? target with
  | some rest => String.ofList (rest.dropWhile (· ≠ '/'))
  | none => String.ofList target

/-- The answer to a web request. -/
structure HttpAnswer where
  code : Nat
  contentType : Option String
  allow : Option String
  body : Bytes
deriving DecidableEq, Repr

namespace HttpAnswer

/-- An answer with a JSON body. -/
def json (code : Nat) (body : Bytes) : HttpAnswer :=
  ⟨code, some "application/json", none, body⟩

/-- An answer with a body of plain text. -/
def plain (code : Nat) (text : String) : HttpAnswer :=
  ⟨code, some "text/plain; charset=utf-8", none, Utf8.encode text⟩

/-- Nothing is served there. -/
def notFound : HttpAnswer := ⟨404, none, none, []⟩

/-- Something is served there, but only for other methods. -/
def otherMethod (allowed : String) : HttpAnswer := ⟨405, none, some allowed, []⟩

/-- A failed call. -/
def ofError (e : HubError) : HttpAnswer :=
  json e.status.httpCode (HubError.codec.write e)

/-- The outcome of a call. -/
def ofOutcome (r : Except HubError HubResponse) : HttpAnswer :=
  match r with
  | .ok response => json 200 (HubResponse.codec.write response)
  | .error e => ofError e

/-- What a healthy hub says. -/
def healthy : HttpAnswer :=
  let member (name value : String) : Bytes := writeText name ++ colon :: writeText value
  json 200 <| openBrace :: separated
    [member "service" "chain-hub", member "status" "healthy", member "version" "0.1.0"] ++
    [closeBrace]

end HttpAnswer

namespace HubServer

variable {σ : Type}

/-- The largest body that is read. -/
def bodyLimit : Nat := 2097152

/-- The call in the body of a request, or the answer to a body that is none. -/
def callOf (body : Bytes) : Except HttpAnswer HubRequest :=
  if bodyLimit < body.length then
    .error (.plain 413 "Failed to buffer the request body: length limit exceeded")
  else
    match Utf8.flaw? body with
    | some flaw =>
      .error (.plain 400 ("Request body didn't contain valid UTF-8: " ++ flaw.message))
    | none =>
      match HubRequest.codec.decode body with
      | .ok q => .ok q
      | .error fault =>
        .error (.ofError ⟨.invalidArgument, "parse error: " ++ fault.message⟩)

/-- Answers a posted call. -/
def answerCall (api : HubApi σ) (body : Bytes) : StateM σ HttpAnswer := fun s =>
  match callOf body with
  | .error a => (a, s)
  | .ok q =>
    let (r, s) := (api q).perform s
    (.ofOutcome r, s)

/-- Answers a web request. -/
def answer (api : HubApi σ) (r : HttpRequest) : StateM σ HttpAnswer :=
  if r.path = HubAddress.invokePath then
    if r.method = "POST" then answerCall api r.body else pure (.otherMethod "POST")
  else if r.path = HubAddress.healthPath then
    if r.method = "GET" then pure .healthy
    else if r.method = "HEAD" then pure { HttpAnswer.healthy with body := [] }
    else pure (.otherMethod "GET,HEAD")
  else pure .notFound

end HubServer

/-! ## The client -/

namespace Connector

variable {σ : Type}

/-- The outcome of a call in a reply from an address. -/
def outcomeOf (address : String) : HttpReply → Except HubError HubResponse
  | .answered code body =>
    if HttpReply.isSuccess code then
      match HubResponse.codec.decode body with
      | .ok r => .ok r
      | .error _ => .error ⟨.internal, "decode hub response: " ++ HttpReply.badBody⟩
    else
      let text := Utf8.decodeLossy body
      match HubError.codec.decodeText text with
      | .ok e => .error e
      | .error _ => .error ⟨.ofHttpCode code, text⟩
  | .failed => .error ⟨.unavailable, HttpReply.noAnswer address⟩
  | .timedOut => .error ⟨.deadlineExceeded, HttpReply.noAnswer address⟩

/-- A connection to the hub at an endpoint. -/
def dial (peer : HttpPeer σ) (endpoint : String) : HubApi σ := fun q =>
  Action.of fun s =>
    let address := HubAddress.invoke endpoint
    let (r, s) := peer.post address (HubRequest.codec.write q) s
    (outcomeOf address r, s)

/-- Reaches remote chains over the web. -/
def http (peer : HttpPeer σ) (registry : Registry) : Connector σ where
  connect target :=
    Action.ofExcept <|
      match registry.remote? target with
      | some remote => .ok (dial peer remote.endpoint)
      | none => .error ⟨.notFound, "no hub endpoint for chain " ++ target.name⟩

/-- Reaches local chains within the hub and remote chains over the web. -/
def standard (peer : HttpPeer σ) (x : HubExecutor σ) : Connector σ :=
  byRole x.registry (loopback x) (http peer x.registry)

end Connector

end RelayHub
