/-
Failures of a hub call.

A failure has a status and a message. It travels between hubs as JSON, with
the HTTP code of its status, and the status alone decides whether it makes
sense to try again.
-/
import RelayHub.Trust.Error

set_option autoImplicit false

namespace RelayHub

open Json

/-! ## Statuses -/

/-- The kinds of failure. -/
inductive HubStatus where
  | invalidArgument
  | notFound
  | unauthenticated
  | unavailable
  | deadlineExceeded
  | internal
deriving DecidableEq, Repr

namespace HubStatus

/-- The name of a status in messages. -/
def name : HubStatus → String
  | invalidArgument => "InvalidArgument"
  | notFound => "NotFound"
  | unauthenticated => "Unauthenticated"
  | unavailable => "Unavailable"
  | deadlineExceeded => "DeadlineExceeded"
  | internal => "Internal"

/-- The name of a status on the wire. -/
def wireName : HubStatus → String
  | invalidArgument => "INVALID_ARGUMENT"
  | notFound => "NOT_FOUND"
  | unauthenticated => "UNAUTHENTICATED"
  | unavailable => "UNAVAILABLE"
  | deadlineExceeded => "DEADLINE_EXCEEDED"
  | internal => "INTERNAL"

/-- All statuses. -/
def all : List HubStatus :=
  [invalidArgument, notFound, unauthenticated, unavailable, deadlineExceeded, internal]

/-- A status as JSON: its name on the wire. -/
def codec : Codec HubStatus :=
  Codec.choice (all.map fun s => (s.wireName, s)) wireName

/-- The HTTP code that goes with a status. -/
def httpCode : HubStatus → Nat
  | invalidArgument => 400
  | unauthenticated => 401
  | notFound => 404
  | internal => 500
  | unavailable => 503
  | deadlineExceeded => 504

/-- The status that an HTTP code stands for. -/
def ofHttpCode (code : Nat) : HubStatus :=
  if code = 400 ∨ code = 422 then invalidArgument
  else if code = 401 ∨ code = 403 then unauthenticated
  else if code = 404 then notFound
  else if code = 502 ∨ code = 503 then unavailable
  else if code = 504 then deadlineExceeded
  else internal

end HubStatus

/-! ## Failures -/

/-- A failure of a hub call. -/
structure HubError where
  status : HubStatus
  message : String
deriving DecidableEq, Repr

namespace HubError

/-- The text of a failure. -/
def text (e : HubError) : String :=
  e.status.name ++ ": " ++ e.message

/-- Whether the time for the call ran out. -/
def isDeadlineExceeded (e : HubError) : Bool :=
  e.status == .deadlineExceeded

/-- Whether the same call may succeed later. -/
def isTransient (e : HubError) : Bool :=
  match e.status with
  | .unavailable | .deadlineExceeded | .internal => true
  | .invalidArgument | .notFound | .unauthenticated => false

/-- The failure that a failure of the trust store causes. -/
def ofCrypto (e : CryptoError) : HubError :=
  let status : HubStatus :=
    match e with
    | .missingPrivateKey _ => .notFound
    | .signingFailed _ => .internal
    | .emptyDigest => .invalidArgument
    | _ => .unauthenticated
  ⟨status, e.message⟩

/-- A failure as JSON. -/
def codec : Codec HubError :=
  Codec.record "HubError"
    (.more (.required "status" HubStatus.codec) <|
     .more (.required "message" Codec.text) .none)
    (fun (status, message, ()) => ⟨status, message⟩)
    (fun e => (e.status, e.message, ()))

end HubError

end RelayHub
