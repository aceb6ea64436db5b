/-
What a web request may bring back: an answer with a code and a body, or no
answer, because none came or the time ran out.
-/
import RelayHub.Action
import RelayHub.Net.Url

set_option autoImplicit false

namespace RelayHub

/-- The outcome of a web request. -/
inductive HttpReply where
  | answered (code : Nat) (body : Bytes)
  | failed
  | timedOut
deriving DecidableEq, Repr

namespace HttpReply

/-- Whether a code says that the request succeeded. -/
def isSuccess (code : Nat) : Bool :=
  decide (200 ≤ code ∧ code < 300)

/-- Whether a code says that the server failed. -/
def isServerFailure (code : Nat) : Bool :=
  decide (500 ≤ code ∧ code < 600)

/-- What is said of a request to an address that got no answer, or that could
not be made. -/
def noAnswer (address : String) : String :=
  match Url.ofString address with
  | none => "builder error"
  | some url =>
    if url.host?.isNone then "builder error for url (" ++ url.text ++ ")"
    else
      let url := url.withoutCredentials
      (if url.canSend then "error sending request" else "builder error") ++
        " for url (" ++ url.text ++ ")"

/-- What is said of an answer whose body cannot be read. -/
def badBody : String := "error decoding response body"

/-- The standard names of the codes. -/
def reason (code : Nat) : String :=
  match code with
  | 100 => "Continue"
  | 101 => "Switching Protocols"
  | 102 => "Processing"
  | 200 => "OK"
  | 201 => "Created"
  | 202 => "Accepted"
  | 203 => "Non Authoritative Information"
  | 204 => "No Content"
  | 205 => "Reset Content"
  | 206 => "Partial Content"
  | 207 => "Multi-Status"
  | 208 => "Already Reported"
  | 226 => "IM Used"
  | 300 => "Multiple Choices"
  | 301 => "Moved Permanently"
  | 302 => "Found"
  | 303 => "See Other"
  | 304 => "Not Modified"
  | 305 => "Use Proxy"
  | 307 => "Temporary Redirect"
  | 308 => "Permanent Redirect"
  | 400 => "Bad Request"
  | 401 => "Unauthorized"
  | 402 => "Payment Required"
  | 403 => "Forbidden"
  | 404 => "Not Found"
  | 405 => "Method Not Allowed"
  | 406 => "Not Acceptable"
  | 407 => "Proxy Authentication Required"
  | 408 => "Request Timeout"
  | 409 => "Conflict"
  | 410 => "Gone"
  | 411 => "Length Required"
  | 412 => "Precondition Failed"
  | 413 => "Payload Too Large"
  | 414 => "URI Too Long"
  | 415 => "Unsupported Media Type"
  | 416 => "Range Not Satisfiable"
  | 417 => "Expectation Failed"
  | 418 => "I'm a teapot"
  | 421 => "Misdirected Request"
  | 422 => "Unprocessable Entity"
  | 423 => "Locked"
  | 424 => "Failed Dependency"
  | 425 => "Too Early"
  | 426 => "Upgrade Required"
  | 428 => "Precondition Required"
  | 429 => "Too Many Requests"
  | 431 => "Request Header Fields Too Large"
  | 451 => "Unavailable For Legal Reasons"
  | 500 => "Internal Server Error"
  | 501 => "Not Implemented"
  | 502 => "Bad Gateway"
  | 503 => "Service Unavailable"
  | 504 => "Gateway Timeout"
  | 505 => "HTTP Version Not Supported"
  | 506 => "Variant Also Negotiates"
  | 507 => "Insufficient Storage"
  | 508 => "Loop Detected"
  | 510 => "Not Extended"
  | 511 => "Network Authentication Required"
  | _ => "<unknown status code>"

/-- A code with its name. -/
def codeText (code : Nat) : String :=
  toString code ++ " " ++ reason code

end HttpReply

/-- The rest of the web, in a state of type `σ`. -/
structure HttpPeer (σ : Type) where
  get : (address : String) → StateM σ HttpReply
  post : (address : String) → (body : Bytes) → StateM σ HttpReply

/-- The web when there is no network. -/
def HttpPeer.unreachable {σ : Type} : HttpPeer σ where
  get _ := pure .failed
  post _ _ := pure .failed

end RelayHub
