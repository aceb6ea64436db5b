/-
Chains, and what is said to the contracts on them.

Every chain runs a routing contract, which registers requests to other chains
and records their results, and a proxy contract, which runs chaincode for
other chains. Both are called by function name with byte-string arguments and
answer with a status, a message and a payload.
-/
import RelayHub.Json.Record

set_option autoImplicit false

namespace RelayHub

open Json

/-! ## Chains -/

/-- The name of a chain. -/
structure ChainId where
  name : String
deriving DecidableEq, Repr, Inhabited

namespace ChainId

/-- A chain name as JSON: its text. -/
def codec : Codec ChainId :=
  Codec.text.imap ChainId.mk ChainId.name

/-- Whether the name is empty. -/
def isEmpty (c : ChainId) : Bool :=
  c.name.isEmpty

/-- The bytes of the name. -/
def bytes (c : ChainId) : Bytes :=
  Utf8.encode c.name

end ChainId

/-! ## Contract functions -/

namespace Contract

/-- Registers a request to another chain with the routing contract. -/
def invoke : String := "ChainCodeInvoke"

/-- Records the result of a registered request. -/
def recordResult : String := "ChainCodeInvokeResult"

/-- Asks the routing contract for a recorded result. -/
def queryResult : String := "QueryInvokeResult"

/-- Runs chaincode through the proxy contract. -/
def proxyCall : String := "NoTransactionCall"

/-- The status of a call that succeeded. -/
def statusOk : Int32 := 200

/-- The status of a call that failed. -/
def statusError : Int32 := 500

end Contract

/-! ## Answers -/

/-- What a contract answers. -/
structure ContractResponse where
  status : Int32
  message : String
  payload : Bytes
deriving DecidableEq, Repr

namespace ContractResponse

/-- Success with a payload. -/
def ok (payload : Bytes) : ContractResponse :=
  ⟨Contract.statusOk, "", payload⟩

/-- Failure with a message. -/
def error (message : String) : ContractResponse :=
  ⟨Contract.statusError, message, []⟩

/-- Whether a call succeeded. -/
def isOk (r : ContractResponse) : Bool :=
  r.status == Contract.statusOk

/-- An answer as JSON. -/
def codec : Codec ContractResponse :=
  Codec.record "ContractResponse"
    (.more (.required "status" Codec.i32) <|
     .more (.defaulted "message" Codec.text "") <|
     .more (.defaulted "payload" Codec.hex []) .none)
    (fun (status, message, payload, ()) => ⟨status, message, payload⟩)
    (fun r => (r.status, r.message, r.payload, ()))

end ContractResponse

/-! ## Calls -/

/-- A call that the origin chain wants made when the result of its request has
been recorded. -/
structure CallbackDescriptor where
  chaincode : String
  function : String
  args : List String
deriving DecidableEq, Repr

namespace CallbackDescriptor

/-- Whether there is chaincode to call. -/
def isActionable (d : CallbackDescriptor) : Bool :=
  !d.chaincode.isEmpty

/-- A callback as JSON. -/
def codec : Codec CallbackDescriptor :=
  Codec.record "CallbackDescriptor"
    (.more (.required "chaincode" Codec.text) <|
     .more (.required "fn" Codec.text) <|
     .more (.defaulted "args" Codec.text.list []) .none)
    (fun (chaincode, function, args, ()) => ⟨chaincode, function, args⟩)
    (fun d => (d.chaincode, d.function, d.args, ()))

end CallbackDescriptor

/-- What a request asks for: a chaincode function, possibly on a named channel
instead of the destination, and a callback. -/
structure InvokePayload where
  channel : Option String
  chaincode : String
  function : String
  args : List String
  callback : Option CallbackDescriptor
deriving DecidableEq, Repr

namespace InvokePayload

/-- A payload as JSON. -/
def codec : Codec InvokePayload :=
  Codec.record "InvokePayload"
    (.more (.hidden "channel" Codec.text) <|
     .more (.required "chaincode" Codec.text) <|
     .more (.required "fn" Codec.text) <|
     .more (.defaulted "args" Codec.text.list []) <|
     .more (.hidden "callback" CallbackDescriptor.codec) .none)
    (fun (channel, chaincode, function, args, callback, ()) =>
      ⟨channel, chaincode, function, args, callback⟩)
    (fun p => (p.channel, p.chaincode, p.function, p.args, p.callback, ()))

/-- Reads a payload. -/
def decode (bytes : Bytes) : Except Fault InvokePayload :=
  codec.decode bytes

/-- Writes a payload. -/
def encode (p : InvokePayload) : Bytes :=
  codec.write p

end InvokePayload

end RelayHub
