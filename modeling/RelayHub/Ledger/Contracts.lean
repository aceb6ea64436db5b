/-
A chain with its contracts, held in memory.

The routing contract registers requests to other chains, each pair of
transaction and step once, and commits each in a block of its own; it records
the results of registered requests and tells them when asked. The proxy
contract runs chaincode for other chains, unless the chaincode is locked. Any
other contract is chaincode called directly. Blocks are linked by hash and
numbered from one. The time of a block is counted from a fixed start, so that
the same calls make the same blocks.
-/
import RelayHub.Crypto.Sha256
import RelayHub.Ledger.Basic

set_option autoImplicit false

namespace RelayHub

open Json

/-! ## Chains -/

/-- What chaincode does: it answers a function call with a payload, or refuses
it with a message. -/
abbrev Chaincode := (function : String) → (args : List String) → Except String Bytes

/-- A transaction and a step of it, which name a request on its chain. -/
structure StepKey where
  transactionId : String
  stepId : String
deriving DecidableEq, Repr

/-- The text of a pair in messages. -/
def StepKey.text (k : StepKey) : String :=
  k.transactionId ++ "/" ++ k.stepId

/-- A recorded result, as texts. -/
structure RecordedResult where
  origin : String
  destination : String
  key : StepKey
  payload : String
  signer : String
  message : String
deriving DecidableEq, Repr

/-- A recorded result as JSON. -/
def RecordedResult.write (r : RecordedResult) : Bytes :=
  let member (name value : String) : Bytes := writeText name ++ colon :: writeText value
  openBrace :: separated
    [member "from" r.origin, member "to" r.destination,
     member "transaction_id" r.key.transactionId, member "step_id" r.key.stepId,
     member "payload" r.payload, member "signer" r.signer, member "message" r.message] ++
    [closeBrace]

/-- A chain. -/
structure Chain where
  router : String
  proxy : String
  blocks : List RawBlock
  requests : List (StepKey × List Bytes)
  results : List (StepKey × RecordedResult)
  locks : List (String × String)
  chaincodes : List (String × Chaincode)
  invocations : List Invocation
  failingQueries : Nat
  failingInvokes : Nat
  registered : UInt64

/-- Gives a key a value in a list of pairs, in place of an older one. -/
def assign {κ ν : Type} [DecidableEq κ] (key : κ) (value : ν) (pairs : List (κ × ν)) :
    List (κ × ν) :=
  (key, value) :: pairs.filter fun e => e.1 ≠ key

namespace Chain

/-- A new chain with its two contracts. -/
def new (router proxy : String) : Chain where
  router := router
  proxy := proxy
  blocks := []
  requests := []
  results := []
  locks := []
  chaincodes := []
  invocations := []
  failingQueries := 0
  failingInvokes := 0
  registered := 0

/-! ## Setting a chain up -/

/-- Deploys chaincode under a name. -/
def deploy (c : Chain) (name : String) (code : Chaincode) : Chain :=
  { c with chaincodes := assign name code c.chaincodes }

/-- Locks chaincode for an unfinished transaction. -/
def lock (c : Chain) (chaincode holder : String) : Chain :=
  { c with locks := assign chaincode holder c.locks }

/-- Unlocks chaincode. -/
def unlock (c : Chain) (chaincode : String) : Chain :=
  { c with locks := c.locks.filter fun e => e.1 ≠ chaincode }

/-- Makes the next `n` queries fail. -/
def failQueries (c : Chain) (n : Nat) : Chain :=
  { c with failingQueries := n }

/-- Makes the next `n` calls fail. -/
def failInvokes (c : Chain) (n : Nat) : Chain :=
  { c with failingInvokes := n }

/-! ## Blocks -/

/-- The time from which the times of blocks are counted. -/
def start : Int64 := 1600000000

/-- The number of the last block. -/
def height (c : Chain) : UInt64 :=
  UInt64.ofNat c.blocks.length

/-- The block that comes next, with these transactions. -/
def nextBlock (c : Chain) (envelopes : List Envelope) : RawBlock :=
  let number := c.height + 1
  let previousHash := (c.blocks.getLast?.map RawBlock.hash).getD ""
  let origin := Envelope.codec.list.write envelopes
  let dataHash := Crypto.sha256Hex origin
  { number, previousHash, dataHash
    hash := Crypto.sha256Hex
      (Bytes.ofWordBE number ++ Utf8.encode previousHash ++ Utf8.encode dataHash)
    timestamp := start + number.toInt64
    envelopes, origin }

/-- Commits a block with these transactions. -/
def append (c : Chain) (envelopes : List Envelope) : RawBlock × Chain :=
  let block := c.nextBlock envelopes
  (block, { c with blocks := c.blocks ++ [block] })

/-- The block with a number; failures asked for come first. -/
def query (chain : ChainId) (number : UInt64) : Action Chain LedgerError RawBlock :=
  Action.of fun c =>
    if 0 < c.failingQueries then
      (.error (.unavailable "injected query failure"),
       { c with failingQueries := c.failingQueries - 1 })
    else
      match number.toNat with
      | 0 => (.error (.notFound chain number), c)
      | index + 1 =>
        match c.blocks[index]? with
        | some block => (.ok block, c)
        | none => (.error (.notFound chain number), c)

/-! ## The routing contract -/

/-- Refuses a call with other than the expected number of arguments. -/
def wrongCount (function : String) (args : List Bytes) : LedgerError :=
  .invocationFailed (function ++ ": incorrect number of arguments: " ++ toString args.length)

/-- Refuses a function that a contract does not have. -/
def wrongFunction (function : String) : LedgerError :=
  .invocationFailed ("Incorrect function: " ++ function)

/-- The bytes of an argument list as they are put into a transaction: lists of
numbers. -/
def rawArguments (args : List Bytes) : Bytes :=
  let list (items : List Bytes) : Bytes := openBracket :: separated items ++ [closeBracket]
  list (args.map fun arg => list (arg.map fun b => writeNat b.toNat))

/-- The transaction that registers a request. -/
def requestEnvelope (c : Chain) (key : StepKey) (args : List Bytes) : Envelope :=
  let args := Utf8.encode Contract.invoke :: args
  { txHash := some <| Crypto.sha256Hex <|
      Utf8.encode c.router ++ Bytes.ofWordBE c.registered ++ Utf8.encode key.transactionId ++
        Utf8.encode key.stepId
    args
    raw := rawArguments args }

/-- Registers a request and commits it. -/
def register (c : Chain) (key : StepKey) (args : List Bytes) :
    Except LedgerError (ContractResponse × Chain) :=
  if (c.requests.lookup key).isSome then
    .error (.invocationFailed ("transaction " ++ key.text ++ " is already registered"))
  else
    let c := { c with requests := assign key args c.requests, registered := c.registered + 1 }
    .ok (.ok (Utf8.encode key.transactionId), (c.append [c.requestEnvelope key args]).2)

/-- Records the result of a registered request. -/
def record (c : Chain) (r : RecordedResult) : Except LedgerError (ContractResponse × Chain) :=
  if (c.requests.lookup r.key).isSome then
    .ok (.ok [], { c with results := assign r.key r c.results })
  else .error (.invocationFailed ("transaction " ++ r.key.text ++ " is not found"))

/-- Calls the routing contract. -/
def callRouter (c : Chain) (function : String) (args : List Bytes) :
    Except LedgerError (ContractResponse × Chain) :=
  let text := Utf8.decodeLossy
  if function = Contract.invoke then
    match args with
    | [_, _, transactionId, stepId, _, _] => c.register ⟨text transactionId, text stepId⟩ args
    | _ => .error (wrongCount function args)
  else if function = Contract.recordResult then
    match args with
    | [origin, destination, transactionId, stepId, payload, signer, message] =>
      c.record
        { origin := text origin
          destination := text destination
          key := ⟨text transactionId, text stepId⟩
          payload := text payload
          signer := Hex.encode signer
          message := text message }
    | _ => .error (wrongCount function args)
  else if function = Contract.queryResult then
    match args with
    | [transactionId, stepId] =>
      match c.results.lookup ⟨text transactionId, text stepId⟩ with
      | some r => .ok (.ok r.write, c)
      | none => .ok (.ok [], c)
    | _ => .error (wrongCount function args)
  else .error (wrongFunction function)

/-! ## Chaincode -/

/-- Runs chaincode. -/
def runChaincode (code : Chaincode) (function : String) (args : List String) :
    Except LedgerError ContractResponse :=
  match code function args with
  | .ok payload => .ok (.ok payload)
  | .error m => .error (.invocationFailed m)

/-- Calls the proxy contract. -/
def callProxy (c : Chain) (function : String) (args : List Bytes) :
    Except LedgerError ContractResponse :=
  if function ≠ Contract.proxyCall then .error (wrongFunction function)
  else
    match args with
    | [name, inner, arguments] =>
      let name := Utf8.decodeLossy name
      match c.locks.lookup name with
      | some holder =>
        .error (.invocationFailed ("resource is locked by unfinished transaction: " ++ holder))
      | none =>
        match Codec.text.list.decode arguments with
        | .error fault =>
          .error (.invocationFailed ("failed to unmarshal json args: " ++ fault.message))
        | .ok arguments =>
          match c.chaincodes.lookup name with
          | none => .error (.invocationFailed ("chaincode " ++ name ++ " not found"))
          | some code => runChaincode code (Utf8.decodeLossy inner) arguments
    | _ => .error (wrongCount function args)

/-- Calls chaincode directly. A name that no chaincode has answers with
nothing. -/
def callChaincode (c : Chain) (call : Invocation) : Except LedgerError ContractResponse :=
  match c.chaincodes.lookup call.contract with
  | some code => runChaincode code call.function (call.args.map Utf8.decodeLossy)
  | none => .ok (.ok [])

/-! ## Calls -/

/-- Calls a contract. -/
def call (c : Chain) (i : Invocation) : Except LedgerError (ContractResponse × Chain) :=
  if i.contract = c.router then c.callRouter i.function i.args
  else if i.contract = c.proxy then (c.callProxy i.function i.args).map fun r => (r, c)
  else (c.callChaincode i).map fun r => (r, c)

/-- Calls a contract and keeps the call if it succeeds; failures asked for come
first. A call that fails changes nothing else. -/
def invoke (i : Invocation) : Action Chain LedgerError ContractResponse :=
  Action.of fun c =>
    if 0 < c.failingInvokes then
      (.error (.unavailable "injected invoke failure"),
       { c with failingInvokes := c.failingInvokes - 1 })
    else
      match c.call i with
      | .ok (r, c) => (.ok r, { c with invocations := c.invocations ++ [i] })
      | .error e => (.error e, c)

end Chain

end RelayHub
