/-
The block store of a chain.

It keeps the blocks that have been processed and a record of each transaction
whose request has been answered. A block is found by its number or by its
hash; storing it also links its predecessor to it and remembers the greatest
number stored, and all of that is written at once. Every operation leaves
everything as it was if it fails.
-/
import RelayHub.Store.Backend
import RelayHub.Store.Key
import RelayHub.Store.Record

set_option autoImplicit false

namespace RelayHub

/-! ## Errors -/

/-- Why a store operation fails. -/
inductive StoreError where
  | database (cause : BackendError)
  | serialization (message : String)
  | danglingIndex (hash : String)
deriving DecidableEq, Repr

/-- The sentence for a failure. -/
def StoreError.message : StoreError → String
  | .database cause => "Database error: " ++ cause.message
  | .serialization m => "Serialization error: " ++ m
  | .danglingIndex hash => "Dangling index for block " ++ hash

/-! ## Operations -/

/-- What the rest of the hub asks of a block store kept in a state of type
`σ`. -/
structure BlockStore (σ : Type) where
  hasSeen : (txHash : String) → Action σ StoreError Bool
  recordSeen : DedupRecord → Action σ StoreError Bool
  storeBlock : StoredBlock → Action σ StoreError Unit
  latest : ChainId → Action σ StoreError UInt64
  byNumber : ChainId → UInt64 → Action σ StoreError (Option StoredBlock)
  byHash : ChainId → String → Action σ StoreError (Option StoredBlock)
  transaction : (txHash : String) → Action σ StoreError (Option DedupRecord)

namespace BlockStore

variable {σ : Type}

/-! ## Reading records -/

/-- Reads what is kept under a key. -/
def read {α : Type} (b : Backend σ) (key : Bytes) (decode : Bytes → Except StoreError α) :
    Action σ StoreError (Option α) := do
  match ← (b.get key).mapError .database with
  | none => return none
  | some bytes => return some (← Action.ofExcept (decode bytes))

/-- Reads a record, whose layout may be wrong. -/
def decoded {α : Type} (r : Except Layout.Error α) : Except StoreError α :=
  r.mapError fun e => .serialization e.message

/-- Reads a block number. -/
def numberOf (bytes : Bytes) : Except StoreError UInt64 :=
  match Bytes.toWordBE? bytes with
  | some n => .ok n
  | none => .error (.serialization ("expected 8 bytes, got " ++ toString bytes.length))

/-- The block with a number. -/
def readBlock (b : Backend σ) (chain : ChainId) (number : UInt64) :
    Action σ StoreError (Option StoredBlock) :=
  read b (Key.block chain number) fun bytes => decoded (StoredBlock.decode bytes)

/-- The number of the block with a hash. -/
def readNumber (b : Backend σ) (chain : ChainId) (hash : String) :
    Action σ StoreError (Option UInt64) :=
  read b (Key.hash chain hash) numberOf

/-- The greatest number stored, or zero. -/
def readLatest (b : Backend σ) (chain : ChainId) : Action σ StoreError UInt64 := do
  return (← read b (Key.latest chain) numberOf).getD 0

/-- The block with a hash. -/
def readByHash (b : Backend σ) (chain : ChainId) (hash : String) :
    Action σ StoreError (Option StoredBlock) := do
  match ← readNumber b chain hash with
  | none => return none
  | some number => readBlock b chain number

/-- The record of a transaction. -/
def readTransaction (b : Backend σ) (chain : ChainId) (txHash : String) :
    Action σ StoreError (Option DedupRecord) :=
  read b (Key.transaction chain txHash) fun bytes => decoded (DedupRecord.decode bytes)

/-! ## Writing records -/

/-- Records a transaction, unless it has a record; answers whether it had
none. -/
def recordOnce (b : Backend σ) (chain : ChainId) (r : DedupRecord) : Action σ StoreError Bool := do
  let key := Key.transaction chain r.txHash
  -- The first record of a transaction stays.
  if ← (b.has key).mapError .database then return false
  (b.put key r.encode).mapError .database
  return true

/-- A block that is stored again keeps the link to its successor. -/
def keepLink (block : StoredBlock) (existing : Option StoredBlock) : StoredBlock :=
  match existing with
  | some old =>
    if old.hash = block.hash ∧ block.nextHash = none then { block with nextHash := old.nextHash }
    else block
  | none => block

/-- The entry that links the predecessor to a block, if the predecessor is
stored and has no successor yet. -/
def linkEntry (b : Backend σ) (block : StoredBlock) :
    Action σ StoreError (List (Bytes × Bytes)) := do
  if block.previousHash.isEmpty then return []
  match ← readNumber b block.chain block.previousHash with
  | none => return []
  | some number =>
    match ← readBlock b block.chain number with
    -- The hash has a number, but the number has no block.
    | none => throw (.danglingIndex block.previousHash)
    | some previous =>
      -- The first successor stays the successor.
      if previous.nextHash.isSome then return []
      return [(Key.block block.chain previous.number,
        { previous with nextHash := some block.hash }.encode)]

/-- The entry for the greatest number, if a block's number is not less. -/
def latestEntry (b : Backend σ) (block : StoredBlock) :
    Action σ StoreError (List (Bytes × Bytes)) := do
  let latest ← readLatest b block.chain
  return if latest ≤ block.number then
    [(Key.latest block.chain, Bytes.ofWordBE block.number)] else []

/-- Stores a block, with its link, its hash and the greatest number. -/
def writeBlock (b : Backend σ) (block : StoredBlock) : Action σ StoreError Unit := do
  let existing ← readBlock b block.chain block.number
  let block := keepLink block existing
  let link ← linkEntry b block
  let latest ← latestEntry b block
  -- All entries go in together, so no index is ever there without its block.
  let entries :=
    link ++ (Key.hash block.chain block.hash, Bytes.ofWordBE block.number) :: latest ++
      [(Key.block block.chain block.number, block.encode)]
  (b.putAll entries).mapError .database

/-! ## The store -/

/-- The block store of a chain over a backend. -/
def ofBackend (chain : ChainId) (b : Backend σ) : BlockStore σ where
  hasSeen txHash := (b.has (Key.transaction chain txHash)).mapError .database
  recordSeen := recordOnce b chain
  storeBlock := writeBlock b
  latest := readLatest b
  byNumber := readBlock b
  byHash := readByHash b
  transaction := readTransaction b chain

end BlockStore

end RelayHub
