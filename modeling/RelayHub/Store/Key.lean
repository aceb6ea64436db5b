/-
The keys of a block store.

A key is a two-byte mark for the kind of record, the chain's name, a zero byte
and a suffix. Block numbers are written most significant byte first, so that
the keys of one chain's blocks are ordered as their numbers are.
-/
import RelayHub.Message.Contract

set_option autoImplicit false

namespace RelayHub

/-- The kinds of record. -/
inductive KeyKind where
  | block
  | blockByHash
  | transaction
  | metadata
deriving DecidableEq, Repr

namespace KeyKind

/-- The mark of a kind. -/
def mark : KeyKind → Bytes
  | .block => [0x62, 0x3A]
  | .blockByHash => [0x68, 0x3A]
  | .transaction => [0x74, 0x3A]
  | .metadata => [0x6D, 0x3A]

/-- What the keys of one kind and chain begin with. -/
def chainPart (k : KeyKind) (chain : ChainId) : Bytes :=
  k.mark ++ chain.bytes ++ [0]

/-- The key with a suffix. -/
def key (k : KeyKind) (chain : ChainId) (suffix : Bytes) : Bytes :=
  k.chainPart chain ++ suffix

end KeyKind

namespace Key

/-- The key of a block. -/
def block (chain : ChainId) (number : UInt64) : Bytes :=
  KeyKind.block.key chain (Bytes.ofWordBE number)

/-- The key of the number of the block with a hash. -/
def hash (chain : ChainId) (hash : String) : Bytes :=
  KeyKind.blockByHash.key chain (Utf8.encode hash)

/-- The key of the record of a transaction. -/
def transaction (chain : ChainId) (txHash : String) : Bytes :=
  KeyKind.transaction.key chain (Utf8.encode txHash)

/-- The key of the greatest number stored for a chain. -/
def latest (chain : ChainId) : Bytes :=
  KeyKind.metadata.key chain (Utf8.encode "latest")

end Key

end RelayHub
