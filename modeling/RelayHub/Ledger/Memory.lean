/-
A ledger of several chains, held in memory.
-/
import RelayHub.Ledger.Contracts

set_option autoImplicit false

namespace RelayHub

/-- The chains, by name. -/
structure MemoryLedger where
  chains : List (ChainId × Chain)

namespace MemoryLedger

/-- No chains. -/
def empty : MemoryLedger := ⟨[]⟩

/-- The chain with a name. -/
def chain? (l : MemoryLedger) (chain : ChainId) : Option Chain :=
  l.chains.lookup chain

/-- Puts a chain under a name, in place of an older one. -/
def set (l : MemoryLedger) (chain : ChainId) (c : Chain) : MemoryLedger :=
  ⟨assign chain c l.chains⟩

/-- Hosts a new chain. -/
def addChain (l : MemoryLedger) (chain : ChainId) (router proxy : String) : MemoryLedger :=
  l.set chain (Chain.new router proxy)

/-- Does something on a chain, which must be hosted. -/
def onChain {α : Type} (chain : ChainId) (a : Action Chain LedgerError α) :
    Action MemoryLedger LedgerError α :=
  Action.of fun l =>
    match l.chain? chain with
    | none => (.error (.unknownChain chain), l)
    | some c =>
      let (r, c) := a.perform c
      (r, l.set chain c)

/-- Changes a chain, which must be hosted. -/
def change (chain : ChainId) (f : Chain → Chain) : Action MemoryLedger LedgerError Unit :=
  onChain chain (Action.of fun c => (.ok (), f c))

/-- Commits a block. -/
def append (chain : ChainId) (envelopes : List Envelope) :
    Action MemoryLedger LedgerError RawBlock :=
  onChain chain (Action.of fun c =>
    let (block, c) := c.append envelopes
    (.ok block, c))

/-- The chains, as a ledger. -/
def ledger : Ledger MemoryLedger where
  query chain number := onChain chain (Chain.query chain number)
  invoke chain call := onChain chain (Chain.invoke call)

end MemoryLedger

end RelayHub
