/-
A world of hubs, ledgers and stores in one state.

Everything that takes part in relaying is here under a name: the chains, the
files, block stores over memory or files, cursors, hubs with the lines between
them, and relays. Failures can be asked for everywhere. Running the same
steps twice gives the same world, so whole networks can be examined without
one.
-/
import RelayHub.Http.HubServer
import RelayHub.Hub.Service
import RelayHub.Lab.Handler
import RelayHub.Lab.Line
import RelayHub.Ledger.Memory
import RelayHub.Relay.Loop
import RelayHub.Store.File
import RelayHub.Store.Memory

set_option autoImplicit false

namespace RelayHub.Lab

/-! ## What is in a world -/

/-- What a block store keeps its entries in. -/
inductive Backing where
  | memory (entries : ByteMap)
  | file (store : FileStore)

/-- A block store: its chain, its file if it has one, and the failures to
come. -/
structure Shelf where
  id : Nat
  name : String
  chain : ChainId
  file : Option String
  backing : Backing
  failingReads : Nat
  failingWrites : Nat

/-- How a hub reaches others. -/
inductive Wiring where
  | byRole
  | loopback
  | web
  | line (l : Line)

/-- A hub. -/
structure Station where
  id : Nat
  name : String
  registry : Registry
  trust : TrustStore
  wiring : Wiring

/-- A cursor with the store it starts from and the delay between its tries. -/
structure Reader where
  chain : ChainId
  shelf : Nat
  backoff : FixedBackoff
  cursor : Cursor

/-- A relay with its hub, its store, the delay between its tries and its
counts. A relay that has run is used up, but its counts remain. -/
structure Runner where
  relay : Relay
  station : Nat
  shelf : Nat
  backoff : FixedBackoff
  stats : RelayStats
  used : Bool

/-- A world. Answers to ledger calls that were asked for come before the
ledger's own. -/
structure World where
  ledger : MemoryLedger
  queryAnswers : List (Except LedgerError RawBlock)
  invokeAnswers : List (Except LedgerError ContractResponse)
  attempts : List (ChainId × Invocation)
  files : FileTree
  shelves : List Shelf
  written : List (String × Bytes)
  readers : List (String × Reader)
  stations : List Station
  runners : List (String × Runner)
  fresh : Nat

namespace World

/-- A world in which nothing is yet. -/
def empty : World where
  ledger := .empty
  queryAnswers := []
  invokeAnswers := []
  attempts := []
  files := .empty
  shelves := []
  written := []
  readers := []
  stations := []
  runners := []
  fresh := 0

/-- The time of the world, in seconds. -/
def now : Int64 := 4102444800

/-! ## The ledger -/

/-- The ledger, behind the answers that were asked for. -/
def frontLedger : Ledger World where
  query chain number := Action.of fun w =>
    match w.queryAnswers with
    | answer :: rest => (answer, { w with queryAnswers := rest })
    | [] =>
      let (r, ledger) := (MemoryLedger.ledger.query chain number).perform w.ledger
      (r, { w with ledger })
  invoke chain call := Action.of fun w =>
    let w := { w with attempts := w.attempts ++ [(chain, call)] }
    match w.invokeAnswers with
    | answer :: rest => (answer, { w with invokeAnswers := rest })
    | [] =>
      let (r, ledger) := (MemoryLedger.ledger.invoke chain call).perform w.ledger
      (r, { w with ledger })

/-- Does something on the ledger itself. -/
def onLedger {α : Type} (a : Action MemoryLedger LedgerError α) : Action World LedgerError α :=
  Action.of fun w =>
    let (r, ledger) := a.perform w.ledger
    (r, { w with ledger })

/-! ## Block stores -/

/-- The store with a name; the newest one counts. -/
def shelf? (w : World) (name : String) : Option Shelf :=
  w.shelves.find? fun s => s.name = name

/-- The store with an id. -/
def shelfById? (w : World) (id : Nat) : Option Shelf :=
  w.shelves.find? fun s => s.id = id

/-- Puts a store in place of the one with its id. -/
def setShelf (w : World) (s : Shelf) : World :=
  { w with shelves := w.shelves.map fun old => if old.id = s.id then s else old }

/-- Does something on what a store keeps its entries in. -/
def onBacking {α : Type} (s : Shelf) (op : {τ : Type} → Backend τ → Action τ BackendError α) :
    Action World BackendError α :=
  Action.of fun w =>
    match s.backing with
    | .memory entries =>
      let (r, entries) := (op ByteMap.backend).perform entries
      (r, w.setShelf { s with backing := .memory entries })
    | .file store =>
      let (r, files, store) := (op (FileStore.backend FileTree.system)).perform (w.files, store)
      (r, { w with files }.setShelf { s with backing := .file store })

/-- What is said of a store that is not there. -/
def noShelf : BackendError := .io "no such store"

/-- Reads from a store, after the failures that were asked for. -/
def readShelf {α : Type} (id : Nat) (op : {τ : Type} → Backend τ → Action τ BackendError α) :
    Action World BackendError α :=
  Action.of fun w =>
    match w.shelfById? id with
    | none => (.error noShelf, w)
    | some s =>
      if 0 < s.failingReads then
        (.error (.io "injected read failure"),
         w.setShelf { s with failingReads := s.failingReads - 1 })
      else (onBacking s op).perform w

/-- Writes to a store, after the failures that were asked for, and remembers
the keys. -/
def writeShelf (id : Nat) (keys : List Bytes)
    (op : {τ : Type} → Backend τ → Action τ BackendError Unit) : Action World BackendError Unit :=
  Action.of fun w =>
    match w.shelfById? id with
    | none => (.error noShelf, w)
    | some s =>
      if 0 < s.failingWrites then
        (.error (.io "injected write failure"),
         w.setShelf { s with failingWrites := s.failingWrites - 1 })
      else
        (onBacking s op).perform
          { w with written := w.written ++ keys.map fun key => (s.name, key) }

/-- A store, as a backend. -/
def backend (id : Nat) : Backend World where
  get key := readShelf id fun b => b.get key
  has key := readShelf id fun b => b.has key
  put key value := writeShelf id [key] fun b => b.put key value
  putAll entries := writeShelf id (entries.map Prod.fst) fun b => b.putAll entries

/-- A block store. -/
def blockStore (s : Shelf) : BlockStore World :=
  BlockStore.ofBackend s.chain (backend s.id)

/-- Opens a store under a name: over a file, or over memory. -/
def openShelf (name : String) (chain : ChainId) (file : Option String) :
    Action World BackendError Unit :=
  Action.of fun w =>
    let add (w : World) (backing : Backing) : World :=
      { w with
        shelves := ⟨w.fresh, name, chain, file, backing, 0, 0⟩ :: w.shelves
        fresh := w.fresh + 1 }
    match file with
    | none => (.ok (), add w (.memory .empty))
    | some path =>
      match (FileStore.openAt FileTree.system (Path.ofString path)).perform w.files with
      | (.ok store, files) => (.ok (), add { w with files } (.file store))
      | (.error e, files) => (.error e, { w with files })

/-- Every entry of a store whose key was written under its name, in order. -/
def dump (w : World) (s : Shelf) : List (Bytes × Bytes) :=
  let held : ByteMap :=
    match s.backing with
    | .memory entries => entries
    | .file store => store.entries
  held.entries.filter fun e => w.written.contains (s.name, e.1)

/-! ## Hubs -/

/-- The hub with a name; the newest one counts. -/
def station? (w : World) (name : String) : Option Station :=
  w.stations.find? fun h => h.name = name

/-- The hub with an id. -/
def stationById? (w : World) (id : Nat) : Option Station :=
  w.stations.find? fun h => h.id = id

/-- Changes the line of a hub, if it has one. -/
def setLine (w : World) (id : Nat) (l : Line) : World :=
  { w with stations := w.stations.map fun h =>
      match h.wiring with
      | .line _ => if h.id = id then { h with wiring := .line l } else h
      | _ => h }

/-- The line of a hub, as a part of the world. -/
def linePart (id : Nat) (l : Line) : Part World Line where
  get w :=
    match (w.stationById? id).map Station.wiring with
    | some (.line l) => l
    | _ => l
  set l w := w.setLine id l

/-- The called side of a hub. -/
def executor (h : Station) : HubExecutor World where
  registry := h.registry
  signatures := h.trust.signatures .standard
  ledger _ := frontLedger

/-- How a hub reaches others; `reach` is the way to a hub with a name. -/
def connector (reach : (name : String) → (straight : Bool) → HubApi World) (h : Station) :
    Connector World :=
  match h.wiring with
  | .byRole => .standard .unreachable (executor h)
  | .loopback => .loopback (executor h)
  | .web => .http .unreachable h.registry
  | .line l => Line.connector (linePart h.id l) (reach l.target l.straight)

/-- A hub. -/
def service (reach : (name : String) → (straight : Bool) → HubApi World) (h : Station) :
    HubService World where
  executor := executor h
  client :=
    { signatures := h.trust.signatures .standard
      connector := connector reach h
      now := pure now }

/-- Calls the hub with a name, or straight its called side. Calls can go from
hub to hub; `depth` bounds how far. -/
def reach : (depth : Nat) → (name : String) → (straight : Bool) → HubApi World
  | 0, name, _ => fun _ => throw ⟨.unavailable, "no hub " ++ name⟩
  | depth + 1, name, straight => fun q =>
    Action.of fun w =>
      match w.station? name with
      | none => (.error ⟨.unavailable, "no hub " ++ name⟩, w)
      | some h =>
        if straight then ((executor h).execute q).perform w
        else ((service (reach depth) h).invoke q).perform w

/-- How far calls can go from hub to hub. -/
def depth : Nat := 64

/-- A hub with everything it reaches. -/
def hub (h : Station) : HubService World :=
  service (reach depth) h

/-- Adds a hub. -/
def addStation (name : String) (registry : Registry) (trust : TrustStore) (wiring : Wiring) :
    World → World := fun w =>
  { w with
    stations := ⟨w.fresh, name, registry, trust, wiring⟩ :: w.stations
    fresh := w.fresh + 1 }

/-! ## Cursors -/

/-- The most waits for tries without a delay. -/
def mostWaits : Nat := 10000

/-- The links of a cursor, which uses only the store and the ledger. -/
def readerLinks (w : World) (r : Reader) : Option (RelayLinks World) :=
  (w.shelfById? r.shelf).map fun s =>
    { chain := r.chain
      store := blockStore s
      ledger := frontLedger
      dispatch := fun _ => throw ⟨.internal, "no dispatcher"⟩
      count := fun _ => pure () }

/-- Fetches the next block with a cursor, within a budget of time. Answers the
block, if it came, and the time spent. -/
def fetch (name : String) (r : Reader) (links : RelayLinks World) (budget : Nat) :
    StateM World (Option RawBlock × Nat) := fun w =>
  let patience := r.backoff.patience budget mostWaits
  let (f, w) := r.cursor.fetch links patience w
  let elapsed := if f.block.isSome then (patience - f.patience) * r.backoff.delay else budget
  ((f.block, elapsed), { w with readers := assign name { r with cursor := f.cursor } w.readers })

/-! ## Relays -/

/-- Changes a relay. -/
def setRunner (w : World) (name : String) (r : Runner) : World :=
  { w with runners := assign name r w.runners }

/-- Counts for a relay. -/
def countFor (name : String) (counter : Counter) : StateM World Unit := fun w =>
  match w.runners.lookup name with
  | some r => ((), w.setRunner name { r with stats := r.stats.count counter })
  | none => ((), w)

/-- The links of a relay. -/
def runnerLinks (w : World) (name : String) (r : Runner) : Option (RelayLinks World) := do
  let s ← w.shelfById? r.shelf
  let h ← w.stationById? r.station
  return {
    chain := r.relay.chain
    store := blockStore s
    ledger := frontLedger
    dispatch := (hub h).client.dispatch
    count := countFor name }

/-- Processes a block with a relay, within a budget of time. Answers whether it
was done, and the time spent. -/
def process (r : Runner) (links : RelayLinks World) (b : RawBlock) (budget : Nat) :
    StateM World (Bool × Nat) := fun w =>
  let patience := r.backoff.patience budget mostWaits
  match (r.relay.processBlock b).run links.perform patience w with
  | ((.done (), left), w) => ((true, (patience - left) * r.backoff.delay), w)
  | (_, w) => ((false, budget), w)

/-- How a running relay is told to stop. -/
inductive Stop where
  | send
  | drop
  | before
deriving DecidableEq, Repr

/-- The channel before and after a relay is told to stop. -/
def Stop.signals : Stop → Signal × Signal
  | .send => (.holding false, (Signal.holding false).send true)
  | .drop => (.holding false, (Signal.holding false).close)
  | .before => (.holding true, .holding true)

/-- The most rounds of a loop. -/
def mostRounds : Nat := 1000000

/-- Runs a relay for a budget of time, tells it to stop, and waits for that as
long again. Answers whether it stopped. A try that is due just when a time ends
comes after what happens then. -/
def runLoop (r : Runner) (links : RelayLinks World) (budget : Nat) (stop : Stop) :
    StateM World Bool := fun w =>
  let first := r.backoff.patience (budget - 1) mostWaits
  let both := r.backoff.patience (2 * budget - 1) (2 * mostWaits)
  let (before, after) := stop.signals
  let (state, w) := LoopState.start.run r.relay links.perform before first mostRounds w
  let (state, w) :=
    match both - first with
    | 0 => LoopState.step r.relay links.perform after .notice state w
    | more + 1 => state.run r.relay links.perform after more mostRounds w
  (state.isStopped, w)

end World

end RelayHub.Lab
