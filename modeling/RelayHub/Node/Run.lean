/-
A running hub.

While it runs, the relays of the local chains take turns and calls come in from
the web. A shutdown tells every relay to stop, each of which ends the block it
has in hand; from then on no call is taken. The counts of the relays that have
stopped are what remains of a run.
-/
import RelayHub.Http.HubServer
import RelayHub.Hub.Service
import RelayHub.Node.Start
import RelayHub.Relay.Loop

set_option autoImplicit false

namespace RelayHub

/-! ## The hub's services -/

/-- What a hub lives on: files, the web and the time, in states of two
types. -/
structure Surroundings (φ ω : Type) where
  files : FileSystem φ
  peer : HttpPeer ω
  now : StateM ω Int64

/-- The ledger that knows no chain. -/
def Ledger.unknown {σ : Type} : Ledger σ where
  query chain _ := throw (.unknownChain chain)
  invoke chain _ := throw (.unknownChain chain)

namespace HubNode

variable {φ ω : Type}

/-- The ledger of a chain: the one behind its gateway. -/
def ledger (peer : HttpPeer ω) (n : HubNode) (chain : ChainId) : Ledger ω :=
  match n.gateways.lookup chain with
  | some g => g.ledger peer
  | none => .unknown

/-- The called side of a hub. -/
def executor (suite : Suite) (peer : HttpPeer ω) (n : HubNode) : HubExecutor ω where
  registry := n.registry
  signatures := n.trust.signatures suite
  ledger := n.ledger peer

/-- Both sides of a hub. -/
def service (suite : Suite) (s : Surroundings φ ω) (n : HubNode) : HubService ω where
  executor := n.executor suite s.peer
  client :=
    { signatures := n.trust.signatures suite
      connector := .standard s.peer (n.executor suite s.peer)
      now := s.now }

end HubNode

/-! ## Relays at work -/

/-- What one relay works on. -/
structure Desk (φ ω : Type) where
  files : φ
  web : ω
  store : FileStore
  stats : RelayStats

namespace Desk

variable {φ ω : Type}

/-- The store and the files it is in. -/
def storage : Part (Desk φ ω) (φ × FileStore) where
  get d := (d.files, d.store)
  set p d := { d with files := p.1, store := p.2 }

/-- The web. -/
def network : Part (Desk φ ω) ω where
  get d := d.web
  set web d := { d with web }

/-- The links of the relay of a chain. -/
def links (suite : Suite) (s : Surroundings φ ω) (n : HubNode) (chain : ChainId) :
    RelayLinks (Desk φ ω) where
  chain := chain
  store := .ofBackend chain ((FileStore.backend s.files).within storage)
  ledger := (n.ledger s.peer chain).within network
  dispatch q := ((n.service suite s).client.dispatch q).within network
  count counter d := ((), { d with stats := d.stats.count counter })

end Desk

/-! ## The hub at work -/

/-- A relay at work: its store, what it has counted, and how far its loop
is. -/
structure RelayTask where
  relay : Relay
  store : FileStore
  stats : RelayStats
  state : LoopState

/-- A relay that is about to begin. -/
def RelayTask.ofPost (p : RelayPost) : RelayTask where
  relay := p.relay
  store := p.store
  stats := {}
  state := .start

/-- A running hub: its files, the web, the channel on which its relays are told
to stop, and the relays. -/
structure RunningHub (φ ω : Type) where
  files : φ
  web : ω
  signal : Signal
  tasks : List RelayTask

/-- What can happen to a running hub: a relay takes a turn, a call comes in
from the web, or the hub is told to stop. -/
inductive HubEvent where
  | turn (task : Nat) (turn : LoopState.Turn)
  | call (request : HttpRequest)
  | shutdown
deriving DecidableEq, Repr

namespace RunningHub

variable {φ ω : Type}

/-- A hub that has just been started. -/
def start (s : Surroundings φ ω) (n : HubNode) (files : φ) (web : ω) :
    Except StartError (RunningHub φ ω) × φ :=
  match (n.openPosts s.files).perform files with
  | (.ok posts, files) =>
    (.ok ⟨files, web, .holding false, posts.map RelayTask.ofPost⟩, files)
  | (.error e, files) => (.error e, files)

/-- Lets one relay do something at its desk. -/
def atDesk (r : RunningHub φ ω) (task : Nat)
    (work : RelayTask → Desk φ ω → LoopState × Desk φ ω) : RunningHub φ ω :=
  match r.tasks[task]? with
  | none => r
  | some t =>
    let (state, d) := work t ⟨r.files, r.web, t.store, t.stats⟩
    { r with
      files := d.files
      web := d.web
      tasks := r.tasks.set task { t with store := d.store, stats := d.stats, state } }

/-- One event, with the answer to a call. -/
def step (suite : Suite) (s : Surroundings φ ω) (n : HubNode) (r : RunningHub φ ω) :
    HubEvent → Option HttpAnswer × RunningHub φ ω
  | .turn task turn =>
    (none, r.atDesk task fun t =>
      LoopState.step t.relay (Desk.links suite s n t.relay.chain).perform r.signal turn t.state)
  | .call request =>
    if r.signal.wakes then (none, r)
    else
      let (answer, web) := HubServer.answer (n.service suite s).invoke request r.web
      (some answer, { r with web })
  | .shutdown => (none, { r with signal := r.signal.send true })

/-- Lets every relay go on until its waits are used up or it stops; `rounds`
bounds how many blocks each of them takes. -/
def goOn (suite : Suite) (s : Surroundings φ ω) (n : HubNode) (patience rounds : Nat)
    (r : RunningHub φ ω) : RunningHub φ ω :=
  (List.range r.tasks.length).foldl
    (fun r task => r.atDesk task fun t =>
      t.state.run t.relay (Desk.links suite s n t.relay.chain).perform r.signal patience rounds) r

/-- The counts of the relays that have stopped. -/
def totals (r : RunningHub φ ω) : List RelayStats :=
  (r.tasks.filter fun t => t.state.isStopped).map RelayTask.stats

end RunningHub

end RelayHub
