/-
A line between two hubs that can be made to fail or to forge.

A line hands calls to a named hub. It first answers with the failures that were
asked for, and it applies one forgery to each response as long as there are
any. It remembers how often it was dialled and every request that went over it.
-/
import RelayHub.Hub.Connectors

set_option autoImplicit false

namespace RelayHub.Lab

/-! ## Forgeries -/

/-- A change to a response. -/
inductive Forgery where
  | origin (name : String)
  | destination (name : String)
  | transactionId (id : String)
  | stepId (id : String)
  | payload (bytes : Bytes)
  | signer (bytes : Bytes)
  | errorMessage (message : String)
  | callback (bytes : Option Bytes)
  | flipSigner (index : Nat)
deriving DecidableEq, Repr

namespace Forgery

/-- Flips the lowest bit of the byte at an index. -/
def flipAt (index : Nat) (bytes : Bytes) : Bytes :=
  bytes.modify index (· ^^^ 1)

/-- A response with a change. -/
def apply (r : HubResponse) : Forgery → HubResponse
  | origin name => { r with origin := ⟨name⟩ }
  | destination name => { r with destination := ⟨name⟩ }
  | transactionId id => { r with transactionId := id }
  | stepId id => { r with stepId := id }
  | payload bytes => { r with payload := bytes }
  | signer bytes => { r with signer := bytes }
  | errorMessage message => { r with errorMessage := message }
  | callback bytes => { r with callback := bytes }
  | flipSigner index => { r with signer := flipAt index r.signer }

end Forgery

/-! ## Lines -/

/-- A line: the hub it leads to, whether straight to its called side, the
failures and forgeries to come, and what went over it. -/
structure Line where
  target : String
  straight : Bool
  failures : List HubError
  forgeries : List (List Forgery)
  dialled : Nat
  requests : List HubRequest
deriving DecidableEq, Repr

namespace Line

/-- A line that has not been used. -/
def new (target : String) (straight : Bool) : Line :=
  ⟨target, straight, [], [], 0, []⟩

/-- Takes the next failure, if there is one, and remembers the request. -/
def take (l : Line) (q : HubRequest) : Option HubError × Line :=
  let l := { l with requests := l.requests ++ [q] }
  match l.failures with
  | e :: rest => (some e, { l with failures := rest })
  | [] => (none, l)

/-- The response after the next forgery, if there is one. -/
def forge (l : Line) (r : HubResponse) : HubResponse × Line :=
  match l.forgeries with
  | changes :: rest => (changes.foldl Forgery.apply r, { l with forgeries := rest })
  | [] => (r, l)

/-- A connector over a line kept in a part of a state; `reach` is the hub at its
other end. -/
def connector {σ : Type} (p : Part σ Line) (reach : HubApi σ) : Connector σ where
  connect _ := Action.of fun s =>
    let line := p.get s
    (.ok fun q => Action.of fun s =>
        let (failure, line) := (p.get s).take q
        let s := p.set line s
        match failure with
        | some e => (.error e, s)
        | none =>
          match (reach q).perform s with
          | (.ok r, s) =>
            let (r, line) := (p.get s).forge r
            (.ok r, p.set line s)
          | (.error e, s) => (.error e, s),
     p.set { line with dialled := line.dialled + 1 } s)

end Line

end RelayHub.Lab
