/-
Requests that are not signed.

A request that nobody has signed is signed by the client of its relay. If the trust
store gives no signature, no hub is dialled and nothing changes, so all depends on what
the relay makes of the failure. One for want of a secret, or of something to sign, is
taken for a refusal: the request is counted, and the block goes on. One of the scheme
is taken for a failure that passes, which it does not. The relay tries the request
again and again, and neither the transactions behind it nor its block are ever done.
-/
import RelayHub.Proofs.Hub.Agreement
import RelayHub.Proofs.Relay.Transparent
import RelayHub.Proofs.Trust.Signing

set_option autoImplicit false

namespace RelayHub

open Script Deed RelayHub.Action

variable {σ : Type}

/-! ## Failures to sign -/

/-- Why a store does not sign decides whether the failure is one that may pass: it is if
the store has a secret for the chain, and something to sign. -/
theorem TrustStore.Unsigned.isTransient_iff {suite : Suite} {t : TrustStore} {chain : ChainId}
    {digest : Bytes} {cause : CryptoError} (h : t.Unsigned suite chain digest cause) :
    (HubError.ofCrypto cause).isTransient = true ↔ digest ≠ [] ∧ t.canSign chain = true := by
  cases h with
  | empty hdigest => simp [HubError.ofCrypto, HubError.isTransient, hdigest]
  | unable hdigest hkey => simp [HubError.ofCrypto, HubError.isTransient, hkey]
  | failed hdigest a secret hkey hfails =>
    simp [HubError.ofCrypto, HubError.isTransient, hdigest, canSign, hkey, ChainKey.canSign]

/-- A client does nothing with a request that it cannot sign. -/
theorem HubClient.dispatch_unsigned {c : HubClient σ} {q : CrossChainRequest}
    (hsigner : q.signer = []) {cause : CryptoError}
    (hsign : c.signatures.sign q.origin q.payload = .error cause) (s : σ) :
    (c.dispatch q).perform s = (.error (.ofCrypto cause), s) := by
  have hsigned : c.signed (.ofRequest q) = .error (.ofCrypto cause) := by
    have hempty : (HubRequest.ofRequest q).signer.isEmpty = true := List.isEmpty_iff.2 hsigner
    have hnone : c.signatures.sign (HubRequest.ofRequest q).origin (HubRequest.ofRequest q).payload
        = .error cause := hsign
    rw [signed, if_pos hempty, hnone]
  rw [dispatch, invoke_perform, hsigned]

namespace Relay

/-! ## The place of a request in its block -/

/-- The transactions before a request are through, and the request has no record: a
journal up to where it is handed to its destination. -/
def Meets (relay : Relay) (links : RelayLinks σ) (b : RawBlock) (before : List Envelope)
    (q : CrossChainRequest) (patience : Nat) (s : σ) (left : Nat) (s' : σ) (past : List Deed) :
    Prop :=
  run (journaled links.perform)
      ((each before (relay.relayEnvelope b)).andThen fun _ =>
        insist (.hasSeen q.found.txHash) succeeded)
      patience (s, [])
    = ((.done false, left), s', past)

/-- What is done with the final answer to a request. -/
def conclude (relay : Relay) (q : CrossChainRequest) :
    Except HubError HubResponse → RelayScript Unit
  | .error _ => count .dispatchFailures
  | .ok r => relay.answered q r

/-- What is done with a request when it is known whether it has a record. -/
def lookedUp (relay : Relay) (q : CrossChainRequest) (seen : Bool) : RelayScript Unit :=
  if seen then count .duplicatesSkipped
  else (insist (.dispatch q) Accept.settled).andThen (relay.conclude q)

/-- What is left of a block when some transactions are left. -/
def remainder (relay : Relay) (b : RawBlock) (after : List Envelope) : RelayScript Unit :=
  (each after (relay.relayEnvelope b)).andThen fun _ => relay.persist b

variable {relay : Relay} {links : RelayLinks σ} {b : RawBlock} {e : Envelope}
  {before after : List Envelope} {q : CrossChainRequest} {patience left : Nat} {s s' : σ}
  {past : List Deed}

theorem relayEnvelope_eq (hrequest : e.request? b = .ok (some q)) (horigin : q.origin = relay.chain) :
    relay.relayEnvelope b e
      = (insist (.hasSeen q.found.txHash) succeeded).andThen (relay.lookedUp q) := by
  rw [relayEnvelope, hrequest]
  dsimp only
  rw [relayRequest, if_neg (not_not_intro horigin)]
  rfl

/-- A block up to the place where a request is looked up, and what comes then. -/
theorem processBlock_eq (hblock : b.envelopes = before ++ e :: after)
    (hrequest : e.request? b = .ok (some q)) (horigin : q.origin = relay.chain) :
    relay.processBlock b
      = ((each before (relay.relayEnvelope b)).andThen fun _ =>
          insist (.hasSeen q.found.txHash) succeeded).andThen fun seen =>
            (relay.lookedUp q seen).andThen fun _ => relay.remainder b after := by
  have hprocess : relay.processBlock b
      = (each b.envelopes (relay.relayEnvelope b)).andThen fun _ => relay.persist b := rfl
  rw [hprocess, hblock, each_append, each, relayEnvelope_eq hrequest horigin]
  simp only [andThen_assoc, remainder]

/-- From there on the request is handed to its destination until that settles it, and then
come the other transactions. -/
theorem run_of_meets (hblock : b.envelopes = before ++ e :: after)
    (hrequest : e.request? b = .ok (some q)) (horigin : q.origin = relay.chain)
    (hmeets : relay.Meets links b before q patience s left s' past) :
    run (journaled links.perform) (relay.processBlock b) patience (s, [])
      = run (journaled links.perform)
          (attempt (.dispatch q) Accept.settled fun settled =>
            (relay.conclude q settled).andThen fun _ => relay.remainder b after)
          left (s', past) := by
  rw [processBlock_eq hblock hrequest horigin, run_andThen hmeets]
  rfl

/-- A request that is refused for good is counted, and the other transactions follow. -/
theorem run_of_meets_refused (hblock : b.envelopes = before ++ e :: after)
    (hrequest : e.request? b = .ok (some q)) (horigin : q.origin = relay.chain)
    (hmeets : relay.Meets links b before q patience s left s' past) {cause : HubError}
    (hfinal : cause.isTransient = false)
    (hrefused : (links.dispatch q).perform s' = (.error cause, s')) :
    run (journaled links.perform) (relay.processBlock b) patience (s, [])
      = run (journaled links.perform) (relay.remainder b after) left
          ((links.count .dispatchFailures s').2,
            past ++ [⟨.dispatch q, .error cause⟩, ⟨.count .dispatchFailures, ()⟩]) := by
  have hanswer : links.perform (.dispatch q) s' = (.error cause, s') := hrefused
  have hsettled : Accept.settled (journaled links.perform (.dispatch q) (s', past)).1
      = some (.error cause) := by
    rw [journaled_eq, hanswer, Accept.settled, hfinal]
    rfl
  rw [run_of_meets hblock hrequest horigin hmeets, run_accepted hsettled, journaled_eq, hanswer]
  have hcounted : some (journaled links.perform (.count .dispatchFailures)
      (s', past ++ [⟨.dispatch q, .error cause⟩])).1 = some () := rfl
  refine (run_accepted hcounted left).trans ?_
  rw [journaled_eq, List.append_assoc]
  rfl

/-- A request that fails for the moment, whenever it is tried, holds its block up for ever. -/
theorem not_processes_of_meets (hblock : b.envelopes = before ++ e :: after)
    (hrequest : e.request? b = .ok (some q)) (horigin : q.origin = relay.chain)
    (hmeets : relay.Meets links b before q patience s left s' past) {cause : HubError}
    (hpassing : cause.isTransient = true)
    (hfails : ∀ s, ((links.dispatch q).perform s).1 = .error cause) (patience' : Nat) (s'' : σ)
    (past' : List Deed) : ¬ relay.Processes links b patience' s s'' past' := by
  rintro ⟨waits, hrun⟩
  have hrefused : ∀ x, True →
      Accept.settled (journaled links.perform (.dispatch q) x).1 = none ∧ True := by
    intro x _
    have hanswer : (journaled links.perform (.dispatch q) x).1 = .error cause := hfails x.1
    rw [hanswer, Accept.settled, if_pos hpassing]
    exact ⟨rfl, trivial⟩
  -- Both runs may wait as long as the two together.
  have hover := run_spared hrun patience
  have hstuck := run_of_meets hblock hrequest horigin (run_spared hmeets patience')
  rw [Nat.add_comm, hover] at hstuck
  have hvalue := congrArg (fun r => r.1.1.value?) hstuck
  dsimp only at hvalue
  rw [run_stuck hrefused trivial] at hvalue
  cases hvalue

/-! ## Requests that cannot be signed -/

/-- A request that the relay's own store does not sign is not sent, and dialling is not
even tried. Without a secret, or with nothing to sign, it is counted as refused, nothing
else is done for it, and the block goes on. With a secret the scheme has failed, and
then the block is never done. -/
theorem unsigned_request_counted_or_stuck {c : HubClient σ} {suite : Suite} {t : TrustStore}
    (htrust : c.signatures = t.signatures suite) (hblock : b.envelopes = before ++ e :: after)
    (hrequest : e.request? b = .ok (some q)) (horigin : q.origin = relay.chain)
    (hsigner : q.signer = []) {cause : CryptoError}
    (hsign : t.sign suite q.origin q.payload = .error cause)
    (hmeets : relay.Meets (links.through c) b before q patience s left s' past) :
    (∀ (connector : Connector σ) s, (HubClient.dispatch { c with connector } q).perform s
        = (.error (.ofCrypto cause), s)) ∧
    ((q.payload = [] ∨ t.canSign q.origin = false) →
      run (journaled (links.through c).perform) (relay.processBlock b) patience (s, [])
        = run (journaled (links.through c).perform) (relay.remainder b after) left
            ((links.count .dispatchFailures s').2,
              past ++ [⟨.dispatch q, .error (.ofCrypto cause)⟩,
                ⟨.count .dispatchFailures, ()⟩])) ∧
    (q.payload ≠ [] → t.canSign q.origin = true → ∀ patience' s'' past',
      ¬ relay.Processes (links.through c) b patience' s s'' past') := by
  have hpassing := (TrustStore.sign_error_iff.1 hsign).isTransient_iff
  have hdispatch : ∀ (connector : Connector σ) s,
      (HubClient.dispatch { c with connector } q).perform s = (.error (.ofCrypto cause), s) := by
    intro connector s
    have hclient : ({ c with connector } : HubClient σ).signatures.sign q.origin q.payload
        = .error cause := by
      rw [← hsign]
      exact congrArg (fun signatures => signatures.sign q.origin q.payload) htrust
    exact HubClient.dispatch_unsigned hsigner hclient s
  refine ⟨hdispatch, fun hnone => ?_, fun hpayload hsecret => ?_⟩
  · have hfinal : (HubError.ofCrypto cause).isTransient = false := by
      rw [Bool.eq_false_iff, ne_eq, hpassing]
      rintro ⟨hpayload, hsecret⟩
      rcases hnone with hempty | hmissing
      · exact hpayload hempty
      · rw [hmissing] at hsecret
        cases hsecret
    exact run_of_meets_refused hblock hrequest horigin hmeets hfinal (hdispatch c.connector s')
  · exact not_processes_of_meets hblock hrequest horigin hmeets (hpassing.2 ⟨hpayload, hsecret⟩)
      fun s => congrArg Prod.fst (hdispatch c.connector s)

end Relay

/-! ### A chain whose hub has no usable key

A block has the same request twice, without a signer and with one. -/

namespace Pair

/-- The payload. -/
def carPayload : Bytes :=
  InvokePayload.encode ⟨none, "fabcar", "QueryCar", ["CAR1"], none⟩

/-- The same request in another transaction, with a signer. -/
def signedAsking : Envelope :=
  { asking carPayload [1] with txHash := some "t2" }

/-- The block. -/
def twiceBlock : RawBlock :=
  { Bench.block with envelopes := [asking carPayload [], signedAsking] }

/-- What the hub knows: some keys, and the one of the other chain. -/
def storeWith (keys : List (ChainId × ChainKey)) : TrustStore :=
  ⟨keys ++ [(chainB, keyB.toPublic .standard)]⟩

/-- Its client, which always gets the same answer. -/
def clientWith (keys : List (ChainId × ChainKey)) : HubClient Bench :=
  { clientA (carAnswer none) with signatures := (storeWith keys).signatures .standard }

/-- The links of the relay. -/
def linksWith (keys : List (ChainId × ChainKey)) : RelayLinks Bench :=
  (linksA (carAnswer none)).through (clientWith keys)

/-- If the hub does not sign the request, that is the answer to it. -/
theorem dispatch_linksWith {keys : List (ChainId × ChainKey)} {cause : CryptoError}
    (hsign : (storeWith keys).sign .standard chainA carPayload = .error cause) (s : Bench) :
    ((linksWith keys).dispatch (asked carPayload [])).perform s = (.error (.ofCrypto cause), s) := by
  have hclient : (clientWith keys).signatures.sign (asked carPayload []).origin
      (asked carPayload []).payload = (storeWith keys).sign .standard chainA carPayload := rfl
  exact HubClient.dispatch_unsigned rfl (hclient.trans hsign) s

theorem request_asking :
    (asking carPayload []).request? twiceBlock = .ok (some (asked carPayload [])) := by
  decide +kernel

/-- Whatever keys the hub has, the relay gets to the unsigned request. -/
theorem meets_asked (keys : List (ChainId × ChainKey)) :
    ∃ left s past, relayA.Meets (linksWith keys) twiceBlock [] (asked carPayload []) 0
      (start carPayload []) left s past := by
  have hover : (run (journaled (linksWith keys).perform)
      ((each [] (relayA.relayEnvelope twiceBlock)).andThen fun _ =>
        insist (.hasSeen (asked carPayload []).found.txHash) succeeded)
      0 (start carPayload [], [])).1.1.value? = some false := rfl
  obtain ⟨left, hrun⟩ := run_of_value? hover
  exact ⟨left, _, _, hrun⟩

end Pair

open Pair

namespace Relay

/-- Without a secret the first one is counted, and the second one is relayed. -/
theorem unsigned_car_is_counted :
    (storeWith []).sign .standard chainA carPayload = .error (.missingPrivateKey chainA) ∧
      ∃ left s past,
        relayA.Meets (linksWith []) twiceBlock [] (asked carPayload []) 0 (start carPayload [])
          left s past ∧
        run (journaled (linksWith []).perform) (relayA.processBlock twiceBlock) 0
            (start carPayload [], [])
          = run (journaled (linksWith []).perform) (relayA.remainder twiceBlock [signedAsking]) left
              (s, past ++ [⟨.dispatch (asked carPayload []),
                  .error ⟨.notFound, "No private key registered for chain A"⟩⟩,
                ⟨.count .dispatchFailures, ()⟩]) ∧
        counted (run (journaled (linksWith []).perform) (relayA.processBlock twiceBlock) 0
            (start carPayload [], [])).2.2
          = [.dispatchFailures, .requestsRelayed, .blocksProcessed] := by
  have hsign : (storeWith []).sign .standard chainA carPayload
      = .error (.missingPrivateKey chainA) :=
    TrustStore.sign_error_iff.2 (.unable (InvokePayload.encode_ne_nil _) rfl)
  obtain ⟨left, s, past, hmeets⟩ := meets_asked []
  obtain ⟨-, hcounted, -⟩ :=
    unsigned_request_counted_or_stuck rfl rfl request_asking rfl rfl hsign hmeets
  exact ⟨hsign, left, s, past, hmeets, hcounted (.inr rfl), by decide +kernel⟩

/-- With a secret that was loaded and signs nothing the block is never done. -/
theorem unsigned_car_holds_up_its_block :
    ChainKey.ofSecret .standard .sm2 (Bytes.ofNat 32 Crypto.Sm2.lastSecret)
        = .ok (.signing .sm2 Crypto.Sm2.lastSecret) ∧
      (asking carPayload []).request? twiceBlock = .ok (some (asked carPayload [])) ∧
      ∀ patience s' past,
        ¬ relayA.Processes (linksWith [(chainA, .signing .sm2 Crypto.Sm2.lastSecret)]) twiceBlock
          patience (start carPayload []) s' past := by
  have hsign : (storeWith [(chainA, .signing .sm2 Crypto.Sm2.lastSecret)]).sign .standard chainA
      carPayload = .error (.signingFailed ChainKey.schemeFailure) :=
    TrustStore.sign_last rfl (InvokePayload.encode_ne_nil _)
  obtain ⟨left, s, past, hmeets⟩ := meets_asked [(chainA, .signing .sm2 Crypto.Sm2.lastSecret)]
  have hpassing : (HubError.ofCrypto (.signingFailed ChainKey.schemeFailure)).isTransient = true :=
    rfl
  exact ⟨ChainKey.ofSecret_last, request_asking,
    not_processes_of_meets rfl request_asking rfl hmeets hpassing fun s =>
      congrArg Prod.fst (dispatch_linksWith hsign s)⟩

end Relay

end RelayHub
