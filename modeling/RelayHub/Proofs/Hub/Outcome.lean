/-
What comes of a request.

A request is refused before any call is made for it, or its one call is made and
the destination signs what came of that. So a refused request has had no effect, as
long as the destination can sign. If it cannot, the call has been made all the same,
and the answer to it is lost: nothing is signed, or checked to be signable, before
the call.

An answer that is sent says the same three times: in the payload that is signed, in
the error message and in the callback.
-/
import Mathlib.Control.Monad.Basic
import RelayHub.Proofs.Hub.Agreement
import RelayHub.Proofs.Trust.Signing

set_option autoImplicit false

namespace RelayHub

open RelayHub.Action Json

variable {σ : Type} {x : HubExecutor σ} {q : HubRequest} {s s' : σ} {calls calls' : List LedgerCall}

namespace HubExecutor

/-- A request is refused at once, or its call is made and answered. -/
theorem noted_execute_cases (x : HubExecutor σ) (q : HubRequest) (s : σ)
    (calls : List LedgerCall) :
    (∃ e, (x.noted.execute q).perform (s, calls) = (.error e, s, calls)) ∨
      ∃ p c s', InvokePayload.decode q.payload = .ok p ∧ x.Authentic q c ∧
        ((x.ledger c.chain).invoke c.chain c.call).perform s = (c.outcome, s') ∧
        (x.noted.execute q).perform (s, calls)
          = (x.respond q p (answer c.outcome), s', calls ++ [c]) := by
  rw [noted_execute, execute_perform, callsMade]
  cases haccept : x.accept q with
  | error e =>
    have hcall : x.callFor q = none := by rw [callFor, haccept]
    rw [hcall]
    exact .inl ⟨e, by simp⟩
  | ok p =>
    dsimp only
    cases hhosted : x.registry.hosted (target q p) with
    | error e =>
      have hcall : x.callFor q = none := by
        rw [callFor, haccept]
        dsimp only
        rw [hhosted]
      rw [hcall]
      exact .inl ⟨⟨.notFound, e.message⟩, by simp⟩
    | ok hosted =>
      have hcall : x.callFor q = some (target q p, proxyCall hosted p) := by
        rw [callFor, haccept]
        dsimp only
        rw [hhosted]
      rw [hcall]
      exact .inr ⟨p, ⟨target q p, proxyCall hosted p, _⟩, _, (of_accept_ok haccept).2.2.2,
        authentic_of_callFor hcall _, rfl, rfl⟩

/-! ## Refused requests -/

/-- A response that is not given is one that the destination has not signed. -/
theorem of_respond_error {p : InvokePayload} {answered : ContractResponse × String} {e : HubError}
    (h : x.respond q p answered = .error e) :
    ∃ cause, x.signatures.sign q.destination (ContractResponse.codec.write answered.1)
      = .error cause ∧ e = .ofCrypto cause := by
  unfold respond at h
  dsimp only at h
  split at h
  · cases h
    exact ⟨_, ‹_›, rfl⟩
  · cases h

/-- A request that is refused by a hub whose destination can sign has had no effect:
no call was made. Otherwise it may have been refused after its call, which then was
the authentic one, and the reason is that the destination cannot sign the answer. -/
theorem refused_without_call_or_unsigned {suite : Suite} {t : TrustStore}
    (htrust : x.signatures = t.signatures suite) {e : HubError}
    (h : (x.noted.execute q).perform (s, calls) = (.error e, s', calls')) :
    (∀ k, t.key? q.destination = some k → k.Signs suite → s' = s ∧ calls' = calls) ∧
    ((s' = s ∧ calls' = calls) ∨
      ∃ c cause, x.Authentic q c ∧
        ((x.ledger c.chain).invoke c.chain c.call).perform s = (c.outcome, s') ∧
        calls' = calls ++ [c] ∧ e = .ofCrypto cause ∧
        t.Unsigned suite q.destination (ContractResponse.codec.write (answer c.outcome).1) cause) := by
  rcases noted_execute_cases x q s calls with
    ⟨_, hrefused⟩ | ⟨p, c, s₁, -, hauthentic, hcall, hdone⟩
  · rw [hrefused] at h
    cases h
    exact ⟨fun _ _ _ => ⟨rfl, rfl⟩, .inl ⟨rfl, rfl⟩⟩
  · rw [hdone] at h
    simp only [Prod.mk.injEq] at h
    obtain ⟨hrespond, rfl, rfl⟩ := h
    obtain ⟨cause, hsign, rfl⟩ := of_respond_error hrespond
    rw [htrust] at hsign
    have hunsigned : t.Unsigned suite q.destination
        (ContractResponse.codec.write (answer c.outcome).1) cause :=
      TrustStore.sign_error_iff.1 hsign
    constructor
    · intro k hkey hsigns
      exact absurd hunsigned (TrustStore.not_unsigned_of_signs hkey hsigns (answer c.outcome).1.write_ne_nil)
    · exact .inr ⟨c, cause, hauthentic, hcall, rfl, rfl, hunsigned⟩

end HubExecutor

/-! ### A destination that cannot sign

The hub of the chain that is asked has the wrong key for it, or none. -/

namespace Pair

/-- What the hub of the chain that is asked knows, with some keys for its chain. -/
def trustWith (keys : List (ChainId × ChainKey)) : TrustStore :=
  ⟨(chainA, keyA.toPublic .standard) :: keys⟩

/-- The hub with these keys. -/
def hubWith (keys : List (ChainId × ChainKey)) : HubExecutor MemoryLedger :=
  { hubB .standard with signatures := (trustWith keys).signatures .standard }

/-- It accepts the signed request in any case. -/
theorem accept_hubWith (keys : List (ChainId × ChainKey)) :
    (hubWith keys).accept signedRequest = .ok ⟨none, "fabcar", "QueryCar", ["CAR1"], none⟩ := by
  have hfits : keyA.verify .standard signedRequest.signer signedRequest.payload = .ok true := by
    decide +kernel
  have hverify : (hubWith keys).signatures.verify signedRequest.origin signedRequest.signer
      signedRequest.payload = .ok true := by
    have hknows : (trustWith keys).Knows .standard chainA keyA := .inr rfl
    have hpayload : signedRequest.payload ≠ [] := InvokePayload.encode_ne_nil _
    exact TrustStore.verify_of_knows hknows hpayload hfits
  have hread := InvokePayload.decode_encode ⟨none, "fabcar", "QueryCar", ["CAR1"], none⟩
  change InvokePayload.decode signedRequest.payload = _ at hread
  have hlocal : (hubWith keys).registry.isLocal signedRequest.destination = true := rfl
  rw [HubExecutor.accept_eq, if_neg (by decide), if_neg (by simp [hlocal]),
    Signatures.objection_eq_none_iff.2 hverify, hread]
  rfl

/-- Without a signature the request is refused after its call. -/
theorem execute_hubWith {keys : List (ChainId × ChainKey)} {cause : CryptoError}
    (hsign : ∀ digest, digest ≠ [] →
      (trustWith keys).sign .standard chainB digest = .error cause) :
    ∃ s', ((hubWith keys).noted.execute signedRequest).perform (ledgerB, [])
      = (.error (.ofCrypto cause), s', [⟨chainB, signedCall, .ok (.ok [7])⟩]) := by
  have hrespond : ∀ p answered, (hubWith keys).respond signedRequest p answered
      = .error (.ofCrypto cause) := by
    intro p answered
    have hunsigned : (hubWith keys).signatures.sign signedRequest.destination
        (ContractResponse.codec.write answered.1) = .error cause :=
      hsign _ answered.1.write_ne_nil
    rw [HubExecutor.respond, hunsigned]
  have hrefused : (((hubWith keys).execute signedRequest).perform ledgerB).1
      = .error (.ofCrypto cause) := by
    rw [HubExecutor.execute_perform, accept_hubWith]
    exact hrespond _ _
  have hcall : (hubWith keys).callFor signedRequest = some (chainB, signedCall) := by
    rw [HubExecutor.callFor, accept_hubWith]
    rfl
  have houtcome : ((MemoryLedger.ledger.invoke chainB signedCall).perform ledgerB).1
      = .ok (.ok [7]) := by
    decide +kernel
  refine ⟨(((hubWith keys).execute signedRequest).perform ledgerB).2, ?_⟩
  rw [HubExecutor.noted_execute, hrefused, HubExecutor.callsMade, hcall, ← houtcome]
  rfl

end Pair

open Pair in
/-- Without a key of the destination the request is refused, and its call was made. -/
theorem HubExecutor.refused_without_key :
    (hubWith []).signatures = (trustWith []).signatures .standard ∧
      ∃ s' calls c cause,
        ((hubWith []).noted.execute signedRequest).perform (ledgerB, [])
          = (.error ⟨.notFound, "No private key registered for chain B"⟩, s', calls) ∧
        (hubWith []).Authentic signedRequest c ∧ calls = [c] ∧
        (trustWith []).Unsigned .standard chainB
          (ContractResponse.codec.write (answer c.outcome).1) cause := by
  have hsign : ∀ digest, digest ≠ [] →
      (trustWith []).sign .standard chainB digest = .error (.missingPrivateKey chainB) :=
    fun digest hdigest => TrustStore.sign_error_iff.2 (.unable hdigest rfl)
  obtain ⟨s', hdone⟩ := execute_hubWith hsign
  obtain ⟨-, ⟨-, hnone⟩ | ⟨c, cause, hauthentic, -, hcalls, -, hunsigned⟩⟩ :=
    refused_without_call_or_unsigned rfl hdone
  · cases hnone
  · exact ⟨rfl, s', _, c, cause, hdone, hauthentic, hcalls, hunsigned⟩

open Pair in
/-- So it is with a secret that was loaded and signs nothing: the hub has called the
contract, and says that the request has failed. -/
theorem HubExecutor.call_made_for_refused_request :
    ChainKey.ofSecret .standard .sm2 (Bytes.ofNat 32 Crypto.Sm2.lastSecret)
        = .ok (.signing .sm2 Crypto.Sm2.lastSecret) ∧
      ∃ s', ((hubWith [(chainB, .signing .sm2 Crypto.Sm2.lastSecret)]).noted.execute
          signedRequest).perform (ledgerB, [])
        = (.error ⟨.internal, "Signing failed: signature error"⟩, s',
            [⟨chainB, signedCall, .ok (.ok [7])⟩]) := by
  have hsign : ∀ digest, digest ≠ [] →
      (trustWith [(chainB, .signing .sm2 Crypto.Sm2.lastSecret)]).sign .standard chainB digest
        = .error (.signingFailed ChainKey.schemeFailure) :=
    fun _ hdigest => TrustStore.sign_last rfl hdigest
  exact ⟨ChainKey.ofSecret_last, execute_hubWith hsign⟩

namespace HubExecutor

/-! ## Answers -/

/-- An answer that is consistent with itself and with what came of the call. -/
structure Consistent (x : HubExecutor σ) (q : HubRequest) (p : InvokePayload)
    (outcome : Except LedgerError ContractResponse) (r : HubResponse) : Prop where
  /-- It answers the request. -/
  matched : r.origin = q.origin ∧ r.destination = q.destination ∧
    r.transactionId = q.transactionId ∧ r.stepId = q.stepId
  /-- Its payload is read as what the contract has answered, and the error message is
  empty; or it is read as a failure with the error message, and the call has failed. -/
  payload : ∃ c, ContractResponse.codec.decode r.payload = .ok c ∧
    ((outcome = .ok c ∧ c.status = Contract.statusOk ∧ r.errorMessage = "") ∨
      ((∀ response, outcome = .ok response → response.status ≠ Contract.statusOk) ∧
        c.status = Contract.statusError ∧ c.payload = [] ∧ c.message = r.errorMessage ∧
        r.errorMessage ≠ ""))
  /-- It has a callback just if the request has one, which is read back. -/
  callback : r.callback.isSome = p.callback.isSome ∧ r.callbackDescriptor = .ok p.callback
  /-- Its signature is accepted as that of the destination. -/
  signed : x.signatures.verify q.destination r.signer r.payload = .ok true

theorem ne_empty_of_answer_error {outcome : Except LedgerError ContractResponse} {message : String}
    (h : answer outcome = (.error message, message)) : message ≠ "" := by
  intro hempty
  have hiff := answer_message_eq_empty_iff outcome
  rw [h] at hiff
  exact error_status_ne message (hiff.1 hempty)

/-- The answer for what came of a call is the contract's own, or a failure with the
message that goes with it. -/
theorem answer_cases (outcome : Except LedgerError ContractResponse) :
    (∃ response, outcome = .ok response ∧ response.status = Contract.statusOk ∧
      answer outcome = (response, "")) ∨
    ((∀ response, outcome = .ok response → response.status ≠ Contract.statusOk) ∧
      ∃ message, message ≠ "" ∧ answer outcome = (.error message, message)) := by
  cases outcome with
  | error e =>
    refine .inr ⟨?_, e.message, message_ne_empty e, rfl⟩
    intro response h
    cases h
  | ok response =>
    by_cases hok : response.status = Contract.statusOk
    · refine .inl ⟨response, rfl, hok, ?_⟩
      exact if_pos (by simpa [ContractResponse.isOk] using hok)
    · have hfailure : ∃ message, answer (.ok response) = (.error message, message) :=
        ⟨_, if_neg (by simpa [ContractResponse.isOk] using hok)⟩
      obtain ⟨message, hanswer⟩ := hfailure
      refine .inr ⟨?_, message, ne_empty_of_answer_error hanswer, hanswer⟩
      rintro _ ⟨⟩
      exact hok

/-- Whatever comes of the call, an answer that is sent is consistent: with the
request, with what came of the one call that was made, and with itself. -/
theorem answers_are_consistent {suite : Suite} (hsuite : suite.Sound) {t : TrustStore}
    (htrust : x.signatures = t.signatures suite) {r : HubResponse}
    (h : (x.noted.execute q).perform (s, calls) = (.ok r, s', calls')) :
    ∃ p c, InvokePayload.decode q.payload = .ok p ∧ x.Authentic q c ∧
      ((x.ledger c.chain).invoke c.chain c.call).perform s = (c.outcome, s') ∧
      calls' = calls ++ [c] ∧ Consistent x q p c.outcome r := by
  rcases noted_execute_cases x q s calls with
    ⟨_, hrefused⟩ | ⟨p, c, s₁, hread, hauthentic, hcall, hdone⟩
  · rw [hrefused] at h
    cases h
  · rw [hdone] at h
    simp only [Prod.mk.injEq] at h
    obtain ⟨hrespond, rfl, rfl⟩ := h
    obtain ⟨hr, hsign⟩ := of_respond_ok hrespond
    have hsigned : x.signatures.verify q.destination r.signer r.payload = .ok true := by
      rw [htrust] at hsign ⊢
      exact TrustStore.verify_of_sign hsuite hsign
    have hpayload : ContractResponse.codec.decode r.payload = .ok (answer c.outcome).1 := by
      rw [hr]
      exact ContractResponse.codec_faithful.decode_write _
    have hmessage : r.errorMessage = (answer c.outcome).2 := by rw [hr]
    have hcallback : r.callback = p.callback.map CallbackDescriptor.codec.write := by rw [hr]
    refine ⟨p, c, hread, hauthentic, hcall, rfl, {
      matched := by rw [hr]; exact ⟨rfl, rfl, rfl, rfl⟩
      payload := ?_
      callback := ?_
      signed := hsigned }⟩
    · refine ⟨_, hpayload, ?_⟩
      rw [hmessage]
      rcases answer_cases c.outcome with
        ⟨response, houtcome, hok, hanswer⟩ | ⟨hfailed, message, hsays, hanswer⟩
      · rw [hanswer]
        exact .inl ⟨houtcome, hok, rfl⟩
      · rw [hanswer]
        exact .inr ⟨hfailed, rfl, rfl, rfl, hsays⟩
    · refine ⟨?_, HubResponse.callbackDescriptor_eq hcallback⟩
      rw [hcallback, Option.isSome_map]

end HubExecutor

/-! ### A call that fails

The contract refuses the call of a request that wants to be told the result. -/

namespace Pair

/-- A ledger whose contract does not know of any car. -/
def emptyLot : MemoryLedger :=
  ⟨[(chainB, (Chain.new "router" "proxy").deploy "fabcar" fun _ _ => .error "no such car")]⟩

/-- A payload with a callback. -/
def tellingPayload : InvokePayload :=
  ⟨none, "fabcar", "QueryCar", ["CAR1"], some ⟨"audit", "Record", ["CAR1"]⟩⟩

/-- The request for it, signed by its chain. -/
def tellingRequest : HubRequest :=
  { signedRequest with
    payload := tellingPayload.encode
    signer := Bytes.ofNat 64
      0xc0de25da1bf94b3fe9f5abc54bccb229bf459ee6855c86a2a93f2f16a984ab3a4f814d6f9f5f678ff839f03ff410efd64ce0a151b280a07fbda9ee2a925124fe }

end Pair

open Pair in
/-- The failure is signed, and stands in the error message too. -/
theorem HubExecutor.failed_call_is_answered :
    Suite.careful.Sound ∧ (hubB .careful).signatures = (trustB .careful).signatures .careful ∧
      ∃ r s' calls p c,
        ((hubB .careful).noted.execute tellingRequest).perform (emptyLot, []) = (.ok r, s', calls) ∧
        r.errorMessage = "Invocation failed: no such car" ∧
        InvokePayload.decode tellingRequest.payload = .ok p ∧ calls = [c] ∧
        Consistent (hubB .careful) tellingRequest p c.outcome r := by
  have hanswered : (((hubB .careful).execute tellingRequest).perform emptyLot).1.toOption.map
      HubResponse.errorMessage = some "Invocation failed: no such car" := by
    decide +kernel
  have hdone := noted_execute (hubB .careful) tellingRequest emptyLot []
  cases hr : (((hubB .careful).execute tellingRequest).perform emptyLot).1 with
  | error e =>
    rw [hr] at hanswered
    cases hanswered
  | ok r =>
    rw [hr] at hdone hanswered
    obtain ⟨p, c, hread, -, -, hcalls, hconsistent⟩ :=
      answers_are_consistent Suite.careful_sound rfl hdone
    exact ⟨Suite.careful_sound, rfl, r, _, _, p, c, hdone, Option.some.inj hanswered, hread, hcalls,
      hconsistent⟩

end RelayHub
