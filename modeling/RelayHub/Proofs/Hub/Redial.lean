/-
How often the calling side of a hub dials.

What becomes of each attempt is written down beforehand, in a script: the other hub
cannot be dialled, or the connection gives this answer. So the outcomes of the attempts
are a sequence, and the law of retries says which of them is the last. The wire shows
what each attempt did: it dialled the destination, and if that came about, it sent the
request over its own connection. The request is signed and stamped once, before all of
this, and what comes back is judged once, after it. The clock may show something else
whenever anything has gone over the wire, so that a second stamp would be seen.
-/
import Mathlib.Data.ENat.Lattice
import RelayHub.Proofs.Hub.Client
import RelayHub.Proofs.Hub.Executor
import RelayHub.Proofs.Retry.Law

set_option autoImplicit false

namespace RelayHub

open RelayHub.Action

/-! ## Scripted connectors -/

/-- What becomes of an attempt to call another hub: the hub cannot be dialled, or the
connection answers the call like this. -/
inductive Attempt where
  | refused (e : HubError)
  | connected (answer : Except HubError HubResponse)

namespace Attempt

/-- What the attempt comes to. -/
def outcome : Attempt → Except HubError HubResponse
  | refused e => .error e
  | connected answer => answer

/-- The hub could be dialled. -/
def connects : Attempt → Bool
  | refused _ => false
  | connected _ => true

/-- The time ran out, for dialling or for the call. -/
def TimesOut (a : Attempt) : Prop :=
  ∃ message, a.outcome = .error ⟨.deadlineExceeded, message⟩

end Attempt

/-- What has gone over a wire: the chains whose hubs were dialled, and the requests that
were sent, each with the number of the connection it was sent over. -/
structure Wire where
  dials : List ChainId
  sent : List (Nat × HubRequest)

/-- A wire that has not been used. -/
def Wire.idle : Wire := ⟨[], []⟩

/-- The wire after as many attempts to send a request. -/
def Wire.after (script : Nat → Attempt) (q : HubRequest) (attempts : Nat) : Wire where
  dials := List.replicate attempts q.destination
  sent := ((List.range attempts).filter fun i => (script i).connects).map fun i => (i, q)

/-- A connector whose attempts go as the script has them. -/
def Connector.scripted (script : Nat → Attempt) : Connector Wire where
  connect destination := Action.of fun w =>
    let number := w.dials.length
    let dialled : Wire := { w with dials := w.dials ++ [destination] }
    match script number with
    | .refused e => (.error e, dialled)
    | .connected answer =>
      (.ok fun q => Action.of fun w => (answer, { w with sent := w.sent ++ [(number, q)] }),
        dialled)

/-- The number of attempts at the head of a script for which the time runs out, which is
infinite if it runs out for all of them. -/
noncomputable def leadingTimeouts (script : Nat → Attempt) : ℕ∞ :=
  ⨅ i : {i : Nat // ¬ (script i).TimesOut}, ((i : Nat) : ℕ∞)

/-- The signature that a request goes out with: its own, or else that of its chain. -/
def Signatures.signerOf (signatures : Signatures) (q : HubRequest) : Except CryptoError Bytes :=
  if q.signer = [] then signatures.sign q.origin q.payload else .ok q.signer

/-! ## Judging what came back -/

/-- The response answers the request, and the destination has signed it. -/
structure Answering (signatures : Signatures) (q : HubRequest) (r : HubResponse) : Prop where
  destination : r.destination = q.destination
  origin : r.origin = q.origin
  transactionId : r.transactionId = q.transactionId
  stepId : r.stepId = q.stepId
  verified : signatures.verify q.destination r.signer r.payload = .ok true

/-- What a client makes of the outcome of the last attempt. -/
inductive Judged (signatures : Signatures) (q : HubRequest) :
    Except HubError HubResponse → Except HubError HubResponse → Prop where
  | failed (e : HubError) : Judged signatures q (.error e) (.error e)
  | accepted {r : HubResponse} (h : Answering signatures q r) : Judged signatures q (.ok r) (.ok r)
  | rejected {r : HubResponse} (h : ¬ Answering signatures q r) (message : String) :
    Judged signatures q (.ok r) (.error ⟨.unauthenticated, message⟩)

namespace HubClient

/-- A client with these signatures, a scripted connector, and a clock that goes by the wire. -/
def scripted (signatures : Signatures) (script : Nat → Attempt) (clock : Wire → Int64) :
    HubClient Wire where
  signatures := signatures
  connector := .scripted script
  now w := (clock w, w)

variable {signatures : Signatures} {script : Nat → Attempt} {clock : Wire → Int64} {q : HubRequest}

/-- Nothing is wrong with a response that answers the request, and with no other. -/
theorem objection_eq_none_iff_answering {r : HubResponse} :
    (scripted signatures script clock).objection? q r = none ↔ Answering signatures q r := by
  rw [objection_eq_none_iff]
  exact ⟨fun ⟨hdestination, horigin, htransaction, hstep, hverified⟩ =>
      ⟨hdestination, horigin, htransaction, hstep, hverified⟩,
    fun h => ⟨h.destination, h.origin, h.transactionId, h.stepId, h.verified⟩⟩

/-- Whatever is wrong with a response, it has not been shown to come from the destination. -/
theorem status_of_objection {σ : Type} {c : HubClient σ} {r : HubResponse} {e : HubError}
    (h : c.objection? q r = some e) : e.status = .unauthenticated := by
  unfold objection? at h
  split at h
  · cases h
    rfl
  · split at h
    · cases h
      rfl
    · exact HubExecutor.status_of_objection h

/-- What a client answers to a response is its judgement. -/
theorem judged_response (signatures : Signatures) (script : Nat → Attempt) (clock : Wire → Int64)
    (q : HubRequest) (r : HubResponse) :
    Judged signatures q (.ok r)
      (match (scripted signatures script clock).objection? q r with
        | none => .ok r
        | some e => .error e) := by
  cases hobjection : (scripted signatures script clock).objection? q r with
  | none => exact .accepted (objection_eq_none_iff_answering.1 hobjection)
  | some e =>
    have hanswering : ¬ Answering signatures q r := by
      intro h
      rw [objection_eq_none_iff_answering.2 h] at hobjection
      cases hobjection
    obtain ⟨status, message⟩ := e
    obtain rfl : status = .unauthenticated := status_of_objection hobjection
    exact .rejected hanswering message

/-! ## Attempts -/

theorem after_succ (n : Nat) : Wire.after script q (n + 1) =
    { dials := (Wire.after script q n).dials ++ [q.destination]
      sent := (Wire.after script q n).sent ++ if (script n).connects then [(n, q)] else [] } := by
  have hsent : ((List.range (n + 1)).filter fun i => (script i).connects).map (fun i => (i, q))
      = ((List.range n).filter fun i => (script i).connects).map (fun i => (i, q))
        ++ if (script n).connects then [(n, q)] else [] := by
    rw [List.range_succ, List.filter_append, List.map_append]
    cases hconnects : (script n).connects <;> simp [hconnects]
  rw [Wire.after, hsent, List.replicate_succ']
  rfl

/-- One attempt dials once, and sends the request once if that comes about. -/
theorem call_perform (n : Nat) :
    ((scripted signatures script clock).call q).perform (.after script q n)
      = ((script n).outcome, .after script q (n + 1)) := by
  have hnumber : (Wire.after script q n).dials.length = n := List.length_replicate
  rw [call, perform_bind, after_succ]
  simp only [scripted, Connector.scripted, perform_of, hnumber]
  cases script n with
  | refused e => simp [Attempt.outcome, Attempt.connects]
  | connected answer => simp [Attempt.outcome, Attempt.connects]

theorem isDeadlineExceeded_iff {e : HubError} :
    e.isDeadlineExceeded = true ↔ ∃ message, e = ⟨.deadlineExceeded, message⟩ := by
  obtain ⟨status, message⟩ := e
  cases status <;> simp [HubError.isDeadlineExceeded]

/-- An attempt can be the last if its time does not run out, and the sixth is the last. -/
theorem ends_iff {i : Nat} :
    policy.Ends HubError.isDeadlineExceeded (fun i => (script i).outcome) i ↔
      ¬ (script i).TimesOut ∨ i = redials := by
  have hlimit : policy.maxRetries = some i ↔ i = redials :=
    ⟨fun h => (Option.some.inj h).symm, fun h => congrArg some h.symm⟩
  rw [FixedBackoff.Ends, hlimit, ← or_assoc]
  refine or_congr_left ?_
  cases hi : (script i).outcome with
  | ok r => simp [Succeeds, Attempt.TimesOut, hi]
  | error e =>
    have htimes : (script i).TimesOut ↔ e.isDeadlineExceeded = true := by
      simp [Attempt.TimesOut, hi, isDeadlineExceeded_iff]
    simp [Succeeds, hi, htimes]

/-- Where the leading timeouts end, or else the sixth attempt, is the last. -/
theorem exists_last (script : Nat → Attempt) :
    ∃ last : Nat, (last : ℕ∞) = min (leadingTimeouts script) redials ∧
      IsLeast {i | policy.Ends HubError.isDeadlineExceeded (fun i => (script i).outcome) i}
        last := by
  obtain ⟨last, hlast⟩ : ∃ last : Nat, (last : ℕ∞) = min (leadingTimeouts script) redials :=
    ENat.ne_top_iff_exists.1 (ne_top_of_le_ne_top (ENat.natCast_ne_top _) (min_le_right _ _))
  refine ⟨last, hlast, ends_iff.2 ?_, fun i hi => ?_⟩
  · rcases min_choice (leadingTimeouts script) redials with hmin | hmin
    · left
      rw [hmin] at hlast
      -- The infimum is finite, so there is an attempt that it is taken over.
      rcases isEmpty_or_nonempty {i : Nat // ¬ (script i).TimesOut} with hempty | hsome
      · rw [leadingTimeouts, iInf_of_empty] at hlast
        exact absurd hlast (ENat.natCast_ne_top _)
      · obtain ⟨⟨i, hi⟩, heq⟩ :=
          ENat.exists_eq_iInf fun i : {i : Nat // ¬ (script i).TimesOut} => ((i : Nat) : ℕ∞)
        obtain rfl : i = last := by exact_mod_cast heq.trans hlast.symm
        exact hi
    · right
      rw [hmin] at hlast
      exact_mod_cast hlast
  · have hle : (last : ℕ∞) ≤ i := by
      rw [hlast]
      rcases ends_iff.1 hi with hfinal | rfl
      · exact (min_le_left _ _).trans (iInf_le _ (⟨i, hfinal⟩ : {i : Nat // ¬ (script i).TimesOut}))
      · exact min_le_right _ _
    exact_mod_cast hle

/-- The outcome of sending is that of the last attempt. -/
theorem send_perform {last : Nat}
    (h : IsLeast {i | policy.Ends HubError.isDeadlineExceeded (fun i => (script i).outcome) i}
      last) :
    ((scripted signatures script clock).send q).perform .idle
      = ((script last).outcome, .after script q (last + 1)) := by
  have hfew : last ≤ redials := h.2 (ends_iff.2 (.inr rfl))
  obtain ⟨r, hr, hanswer⟩ := FixedBackoff.run_of_isLeast h hfew
  have hrun : policy.run HubError.isDeadlineExceeded ((scripted signatures script clock).call q)
      redials (.after script q 0) = (r, .after script q (last + 1)) := by
    rw [FixedBackoff.run] at hr ⊢
    rw [Delays.run_of_sequence call_perform, hr]
  have hidle : Wire.idle = .after script q 0 := rfl
  rw [send, perform_of, hidle, hrun, ← hanswer]

/-! ## The law -/

theorem signed_of_error {e : CryptoError} (h : signatures.signerOf q = .error e) :
    (scripted signatures script clock).signed q = .error (.ofCrypto e) := by
  unfold Signatures.signerOf at h
  split at h
  · have hsign : (scripted signatures script clock).signatures.sign q.origin q.payload
        = .error e := h
    rw [signed, if_pos (List.isEmpty_iff.2 ‹_›), hsign]
  · cases h

theorem signed_of_ok {signer : Bytes} (h : signatures.signerOf q = .ok signer) :
    (scripted signatures script clock).signed q = .ok { q with signer } := by
  unfold Signatures.signerOf at h
  split at h
  · have hsign : (scripted signatures script clock).signatures.sign q.origin q.payload
        = .ok signer := h
    rw [signed, if_pos (List.isEmpty_iff.2 ‹_›), hsign]
  · rename_i hsigner
    cases h
    rw [signed, if_neg fun hempty => hsigner (List.isEmpty_iff.1 hempty)]

theorem stamped_scripted (w : Wire) :
    (scripted signatures script clock).stamped q w
      = ({ q with timestamp := if q.timestamp = 0 then clock w else q.timestamp }, w) := by
  unfold stamped
  split
  · rfl
  · rfl

/-- What a client does with a request is decided by the signature and the script. If the
request cannot be signed, nothing is dialled. Otherwise the last attempt is the one after
all that ran out of time, and the sixth at most; each attempt up to this one dialled the
destination and, if that came about, sent the same request over the connection that it
got; and the last attempt alone is judged. -/
theorem dials_until_in_time (signatures : Signatures) (script : Nat → Attempt)
    (clock : Wire → Int64) (q : HubRequest) :
    match signatures.signerOf q with
    | .error e =>
      ((scripted signatures script clock).invoke q).perform .idle = (.error (.ofCrypto e), .idle)
    | .ok signer =>
      ∃ last : Nat, (last : ℕ∞) = min (leadingTimeouts script) 5 ∧
        ∃ answer,
          ((scripted signatures script clock).invoke q).perform .idle
            = (answer, .after script
                { q with
                  signer
                  timestamp := if q.timestamp = 0 then clock .idle else q.timestamp } (last + 1)) ∧
          Judged signatures q (script last).outcome answer := by
  rw [invoke_perform]
  cases hsigner : signatures.signerOf q with
  | error e => rw [signed_of_error hsigner]
  | ok signer =>
    rw [signed_of_ok hsigner]
    dsimp only
    obtain ⟨last, hlast, hleast⟩ := exists_last script
    refine ⟨last, hlast, ?_⟩
    rw [stamped_scripted]
    dsimp only
    rw [send_perform hleast]
    cases houtcome : (script last).outcome with
    | error e => exact ⟨_, rfl, .failed e⟩
    | ok r =>
      have hjudged := judged_response signatures script clock q r
      -- What is held against the response does not depend on the signer or the time.
      have hsame : (scripted signatures script clock).objection?
          { q with signer, timestamp := if q.timestamp = 0 then clock .idle else q.timestamp } r
          = (scripted signatures script clock).objection? q r := rfl
      dsimp only
      rw [hsame]
      cases hobjection : (scripted signatures script clock).objection? q r with
      | none =>
        rw [hobjection] at hjudged
        exact ⟨_, rfl, hjudged⟩
      | some e =>
        rw [hobjection] at hjudged
        exact ⟨_, rfl, hjudged⟩

end HubClient

end RelayHub
