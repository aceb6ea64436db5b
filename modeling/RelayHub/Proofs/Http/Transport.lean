/-
A hub that is called over the web answers as it does when it is called directly.

Between the two ends of a call there are two writers, two readers and a table of
codes. The request that is posted is the one that the server reads, and from the
server's answer the client reads the outcome that the hub gave: a failure is not
taken for a success, and its status and message are those of the body and not
those that the code alone would give. What remains is that the web carries
bodies and codes as they are, and that is what `HttpPeer.Delivers` says.
-/
import RelayHub.Http.HubServer
import RelayHub.Proofs.Hub.Authentic
import RelayHub.Proofs.Message.Wire

set_option autoImplicit false

namespace RelayHub

open Json

variable {σ : Type}

/-! ## The server -/

namespace HubServer

/-- A request whose body is not too large to be read. -/
def Fits (q : HubRequest) : Prop :=
  (HubRequest.codec.write q).length ≤ bodyLimit

instance (q : HubRequest) : Decidable (Fits q) :=
  inferInstanceAs (Decidable ((HubRequest.codec.write q).length ≤ bodyLimit))

/-- A web request that posts a call. -/
structure Posts (r : HttpRequest) (body : Bytes) : Prop where
  post : r.method = "POST"
  path : r.path = HubAddress.invokePath
  body : r.body = body

/-- The call in the body that is written for it. -/
theorem callOf_write {q : HubRequest} (h : Fits q) : callOf (HubRequest.codec.write q) = .ok q := by
  have htext := (HubRequest.codec_textual q).flaw?_eq_none
  rw [callOf, if_neg (Nat.not_lt.2 h), htext]
  dsimp only
  rw [HubRequest.codec_faithful.decode_write]

/-- A text that is no call is answered with an invalid argument. -/
theorem callOf_not_request {text : String} {fault : Fault}
    (hsize : (Utf8.encode text).length ≤ bodyLimit)
    (hfault : HubRequest.codec.decodeText text = .error fault) :
    callOf (Utf8.encode text)
      = .error (.ofError ⟨.invalidArgument, "parse error: " ++ fault.message⟩) := by
  rw [Codec.decodeText] at hfault
  rw [callOf, if_neg (Nat.not_lt.2 hsize), Utf8.flaw?_encode]
  dsimp only
  rw [hfault]

theorem answer_posts {api : HubApi σ} {r : HttpRequest} {body : Bytes} (h : Posts r body) :
    answer api r = answerCall api body := by
  rw [answer, if_pos h.path, if_pos h.post, h.body]

/-- A request that is posted is answered with the outcome of the call. -/
theorem answer_request {api : HubApi σ} {r : HttpRequest} {q : HubRequest} (hfits : Fits q)
    (h : Posts r (HubRequest.codec.write q)) (s : σ) :
    answer api r s = (.ofOutcome ((api q).perform s).1, ((api q).perform s).2) := by
  rw [answer_posts h, answerCall, callOf_write hfits]

/-- A text that is no call is refused before any hub is asked: the answer and
the state are the same for every hub in every state. -/
theorem answer_not_request {r : HttpRequest} {text : String} {fault : Fault}
    (h : Posts r (Utf8.encode text)) (hsize : (Utf8.encode text).length ≤ bodyLimit)
    (hfault : HubRequest.codec.decodeText text = .error fault) (api : HubApi σ) (s : σ) :
    answer api r s = (.ofError ⟨.invalidArgument, "parse error: " ++ fault.message⟩, s) := by
  rw [answer_posts h, answerCall, callOf_not_request hsize hfault]

end HubServer

/-! ## The client -/

/-- No failure has the code of a success. -/
theorem HubStatus.httpCode_not_success (s : HubStatus) :
    HttpReply.isSuccess s.httpCode = false := by
  cases s <;> rfl

namespace Connector

theorem outcomeOf_ofError (address : String) (e : HubError) :
    outcomeOf address (.answered (HttpAnswer.ofError e).code (HttpAnswer.ofError e).body)
      = .error e := by
  change outcomeOf address (.answered e.status.httpCode (HubError.codec.write e)) = _
  have hread : HubError.codec.decodeText (Utf8.decodeLossy (HubError.codec.write e)) = .ok e :=
    HubError.codec_faithful.decodeText_encodeText HubError.codec_textual e
  rw [outcomeOf, HubStatus.httpCode_not_success, if_neg Bool.false_ne_true]
  dsimp only
  rw [hread]

/-- The outcome that the server writes is the outcome that the client reads. -/
theorem outcomeOf_ofOutcome (address : String) (r : Except HubError HubResponse) :
    outcomeOf address (.answered (HttpAnswer.ofOutcome r).code (HttpAnswer.ofOutcome r).body)
      = r := by
  cases r with
  | error e => exact outcomeOf_ofError address e
  | ok response =>
    change outcomeOf address (.answered 200 (HubResponse.codec.write response)) = _
    rw [outcomeOf, if_pos (by decide), HubResponse.codec_faithful.decode_write]

end Connector

/-! ## Both -/

/-- A web that carries what is posted to an endpoint to the hub that is served
there, and its answers back, before any time runs out. -/
structure HttpPeer.Delivers (peer : HttpPeer σ) (endpoint : String) (api : HubApi σ) : Prop where
  post (body : Bytes) (s : σ) : ∃ r, HubServer.Posts r body ∧
    peer.post (HubAddress.invoke endpoint) body s
      = (.answered (HubServer.answer api r s).1.code (HubServer.answer api r s).1.body,
          (HubServer.answer api r s).2)

/-- A web with one hub on it. -/
def HttpPeer.serving (endpoint : String) (api : HubApi σ) : HttpPeer σ where
  get _ := pure .failed
  post address body := fun s =>
    if address = HubAddress.invoke endpoint then
      let (a, s) := HubServer.answer api ⟨"POST", HubAddress.invokePath, body⟩ s
      (.answered a.code a.body, s)
    else (.failed, s)

theorem HttpPeer.serving_delivers (endpoint : String) (api : HubApi σ) :
    (serving endpoint api).Delivers endpoint api where
  post body s := by
    have hpath : (HttpRequest.mk "POST" HubAddress.invokePath body).path
        = HubAddress.invokePath := by
      dsimp only [HttpRequest.path]
      decide +kernel
    refine ⟨⟨"POST", HubAddress.invokePath, body⟩, ⟨rfl, hpath, rfl⟩, ?_⟩
    exact if_pos rfl

/-- Calls the same hub for every chain, without anything in between. -/
def Connector.direct (api : HubApi σ) : Connector σ where
  connect _ := pure api

/-- A call over the web is the call itself. -/
theorem Connector.dial_eq {peer : HttpPeer σ} {endpoint : String} {api : HubApi σ}
    (h : peer.Delivers endpoint api) {q : HubRequest} (hfits : HubServer.Fits q) :
    dial peer endpoint q = api q := by
  funext s
  obtain ⟨r, hposts, hpost⟩ := h.post (HubRequest.codec.write q) s
  change (outcomeOf _ (peer.post (HubAddress.invoke endpoint) (HubRequest.codec.write q) s).1,
    (peer.post (HubAddress.invoke endpoint) (HubRequest.codec.write q) s).2) = (api q).perform s
  rw [hpost, HubServer.answer_request hfits hposts, outcomeOf_ofOutcome]

namespace HubClient

/-- The same client with another way to reach hubs. -/
def reaching (c : HubClient σ) (connector : Connector σ) : HubClient σ :=
  { c with connector }

/-- What a client sends is the same however it reaches hubs, and if the calls
have the same outcomes, so has all that it does. -/
theorem invoke_reaching_congr {c : HubClient σ} {k k' : Connector σ} {q : HubRequest} {s : σ}
    (h : ∀ signed, c.signed q = .ok signed →
      (c.reaching k).call (c.stamped signed s).1 = (c.reaching k').call (c.stamped signed s).1) :
    ((c.reaching k).invoke q).perform s = ((c.reaching k').invoke q).perform s := by
  have hsigned : ∀ k : Connector σ, (c.reaching k).signed q = c.signed q := fun _ => rfl
  have hstamped : ∀ (k : Connector σ) r, (c.reaching k).stamped r s = c.stamped r s :=
    fun _ _ => rfl
  have hobjection : ∀ k : Connector σ, (c.reaching k).objection? = c.objection? := fun _ => rfl
  rw [invoke_perform, invoke_perform, hsigned k, hsigned k']
  cases hq : c.signed q with
  | error e => rfl
  | ok signed =>
    have hsend : (c.reaching k).send (c.stamped signed s).1
        = (c.reaching k').send (c.stamped signed s).1 := by
      rw [send, send, h signed hq]
    dsimp only
    rw [hstamped k, hstamped k', hobjection k, hobjection k']
    rcases hsent : c.stamped signed s with ⟨stamped, s₁⟩
    rw [hsent] at hsend
    dsimp only at hsend ⊢
    rw [hsend]

/-- The request that a client sends keeps its destination. -/
theorem destination_of_sent {c : HubClient σ} {q signed : HubRequest} (h : c.signed q = .ok signed)
    (s : σ) : (c.stamped signed s).1.destination = q.destination := by
  rw [stamped_eq c signed s]
  exact (of_signed h).2.1

end HubClient

/-- Over a web that delivers, it makes no difference that a hub is called over
the web: a call that fits has the outcome and the effect of the same call made
directly, and a client that reaches the hub over the web does what it does when
it calls the hub directly. And a posted text that is no call is answered with an
invalid argument, which the caller reads, whatever hub is there and without any
effect. -/
theorem HttpPeer.web_is_transparent {peer : HttpPeer σ} {endpoint : String} {api : HubApi σ}
    (h : peer.Delivers endpoint api) :
    (∀ q s, HubServer.Fits q →
      (Connector.dial peer endpoint q).perform s = (api q).perform s) ∧
    (∀ (c : HubClient σ) (registry : Registry) (hub : String) (q : HubRequest) (s : σ),
      registry.remote? q.destination = some ⟨hub, endpoint⟩ →
      (∀ signed, c.signed q = .ok signed → HubServer.Fits (c.stamped signed s).1) →
      ((c.reaching (.http peer registry)).invoke q).perform s
        = ((c.reaching (.direct api)).invoke q).perform s) ∧
    ∀ (r : HttpRequest) (text : String) (fault : Fault), HubServer.Posts r (Utf8.encode text) →
      (Utf8.encode text).length ≤ HubServer.bodyLimit →
      HubRequest.codec.decodeText text = .error fault →
      let refusal : HubError := ⟨.invalidArgument, "parse error: " ++ fault.message⟩
      (∀ (τ : Type) (anyApi : HubApi τ) (t : τ),
        HubServer.answer anyApi r t = (.ofError refusal, t)) ∧
      ∀ address, Connector.outcomeOf address
        (.answered (HttpAnswer.ofError refusal).code (HttpAnswer.ofError refusal).body)
          = .error refusal := by
  refine ⟨fun q s hfits => ?_, fun c registry hub q s hremote hfits => ?_,
    fun r text fault hposts hsize hfault => ⟨fun τ anyApi t => ?_, fun address => ?_⟩⟩
  · rw [Connector.dial_eq h hfits]
  · refine HubClient.invoke_reaching_congr fun signed hsigned => ?_
    have hdestination := HubClient.destination_of_sent hsigned s
    have hconnect : (Connector.http peer registry).connect (c.stamped signed s).1.destination
        = pure (Connector.dial peer endpoint) := by
      rw [hdestination]
      change Action.ofExcept _ = _
      rw [hremote]
      rfl
    change (Connector.http peer registry).connect _ >>= _ = pure api >>= _
    rw [hconnect, pure_bind, pure_bind, Connector.dial_eq h (hfits signed hsigned)]
  · exact HubServer.answer_not_request hposts hsize hfault anyApi t
  · exact Connector.outcomeOf_ofError address _

/-! ### A hub on the web

The signed request of one chain of the pair, sent over the web to the hub of the
other one, and a text that is none. -/

open Pair in
theorem HubService.signed_request_over_the_web :
    let api := (hubB .standard).execute
    let web := HttpPeer.serving "http://b/" api
    let toB := Connector.http web ⟨[(chainB, .remote ⟨"hub", "http://b/"⟩)]⟩
    web.Delivers "http://b/" api ∧
      (Connector.dial web "http://b/" signedRequest).perform ledgerB
        = (api signedRequest).perform ledgerB ∧
      ((idleClient.reaching toB).invoke signedRequest).perform ledgerB
        = ((idleClient.reaching (.direct api)).invoke signedRequest).perform ledgerB ∧
      HubServer.answer api ⟨"POST", "/hub/invoke", Utf8.encode "not json"⟩ ledgerB
        = (.ofError ⟨.invalidArgument, "parse error: expected ident at line 1 column 2"⟩,
            ledgerB) := by
  intro api web toB
  have hdelivers : web.Delivers "http://b/" api := HttpPeer.serving_delivers _ _
  obtain ⟨hcall, hclient, hrefused⟩ := HttpPeer.web_is_transparent hdelivers
  have hfits : HubServer.Fits signedRequest := by decide +kernel
  refine ⟨hdelivers, hcall signedRequest ledgerB hfits, ?_, ?_⟩
  · refine hclient _ _ "hub" _ _ (by decide +kernel) fun signed hsigned => ?_
    cases hsigned
    exact hfits
  · have hposts : HubServer.Posts ⟨"POST", "/hub/invoke", Utf8.encode "not json"⟩
        (Utf8.encode "not json") := ⟨rfl, by decide +kernel, rfl⟩
    have hfault : HubRequest.codec.decodeText "not json" = .error ⟨.expectedIdent, some ⟨1, 2⟩⟩ :=
      rfl
    exact (hrefused _ _ _ hposts (by decide +kernel) hfault).1 _ api ledgerB

end RelayHub
