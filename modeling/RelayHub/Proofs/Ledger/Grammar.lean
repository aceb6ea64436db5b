/-
The form of a request, and what reading a transaction tells about it.

Reading ends in one of three ways. A transaction that does not call the routing
contract's function, or has no hash, is passed over. One that does either has the
form of a request, and then it is the request that has its arguments, or else is
refused for the first thing that is wrong. Each of the three is said without
reading anything, and no two of them hold of one transaction; so what reading
tells is exactly which of them holds.
-/
import RelayHub.Ledger.Extract
import RelayHub.Proofs.Text.Strict

set_option autoImplicit false

namespace RelayHub

/-! ## The form of a request -/

/-- Where a field stands among the arguments. -/
def RequestField.place : RequestField → Nat
  | origin => 1
  | destination => 2
  | transactionId => 3
  | stepId => 4

/-- What is wrong with the bytes of a field. Every field is a text, and all but the
id of the step are not empty. -/
inductive RequestField.Fault : RequestField → Bytes → ExtractError → Prop
  | notText {field : RequestField} {bytes : Bytes} :
      ¬ bytes.toByteArray.IsValidUTF8 → Fault field bytes (.notText field)
  | empty {field : RequestField} : field ≠ .stepId → Fault field [] (.emptyField field)

namespace Extract

/-- Arguments with the form of a request. -/
structure WellFormed (args : List Bytes) : Prop where
  count : args.length = 7
  function : args[0]? = some (Utf8.encode Contract.invoke)
  text (field : RequestField) :
    ∃ bytes, args[field.place]? = some bytes ∧ bytes.toByteArray.IsValidUTF8
  filled (field : RequestField) : field ≠ .stepId → args[field.place]? ≠ some []

/-- The first thing that is wrong with the arguments of a call: their number, or else
the first field that is at fault. -/
inductive FirstFault (args : List Bytes) : ExtractError → Prop
  | count : args.length ≠ 7 → FirstFault args (.argumentCount Contract.invoke 7 args.length)
  | field {field : RequestField} {bytes : Bytes} {x : ExtractError} :
      args.length = 7 → args[field.place]? = some bytes → field.Fault bytes x →
      (∀ earlier : RequestField, earlier.place < field.place →
        ∀ bytes' y, args[earlier.place]? = some bytes' → ¬ earlier.Fault bytes' y) →
      FirstFault args x

end Extract

namespace Envelope

/-- The transaction has a hash, and calls the routing contract's function for requests. -/
def Invokes (e : Envelope) : Prop :=
  (∃ txHash, e.txHash = some txHash ∧ txHash ≠ "") ∧
    e.args[0]? = some (Utf8.encode Contract.invoke)

/-- The transaction of this block holds this request: the arguments are the request's
byte for byte, and the request knows where it stands. -/
structure Holds (e : Envelope) (b : RawBlock) (q : CrossChainRequest) : Prop where
  args : e.args = [Utf8.encode Contract.invoke, q.origin.bytes, q.destination.bytes,
    Utf8.encode q.transactionId, Utf8.encode q.stepId, q.payload, q.signer]
  origin : q.origin.name ≠ ""
  destination : q.destination.name ≠ ""
  transactionId : q.transactionId ≠ ""
  timestamp : q.timestamp = 0
  txHash : e.txHash = some q.found.txHash ∧ q.found.txHash ≠ ""
  found : q.found = ⟨q.found.txHash, b.number, b.hash, e.raw⟩

end Envelope

/-! ## The forms exclude each other -/

theorem RequestField.place_injective : Function.Injective RequestField.place := by
  intro field field' h
  cases field <;> cases field' <;> first | rfl | cases h

/-- The bytes of a text have no fault, unless it is empty and must not be. -/
theorem RequestField.not_fault_encode {field : RequestField} {s : String}
    (h : field ≠ .stepId → s ≠ "") (x : ExtractError) : ¬ field.Fault (Utf8.encode s) x := by
  intro hfault
  generalize hbytes : Utf8.encode s = bytes at hfault
  cases hfault with
  | notText hinvalid => exact hinvalid (Utf8.isText_iff_isValidUTF8.1 ⟨s, hbytes.symm⟩)
  | empty hfield => exact h hfield (Utf8.encode_injective hbytes)

theorem RequestField.Fault.unique {field : RequestField} {bytes : Bytes} {x y : ExtractError}
    (hx : field.Fault bytes x) (hy : field.Fault bytes y) : x = y := by
  have hempty : ([] : Bytes).toByteArray.IsValidUTF8 := Utf8.isText_iff_isValidUTF8.1 Utf8.isText_nil
  cases hx with
  | notText hinvalid =>
    cases hy with
    | notText _ => rfl
    | empty _ => exact absurd hempty hinvalid
  | empty _ =>
    cases hy with
    | notText hinvalid => exact absurd hempty hinvalid
    | empty _ => rfl

namespace Extract

variable {args : List Bytes}

/-- A field is the first at fault when the fields before it are texts that are not empty. -/
theorem FirstFault.of_earlier (field : RequestField) {bytes : Bytes} {x : ExtractError}
    (hseven : args.length = 7) (hbytes : args[field.place]? = some bytes)
    (hfault : field.Fault bytes x)
    (hearlier : ∀ earlier : RequestField, earlier.place < field.place →
      ∃ s, args[earlier.place]? = some (Utf8.encode s) ∧ s ≠ "") : FirstFault args x := by
  refine .field hseven hbytes hfault fun earlier hplace bytes' y hbytes' => ?_
  obtain ⟨s, hs, hne⟩ := hearlier earlier hplace
  obtain rfl := Option.some.inj (hs.symm.trans hbytes')
  exact RequestField.not_fault_encode (fun _ => hne) y

/-- There is one first thing that is wrong. -/
theorem FirstFault.unique {x y : ExtractError} (hx : FirstFault args x) (hy : FirstFault args y) :
    x = y := by
  cases hx with
  | count hcount =>
    cases hy with
    | count _ => rfl
    | field hseven _ _ _ => exact absurd hseven hcount
  | @field field bytes _ hseven hbytes hfault hfirst =>
    cases hy with
    | count hcount => exact absurd hseven hcount
    | @field field' bytes' _ _ hbytes' hfault' hfirst' =>
      rcases Nat.lt_trichotomy field.place field'.place with h | h | h
      · exact absurd hfault (hfirst' field h bytes x hbytes)
      · obtain rfl := RequestField.place_injective h
        obtain rfl := Option.some.inj (hbytes.symm.trans hbytes')
        exact hfault.unique hfault'
      · exact absurd hfault' (hfirst field' h bytes' y hbytes')

theorem WellFormed.not_firstFault (h : WellFormed args) (x : ExtractError) :
    ¬ FirstFault args x := by
  intro hx
  cases hx with
  | count hcount => exact hcount h.count
  | @field field bytes _ _ hbytes hfault _ =>
    cases hfault with
    | notText hinvalid =>
      obtain ⟨bytes', hbytes', hvalid⟩ := h.text field
      obtain rfl := Option.some.inj (hbytes.symm.trans hbytes')
      exact hinvalid hvalid
    | empty hfield => exact h.filled field hfield hbytes

end Extract

namespace Envelope

variable {e : Envelope} {b : RawBlock} {q q' : CrossChainRequest}

theorem Holds.invokes (h : e.Holds b q) : e.Invokes :=
  ⟨⟨_, h.txHash⟩, by rw [h.args]; rfl⟩

theorem Holds.wellFormed (h : e.Holds b q) : Extract.WellFormed e.args where
  count := by rw [h.args]; rfl
  function := by rw [h.args]; rfl
  text field := by
    have hvalid (s : String) : (Utf8.encode s).toByteArray.IsValidUTF8 :=
      Utf8.isText_iff_isValidUTF8.1 (Utf8.isText_encode s)
    rw [h.args]
    cases field <;> exact ⟨_, rfl, hvalid _⟩
  filled field hfield := by
    have hempty {s : String} (hs : s ≠ "") : some (Utf8.encode s) ≠ some [] :=
      fun heq => hs (Utf8.encode_injective (Option.some.inj heq))
    rw [h.args]
    cases field with
    | origin => exact hempty h.origin
    | destination => exact hempty h.destination
    | transactionId => exact hempty h.transactionId
    | stepId => exact absurd rfl hfield

/-- A transaction holds one request. -/
theorem Holds.unique (h : e.Holds b q) (h' : e.Holds b q') : q = q' := by
  obtain ⟨origin, destination, transactionId, stepId, payload, signer, timestamp, found⟩ := q
  obtain ⟨origin', destination', transactionId', stepId', payload', signer', timestamp', found'⟩ := q'
  have hargs := h.args.symm.trans h'.args
  have htx := Option.some.inj (h.txHash.1.symm.trans h'.txHash.1)
  have hfound := h.found
  have hfound' := h'.found
  have htime := h.timestamp.trans h'.timestamp.symm
  simp only [List.cons.injEq, ChainId.bytes, Utf8.encode_inj, and_true, true_and] at hargs
  dsimp only at htx hfound hfound' htime
  obtain ⟨horigin, hdestination, rfl, rfl, rfl, rfl⟩ := hargs
  obtain rfl : origin = origin' := congrArg ChainId.mk horigin
  obtain rfl : destination = destination' := congrArg ChainId.mk hdestination
  rw [hfound, hfound', htx, htime]

end Envelope

/-! ## Reading -/

namespace Extract

/-- A field that is read is the text with these bytes; else it has a fault. -/
theorem text_reads (field : RequestField) (bytes : Bytes) :
    (∃ s, text field bytes = .ok s ∧ bytes = Utf8.encode s) ∨
      ∃ x, text field bytes = .error x ∧ field.Fault bytes x := by
  unfold text
  cases hs : Utf8.decode? bytes with
  | some s => exact .inl ⟨s, rfl, (Utf8.decode?_eq_some_iff.1 hs).symm⟩
  | none =>
    have hinvalid : ¬ bytes.toByteArray.IsValidUTF8 := fun hvalid =>
      Utf8.decode?_eq_none_iff.1 hs (Utf8.isText_iff_isValidUTF8.2 hvalid)
    exact .inr ⟨_, rfl, .notText hinvalid⟩

theorem filled_reads (field : RequestField) (hfield : field ≠ .stepId) (bytes : Bytes) :
    (∃ s, filled field bytes = .ok s ∧ bytes = Utf8.encode s ∧ s ≠ "") ∨
      ∃ x, filled field bytes = .error x ∧ field.Fault bytes x := by
  unfold filled
  rcases text_reads field bytes with ⟨s, hread, rfl⟩ | ⟨x, hread, hfault⟩
  · rw [hread]
    by_cases hs : s = ""
    · subst hs
      exact .inr ⟨_, rfl, .empty hfield⟩
    · have hfilled : s.isEmpty = false := by simpa using hs
      refine .inl ⟨s, ?_, rfl, hs⟩
      simp only [bind, Except.bind, hfilled]
      rfl
  · rw [hread]
    exact .inr ⟨x, rfl, hfault⟩

/-- Arguments are read as the request that has them, or refused for the first thing that
is wrong with them. -/
theorem request_reads (found : TxOrigin) (args : List Bytes) :
    (∃ q, request found args = .ok q ∧
      (∃ function, args = [function, q.origin.bytes, q.destination.bytes,
        Utf8.encode q.transactionId, Utf8.encode q.stepId, q.payload, q.signer]) ∧
      q.origin.name ≠ "" ∧ q.destination.name ≠ "" ∧ q.transactionId ≠ "" ∧
      q.timestamp = 0 ∧ q.found = found) ∨
    ∃ x, request found args = .error x ∧ FirstFault args x := by
  unfold request
  split
  · rename_i function origin destination transactionId stepId payload signer
    rcases filled_reads .origin (by decide) origin with
      ⟨origin, ho, rfl, hno⟩ | ⟨x, ho, hfault⟩
    case inr =>
      rw [ho]
      refine .inr ⟨x, rfl, .of_earlier .origin rfl rfl hfault ?_⟩
      intro earlier hplace
      cases earlier <;> exact absurd hplace (by decide)
    rcases filled_reads .destination (by decide) destination with
      ⟨destination, hd, rfl, hnd⟩ | ⟨x, hd, hfault⟩
    case inr =>
      rw [ho, hd]
      refine .inr ⟨x, rfl, .of_earlier .destination rfl rfl hfault ?_⟩
      intro earlier hplace
      cases earlier
      case origin => exact ⟨origin, rfl, hno⟩
      all_goals exact absurd hplace (by decide)
    rcases filled_reads .transactionId (by decide) transactionId with
      ⟨transactionId, ht, rfl, hnt⟩ | ⟨x, ht, hfault⟩
    case inr =>
      rw [ho, hd, ht]
      refine .inr ⟨x, rfl, .of_earlier .transactionId rfl rfl hfault ?_⟩
      intro earlier hplace
      cases earlier
      case origin => exact ⟨origin, rfl, hno⟩
      case destination => exact ⟨destination, rfl, hnd⟩
      all_goals exact absurd hplace (by decide)
    rcases text_reads .stepId stepId with ⟨stepId, hs, rfl⟩ | ⟨x, hs, hfault⟩
    case inr =>
      rw [ho, hd, ht, hs]
      refine .inr ⟨x, rfl, .of_earlier .stepId rfl rfl hfault ?_⟩
      intro earlier hplace
      cases earlier
      case origin => exact ⟨origin, rfl, hno⟩
      case destination => exact ⟨destination, rfl, hnd⟩
      case transactionId => exact ⟨transactionId, rfl, hnt⟩
      case stepId => exact absurd hplace (by decide)
    rw [ho, hd, ht, hs]
    exact .inl ⟨_, rfl, ⟨_, rfl⟩, hno, hnd, hnt, rfl, rfl⟩
  · rename_i hseven
    refine .inr ⟨_, rfl, .count fun hlength => ?_⟩
    match args, hlength with
    | [function, origin, destination, transactionId, stepId, payload, signer], _ =>
      exact hseven function origin destination transactionId stepId payload signer rfl

end Extract

namespace Envelope

variable {e : Envelope} {b : RawBlock}

theorem isInvoke_iff : Extract.isInvoke e = true ↔ e.args[0]? = some (Utf8.encode Contract.invoke) := by
  rw [Extract.isInvoke, beq_iff_eq, function?, List.head?_eq_getElem?]

/-- What reading a transaction that does not call the function tells. -/
theorem request?_of_not_invokes (h : ¬ e.Invokes) : e.request? b = .ok none := by
  unfold request?
  cases htx : e.txHash with
  | none => rfl
  | some txHash =>
    refine if_neg fun hcall => h ?_
    obtain ⟨hhash, hfunction⟩ := Bool.and_eq_true_iff.1 hcall
    exact ⟨⟨txHash, htx, by simpa using hhash⟩, isInvoke_iff.1 hfunction⟩

/-- What reading a transaction that calls the function tells: the request that it holds,
or the first thing that is wrong with it. -/
theorem request?_of_invokes (h : e.Invokes) :
    (∃ q, e.request? b = .ok (some q) ∧ e.Holds b q) ∨
      ∃ x, e.request? b = .error x ∧ Extract.FirstFault e.args x := by
  obtain ⟨⟨txHash, htx, hhash⟩, hfunction⟩ := h
  have hcall : (!txHash.isEmpty && Extract.isInvoke e) = true :=
    Bool.and_eq_true_iff.2 ⟨by simpa using hhash, isInvoke_iff.2 hfunction⟩
  have hread : e.request? b =
      (Extract.request ⟨txHash, b.number, b.hash, e.raw⟩ e.args).map some := by
    unfold request?
    rw [htx]
    exact if_pos hcall
  rw [hread]
  rcases Extract.request_reads ⟨txHash, b.number, b.hash, e.raw⟩ e.args with
    ⟨q, hq, ⟨function, hargs⟩, horigin, hdestination, htransaction, htime, hfound⟩ | ⟨x, hx, hfault⟩
  · refine .inl ⟨q, by rw [hq]; rfl, ?_⟩
    obtain rfl : function = Utf8.encode Contract.invoke := by
      rw [hargs] at hfunction
      exact Option.some.inj hfunction
    exact ⟨hargs, horigin, hdestination, htransaction, htime, by rw [hfound]; exact ⟨htx, hhash⟩,
      by rw [hfound]⟩
  · exact .inr ⟨x, by rw [hx]; rfl, hfault⟩

/-! ## What reading tells -/

theorem request?_eq_request_iff {q : CrossChainRequest} :
    e.request? b = .ok (some q) ↔ e.Holds b q := by
  constructor
  · intro h
    by_cases hinvokes : e.Invokes
    · rcases request?_of_invokes (b := b) hinvokes with ⟨q', hq', hholds⟩ | ⟨x, hx, _⟩
      · obtain rfl : q' = q := Option.some.inj (Except.ok.inj (hq'.symm.trans h))
        exact hholds
      · cases hx.symm.trans h
    · cases (request?_of_not_invokes hinvokes).symm.trans h
  · intro h
    rcases request?_of_invokes (b := b) h.invokes with ⟨q', hq', hholds⟩ | ⟨x, _, hfault⟩
    · rw [hq', hholds.unique h]
    · exact absurd hfault (h.wellFormed.not_firstFault x)

theorem request?_eq_error_iff {x : ExtractError} :
    e.request? b = .error x ↔ e.Invokes ∧ Extract.FirstFault e.args x := by
  constructor
  · intro h
    by_cases hinvokes : e.Invokes
    · rcases request?_of_invokes (b := b) hinvokes with ⟨q, hq, _⟩ | ⟨y, hy, hfault⟩
      · cases hq.symm.trans h
      · obtain rfl := Except.error.inj (hy.symm.trans h)
        exact ⟨hinvokes, hfault⟩
    · cases (request?_of_not_invokes hinvokes).symm.trans h
  · rintro ⟨hinvokes, hfault⟩
    rcases request?_of_invokes (b := b) hinvokes with ⟨q, _, hholds⟩ | ⟨y, hy, hfault'⟩
    · exact absurd hfault (hholds.wellFormed.not_firstFault x)
    · rw [hy, hfault.unique hfault']

theorem request?_eq_none_iff : e.request? b = .ok none ↔ ¬ e.Invokes := by
  refine ⟨fun h hinvokes => ?_, request?_of_not_invokes⟩
  rcases request?_of_invokes (b := b) hinvokes with ⟨q, hq, _⟩ | ⟨x, hx, _⟩
  · cases hq.symm.trans h
  · cases hx.symm.trans h

theorem exists_request_iff :
    (∃ q, e.request? b = .ok (some q)) ↔ e.Invokes ∧ Extract.WellFormed e.args := by
  constructor
  · rintro ⟨q, hq⟩
    have hholds := request?_eq_request_iff.1 hq
    exact ⟨hholds.invokes, hholds.wellFormed⟩
  · rintro ⟨hinvokes, hformed⟩
    rcases request?_of_invokes (b := b) hinvokes with ⟨q, hq, _⟩ | ⟨x, _, hfault⟩
    · exact ⟨q, hq⟩
    · exact absurd hfault (hformed.not_firstFault x)

theorem exists_error_iff :
    (∃ x, e.request? b = .error x) ↔ e.Invokes ∧ ¬ Extract.WellFormed e.args := by
  constructor
  · rintro ⟨x, hx⟩
    obtain ⟨hinvokes, hfault⟩ := request?_eq_error_iff.1 hx
    exact ⟨hinvokes, fun hformed => hformed.not_firstFault x hfault⟩
  · rintro ⟨hinvokes, hformed⟩
    rcases request?_of_invokes (b := b) hinvokes with ⟨q, _, hholds⟩ | ⟨x, hx, _⟩
    · exact absurd hholds.wellFormed hformed
    · exact ⟨x, hx⟩

/-- A transaction is read as a request exactly when it calls the function with arguments
in the form of one, and then as the request that it holds. It is refused exactly when it
calls the function with other arguments, for the first thing that is wrong with them, and
passed over exactly when it does not call the function. -/
theorem request?_follows_grammar (e : Envelope) (b : RawBlock) :
    ((∃ q, e.request? b = .ok (some q)) ↔ e.Invokes ∧ Extract.WellFormed e.args) ∧
      (∀ q, e.request? b = .ok (some q) ↔ e.Holds b q) ∧
      ((∃ x, e.request? b = .error x) ↔ e.Invokes ∧ ¬ Extract.WellFormed e.args) ∧
      (∀ x, e.request? b = .error x ↔ e.Invokes ∧ Extract.FirstFault e.args x) ∧
      (e.request? b = .ok none ↔ ¬ e.Invokes) :=
  ⟨exists_request_iff, fun _ => request?_eq_request_iff, exists_error_iff,
    fun _ => request?_eq_error_iff, request?_eq_none_iff⟩

/-- The first of two faults is told: the origin's name is no text, and the destination's
is empty. -/
example : (invocation "tx" [Utf8.encode Contract.invoke, [0xFF], [], [], [], [], []]).request?
    ⟨1, "", "", "", 0, [], []⟩ = .error (.notText .origin) := by rfl

end Envelope

end RelayHub
