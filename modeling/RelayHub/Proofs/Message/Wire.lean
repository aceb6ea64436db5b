/-
Everything that hubs and ledgers exchange as JSON is read back.

A message is a record of texts, byte strings, numbers and other messages, and
its codec says which of them may be null, may be missing or are left out. What
could go wrong is a field that is written one way and read another: nothing
where there was an empty byte string, a default where there was a value, the
value of another field. So for each message there are two facts, that its
fields are faithful and that they are texts, and both are put together from
those of the shapes.
-/
import RelayHub.Hub.Error
import RelayHub.Message.Request
import RelayHub.Proofs.Json.Written
import RelayHub.Proofs.Message.Contract
import RelayHub.Store.Record

set_option autoImplicit false

namespace RelayHub

open Json Codec Fields

/-! ## Names -/

theorem ChainId.codec_faithful : ChainId.codec.Faithful :=
  text_faithful.imap fun _ => rfl

theorem ChainId.codec_textual : ChainId.codec.Textual :=
  text_textual.imap _ _

/-- Each status is found under its own name. -/
theorem HubStatus.codec_faithful : HubStatus.codec.Faithful :=
  choice_faithful fun s => by cases s <;> rfl

/-! ## Requests -/

theorem TxOrigin.codec_faithful : TxOrigin.codec.Faithful :=
  record_faithful _
    (.required text_faithful (by decide) <|
     .required (word_faithful _) (by decide) <|
     .required text_faithful (by decide) <|
     .required hex_faithful (by decide) .none)
    fun _ => rfl

theorem TxOrigin.codec_textual : TxOrigin.codec.Textual :=
  record_textual
    ⟨text_textual, (whole_textual _ _ _).imap _ _, text_textual, hex_textual, trivial⟩

theorem CrossChainRequest.codec_faithful : CrossChainRequest.codec.Faithful :=
  record_faithful _
    (.required ChainId.codec_faithful (by decide) <|
     .required ChainId.codec_faithful (by decide) <|
     .required text_faithful (by decide) <|
     .required text_faithful (by decide) <|
     .required hex_faithful (by decide) <|
     .required hex_faithful (by decide) <|
     .required i64_faithful (by decide) <|
     .required TxOrigin.codec_faithful (by decide) .none)
    fun _ => rfl

theorem CrossChainRequest.codec_textual : CrossChainRequest.codec.Textual :=
  record_textual
    ⟨ChainId.codec_textual, ChainId.codec_textual, text_textual, text_textual, hex_textual,
      hex_textual, (whole_textual _ _ _).imap _ _, TxOrigin.codec_textual, trivial⟩

/-! ## Messages between hubs -/

theorem HubRequest.codec_faithful : HubRequest.codec.Faithful :=
  record_faithful _
    (.required ChainId.codec_faithful (by decide) <|
     .required ChainId.codec_faithful (by decide) <|
     .required text_faithful (by decide) <|
     .required text_faithful (by decide) <|
     .required hex_faithful (by decide) <|
     .defaulted hex_faithful (by decide) <|
     .defaulted i64_faithful (by decide) .none)
    fun _ => rfl

theorem HubRequest.codec_textual : HubRequest.codec.Textual :=
  record_textual
    ⟨ChainId.codec_textual, ChainId.codec_textual, text_textual, text_textual, hex_textual,
      hex_textual, (whole_textual _ _ _).imap _ _, trivial⟩

/-- An empty callback is written as empty text, and none as null. -/
theorem HubResponse.codec_faithful : HubResponse.codec.Faithful :=
  record_faithful _
    (.required ChainId.codec_faithful (by decide) <|
     .required ChainId.codec_faithful (by decide) <|
     .required text_faithful (by decide) <|
     .required text_faithful (by decide) <|
     .required hex_faithful (by decide) <|
     .required hex_faithful (by decide) <|
     .defaulted text_faithful (by decide) <|
     .optional hex_faithful hex_neverNull (by decide) .none)
    fun _ => rfl

theorem HubResponse.codec_textual : HubResponse.codec.Textual :=
  record_textual
    ⟨ChainId.codec_textual, ChainId.codec_textual, text_textual, text_textual, hex_textual,
      hex_textual, text_textual, hex_textual.optional, trivial⟩

theorem HubError.codec_faithful : HubError.codec.Faithful :=
  record_faithful _
    (.required HubStatus.codec_faithful (by decide) <|
     .required text_faithful (by decide) .none)
    fun _ => rfl

theorem HubError.codec_textual : HubError.codec.Textual :=
  record_textual ⟨choice_textual _ _, text_textual, trivial⟩

/-! ## Contract calls -/

theorem ContractResponse.codec_textual : ContractResponse.codec.Textual :=
  record_textual ⟨(whole_textual _ _ _).imap _ _, text_textual, hex_textual, trivial⟩

theorem CallbackDescriptor.codec_textual : CallbackDescriptor.codec.Textual :=
  record_textual ⟨text_textual, text_textual, text_textual.list, trivial⟩

theorem InvokePayload.codec_textual : InvokePayload.codec.Textual :=
  record_textual
    ⟨text_textual.optional, text_textual, text_textual, text_textual.list,
      CallbackDescriptor.codec_textual.optional, trivial⟩

/-! ## Blocks -/

theorem Envelope.codec_faithful : Envelope.codec.Faithful :=
  record_faithful _
    (.optional text_faithful text_neverNull (by decide) <|
     .defaulted (list_faithful hex_faithful) (by decide) <|
     .defaulted hex_faithful (by decide) .none)
    fun _ => rfl

theorem Envelope.codec_textual : Envelope.codec.Textual :=
  record_textual ⟨text_textual.optional, hex_textual.list, hex_textual, trivial⟩

theorem RawBlock.codec_faithful : RawBlock.codec.Faithful :=
  record_faithful _
    (.required (word_faithful _) (by decide) <|
     .required text_faithful (by decide) <|
     .required text_faithful (by decide) <|
     .required text_faithful (by decide) <|
     .required i64_faithful (by decide) <|
     .defaulted (list_faithful Envelope.codec_faithful) (by decide) <|
     .defaulted hex_faithful (by decide) .none)
    fun _ => rfl

theorem RawBlock.codec_textual : RawBlock.codec.Textual :=
  record_textual
    ⟨(whole_textual _ _ _).imap _ _, text_textual, text_textual, text_textual,
      (whole_textual _ _ _).imap _ _, Envelope.codec_textual.list, hex_textual, trivial⟩

theorem StoredBlock.codec_faithful : StoredBlock.codec.Faithful :=
  record_faithful _
    (.required ChainId.codec_faithful (by decide) <|
     .required (word_faithful _) (by decide) <|
     .required text_faithful (by decide) <|
     .required text_faithful (by decide) <|
     .required text_faithful (by decide) <|
     .required i64_faithful (by decide) <|
     .required (word_faithful _) (by decide) <|
     .required hex_faithful (by decide) <|
     .nullable text_faithful text_neverNull (by decide) .none)
    fun _ => rfl

theorem StoredBlock.codec_textual : StoredBlock.codec.Textual :=
  record_textual
    ⟨ChainId.codec_textual, (whole_textual _ _ _).imap _ _, text_textual, text_textual,
      text_textual, (whole_textual _ _ _).imap _ _, (whole_textual _ _ _).imap _ _, hex_textual,
      text_textual.optional, trivial⟩

/-! ## All of them -/

/-- A codec that reads back every value, from its bytes and from its text. -/
def Json.Codec.ReadsBack {α : Type} (c : Codec α) : Prop :=
  ∀ v, c.decode (c.write v) = .ok v ∧ c.decodeText (c.encodeText v) = .ok v

theorem Json.Codec.Faithful.readsBack {α : Type} {c : Codec α} (h : c.Faithful) (htext : c.Textual) :
    c.ReadsBack :=
  fun v => ⟨h.decode_write v, h.decodeText_encodeText htext v⟩

/-- Reading undoes writing for every message, payload and block. -/
theorem wire_formats_read_back :
    HubRequest.codec.ReadsBack ∧ HubResponse.codec.ReadsBack ∧ CrossChainRequest.codec.ReadsBack ∧
      TxOrigin.codec.ReadsBack ∧ InvokePayload.codec.ReadsBack ∧
      CallbackDescriptor.codec.ReadsBack ∧ ContractResponse.codec.ReadsBack ∧
      Envelope.codec.ReadsBack ∧ RawBlock.codec.ReadsBack ∧ HubError.codec.ReadsBack ∧
      StoredBlock.codec.ReadsBack :=
  ⟨HubRequest.codec_faithful.readsBack HubRequest.codec_textual,
   HubResponse.codec_faithful.readsBack HubResponse.codec_textual,
   CrossChainRequest.codec_faithful.readsBack CrossChainRequest.codec_textual,
   TxOrigin.codec_faithful.readsBack TxOrigin.codec_textual,
   InvokePayload.codec_faithful.readsBack InvokePayload.codec_textual,
   CallbackDescriptor.codec_faithful.readsBack CallbackDescriptor.codec_textual,
   ContractResponse.codec_faithful.readsBack ContractResponse.codec_textual,
   Envelope.codec_faithful.readsBack Envelope.codec_textual,
   RawBlock.codec_faithful.readsBack RawBlock.codec_textual,
   HubError.codec_faithful.readsBack HubError.codec_textual,
   StoredBlock.codec_faithful.readsBack StoredBlock.codec_textual⟩

end RelayHub
