/-
What is said to contracts, and what they answer, is read back from its JSON.
-/
import RelayHub.Message.Contract
import RelayHub.Proofs.Json.Record

set_option autoImplicit false

namespace RelayHub

open Json Codec Fields

/-- A contract's answer is read back. -/
theorem ContractResponse.codec_faithful : ContractResponse.codec.Faithful :=
  record_faithful _
    (.required i32_faithful (by decide) <|
     .defaulted text_faithful (by decide) <|
     .defaulted hex_faithful (by decide) .none)
    fun _ => rfl

/-- A callback is read back. -/
theorem CallbackDescriptor.codec_faithful : CallbackDescriptor.codec.Faithful :=
  record_faithful _
    (.required text_faithful (by decide) <|
     .required text_faithful (by decide) <|
     .defaulted (list_faithful text_faithful) (by decide) .none)
    fun _ => rfl

/-- A payload is read back. -/
theorem InvokePayload.codec_faithful : InvokePayload.codec.Faithful :=
  record_faithful _
    (.hidden text_faithful text_neverNull (by decide) <|
     .required text_faithful (by decide) <|
     .required text_faithful (by decide) <|
     .defaulted (list_faithful text_faithful) (by decide) <|
     .hidden CallbackDescriptor.codec_faithful (record_neverNull _ _ _ _) (by decide) .none)
    fun _ => rfl

/-- A payload is read back from its bytes. -/
theorem InvokePayload.decode_encode (p : InvokePayload) :
    InvokePayload.decode p.encode = .ok p :=
  InvokePayload.codec_faithful.decode_write p

end RelayHub
