/-
What a block store keeps its records in.

A backend holds byte strings under byte-string keys. It writes one entry or
several at once, and a write that fails leaves what it holds as it was.
-/
import RelayHub.Action
import RelayHub.Bytes

set_option autoImplicit false

namespace RelayHub

/-- Why a backend fails. -/
inductive BackendError where
  | io (message : String)
  | corruption (message : String)
deriving DecidableEq, Repr

/-- The sentence for a failure. -/
def BackendError.message : BackendError → String
  | .io m => "KV store I/O error: " ++ m
  | .corruption m => "KV store corruption: " ++ m

/-- Keeps byte strings under keys, in a state of type `σ`. -/
structure Backend (σ : Type) where
  get : Bytes → Action σ BackendError (Option Bytes)
  has : Bytes → Action σ BackendError Bool
  put : Bytes → Bytes → Action σ BackendError Unit
  putAll : List (Bytes × Bytes) → Action σ BackendError Unit

/-- The same backend, kept in a part of a larger state. -/
def Backend.within {σ τ : Type} (p : Part σ τ) (b : Backend τ) : Backend σ where
  get key := (b.get key).within p
  has key := (b.has key).within p
  put key value := (b.put key value).within p
  putAll entries := (b.putAll entries).within p

end RelayHub
