/-
Simple chaincode, described as data: it answers with its own call, with a fixed
payload, with a refusal, with nothing, or with one of several of these by the
name of the function called.
-/
import RelayHub.Ledger.Contracts

set_option autoImplicit false

namespace RelayHub.Lab

/-- A description of chaincode. -/
inductive Handler where
  | silent
  | echo
  | fixed (payload : Bytes)
  | refuse (message : String)
  | select (function : String) (matching otherwise : Handler)
deriving DecidableEq, Repr

/-- What the described chaincode does. -/
def Handler.run : Handler → Chaincode
  | silent, _, _ => .ok []
  | echo, function, args =>
    .ok (Utf8.encode (function ++ "(" ++ String.intercalate "," args ++ ")"))
  | fixed payload, _, _ => .ok payload
  | refuse message, _, _ => .error message
  | select name matching otherwise, function, args =>
    if function = name then matching.run function args else otherwise.run function args

end RelayHub.Lab
