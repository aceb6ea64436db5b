/-
Where a configuration comes from: a text, a file, or the file that the
environment names.

A configuration is checked as soon as it has been read. The environment may
then put another address to listen on and another directory for the stores in
place of the configured ones, and the address is checked once more.
-/
import RelayHub.Config.Validate

set_option autoImplicit false

namespace RelayHub

/-- What the environment may say: where the configuration is, and what to use
in its place. -/
structure Environment where
  config : Option String
  listen : Option String
  storePath : Option String
deriving DecidableEq, Repr

namespace Environment

/-- The variable for the path of the configuration. -/
def configName : String := "CHAIN_HUB_CONFIG"

/-- The variable for the address to listen on. -/
def listenName : String := "CHAIN_HUB_LISTEN"

/-- The variable for the directory of the stores. -/
def storePathName : String := "CHAIN_HUB_DB_PATH"

/-- The path of the configuration if the environment names none. -/
def defaultConfig : String := "./config.toml"

/-- The path of the configuration. -/
def configPath (env : Environment) : String :=
  env.config.getD defaultConfig

end Environment

namespace HubConfig

/-- Reads and checks a configuration. -/
def ofText (text : String) : Except ConfigError HubConfig := do
  match (Toml.ofString text).bind ofToml with
  | none => throw .malformed
  | some c =>
    c.validate
    return c

/-- Reads and checks the configuration in a file. -/
def load (files : TextFiles) (path : String) : Except ConfigError HubConfig :=
  match files (Path.ofString path) with
  | .error e => .error (.unreadable path e)
  | .ok text => ofText text

/-- What stands in place of a configured text: another one, unless that is
empty. -/
def overriding (other : Option String) (configured : String) : String :=
  match other with
  | some text => if text.isEmpty then configured else text
  | none => configured

/-- Puts another address and another directory in place of the configured
ones. -/
def withOverrides (c : HubConfig) (listen storePath : Option String) : HubConfig :=
  { c with
    listen := overriding listen c.listen
    storePath := overriding storePath c.storePath }

/-- The configuration that the environment asks for. -/
def ofEnvironment (files : TextFiles) (env : Environment) : Except ConfigError HubConfig := do
  let c ← load files env.configPath
  let c := c.withOverrides env.listen env.storePath
  let _ ← c.listenAddress
  return c

end HubConfig

end RelayHub
