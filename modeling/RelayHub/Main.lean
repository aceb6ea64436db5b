/-
The program: loads the configuration that the environment asks for, wires the
hub up, and tells what it knows.

Everything it decides is decided by the other modules. Here the files that they
may ask for are read, and the outcome is printed.
-/
import RelayHub.Http.HubServer
import RelayHub.Node.Start

set_option autoImplicit false

namespace RelayHub.Program

/-- The error of a file, from the one that the system reports. -/
def fileError (e : IO.Error) : FileError :=
  match e with
  | .noFileOrDirectory _ _ _ => .notFound
  | .permissionDenied _ _ _ => .denied
  | .alreadyExists _ _ _ => .alreadyExists
  | e => .other (toString e)

/-- Reads a file as text. -/
def readText (path : String) : IO (Except FileError String) := do
  try
    let bytes ← IO.FS.readBinFile path
    match Utf8.decode? bytes.toList with
    | some text => return .ok text
    | none => return .error .notText
  catch e => return .error (fileError e)

/-- The files at some paths. -/
def readAll (paths : List String) : IO TextFiles := do
  let found ← paths.mapM fun path => do return (path, ← readText path)
  return fun path => (found.lookup path.text).getD (.error .notFound)

/-- What the environment says. -/
def environment : IO Environment := do
  return {
    config := ← IO.getEnv Environment.configName
    listen := ← IO.getEnv Environment.listenName
    storePath := ← IO.getEnv Environment.storePathName }

/-- The files that may hold the keys of a configuration. -/
def keyFiles (c : HubConfig) : List String :=
  (c.locals.map LocalNamespace.key ++ c.remotes.map RemoteNamespace.key).map fun source =>
    Blank.trim source.material

/-- What is said of a configuration. -/
def summary (c : HubConfig) : String :=
  "listen=" ++ c.listen ++ " db_path=" ++ c.storePath ++ " local=" ++ toString c.locals.length ++
    " remote=" ++ toString c.remotes.length

/-- What is said of a chain. -/
def chainLine (n : HubNode) (chain : ChainId) : String :=
  if n.registry.isLocal chain then chain.name ++ ": local, store " ++ n.storeFile chain
  else
    match n.registry.remote? chain with
    | some r => chain.name ++ ": remote, hub " ++ r.hub ++ " at " ++ HubAddress.invoke r.endpoint
    | none => chain.name

/-- Reports an error, and that the program has failed. -/
def failWith (sentences : List String) : IO UInt32 := do
  IO.eprintln ("Error: " ++ String.intercalate ": " sentences)
  return 1

/-- Runs the program. -/
def run : IO UInt32 := do
  let env ← environment
  match HubConfig.ofEnvironment (← readAll [env.configPath]) env with
  | .error e => failWith ("failed to load configuration" :: e.sentences)
  | .ok c =>
    IO.println ("[hub] Configuration loaded " ++ summary c)
    match HubNode.ofConfig .standard (← readAll (keyFiles c)) c with
    | .error e => failWith e.sentences
    | .ok n =>
      for chain in n.registry.chains do
        IO.println ("[hub] " ++ chainLine n chain)
      return 0

end RelayHub.Program

/-- Runs the program. -/
def main : IO UInt32 :=
  RelayHub.Program.run
