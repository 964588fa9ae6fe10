import StreamHost.Program.Probe
import StreamHost.Program.Serve

/-!
The command line. Its first word chooses what is done on a host of its own:

* `serve WORDS` runs the serving program; the lines of the input are the requests, and the replies follow
  the log;
* `probe WORDS` runs the probing program where nobody listens;
* `meet CONFIG WORDS` runs it where a server runs with the settings of a file.

The files that words and settings name are read from the disk. All else happens within the host.
-/

namespace StreamHost.Program.Command

/-- The files that settings name. -/
def paths (c : Config.Server) : List String :=
  match c.tls with
  | none => []
  | some t => [t.certPath, t.keyPath] ++ t.sni.flatMap fun e => [e.certPath, e.keyPath]

/-- The host in which a server runs, if it starts. -/
def hosting (files : Files) (c : Config.Server) : Host :=
  match Serve.start files c with
  | (_, .ok h) => h
  | _ => { shared := { network := { files } } }

/-! ## Files -/

/-- Adds files of the disk, those that can be read. -/
def fetch (files : Files) (paths : List String) : IO Files :=
  paths.foldlM (fun files (path : String) => do
    match ← (IO.FS.readBinFile path).toBaseIO with
    | .ok content => return files.add path (.file content.toList)
    | .error _ => return files) files

/-- A settings file and the files that its settings name. -/
def fetchSettings (path : Option String) : IO Files := do
  let files ← fetch {} path.toList
  match path.map (Config.load files) with
  | some (.ok c) => fetch files (paths c)
  | _ => return files

/-! ## Programs -/

/-- Prints how a program ended. -/
def finish (exit : Nat) (failure : Option Failure) : IO UInt32 := do
  failure.forM fun f => IO.eprintln f.text
  return exit.toUInt32

def serve (words : List String) : IO UInt32 := do
  let config := match Serve.Arguments.read words with
    | .ok a => a.config
    | .error _ => none
  let files ← fetchSettings config
  let socket := match config.map (Config.load files) with
    | some (.ok c) => c.listener.unixPath.getD ""
    | _ => ""
  let requests ← (← IO.getStdin).lines
  let r := Serve.run { files, filter := ← IO.getEnv "RUST_LOG" } words socket "SIGTERM"
    (requests.toList.map Bytes.ofText)
  r.printed.forM IO.println
  r.lines.forM fun l => IO.println (l.text r.format)
  r.replies.forM fun b => IO.println (Text.decodeLossy b)
  finish r.exit r.failure

/-- A probe of a host, to which the trusted certificates are added. -/
def probe (h : Host) (words : List String) : IO UInt32 := do
  let trusted := match Probe.Request.read words with
    | .run s _ => s.ca.toList
    | _ => []
  let files ← fetch h.shared.network.files trusted
  let r := Probe.run
    { h with shared := { h.shared with network := { h.shared.network with files } } } words
  r.printed.forM IO.println
  finish r.exit r.failure

end StreamHost.Program.Command

open StreamHost Program Command

def main : List String → IO UInt32
  | "serve" :: words => serve words
  | "probe" :: words => probe {} words
  | "meet" :: config :: words => do
    let files ← fetchSettings (some config)
    match Config.load files config with
    | .ok c => probe (hosting files c) words
    | .error e => finish Exit.failure (some (.settings e))
  | _ => return Exit.misuse.toUInt32
