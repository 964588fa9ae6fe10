import StreamHost.Error
import StreamHost.Files
import StreamHost.Pem.Section
import StreamHost.Tls.Certificate
import StreamHost.Tls.PrivateKey

/-!
Loading certificates and keys from files. Every failure is one of configuration and names the file.
-/

namespace StreamHost.Pem

/-- The bytes of a file that must be there. -/
def openFile (files : Files) (what path : String) : Except Error Bytes :=
  if files.exists path then
    match files.read path with
    | .ok content => .ok content
    | .error e => .error (.configuration (path ++ ": " ++ e.message))
  else .error (.configuration (what ++ " file not found: " ++ path))

/-- The sections of a file. -/
def sectionsOf (path : String) (content : Bytes) : Except Error (List Section) :=
  match sections content with
  | .ok ss => .ok ss
  | .error e => .error (.configuration (path ++ ": " ++ e.text))

/-- All certificates in a file, at least one. -/
def loadCertificates (files : Files) (path : String) : Except Error (List Bytes) := do
  let content ← openFile files "Certificate" path
  let ss ← sectionsOf path content
  match (ss.filter (·.kind = .certificate)).map (·.der) with
  | [] => .error (.configuration (path ++ ": no certificates found in file"))
  | certs => .ok certs

/-- The private key in a section. -/
def Section.key? (s : Section) : Option Tls.PrivateKey :=
  match s.kind with
  | .privateKey => some ⟨.pkcs8, s.der⟩
  | .rsaPrivateKey => some ⟨.pkcs1, s.der⟩
  | .ecPrivateKey => some ⟨.sec1, s.der⟩
  | _ => none

/-- The first private key in a file. -/
def loadPrivateKey (files : Files) (path : String) : Except Error Tls.PrivateKey := do
  let content ← openFile files "Private key" path
  match firstOfLines Section.key? (lines content) with
  | .error e => .error (.configuration (path ++ ": " ++ e.text))
  | .ok none => .error (.configuration (path ++ ": no private key found in file"))
  | .ok (some key) => .ok key

/-- Certificates and the key for them; the certificates are loaded first. -/
def loadPair (files : Files) (certPath keyPath : String) :
    Except Error (List Bytes × Tls.PrivateKey) := do
  let certs ← loadCertificates files certPath
  let key ← loadPrivateKey files keyPath
  return (certs, key)

/-- Certificates that are trusted as issuers; each must be readable. -/
def loadRoots (files : Files) (path : String) : Except Error (List Tls.Certificate) := do
  let certs ← loadCertificates files path
  certs.mapM fun der =>
    (Tls.Certificate.ofTrustedDer der).mapError fun flaw =>
      .configuration ("invalid CA certificate: invalid peer certificate: " ++ flaw.name)

end StreamHost.Pem
