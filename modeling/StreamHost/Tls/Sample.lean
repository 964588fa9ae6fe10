import StreamHost.Tls.Issuance

/-!
Sample identities: certificates with their keys, of every kind that the library reads. All but one are
signed by themselves; `leaf` is signed by `ca`. What goes by the name `garbage` is neither a certificate
nor a key.
-/

namespace StreamHost.Tls.Sample

/-- What is no certificate and no key. -/
def garbage : String := "garbage"

/-- The kind of key of a sample. -/
def kind (name : String) : KeyKind :=
  if name = "p384" then .curve .p384
  else if name = "rsa" then .rsa
  else if name = "ed" then .ed25519
  else .curve .p256

/-- What a sample is made out for. Those with a key of a special kind have one name only, and are
authorities. -/
def issuance (name : String) : Issuance where
  subject := name
  kind := kind name
  isAuthority := name = "ca" || kind name ≠ .curve .p256
  dnsNames := (name ++ ".test.com") ::
    if name = "leaf" then ["*.leaf.test.com"]
    else if kind name = .curve .p256 then [name]
    else []
  ipAddresses := if name = "leaf" then [[127, 0, 0, 1]] else []

/-- Who signs the certificate of a sample. -/
def issuer (name : String) : Issuance := issuance (if name = "leaf" then "ca" else name)

/-- A certificate with its key. -/
structure Identity where
  certificate : Bytes
  privateKey : PrivateKey

/-- The sample with a name. -/
def identity (name : String) : Identity :=
  if name = garbage then ⟨.ofText garbage, ⟨.pkcs8, .ofText garbage⟩⟩
  else ⟨(issuance name).certificate (issuer name), (issuance name).privateKey⟩

/-- All samples by name. -/
def all : List (String × Identity) :=
  ["alpha", "beta", "gamma", "delta", "p384", "rsa", "ed", "ca", "leaf", garbage].map fun name =>
    (name, identity name)

def certificate (name : String) : Bytes :=
  ((all.lookup name).map Identity.certificate).getD []

def privateKey (name : String) : PrivateKey :=
  ((all.lookup name).map Identity.privateKey).getD ⟨.pkcs8, []⟩

/-- The name of the sample with a certificate. -/
def nameOf? (der : Bytes) : Option String :=
  (all.find? fun s => s.2.certificate == der).map Prod.fst

end StreamHost.Tls.Sample
