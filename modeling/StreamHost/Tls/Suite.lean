import StreamHost.Text.Blank
import StreamHost.Text.Upper
import StreamHost.Tls.PublicKey

/-!
Protocol versions and cipher suites. A suite belongs to one version; a suite of version 1.2 also asks
for a kind of key. Users name suites by their registered names, in any case and with `-` for `_`.
-/

namespace StreamHost.Tls

inductive Version where
  | v12 | v13
  deriving DecidableEq, Repr

namespace Version

/-- The name under which a session reports its version. -/
def name : Version → String
  | v12 => "TLSv1_2"
  | v13 => "TLSv1_3"

/-- The number on the wire. -/
def code : Version → Nat
  | v12 => 0x0303
  | v13 => 0x0304

def ofCode? (n : Nat) : Option Version :=
  if n = 0x0303 then some v12 else if n = 0x0304 then some v13 else none

end Version

/-- The ciphers that suites use. -/
inductive Cipher where
  | aes256 | aes128 | chacha20
  deriving DecidableEq, Repr

/-- A cipher suite. -/
inductive Suite where
  | v13 (cipher : Cipher)
  | ecdsa (cipher : Cipher)
  | rsa (cipher : Cipher)
  deriving DecidableEq, Repr

namespace Suite

def version : Suite → Version
  | v13 _ => .v13
  | _ => .v12

def cipher : Suite → Cipher
  | v13 c | ecdsa c | rsa c => c

/-- The bytes of the digest that goes with a suite. -/
def digestSize (s : Suite) : Nat := if s.cipher = .aes256 then 48 else 32

/-- The bytes of the proof with which a side ends a handshake. -/
def proofSize (s : Suite) : Nat := if s.version = .v13 then s.digestSize else 12

/-- Whether a key can serve the suite. -/
def fits : Suite → KeyAlgorithm → Bool
  | v13 _, _ => true
  | ecdsa _, k => k != .rsa
  | rsa _, k => k == .rsa

/-- How a cipher is written at the end of a suite's name. -/
def cipherName : Cipher → String
  | .aes256 => "AES_256_GCM_SHA384"
  | .aes128 => "AES_128_GCM_SHA256"
  | .chacha20 => "CHACHA20_POLY1305_SHA256"

/-- The registered name. -/
def registeredName : Suite → String
  | v13 c => "TLS_" ++ cipherName c
  | ecdsa c => "TLS_ECDHE_ECDSA_WITH_" ++ cipherName c
  | rsa c => "TLS_ECDHE_RSA_WITH_" ++ cipherName c

/-- The name under which a session reports its suite: the registered one, with the version marked in
names of version 1.3. -/
def name : Suite → String
  | v13 c => "TLS13_" ++ cipherName c
  | s => s.registeredName

/-- The number on the wire. -/
def code : Suite → Nat
  | v13 .aes128 => 0x1301
  | v13 .aes256 => 0x1302
  | v13 .chacha20 => 0x1303
  | ecdsa .aes256 => 0xc02c
  | ecdsa .aes128 => 0xc02b
  | ecdsa .chacha20 => 0xcca9
  | rsa .aes256 => 0xc030
  | rsa .aes128 => 0xc02f
  | rsa .chacha20 => 0xcca8

/-- All suites, in the order in which they are preferred when none are chosen. -/
def preferred : List Suite :=
  [v13 .aes256, v13 .aes128, v13 .chacha20, ecdsa .aes256, ecdsa .aes128, ecdsa .chacha20,
    rsa .aes256, rsa .aes128, rsa .chacha20]

/-- The suite with a number. -/
def ofCode? (n : Nat) : Option Suite := preferred.find? fun s => s.code == n

/-- A name as it is compared: without white space around it, in upper case, with `_` for `-`. -/
def normalize (name : String) : List Char :=
  (Text.upper (Text.trim name.toList)).map fun c => if c = '-' then '_' else c

/-- The suite that a user names. -/
def ofName? (name : String) : Option Suite :=
  preferred.find? fun s => s.registeredName.toList == normalize name

theorem mem_preferred (s : Suite) : s ∈ preferred := by
  cases s <;> rename_i c <;> cases c <;> decide

end Suite

end StreamHost.Tls
