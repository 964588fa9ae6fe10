import StreamHost.Tls.ClientHello

/-!
The messages of a handshake. A message has a number, a length and a body. `Handshake` is what a side reads
from one: of the body only what a handshake agrees on, but a body that is malformed is refused. How
messages lie one behind the other in a stretch of bytes is told by `Handshake.cut`, `Handshake.isAligned` and
`Handshake.hasLong`.
-/

namespace StreamHost.Tls

/-- The kinds of messages that have a name. -/
inductive MessageKind where
  | helloRequest | clientHello | serverHello | helloVerifyRequest | ticket | endOfEarlyData
  | helloRetryRequest | encryptedExtensions | certificate | serverKeyExchange | certificateRequest
  | serverHelloDone | certificateVerify | clientKeyExchange | finished | certificateUrl
  | certificateStatus | keyUpdate | compressedCertificate | messageHash
  deriving DecidableEq, Repr

namespace MessageKind

/-- The number on the wire. -/
def code : MessageKind → UInt8
  | helloRequest => 0
  | clientHello => 1
  | serverHello => 2
  | helloVerifyRequest => 3
  | ticket => 4
  | endOfEarlyData => 5
  | helloRetryRequest => 6
  | encryptedExtensions => 8
  | certificate => 11
  | serverKeyExchange => 12
  | certificateRequest => 13
  | serverHelloDone => 14
  | certificateVerify => 15
  | clientKeyExchange => 16
  | finished => 20
  | certificateUrl => 21
  | certificateStatus => 22
  | keyUpdate => 24
  | compressedCertificate => 25
  | messageHash => 254

def name : MessageKind → String
  | helloRequest => "HelloRequest"
  | clientHello => "ClientHello"
  | serverHello => "ServerHello"
  | helloVerifyRequest => "HelloVerifyRequest"
  | ticket => "NewSessionTicket"
  | endOfEarlyData => "EndOfEarlyData"
  | helloRetryRequest => "HelloRetryRequest"
  | encryptedExtensions => "EncryptedExtensions"
  | certificate => "Certificate"
  | serverKeyExchange => "ServerKeyExchange"
  | certificateRequest => "CertificateRequest"
  | serverHelloDone => "ServerHelloDone"
  | certificateVerify => "CertificateVerify"
  | clientKeyExchange => "ClientKeyExchange"
  | finished => "Finished"
  | certificateUrl => "CertificateURL"
  | certificateStatus => "CertificateStatus"
  | keyUpdate => "KeyUpdate"
  | compressedCertificate => "CompressedCertificate"
  | messageHash => "MessageHash"

def all : List MessageKind :=
  [helloRequest, clientHello, serverHello, helloVerifyRequest, ticket, endOfEarlyData,
    helloRetryRequest, encryptedExtensions, certificate, serverKeyExchange, certificateRequest,
    serverHelloDone, certificateVerify, clientKeyExchange, finished, certificateUrl, certificateStatus,
    keyUpdate, compressedCertificate, messageHash]

/-- The kind with a number. -/
def ofCode? (n : UInt8) : Option MessageKind := all.find? fun k => k.code == n

theorem mem_all (k : MessageKind) : k ∈ all := by cases k <;> decide

theorem ofCode?_code (k : MessageKind) : ofCode? k.code = some k := by cases k <;> decide

/-- A message of some kind as it is sent. -/
def frame (k : MessageKind) (body : Bytes) : Bytes := k.code :: Wire.sized 3 body

end MessageKind

/-- Extensions behind their common length, as they were sent. None may come twice. -/
def Extension.list? (bs : Bytes) : Option (List (Nat × Bytes)) :=
  (Wire.only? (Wire.list? 2 Extension.read?) bs).filter fun es =>
    decide (es.map Prod.fst).Nodup

/-- The answer of a server to the opening message. -/
structure ServerHello where
  random : Bytes
  sessionId : Bytes
  suite : Nat
  extensions : List (Nat × Bytes)
  deriving DecidableEq, Repr

namespace ServerHello

/-- The value that stands in the place of randomness when a client is asked to try again. -/
def retryRandom : Bytes :=
  [0xcf, 0x21, 0xad, 0x74, 0xe5, 0x9a, 0x61, 0x11, 0xbe, 0x1d, 0x8c, 0x02, 0x1e, 0x65, 0xb8, 0x91,
    0xc2, 0xa2, 0x11, 0x16, 0x7a, 0xbb, 0x8c, 0x5e, 0x07, 0x9e, 0x09, 0xe2, 0xc8, 0xa8, 0x33, 0x9c]

/-- Whether the client is asked to try again. -/
def isRetry (h : ServerHello) : Bool := h.random == retryRandom

/-- What a server of this library draws for its message. -/
def drawn : Bytes := List.replicate 32 1

/-- The message as it is sent. -/
def message (random sessionId : Bytes) (suite : Suite) (es : List (Extension × Bytes)) : Bytes :=
  MessageKind.serverHello.frame (Bytes.ofNat 2 Version.v12.code ++ random ++ Wire.sized 1 sessionId ++
    Bytes.ofNat 2 suite.code ++ [ClientHello.noCompression] ++ Extension.encode es)

/-- Reads the message. Extensions may be missing altogether. -/
def read? (bs : Bytes) : Option ServerHello := do
  let (_, bs) ← Wire.number? 2 bs
  let (random, bs) ← Wire.take? 32 bs
  let (sessionId, bs) ← Wire.sized? 1 bs
  let (suite, bs) ← Wire.number? 2 bs
  let (_, bs) ← Wire.number? 1 bs
  let extensions ← if bs = [] then some [] else Extension.list? bs
  if 32 < sessionId.length then none else return { random, sessionId, suite, extensions }

/-- The version that is chosen. -/
def version (h : ServerHello) : Version :=
  if h.extensions.lookup Extension.versions.code = some (Bytes.ofNat 2 Version.v13.code) then .v13
  else .v12

/-- The key that is enclosed. -/
def share? (h : ServerHello) : Option Share :=
  (h.extensions.lookup Extension.shares.code).bind (Wire.only? Share.read?)

end ServerHello

/-- The extension that names a chosen protocol. -/
def Extension.ofProtocol (p : Option Bytes) : List (Extension × Bytes) :=
  p.toList.map fun n => (.protocols, Wire.sized 2 (Wire.sized 1 n))

/-- The protocol that extensions name. -/
def Extension.protocol? (es : List (Nat × Bytes)) : Option Bytes := do
  Wire.only? (Wire.sized? 1) (← Wire.only? (Wire.sized? 2) (← es.lookup Extension.protocols.code))

/-- What a side reads from a message. -/
inductive Handshake where
  | clientHello (offer : Offer)
  | serverHello (hello : ServerHello)
  | encryptedExtensions (protocol : Option Bytes)
  | certificate (chain : List Bytes)
  | serverKeyExchange (body : Bytes)
  | clientKeyExchange (body : Bytes)
  | finished (proof : Bytes)
  /-- A message of which only the kind counts. -/
  | other (code : UInt8)
  deriving DecidableEq, Repr

namespace Handshake

/-- The number of a message. -/
def code : Handshake → UInt8
  | clientHello _ => MessageKind.clientHello.code
  | serverHello h =>
    if h.isRetry then MessageKind.helloRetryRequest.code else MessageKind.serverHello.code
  | encryptedExtensions _ => MessageKind.encryptedExtensions.code
  | certificate _ => MessageKind.certificate.code
  | serverKeyExchange _ => MessageKind.serverKeyExchange.code
  | clientKeyExchange _ => MessageKind.clientKeyExchange.code
  | finished _ => MessageKind.finished.code
  | other n => n

/-- The name of a message; a number without one is shown as it is. -/
def name (m : Handshake) : String :=
  ((MessageKind.ofCode? m.code).map MessageKind.name).getD (unnamed "HandshakeType" m.code)

/-! ## Sending -/

/-- The body of a message whose content plays no part. -/
def filler : Bytes := List.replicate 32 0

/-- A signature, behind the number of its scheme. -/
def signature (scheme size : Nat) : Bytes :=
  Bytes.ofNat 2 scheme ++ Wire.sized 2 (List.replicate size 0)

/-- A chain of certificates. In version 1.3 each has extensions, of which there are none here. -/
def certificateMessage (v : Version) (chain : List Bytes) : Bytes :=
  MessageKind.certificate.frame (match v with
    | .v12 => Wire.sized 3 (chain.flatMap (Wire.sized 3))
    | .v13 => Wire.sized 1 [] ++ Wire.sized 3 (chain.flatMap fun c => Wire.sized 3 c ++ Wire.sized 2 []))

/-- The kind of curve that an exchange names before its group. -/
def namedCurve : UInt8 := 3

/-- The signed key of a server in version 1.2. -/
def serverKeyMessage (g : Group) (scheme size : Nat) : Bytes :=
  MessageKind.serverKeyExchange.frame
    (namedCurve :: Bytes.ofNat 2 g.code ++ Wire.sized 1 g.share ++ signature scheme size)

/-- The key that a server signed. -/
def serverKey? : Bytes → Option Share
  | [] => none
  | _ :: bs => do
    let (group, bs) ← Wire.number? 2 bs
    let (point, _) ← Wire.sized? 1 bs
    return ⟨group, point⟩

/-- The key of a client in version 1.2. -/
def clientKeyMessage (point : Bytes) : Bytes :=
  MessageKind.clientKeyExchange.frame (Wire.sized 1 point)

/-! ## Reading -/

/-- Whether the body of a message fits its kind; `modern` tells that it came protected in version 1.3. Kinds
that are not listed have bodies of any form. -/
def isWellFormed (modern : Bool) (k : MessageKind) (body : Bytes) : Bool :=
  let whole {α : Type} (read : Bytes → Option (α × Bytes)) : Bool := (Wire.only? read body).isSome
  match k with
  | .serverHelloDone | .endOfEarlyData => body.isEmpty
  | .helloRetryRequest | .messageHash => false
  | .certificateVerify => whole fun bs => (Wire.number? 2 bs).bind fun r => Wire.sized? 2 r.2
  | .keyUpdate => body.length == 1
  | .certificateStatus => whole fun bs =>
      (Wire.number? 1 bs).bind fun r => if r.1 = 1 then Wire.sized? 3 r.2 else none
  | .compressedCertificate => whole fun bs => (Wire.take? 5 bs).bind fun r => Wire.sized? 3 r.2
  | .ticket => modern || whole fun bs => (Wire.take? 4 bs).bind fun r => Wire.sized? 2 r.2
  | .certificateRequest => modern || whole fun bs => do
      let (_, bs) ← Wire.filled? 1 bs
      let (_, bs) ← Wire.some? 2 (Wire.number? 2) bs
      Wire.list? 2 (Wire.filled? 2) bs
  | _ => true

/-- The chain in a message. -/
def chain? (modern : Bool) (body : Bytes) : Option (List Bytes) :=
  if modern then
    Wire.only? (fun bs => (Wire.sized? 1 bs).bind fun r => Wire.list? 3 (fun bs => do
      let (der, bs) ← Wire.sized? 3 bs
      let (_, bs) ← Wire.sized? 2 bs
      return (der, bs)) r.2) body
  else Wire.only? (Wire.list? 3 (Wire.sized? 3)) body

/-- Reads the message with a number and a body; `modern` tells that it came protected in version 1.3. -/
def read (modern : Bool) (code : UInt8) (body : Bytes) : Except Corruption Handshake :=
  let orSpoiled {α : Type} (f : α → Handshake) : Option α → Except Corruption Handshake
    | some a => .ok (f a)
    | none => .error .content
  match MessageKind.ofCode? code with
  | some .clientHello => (Offer.read body).map clientHello
  | some .serverHello => orSpoiled serverHello (ServerHello.read? body)
  | some .encryptedExtensions =>
    orSpoiled (fun es => encryptedExtensions (Extension.protocol? es)) (Extension.list? body)
  | some .certificate => orSpoiled certificate (chain? modern body)
  | some .serverKeyExchange => .ok (serverKeyExchange body)
  | some .clientKeyExchange => .ok (clientKeyExchange body)
  | some .finished => .ok (finished body)
  | some k => if isWellFormed modern k body then .ok (other code) else .error .content
  | none => .ok (other code)

/-! ## Messages one behind the other -/

/-- The result of looking for a message at the front of some bytes. -/
inductive Cut where
  | more
  | whole (code : UInt8) (body rest : Bytes)

/-- The least length that no message may have. -/
def limit : Nat := 0x10000

/-- Looks for a message at the front. -/
def cut : Bytes → Cut
  | [] => .more
  | code :: bs =>
    match Wire.sized? 3 bs with
    | none => .more
    | some (body, rest) => .whole code body rest

/-- Whether bytes are messages one behind the other up to the end; `room` bounds their number. -/
def isAlignedWithin : (room : Nat) → Bytes → Bool
  | _, [] => true
  | 0, _ => false
  | room + 1, bs =>
    match cut bs with
    | .more => false
    | .whole _ _ rest => isAlignedWithin room rest

/-- Whether bytes are messages one behind the other up to the end. -/
def isAligned (bs : Bytes) : Bool := isAlignedWithin bs.length bs

/-- Whether a message announces more bytes than it may have; `room` bounds the number of messages. -/
def hasLongWithin : (room : Nat) → Bytes → Bool
  | 0, _ => false
  | room + 1, bs =>
    (Wire.number? 3 (bs.drop 1)).any (fun r => decide (limit ≤ r.1)) ||
      match cut bs with
      | .more => false
      | .whole _ _ rest => hasLongWithin room rest

/-- Whether a message announces more bytes than it may have. -/
def hasLong (bs : Bytes) : Bool := hasLongWithin bs.length bs

/-- A message is found as it was framed. -/
theorem cut_frame {k : MessageKind} {body : Bytes} (rest : Bytes) (h : body.length < limit) :
    cut (k.frame body ++ rest) = .whole k.code body rest := by
  have hl : body.length < Wire.capacity 3 := by
    have : limit < Wire.capacity 3 := by decide
    omega
  simp [cut, MessageKind.frame, Wire.sized?_sized rest hl]

end Handshake

end StreamHost.Tls
