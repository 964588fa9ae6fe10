import StreamHost.Text.Quoted
import StreamHost.Tls.Alert
import StreamHost.Tls.Certificate
import StreamHost.Tls.Moment
import StreamHost.Tls.Signing
import StreamHost.Tls.SubjectName

/-!
How a client judges the certificates of a server. The first one must lead, issuer by issuer, to a certificate
that the client trusts: each is valid at the moment, signed with the key of its issuer and within the bounds
that its issuers are held to. It must also be made out for the name that the client asked for. Where several
ways are tried and none leads to the end, the most telling reason counts.
-/

namespace StreamHost.Tls.Verification

/-- Why a chain is not accepted. -/
inductive Rejection where
  | noCertificates
  | unreadable (flaw : Certificate.Flaw)
  | expired (now last : Moment)
  | early (now first : Moment)
  /-- The certificate ends to be valid before it begins. -/
  | validity
  /-- The first certificate is that of an authority. -/
  | authority
  /-- A certificate that signed another one is not that of an authority. -/
  | noAuthority
  /-- There are more certificates below an authority than it may have. -/
  | pathLength
  /-- The key may only be used for other purposes. -/
  | purpose (stated : List Bytes)
  /-- The chain leads to no trusted certificate. -/
  | unknownIssuer
  | signature (f : Signing.Fault)
  /-- A name lies outside the bounds of an issuer. -/
  | outOfBounds
  | misfit (m : SubjectName.Misfit)
  /-- There are too many certificates between. -/
  | depth
  /-- The certificate is made out for other names. -/
  | otherName (asked : ServerName) (stated : List SubjectName)
  deriving DecidableEq, Repr

namespace Rejection

/-- Bytes that cannot be read. -/
def encoding : Rejection := unreadable .encoding

/-- How much a reason tells, compared with others. -/
def weight : Rejection → Nat
  | expired .. | early .. => 290
  | otherName .. => 280
  | signature .wrong => 260
  | unreadable .signatureAlgorithm => 250
  | purpose _ => 240
  | outOfBounds | misfit .kind => 230
  | pathLength => 220
  | authority | noAuthority => 210
  | validity => 190
  | misfit .mask => 180
  | signature (.otherKey ..) => 150
  | signature (.unknown _) => 140
  | unreadable .criticalExtension | unreadable .version => 130
  | depth => 61
  | misfit .hostName => 60
  | misfit .bound => 50
  | unreadable .repeatedExtension => 30
  | unreadable .encoding | misfit .address | signature .key => 10
  | unknownIssuer | noCertificates => 0

/-- The reason of two that tells more, or else the first one. -/
def stronger (a b : Rejection) : Rejection := if b.weight ≤ a.weight then a else b

/-! ## Wording -/

/-- Several names in a row. -/
def enumeration : List String → String
  | [] => ""
  | [a] => a
  | a :: as => ", ".intercalate ((a :: as).dropLast) ++ " or " ++ (a :: as).getLastD a

/-- The names that a certificate is made out for, in words. -/
def holding (stated : List SubjectName) : String :=
  match stated with
  | [] => "is not valid for any names (according to its subjectAltName extension)"
  | names => "is only valid for " ++ enumeration (names.map SubjectName.text)

/-- A reason that is shown by its name. -/
def named (name : String) : String := "Other(OtherError(" ++ name ++ "))"

/-- Bytes as numbers in a row. -/
def row (bs : Bytes) : String := "[" ++ ", ".intercalate (bs.map fun b => toString b.toNat) ++ "]"

/-- Something shown with its fields. -/
def fields (name : String) (fs : List (String × String)) : String :=
  name ++ " \x7b " ++ ", ".intercalate (fs.map fun f => f.1 ++ ": " ++ f.2) ++ " \x7d"

/-- The ways of signing that are known, by their identifiers. Those with a curve stand there once for each
curve. -/
def knownSignings : String :=
  let curves := Signing.known.filter fun s => 1 < s.kinds.length
  "[" ++ ", ".intercalate ((curves ++ Signing.known).map fun s => "0x" ++ Bytes.hex s.identifier) ++ "]"

/-- The identifiers of purposes that have a name. -/
def serverPurpose : Bytes := [0x2b, 0x06, 0x01, 0x05, 0x05, 0x07, 0x03, 0x01]
def clientPurpose : Bytes := [0x2b, 0x06, 0x01, 0x05, 0x05, 0x07, 0x03, 0x02]

/-- The numbers of an identifier behind its first two: seven bits in each byte, all but the last byte of a
number marked. -/
def arcs : (number : Nat) → Bytes → List Nat
  | _, [] => []
  | n, b :: bs =>
    let n := n * 128 + b.toNat % 128
    if 0x80 ≤ b then arcs n bs else n :: arcs 0 bs

/-- The numbers of an identifier. The first two are written as one. -/
def identifierNumbers (id : Bytes) : List Nat :=
  match arcs 0 id with
  | [] => []
  | n :: ns => if n < 80 then n / 40 :: n % 40 :: ns else 2 :: (n - 80) :: ns

/-- A purpose in words. -/
def purposeText (id : Bytes) : String :=
  if id = serverPurpose then "server authentication"
  else if id = clientPurpose then "client authentication"
  else ", ".intercalate ((identifierNumbers id).map toString)

/-- What a reader is told. -/
def message : Rejection → String
  | noCertificates => "NoCertificatesPresented"
  | unreadable flaw => flaw.name
  | signature .key | misfit .address => Certificate.Flaw.encoding.name
  | expired now last =>
    "certificate expired: verification time " ++ toString now.seconds ++
      " (UNIX), but certificate is not valid after " ++ toString last.seconds ++ " (" ++
      toString (now.seconds - last.seconds) ++ " seconds ago)"
  | early now first =>
    "certificate not valid yet: verification time " ++ toString now.seconds ++
      " (UNIX), but certificate is not valid before " ++ toString first.seconds ++ " (" ++
      toString (first.seconds - now.seconds) ++ " seconds in future)"
  | validity => "Expired"
  | authority => named "CaUsedAsEndEntity"
  | noAuthority => named "EndEntityUsedAsCa"
  | pathLength => named "PathLenConstraintViolated"
  | purpose stated =>
    "certificate does not allow extended key usage for " ++ purposeText serverPurpose ++ ", allows " ++
      ", ".intercalate (stated.map purposeText)
  | unknownIssuer => "UnknownIssuer"
  | signature .wrong => "BadSignature"
  | signature (.unknown id) =>
    fields "UnsupportedSignatureAlgorithmContext"
      [("signature_algorithm_id", row id), ("supported_algorithms", knownSignings)]
  | signature (.otherKey id keyId) =>
    fields "UnsupportedSignatureAlgorithmForPublicKeyContext"
      [("signature_algorithm_id", row id), ("public_key_algorithm_id", row keyId)]
  | outOfBounds | misfit .kind => named "NameConstraintViolation"
  | misfit .hostName => named "MalformedDnsIdentifier"
  | misfit .bound => named "MalformedNameConstraint"
  | misfit .mask => named "InvalidNetworkMaskConstraint"
  | depth => named "MaximumPathDepthExceeded"
  | otherName asked stated =>
    "certificate not valid for name " ++ Text.quote asked.text ++ "; certificate " ++ holding stated

/-- The alert that tells the server. -/
def alert : Rejection → Alert
  | noCertificates => .decodeError
  | unreadable .encoding | signature .key | misfit .address | otherName .. => .badCertificate
  | expired .. | early .. | validity => .certificateExpired
  | signature _ => .decryptError
  | purpose _ => .unsupportedCertificate
  | unknownIssuer => .unknownAuthority
  | _ => .certificateUnknown

/-- How a client gives up. -/
def failure (r : Rejection) : Failure := ⟨.certificate r.message, some r.alert⟩

end Rejection

/-- What can be read, or a rejection. -/
def readable {α : Type} : Option α → Except Rejection α
  | some a => .ok a
  | none => .error .encoding

/-- Nothing may be left. -/
def finished (rest : Bytes) : Except Rejection Unit := if rest = [] then .ok () else .error .encoding

/-! ## One certificate by itself -/

/-- A certificate is valid at a moment. -/
def checkValidity (now : Moment) (c : Certificate) : Except Rejection Unit := do
  let (first, rest) ← readable (Moment.next? c.validity)
  let (last, rest) ← readable (Moment.next? rest)
  if last.seconds < first.seconds then throw .validity
  if now.seconds < first.seconds then throw (.early now first)
  if last.seconds < now.seconds then throw (.expired now last)
  finished rest

/-- Whether constraints mark an authority, how many others may stand below it, and what follows. -/
def authority? (bs : Bytes) : Option (Bool × Option Nat × Bytes) := do
  let (isAuthority, rest) ← Certificate.flag? bs
  if rest.isEmpty then return (isAuthority, none, rest)
  else
    let (n, rest) ← Der.number? rest
    if n ≤ 255 then return (isAuthority, some n, rest) else none

/-- The last certificate of a path is that of no authority, the others are: the number of those `below` tells
which one this is. -/
def checkConstraints (below : Nat) (c : Certificate) : Except Rejection Unit := do
  match c.constraints with
  | none => if 0 < below then throw .noAuthority
  | some bs =>
    let (isAuthority, most, rest) ← readable (authority? bs)
    if below = 0 then
      if isAuthority then throw .authority
    else
      if !isAuthority then throw .noAuthority
      if most.any (· < below - 1) then throw .pathLength
    finished rest

/-- Looks for the purpose of a server; `seen` are those before, and `room` bounds their number. -/
def seekPurpose : (room : Nat) → (seen : List Bytes) → Bytes → Except Rejection Unit
  | 0, _, _ => .error .encoding
  | room + 1, seen, bs => do
    let (id, rest) ← readable (Der.take? Der.oidTag bs)
    if id = Rejection.serverPurpose then return ()
    else if rest = [] then throw (.purpose (seen ++ [id]))
    else seekPurpose room (seen ++ [id]) rest

/-- A certificate that states purposes states that of a server. -/
def checkPurposes (c : Certificate) : Except Rejection Unit :=
  match c.purposes with
  | none => .ok ()
  | some bs => seekPurpose (bs.length + 1) [] bs

/-- What does not depend on the issuer. -/
def checkAlone (now : Moment) (below : Nat) (c : Certificate) : Except Rejection Unit := do
  checkValidity now c
  checkConstraints below c
  checkPurposes c

/-! ## Names -/

/-- The names of a certificate. -/
def names (c : Certificate) : SubjectName.Listing := (c.names.map SubjectName.readAll).getD {}

/-- Whether a name lies within one of the bounds of its kind, if there are any: one was `met`, or none was
`missed`. -/
def isPermitted (name : SubjectName) : List SubjectName → (met missed : Bool) → Except Rejection Bool
  | [], met, missed => .ok (met || !missed)
  | bound :: bounds, met, missed =>
    match name.within? false bound with
    | none => isPermitted name bounds met missed
    | some (.error m) => .error (.misfit m)
    | some (.ok within) => isPermitted name bounds (met || within) (missed || !within)

/-- A name lies within none of some bounds. -/
def checkExcluded (name : SubjectName) : List SubjectName → Except Rejection Unit
  | [] => .ok ()
  | bound :: bounds =>
    match name.within? true bound with
    | some (.error m) => .error (.misfit m)
    | some (.ok true) => .error .outOfBounds
    | _ => checkExcluded name bounds

/-- All names of a listing are readable. -/
def checkWhole (l : SubjectName.Listing) : Except Rejection Unit :=
  if l.isWhole then .ok () else .error .encoding

/-- Bounds of names: those that are permitted, and those that are not. -/
structure Bounds where
  permitted : Option SubjectName.Listing
  excluded : Option SubjectName.Listing

/-- A name lies within bounds. -/
def Bounds.check (b : Bounds) (name : SubjectName) : Except Rejection Unit := do
  if let some l := b.permitted then
    let permitted ← isPermitted name l.names false false
    checkWhole l
    if !permitted then throw .outOfBounds
  if let some l := b.excluded then
    checkExcluded name l.names
    checkWhole l

/-- All names of some certificates lie within bounds. -/
def Bounds.checkAll (b : Bounds) (cs : List Certificate) : Except Rejection Unit :=
  cs.forM fun c => do
    (names c).names.forM b.check
    checkWhole (names c)

/-- The names of all certificates of a path lie within the bounds of those above: of the trusted one, and of
each other one for those below it. -/
def checkBounds : (bounds : Option Bytes) → (path : List Certificate) → Except Rejection Unit
  | _, [] => .ok ()
  | bounds, c :: cs => do
    if let some bs := bounds then
      let (permitted, rest) := Der.optional (Der.contextTag 0) bs
      let (excluded, rest) := Der.optional (Der.contextTag 1) rest
      let b : Bounds := ⟨permitted.map SubjectName.readBounds, excluded.map SubjectName.readBounds⟩
      b.checkAll (c :: cs)
      finished rest
    checkBounds c.bounds cs

/-- A certificate is made out for a name. -/
def checkName (asked : ServerName) (c : Certificate) : Except Rejection Unit :=
  let l := names c
  if l.names.any (SubjectName.covers asked) then .ok ()
  else if l.isWhole then .error (.otherName asked l.names)
  else .error .encoding

/-! ## Paths -/

/-- Each certificate of a path is signed with the key of the one before, and the first one with a given key. -/
def checkSignatures : (keyInfo : Bytes) → (path : List Certificate) → Except Rejection Unit
  | _, [] => .ok ()
  | keyInfo, c :: cs => do
    (Signing.check c.algorithm keyInfo c.signed c.signature).mapError .signature
    checkSignatures c.keyInfo cs

/-- What a search goes by. -/
structure Search where
  now : Moment
  trusted : List Certificate
  /-- The certificates that may stand between. -/
  between : List Bytes

/-- Tries one after the other; if none is accepted, the reason that tells most counts. -/
def tryEach {α : Type} (judge : α → Except Rejection Unit) : Rejection → List α → Except Rejection Unit
  | r, [] => .error r
  | r, a :: as =>
    match judge a with
    | .ok () => .ok ()
    | .error s => tryEach judge (r.stronger s) as

/-- A path ends at a trusted certificate. A path is a certificate that is not yet led to its issuer, and those
below it. -/
def checkEnd (head : Certificate) (below : List Certificate) (trusted : Certificate) :
    Except Rejection Unit := do
  if trusted.subject ≠ head.issuer then throw .unknownIssuer
  checkSignatures trusted.keyInfo (head :: below)
  checkBounds trusted.bounds (head :: below)

/-- A certificate may come above a path: it is the issuer, and does not stand in the path already. -/
def checkNext (head : Certificate) (below : List Certificate) (c : Certificate) : Except Rejection Unit :=
  if c.subject ≠ head.issuer then .error .unknownIssuer
  else if (head :: below).any fun b => b.keyInfo == c.keyInfo && b.subject == c.subject then
    .error .unknownIssuer
  else .ok ()

/-- Leads a path to a trusted certificate at once, or else over another one, with which `further` goes on. -/
def step (s : Search) (further : Certificate → Except Rejection Unit) (head : Certificate)
    (below : List Certificate) : Except Rejection Unit := do
  checkAlone s.now below.length head
  match tryEach (checkEnd head below) .unknownIssuer s.trusted with
  | .ok () => return ()
  | .error r =>
    tryEach (fun der => do
      let c ← (Certificate.ofDer der).mapError .unreadable
      checkNext head below c
      further c) r s.between

/-- Leads a path to a trusted certificate over at most so many others. -/
def seek (s : Search) : (room : Nat) → Certificate → List Certificate → Except Rejection Unit
  | 0, head, below => step s (fun _ => .error .depth) head below
  | room + 1, head, below => step s (fun c => seek s room c (head :: below)) head below

/-- How many certificates may stand between. -/
def depthLimit : Nat := 6

/-- Judges a chain. -/
def check (now : Moment) (trusted : List Certificate) (name : ServerName) (chain : List Bytes) :
    Except Rejection Unit :=
  match chain with
  | [] => .error .noCertificates
  | leaf :: between => do
    let c ← (Certificate.ofDer leaf).mapError .unreadable
    seek ⟨now, trusted, between⟩ depthLimit c []
    checkName name c

end StreamHost.Tls.Verification
