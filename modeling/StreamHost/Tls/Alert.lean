import StreamHost.Text.Quoted
import StreamHost.Text.Utf8

/-!
Alerts, faults and remarks: how one side of a TLS session tells the other why it gives up, what it tells its
own reader, and what it leaves in the log on the way. Every fault has one wording, and the alert that goes
with it is decided where the fault is found.
-/

namespace StreamHost.Tls

/-- What an alert says, by its number. -/
structure Alert where
  code : UInt8
  deriving DecidableEq, Repr

/-- A number without a name, behind the name of what it counts. -/
def unnamed (kind : String) (n : UInt8) : String :=
  kind ++ "(0x" ++ Text.digits 16 n.toNat ++ ")"

namespace Alert

def closeNotify : Alert := ⟨0⟩
def unexpectedMessage : Alert := ⟨10⟩
def badRecordMac : Alert := ⟨20⟩
def handshakeFailure : Alert := ⟨40⟩
def badCertificate : Alert := ⟨42⟩
def unsupportedCertificate : Alert := ⟨43⟩
def certificateExpired : Alert := ⟨45⟩
def certificateUnknown : Alert := ⟨46⟩
def illegalParameter : Alert := ⟨47⟩
def unknownAuthority : Alert := ⟨48⟩
def decodeError : Alert := ⟨50⟩
def decryptError : Alert := ⟨51⟩
def protocolVersion : Alert := ⟨70⟩
def userCanceled : Alert := ⟨90⟩
def missingExtension : Alert := ⟨109⟩
def noApplicationProtocol : Alert := ⟨120⟩

/-- The alerts that have a name. -/
def names : List (UInt8 × String) :=
  [(0, "CloseNotify"), (10, "UnexpectedMessage"), (20, "BadRecordMac"), (21, "DecryptionFailed"),
    (22, "RecordOverflow"), (30, "DecompressionFailure"), (40, "HandshakeFailure"),
    (41, "NoCertificate"), (42, "BadCertificate"), (43, "UnsupportedCertificate"),
    (44, "CertificateRevoked"), (45, "CertificateExpired"), (46, "CertificateUnknown"),
    (47, "IllegalParameter"), (48, "UnknownCA"), (49, "AccessDenied"), (50, "DecodeError"),
    (51, "DecryptError"), (60, "ExportRestriction"), (70, "ProtocolVersion"),
    (71, "InsufficientSecurity"), (80, "InternalError"), (86, "InappropriateFallback"),
    (90, "UserCanceled"), (100, "NoRenegotiation"), (109, "MissingExtension"),
    (110, "UnsupportedExtension"), (111, "CertificateUnobtainable"), (112, "UnrecognisedName"),
    (113, "BadCertificateStatusResponse"), (114, "BadCertificateHashValue"),
    (115, "UnknownPSKIdentity"), (116, "CertificateRequired"), (120, "NoApplicationProtocol"),
    (121, "EncryptedClientHelloRequired")]

/-- The name; a number without one is shown as it is. -/
def name (a : Alert) : String := (names.lookup a.code).getD (unnamed "AlertDescription" a.code)

/-- The level of an alert that ends a session. -/
def fatal : UInt8 := 2

/-- The level of an alert that need not end a session. -/
def warning : UInt8 := 1

end Alert

/-- What is wrong with bytes that are no message. -/
inductive Corruption where
  /-- A record of no known kind. -/
  | kind
  /-- A record of no known version. -/
  | version
  /-- A record that holds nothing, of a kind that has to. -/
  | emptyRecord
  | longRecord
  | longMessage
  /-- A message whose parts do not fit together. -/
  | content
  /-- Two host names are requested. -/
  | twoNames
  /-- An extension that comes twice. -/
  | twice
  /-- An extension behind the one that has to be the last. -/
  | notLast
  deriving DecidableEq, Repr

namespace Corruption

/-- The name that a reader is told. -/
def name : Corruption → String
  | kind => "InvalidContentType"
  | version => "UnknownProtocolVersion"
  | emptyRecord => "InvalidEmptyPayload"
  | longRecord => "MessageTooLarge"
  | longMessage => "HandshakePayloadTooLarge"
  | content => "MissingData"
  | twoNames => "InvalidServerName"
  | twice => "DuplicateExtension"
  | notLast => "PreSharedKeyIsNotFinalExtension"

/-- The alert that tells the other side. -/
def alert : Corruption → Alert
  | twice | notLast => .illegalParameter
  | _ => .decodeError

end Corruption

/-- What a session leaves in the log. -/
inductive Remark where
  /-- Content of a kind that may not come now, and the kinds that may. -/
  | unexpectedContent (kind : String) (awaited : List String)
  /-- A message of the handshake that may not come now, and those that may. -/
  | unexpectedMessage (name : String) (awaited : List String)
  /-- The other side warned. -/
  | warned (a : Alert)
  /-- The requested name is an address. -/
  | addressAsName (name : Bytes)
  /-- The requested name is no host name. -/
  | badName (name : Bytes)
  /-- Two host names are requested. -/
  | twoNames
  deriving DecidableEq, Repr

/-- Names in a row. -/
def Remark.row (names : List String) : String := "[" ++ ", ".intercalate names ++ "]"

/-- The wording in the log. -/
def Remark.text : Remark → String
  | unexpectedContent kind awaited =>
    "Received a " ++ kind ++ " message while expecting " ++ row awaited
  | unexpectedMessage name awaited =>
    "Received a " ++ name ++ " handshake message while expecting " ++ row awaited
  | warned a =>
    "TLS alert warning received: AlertMessagePayload \x7b level: Warning, description: " ++ a.name ++ " \x7d"
  | addressAsName name =>
    "Illegal SNI extension: ignoring IP address presented as hostname (" ++ name.hex ++ ")"
  | badName name => "Illegal SNI hostname received " ++ Text.quote (Text.decodeLossy name)
  | twoNames => "Illegal SNI extension: duplicate host_name received"

/-- Why a session gives up. -/
inductive Fault where
  /-- Bytes that are no message. -/
  | corrupt (how : Corruption)
  /-- Content of a kind that may not come now, and the kinds that may. -/
  | unexpectedContent (kind : String) (awaited : List String)
  /-- A message of the handshake that may not come now, and those that may. -/
  | unexpectedMessage (name : String) (awaited : List String)
  /-- A message that breaks the rules of the protocol. -/
  | misbehaved (how : String)
  /-- The sides have nothing in common to agree on. -/
  | incompatible (what : String)
  /-- The protocols that the sides offer have none in common. -/
  | noProtocol
  /-- The certificate of the other side is not accepted. -/
  | certificate (why : String)
  /-- A protected record that the keys do not open, or a wrong proof at the end of a handshake. -/
  | unreadable
  /-- The other side gave up. -/
  | received (a : Alert)
  | unfit (why : String)
  deriving DecidableEq, Repr

namespace Fault

/-- One of some names. -/
def anyOf (names : List String) : String := " or ".intercalate names

/-- What a reader is told. -/
def message : Fault → String
  | corrupt how => "received corrupt message of type " ++ how.name
  | unexpectedContent kind awaited =>
    "received unexpected message: got " ++ kind ++ " when expecting " ++ anyOf awaited
  | unexpectedMessage name awaited =>
    "received unexpected handshake message: got " ++ name ++ " when expecting " ++ anyOf awaited
  | misbehaved how => "peer misbehaved: " ++ how
  | incompatible what => "peer is incompatible: " ++ what
  | noProtocol => "peer doesn't support any known protocol"
  | certificate why => "invalid peer certificate: " ++ why
  | unreadable => "cannot decrypt peer's message"
  | received a => "received fatal alert: " ++ a.name
  | unfit why => "unexpected error: " ++ why

/-- What is left in the log about a fault beyond the reason itself. -/
def remarks : Fault → List Remark
  | unexpectedContent kind awaited => [.unexpectedContent kind awaited]
  | unexpectedMessage name awaited => [.unexpectedMessage name awaited]
  | corrupt .twoNames => [.twoNames]
  | _ => []

end Fault

/-- A fault and the alert that tells the other side of it. -/
structure Failure where
  fault : Fault
  alert : Option Alert := none
  deriving DecidableEq, Repr

namespace Failure

def corrupt (how : Corruption) : Failure := ⟨.corrupt how, some how.alert⟩
def unexpectedContent (kind : String) (awaited : List String) : Failure :=
  ⟨.unexpectedContent kind awaited, some .unexpectedMessage⟩
def unexpectedMessage (name : String) (awaited : List String) : Failure :=
  ⟨.unexpectedMessage name awaited, some .unexpectedMessage⟩
def misbehaved (how : String) (a : Alert) : Failure := ⟨.misbehaved how, some a⟩
def incompatible (what : String) (a : Alert) : Failure := ⟨.incompatible what, some a⟩

/-- A breach of the rules that the other side is not told of. -/
def silent (how : String) : Failure := ⟨.misbehaved how, none⟩

/-- The same, without telling the other side. -/
def unannounced (f : Failure) : Failure := { f with alert := none }

end Failure

end StreamHost.Tls
