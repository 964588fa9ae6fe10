import StreamHost.Text.Shape

/-!
Failures of reading, writing and connecting. A failure has a kind, and either the operating system
reported it, or it is bare, or it was made with a message of its own.
-/

namespace StreamHost

inductive IoKind where
  | notFound | permissionDenied | connectionRefused | connectionReset | connectionAborted
  | notConnected | addrInUse | addrNotAvailable | brokenPipe | invalidInput | invalidData
  | timedOut | unsupported | unexpectedEof | writeZero | notADirectory | isADirectory | networkUnreachable
  | invalidFilename | uncategorized | other
  deriving DecidableEq, Repr

namespace IoKind

def name : IoKind → String
  | notFound => "NotFound"
  | permissionDenied => "PermissionDenied"
  | connectionRefused => "ConnectionRefused"
  | connectionReset => "ConnectionReset"
  | connectionAborted => "ConnectionAborted"
  | notConnected => "NotConnected"
  | addrInUse => "AddrInUse"
  | addrNotAvailable => "AddrNotAvailable"
  | brokenPipe => "BrokenPipe"
  | invalidInput => "InvalidInput"
  | invalidData => "InvalidData"
  | timedOut => "TimedOut"
  | unsupported => "Unsupported"
  | unexpectedEof => "UnexpectedEof"
  | writeZero => "WriteZero"
  | notADirectory => "NotADirectory"
  | isADirectory => "IsADirectory"
  | networkUnreachable => "NetworkUnreachable"
  | invalidFilename => "InvalidFilename"
  | uncategorized => "Uncategorized"
  | other => "Other"

/-- The kind that a name means. Only kinds that are the same everywhere have names that are understood. -/
def ofName (s : String) : IoKind :=
  ([notFound, permissionDenied, connectionRefused, connectionReset, connectionAborted, notConnected,
    addrInUse, addrNotAvailable, brokenPipe, invalidInput, invalidData, timedOut, unsupported,
    unexpectedEof].find? fun k => k.name == s).getD other

/-- What a bare failure of this kind says. -/
def text : IoKind → String
  | notFound => "entity not found"
  | permissionDenied => "permission denied"
  | connectionRefused => "connection refused"
  | connectionReset => "connection reset"
  | connectionAborted => "connection aborted"
  | notConnected => "not connected"
  | addrInUse => "address in use"
  | addrNotAvailable => "address not available"
  | brokenPipe => "broken pipe"
  | invalidInput => "invalid input parameter"
  | invalidData => "invalid data"
  | timedOut => "timed out"
  | unsupported => "unsupported"
  | unexpectedEof => "unexpected end of file"
  | writeZero => "write zero"
  | notADirectory => "not a directory"
  | isADirectory => "is a directory"
  | networkUnreachable => "network unreachable"
  | invalidFilename => "invalid filename"
  | uncategorized => "uncategorized error"
  | other => "other error"

end IoKind

/-- Failures that the operating system reports by number. -/
inductive OsError where
  | noEntry | noDevice | accessDenied | notDirectory | isDirectory | invalidArgument | brokenPipe
  | nameTooLong | addressInUse | addressUnavailable | networkUnreachable | connectionReset | connectionRefused
  deriving DecidableEq, Repr

namespace OsError

def code : OsError → Nat
  | noEntry => 2
  | noDevice => 6
  | accessDenied => 13
  | notDirectory => 20
  | isDirectory => 21
  | invalidArgument => 22
  | brokenPipe => 32
  | nameTooLong => 36
  | addressInUse => 98
  | addressUnavailable => 99
  | networkUnreachable => 101
  | connectionReset => 104
  | connectionRefused => 111

def kind : OsError → IoKind
  | noEntry => .notFound
  | noDevice => .uncategorized
  | accessDenied => .permissionDenied
  | notDirectory => .notADirectory
  | isDirectory => .isADirectory
  | invalidArgument => .invalidInput
  | brokenPipe => .brokenPipe
  | nameTooLong => .invalidFilename
  | addressInUse => .addrInUse
  | addressUnavailable => .addrNotAvailable
  | networkUnreachable => .networkUnreachable
  | connectionReset => .connectionReset
  | connectionRefused => .connectionRefused

def text : OsError → String
  | noEntry => "No such file or directory"
  | noDevice => "No such device or address"
  | accessDenied => "Permission denied"
  | notDirectory => "Not a directory"
  | isDirectory => "Is a directory"
  | invalidArgument => "Invalid argument"
  | brokenPipe => "Broken pipe"
  | nameTooLong => "File name too long"
  | addressInUse => "Address already in use"
  | addressUnavailable => "Cannot assign requested address"
  | networkUnreachable => "Network is unreachable"
  | connectionReset => "Connection reset by peer"
  | connectionRefused => "Connection refused"

end OsError

/-- A failure of input or output. -/
inductive IoError where
  /-- Reported by the operating system. -/
  | os (cause : OsError)
  /-- Only a kind. -/
  | bare (kind : IoKind)
  /-- One of the fixed failures of the reading routines. -/
  | fixed (kind : IoKind) (message : String)
  /-- Made by a caller with its own message. -/
  | custom (kind : IoKind) (message : String)
  deriving DecidableEq, Repr

namespace IoError

def kind : IoError → IoKind
  | os e => e.kind
  | bare k => k
  | fixed k _ => k
  | custom k _ => k

/-- What a reader is told. -/
def message : IoError → String
  | os e => e.text ++ " (os error " ++ toString e.code ++ ")"
  | bare k => k.text
  | fixed _ m => m
  | custom _ m => m

/-- The structured form. -/
def shape : IoError → String
  | os e => Shape.record "Os" [("code", toString e.code), ("kind", e.kind.name),
      ("message", Shape.text e.text)]
  | bare k => Shape.wrap "Kind" k.name
  | fixed k m => Shape.record "Error" [("kind", k.name), ("message", Shape.text m)]
  | custom k m => Shape.record "Custom" [("kind", k.name), ("error", Shape.text m)]

end IoError

end StreamHost
