import StreamHost.Stream.Poll
import StreamHost.Text.Quoted
import StreamHost.Text.Utf8

/-!
What a tap writes down about what passes: a word for it, and for bytes their number and a preview of the
first ones.
-/

namespace StreamHost.Stream

namespace Sight

/-- The word for what was seen. -/
def word : Sight → String
  | read _ => "READ"
  | endOfInput => "READ EOF"
  | readFailed _ => "READ failed"
  | written _ => "WRITE"
  | shutdown => "SHUTDOWN"

/-- The bytes that passed. -/
def bytes? : Sight → Option Bytes
  | read b | written b => some b
  | _ => none

/-- The failure that passed. -/
def error? : Sight → Option IoError
  | readFailed e => some e
  | _ => none

end Sight

namespace Tap

/-- How many bytes a preview shows. -/
def previewLimit : Nat := 64

/-- The first bytes as text, with escapes; an ellipsis stands for the rest. -/
def preview (bytes : Bytes) : String :=
  Text.preview (Text.decodeLossy (bytes.take previewLimit)) ++
    if previewLimit < bytes.length then "…" else ""

end Tap

end StreamHost.Stream
