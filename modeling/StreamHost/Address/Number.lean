import StreamHost.Text.Reader

/-!
The numbers in addresses: octets, groups, ports and scopes.
-/

namespace StreamHost.Address

open Text (NumberFormat)

/-- One part of a dotted address: no leading zeros. -/
def octetFormat : NumberFormat := ⟨10, 256, some 3, false⟩

/-- One group of a colon-separated address. -/
def groupFormat : NumberFormat := ⟨16, 65536, some 4, true⟩

/-- A port, with any number of leading zeros. -/
def portFormat : NumberFormat := ⟨10, 65536, none, true⟩

/-- A scope number. -/
def scopeFormat : NumberFormat := ⟨10, UInt32.size, none, true⟩

end StreamHost.Address
