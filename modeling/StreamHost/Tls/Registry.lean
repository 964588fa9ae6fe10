import StreamHost.Names.Registry
import StreamHost.Tls.Configuration

/-!
Registries of TLS configurations: which configuration serves which host name. A whole registry can be
given another flavor.
-/

namespace StreamHost.Tls

/-- A `TlsRegistry`: configurations by host name, and the flavor that was set for all of them, if any. -/
structure Registry where
  names : Names.Registry Configuration
  flavor : Option Flavor := none
  deriving Repr

/-- A registry in the making. -/
abbrev RegistryBuilder := Names.RegistryBuilder Configuration

namespace Registry

def single (c : Configuration) : Registry := { names := .single c }

/-- The configuration for names without an entry. -/
def fallback (r : Registry) : Configuration := r.names.fallback

def lookup (r : Registry) (host : Option String) : Names.Resolution Configuration :=
  r.names.lookup host

/-- `with_default_flavor` gives every configuration the flavor. -/
def withFlavor (r : Registry) (f : Flavor) : Registry :=
  { names := r.names.map (·.withFlavor f), flavor := some f }

/-- The registry that a finished builder gives. -/
def ofBuilder (b : Names.RegistryBuilder Configuration) : Except Error Registry :=
  (fun r => { names := r }) <$> b.build

end Registry

end StreamHost.Tls
