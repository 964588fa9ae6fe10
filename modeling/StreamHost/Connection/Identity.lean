import StreamHost.Address.Endpoint

/-!
Who a connection is: a number that no other connection has, and the two endpoints.
-/

namespace StreamHost.Connection

structure Identity where
  number : Nat
  localEnd : Address.Endpoint
  remoteEnd : Address.Endpoint
  deriving DecidableEq, Repr

namespace Identity

/-- The name that logs carry. -/
def label (i : Identity) : String := "conn-#" ++ toString i.number

def text (i : Identity) : String :=
  i.label ++ " " ++ i.localEnd.text ++ " <-> " ++ i.remoteEnd.text

def shape (i : Identity) : String :=
  Shape.record "ConnectionIdentity"
    [("id", Shape.wrap "ConnectionId" ("#" ++ toString i.number)),
      ("local", i.localEnd.shape), ("remote", i.remoteEnd.shape)]

end Identity

end StreamHost.Connection
