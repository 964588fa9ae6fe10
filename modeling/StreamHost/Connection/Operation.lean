import StreamHost.Connection.Pipeline

/-!
What the owner of a connection can do with it: the four operations of a stream, the calls of its lifecycle,
which `Connection::lifecycle` hands out, and `map_stream`.
-/

namespace StreamHost.Connection

inductive Operation where
  | read (room : Nat)
  | write (bytes : Bytes)
  | flush
  | shutdown
  | call (c : Call)
  /-- `map_stream` puts a stage around its stream. -/
  | remodel (stage : TransportStage)
  /-- It loses its stream: the stage that `map_stream` called did not come back. -/
  | detach

namespace Operation

/-- What comes of a use. -/
inductive Answer where
  | read (result : Except IoError Bytes)
  | written (result : Except IoError Nat)
  | done (result : Except IoError Unit)

/-- One use of a connection, and what comes of it unless it has to be tried again. -/
def perform (s : Shared) (c : Channel (Carrier Wire)) :
    Operation → Shared × Channel (Carrier Wire) × Option Answer
  | .read room =>
    let (s, c, p) := s.operate c (Shared.flowMedium.read · room)
    (s, c, p.result?.map .read)
  | .write bytes =>
    let (s, c, p) := s.operate c (Shared.flowMedium.write · bytes)
    (s, c, p.result?.map .written)
  | .flush =>
    let (s, c, p) := s.operate c Shared.flowMedium.flush
    (s, c, p.result?.map .done)
  | .shutdown =>
    let (s, c, p) := s.operate c Shared.flowMedium.shutdown
    (s, c, p.result?.map .done)
  | .call k => (s.onHub (·.call c.id k), c, some (.done (.ok ())))
  | .remodel stage =>
    let (s, c) := stage.remodel s c
    (s, c, some (.done (.ok ())))
  | .detach =>
    let (s, c) := s.detach c
    (s, c, some (.done (.ok ())))

/-- What a use does, whatever comes of it. -/
def apply (s : Shared) (c : Channel (Carrier Wire)) (u : Operation) : Shared × Channel (Carrier Wire) :=
  let (s, c, _) := u.perform s c
  (s, c)

end Operation

end StreamHost.Connection
