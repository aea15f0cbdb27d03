import Missive.Bytes
import Missive.Wire.Error
/-!
# Sinks and sources

Where bytes go to and come from.  A sink may have room for a limited number of bytes; a source may
end or fail after its last byte.

* `Sink`, `Sink.put` -- writing: a write too large for the room left is taken in part;
* `Source`, `Source.exact` -- reading a number of bytes, all of them or an error;
* `Stop` -- why a source has no more bytes.
-/

namespace Missive

/-- A place for bytes. -/
structure Sink where
  /-- The bytes taken so far, the last one first. -/
  taken : Bytes
  /-- How many more bytes fit, if that is limited. -/
  room : Option Nat
  /-- What happens to a byte that does not fit. -/
  whenFull : TransferFault

namespace Sink

/-- A sink that takes everything. -/
def unlimited : Sink := ⟨[], none, .sinkFull⟩

/-- A sink that takes this many bytes and then reports that it is full. -/
def ofRoom (room : Nat) : Sink := ⟨[], some room, .sinkFull⟩

/-- The bytes taken so far. -/
def contents (s : Sink) : Bytes :=
  s.taken.reverse

/-- Writes bytes; those that fit are taken even if not all do. -/
def put (s : Sink) (bytes : Bytes) : Except TransferFault Unit × Sink :=
  match s.room with
  | none => (.ok (), { s with taken := bytes.reverseAux s.taken })
  | some room =>
    if bytes.length ≤ room then
      (.ok (), { s with taken := bytes.reverseAux s.taken, room := some (room - bytes.length) })
    else
      (.error s.whenFull, { s with taken := (bytes.take room).reverseAux s.taken, room := some 0 })

end Sink

/-- Why there are no more bytes. -/
inductive Stop where
  | ended
  | failed
  deriving DecidableEq, Repr

/-- A sequence of bytes to be read. -/
structure Source where
  /-- The bytes not yet read. -/
  pending : Bytes
  /-- The number of bytes read so far. -/
  consumed : Nat
  /-- What comes after the last byte. -/
  stop : Stop

namespace Source

/-- A source that ends after these bytes. -/
def ofBytes (bytes : Bytes) : Source := ⟨bytes, 0, .ended⟩

/-- Reads exactly `n` bytes.  If there are fewer, they are consumed all the same. -/
def exact (s : Source) (n : Nat) : Except Stop Bytes × Source :=
  match takeExact? n s.pending with
  | some (bytes, rest) => (.ok bytes, { s with pending := rest, consumed := s.consumed + n })
  | none =>
    (.error s.stop, { s with pending := [], consumed := s.consumed + s.pending.length })

end Source

/-- The error of a read that stopped inside an element of this kind. -/
def Stop.error (kind : Kind) : Stop → WireError
  | .ended => .truncated kind
  | .failed => .transfer .sourceFailed

end Missive
