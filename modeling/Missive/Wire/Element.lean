import Missive.Value
import Missive.Wire.Medium
/-!
# Elements on the wire

The encoding of one element and of counts.  Numbers are little-endian; a string is its byte length
and its bytes; a time or a duration is its seconds and its nanoseconds.

* `Datum.encode` -- the bytes of an element;
* `Datum.refill` -- reading an element into one that is already there;
* `encodeCount`, `readCount` -- lengths and counts, in four bytes;
* `checkEmptyElements` -- the bound on elements that take no bytes.
-/

namespace Missive

/-- One past the largest length that a prefix can hold. -/
def lengthLimit : Nat := 4294967296

/-- A length or a count. -/
def encodeCount (n : Nat) : Except WireError Bytes :=
  if n < lengthLimit then .ok (Bytes.ofNat 4 n) else .error (.lengthOverflow n)

/-- Reads a length or a count. -/
def readCount (s : Source) : Except WireError Nat × Source :=
  match s.exact 4 with
  | (.ok bytes, s) => (.ok bytes.toNat, s)
  | (.error stop, s) => (.error (stop.error (.primitive .uint32)), s)

/-- The most elements without bytes that one array may hold.  Nothing but their count bounds the
work that such elements make. -/
def maxEmptyElements : Nat := 65536

/-- Refuses too many elements without bytes. -/
def checkEmptyElements (count : Nat) : Except WireError Unit :=
  if count ≤ maxEmptyElements then .ok () else .error (.elementLimit count maxEmptyElements)

namespace Datum

/-- The bytes of an element. -/
def encode : Datum → Except WireError Bytes
  | bool b => .ok [if b then 1 else 0]
  | int8 n => .ok (Bytes.ofNat 1 n.toUInt8.toNat)
  | uint8 n => .ok (Bytes.ofNat 1 n.toNat)
  | int16 n => .ok (Bytes.ofNat 2 n.toUInt16.toNat)
  | uint16 n => .ok (Bytes.ofNat 2 n.toNat)
  | int32 n => .ok (Bytes.ofNat 4 n.toUInt32.toNat)
  | uint32 n => .ok (Bytes.ofNat 4 n.toNat)
  | int64 n => .ok (Bytes.ofNat 8 n.toUInt64.toNat)
  | uint64 n => .ok (Bytes.ofNat 8 n.toNat)
  | float32 bits => .ok (Bytes.ofNat 4 bits.toNat)
  | float64 bits => .ok (Bytes.ofNat 8 bits.toNat)
  | string text =>
    let body := Text.Utf8.encode text
    (encodeCount body.length).map (· ++ body)
  | time t => .ok (Bytes.ofNat 4 t.sec.toNat ++ Bytes.ofNat 4 t.nsec.toNat)
  | duration d => .ok (Bytes.ofNat 4 d.sec.toNat ++ Bytes.ofNat 4 d.nsec.toNat)

/-- What reading into an element leaves behind: the element, which may have changed even if the
read failed, and the source. -/
structure Refilled where
  datum : Datum
  status : Except WireError Unit
  source : Source

/-- Reads a number of `width` bytes into an element. -/
def refillNumber (d : Datum) (width : Nat) (make : Nat → Datum) (s : Source) : Refilled :=
  match s.exact width with
  | (.ok bytes, s) => ⟨make bytes.toNat, .ok (), s⟩
  | (.error stop, s) => ⟨d, .error (stop.error (.primitive d.primitive)), s⟩

/-- Reads two words into an element; the first one is in place before the second one is read. -/
def refillPair (d : Datum) (first : UInt32 → Datum) (both : UInt32 → UInt32 → Datum)
    (s : Source) : Refilled :=
  match s.exact 4 with
  | (.error stop, s) => ⟨d, .error (stop.error (.primitive d.primitive)), s⟩
  | (.ok bytes, s) =>
    let sec := bytes.toNat.toUInt32
    match s.exact 4 with
    | (.error stop, s) => ⟨first sec, .error (stop.error (.primitive d.primitive)), s⟩
    | (.ok bytes, s) => ⟨both sec bytes.toNat.toUInt32, .ok (), s⟩

/-- Reads a length and that many bytes of text into an element. -/
def refillString (d : Datum) (s : Source) : Refilled :=
  match readCount s with
  | (.error e, s) => ⟨d, .error e, s⟩
  | (.ok length, s) =>
    match s.exact length with
    | (.error stop, s) => ⟨d, .error (stop.error (.primitive .string)), s⟩
    | (.ok bytes, s) =>
      match Text.Utf8.decode bytes with
      | .error fault => ⟨d, .error (.encoding fault), s⟩
      | .ok text => ⟨string text, .ok (), s⟩

/-- Reads an element of the same primitive into one that is already there. -/
def refill (d : Datum) (s : Source) : Refilled :=
  match d with
  | bool _ => d.refillNumber 1 (fun n => bool (n != 0)) s
  | int8 _ => d.refillNumber 1 (fun n => int8 n.toUInt8.toInt8) s
  | uint8 _ => d.refillNumber 1 (fun n => uint8 n.toUInt8) s
  | int16 _ => d.refillNumber 2 (fun n => int16 n.toUInt16.toInt16) s
  | uint16 _ => d.refillNumber 2 (fun n => uint16 n.toUInt16) s
  | int32 _ => d.refillNumber 4 (fun n => int32 n.toUInt32.toInt32) s
  | uint32 _ => d.refillNumber 4 (fun n => uint32 n.toUInt32) s
  | int64 _ => d.refillNumber 8 (fun n => int64 n.toUInt64.toInt64) s
  | uint64 _ => d.refillNumber 8 (fun n => uint64 n.toUInt64) s
  | float32 _ => d.refillNumber 4 (fun n => float32 n.toUInt32) s
  | float64 _ => d.refillNumber 8 (fun n => float64 n.toUInt64) s
  | string _ => d.refillString s
  | time t => d.refillPair (fun sec => time ⟨sec, t.nsec⟩) (fun sec nsec => time ⟨sec, nsec⟩) s
  | duration t =>
    d.refillPair (fun sec => duration ⟨sec, t.nsec⟩) (fun sec nsec => duration ⟨sec, nsec⟩) s

end Datum

/-- Reads an element of a primitive. -/
def Primitive.read (p : Primitive) (s : Source) : Except WireError Datum × Source :=
  let r := (Datum.zero p).refill s
  (r.status.map fun _ => r.datum, r.source)

end Missive
