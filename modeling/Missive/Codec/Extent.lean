import Missive.Codec.Decode
/-!
# Walking over encoded messages

Where a message ends can be found without making values.  A walker moves over a byte string; arrays
of elements with a fixed width are passed in one jump, and arrays of elements without bytes are not
visited at all.

* `Walker` -- a position in a byte string;
* `Walker.skipElement`, `Walker.skipMessage` -- moving past an element and a message;
* `Registry.extent` -- the number of bytes of the message at the start of a byte string.
-/

namespace Missive

/-- The bytes not yet passed, and the number of those that are. -/
structure Walker where
  remaining : Bytes
  position : Nat
  deriving DecidableEq, Repr

/-- A step of a walk: whether it succeeded, and the walker after it. -/
abbrev Walked (α : Type) := Except CodecError α × Walker

/-- How one element of a type of a package is passed. -/
abbrev ElementWalker := String → TypeRef → Walker → Walked Unit

namespace Walker

/-- A walker at the start of a byte string. -/
def ofBytes (bytes : Bytes) : Walker := ⟨bytes, 0⟩

/-- Passes `n` bytes of an element of this kind; if there are not as many, the walker stays. -/
def advance (w : Walker) (n : Nat) (kind : Kind) : Walked Unit :=
  match dropExact? n w.remaining with
  | some rest => (.ok (), ⟨rest, w.position + n⟩)
  | none => (.error (.wire (.truncated kind)), w)

/-- Reads a length or a count; if it is not all there, the walker stays. -/
def readCount (w : Walker) : Walked Nat :=
  match takeExact? 4 w.remaining with
  | some (bytes, rest) => (.ok (Bytes.toNat bytes), ⟨rest, w.position + 4⟩)
  | none => (.error (.wire (.truncated (.primitive .uint32))), w)

/-- Passes one element of a primitive. -/
def skipPrimitive (w : Walker) (p : Primitive) : Walked Unit :=
  match p.width with
  | some width => w.advance width (.primitive p)
  | none =>
    match w.readCount with
    | (.error e, w) => (.error e, w)
    | (.ok length, w) => w.advance length (.primitive p)

/-- Passes `n` elements. -/
def skipItems (element : Walker → Walked Unit) : Nat → Walker → Walked Unit
  | 0, w => (.ok (), w)
  | n + 1, w =>
    match element w with
    | (.error e, w) => (.error e, w)
    | (.ok (), w) => skipItems element n w

/-- Passes the elements of an array, after its count. -/
def skipArray (reg : Registry) (element : ElementWalker) (owner : String) (f : Field)
    (count : Nat) (w : Walker) : Walked Unit :=
  if f.shape.isFixed && count != f.shape.count then
    (.error (.wire (.arrayLength f.shape.count count)), w)
  else
    match reg.isEmptyElement owner f.type with
    | .error e => (.error e, w)
    | .ok true => ((checkEmptyElements count).mapError .wire, w)
    | .ok false =>
      match f.kind.width with
      | some width => w.advance (count * width) f.kind
      | none => skipItems (element owner f.type) count w

/-- Passes a field of a message of package `owner`. -/
def skipField (reg : Registry) (element : ElementWalker) (owner : String) (f : Field)
    (w : Walker) : Walked Unit :=
  if f.shape.isArray then
    match w.readCount with
    | (.error e, w) => (.error e, w)
    | (.ok count, w) => skipArray reg element owner f count w
  else element owner f.type w

/-- Passes the fields of a message, one after the other. -/
def skipFields (reg : Registry) (element : ElementWalker) (owner : String) :
    List Field → Walker → Walked Unit
  | [], w => (.ok (), w)
  | f :: rest, w =>
    match skipField reg element owner f w with
    | (.error e, w) => (.error (e.inField f.label), w)
    | (.ok (), w) => skipFields reg element owner rest w

/-- Passes one element, through at most `budget` nested messages. -/
def skipElement (reg : Registry) : Nat → ElementWalker
  | budget, owner, type, w =>
    match type with
    | .primitive p => w.skipPrimitive p
    | _ =>
      match reg.resolve owner type with
      | .error e => (.error e, w)
      | .ok m =>
        match budget with
        | 0 => (.error (.endless m.fullName), w)
        | budget + 1 => skipFields reg (skipElement reg budget) m.package m.fields w

/-- Passes one message of this name and says how many bytes it occupies. -/
def skipMessage (reg : Registry) (w : Walker) (name : String) : Walked Nat :=
  match reg.find? name with
  | none => (.error (.unknownMessage name), w)
  | some m =>
    let element := skipElement reg (reg.nestingBudget w.remaining.length)
    match skipFields reg element m.package m.fields w with
    | (.error e, after) => (.error e, after)
    | (.ok (), after) => (.ok (after.position - w.position), after)

end Walker

/-- The number of bytes that the message of this name occupies at the start of a byte string. -/
def Registry.extent (reg : Registry) (name : String) (bytes : Bytes) : Except CodecError Nat :=
  ((Walker.ofBytes bytes).skipMessage reg name).1

end Missive
