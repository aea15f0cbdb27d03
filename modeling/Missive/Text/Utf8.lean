/-!
# UTF-8 text

Texts travel as bytes.  This file turns one into the other and says where a byte string stops
being text.

* `encode`, `decode` -- text to bytes, and back if the bytes are text;
* `Fault` -- the first place that is not UTF-8, with its wording;
* `decodeLossy` -- the text of any bytes, with a mark in every place that is not UTF-8;
* `decode_encode`, `encode_of_decode` -- the two are inverse to each other;
* `isAscii`, `asciiChars` -- texts that can be read off their bytes one by one.
-/

namespace Missive.Text.Utf8

/-- The first bytes that are no character.  `length` is the number of bytes that begin like one,
or `none` when the input ends in the middle of a character. -/
structure Fault where
  validUpTo : Nat
  length : Option Nat
  deriving DecidableEq, Repr

/-- The wording of a fault. -/
def Fault.message (fault : Fault) : String :=
  match fault.length with
  | some n => s!"invalid utf-8 sequence of {n} bytes from index {fault.validUpTo}"
  | none => s!"incomplete utf-8 byte sequence from index {fault.validUpTo}"

/-- An inclusive range of bytes. -/
abbrev Span := UInt8 × UInt8

/-- The bytes that may stand anywhere after the second place of a character. -/
def trailing : Span := (0x80, 0xBF)

/-- The ranges of the bytes that must follow this first byte, or `none` if it opens no
character. -/
def followers (b : UInt8) : Option (List Span) :=
  if b < 0x80 then some []
  else if 0xC2 ≤ b && b ≤ 0xDF then some [trailing]
  else if b == 0xE0 then some [(0xA0, 0xBF), trailing]
  else if b == 0xED then some [(0x80, 0x9F), trailing]
  else if 0xE1 ≤ b && b ≤ 0xEF then some [trailing, trailing]
  else if b == 0xF0 then some [(0x90, 0xBF), trailing, trailing]
  else if 0xF1 ≤ b && b ≤ 0xF3 then some [trailing, trailing, trailing]
  else if b == 0xF4 then some [(0x80, 0x8F), trailing, trailing]
  else none

/-- Looks for the first fault.  The character being read starts at index `start`, `seen` of its
bytes have passed, and the ranges of the others are given. -/
def faultFrom (start seen : Nat) : List Span → List UInt8 → Option Fault
  | [], [] => none
  | [], b :: rest =>
    match followers b with
    | none => some ⟨start + seen, some 1⟩
    | some spans => faultFrom (start + seen) 1 spans rest
  | _ :: _, [] => some ⟨start, none⟩
  | (low, high) :: spans, b :: rest =>
    if low ≤ b && b ≤ high then faultFrom start (seen + 1) spans rest
    else some ⟨start, some seen⟩

/-- The first fault of a byte string, if there is one. -/
def fault? (bytes : List UInt8) : Option Fault :=
  faultFrom 0 0 [] bytes

/-- The bytes of a text. -/
def encode (text : String) : List UInt8 :=
  text.toByteArray.data.toList

/-- The text of these bytes.  The scan is only asked for the place of a fault when there is
one. -/
def decode (bytes : List UInt8) : Except Fault String :=
  let whole : ByteArray := ⟨bytes.toArray⟩
  if h : whole.IsValidUTF8 then .ok (String.fromUTF8 whole h)
  else .error ((fault? bytes).getD ⟨0, none⟩)

/-- What stands for bytes that are no character. -/
def replacement : String := "\ufffd"

/-- The text of these bytes, each fault replaced, with a bound on the number of faults. -/
def decodeLossyWithin : Nat → List UInt8 → String
  | faults, bytes =>
    match decode bytes with
    | .ok text => text
    | .error fault =>
      let front := (decode (bytes.take fault.validUpTo)).toOption.getD ""
      match faults, fault.length with
      | faults + 1, some length =>
        front ++ replacement ++ decodeLossyWithin faults (bytes.drop (fault.validUpTo + length))
      | _, _ => front ++ replacement

/-- The text of these bytes, each fault replaced. -/
def decodeLossy (bytes : List UInt8) : String :=
  decodeLossyWithin bytes.length bytes

theorem decode_encode (text : String) : decode (encode text) = .ok text := by
  have h : (⟨(encode text).toArray⟩ : ByteArray) = text.toByteArray := by simp [encode]
  have hv := text.isValidUTF8
  simp only [decode, h, hv, dif_pos]
  rfl

/-- In a text there is nothing to replace. -/
@[simp]
theorem decodeLossy_encode (text : String) : decodeLossy (encode text) = text := by
  rw [decodeLossy, decodeLossyWithin, decode_encode]

theorem encode_of_decode {bytes : List UInt8} {text : String} (h : decode bytes = .ok text) :
    encode text = bytes := by
  simp only [decode] at h
  split at h
  · cases h
    simp [encode, String.fromUTF8]
  · cases h

/-! ## Characters of one byte -/

/-- Whether a text is made of characters of one byte each. -/
def isAscii (text : String) : Bool :=
  (encode text).all (· < 0x80)

/-- The character of one byte. -/
def asciiChar (b : UInt8) : Char :=
  Char.ofNat b.toNat

/-- The characters of a text, if each is one byte long. -/
def asciiChars (text : String) : List Char :=
  (encode text).map asciiChar

theorem utf8EncodeChar_asciiChar {b : UInt8} (h : b < 0x80) :
    String.utf8EncodeChar (asciiChar b) = [b] := by
  have hall : ∀ n < 0x80, String.utf8EncodeChar (Char.ofNat n) = [UInt8.ofNat n] := by
    decide
  rw [asciiChar, hall b.toNat (UInt8.lt_iff_toNat_lt.1 h), UInt8.ofNat_toNat]

theorem flatMap_asciiChar {bytes : List UInt8} (h : bytes.all (· < 0x80) = true) :
    (bytes.map asciiChar).flatMap String.utf8EncodeChar = bytes := by
  induction bytes with
  | nil => rfl
  | cons b rest ih =>
    rw [List.all_cons, Bool.and_eq_true, decide_eq_true_eq] at h
    rw [List.map_cons, List.flatMap_cons, utf8EncodeChar_asciiChar h.1, ih h.2,
      List.singleton_append]

/-- Such a text is read off its bytes one by one. -/
theorem asciiChars_eq {text : String} (h : isAscii text = true) :
    asciiChars text = text.toList := by
  have htext : String.ofList (asciiChars text) = text := by
    rw [← String.toByteArray_inj, String.toByteArray_ofList, List.utf8Encode, asciiChars,
      flatMap_asciiChar h]
    ext1
    simp [encode]
  rw [← String.toList_ofList (l := asciiChars text), htext]

end Missive.Text.Utf8
