/-!
Text as UTF-8 bytes: the strict reading, which says where and why it fails, and the lenient reading,
which puts U+FFFD in place of each longest run of bytes that cannot begin a character.
-/
namespace Scriptlet.Text.Utf8

inductive Reason where
  | invalidStart
  | invalidContinuation
  | unexpectedEnd
  deriving DecidableEq, Repr

def Reason.message : Reason → String
  | .invalidStart => "invalid start byte"
  | .invalidContinuation => "invalid continuation byte"
  | .unexpectedEnd => "unexpected end of data"

inductive Front where
  | char (c : Char) (size : Nat)
  | fault (reason : Reason) (size : Nat)

/-- Reads the bytes after the first one of a character of `count` more bytes. The first of them has to
lie between `low` and `high`, `value` is what the bytes before stand for and `taken` their number. -/
private def continueWith (low high : Nat) (value taken : Nat) : Nat → List UInt8 → Front
  | 0, _ => .char (Char.ofNat value) taken
  | _ + 1, [] => .fault .unexpectedEnd taken
  | count + 1, b :: rest =>
    if low ≤ b.toNat && b.toNat ≤ high then
      continueWith 0x80 0xbf (value * 64 + (b.toNat - 0x80)) (taken + 1) count rest
    else .fault .invalidContinuation taken

def front (b : UInt8) (rest : List UInt8) : Front :=
  let n := b.toNat
  if n < 0x80 then .char (Char.ofNat n) 1
  else if n < 0xc2 then .fault .invalidStart 1
  else if n < 0xe0 then continueWith 0x80 0xbf (n - 0xc0) 1 1 rest
  else if n < 0xf0 then
    continueWith (if n = 0xe0 then 0xa0 else 0x80) (if n = 0xed then 0x9f else 0xbf) (n - 0xe0) 1 2 rest
  else if n < 0xf5 then
    continueWith (if n = 0xf0 then 0x90 else 0x80) (if n = 0xf4 then 0x8f else 0xbf) (n - 0xf0) 1 3 rest
  else .fault .invalidStart 1

/-- The lenient reading, after passing over `skip` bytes that are already read. -/
private def lossyFrom : Nat → List UInt8 → List Char
  | _, [] => []
  | skip + 1, _ :: rest => lossyFrom skip rest
  | 0, b :: rest =>
    match front b rest with
    | .char c size => c :: lossyFrom (size - 1) rest
    | .fault _ size => '\ufffd' :: lossyFrom (size - 1) rest

def decodeLossy (bytes : ByteArray) : String := String.ofList (lossyFrom 0 bytes.toList)

structure Fault where
  offset : Nat
  size : Nat
  byte : UInt8
  reason : Reason

private def faultFrom (offset : Nat) : Nat → List UInt8 → Option Fault
  | _, [] => none
  | skip + 1, _ :: rest => faultFrom (offset + 1) skip rest
  | 0, b :: rest =>
    match front b rest with
    | .char _ size => faultFrom (offset + 1) (size - 1) rest
    | .fault reason size => some ⟨offset, size, b, reason⟩

def decode (bytes : ByteArray) : Except Fault String :=
  match String.fromUTF8? bytes with
  | some text => .ok text
  | none => .error ((faultFrom 0 0 bytes.toList).getD ⟨0, 1, 0, .invalidStart⟩)

theorem decode_eq_ok_iff {bytes : ByteArray} {text : String} :
    decode bytes = .ok text ↔ bytes = text.toUTF8 := by
  constructor
  · intro read
    simp only [decode, String.fromUTF8?] at read
    split at read
    next found =>
      split at found
      · cases found
        cases read
        rfl
      · cases found
    next => cases read
  · rintro rfl
    have valid : String.fromUTF8? text.toUTF8 = some text := dif_pos text.isValidUTF8
    rw [decode, valid]

end Scriptlet.Text.Utf8
