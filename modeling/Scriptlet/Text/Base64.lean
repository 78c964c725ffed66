/-!
Bytes written in base 64: four characters for three bytes, six bits each. Characters outside the alphabet
are passed over, and a pad that completes a group ends the text.
-/
namespace Scriptlet.Text.Base64

def value? (c : Char) : Option Nat :=
  if 'A' ≤ c ∧ c ≤ 'Z' then some (c.toNat - 'A'.toNat)
  else if 'a' ≤ c ∧ c ≤ 'z' then some (c.toNat - 'a'.toNat + 26)
  else if '0' ≤ c ∧ c ≤ '9' then some (c.toNat - '0'.toNat + 52)
  else if c = '+' then some 62
  else if c = '/' then some 63
  else none

/-- Reads characters after `place` of a group, of which `left` is what is left of the last one, and after
`pads` pads in a row. A text that ends within a group is refused. -/
def decodeFrom (place left pads : Nat) : List Char → Option (List UInt8)
  | [] => if place = 0 then some [] else none
  | c :: rest =>
    if c = '=' then
      if 2 ≤ place then
        if 4 ≤ place + pads + 1 then some [] else decodeFrom place left (pads + 1) rest
      else decodeFrom place left pads rest
    else match value? c with
      | none => decodeFrom place left pads rest
      | some bits =>
        match place with
        | 0 => decodeFrom 1 bits 0 rest
        | 1 => (decodeFrom 2 (bits % 16) 0 rest).map ((left * 4 + bits / 16).toUInt8 :: ·)
        | 2 => (decodeFrom 3 (bits % 4) 0 rest).map ((left * 16 + bits / 4).toUInt8 :: ·)
        | _ => (decodeFrom 0 0 0 rest).map ((left * 64 + bits).toUInt8 :: ·)

def decode? (text : List Char) : Option (List UInt8) := decodeFrom 0 0 0 text

end Scriptlet.Text.Base64
