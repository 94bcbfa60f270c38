/-!
# ASCII

Octets below 0x80 as text, one character each.
-/

namespace AmqpClient.Text.Ascii

/-- An octet outside ASCII, and where it stands. -/
structure Foreign where
  byte : UInt8
  index : Nat
  deriving DecidableEq, Repr

/-- Reads the octets from `index` on, up to the first foreign one. -/
def scan (index : Nat) : List UInt8 → Except Foreign (List Char)
  | [] => .ok []
  | b :: rest =>
    if b.toNat < 0x80 then (Char.ofNat b.toNat :: ·) <$> scan (index + 1) rest
    else .error ⟨b, index⟩

def decode (bytes : List UInt8) : Except Foreign String :=
  String.ofList <$> scan 0 bytes

end AmqpClient.Text.Ascii
