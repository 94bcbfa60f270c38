import AmqpClient.Text.Ascii
import AmqpClient.Text.Utf8

/-!
# Encodings

The two encodings that text has on the wire, and why octets may fail to be text.
-/

namespace AmqpClient.Text

/-- How text is written as octets: strings in UTF-8, symbols in ASCII. -/
inductive Encoding where
  | utf8
  | ascii
  deriving DecidableEq, Repr

/-- Why octets are not text. -/
inductive DecodeError where
  | utf8 (cause : Utf8.Malformed)
  | ascii (cause : Ascii.Foreign)
  deriving DecidableEq, Repr

def Encoding.decode : Encoding → List UInt8 → Except DecodeError String
  | .utf8, bytes => (Utf8.decode bytes).mapError .utf8
  | .ascii, bytes => (Ascii.decode bytes).mapError .ascii

/-- Two hexadecimal digits in lower case. -/
def hexByte (b : UInt8) : String :=
  String.ofList [Nat.digitChar (b.toNat / 16), Nat.digitChar (b.toNat % 16)]

def DecodeError.message : DecodeError → String
  | .utf8 (.invalid length index) =>
    s!"invalid utf-8 sequence of {length} bytes from index {index}"
  | .utf8 (.incomplete index) => s!"incomplete utf-8 byte sequence from index {index}"
  | .ascii ⟨byte, index⟩ => s!"non-ASCII byte 0x{hexByte byte} at offset {index}"

end AmqpClient.Text
