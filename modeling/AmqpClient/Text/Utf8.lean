/-!
# UTF-8

The encoding of text as octets, and a strict decoder that reads octets one at a time. It refuses
overlong forms, surrogates and values above U+10FFFF at the first octet that no character can have
in that place, and tells these from input that merely ends inside a character.
-/

namespace AmqpClient.Text.Utf8

/-- The octets of one character. -/
def encodeChar (c : Char) : List UInt8 :=
  let n := c.toNat
  if n < 0x80 then [.ofNat n]
  else if n < 0x800 then [.ofNat (0xc0 + n / 0x40), .ofNat (0x80 + n % 0x40)]
  else if n < 0x10000 then
    [.ofNat (0xe0 + n / 0x1000), .ofNat (0x80 + n / 0x40 % 0x40), .ofNat (0x80 + n % 0x40)]
  else
    [.ofNat (0xf0 + n / 0x40000), .ofNat (0x80 + n / 0x1000 % 0x40),
      .ofNat (0x80 + n / 0x40 % 0x40), .ofNat (0x80 + n % 0x40)]

def encode (s : String) : List UInt8 :=
  s.toList.flatMap encodeChar

/-- Why octets are not UTF-8. -/
inductive Malformed where
  /-- The `length` octets at `index` begin no character, whatever follows them. -/
  | invalid (length index : Nat)
  /-- The input ends inside the character that begins at `index`. -/
  | incomplete (index : Nat)
  deriving DecidableEq, Repr

/-- What is known inside a character: the bits read so far, how many octets are missing, and the
range of the next one. -/
structure Pending where
  bits : Nat
  missing : Nat
  low : Nat
  high : Nat
  deriving DecidableEq, Repr

/-- What the first octet of a character says: the character itself, or what has to follow. -/
inductive Lead where
  | whole (c : Char)
  | part (p : Pending)
  | invalid
  deriving DecidableEq, Repr

/-- The first octet of a character. The range of the second keeps out overlong forms (`e0`, `f0`),
surrogates (`ed`) and values above U+10FFFF (`f4`). -/
def lead (b : UInt8) : Lead :=
  let n := b.toNat
  if n < 0x80 then .whole (.ofNat n)
  else if n < 0xc2 then .invalid
  else if n < 0xe0 then .part ⟨n - 0xc0, 1, 0x80, 0xbf⟩
  else if n = 0xe0 then .part ⟨0, 2, 0xa0, 0xbf⟩
  else if n = 0xed then .part ⟨0xd, 2, 0x80, 0x9f⟩
  else if n < 0xf0 then .part ⟨n - 0xe0, 2, 0x80, 0xbf⟩
  else if n = 0xf0 then .part ⟨0, 3, 0x90, 0xbf⟩
  else if n < 0xf4 then .part ⟨n - 0xf0, 3, 0x80, 0xbf⟩
  else if n = 0xf4 then .part ⟨4, 3, 0x80, 0x8f⟩
  else .invalid

/-- Whether an octet may come next. -/
def Pending.admits (p : Pending) (b : UInt8) : Bool :=
  p.low ≤ b.toNat && b.toNat ≤ p.high

/-- What is known after one more octet. -/
def Pending.add (p : Pending) (b : UInt8) : Pending :=
  ⟨p.bits * 0x40 + b.toNat % 0x40, p.missing - 1, 0x80, 0xbf⟩

/-- Reads the octets from `index` on; `within` holds the beginning of the character the reader is
inside of, and what is known of it. -/
def scan (within : Option (Nat × Pending)) (index : Nat) :
    List UInt8 → Except Malformed (List Char)
  | [] =>
    match within with
    | none => .ok []
    | some (start, _) => .error (.incomplete start)
  | b :: rest =>
    match within with
    | none =>
      match lead b with
      | .whole c => (c :: ·) <$> scan none (index + 1) rest
      | .part p => scan (some (index, p)) (index + 1) rest
      | .invalid => .error (.invalid 1 index)
    | some (start, p) =>
      if p.admits b then
        let p := p.add b
        if p.missing = 0 then (Char.ofNat p.bits :: ·) <$> scan none (index + 1) rest
        else scan (some (start, p)) (index + 1) rest
      else .error (.invalid (index - start) start)

def decode (bytes : List UInt8) : Except Malformed String :=
  String.ofList <$> scan none 0 bytes

end AmqpClient.Text.Utf8
