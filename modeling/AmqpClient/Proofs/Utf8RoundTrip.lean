import AmqpClient.Text.Utf8
import Mathlib.Tactic.Lemma

/-!
# Reading back what was encoded

The decoder gives back every text from its encoding, one character at a time. Only the character
U+0000 is encoded with a zero octet.
-/

namespace AmqpClient.Text.Utf8

/-! ### One octet -/

lemma lead_of_lt {b : UInt8} (h : b.toNat < 0x80) : lead b = .whole (.ofNat b.toNat) :=
  if_pos h

lemma lead_of_two {b : UInt8} (hlow : 0xc2 ≤ b.toNat) (hhigh : b.toNat < 0xe0) :
    lead b = .part ⟨b.toNat - 0xc0, 1, 0x80, 0xbf⟩ := by
  unfold lead
  dsimp only
  rw [if_neg (by omega), if_neg (by omega), if_pos hhigh]

lemma lead_of_three {b : UInt8} (hlow : 0xe0 ≤ b.toNat) (hhigh : b.toNat < 0xf0) :
    lead b = .part ⟨b.toNat - 0xe0, 2, if b.toNat = 0xe0 then 0xa0 else 0x80,
      if b.toNat = 0xed then 0x9f else 0xbf⟩ := by
  unfold lead
  dsimp only
  rw [if_neg (by omega), if_neg (by omega), if_neg (by omega)]
  by_cases he : b.toNat = 0xe0
  · rw [if_pos he, if_pos he, if_neg (by omega), he]
  by_cases hd : b.toNat = 0xed
  · rw [if_neg he, if_neg he, if_pos hd, if_pos hd, hd]
  · rw [if_neg he, if_neg he, if_neg hd, if_neg hd, if_pos hhigh]

lemma lead_of_four {b : UInt8} (hlow : 0xf0 ≤ b.toNat) (hhigh : b.toNat < 0xf5) :
    lead b = .part ⟨b.toNat - 0xf0, 3, if b.toNat = 0xf0 then 0x90 else 0x80,
      if b.toNat = 0xf4 then 0x8f else 0xbf⟩ := by
  unfold lead
  dsimp only
  rw [if_neg (by omega), if_neg (by omega), if_neg (by omega), if_neg (by omega),
    if_neg (by omega), if_neg (by omega)]
  by_cases he : b.toNat = 0xf0
  · rw [if_pos he, if_pos he, if_neg (by omega), he]
  by_cases hd : b.toNat = 0xf4
  · rw [if_neg he, if_neg he, if_neg (by omega), if_pos hd, if_pos hd, hd]
  · rw [if_neg he, if_neg he, if_neg hd, if_neg hd, if_pos (by omega)]

/-! ### A run of octets -/

variable {b : UInt8} {p : Pending}

lemma scan_whole {c : Char} (h : lead b = .whole c) (index : Nat) (rest : List UInt8) :
    scan none index (b :: rest) = (c :: ·) <$> scan none (index + 1) rest := by
  simp only [scan, h]

lemma scan_part (h : lead b = .part p) (index : Nat) (rest : List UInt8) :
    scan none index (b :: rest) = scan (some (index, p)) (index + 1) rest := by
  simp only [scan, h]

lemma admits_iff : p.admits b = true ↔ p.low ≤ b.toNat ∧ b.toNat ≤ p.high := by
  simp [Pending.admits]

lemma scan_last (hlow : p.low ≤ b.toNat) (hhigh : b.toNat ≤ p.high) (hlast : p.missing = 1)
    (start index : Nat) (rest : List UInt8) :
    scan (some (start, p)) index (b :: rest) =
      (Char.ofNat (p.bits * 0x40 + b.toNat % 0x40) :: ·) <$> scan none (index + 1) rest := by
  have hnone : (p.add b).missing = 0 := by
    rw [Pending.add, hlast]
  simp only [scan, if_pos (admits_iff.2 ⟨hlow, hhigh⟩), if_pos hnone]
  rfl

lemma scan_more (hlow : p.low ≤ b.toNat) (hhigh : b.toNat ≤ p.high) (hmore : 2 ≤ p.missing)
    (start index : Nat) (rest : List UInt8) :
    scan (some (start, p)) index (b :: rest) =
      scan (some (start, p.add b)) (index + 1) rest := by
  have hsome : (p.add b).missing ≠ 0 := by
    change p.missing - 1 ≠ 0
    omega
  simp only [scan, if_pos (admits_iff.2 ⟨hlow, hhigh⟩), if_neg hsome]

lemma toNat_octet {n : Nat} (h : n < 256) : (UInt8.ofNat n).toNat = n :=
  UInt8.toNat_ofNat_of_lt' h

/-! ### One character -/

lemma scan_two {n : Nat} (hlow : 0x80 ≤ n) (hhigh : n < 0x800) (index : Nat) (rest : List UInt8) :
    scan none index (.ofNat (0xc0 + n / 0x40) :: .ofNat (0x80 + n % 0x40) :: rest) =
      (Char.ofNat n :: ·) <$> scan none (index + 2) rest := by
  have hfirst := toNat_octet (n := 0xc0 + n / 0x40) (by omega)
  have hsecond := toNat_octet (n := 0x80 + n % 0x40) (by omega)
  have hlead := lead_of_two (b := .ofNat (0xc0 + n / 0x40)) (by omega) (by omega)
  have hbits : (0xc0 + n / 0x40 - 0xc0) * 0x40 + (0x80 + n % 0x40) % 0x40 = n := by omega
  rw [hfirst] at hlead
  rw [scan_part hlead, scan_last (by dsimp only; omega) (by dsimp only; omega) rfl, hsecond, hbits]

lemma scan_three {n : Nat} (hlow : 0x800 ≤ n) (hhigh : n < 0x10000)
    (hscalar : n < 0xd800 ∨ 0xdfff < n) (index : Nat) (rest : List UInt8) :
    scan none index (.ofNat (0xe0 + n / 0x1000) :: .ofNat (0x80 + n / 0x40 % 0x40) ::
      .ofNat (0x80 + n % 0x40) :: rest) = (Char.ofNat n :: ·) <$> scan none (index + 3) rest := by
  have hfirst := toNat_octet (n := 0xe0 + n / 0x1000) (by omega)
  have hsecond := toNat_octet (n := 0x80 + n / 0x40 % 0x40) (by omega)
  have hthird := toNat_octet (n := 0x80 + n % 0x40) (by omega)
  have hlead := lead_of_three (b := .ofNat (0xe0 + n / 0x1000)) (by omega) (by omega)
  have hbits : ((0xe0 + n / 0x1000 - 0xe0) * 0x40 + (0x80 + n / 0x40 % 0x40) % 0x40) * 0x40 +
      (0x80 + n % 0x40) % 0x40 = n := by omega
  -- overlong forms and surrogates are out of range
  have hover : (if 0xe0 + n / 0x1000 = 0xe0 then 0xa0 else 0x80) ≤ 0x80 + n / 0x40 % 0x40 := by
    split <;> omega
  have hunder : 0x80 + n / 0x40 % 0x40 ≤ if 0xe0 + n / 0x1000 = 0xed then 0x9f else 0xbf := by
    split <;> omega
  rw [hfirst] at hlead
  rw [scan_part hlead, scan_more (by rw [hsecond]; exact hover) (by rw [hsecond]; exact hunder)
      (Nat.le_refl 2),
    scan_last (by rw [hthird]; exact Nat.le_add_right ..)
      (by rw [hthird, Pending.add]; dsimp only; omega) rfl,
    Pending.add, hsecond, hthird, hbits]

lemma scan_four {n : Nat} (hlow : 0x10000 ≤ n) (hhigh : n < 0x110000) (index : Nat)
    (rest : List UInt8) :
    scan none index (.ofNat (0xf0 + n / 0x40000) :: .ofNat (0x80 + n / 0x1000 % 0x40) ::
      .ofNat (0x80 + n / 0x40 % 0x40) :: .ofNat (0x80 + n % 0x40) :: rest) =
      (Char.ofNat n :: ·) <$> scan none (index + 4) rest := by
  have hfirst := toNat_octet (n := 0xf0 + n / 0x40000) (by omega)
  have hsecond := toNat_octet (n := 0x80 + n / 0x1000 % 0x40) (by omega)
  have hthird := toNat_octet (n := 0x80 + n / 0x40 % 0x40) (by omega)
  have hfourth := toNat_octet (n := 0x80 + n % 0x40) (by omega)
  have hlead := lead_of_four (b := .ofNat (0xf0 + n / 0x40000)) (by omega) (by omega)
  have hbits : (((0xf0 + n / 0x40000 - 0xf0) * 0x40 + (0x80 + n / 0x1000 % 0x40) % 0x40) * 0x40 +
      (0x80 + n / 0x40 % 0x40) % 0x40) * 0x40 + (0x80 + n % 0x40) % 0x40 = n := by omega
  -- overlong forms and values above U+10FFFF are out of range
  have hover : (if 0xf0 + n / 0x40000 = 0xf0 then 0x90 else 0x80) ≤ 0x80 + n / 0x1000 % 0x40 := by
    split <;> omega
  have hunder : 0x80 + n / 0x1000 % 0x40 ≤ if 0xf0 + n / 0x40000 = 0xf4 then 0x8f else 0xbf := by
    split <;> omega
  rw [hfirst] at hlead
  rw [scan_part hlead, scan_more (by rw [hsecond]; exact hover) (by rw [hsecond]; exact hunder)
      (Nat.le_succ 2),
    scan_more (by rw [hthird]; exact Nat.le_add_right ..)
      (by rw [hthird, Pending.add]; dsimp only; omega) (Nat.le_refl 2),
    scan_last (by rw [hfourth]; exact Nat.le_add_right ..)
      (by rw [hfourth, Pending.add]; dsimp only; omega) rfl,
    Pending.add, Pending.add, hsecond, hthird, hfourth, hbits]

lemma toNat_char_cases (c : Char) :
    c.toNat < 0xd800 ∨ 0xdfff < c.toNat ∧ c.toNat < 0x110000 :=
  c.valid

/-- The decoder reads one encoded character and goes on behind it. -/
theorem scan_encodeChar (c : Char) (index : Nat) (rest : List UInt8) :
    scan none index (encodeChar c ++ rest) =
      (c :: ·) <$> scan none (index + (encodeChar c).length) rest := by
  have hscalar := toNat_char_cases c
  unfold encodeChar
  dsimp only
  by_cases h1 : c.toNat < 0x80
  · have hb := toNat_octet (n := c.toNat) (by omega)
    have hlead := lead_of_lt (b := .ofNat c.toNat) (by omega)
    rw [hb, Char.ofNat_toNat] at hlead
    rw [if_pos h1]
    exact scan_whole hlead index rest
  by_cases h2 : c.toNat < 0x800
  · have hscan := scan_two (Nat.le_of_not_lt h1) h2 index rest
    rw [Char.ofNat_toNat] at hscan
    rw [if_neg h1, if_pos h2]
    exact hscan
  by_cases h3 : c.toNat < 0x10000
  · have hscan := scan_three (Nat.le_of_not_lt h2) h3 (by omega) index rest
    rw [Char.ofNat_toNat] at hscan
    rw [if_neg h1, if_neg h2, if_pos h3]
    exact hscan
  · have hscan := scan_four (Nat.le_of_not_lt h3) (by omega) index rest
    rw [Char.ofNat_toNat] at hscan
    rw [if_neg h1, if_neg h2, if_neg h3]
    exact hscan

/-! ### Text -/

lemma scan_flatMap_encodeChar (chars : List Char) (index : Nat) :
    scan none index (chars.flatMap encodeChar) = .ok chars := by
  induction chars generalizing index with
  | nil => rfl
  | cons c rest ih =>
    rw [List.flatMap_cons, scan_encodeChar, ih]
    rfl

theorem decode_encode (s : String) : decode (encode s) = .ok s := by
  rw [decode, encode, scan_flatMap_encodeChar]
  exact congrArg Except.ok String.ofList_toList

lemma encode_injective : Function.Injective encode := by
  intro s t h
  have hs := decode_encode s
  rw [h, decode_encode] at hs
  cases hs
  rfl

lemma zero_eq_octet_iff {n : Nat} (h : n < 256) : 0 = UInt8.ofNat n ↔ n = 0 := by
  rw [← UInt8.toNat_inj, toNat_octet h, eq_comm]
  rfl

/-- A zero octet encodes U+0000 and is part of no other character. -/
lemma zero_mem_encodeChar {c : Char} : 0 ∈ encodeChar c ↔ c = '\x00' := by
  have hscalar := toNat_char_cases c
  have hnul : c = '\x00' ↔ c.toNat = 0 := Char.toNat_inj.symm
  rw [hnul]
  unfold encodeChar
  dsimp only
  split
  · rw [List.mem_singleton, zero_eq_octet_iff (by omega)]
  split
  · simp only [List.mem_cons, List.not_mem_nil, or_false]
    rw [zero_eq_octet_iff (by omega), zero_eq_octet_iff (by omega)]
    omega
  split
  · simp only [List.mem_cons, List.not_mem_nil, or_false]
    rw [zero_eq_octet_iff (by omega), zero_eq_octet_iff (by omega), zero_eq_octet_iff (by omega)]
    omega
  · simp only [List.mem_cons, List.not_mem_nil, or_false]
    rw [zero_eq_octet_iff (by omega), zero_eq_octet_iff (by omega), zero_eq_octet_iff (by omega),
      zero_eq_octet_iff (by omega)]
    omega

lemma zero_mem_encode {s : String} : 0 ∈ encode s ↔ '\x00' ∈ s.toList := by
  simp only [encode, List.mem_flatMap, zero_mem_encodeChar, exists_eq_right]

end AmqpClient.Text.Utf8
