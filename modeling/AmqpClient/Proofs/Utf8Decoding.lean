import AmqpClient.Proofs.Utf8RoundTrip

/-!
# What the decoder accepts

The decoder accepts the encodings of texts, and nothing else.
-/

namespace AmqpClient.Text.Utf8

/-- Octets that complete a character, after those of which something is known. -/
inductive Completes : Pending → List UInt8 → Char → Prop
  | last {p : Pending} {b : UInt8} (hb : p.admits b = true) (hlast : (p.add b).missing = 0) :
    Completes p [b] (.ofNat (p.add b).bits)
  | more {p : Pending} {b : UInt8} {rest : List UInt8} {c : Char} (hb : p.admits b = true)
    (hmore : (p.add b).missing ≠ 0) (h : Completes (p.add b) rest c) : Completes p (b :: rest) c

/-- Octets that spell characters, the first of which may have begun before them. -/
def Spells : Option (Nat × Pending) → List UInt8 → List Char → Prop
  | none, bytes, chars => bytes = chars.flatMap encodeChar
  | some (_, p), bytes, chars => ∃ front c rest, Completes p front c ∧
      bytes = front ++ rest.flatMap encodeChar ∧ chars = c :: rest

/-- A number in the pattern of two octets, whether or not it is a character that is so encoded. -/
def twoOctets (n : Nat) : List UInt8 :=
  [.ofNat (0xc0 + n / 0x40), .ofNat (0x80 + n % 0x40)]

def threeOctets (n : Nat) : List UInt8 :=
  [.ofNat (0xe0 + n / 0x1000), .ofNat (0x80 + n / 0x40 % 0x40), .ofNat (0x80 + n % 0x40)]

def fourOctets (n : Nat) : List UInt8 :=
  [.ofNat (0xf0 + n / 0x40000), .ofNat (0x80 + n / 0x1000 % 0x40),
    .ofNat (0x80 + n / 0x40 % 0x40), .ofNat (0x80 + n % 0x40)]

/-- Octets that begin with what is no character. -/
inductive IllFormed : List UInt8 → Prop
  | stray {b : UInt8} (h : 0x80 ≤ b.toNat ∧ b.toNat < 0xc0) (rest : List UInt8) :
    IllFormed (b :: rest)
  | overlongTwo {n : Nat} (h : n < 0x80) (rest : List UInt8) : IllFormed (twoOctets n ++ rest)
  | overlongThree {n : Nat} (h : n < 0x800) (rest : List UInt8) : IllFormed (threeOctets n ++ rest)
  | overlongFour {n : Nat} (h : n < 0x10000) (rest : List UInt8) : IllFormed (fourOctets n ++ rest)
  | surrogate {n : Nat} (h : 0xd800 ≤ n ∧ n ≤ 0xdfff) (rest : List UInt8) :
    IllFormed (threeOctets n ++ rest)
  /-- A number above the last character. -/
  | beyond {n : Nat} (h : 0x110000 ≤ n ∧ n < 0x200000) (rest : List UInt8) :
    IllFormed (fourOctets n ++ rest)
  /-- The beginning of a character, at the end or before an octet that does not go on with it. -/
  | truncated (c : Char) {k : Nat} (hk : 0 < k ∧ k < (encodeChar c).length) {rest : List UInt8}
    (hnext : ∀ b ∈ rest.head?, b.toNat < 0x80 ∨ 0xc0 ≤ b.toNat) :
    IllFormed ((encodeChar c).take k ++ rest)

/-! ### One character -/

variable {b x y z : UInt8} {p : Pending} {c : Char} {bytes : List UInt8} {chars : List Char}

lemma toNat_ofNat_of_scalar {n : Nat} (h : n < 0xd800 ∨ 0xdfff < n ∧ n < 0x110000) :
    (Char.ofNat n).toNat = n := by
  unfold Char.ofNat
  rw [dif_pos h]
  rfl

lemma ofNat_of_eq_toNat {n : Nat} (h : n = b.toNat) : UInt8.ofNat n = b := by
  rw [h, UInt8.ofNat_toNat]

lemma lead_invalid (h : 0x80 ≤ b.toNat ∧ b.toNat < 0xc2 ∨ 0xf5 ≤ b.toNat) :
    lead b = .invalid := by
  unfold lead
  dsimp only
  rw [if_neg (by omega)]
  by_cases hlow : b.toNat < 0xc2
  · rw [if_pos hlow]
  · rw [if_neg hlow, if_neg (by omega), if_neg (by omega), if_neg (by omega), if_neg (by omega),
      if_neg (by omega), if_neg (by omega), if_neg (by omega)]

/-- The first octet of a character tells how many octets there are, and what the second can be. -/
lemma lead_cases (b : UInt8) :
    (b.toNat < 0x80 ∧ lead b = .whole (.ofNat b.toNat)) ∨
    (0xc2 ≤ b.toNat ∧ b.toNat < 0xe0 ∧ lead b = .part ⟨b.toNat - 0xc0, 1, 0x80, 0xbf⟩) ∨
    (0xe0 ≤ b.toNat ∧ b.toNat < 0xf0 ∧ lead b = .part ⟨b.toNat - 0xe0, 2,
      if b.toNat = 0xe0 then 0xa0 else 0x80, if b.toNat = 0xed then 0x9f else 0xbf⟩) ∨
    (0xf0 ≤ b.toNat ∧ b.toNat < 0xf5 ∧ lead b = .part ⟨b.toNat - 0xf0, 3,
      if b.toNat = 0xf0 then 0x90 else 0x80, if b.toNat = 0xf4 then 0x8f else 0xbf⟩) ∨
    lead b = .invalid := by
  have hrange : b.toNat < 0x80 ∨ (0xc2 ≤ b.toNat ∧ b.toNat < 0xe0) ∨
      (0xe0 ≤ b.toNat ∧ b.toNat < 0xf0) ∨ (0xf0 ≤ b.toNat ∧ b.toNat < 0xf5) ∨
      (0x80 ≤ b.toNat ∧ b.toNat < 0xc2 ∨ 0xf5 ≤ b.toNat) := by omega
  rcases hrange with h1 | ⟨hlow, hhigh⟩ | ⟨hlow, hhigh⟩ | ⟨hlow, hhigh⟩ | hnone
  · exact .inl ⟨h1, lead_of_lt h1⟩
  · exact .inr (.inl ⟨hlow, hhigh, lead_of_two hlow hhigh⟩)
  · exact .inr (.inr (.inl ⟨hlow, hhigh, lead_of_three hlow hhigh⟩))
  · exact .inr (.inr (.inr (.inl ⟨hlow, hhigh, lead_of_four hlow hhigh⟩)))
  · exact .inr (.inr (.inr (.inr (lead_invalid hnone))))

/-- An octet that begins a character and does not end it. -/
lemma lead_part_cases (h : lead b = .part p) :
    (0xc2 ≤ b.toNat ∧ b.toNat < 0xe0 ∧ p = ⟨b.toNat - 0xc0, 1, 0x80, 0xbf⟩) ∨
    (0xe0 ≤ b.toNat ∧ b.toNat < 0xf0 ∧ p = ⟨b.toNat - 0xe0, 2,
      if b.toNat = 0xe0 then 0xa0 else 0x80, if b.toNat = 0xed then 0x9f else 0xbf⟩) ∨
    (0xf0 ≤ b.toNat ∧ b.toNat < 0xf5 ∧ p = ⟨b.toNat - 0xf0, 3,
      if b.toNat = 0xf0 then 0x90 else 0x80, if b.toNat = 0xf4 then 0x8f else 0xbf⟩) := by
  rcases lead_cases b with ⟨-, he⟩ | ⟨hlow, hhigh, he⟩ | ⟨hlow, hhigh, he⟩ | ⟨hlow, hhigh, he⟩ | he
  · cases he.symm.trans h
  · exact .inl ⟨hlow, hhigh, Lead.part.inj (h.symm.trans he)⟩
  · exact .inr (.inl ⟨hlow, hhigh, Lead.part.inj (h.symm.trans he)⟩)
  · exact .inr (.inr ⟨hlow, hhigh, Lead.part.inj (h.symm.trans he)⟩)
  · cases he.symm.trans h

lemma encodeChar_whole (h : lead b = .whole c) : encodeChar c = [b] := by
  rcases lead_cases b with ⟨hb, he⟩ | ⟨-, -, he⟩ | ⟨-, -, he⟩ | ⟨-, -, he⟩ | he
  all_goals
    rw [he] at h
    cases h
  have hc := toNat_ofNat_of_scalar (n := b.toNat) (by omega)
  unfold encodeChar
  dsimp only
  rw [hc, if_pos hb, UInt8.ofNat_toNat]

lemma encodeChar_two (hlow : 0xc2 ≤ b.toNat) (hhigh : b.toNat < 0xe0)
    (hx : 0x80 ≤ x.toNat ∧ x.toNat ≤ 0xbf) :
    encodeChar (.ofNat ((b.toNat - 0xc0) * 0x40 + x.toNat % 0x40)) = [b, x] := by
  have hc := toNat_ofNat_of_scalar (n := (b.toNat - 0xc0) * 0x40 + x.toNat % 0x40) (by omega)
  unfold encodeChar
  dsimp only
  rw [hc, if_neg (by omega), if_pos (by omega), ofNat_of_eq_toNat (b := b) (by omega),
    ofNat_of_eq_toNat (b := x) (by omega)]

lemma encodeChar_three (hlow : 0xe0 ≤ b.toNat) (hhigh : b.toNat < 0xf0)
    (hx : (if b.toNat = 0xe0 then 0xa0 else 0x80) ≤ x.toNat ∧
      x.toNat ≤ if b.toNat = 0xed then 0x9f else 0xbf)
    (hy : 0x80 ≤ y.toNat ∧ y.toNat ≤ 0xbf) :
    encodeChar (.ofNat (((b.toNat - 0xe0) * 0x40 + x.toNat % 0x40) * 0x40 + y.toNat % 0x40)) =
      [b, x, y] := by
  have hrange : 0x80 ≤ x.toNat ∧ x.toNat ≤ 0xbf ∧ (b.toNat = 0xe0 → 0xa0 ≤ x.toNat) ∧
      (b.toNat = 0xed → x.toNat ≤ 0x9f) := by
    split at hx <;> split at hx <;> omega
  clear hx
  have hc := toNat_ofNat_of_scalar
    (n := ((b.toNat - 0xe0) * 0x40 + x.toNat % 0x40) * 0x40 + y.toNat % 0x40) (by omega)
  unfold encodeChar
  dsimp only
  rw [hc, if_neg (by omega), if_neg (by omega), if_pos (by omega),
    ofNat_of_eq_toNat (b := b) (by omega), ofNat_of_eq_toNat (b := x) (by omega),
    ofNat_of_eq_toNat (b := y) (by omega)]

lemma encodeChar_four (hlow : 0xf0 ≤ b.toNat) (hhigh : b.toNat < 0xf5)
    (hx : (if b.toNat = 0xf0 then 0x90 else 0x80) ≤ x.toNat ∧
      x.toNat ≤ if b.toNat = 0xf4 then 0x8f else 0xbf)
    (hy : 0x80 ≤ y.toNat ∧ y.toNat ≤ 0xbf) (hz : 0x80 ≤ z.toNat ∧ z.toNat ≤ 0xbf) :
    encodeChar (.ofNat ((((b.toNat - 0xf0) * 0x40 + x.toNat % 0x40) * 0x40 +
      y.toNat % 0x40) * 0x40 + z.toNat % 0x40)) = [b, x, y, z] := by
  have hrange : 0x80 ≤ x.toNat ∧ x.toNat ≤ 0xbf ∧ (b.toNat = 0xf0 → 0x90 ≤ x.toNat) ∧
      (b.toNat = 0xf4 → x.toNat ≤ 0x8f) := by
    split at hx <;> split at hx <;> omega
  clear hx
  have hc := toNat_ofNat_of_scalar (n := (((b.toNat - 0xf0) * 0x40 + x.toNat % 0x40) * 0x40 +
    y.toNat % 0x40) * 0x40 + z.toNat % 0x40) (by omega)
  unfold encodeChar
  dsimp only
  rw [hc, if_neg (by omega), if_neg (by omega), if_neg (by omega),
    ofNat_of_eq_toNat (b := b) (by omega), ofNat_of_eq_toNat (b := x) (by omega),
    ofNat_of_eq_toNat (b := y) (by omega), ofNat_of_eq_toNat (b := z) (by omega)]

/-! ### What is read inside a character -/

lemma Completes.one (h : Completes p bytes c) (hlast : p.missing = 1) :
    ∃ x, bytes = [x] ∧ (p.low ≤ x.toNat ∧ x.toNat ≤ p.high) ∧
      c = .ofNat (p.bits * 0x40 + x.toNat % 0x40) := by
  cases h with
  | last hb => exact ⟨_, rfl, admits_iff.1 hb, rfl⟩
  | more _ hmore => exact absurd (show p.missing - 1 = 0 by omega) hmore

lemma Completes.next (h : Completes p bytes c) (hmore : 2 ≤ p.missing) :
    ∃ x rest, bytes = x :: rest ∧ (p.low ≤ x.toNat ∧ x.toNat ≤ p.high) ∧
      Completes (p.add x) rest c := by
  cases h with
  | last _ hlast => exact absurd hlast (show p.missing - 1 ≠ 0 by omega)
  | more hb _ h => exact ⟨_, _, rfl, admits_iff.1 hb, h⟩

/-- The octets that complete a character are its encoding without the first octet. -/
lemma Completes.encodeChar_eq (h : Completes p bytes c) (hlead : lead b = .part p) :
    encodeChar c = b :: bytes := by
  rcases lead_part_cases hlead with ⟨hlow, hhigh, rfl⟩ | ⟨hlow, hhigh, rfl⟩ | ⟨hlow, hhigh, rfl⟩
  · obtain ⟨x, rfl, hx, rfl⟩ := h.one rfl
    exact encodeChar_two hlow hhigh hx
  · obtain ⟨x, rest, rfl, hx, hrest⟩ := h.next (Nat.le_refl 2)
    obtain ⟨y, rfl, hy, rfl⟩ := hrest.one rfl
    exact encodeChar_three hlow hhigh hx hy
  · obtain ⟨x, rest, rfl, hx, hrest⟩ := h.next (Nat.le_succ 2)
    obtain ⟨y, last, rfl, hy, hlast⟩ := hrest.next (Nat.le_refl 2)
    obtain ⟨z, rfl, hz, rfl⟩ := hlast.one rfl
    exact encodeChar_four hlow hhigh hx hy hz

/-! ### What is read as text -/

lemma of_map_cons_eq_ok {x : Except Malformed (List Char)}
    (h : (c :: ·) <$> x = .ok chars) : ∃ rest, x = .ok rest ∧ chars = c :: rest := by
  cases x with
  | ok rest => cases h; exact ⟨rest, rfl, rfl⟩
  | error e => cases h

/-- What the decoder accepts is spelled by the octets. The induction is on the octets that are left,
inside of a character and between two. -/
lemma spells_of_scan {within : Option (Nat × Pending)} {index : Nat}
    (h : scan within index bytes = .ok chars) : Spells within bytes chars := by
  induction bytes generalizing within index chars with
  | nil =>
    cases within with
    | none => cases h; rfl
    | some begun => cases h
  | cons b bytes ih =>
    cases within with
    | none =>
      cases hlead : lead b with
      | whole c =>
        rw [scan_whole hlead] at h
        obtain ⟨rest, hrest, rfl⟩ := of_map_cons_eq_ok h
        have hspelled : bytes = rest.flatMap encodeChar := ih hrest
        change _ = (c :: rest).flatMap encodeChar
        rw [List.flatMap_cons, encodeChar_whole hlead, ← hspelled]
        rfl
      | part p =>
        rw [scan_part hlead] at h
        obtain ⟨front, c, rest, hfront, hbytes, rfl⟩ := ih h
        change _ = (c :: rest).flatMap encodeChar
        rw [List.flatMap_cons, hfront.encodeChar_eq hlead, hbytes]
        rfl
      | invalid =>
        simp only [scan, hlead] at h
        cases h
    | some begun =>
      obtain ⟨start, p⟩ := begun
      rw [scan] at h
      by_cases hb : p.admits b = true
      · simp only [if_pos hb] at h
        by_cases hlast : (p.add b).missing = 0
        · rw [if_pos hlast] at h
          obtain ⟨rest, hrest, rfl⟩ := of_map_cons_eq_ok h
          have hspelled : bytes = rest.flatMap encodeChar := ih hrest
          exact ⟨[b], _, rest, .last hb hlast, by rw [hspelled]; rfl, rfl⟩
        · rw [if_neg hlast] at h
          obtain ⟨front, c, rest, hfront, hbytes, hchars⟩ := ih h
          exact ⟨b :: front, c, rest, .more hb hlast hfront, by rw [hbytes]; rfl, hchars⟩
      · simp only [if_neg hb] at h
        cases h

/-- The decoder reads a text from its encoding only. -/
theorem decode_eq_ok_iff {s : String} : decode bytes = .ok s ↔ bytes = encode s := by
  constructor
  · intro h
    unfold decode at h
    cases hscan : scan none 0 bytes with
    | ok chars =>
      rw [hscan] at h
      cases h
      rw [encode, String.toList_ofList]
      exact spells_of_scan hscan
    | error e =>
      rw [hscan] at h
      cases h
  · rintro rfl
    exact decode_encode s

/-! ### The encoding that strings have in memory -/

/-- One character is encoded as in strings. -/
lemma encodeChar_eq_utf8EncodeChar (c : Char) : encodeChar c = String.utf8EncodeChar c := by
  have hscalar := toNat_char_cases c
  change _ = if c.toNat ≤ 127 then _ else if c.toNat ≤ 2047 then _ else if c.toNat ≤ 65535 then _
    else _
  unfold encodeChar
  dsimp only
  by_cases h1 : c.toNat < 0x80
  · rw [if_pos h1, if_pos (by omega)]
    rfl
  by_cases h2 : c.toNat < 0x800
  · have hfirst : 0xc0 + c.toNat / 0x40 = c.toNat / 64 % 32 + 192 := by omega
    have hlast : 0x80 + c.toNat % 0x40 = c.toNat % 64 + 128 := by omega
    rw [if_neg h1, if_pos h2, if_neg (by omega), if_pos (by omega), hfirst, hlast]
    rfl
  by_cases h3 : c.toNat < 0x10000
  · have hfirst : 0xe0 + c.toNat / 0x1000 = c.toNat / 4096 % 16 + 224 := by omega
    have hsecond : 0x80 + c.toNat / 0x40 % 0x40 = c.toNat / 64 % 64 + 128 := by omega
    have hlast : 0x80 + c.toNat % 0x40 = c.toNat % 64 + 128 := by omega
    rw [if_neg h1, if_neg h2, if_pos h3, if_neg (by omega), if_neg (by omega), if_pos (by omega),
      hfirst, hsecond, hlast]
    rfl
  · have hfirst : 0xf0 + c.toNat / 0x40000 = c.toNat / 262144 % 8 + 240 := by omega
    have hsecond : 0x80 + c.toNat / 0x1000 % 0x40 = c.toNat / 4096 % 64 + 128 := by omega
    have hthird : 0x80 + c.toNat / 0x40 % 0x40 = c.toNat / 64 % 64 + 128 := by omega
    have hlast : 0x80 + c.toNat % 0x40 = c.toNat % 64 + 128 := by omega
    rw [if_neg h1, if_neg h2, if_neg h3, if_neg (by omega), if_neg (by omega), if_neg (by omega),
      hfirst, hsecond, hthird, hlast]
    rfl

lemma encode_eq_toUTF8 (s : String) : encode s = s.toUTF8.data.toList := by
  have hchars : encodeChar = String.utf8EncodeChar := funext encodeChar_eq_utf8EncodeChar
  have htoUTF8 : s.toUTF8 = (s.toList.flatMap String.utf8EncodeChar).toByteArray := by
    conv => lhs; rw [← String.ofList_toList (s := s)]
    rfl
  rw [encode, hchars, htoUTF8, List.toList_data_toByteArray]

lemma encode_append (s t : String) : encode (s ++ t) = encode s ++ encode t := by
  rw [encode, String.toList_append, List.flatMap_append]
  rfl

lemma encode_ofList (chars : List Char) : encode (.ofList chars) = chars.flatMap encodeChar := by
  rw [encode, String.toList_ofList]

lemma encode_join (texts : List String) : encode (String.join texts) = texts.flatMap encode := by
  rw [encode, String.toList_join, List.flatMap_assoc]
  rfl

/-! ### What is refused -/

lemma scan_refused (hlead : lead b = .part p) (hx : ¬ (p.low ≤ x.toNat ∧ x.toNat ≤ p.high))
    {index : Nat} : scan none index (b :: x :: bytes) ≠ .ok chars := by
  rw [scan_part hlead, scan]
  simp only [if_neg (fun h => hx (admits_iff.1 h))]
  exact fun h => by cases h

lemma scan_not_begun (h : lead b = .invalid) {index : Nat} :
    scan none index (b :: bytes) ≠ .ok chars := by
  simp only [scan, h]
  exact fun h => by cases h

/-- Inside of a character there has to be another octet of it. -/
lemma scan_broken_off (hrange : 0x80 ≤ p.low ∧ p.high ≤ 0xbf)
    (hnext : ∀ b ∈ bytes.head?, b.toNat < 0x80 ∨ 0xc0 ≤ b.toNat) {start index : Nat} :
    scan (some (start, p)) index bytes ≠ .ok chars := by
  cases bytes with
  | nil => exact fun h => by cases h
  | cons b rest =>
    have hb := hnext b rfl
    have hadmits : ¬ p.admits b = true := fun h => by
      have hin := admits_iff.1 h
      omega
    rw [scan]
    simp only [if_neg hadmits]
    exact fun h => by cases h

lemma Completes.scan_cut (h : Completes p bytes c) (hrange : 0x80 ≤ p.low ∧ p.high ≤ 0xbf)
    {k : Nat} (hk : k < bytes.length) {rest : List UInt8}
    (hnext : ∀ b ∈ rest.head?, b.toNat < 0x80 ∨ 0xc0 ≤ b.toNat) {start index : Nat} :
    scan (some (start, p)) index (bytes.take k ++ rest) ≠ .ok chars := by
  induction h generalizing k index with
  | last _ _ =>
    obtain rfl : k = 0 := by
      rw [List.length_singleton] at hk
      omega
    exact scan_broken_off hrange hnext
  | @more p b tail _ hb hmore _ ih =>
    cases k with
    | zero => exact scan_broken_off hrange hnext
    | succ k =>
      have hin := admits_iff.1 hb
      rw [List.take_succ_cons, List.cons_append,
        scan_more hin.1 hin.2 (Nat.lt_of_sub_ne_zero hmore)]
      exact ih ⟨Nat.le_refl _, Nat.le_refl _⟩ (Nat.lt_of_succ_lt_succ hk)

/-- Something is missing then, and some octet of those that go on with a character can follow. -/
lemma range_of_lead (h : lead b = .part p) :
    p.missing ≠ 0 ∧ 0x80 ≤ p.low ∧ p.low ≤ p.high ∧ p.high ≤ 0xbf := by
  rcases lead_part_cases h with ⟨-, -, rfl⟩ | ⟨-, -, rfl⟩ | ⟨-, -, rfl⟩
  · exact ⟨Nat.one_ne_zero, by dsimp only; omega⟩
  · exact ⟨Nat.succ_ne_zero 1, by dsimp only; split <;> split <;> omega⟩
  · exact ⟨Nat.succ_ne_zero 2, by dsimp only; split <;> split <;> omega⟩

lemma scan_truncated {k : Nat} (hk : 0 < k ∧ k < (encodeChar c).length) {rest : List UInt8}
    (hnext : ∀ b ∈ rest.head?, b.toNat < 0x80 ∨ 0xc0 ≤ b.toNat) {index : Nat} :
    scan none index ((encodeChar c).take k ++ rest) ≠ .ok chars := by
  obtain ⟨k, rfl⟩ := Nat.exists_eq_add_of_le' hk.1
  -- the octets that are cut off would complete the character
  have hwhole := scan_flatMap_encodeChar [c] 0
  rw [List.flatMap_singleton] at hwhole
  cases hc : encodeChar c with
  | nil =>
    rw [hc] at hk
    cases hk.2
  | cons b tail =>
    rw [hc] at hwhole hk
    have hlt : k < tail.length := Nat.lt_of_succ_lt_succ hk.2
    cases hlead : lead b with
    | whole d =>
      rw [scan_whole hlead] at hwhole
      obtain ⟨others, hothers, heq⟩ := of_map_cons_eq_ok hwhole
      cases heq
      have htail : tail = [] := spells_of_scan hothers
      rw [htail] at hlt
      cases hlt
    | part p =>
      rw [scan_part hlead] at hwhole
      obtain ⟨front, d, others, hfront, htail, heq⟩ := spells_of_scan hwhole
      cases heq
      rw [List.flatMap_nil, List.append_nil] at htail
      rw [htail] at hlt ⊢
      rw [List.take_succ_cons, List.cons_append, scan_part hlead]
      obtain ⟨-, hlow, -, hhigh⟩ := range_of_lead hlead
      exact hfront.scan_cut ⟨hlow, hhigh⟩ hlt hnext
    | invalid => exact absurd hwhole (scan_not_begun hlead)

lemma scan_illFormed (h : IllFormed bytes) (index : Nat) : scan none index bytes ≠ .ok chars := by
  cases h with
  | stray hb rest => exact scan_not_begun (lead_invalid (by omega))
  | @overlongTwo n hn rest =>
    have hfirst := toNat_octet (n := 0xc0 + n / 0x40) (by omega)
    exact scan_not_begun (lead_invalid (by omega))
  | @overlongThree n hn rest =>
    have hfirst := toNat_octet (n := 0xe0 + n / 0x1000) (by omega)
    have hsecond := toNat_octet (n := 0x80 + n / 0x40 % 0x40) (by omega)
    have hlead := lead_of_three (b := .ofNat (0xe0 + n / 0x1000)) (by omega) (by omega)
    refine scan_refused hlead fun hx => ?_
    have hlow := hx.1
    dsimp only at hlow
    rw [hfirst, hsecond, if_pos (by omega)] at hlow
    omega
  | @overlongFour n hn rest =>
    have hfirst := toNat_octet (n := 0xf0 + n / 0x40000) (by omega)
    have hsecond := toNat_octet (n := 0x80 + n / 0x1000 % 0x40) (by omega)
    have hlead := lead_of_four (b := .ofNat (0xf0 + n / 0x40000)) (by omega) (by omega)
    refine scan_refused hlead fun hx => ?_
    have hlow := hx.1
    dsimp only at hlow
    rw [hfirst, hsecond, if_pos (by omega)] at hlow
    omega
  | @surrogate n hn rest =>
    have hfirst := toNat_octet (n := 0xe0 + n / 0x1000) (by omega)
    have hsecond := toNat_octet (n := 0x80 + n / 0x40 % 0x40) (by omega)
    have hlead := lead_of_three (b := .ofNat (0xe0 + n / 0x1000)) (by omega) (by omega)
    refine scan_refused hlead fun hx => ?_
    have hhigh := hx.2
    dsimp only at hhigh
    rw [hfirst, hsecond, if_pos (by omega)] at hhigh
    omega
  | @beyond n hn rest =>
    have hfirst := toNat_octet (n := 0xf0 + n / 0x40000) (by omega)
    have hsecond := toNat_octet (n := 0x80 + n / 0x1000 % 0x40) (by omega)
    by_cases hlast : 0xf0 + n / 0x40000 < 0xf5
    · have hlead := lead_of_four (b := .ofNat (0xf0 + n / 0x40000)) (by omega) (by omega)
      refine scan_refused hlead fun hx => ?_
      have hhigh := hx.2
      dsimp only at hhigh
      rw [hfirst, hsecond, if_pos (by omega)] at hhigh
      omega
    · exact scan_not_begun (lead_invalid (by omega))
  | truncated c hk hnext => exact scan_truncated hk hnext

/-- The decoder reads a text and goes on behind it. -/
lemma scan_flatMap_append (front : List Char) (bytes : List UInt8) (index : Nat) :
    scan none index (front.flatMap encodeChar ++ bytes) =
      (front ++ ·) <$> scan none (index + (front.flatMap encodeChar).length) bytes := by
  induction front generalizing index with
  | nil =>
    change scan none index bytes = _ <$> scan none index bytes
    cases scan none index bytes <;> rfl
  | cons c front ih =>
    rw [List.flatMap_cons, List.append_assoc, scan_encodeChar, ih, List.length_append,
      ← Nat.add_assoc]
    cases scan none (index + (encodeChar c).length + (front.flatMap encodeChar).length) bytes <;>
      rfl

/-- No text goes on with what is no character. -/
theorem decode_illFormed (front : String) (h : IllFormed bytes) (s : String) :
    decode (encode front ++ bytes) ≠ .ok s := by
  unfold decode encode
  rw [scan_flatMap_append]
  cases hscan : scan none (0 + (front.toList.flatMap encodeChar).length) bytes with
  | ok chars => exact absurd hscan (scan_illFormed h _)
  | error e => exact fun h => by cases h

end AmqpClient.Text.Utf8
