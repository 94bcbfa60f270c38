import AmqpClient.Text.Quoted
import Mathlib.Data.List.TakeWhile

/-!
# Quoted text can be read back

No two texts look the same in quotes. Each character is read back by itself, whatever stands behind
it: an escape by code point ends at its brace, and every other one has two characters.
-/

namespace AmqpClient.Text

/-- The value of a hexadecimal digit in lower case. -/
def hexDigitValue (c : Char) : Nat :=
  if c.toNat < 'a'.toNat then c.toNat - '0'.toNat else c.toNat - 'a'.toNat + 10

/-- The number that hexadecimal digits stand for. -/
def hexValue (digits : List Char) : Nat :=
  digits.foldl (fun n c => 16 * n + hexDigitValue c) 0

/-- The first character of text that stands in quotes, and what stands behind it. -/
def readEscaped? : List Char → Option (Char × List Char)
  | '\\' :: '0' :: rest => some ('\x00', rest)
  | '\\' :: 't' :: rest => some ('\t', rest)
  | '\\' :: 'r' :: rest => some ('\r', rest)
  | '\\' :: 'n' :: rest => some ('\n', rest)
  | '\\' :: '"' :: rest => some ('"', rest)
  | '\\' :: '\\' :: rest => some ('\\', rest)
  | '\\' :: 'u' :: '\x7b' :: rest =>
    some (.ofNat (hexValue (rest.takeWhile (· ≠ '\x7d'))), (rest.dropWhile (· ≠ '\x7d')).tail)
  | c :: rest => some (c, rest)
  | [] => none

variable {s t : List Char}

/-! ### Escapes by code point -/

lemma hexDigitValue_digitChar {d : Nat} (h : d < 16) : hexDigitValue (Nat.digitChar d) = d := by
  have hall : ∀ d < 16, hexDigitValue (Nat.digitChar d) = d := by decide
  exact hall d h

lemma hexValue_append (digits : List Char) (c : Char) :
    hexValue (digits ++ [c]) = 16 * hexValue digits + hexDigitValue c := by
  rw [hexValue, List.foldl_append]
  rfl

lemma hexValue_toDigits (n : Nat) : hexValue (Nat.toDigits 16 n) = n := by
  induction n using Nat.strongRecOn with
  | ind n ih =>
    rw [Nat.toDigits_eq_if (by decide)]
    by_cases hn : n < 16
    · rw [if_pos hn]
      exact (Nat.zero_add _).trans (hexDigitValue_digitChar hn)
    · rw [if_neg hn, hexValue_append, ih (n / 16) (by omega),
        hexDigitValue_digitChar (Nat.mod_lt n (by decide))]
      exact Nat.div_add_mod n 16

lemma ne_brace_of_mem_toDigits {n : Nat} {c : Char} (h : c ∈ Nat.toDigits 16 n) : c ≠ '\x7d' := by
  induction n using Nat.strongRecOn with
  | ind n ih =>
    rw [Nat.toDigits_eq_if (by decide)] at h
    by_cases hn : n < 16
    · rw [if_pos hn, List.mem_singleton] at h
      exact h ▸ Nat.digitChar_ne '\x7d' (by decide)
    · rw [if_neg hn, List.mem_append, List.mem_singleton] at h
      rcases h with h | rfl
      · exact ih (n / 16) (by omega) h
      · exact Nat.digitChar_ne '\x7d' (by decide)

lemma readEscaped?_codePointEscape (c : Char) (rest : List Char) :
    readEscaped? (codePointEscape c ++ rest) = some (c, rest) := by
  have hdigits : ∀ d ∈ Nat.toDigits 16 c.toNat, decide (d ≠ '\x7d') = true :=
    fun d hd => decide_eq_true (ne_brace_of_mem_toDigits hd)
  have hstands : codePointEscape c ++ rest =
      '\\' :: 'u' :: '\x7b' :: (Nat.toDigits 16 c.toNat ++ '\x7d' :: rest) := by
    simp [codePointEscape]
  rw [hstands, readEscaped?, List.takeWhile_append_of_pos hdigits,
    List.dropWhile_append_of_pos hdigits, List.takeWhile_cons_of_neg (by decide),
    List.dropWhile_cons_of_neg (by decide), List.append_nil, hexValue_toDigits, Char.ofNat_toNat]
  rfl

/-! ### Single characters and texts -/

lemma readEscaped?_of_ne {c : Char} (h : c ≠ '\\') (rest : List Char) :
    readEscaped? (c :: rest) = some (c, rest) := by
  unfold readEscaped?
  split <;> simp_all

/-- What stands for a character is read back, whatever stands behind it. -/
lemma readEscaped?_escapeChar (c : Char) (rest : List Char) :
    readEscaped? (escapeChar c ++ rest) = some (c, rest) := by
  unfold escapeChar
  by_cases hnull : c = '\x00'
  · rw [if_pos hnull, hnull]
    rfl
  by_cases htab : c = '\t'
  · rw [if_neg hnull, if_pos htab, htab]
    rfl
  by_cases hreturn : c = '\r'
  · rw [if_neg hnull, if_neg htab, if_pos hreturn, hreturn]
    rfl
  by_cases hline : c = '\n'
  · rw [if_neg hnull, if_neg htab, if_neg hreturn, if_pos hline, hline]
    rfl
  by_cases hquote : c = '"'
  · rw [if_neg hnull, if_neg htab, if_neg hreturn, if_neg hline, if_pos hquote, hquote]
    rfl
  rw [if_neg hnull, if_neg htab, if_neg hreturn, if_neg hline, if_neg hquote]
  by_cases hslash : c = '\\'
  · rw [if_pos hslash, hslash]
    rfl
  by_cases hprintable : isPrintable c = true
  · rw [if_neg hslash, if_pos hprintable]
    exact readEscaped?_of_ne hslash rest
  · rw [if_neg hslash, if_neg hprintable]
    exact readEscaped?_codePointEscape c rest

lemma escapeChar_append_inj {c d : Char} (h : escapeChar c ++ s = escapeChar d ++ t) :
    c = d ∧ s = t := by
  have hread := readEscaped?_escapeChar c s
  rw [h, readEscaped?_escapeChar] at hread
  cases hread
  exact ⟨rfl, rfl⟩

lemma escapeChar_append_ne_nil (c : Char) (rest : List Char) : escapeChar c ++ rest ≠ [] := by
  intro h
  have hread := readEscaped?_escapeChar c rest
  rw [h] at hread
  cases hread

lemma flatMap_escapeChar_inj (h : s.flatMap escapeChar = t.flatMap escapeChar) : s = t := by
  induction s generalizing t with
  | nil =>
    cases t with
    | nil => rfl
    | cons d t => exact absurd h.symm (escapeChar_append_ne_nil d _)
  | cons c s ih =>
    cases t with
    | nil => exact absurd h (escapeChar_append_ne_nil c _)
    | cons d t =>
      obtain ⟨rfl, hrest⟩ := escapeChar_append_inj h
      rw [ih hrest]

/-- Text in quotes tells which text it is. -/
theorem quoted_injective : Function.Injective quoted := by
  intro s t h
  have hlist := String.ofList_injective h
  have hinside := List.append_cancel_right (List.cons.inj hlist).2
  exact String.toList_injective (flatMap_escapeChar_inj hinside)

end AmqpClient.Text
