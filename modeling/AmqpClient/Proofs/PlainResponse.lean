import AmqpClient.Config.Validation
import AmqpClient.Proofs.HandshakeProtocol
import AmqpClient.Proofs.Utf8RoundTrip

/-!
# Reading back a `PLAIN` response

The fields of a `PLAIN` response are parted by zero octets. A server that parts them again finds
the credentials of the client if and only if no U+0000 is in the username; the password may contain
it, as nothing comes behind.
-/

namespace AmqpClient.Sasl

open Text

/-- The octets before the first zero octet and those behind it. -/
def splitAtZero : List UInt8 → Option (List UInt8 × List UInt8)
  | [] => none
  | b :: rest =>
    if b = 0 then some ([], rest)
    else (splitAtZero rest).map fun (before, after) => (b :: before, after)

/-- The fields of RFC 4616: `[authzid] NUL authcid NUL passwd`. -/
structure PlainFields where
  authzid : List UInt8
  authcid : List UInt8
  passwd : List UInt8
  deriving DecidableEq, Repr

def PlainFields.parse? (response : List UInt8) : Option PlainFields := do
  let (authzid, rest) ← splitAtZero response
  let (authcid, passwd) ← splitAtZero rest
  return ⟨authzid, authcid, passwd⟩

def plainResponse (username password : String) : List UInt8 :=
  0 :: Utf8.encode username ++ 0 :: Utf8.encode password

lemma splitAtZero_append {before : List UInt8} (h : 0 ∉ before) (after : List UInt8) :
    splitAtZero (before ++ 0 :: after) = some (before, after) := by
  induction before with
  | nil => rfl
  | cons b rest ih =>
    have hb : b ≠ 0 := fun he => h (he ▸ List.mem_cons_self)
    have hrest := ih fun hmem => h (List.mem_cons_of_mem b hmem)
    rw [List.cons_append, splitAtZero, if_neg hb, hrest]
    rfl

lemma zero_not_mem_of_splitAtZero {bytes before after : List UInt8}
    (h : splitAtZero bytes = some (before, after)) : 0 ∉ before := by
  induction bytes generalizing before with
  | nil => cases h
  | cons b rest ih =>
    unfold splitAtZero at h
    by_cases hb : b = 0
    · rw [if_pos hb] at h
      cases h
      exact List.not_mem_nil
    · rw [if_neg hb] at h
      obtain ⟨⟨first, second⟩, hsplit, hpair⟩ := Option.map_eq_some_iff.1 h
      cases hpair
      intro hmem
      rcases List.mem_cons.1 hmem with hzero | hmem
      · exact hb hzero.symm
      · exact ih hsplit hmem

lemma parse?_plainResponse_iff (username password : String) :
    PlainFields.parse? (plainResponse username password) =
      some ⟨[], Utf8.encode username, Utf8.encode password⟩ ↔ '\x00' ∉ username.toList := by
  have hparse : PlainFields.parse? (plainResponse username password) =
      (splitAtZero (Utf8.encode username ++ 0 :: Utf8.encode password)).bind
        fun p => some ⟨[], p.1, p.2⟩ := rfl
  rw [hparse, ← Utf8.zero_mem_encode]
  constructor
  · intro h
    obtain ⟨⟨authcid, passwd⟩, hsplit, hfields⟩ := Option.bind_eq_some_iff.1 h
    cases hfields
    exact zero_not_mem_of_splitAtZero hsplit
  · intro h
    rw [splitAtZero_append h]
    rfl

/-- Usernames without U+0000 are told apart from the passwords behind them. -/
lemma plainResponse_inj {u v p q : String} (hu : '\x00' ∉ u.toList) (hv : '\x00' ∉ v.toList)
    (h : plainResponse u p = plainResponse v q) : u = v ∧ p = q := by
  have hfields := (parse?_plainResponse_iff u p).2 hu
  rw [h, (parse?_plainResponse_iff v q).2 hv] at hfields
  simp only [Option.some.injEq, PlainFields.mk.injEq, true_and] at hfields
  exact ⟨Utf8.encode_injective hfields.1.symm, Utf8.encode_injective hfields.2.symm⟩

lemma plain_isApplicable_iff {c : Credentials} {principal : Option Principal} :
    plain.isApplicable c principal = true ↔ ∃ username password,
      c = ⟨some username, some password⟩ ∧ username ≠ "" ∧ password ≠ "" := by
  obtain ⟨username, password⟩ := c
  cases username with
  | none => simp [plain]
  | some u =>
    cases password with
    | none => simp [plain]
    | some p =>
      have happlicable : plain.isApplicable ⟨some u, some p⟩ principal = true ↔
          u ≠ "" ∧ p ≠ "" := by simp [plain]
      rw [happlicable]
      constructor
      · exact fun h => ⟨u, p, rfl, h⟩
      · rintro ⟨u, p, h, hne⟩
        cases h
        exact hne

lemma plain_initialResponse {holding : Holding} {username password : String}
    (h : holding.credentials = ⟨some username, some password⟩) :
    plain.initialResponse holding =
      (.ok (some (plainResponse username password)), holding) := by
  simp only [plain, h]
  rfl

namespace Handshake

lemma onMechanisms_plain {h : Handshake} {offered : List String} {found : Instance}
    (hp : h.phase = .awaiting) (hs : h.situation.select offered = some found)
    (hplain : found.mechanism = plain) : ∃ username password,
      h.credentials = ⟨some username, some password⟩ ∧ (h.onMechanisms offered).1 =
        .ok ⟨"PLAIN", some (plainResponse username password), h.settings.hostname⟩ := by
  obtain ⟨before, name, after, m, -, hm, rfl, -, -⟩ := Situation.select_eq_some_iff.1 hs
  subst hplain
  obtain ⟨username, password, hc, -, -⟩ := plain_isApplicable_iff.1 hm.applicable
  have hcredentials : h.credentials = ⟨some username, some password⟩ := hc
  refine ⟨username, password, hcredentials, ?_⟩
  have hresponse := Instance.initialResponse_eq
    (i := { mechanism := plain, credentials := h.credentials })
    (plain_initialResponse hcredentials)
  rw [onMechanisms_of_ok hp hs hresponse]
  rfl

end Handshake

/-- Where `PLAIN` is chosen, the fields of its response are the empty identity, the username and
the password if and only if the username has no U+0000. No two pairs with such usernames have one
response. -/
theorem plain_response_reads_back :
    (∀ (h : Handshake) (offered : List String) (found : Instance), h.phase = .awaiting →
      h.situation.select offered = some found → found.mechanism = plain →
      ∃ username password response, h.settings.username = some username ∧
        h.settings.password = some password ∧
        (h.onMechanisms offered).1 = .ok ⟨"PLAIN", some response, h.settings.hostname⟩ ∧
        (PlainFields.parse? response =
          some ⟨[], Utf8.encode username, Utf8.encode password⟩ ↔ '\x00' ∉ username.toList)) ∧
    ∀ (c d : Holding) (p q : Option Principal), plain.isApplicable c.credentials p = true →
      plain.isApplicable d.credentials q = true →
      '\x00' ∉ (c.credentials.username.getD "").toList →
      '\x00' ∉ (d.credentials.username.getD "").toList → c.credentials ≠ d.credentials →
      (plain.initialResponse c).1 ≠ (plain.initialResponse d).1 := by
  constructor
  · intro h offered found hp hs hplain
    obtain ⟨username, password, hc, hinit⟩ := Handshake.onMechanisms_plain hp hs hplain
    exact ⟨username, password, _, congrArg Credentials.username hc,
      congrArg Credentials.password hc, hinit, parse?_plainResponse_iff username password⟩
  · intro c d p q hc hd hcu hdu hne hresponse
    obtain ⟨u, s, hus, -, -⟩ := plain_isApplicable_iff.1 hc
    obtain ⟨v, t, hvt, -, -⟩ := plain_isApplicable_iff.1 hd
    rw [plain_initialResponse hus, plain_initialResponse hvt] at hresponse
    have hsame : plainResponse u s = plainResponse v t :=
      Option.some.inj (Except.ok.inj hresponse)
    rw [hus] at hcu
    rw [hvt] at hdu
    obtain ⟨rfl, rfl⟩ := plainResponse_inj hcu hdu hsame
    exact hne (hus.trans hvt.symm)

def passwordHandshake (username password : String) : Handshake :=
  .new { username := some username, password := some password } none

theorem plain_response_reads_back_ascii :
    (∃ username password response, (passwordHandshake "user" "pass").settings.username =
        some username ∧ (passwordHandshake "user" "pass").settings.password = some password ∧
      ((passwordHandshake "user" "pass").onMechanisms ["PLAIN"]).1 =
        .ok ⟨"PLAIN", some response, none⟩ ∧
      (PlainFields.parse? response =
        some ⟨[], Utf8.encode username, Utf8.encode password⟩ ↔ '\x00' ∉ username.toList)) ∧
    (plain.initialResponse { credentials := ⟨some "user", some "pass"⟩ }).1 ≠
      (plain.initialResponse { credentials := ⟨some "use", some "rpass"⟩ }).1 :=
  ⟨plain_response_reads_back.1 (passwordHandshake "user" "pass") ["PLAIN"]
      { mechanism := plain } rfl rfl rfl,
    plain_response_reads_back.2 { credentials := ⟨some "user", some "pass"⟩ }
      { credentials := ⟨some "use", some "rpass"⟩ } none none rfl rfl (by decide) (by decide)
      (by decide)⟩

/-- Settings that are valid and choose `PLAIN`, and send the same as others with another username:
where the username ends cannot be told. -/
theorem plain_response_ambiguous :
    (passwordHandshake "a\x00b" "c").settings.validate = .ok () ∧
    ((passwordHandshake "a\x00b" "c").onMechanisms ["PLAIN"]).1 =
      .ok ⟨"PLAIN", some [0, 97, 0, 98, 0, 99], none⟩ ∧
    PlainFields.parse? [0, 97, 0, 98, 0, 99] ≠
      some ⟨[], Utf8.encode "a\x00b", Utf8.encode "c"⟩ ∧
    (passwordHandshake "a\x00b" "c").credentials ≠ (passwordHandshake "a" "b\x00c").credentials ∧
    ((passwordHandshake "a\x00b" "c").onMechanisms ["PLAIN"]).1 =
      ((passwordHandshake "a" "b\x00c").onMechanisms ["PLAIN"]).1 :=
  ⟨rfl, rfl, by decide, by decide, rfl⟩

end AmqpClient.Sasl
