import AmqpClient.Proofs.SelectionRule
import AmqpClient.Sasl.Scripted

/-!
# The conduct of mechanisms

What a mechanism does is its own business: it may fail with any error, and change all that it holds.
Here is what may be asked of it beyond that, and what stays of a mechanism in use whatever it does.
-/

namespace AmqpClient.Sasl

/-- A mechanism that leaves it to the handshake to say that an event came at a time when it may
not. -/
structure Mechanism.NeverUnexpected (m : Mechanism) : Prop where
  initialResponse_ne : ∀ holding event,
    (m.initialResponse holding).1 ≠ .error (.unexpected event)
  challengeResponse_ne : ∀ holding challenge event,
    (m.challengeResponse holding challenge).1 ≠ .error (.unexpected event)

/-- A mechanism that leaves the credentials that it has been given as they are. -/
structure Mechanism.KeepsCredentials (m : Mechanism) : Prop where
  initialResponse_eq : ∀ holding,
    (m.initialResponse holding).2.credentials = holding.credentials
  challengeResponse_eq : ∀ holding challenge,
    (m.challengeResponse holding challenge).2.credentials = holding.credentials

/-! ### All that are known -/

/-- All mechanisms of a registry are as `P` says. -/
def Registry.All (P : Mechanism → Prop) (r : Registry) : Prop :=
  ∀ entry ∈ r.entries, P entry.2

lemma Registry.all_cons {P : Mechanism → Prop} {name : String} {m : Mechanism}
    {rest : List (String × Mechanism)} :
    Registry.All P ⟨(name, m) :: rest⟩ ↔ P m ∧ Registry.All P ⟨rest⟩ :=
  List.forall_mem_cons

lemma Registry.all_nil {P : Mechanism → Prop} : Registry.All P ⟨[]⟩ :=
  List.forall_mem_nil _

lemma Registry.All.of_lookup {P : Mechanism → Prop} {r : Registry} (h : r.All P) {name : String}
    {m : Mechanism} (hm : r.entries.lookup name = some m) : P m := by
  obtain ⟨before, after, hentries, -⟩ := List.lookup_eq_some_iff.1 hm
  exact h (name, m) (by rw [hentries]; simp)

lemma Registry.all_defaults {P : Mechanism → Prop} (hplain : P plain) (hanonymous : P anonymous)
    (hexternal : P external) : Registry.defaults.All P :=
  all_cons.2 ⟨hanonymous, all_cons.2 ⟨hexternal, all_cons.2 ⟨hplain, all_nil⟩⟩⟩

lemma Registry.All.of_select {P : Mechanism → Prop} {s : Situation} (h : s.registry.All P)
    {offered : List String} {found : Instance} (hs : s.select offered = some found) :
    P found.mechanism := by
  obtain ⟨before, name, after, m, -, hm, rfl, -, -⟩ := Situation.select_eq_some_iff.1 hs
  exact h.of_lookup hm.registered

/-! ### Failures of the known ones -/

lemma neverUnexpected_of_isOk {m : Mechanism}
    (hinitial : ∀ holding, (m.initialResponse holding).1.isOk = true)
    (hchallenge : ∀ holding challenge, (m.challengeResponse holding challenge).1.isOk = true) :
    m.NeverUnexpected where
  initialResponse_ne holding event h := by
    have hok := hinitial holding
    rw [h] at hok
    cases hok
  challengeResponse_ne holding challenge event h := by
    have hok := hchallenge holding challenge
    rw [h] at hok
    cases hok

lemma neverUnexpected_plain : plain.NeverUnexpected :=
  neverUnexpected_of_isOk (fun _ => rfl) (fun _ _ => rfl)

lemma neverUnexpected_anonymous : anonymous.NeverUnexpected :=
  neverUnexpected_of_isOk (fun _ => rfl) (fun _ _ => rfl)

lemma neverUnexpected_external : external.NeverUnexpected :=
  neverUnexpected_of_isOk (fun _ => rfl) (fun _ _ => rfl)

lemma neverUnexpected_mechanism (s : Script) : s.mechanism.NeverUnexpected where
  initialResponse_ne holding event := by
    obtain ⟨name, priority, requirement, initial, reply⟩ := s
    cases initial <;> simp [Script.mechanism, Except.mapError]
  challengeResponse_ne holding challenge event := by
    obtain ⟨name, priority, requirement, initial, reply⟩ := s
    cases reply <;> simp [Script.mechanism]

/-! ### A mechanism in use -/

/-- What a mechanism may have become by its responses. -/
structure Instance.Continues (later earlier : Instance) : Prop where
  mechanism_eq : later.mechanism = earlier.mechanism
  credentials_eq : earlier.mechanism.KeepsCredentials → later.credentials = earlier.credentials

namespace Instance

variable {i j k : Instance}

lemma initialResponse_eq {response : Except Error (Option (List UInt8))} {after : Holding}
    (h : i.mechanism.initialResponse i.toHolding = (response, after)) :
    i.initialResponse = (response, { i with toHolding := after }) := by
  rw [initialResponse, h]

lemma challengeResponse_eq {challenge : List UInt8} {response : Except Error (List UInt8)}
    {after : Holding} (h : i.mechanism.challengeResponse i.toHolding challenge = (response, after)) :
    i.challengeResponse challenge = (response, { i with toHolding := after }) := by
  rw [challengeResponse, h]

lemma Continues.refl (i : Instance) : i.Continues i :=
  ⟨rfl, fun _ => rfl⟩

lemma Continues.trans (hk : k.Continues j) (hj : j.Continues i) : k.Continues i where
  mechanism_eq := hk.mechanism_eq.trans hj.mechanism_eq
  credentials_eq hkeeps :=
    (hk.credentials_eq (hj.mechanism_eq ▸ hkeeps)).trans (hj.credentials_eq hkeeps)

lemma continues_initialResponse (i : Instance) : i.initialResponse.2.Continues i :=
  ⟨rfl, fun hkeeps => hkeeps.initialResponse_eq i.toHolding⟩

lemma continues_challengeResponse (i : Instance) (challenge : List UInt8) :
    (i.challengeResponse challenge).2.Continues i :=
  ⟨rfl, fun hkeeps => hkeeps.challengeResponse_eq i.toHolding challenge⟩

lemma continues_of_initialResponse {response : Except Error (Option (List UInt8))}
    (h : i.initialResponse = (response, j)) : j.Continues i := by
  have hj := i.continues_initialResponse
  rwa [h] at hj

lemma continues_of_challengeResponse {challenge : List UInt8}
    {response : Except Error (List UInt8)} (h : i.challengeResponse challenge = (response, j)) :
    j.Continues i := by
  have hj := i.continues_challengeResponse challenge
  rwa [h] at hj

lemma ne_unexpected_of_initialResponse {e : Error} (h : i.initialResponse = (.error e, j))
    (hm : i.mechanism.NeverUnexpected) (event : String) : e ≠ .unexpected event := by
  rintro rfl
  exact hm.initialResponse_ne i.toHolding event (congrArg Prod.fst h)

lemma ne_unexpected_of_challengeResponse {challenge : List UInt8} {e : Error}
    (h : i.challengeResponse challenge = (.error e, j)) (hm : i.mechanism.NeverUnexpected)
    (event : String) : e ≠ .unexpected event := by
  rintro rfl
  exact hm.challengeResponse_ne i.toHolding challenge event (congrArg Prod.fst h)

end Instance

end AmqpClient.Sasl
