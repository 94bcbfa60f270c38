import AmqpClient.Proofs.NameOrder

/-!
# The history of a registry

A registry is known from where it began and what was to be registered since, refused or not: under a
name there is what came first. Nothing that is there is ever replaced, and what is added makes no
difference to an offer that does not name it.
-/

namespace AmqpClient.Sasl

open Text

namespace Registry

variable {r next base : Registry} {name : String} {m : Mechanism}
  {attempts : List (String × Mechanism)}

/-- An attempt to register a mechanism. If it is refused, the registry is what it was. -/
def attempt (r : Registry) (name : String) (m : Mechanism) : Except Error Unit × Registry :=
  match r.register name m with
  | .ok next => (.ok (), next)
  | .error e => (.error e, r)

/-- Makes attempts in order, whether or not those before them were refused, and gives the answer to
each. -/
def attemptEach (r : Registry) : List (String × Mechanism) → List (Except Error Unit) × Registry
  | [] => ([], r)
  | (name, m) :: rest =>
    let (answer, r) := r.attempt name m
    let (answers, r) := r.attemptEach rest
    (answer :: answers, r)

lemma attemptEach_cons (r : Registry) (name : String) (m : Mechanism)
    (rest : List (String × Mechanism)) : r.attemptEach ((name, m) :: rest) =
      ((r.attempt name m).1 :: ((r.attempt name m).2.attemptEach rest).1,
        ((r.attempt name m).2.attemptEach rest).2) := rfl

lemma attempt_of_contains (h : r.contains name = true) (m : Mechanism) :
    r.attempt name m = (.error (.duplicate name), r) := by
  unfold attempt register
  rw [if_pos h]

lemma attempt_of_not_contains (h : r.contains name = false) (m : Mechanism) :
    r.attempt name m = (.ok (), ⟨insertEntry name m r.entries⟩) := by
  unfold attempt register
  rw [if_neg (Bool.not_eq_true _ ▸ h)]

lemma length_attemptEach (r : Registry) (attempts : List (String × Mechanism)) :
    (r.attemptEach attempts).1.length = attempts.length := by
  induction attempts generalizing r with
  | nil => rfl
  | cons first rest ih =>
    rw [attemptEach_cons, List.length_cons, List.length_cons, ih]

lemma attemptEach_append (r : Registry) (before after : List (String × Mechanism)) :
    r.attemptEach (before ++ after) =
      ((r.attemptEach before).1 ++ ((r.attemptEach before).2.attemptEach after).1,
        ((r.attemptEach before).2.attemptEach after).2) := by
  induction before generalizing r with
  | nil => rfl
  | cons first rest ih =>
    rw [List.cons_append, attemptEach_cons, attemptEach_cons, ih]
    rfl

/-! ### What is under a name -/

/-- Under a name there is what was there, or else what the attempt was about. -/
lemma lookup_attempt (r : Registry) (name : String) (m : Mechanism) (key : String) :
    (r.attempt name m).2.entries.lookup key = (r.entries ++ [(name, m)]).lookup key := by
  rw [List.lookup_append, lookup_cons_name, List.lookup_nil]
  cases hlookup : r.entries.lookup name with
  | none =>
    rw [attempt_of_not_contains (contains_eq_false_iff.2 hlookup), lookup_insertEntry hlookup]
    by_cases hkey : key = name
    · rw [if_pos hkey, if_pos hkey, hkey, hlookup]
      rfl
    · rw [if_neg hkey, if_neg hkey, Option.or_none]
  | some old =>
    rw [attempt_of_contains (contains_of_lookup hlookup)]
    by_cases hkey : key = name
    · rw [if_pos hkey, hkey, hlookup]
      rfl
    · rw [if_neg hkey, Option.or_none]

/-- Under a name there is what came first, of what was there and of all attempts since. -/
theorem lookup_attemptEach (r : Registry) (attempts : List (String × Mechanism)) (key : String) :
    (r.attemptEach attempts).2.entries.lookup key = (r.entries ++ attempts).lookup key := by
  induction attempts generalizing r with
  | nil => rw [List.append_nil, attemptEach]
  | cons first rest ih =>
    obtain ⟨name, m⟩ := first
    rw [attemptEach_cons, ih, List.lookup_append, lookup_attempt, ← List.lookup_append,
      List.append_assoc, List.singleton_append]

lemma contains_attemptEach_iff : (r.attemptEach attempts).2.contains name = true ↔
    name ∈ r.names ∨ name ∈ attempts.map Prod.fst := by
  have hcontains : (r.attemptEach attempts).2.contains name =
      contains ⟨r.entries ++ attempts⟩ name :=
    congrArg Option.isSome (lookup_attemptEach r attempts name)
  rw [hcontains, contains_iff_mem_names, names, List.map_append, List.mem_append]
  rfl

/-- What is found under a name is found there after any attempts. -/
lemma create?_attemptEach_of_find? (h : r.find? name = some m) :
    (r.attemptEach attempts).2.create? name = some { mechanism := m } := by
  obtain ⟨hname, hlookup⟩ := find?_eq_some_iff.1 h
  rw [create?, find?, if_neg hname, lookup_attemptEach, List.lookup_append, hlookup]
  rfl

lemma contains_attemptEach_of_find? (h : r.find? name = some m) :
    (r.attemptEach attempts).2.contains name = true := by
  have hcontains := contains_of_lookup (find?_eq_some_iff.1 h).2
  exact contains_attemptEach_iff.2 (.inl (contains_iff_mem_names.1 hcontains))

/-! ### The names in order -/

lemma ascending_attempt (h : Ascending r.names) (name : String) (m : Mechanism) :
    Ascending (r.attempt name m).2.names := by
  unfold attempt
  cases hr : r.register name m with
  | error e => exact h
  | ok next =>
    have hnext := h.insertName name
    rw [← names_register hr] at hnext
    exact hnext

lemma ascending_attemptEach (h : Ascending r.names) (attempts : List (String × Mechanism)) :
    Ascending (r.attemptEach attempts).2.names := by
  induction attempts generalizing r with
  | nil => exact h
  | cons first rest ih => exact ih (ascending_attempt h first.1 first.2)

lemma ascending_defaults : Ascending defaults.names :=
  ascending_sortedNames ["EXTERNAL", "ANONYMOUS", "PLAIN"]

/-! ### What is chosen -/

/-- What is added makes no difference to an offer that does not name it. -/
lemma select_register (h : r.register name m = .ok next) {credentials : Credentials}
    {principal : Option Principal} {restrictions offered : List String}
    (hname : name ∉ offered) :
    Situation.select ⟨next, credentials, principal, restrictions⟩ offered =
      Situation.select ⟨r, credentials, principal, restrictions⟩ offered := by
  refine Situation.select_of_find?_eq (s := ⟨r, credentials, principal, restrictions⟩)
    fun key hkey _ _ => ?_
  have hne : key ≠ name := fun he => hname (he ▸ hkey)
  rw [find?, find?, lookup_register h, if_neg hne]

/-- How a registry and the answers to the attempts on it belong together. -/
structure FirstCome (base : Registry) (attempts : List (String × Mechanism)) : Prop where
  /-- An attempt is refused if the name was there or has come before, and only then. -/
  answer_eq : ∀ before name m after, attempts = before ++ (name, m) :: after →
    (base.attemptEach attempts).1[before.length]? =
      some (if name ∈ base.names ∨ name ∈ before.map Prod.fst then .error (.duplicate name)
        else .ok ())
  /-- The names that are there are those that were there or have come. -/
  contains_iff : ∀ name, (base.attemptEach attempts).2.contains name = true ↔
    name ∈ base.names ∨ name ∈ attempts.map Prod.fst
  /-- The next attempt succeeds if the name is not there. -/
  attempt_ok_iff : ∀ name m, ((base.attemptEach attempts).2.attempt name m).1 = .ok () ↔
    (base.attemptEach attempts).2.contains name = false
  /-- If the name is there, the next attempt is refused and changes nothing. -/
  attempt_refused : ∀ name m, (base.attemptEach attempts).2.contains name = true →
    (base.attemptEach attempts).2.attempt name m =
      (.error (.duplicate name), (base.attemptEach attempts).2)
  /-- Under a name that is not empty there is what came first, and nothing under the empty one. -/
  create?_eq : ∀ name, (base.attemptEach attempts).2.create? name =
    if name = "" then none
    else ((base.entries ++ attempts).lookup name).map ({ mechanism := · })
  mem_names_iff : ∀ name, name ∈ (base.attemptEach attempts).2.names ↔
    (base.attemptEach attempts).2.contains name = true
  names_ascending : (base.attemptEach attempts).2.names.Pairwise (· < ·)
  /-- A mechanism that is added next makes no difference to an offer that does not name it. -/
  select_eq : ∀ name m next, (base.attemptEach attempts).2.register name m = .ok next →
    ∀ credentials principal restrictions offered, name ∉ offered →
      Situation.select ⟨next, credentials, principal, restrictions⟩ offered =
        Situation.select
          ⟨(base.attemptEach attempts).2, credentials, principal, restrictions⟩ offered

lemma firstCome_of_ascending (h : Ascending base.names) (attempts : List (String × Mechanism)) :
    base.FirstCome attempts where
  answer_eq before name m after heq := by
    subst heq
    have hlength := length_attemptEach base before
    rw [attemptEach_append, attemptEach_cons, ← hlength, List.getElem?_append_right (Nat.le_refl _),
      Nat.sub_self, List.getElem?_cons_zero]
    by_cases hc : (base.attemptEach before).2.contains name = true
    · rw [attempt_of_contains hc, if_pos (contains_attemptEach_iff.1 hc)]
    · rw [attempt_of_not_contains (Bool.not_eq_true _ ▸ hc),
        if_neg (mt contains_attemptEach_iff.2 hc)]
  contains_iff _ := contains_attemptEach_iff
  attempt_ok_iff name m := by
    cases hc : (base.attemptEach attempts).2.contains name with
    | false => simp [attempt_of_not_contains hc]
    | true => simp [attempt_of_contains hc]
  attempt_refused _ m hc := attempt_of_contains hc m
  create?_eq name := by
    unfold create? find?
    by_cases hname : name = ""
    · rw [if_pos hname, if_pos hname]
      rfl
    · rw [if_neg hname, if_neg hname, lookup_attemptEach]
  mem_names_iff _ := contains_iff_mem_names.symm
  names_ascending := ascending_attemptEach h attempts
  select_eq _ _ _ hr _ _ _ _ hname := select_register hr hname

lemma find?_defaults (hm : m ∈ [plain, anonymous, external]) :
    defaults.find? m.name = some m := by
  simp only [List.mem_cons, List.not_mem_nil, or_false] at hm
  rcases hm with rfl | rfl | rfl
  · rfl
  · rfl
  · rfl

/-- Whatever is to be registered in whatever order, by a client that knows nothing or by one that
knows the usual mechanisms, the first mechanism that comes under a name stays there and all others
are refused. The usual mechanisms are never replaced. -/
theorem registered_first_come (attempts : List (String × Mechanism)) :
    empty.FirstCome attempts ∧ defaults.FirstCome attempts ∧
    ∀ m ∈ [plain, anonymous, external],
      (defaults.attemptEach attempts).2.create? m.name = some { mechanism := m } ∧
      ∀ other, (defaults.attemptEach attempts).2.attempt m.name other =
        (.error (.duplicate m.name), (defaults.attemptEach attempts).2) := by
  refine ⟨firstCome_of_ascending (show Ascending empty.names from ascending_nil) attempts,
    firstCome_of_ascending ascending_defaults attempts, fun m hm => ⟨?_, fun other => ?_⟩⟩
  · exact create?_attemptEach_of_find? (find?_defaults hm)
  · exact attempt_of_contains (contains_attemptEach_of_find? (find?_defaults hm)) other

/-- Attempts of which the second and the fourth come too late. -/
def lateAttempts : List (String × Mechanism) :=
  [("", anonymous), ("PLAIN", anonymous), ("X-ONE", external), ("X-ONE", anonymous),
    ("plain", plain)]

/-- The empty name is taken, but nothing is found under it; `plain` is a name of its own. -/
theorem registered_first_come_late :
    (defaults.attemptEach lateAttempts).1 = [.ok (), .error (.duplicate "PLAIN"), .ok (),
      .error (.duplicate "X-ONE"), .ok ()] ∧
    (defaults.attemptEach lateAttempts).2.names =
      ["", "ANONYMOUS", "EXTERNAL", "PLAIN", "X-ONE", "plain"] ∧
    (defaults.attemptEach lateAttempts).2.contains "" = true ∧
    (defaults.attemptEach lateAttempts).2.create? "" = none ∧
    (defaults.attemptEach lateAttempts).2.create? "X-ONE" = some { mechanism := external } ∧
    (defaults.attemptEach lateAttempts).2.create? "PLAIN" = some { mechanism := plain } := by
  obtain ⟨-, hfirst, husual⟩ := registered_first_come lateAttempts
  exact ⟨rfl, rfl, (hfirst.contains_iff "").2 (.inr (by decide)), hfirst.create?_eq "",
    hfirst.create?_eq "X-ONE", (husual plain List.mem_cons_self).1⟩

end Registry

end AmqpClient.Sasl
