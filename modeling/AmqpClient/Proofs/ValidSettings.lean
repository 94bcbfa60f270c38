import AmqpClient.Config.Loading
import AmqpClient.Proofs.QuotedText
import AmqpClient.Proofs.Utf8Decoding
import Mathlib.Data.List.TakeWhile

/-!
# Only settings that can be used get through

However settings are read from text, they get through just if they have no flaw, and the flaw that
counts is reported where they have one, in words that tell which it is. Loading a file is reading
the text that it holds.
-/

namespace AmqpClient.Text

/-- Nothing is left of text just if it is all white space. -/
theorem isBlank_iff {s : String} : isBlank s = true ↔ ∀ c ∈ s.toList, isWhiteSpace c = true := by
  have hleft : isBlank s = true ↔
      ∀ c ∈ s.toList.dropWhile isWhiteSpace, isWhiteSpace c = true := by
    rw [isBlank, String.isEmpty_iff, trim, String.ofList_eq_empty_iff, List.reverse_eq_nil_iff,
      List.dropWhile_eq_nil_iff]
    simp only [List.mem_reverse]
  rw [hleft]
  constructor
  · intro h
    by_contra hno
    have hsome := mt List.dropWhile_eq_nil_iff.1 hno
    have hhead := List.head_dropWhile_not isWhiteSpace hsome
    rw [h _ (List.head_mem hsome)] at hhead
    cases hhead
  · exact fun h c hc => h c ((List.dropWhile_sublist _).subset hc)

end AmqpClient.Text

namespace AmqpClient.Config

open Text

/-- Whether a name is made up of white space alone, or is empty. -/
def BlankName (name : String) : Prop :=
  ∀ c ∈ name.toList, isWhiteSpace c = true

/-- Settings that a handshake could use. -/
structure SaslSettings.Usable (s : SaslSettings) : Prop where
  username_of_password : s.password ≠ none → s.username ≠ none
  not_blank : ∀ name ∈ s.mechanisms, ¬BlankName name

/-- The flaw that counts, a password without a username or else the first blank name, and what is
said about it. -/
inductive SaslSettings.FirstFlaw (s : SaslSettings) : Flaw → String → Prop
  | passwordWithoutUsername (hpassword : s.password ≠ none) (husername : s.username = none) :
    FirstFlaw s .passwordWithoutUsername "password given without username"
  | blankMechanism {before rest : List String} {name : String}
    (husername : s.password ≠ none → s.username ≠ none)
    (hlist : s.mechanisms = before ++ name :: rest) (hbefore : ∀ n ∈ before, ¬BlankName n)
    (hname : BlankName name) :
    FirstFlaw s (.blankMechanism name) ("blank mechanism name " ++ quoted name)

/-! ### What is said about flaws -/

namespace Flaw

lemma message_passwordWithoutUsername :
    passwordWithoutUsername.message = "password given without username" := rfl

lemma message_blankMechanism (name : String) :
    (blankMechanism name).message = "blank mechanism name " ++ quoted name := rfl

lemma message_ne (name : String) :
    passwordWithoutUsername.message ≠ (blankMechanism name).message := by
  rw [message_passwordWithoutUsername, message_blankMechanism]
  intro h
  have hstart := congrArg (fun text => text.toList.take 1) h
  have hpassword : "password given without username".toList.take 1 = ['p'] := by decide
  have hblank : "blank mechanism name ".toList.take 1 = ['b'] := by decide
  rw [String.toList_append, List.take_append_of_le_length (by decide), hpassword, hblank] at hstart
  cases hstart

/-- No two flaws are said to be the same. -/
lemma message_injective : Function.Injective message := by
  intro flaw other h
  cases flaw with
  | passwordWithoutUsername =>
    cases other with
    | passwordWithoutUsername => rfl
    | blankMechanism name => exact absurd h (message_ne name)
  | blankMechanism name =>
    cases other with
    | passwordWithoutUsername => exact absurd h.symm (message_ne name)
    | blankMechanism name' =>
      have hlist := congrArg String.toList h
      rw [message_blankMechanism, message_blankMechanism, String.toList_append,
        String.toList_append] at hlist
      have hquoted := String.toList_injective (List.append_cancel_left hlist)
      rw [quoted_injective hquoted]

end Flaw

/-! ### The first flaw -/

namespace SaslSettings

variable {s : SaslSettings} {flaw : Flaw} {message : String}

lemma passwordWithoutUsername_iff :
    (s.password.isSome && s.username.isNone) = true ↔ s.password ≠ none ∧ s.username = none := by
  rw [Bool.and_eq_true, Option.isSome_iff_ne_none, Option.isNone_iff_eq_none]

lemma flaw?_eq_some_iff :
    s.flaw? = some flaw ∧ flaw.message = message ↔ s.FirstFlaw flaw message := by
  unfold flaw?
  by_cases hlacks : (s.password.isSome && s.username.isNone) = true
  · rw [if_pos hlacks]
    obtain ⟨hpassword, husername⟩ := passwordWithoutUsername_iff.1 hlacks
    constructor
    · rintro ⟨⟨⟩, rfl⟩
      exact .passwordWithoutUsername hpassword husername
    · rintro (_ | ⟨hgiven, -, -, -⟩)
      · exact ⟨rfl, rfl⟩
      · exact absurd husername (hgiven hpassword)
  · rw [if_neg hlacks, Option.map_eq_some_iff]
    have hgiven : s.password ≠ none → s.username ≠ none := fun hpassword husername =>
      hlacks (passwordWithoutUsername_iff.2 ⟨hpassword, husername⟩)
    constructor
    · rintro ⟨⟨name, hfind, rfl⟩, rfl⟩
      obtain ⟨hname, before, rest, hlist, hbefore⟩ := List.find?_eq_some_iff_append.1 hfind
      refine .blankMechanism hgiven hlist (fun n hn hblank => ?_) (isBlank_iff.1 hname)
      have hno := hbefore n hn
      rw [isBlank_iff.2 hblank] at hno
      cases hno
    · rintro (⟨hpassword, husername⟩ | @⟨before, rest, name, -, hlist, hbefore, hname⟩)
      · exact absurd husername (hgiven hpassword)
      · refine ⟨⟨name, List.find?_eq_some_iff_append.2
          ⟨isBlank_iff.2 hname, before, rest, hlist, fun n hn => ?_⟩, rfl⟩, rfl⟩
        rw [Bool.not_eq_true']
        exact eq_false_of_ne_true (mt isBlank_iff.1 (hbefore n hn))

lemma flaw?_eq_none_iff : s.flaw? = none ↔ s.Usable := by
  unfold flaw?
  by_cases hlacks : (s.password.isSome && s.username.isNone) = true
  · rw [if_pos hlacks]
    obtain ⟨hpassword, husername⟩ := passwordWithoutUsername_iff.1 hlacks
    constructor
    · exact fun h => by cases h
    · exact fun h => absurd husername (h.username_of_password hpassword)
  · rw [if_neg hlacks, Option.map_eq_none_iff, List.find?_eq_none]
    refine ⟨fun h => ⟨fun hpassword husername => ?_, fun name hname hblank => ?_⟩,
      fun h name hname hblank => ?_⟩
    · exact hlacks (passwordWithoutUsername_iff.2 ⟨hpassword, husername⟩)
    · exact h name hname (isBlank_iff.2 hblank)
    · exact h.not_blank name hname (isBlank_iff.1 hblank)

lemma exists_firstFlaw (h : ¬s.Usable) : ∃ flaw message, s.FirstFlaw flaw message := by
  cases hflaw : s.flaw? with
  | none => exact absurd (flaw?_eq_none_iff.1 hflaw) h
  | some flaw => exact ⟨flaw, flaw.message, flaw?_eq_some_iff.1 ⟨hflaw, rfl⟩⟩

end SaslSettings

/-! ### Reading and loading -/

namespace Settings

variable {read? : String → Option Settings} {text : String} {settings : Settings}

lemma ofTextBy_of_none (h : read? text = none) : ofTextBy read? text = .error .malformed := by
  rw [ofTextBy, h]

lemma ofTextBy_of_flaw {flaw : Flaw} {message : String} (h : read? text = some settings)
    (hflaw : settings.sasl.FirstFlaw flaw message) :
    ofTextBy read? text = .error (.invalid flaw) := by
  rw [ofTextBy, h]
  simp only [SaslSettings.validate, (SaslSettings.flaw?_eq_some_iff.2 hflaw).1]
  rfl

lemma message?_of_flaw {flaw : Flaw} {message : String}
    (hflaw : settings.sasl.FirstFlaw flaw message) :
    (LoadError.invalid flaw).message? = some ("Invalid config: " ++ message) := by
  rw [LoadError.message?, (SaslSettings.flaw?_eq_some_iff.2 hflaw).2]

lemma ofTextBy_of_usable (h : read? text = some settings) (husable : settings.sasl.Usable) :
    ofTextBy read? text = .ok settings := by
  rw [ofTextBy, h]
  simp only [SaslSettings.validate, SaslSettings.flaw?_eq_none_iff.2 husable]
  rfl

/-- Settings get through just if they are read, and can be used. -/
lemma ofTextBy_eq_ok_iff :
    ofTextBy read? text = .ok settings ↔ read? text = some settings ∧ settings.sasl.Usable := by
  refine ⟨fun h => ?_, fun h => ofTextBy_of_usable h.1 h.2⟩
  cases hread : read? text with
  | none =>
    rw [ofTextBy_of_none hread] at h
    cases h
  | some found =>
    by_cases husable : found.sasl.Usable
    · rw [ofTextBy_of_usable hread husable] at h
      cases h
      exact ⟨rfl, husable⟩
    · obtain ⟨flaw, message, hflaw⟩ := SaslSettings.exists_firstFlaw husable
      rw [ofTextBy_of_flaw hread hflaw] at h
      cases h

lemma loadBy_text (read? : String → Option Settings) (text : String) :
    loadBy read? (.file text.toUTF8.data.toList) = ofTextBy read? text := by
  have hdecode := Utf8.decode_encode text
  rw [Utf8.encode_eq_toUTF8] at hdecode
  rw [loadBy, Source.text, hdecode]
  rfl

lemma loadBy_notText (read? : String → Option Settings) {content : List UInt8}
    (h : ∀ text : String, content ≠ text.toUTF8.data.toList) :
    loadBy read? (.file content) = .error (.unreadable .notText) := by
  cases hdecode : Utf8.decode content with
  | ok text =>
    have hcontent := Utf8.decode_eq_ok_iff.1 hdecode
    rw [Utf8.encode_eq_toUTF8] at hcontent
    exact absurd hcontent (h text)
  | error e =>
    rw [loadBy, Source.text, hdecode]
    rfl

/-- What is loaded was read from a file that holds a text. -/
lemma exists_text_of_loadBy {source : Source} (h : loadBy read? source = .ok settings) :
    ∃ text : String, source = .file text.toUTF8.data.toList ∧
      ofTextBy read? text = .ok settings := by
  cases source with
  | missing => cases h
  | directory => cases h
  | file content =>
    by_cases htext : ∃ text : String, content = text.toUTF8.data.toList
    · obtain ⟨text, rfl⟩ := htext
      rw [loadBy_text] at h
      exact ⟨text, rfl, h⟩
    · rw [loadBy_notText read? (not_exists.1 htext)] at h
      cases h

/-- However settings are read from text, they get through just if a password comes with a username
and no mechanism has a blank name, and else the first of these flaws is reported, in words that are
said about no other flaw. A file of text is as good as the text, and any other is not read at
all. -/
theorem only_usable_settings (read? : String → Option Settings) :
    (∀ text settings, ofTextBy read? text = .ok settings ↔
      read? text = some settings ∧ settings.sasl.Usable) ∧
    (∀ text settings, read? text = some settings → ¬settings.sasl.Usable →
      ∃ flaw message, ofTextBy read? text = .error (.invalid flaw) ∧
        (LoadError.invalid flaw).message? = some ("Invalid config: " ++ message) ∧
        settings.sasl.FirstFlaw flaw message ∧
        ∀ other : Flaw, other.message = message → other = flaw) ∧
    (∀ text, read? text = none → ofTextBy read? text = .error .malformed) ∧
    (∀ text : String, loadBy read? (.file text.toUTF8.data.toList) = ofTextBy read? text) ∧
    (∀ content, (∀ text : String, content ≠ text.toUTF8.data.toList) →
      loadBy read? (.file content) = .error (.unreadable .notText)) ∧
    ∀ source settings, loadBy read? source = .ok settings →
      ∃ text : String, source = .file text.toUTF8.data.toList ∧
        read? text = some settings ∧ settings.sasl.Usable := by
  refine ⟨fun text settings => ofTextBy_eq_ok_iff, fun text settings hread hno => ?_,
    fun text => ofTextBy_of_none, loadBy_text read?, fun content => loadBy_notText read?,
    fun source settings h => ?_⟩
  · obtain ⟨flaw, message, hflaw⟩ := SaslSettings.exists_firstFlaw hno
    refine ⟨flaw, message, ofTextBy_of_flaw hread hflaw, message?_of_flaw hflaw, hflaw,
      fun other hother => Flaw.message_injective ?_⟩
    exact hother.trans (SaslSettings.flaw?_eq_some_iff.2 hflaw).2.symm
  · obtain ⟨text, hsource, hok⟩ := exists_text_of_loadBy h
    exact ⟨text, hsource, ofTextBy_eq_ok_iff.1 hok⟩

/-- Settings with two blank names, the first of which is no ASCII space. -/
def blankNames : String :=
  "[sasl]\nmechanisms = [\"PLAIN\", \"\\u2003\", \"\"]"

/-- The first blank name is reported, also from a file, and an octet that is no text makes the file
unreadable. -/
theorem only_usable_settings_blankNames :
    ofText blankNames = .error (.invalid (.blankMechanism "\u2003")) ∧
    (LoadError.invalid (.blankMechanism "\u2003")).message? =
      some "Invalid config: blank mechanism name \"\\u\x7b2003\x7d\"" ∧
    load (.file blankNames.toUTF8.data.toList) = ofText blankNames ∧
    load (.file [0xff]) = .error (.unreadable .notText) := by
  obtain ⟨-, hflawed, -, htext, hnotText, -⟩ := only_usable_settings Settings.read?
  refine ⟨?_, by decide +kernel, htext blankNames, hnotText [0xff] fun text htext => ?_⟩
  · have hread : Settings.read? blankNames =
        some { sasl := { mechanisms := ["PLAIN", "\u2003", ""] } } := by decide +kernel
    have hblank : BlankName "\u2003" := isBlank_iff.1 (by decide)
    obtain ⟨flaw, message, hflaw, -, hfirst, -⟩ := hflawed blankNames _ hread
      fun husable => husable.not_blank "\u2003" (by decide) hblank
    have hreported : SaslSettings.flaw? { mechanisms := ["PLAIN", "\u2003", ""] } =
        some (.blankMechanism "\u2003") := by decide
    cases hreported.symm.trans (SaslSettings.flaw?_eq_some_iff.2 hfirst).1
    exact hflaw
  · have hdecode := Utf8.decode_encode text
    rw [Utf8.encode_eq_toUTF8, ← htext] at hdecode
    have hrefused : Utf8.decode [0xff] = .error (.invalid 1 0) := by decide
    cases hrefused.symm.trans hdecode

end Settings

end AmqpClient.Config
