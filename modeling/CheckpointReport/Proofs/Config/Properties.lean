/-
This file tells which configuration the texts of a job manager stand for, and when they stand for
none.
-/

import CheckpointReport.Complaint
import CheckpointReport.Proofs.Retry
import CheckpointReport.Proofs.Table
import CheckpointReport.Proofs.Text.Numeral

namespace CheckpointReport

namespace Text

/-- A character is this small letter or its capital. -/
def MatchesLetter (c letter : Char) : Prop := c = letter ∨ c = letter.toUpper

/-- A text spells a word of small letters when it is the word in any case, with blanks around it. -/
def Spells (content word : String) : Prop :=
  ∃ left letters right, content.toList = left ++ letters ++ right ∧
    (∀ c ∈ left, isBlank c = true) ∧ (∀ c ∈ right, isBlank c = true) ∧
      List.Forall₂ MatchesLetter letters word.toList

/-- These are the letters of the word that turns a switch on. -/
def IsSwitchLetter (letter : Char) : Prop :=
  letter = 't' ∨ letter = 'r' ∨ letter = 'u' ∨ letter = 'e'

theorem forall_isSwitchLetter : ∀ letter ∈ "true".toList, IsSwitchLetter letter := by
  simp [IsSwitchLetter]

theorem toLower_eq_iff_of_lt (letter : Char) (switch : IsSwitchLetter letter) : ∀ code < 0x80,
    ((Char.ofNat code).toLower = letter ↔
      Char.ofNat code = letter ∨ Char.ofNat code = letter.toUpper) := by
  rcases switch with rfl | rfl | rfl | rfl <;> decide

/-- A character beyond the Latin ones is its own small form. -/
theorem toLower_eq_iff (c letter : Char) (switch : IsSwitchLetter letter) :
    c.toLower = letter ↔ MatchesLetter c letter := by
  by_cases latin : c.toNat < 0x80
  · rw [← Char.ofNat_toNat c]
    exact toLower_eq_iff_of_lt letter switch c.toNat latin
  · have same : c.toLower = c := by
      apply dif_neg
      rintro ⟨-, capital⟩
      exact latin (lt_of_le_of_lt capital (by decide))
    have capital : letter.toUpper.toNat < 0x80 := by
      rcases switch with rfl | rfl | rfl | rfl <;> decide
    rw [same]
    refine ⟨Or.inl, fun matching => matching.resolve_right ?_⟩
    rintro rfl
    exact latin capital

/-- Letter by letter, the small forms make up the word exactly when each letter is one of its two
forms. -/
theorem map_toLower_eq_iff (letters word : List Char)
    (switch : ∀ letter ∈ word, IsSwitchLetter letter) :
    letters.map Char.toLower = word ↔ List.Forall₂ MatchesLetter letters word := by
  induction word generalizing letters with
  | nil => rw [List.map_eq_nil_iff, List.forall₂_nil_right_iff]
  | cons letter word ih =>
      obtain ⟨first, others⟩ := List.forall_mem_cons.mp switch
      cases letters with
      | nil => simp
      | cons c letters =>
          rw [List.map_cons, List.cons.injEq, toLower_eq_iff c letter first, ih letters others,
            List.forall₂_cons]

theorem isBlank_of_matchesLetter (letter : Char) (switch : IsSwitchLetter letter) (c : Char)
    (matching : MatchesLetter c letter) : isBlank c = false := by
  rcases matching with rfl | rfl <;> rcases switch with rfl | rfl | rfl | rfl <;> decide

/-- A text without its blanks and its capitals is this word when the text spells it. -/
theorem spells_iff (content : String) :
    (trim isBlank content.toList).map Char.toLower = "true".toList ↔ Spells content "true" := by
  rw [map_toLower_eq_iff _ _ forall_isSwitchLetter]
  constructor
  · intro spelled
    obtain ⟨left, right, whole, leading, trailing⟩ := exists_trim isBlank content.toList
    exact ⟨left, _, right, whole, leading, trailing, spelled⟩
  · rintro ⟨left, letters, right, whole, leading, trailing, spelled⟩
    have full := Success.forall_results spelled.flip fun letter member =>
      isBlank_of_matchesLetter letter (forall_isSwitchLetter letter member)
    rwa [whole, trim_append isBlank left letters right leading trailing full]

end Text

theorem readSwitch_text (content : String) :
    ∃ flag, readSwitch (.text content) = .ok flag ∧
      (flag = true ↔ Text.Spells content "true") :=
  ⟨_, rfl, beq_iff_eq.trans (Text.spells_iff content)⟩

/-- The configuration takes what the settings say, and the rest from the standard configuration. So
does its retry unless the caller gives one. -/
structure Config.Follows (config : Config) (settings : Table String String)
    (retry : Option Retry) (address : String) (port : Int) (encrypted : Bool) : Prop where
  whole : config = { Config.standard with
    address := .text address
    restPort := .int port
    encrypted := .bool encrypted
    retry := retry.getD .standard }
  address : address = (settings.get? addressKey).getD "localhost"
  port : match settings.get? restPortKey with
    | some content => Text.Denotes content port
    | none => port = 8081
  encrypted : encrypted = true ↔
    ∃ content, settings.get? encryptedKey = some content ∧ Text.Spells content "true"

namespace Config

variable (settings : Table String String) (retry : Option Retry)

theorem exists_switch :
    ∃ flag, readSwitch (((settings.map .text).get? encryptedKey).getD (.text "false")) = .ok flag ∧
      (flag = true ↔
        ∃ content, settings.get? encryptedKey = some content ∧ Text.Spells content "true") := by
  rw [Table.get?_map]
  cases settings.get? encryptedKey with
  | none => exact ⟨false, by decide, by simp⟩
  | some content => simpa using readSwitch_text content

/-- The number of the settings is read, or its text is to blame. -/
theorem readWhole_cases :
    (∃ content, settings.get? restPortKey = some content ∧
        (∀ number, ¬ Text.Denotes content number) ∧
          readWhole (((settings.map .text).get? restPortKey).getD (.text "8081")) =
            .error (.notInteger (Text.quoted content))) ∨
      ∃ port, readWhole (((settings.map .text).get? restPortKey).getD (.text "8081")) = .ok port ∧
        match settings.get? restPortKey with
        | some content => Text.Denotes content port
        | none => port = 8081 := by
  rw [Table.get?_map]
  cases settings.get? restPortKey with
  | none => exact Or.inr ⟨8081, by decide, rfl⟩
  | some content =>
      rw [Option.map_some, Option.getD_some, readWhole]
      cases read : Text.integer? content with
      | none =>
          refine Or.inl ⟨content, rfl, ?_, rfl⟩
          intro number denotes
          rw [← Text.integer?_eq_some_iff, read] at denotes
          cases denotes
      | some port => exact Or.inr ⟨port, rfl, (Text.integer?_eq_some_iff content port).mp read⟩

/-- Either the settings are refused for their number, or a configuration follows them. -/
theorem ofProperties_cases :
    (∃ content, settings.get? restPortKey = some content ∧
        (∀ number, ¬ Text.Denotes content number) ∧
          ofProperties (settings.map .text) retry = .error (.notInteger (Text.quoted content))) ∨
      ∃ config address port encrypted, config.Follows settings retry address port encrypted ∧
        ofProperties (settings.map .text) retry = .ok config := by
  obtain ⟨encrypted, switched, spelled⟩ := exists_switch settings
  obtain ⟨content, given, unreadable, refused⟩ | ⟨port, read, denoted⟩ := readWhole_cases settings
  · refine Or.inl ⟨content, given, unreadable, ?_⟩
    rw [ofProperties, refused]
    rfl
  · refine Or.inr ⟨_, _, port, encrypted, ⟨rfl, rfl, denoted, spelled⟩, ?_⟩
    rw [ofProperties, read, switched, Table.get?_map]
    cases settings.get? addressKey <;> rfl

section Follows

variable {settings retry} {config : Config} {address : String} {port : Int} {encrypted : Bool}
variable (follows : config.Follows settings retry address port encrypted)
include follows

theorem Follows.denotes (content : String) (given : settings.get? restPortKey = some content) :
    Text.Denotes content port := by
  have denoted := follows.port
  rwa [given] at denoted

theorem Follows.port_of_missing (missing : settings.get? restPortKey = none) : port = 8081 := by
  have denoted := follows.port
  rwa [missing] at denoted

/-- The settings leave no choice. -/
theorem Follows.unique {other : Config} {another : String} {number : Int} {flag : Bool}
    (second : other.Follows settings retry another number flag) : config = other := by
  have addresses : address = another := follows.address.trans second.address.symm
  have flags : encrypted = flag :=
    Bool.eq_iff_iff.mpr (follows.encrypted.trans second.encrypted.symm)
  have ports : port = number := by
    cases given : settings.get? restPortKey with
    | none => rw [follows.port_of_missing given, second.port_of_missing given]
    | some content => exact (follows.denotes content given).unique (second.denotes content given)
  rw [follows.whole, second.whole, addresses, flags, ports]

/-- The number of a configuration can be written. -/
theorem Follows.numeral? : Text.numeral? port = some (toString port) := by
  cases given : settings.get? restPortKey with
  | none =>
      have standard : Text.Denotes "8081" 8081 := (Text.integer?_eq_some_iff _ _).mp (by decide)
      rw [follows.port_of_missing given]
      exact standard.numeral?
  | some content => exact (follows.denotes content given).numeral?

theorem Follows.baseUrl? : config.baseUrl? = some ((if encrypted then "https" else "http") ++
    "://" ++ address ++ ":" ++ toString port ++ "/") := by
  have written : (Value.int port).display? = some (toString port) := follows.numeral?
  rw [follows.whole, Config.baseUrl?]
  simp only [written]
  rfl

/-- A checked retry leaves the address and the number to be checked. -/
theorem Follows.check_iff (valid : (retry.getD .standard).check = .ok ()) :
    config.check = .ok () ↔ address ≠ "" ∧ 1 ≤ port ∧ port ≤ 65535 := by
  have named : (Value.text address).truthy = true ↔ address ≠ "" := by simp [Value.truthy]
  have between : (Value.int port).between? 0 65536 = some true ↔ 1 ≤ port ∧ port ≤ 65535 := by
    simp only [Value.between?, Value.number?, Option.map_some, Option.some.injEq, Bool.and_eq_true,
      Number.less_int, decide_eq_true_eq]
    omega
  have timely : Value.numeric? (fun bound timeout => !timeout.atMost bound) (.int 0)
      standard.timeout = some true := by decide
  rw [follows.whole]
  simp only [Config.check, Success.bind_eq_ok_iff, Retry.unless_eq_ok_iff, Option.some.injEq,
    valid, named, between, timely]
  simp [Value.flag?]

end Follows

/-- The only text that is refused is one that stands for the number and denotes none. -/
theorem ofProperties_eq_error_iff (error : PropertyError) :
    ofProperties (settings.map .text) retry = .error error ↔
      ∃ content, settings.get? restPortKey = some content ∧
        (∀ number, ¬ Text.Denotes content number) ∧ error = .notInteger (Text.quoted content) := by
  obtain ⟨content, given, unreadable, refused⟩ |
      ⟨config, address, port, encrypted, follows, accepted⟩ := ofProperties_cases settings retry
  · rw [refused, Except.error.injEq]
    constructor
    · rintro rfl
      exact ⟨content, given, unreadable, rfl⟩
    · rintro ⟨other, same, -, rfl⟩
      rw [Option.some.inj (given.symm.trans same)]
  · rw [accepted]
    refine iff_of_false nofun ?_
    rintro ⟨content, given, unreadable, -⟩
    exact unreadable port (follows.denotes content given)

/-- A configuration is read exactly when it follows the settings. -/
theorem ofProperties_eq_ok_iff (config : Config) :
    ofProperties (settings.map .text) retry = .ok config ↔
      ∃ address port encrypted, config.Follows settings retry address port encrypted := by
  obtain ⟨content, given, unreadable, refused⟩ |
      ⟨other, address, port, encrypted, follows, accepted⟩ := ofProperties_cases settings retry
  · rw [refused]
    refine iff_of_false nofun ?_
    rintro ⟨address, port, encrypted, follows⟩
    exact unreadable port (follows.denotes content given)
  · rw [accepted, Except.ok.injEq]
    constructor
    · rintro rfl
      exact ⟨address, port, encrypted, follows⟩
    · rintro ⟨_, _, _, another⟩
      exact follows.unique another

/-- Properties under other keys do not count. -/
theorem ofProperties_congr (one two : Table String String)
    (same : ∀ key ∈ [addressKey, restPortKey, encryptedKey], one.get? key = two.get? key) :
    ofProperties (one.map .text) retry = ofProperties (two.map .text) retry := by
  simp only [List.forall_mem_cons] at same
  obtain ⟨address, port, encrypted, -⟩ := same
  simp only [ofProperties, Table.get?_map, address, port, encrypted]

end Config

/-- The settings are refused exactly when their number is given by a text that is no numeral, and
otherwise one configuration follows them. It depends on three keys alone. Its base is written with
the decimal number, and a check accepts it when the address is not empty and the number is in range.
A numeral is read as the number that it writes, whatever its zeros, plus, blanks and underscores
are. -/
theorem configuration_from_texts (settings : Table String String) (retry : Option Retry) :
    let read := Config.ofProperties (settings.map .text) retry
    (∀ error, read = .error error ↔ ∃ content, settings.get? restPortKey = some content ∧
      (∀ number, ¬ Text.Denotes content number) ∧ error = .notInteger (Text.quoted content) ∧
        error.complaint? = some (.plain .badValue
          (restPortKey ++ " must be an integer, got " ++ Text.quoted content))) ∧
    (∀ config : Config, read = .ok config ↔
      ∃ address port encrypted, config.Follows settings retry address port encrypted) ∧
    (∀ other : Table String String,
      (∀ key ∈ [addressKey, restPortKey, encryptedKey], other.get? key = settings.get? key) →
        Config.ofProperties (other.map .text) retry = read) ∧
    (∀ (config : Config) (address : String) (port : Int) (encrypted : Bool),
      config.Follows settings retry address port encrypted →
        config.baseUrl? = some ((if encrypted then "https" else "http") ++ "://" ++ address ++
          ":" ++ toString port ++ "/") ∧
        ((retry.getD .standard).check = .ok () →
          (config.check = .ok () ↔ address ≠ "" ∧ 1 ≤ port ∧ port ≤ 65535))) ∧
    (∀ number : Int, number.natAbs < 10 ^ Text.numeralLimit →
      Text.Denotes (toString number) number) ∧
    ∀ (numeral : Text.Numeral) (number : Int), numeral.Writes number →
      ∀ other, Text.Denotes (String.ofList numeral.text) other ↔ other = number := by
  intro read
  refine ⟨?_, Config.ofProperties_eq_ok_iff settings retry,
    fun other => Config.ofProperties_congr retry other settings, ?_, Text.Denotes.of_fits,
    fun _ _ writes => writes.denotes_iff⟩
  · intro error
    rw [Config.ofProperties_eq_error_iff]
    constructor
    · rintro ⟨content, given, unreadable, rfl⟩
      exact ⟨content, given, unreadable, rfl, rfl⟩
    · rintro ⟨content, given, unreadable, refused, -⟩
      exact ⟨content, given, unreadable, refused⟩
  · intro config address port encrypted follows
    exact ⟨follows.baseUrl?, follows.check_iff⟩

/-- The number of these settings has blanks, a plus, a zero, an underscore and digits of two
scripts. -/
def scattered : Table String String :=
  Table.ofList [(restPortKey, "\u3000+0_\u0668081 "), (encryptedKey, "\tTrUE"), (addressKey, "host"),
    ("rest.bind-port", "8080")]

def scatteredNumeral : Text.Numeral where
  left := ['\u3000']
  sign := .plus
  body := ['0', '_', '\u0668', '0', '8', '1']
  digits := [0, 8, 0, 8, 1]
  right := [' ']
  leading := List.forall_mem_singleton.mpr (by decide)
  grouped := .apart _ _ _ _ (by decide) (.next _ _ _ _ (by decide) (.next _ _ _ _ (by decide)
    (.next _ _ _ _ (by decide) (.last _ _ (by decide)))))
  few := by decide
  trailing := List.forall_mem_singleton.mpr (by decide)

/-- These settings stand for a configuration that a check accepts. Nobody gives a retry. -/
theorem scattered_read :
    ∃ config : Config, Config.ofProperties (scattered.map .text) none = .ok config ∧
      config.baseUrl? = some "https://host:8081/" ∧ config.check = .ok () := by
  obtain ⟨-, accepted, -, facts, -, numerals⟩ := configuration_from_texts scattered none
  have writes : scatteredNumeral.Writes 8081 := ⟨by decide, 1, by norm_num [scatteredNumeral]⟩
  have spells : Text.Spells "\tTrUE" "true" :=
    ⟨['\t'], "TrUE".toList, [], rfl, List.forall_mem_singleton.mpr (by decide),
      List.forall_mem_nil _, by simp [Text.MatchesLetter]⟩
  have follows : Config.Follows { Config.standard with
      address := .text "host"
      restPort := .int 8081
      encrypted := .bool true
      retry := .standard } scattered none "host" 8081 true := by
    refine ⟨rfl, rfl, ?_, iff_of_true rfl ⟨_, rfl, spells⟩⟩
    exact (numerals scatteredNumeral 8081 writes 8081).mpr rfl
  obtain ⟨base, checked⟩ := facts _ _ _ _ follows
  exact ⟨_, (accepted _).mpr ⟨_, _, _, follows⟩, base, (checked (by decide)).mpr (by decide)⟩

end CheckpointReport
