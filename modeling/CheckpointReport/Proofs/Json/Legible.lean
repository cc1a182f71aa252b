/-
This file proves that whatever is read from the bytes of a body can be written in a message. Only an
integer beyond the limit of numerals has no text, and a reader of bytes refuses those.
-/

import CheckpointReport.Json.Reader
import CheckpointReport.Proofs.Success
import CheckpointReport.Proofs.Table
import CheckpointReport.Response

namespace CheckpointReport

namespace Value

/-- A value is legible when it has a text. -/
def Legible (value : Value) : Prop := value.shown?.isSome = true

theorem legible_list_iff (items : List Value) :
    (Value.list items).Legible ↔ ∀ item ∈ items, item.Legible := by
  have shown (items : List Value) :
      (Value.list items).Legible ↔ (shownItems? items).isSome = true := by
    rw [Legible, shown?, Option.isSome_map]
  induction items with
  | nil => simp [shown, shownItems?]
  | cons item rest ih =>
      rw [List.forall_mem_cons, ih.symm, shown, shown, Legible, shownItems?]
      cases item.shown? <;> cases shownItems? rest <;> simp

theorem legible_object_iff (members : List (Key × Value)) :
    (Value.object members).Legible ↔
      ∀ member ∈ members, member.1.shown?.isSome = true ∧ member.2.Legible := by
  have shown (members : List (Key × Value)) :
      (Value.object members).Legible ↔ (shownMembers? members).isSome = true := by
    rw [Legible, shown?, Option.isSome_map]
  induction members with
  | nil => simp [shown, shownMembers?]
  | cons member rest ih =>
      rw [List.forall_mem_cons, ih.symm, shown, shown, Legible, shownMembers?]
      cases member.1.shown? <;> cases member.2.shown? <;> cases shownMembers? rest <;> simp

theorem legible_ofMembers_iff (members : Members) :
    (ofMembers members).Legible ↔ ∀ member ∈ members, member.2.Legible := by
  rw [ofMembers, legible_object_iff, List.forall_mem_map]
  exact forall₂_congr fun member _ => and_iff_right rfl

theorem legible_view_iff (members : Members) :
    (Value.view members).Legible ↔ ∀ member ∈ members, member.2.Legible := by
  have shown (members : Members) :
      (Value.view members).Legible ↔ (shownEntries? members).isSome = true := by
    rw [Legible, shown?, Option.isSome_map]
  induction members with
  | nil => simp [shown, shownEntries?]
  | cons member rest ih =>
      rw [List.forall_mem_cons, ih.symm, shown, shown, Legible, shownEntries?]
      cases member.2.shown? <;> cases shownEntries? rest <;> simp

/-- An integer stands in a value that it is itself, in a key of the value or in one of its parts. -/
inductive Holds (number : Int) : Value → Prop where
  | here : Holds number (.int number)
  | item (items : List Value) (item : Value) (listed : item ∈ items) (inside : Holds number item) :
      Holds number (.list items)
  | key (members : List (Key × Value)) (member : Key × Value) (listed : member ∈ members)
      (named : member.1 = .int number) : Holds number (.object members)
  | member (members : List (Key × Value)) (member : Key × Value) (listed : member ∈ members)
      (inside : Holds number member.2) : Holds number (.object members)
  | entry (members : Members) (member : String × Value) (listed : member ∈ members)
      (inside : Holds number member.2) : Holds number (.view members)

/-- No integer in the value has more digits than a numeral may have. -/
def IsShort (value : Value) : Prop :=
  ∀ number, value.Holds number → Text.fitsNumeral number = true

theorem shown?_key_isSome_iff (key : Key) :
    key.shown?.isSome = true ↔ ∀ number, key = .int number → Text.fitsNumeral number = true := by
  cases key <;> simp [Key.shown?, Text.numeral?]

theorem isShort_list_iff (items : List Value) :
    (Value.list items).IsShort ↔ ∀ item ∈ items, item.IsShort := by
  constructor
  · intro short item listed number inside
    exact short number (.item items item listed inside)
  · intro parts number held
    cases held with
    | item _ item listed inside => exact parts item listed number inside

/-- An object is short when its keys have texts and its members are short. -/
theorem isShort_object_iff (members : List (Key × Value)) :
    (Value.object members).IsShort ↔
      ∀ member ∈ members, member.1.shown?.isSome = true ∧ member.2.IsShort := by
  constructor
  · intro short member listed
    refine ⟨(shown?_key_isSome_iff member.1).mpr ?_, ?_⟩
    · intro number named
      exact short number (.key members member listed named)
    · intro number inside
      exact short number (.member members member listed inside)
  · intro parts number held
    cases held with
    | key _ member listed named =>
        exact (shown?_key_isSome_iff member.1).mp (parts member listed).1 number named
    | member _ member listed inside => exact (parts member listed).2 number inside

theorem isShort_view_iff (members : Members) :
    (Value.view members).IsShort ↔ ∀ member ∈ members, member.2.IsShort := by
  constructor
  · intro short member listed number inside
    exact short number (.entry members member listed inside)
  · intro parts number held
    cases held with
    | entry _ member listed inside => exact parts member listed number inside

theorem sizeOf_snd_lt_of_mem {κ : Type} [SizeOf κ] {members : List (κ × Value)}
    {member : κ × Value} (listed : member ∈ members) : sizeOf member.2 < sizeOf members := by
  have less := List.sizeOf_lt_of_mem listed
  cases member
  simp only [Prod.mk.sizeOf_spec] at less ⊢
  omega

/-- Only an integer that is too long keeps a value from having a text. -/
theorem legible_iff_isShort (value : Value) : value.Legible ↔ value.IsShort := by
  cases value with
  | list items =>
      rw [legible_list_iff, isShort_list_iff]
      exact forall₂_congr fun item listed => legible_iff_isShort item
  | object members =>
      rw [legible_object_iff, isShort_object_iff]
      exact forall₂_congr fun member listed => and_congr_right' (legible_iff_isShort member.2)
  | view members =>
      rw [legible_view_iff, isShort_view_iff]
      exact forall₂_congr fun member listed => legible_iff_isShort member.2
  | int number =>
      have fits : (Value.int number).Legible ↔ Text.fitsNumeral number = true := by
        simp [Legible, shown?, Text.numeral?]
      rw [fits]
      constructor
      · intro short other held
        cases held
        exact short
      · exact fun short => short number .here
  | _ =>
      refine iff_of_true rfl ?_
      intro number held
      cases held
termination_by sizeOf value
decreasing_by
  · have less := List.sizeOf_lt_of_mem listed
    simp only [list.sizeOf_spec]
    omega
  · have less := sizeOf_snd_lt_of_mem listed
    simp only [object.sizeOf_spec]
    omega
  · have less := sizeOf_snd_lt_of_mem listed
    simp only [view.sizeOf_spec]
    omega

/-- A text and a view are written in another way when they stand alone. -/
theorem Legible.display? {value : Value} (legible : value.Legible) :
    value.display?.isSome = true := by
  cases value with
  | text content => rfl
  | view members =>
      rw [Legible, shown?, Option.isSome_map] at legible
      rw [Value.display?, Option.isSome_map]
      exact legible
  | _ => exact legible

end Value

namespace Json

/-- A token within the limit of numerals is legible, whether it is a literal or not. -/
def Token.Sound (token : Token) : Prop :=
  token.isWithinLimit = true → ∀ value, token = .literal value → value.Legible

/-- The literals are the constants and the numbers. -/
theorem literal_sound (text : List Char) (value : Value) (read : literal? text = some value) :
    (Token.literal value).Sound := by
  have number (parts : NumberParts) : (Token.literal parts.value).Sound := by
    intro within other same
    cases same
    cases known : parts.value with
    | int number =>
        rw [known] at within
        have fits : Text.fitsNumeral number = true := within
        rw [Value.Legible, Value.shown?, Text.numeral?, if_pos fits]
        rfl
    | float number => rfl
    | _ =>
        unfold NumberParts.value at known
        split at known <;> cases known
  unfold literal? at read
  split at read
  case h_7 =>
    obtain ⟨parts, -, rfl⟩ := Option.map_eq_some_iff.mp read
    exact number parts
  all_goals
    cases read
    intro _ other same
    cases same
    rfl

theorem sound_of_punctuation (c : Char) (token : Token) (read : punctuation? c = some token) :
    token.Sound := by
  intro _ value same
  subst same
  unfold punctuation? at read
  split at read <;> cases read

/-- A character between two tokens makes sound tokens only. -/
theorem stepBetween_sound (c : Char) : ∀ token ∈ (stepBetween c).2, token.Sound := by
  unfold stepBetween
  intro token read
  split at read
  · cases read
  · split at read
    · cases read
    · split at read
      · rename_i punctuation found
        obtain rfl := List.mem_singleton.mp read
        exact sound_of_punctuation c token found
      · cases read

theorem textToken_sound (reversed : List Nat) : (textToken reversed).Sound := by
  intro _ value same
  cases same

/-- One character completes sound tokens only. -/
theorem scan_step_sound (scan next : Scan) (c : Char) (tokens : List Token)
    (step : scan.step c = some (next, tokens)) : ∀ token ∈ tokens, token.Sound := by
  have unread (token : Token) (read : token ∈ ([] : List Token)) : token.Sound :=
    absurd read List.not_mem_nil
  cases scan with
  | between =>
      have same := Option.some.inj step
      rw [show tokens = (stepBetween c).2 from (congrArg Prod.snd same).symm]
      exact stepBetween_sound c
  | literal reversed =>
      rw [Scan.step] at step
      split at step
      · obtain ⟨value, read, same⟩ := Option.map_eq_some_iff.mp step
        cases same
        rw [List.forall_mem_cons]
        exact ⟨literal_sound _ value read, stepBetween_sound c⟩
      · cases step
        exact unread
  | text reversed =>
      rw [Scan.step] at step
      split at step
      · cases step
        rw [List.forall_mem_singleton]
        exact textToken_sound reversed
      · split at step
        · cases step
          exact unread
        · split at step
          · cases step
          · cases step
            exact unread
  | escape reversed =>
      rw [Scan.step] at step
      split at step
      · cases step
        exact unread
      · obtain ⟨unit, -, same⟩ := Option.map_eq_some_iff.mp step
        cases same
        exact unread
  | code reversed digits value =>
      rw [Scan.step] at step
      obtain ⟨digit, -, same⟩ := Option.map_eq_some_iff.mp step
      split at same
      · cases same
        exact unread
      · cases same
        exact unread

/-- The end of a text makes sound tokens only. -/
theorem scan_finish_sound (scan : Scan) (tokens : List Token) (finish : scan.finish = some tokens) :
    ∀ token ∈ tokens, token.Sound := by
  cases scan with
  | between =>
      cases finish
      intro token read
      cases read
  | literal reversed =>
      obtain ⟨value, read, rfl⟩ := Option.map_eq_some_iff.mp finish
      rw [List.forall_mem_singleton]
      exact literal_sound _ value read
  | _ => cases finish

/-- The tokens of a text are sound. The induction is on the text, with any tokens done before. -/
theorem tokensFrom?_sound (text : List Char) (scan : Scan) (done tokens : List Token)
    (sound : ∀ token ∈ done, token.Sound) (read : tokensFrom? scan done text = some tokens) :
    ∀ token ∈ tokens, token.Sound := by
  induction text generalizing scan done with
  | nil =>
      obtain ⟨last, finish, rfl⟩ := Option.map_eq_some_iff.mp read
      intro token member
      rcases List.mem_append.mp member with earlier | final
      · exact sound token (List.mem_reverse.mp earlier)
      · exact scan_finish_sound scan last finish token final
  | cons c rest ih =>
      rw [tokensFrom?] at read
      split at read
      · rename_i next added step
        refine ih next _ ?_ read
        intro token member
        rw [List.reverseAux_eq] at member
        rcases List.mem_append.mp member with new | earlier
        · exact scan_step_sound scan next c added step token (List.mem_reverse.mp new)
        · exact sound token earlier
      · cases read

/-- The values in an open list or object are legible. -/
def Frame.Legible : Frame → Prop
  | .items reversed => ∀ item ∈ reversed, item.Legible
  | .members known _ => ∀ member ∈ known, member.2.Legible

/-- Only a finished reader expects to give a value. -/
def Expected.Legible : Expected → Prop
  | .finished result => result.Legible
  | _ => True

structure Reader.Legible (reader : Reader) : Prop where
  stack : ∀ frame ∈ reader.stack, frame.Legible
  expected : reader.expected.Legible

section Readers

variable (stack : List Frame) (held : ∀ frame ∈ stack, frame.Legible) (next : Reader)
include held

/-- A complete value joins the values around it. -/
theorem complete_legible (value : Value) (legible : value.Legible) :
    (complete value stack).Legible := by
  cases stack with
  | nil => exact ⟨held, legible⟩
  | cons frame outer =>
      obtain ⟨inner, others⟩ := List.forall_mem_cons.mp held
      cases frame with
      | items reversed =>
          exact ⟨List.forall_mem_cons.mpr ⟨List.forall_mem_cons.mpr ⟨legible, inner⟩, others⟩,
            trivial⟩
      | members members key =>
          have added : ∀ member ∈ putEntry key value members, member.2.Legible :=
            forall_putEntry key value members (fun member => member.2.Legible) inner legible
              fun _ _ => legible
          exact ⟨List.forall_mem_cons.mpr ⟨added, others⟩, trivial⟩

theorem closeList?_legible (step : closeList? stack = some next) : next.Legible := by
  unfold closeList? at step
  split at step
  · rename_i reversed outer
    cases step
    obtain ⟨inner, others⟩ := List.forall_mem_cons.mp held
    refine complete_legible outer others _ ((Value.legible_list_iff _).mpr ?_)
    intro item member
    exact inner item (List.mem_reverse.mp member)
  · cases step

theorem closeObject?_legible (step : closeObject? stack = some next) : next.Legible := by
  unfold closeObject? at step
  split at step
  · rename_i members key outer
    cases step
    obtain ⟨inner, others⟩ := List.forall_mem_cons.mp held
    exact complete_legible outer others _ ((Value.legible_ofMembers_iff members).mpr inner)
  · cases step

theorem setKey?_legible (content : String) (step : setKey? content stack = some next) :
    next.Legible := by
  unfold setKey? at step
  split at step
  · cases step
    obtain ⟨inner, others⟩ := List.forall_mem_cons.mp held
    exact ⟨List.forall_mem_cons.mpr ⟨inner, others⟩, trivial⟩
  · cases step

theorem afterComma?_legible (step : afterComma? stack = some next) : next.Legible := by
  unfold afterComma? at step
  split at step
  · cases step
    exact ⟨held, trivial⟩
  · cases step
    exact ⟨held, trivial⟩
  · cases step

/-- A value that starts leaves the reader legible. -/
theorem startValue?_legible (token : Token) (within : token.isWithinLimit = true)
    (sound : token.Sound) (step : startValue? stack token = some next) : next.Legible := by
  unfold startValue? at step
  split at step
  · cases step
    exact complete_legible stack held _ (sound within _ rfl)
  · cases step
    exact complete_legible stack held _ rfl
  · cases step
    exact ⟨List.forall_mem_cons.mpr ⟨List.forall_mem_nil _, held⟩, trivial⟩
  · cases step
    exact ⟨List.forall_mem_cons.mpr ⟨List.forall_mem_nil _, held⟩, trivial⟩
  · cases step

end Readers

/-- Each token leaves the reader legible. -/
theorem step?_legible (reader next : Reader) (token : Token) (legible : reader.Legible)
    (within : token.isWithinLimit = true) (sound : token.Sound)
    (step : reader.step? token = some next) : next.Legible := by
  have held := legible.stack
  unfold Reader.step? at step
  split at step
  · exact startValue?_legible _ held next _ within sound step
  · exact closeList?_legible _ held next step
  · exact startValue?_legible _ held next _ within sound step
  · exact setKey?_legible _ held next _ step
  · exact setKey?_legible _ held next _ step
  · exact closeObject?_legible _ held next step
  · cases step
    exact ⟨held, trivial⟩
  · exact afterComma?_legible _ held next step
  · exact closeList?_legible _ held next step
  · exact closeObject?_legible _ held next step
  · cases step

/-- A run keeps the reader legible. The induction is on the tokens. -/
theorem run?_legible (tokens : List Token) (reader last : Reader) (legible : reader.Legible)
    (within : ∀ token ∈ tokens, token.isWithinLimit = true) (sound : ∀ token ∈ tokens, token.Sound)
    (run : reader.run? tokens = some last) : last.Legible := by
  induction tokens generalizing reader with
  | nil =>
      cases run
      exact legible
  | cons token rest ih =>
      obtain ⟨first, others⟩ := List.forall_mem_cons.mp within
      obtain ⟨soundFirst, soundOthers⟩ := List.forall_mem_cons.mp sound
      rw [Reader.run?] at run
      split at run
      · rename_i next step
        exact ih next (step?_legible reader next token legible first soundFirst step) others
          soundOthers run
      · cases run

/-- A reader of bytes gives legible values only. -/
theorem ofBytes?_legible (bytes : List UInt8) (value : Value)
    (read : ofBytes? bytes = some value) : value.Legible := by
  unfold ofBytes? at read
  split at read
  · rename_i tokens split
    obtain ⟨text, -, scanned⟩ := Option.bind_eq_some_iff.mp split
    split at read
    · rename_i acceptable
      simp only [isAcceptable, Bool.and_eq_true, List.all_eq_true] at acceptable
      have sound := tokensFrom?_sound text .between [] tokens (List.forall_mem_nil _) scanned
      unfold value? at read
      split at read
      · rename_i ran
        cases read
        have start : Reader.start.Legible := ⟨List.forall_mem_nil _, trivial⟩
        exact (run?_legible tokens _ _ start acceptable.1 sound ran).expected
      · cases read
    · cases read
  · cases read

end Json

/-- The messages in a legible payload have texts. -/
theorem errorMessages?_of_legible (payload : Members)
    (legible : (Value.ofMembers payload).Legible) :
    ∃ messages, errorMessages? (.ofMembers payload) = some messages := by
  have members := (Value.legible_ofMembers_iff payload).mp legible
  have read : ∀ items, Value.read payload errorsKey = .list items →
      ∀ item ∈ items, item.Legible := by
    intro items listed
    rw [Value.read] at listed
    cases found : findEntry errorsKey payload with
    | none =>
        rw [found] at listed
        cases listed
    | some value =>
        obtain ⟨entry, member, -, named⟩ := exists_of_findEntry errorsKey payload value found
        rw [found, Option.getD_some] at listed
        rw [← Value.legible_list_iff, ← listed, ← named]
        exact members entry member
  have items : ∀ item ∈ errorItems (.ofMembers payload), item.Legible := by
    rw [errorItems, Value.readable?_ofMembers]
    dsimp only
    split
    · rename_i items listed
      intro item kept
      exact read items listed item (List.mem_filter.mp kept).1
    · exact List.forall_mem_nil _
  have texts := (Success.exists_forall₂_iff _ _).mpr fun item kept =>
    Option.isSome_iff_exists.mp (items item kept).display?
  exact texts.imp fun _ shown => Success.mapM_eq_some_iff.mpr shown

end CheckpointReport
