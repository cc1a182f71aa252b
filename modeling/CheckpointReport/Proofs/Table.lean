/-
This file tells what a table holds after it was filled from a list, and how an object with all
kinds of keys is read by its texts.
-/

import CheckpointReport.Value
import Mathlib.Data.List.Nodup
import Mathlib.Data.List.Perm.Subperm

namespace CheckpointReport

variable {κ α : Type} [Keyed κ]

/-- Texts that are all different have different identities. -/
theorem nodup_identities (members : List (String × α)) (distinct : (members.map Prod.fst).Nodup) :
    (identities members).Nodup := by
  have injective : Function.Injective Key.text := fun one two same => Key.text.inj same
  simpa [identities, Function.comp_def] using List.Nodup.map injective distinct

/-- A key without an entry gets one at the end. -/
theorem putEntry_of_fresh (key : κ) (value : α) (entries : List (κ × α))
    (fresh : Keyed.identity key ∉ identities entries) :
    putEntry key value entries = entries ++ [(key, value)] := by
  induction entries with
  | nil => rfl
  | cons entry rest ih =>
      obtain ⟨name, old⟩ := entry
      simp only [identities_cons, List.mem_cons, not_or] at fresh
      have different : ¬ Keyed.identity name = Keyed.identity key := fun same => fresh.1 same.symm
      simp only [putEntry, different, if_false, ih fresh.2, List.cons_append]

/-- What holds of every entry holds after a write when it holds of the new value under each key. -/
theorem forall_putEntry (key : κ) (value : α) (entries : List (κ × α)) (holds : κ × α → Prop)
    (old : ∀ entry ∈ entries, holds entry) (new : holds (key, value))
    (replaced : ∀ entry ∈ entries, holds (entry.1, value)) :
    ∀ entry ∈ putEntry key value entries, holds entry := by
  induction entries with
  | nil => simpa [putEntry] using new
  | cons entry rest ih =>
      obtain ⟨first, others⟩ := List.forall_mem_cons.mp old
      obtain ⟨here, there⟩ := List.forall_mem_cons.mp replaced
      rw [putEntry]
      split
      · exact List.forall_mem_cons.mpr ⟨here, others⟩
      · exact List.forall_mem_cons.mpr ⟨first, ih others there⟩

/-- What is found stands in an entry of the key. -/
theorem exists_of_findEntry (key : κ) (entries : List (κ × α)) (value : α)
    (found : findEntry key entries = some value) :
    ∃ entry ∈ entries, Keyed.identity entry.1 = Keyed.identity key ∧ entry.2 = value := by
  induction entries with
  | nil => cases found
  | cons entry rest ih =>
      rw [findEntry] at found
      split at found
      · rename_i named
        exact ⟨entry, List.mem_cons_self, named, Option.some.inj found⟩
      · obtain ⟨other, member, same⟩ := ih found
        exact ⟨other, List.mem_cons_of_mem _ member, same⟩

/-- An entry is found under its key when no other entry has this key. -/
theorem findEntry_of_mem (entries : List (κ × α)) (distinct : (identities entries).Nodup)
    (entry : κ × α) (member : entry ∈ entries) : findEntry entry.1 entries = some entry.2 := by
  induction entries with
  | nil => cases member
  | cons first rest ih =>
      obtain ⟨fresh, others⟩ := List.nodup_cons.mp distinct
      rcases List.mem_cons.mp member with rfl | later
      · rw [findEntry, if_pos rfl]
      · have different : ¬ Keyed.identity first.1 = Keyed.identity entry.1 := by
          intro same
          exact fresh (List.mem_map.mpr ⟨entry, later, same.symm⟩)
        rw [findEntry, if_neg different]
        exact ih others later

/-- A reader does not tell two keys with one identity apart. -/
theorem findEntry_congr {key other : κ} (same : Keyed.identity key = Keyed.identity other)
    (entries : List (κ × α)) : findEntry key entries = findEntry other entries := by
  induction entries with
  | nil => rfl
  | cons entry rest ih => rw [findEntry, findEntry, same, ih]

theorem findEntry_map {β : Type} (f : α → β) (key : κ) (entries : List (κ × α)) :
    findEntry key (entries.map fun entry => (entry.1, f entry.2)) =
      (findEntry key entries).map f := by
  induction entries with
  | nil => rfl
  | cons entry rest ih =>
      rw [List.map_cons, findEntry, findEntry, ih]
      split <;> rfl

/-- A removal is seen under its own key only. -/
theorem findEntry_dropEntry (key name : κ) (entries : List (κ × α)) :
    findEntry name (dropEntry key entries) =
      if Keyed.identity key = Keyed.identity name then none else findEntry name entries := by
  induction entries with
  | nil => simp [dropEntry, findEntry]
  | cons entry rest ih =>
      rw [dropEntry] at ih
      by_cases dropped : Keyed.identity entry.1 = Keyed.identity key
      · rw [dropEntry, List.filter_cons_of_neg (by simpa using dropped), ih, findEntry, dropped]
        split <;> rfl
      · rw [dropEntry, List.filter_cons_of_pos (by simpa using dropped), findEntry, findEntry, ih]
        split
        · rename_i here
          rw [if_neg fun same => dropped (here.trans same.symm)]
        · rfl

/-- The order of the entries does not matter to a reader when each key has one entry. -/
theorem findEntry_of_perm (key : κ) {entries other : List (κ × α)} (same : entries.Perm other)
    (distinct : (identities entries).Nodup) : findEntry key entries = findEntry key other := by
  induction same with
  | nil => rfl
  | cons entry _ ih =>
      obtain ⟨-, others⟩ := List.nodup_cons.mp distinct
      rw [findEntry, findEntry, ih others]
  | swap first second rest =>
      obtain ⟨fresh, -⟩ := List.nodup_cons.mp distinct
      have different : ¬ Keyed.identity second.1 = Keyed.identity first.1 := fun eq =>
        fresh (List.mem_cons.mpr (Or.inl eq))
      simp only [findEntry]
      split
      · rename_i found
        rw [if_neg (found ▸ fun eq => different eq.symm)]
      · rfl
  | trans first _ ih following =>
      rw [ih distinct]
      exact following ((first.map _).nodup distinct)

/-- Of keys with one identity only the first is listed. -/
def firstKeys (keys : List κ) : List κ :=
  keys.eraseDupsBy fun later earlier => Keyed.identity later == Keyed.identity earlier

theorem firstKeys_cons (key : κ) (rest : List κ) :
    firstKeys (key :: rest) =
      key :: firstKeys (rest.filter fun later => Keyed.identity later ≠ Keyed.identity key) := by
  simp [firstKeys, List.eraseDupsBy_cons]

namespace Table

/-- Entries whose keys are new to a table are added in their order. -/
theorem foldl_put_entries (table : Table κ α) (entries : List (κ × α))
    (distinct : (identities (table.entries ++ entries)).Nodup) :
    (entries.foldl (fun table entry => table.put entry.1 entry.2) table).entries =
      table.entries ++ entries := by
  induction entries generalizing table with
  | nil => simp
  | cons entry rest ih =>
      have fresh : Keyed.identity entry.1 ∉ identities table.entries := by
        intro present
        simp only [identities, List.map_append, List.map_cons] at distinct
        exact (List.nodup_append.mp distinct).2.2 _ present _ (by simp) rfl
      have added : (table.put entry.1 entry.2).entries = table.entries ++ [entry] :=
        putEntry_of_fresh entry.1 entry.2 table.entries fresh
      have regrouped : table.entries ++ entry :: rest =
          (table.put entry.1 entry.2).entries ++ rest := by
        rw [added, List.append_assoc, List.singleton_append]
      rw [List.foldl_cons, regrouped]
      exact ih (table.put entry.1 entry.2) (regrouped ▸ distinct)

/-- A list with one entry for each key fills a table as it is. -/
theorem ofList_entries (entries : List (κ × α)) (distinct : (identities entries).Nodup) :
    (ofList entries).entries = entries :=
  foldl_put_entries empty entries distinct

/-- A table that is filled from a list has the keys of the list, each where it first came. The
general statement is about a table that has some of them already. -/
theorem keys_ofList (entries : List (κ × α)) :
    (ofList entries).keys = firstKeys (entries.map Prod.fst) := by
  have filled (table : Table κ α) :
      (entries.foldl (fun table entry => table.put entry.1 entry.2) table).keys =
        table.keys ++ firstKeys ((entries.map Prod.fst).filter fun key =>
          Keyed.identity key ∉ identities table.entries) := by
    induction entries generalizing table with
    | nil => simp [firstKeys]
    | cons entry rest ih =>
        have written : (table.put entry.1 entry.2).keys = _ :=
          putEntry_keys entry.1 entry.2 table.entries
        have known : identities (table.put entry.1 entry.2).entries = _ :=
          putEntry_identities entry.1 entry.2 table.entries
        rw [List.foldl_cons, ih, written, known, List.map_cons]
        by_cases present : Keyed.identity entry.1 ∈ identities table.entries
        · simp [present, keys]
        · simp [present, firstKeys_cons, Bool.and_comm, keys]
  have start : (ofList entries).keys = _ := filled empty
  rw [start]
  simp [empty, keys]

/-- What is written under other keys changes nothing for this one. -/
theorem get?_foldl_put_of_ne (table : Table κ α) (entries : List (κ × α)) (key : κ)
    (others : ∀ entry ∈ entries, Keyed.identity entry.1 ≠ Keyed.identity key) :
    (entries.foldl (fun table entry => table.put entry.1 entry.2) table).get? key =
      table.get? key := by
  induction entries generalizing table with
  | nil => rfl
  | cons entry rest ih =>
      obtain ⟨first, later⟩ := List.forall_mem_cons.mp others
      rw [List.foldl_cons, ih _ later, get?_put, if_neg first]

/-- The last entry of a key is the one that is found in the end. -/
theorem get?_ofList (before after : List (κ × α)) (entry : κ × α) (key : κ)
    (named : Keyed.identity entry.1 = Keyed.identity key)
    (last : ∀ later ∈ after, Keyed.identity later.1 ≠ Keyed.identity key) :
    (ofList (before ++ entry :: after)).get? key = some entry.2 := by
  rw [ofList, List.foldl_append, List.foldl_cons, get?_foldl_put_of_ne _ _ _ last, get?_put,
    if_pos named]

/-- A table that is filled from a list holds keys and values of the list only. -/
theorem forall_ofList (entries : List (κ × α)) (named : κ → Prop) (holds : α → Prop)
    (listed : ∀ entry ∈ entries, named entry.1 ∧ holds entry.2) :
    ∀ entry ∈ (ofList entries).entries, named entry.1 ∧ holds entry.2 := by
  have filled (table : Table κ α)
      (before : ∀ entry ∈ table.entries, named entry.1 ∧ holds entry.2) :
      ∀ entry ∈ (entries.foldl (fun table entry => table.put entry.1 entry.2) table).entries,
        named entry.1 ∧ holds entry.2 := by
    induction entries generalizing table with
    | nil => exact before
    | cons entry rest ih =>
        obtain ⟨first, others⟩ := List.forall_mem_cons.mp listed
        refine ih others (table.put entry.1 entry.2) ?_
        exact forall_putEntry entry.1 entry.2 table.entries _ before first
          fun other member => ⟨(before other member).1, first.2⟩
  exact filled empty (List.forall_mem_nil _)

theorem forall_values_ofList (entries : List (κ × α)) (holds : α → Prop)
    (listed : ∀ entry ∈ entries, holds entry.2) :
    ∀ value ∈ (ofList entries).values, holds value := by
  have filled := forall_ofList entries (fun _ => True) holds
    fun entry member => ⟨trivial, listed entry member⟩
  intro value member
  obtain ⟨entry, present, rfl⟩ := List.mem_map.mp member
  exact (filled entry present).2

theorem values_map {β : Type} (f : α → β) (table : Table κ α) :
    (table.map f).values = table.values.map f := by
  simp [values, map]

/-- A write adds no value but its own. -/
theorem mem_values_put (table : Table κ α) (key : κ) (value other : α)
    (member : other ∈ (table.put key value).values) : other ∈ table.values ∨ other = value := by
  obtain ⟨entry, present, rfl⟩ := List.mem_map.mp member
  exact forall_putEntry key value table.entries
    (fun entry => entry.2 ∈ table.values ∨ entry.2 = value)
    (fun old among => Or.inl (List.mem_map_of_mem among)) (Or.inr rfl) (fun _ _ => Or.inr rfl)
    entry present

theorem mem_values_remove (table : Table κ α) (key : κ) (other : α)
    (member : other ∈ (table.remove key).values) : other ∈ table.values := by
  obtain ⟨entry, present, rfl⟩ := List.mem_map.mp member
  exact List.mem_map_of_mem (List.mem_filter.mp present).1

theorem mem_identities_iff (table : Table κ α) (key : κ) :
    Keyed.identity key ∈ identities table.entries ↔ ∃ value, table.get? key = some value := by
  rw [← not_iff_not, ← findEntry_eq_none_iff, ← Option.ne_none_iff_exists', not_not]
  exact Iff.rfl

/-- Tables that agree have the same size, and each entry of the first has a partner. -/
theorem agree_eq (related : α → α → Bool) (first second : Table κ α) :
    first.agree related second = (first.size == second.size &&
      first.entries.all fun entry => (second.get? entry.1).any (related entry.2)) :=
  rfl

/-- When related values are equal, two tables agree if they have the same value under each key. -/
theorem agree_iff (related : α → α → Bool) (first second : Table κ α)
    (lawful : ∀ one ∈ first.values, ∀ two ∈ second.values, related one two = true ↔ one = two) :
    first.agree related second = true ↔ ∀ key, first.get? key = second.get? key := by
  rw [agree_eq, Bool.and_eq_true, beq_iff_eq, List.all_eq_true]
  simp only [Option.any_eq_true]
  constructor
  · rintro ⟨size, each⟩ key
    have partner (entry : κ × α) (member : entry ∈ first.entries) :
        second.get? entry.1 = some entry.2 := by
      obtain ⟨value, found, fine⟩ := each entry member
      obtain ⟨other, among, -, rfl⟩ := exists_of_findEntry _ _ _ found
      rw [found, (lawful _ (List.mem_map_of_mem member) _ (List.mem_map_of_mem among)).mp fine]
    have within : identities first.entries ⊆ identities second.entries := by
      intro name listed
      obtain ⟨entry, member, rfl⟩ := List.mem_map.mp listed
      exact (second.mem_identities_iff entry.1).mpr ⟨_, partner entry member⟩
    have all : (identities first.entries).Perm (identities second.entries) :=
      (List.subperm_of_subset first.distinct within).perm_of_length_le
        (by simpa [identities, Table.size] using Nat.le_of_eq size.symm)
    cases found : first.get? key with
    | none =>
        have absent := (findEntry_eq_none_iff key first.entries).mp found
        exact ((findEntry_eq_none_iff key second.entries).mpr
          fun present => absent (all.mem_iff.mpr present)).symm
    | some value =>
        obtain ⟨entry, member, named, rfl⟩ := exists_of_findEntry _ _ _ found
        rw [← partner entry member]
        exact findEntry_congr named second.entries
  · intro given
    have within {one two : Table κ α} (same : ∀ key, one.get? key = two.get? key) :
        identities one.entries ⊆ identities two.entries := by
      intro name listed
      obtain ⟨entry, -, rfl⟩ := List.mem_map.mp listed
      rw [mem_identities_iff] at listed ⊢
      rwa [same] at listed
    have all := (List.subperm_of_subset first.distinct (within given)).antisymm
      (List.subperm_of_subset second.distinct (within fun key => (given key).symm))
    refine ⟨by simpa [identities, Table.size] using all.length_eq, ?_⟩
    intro entry member
    have found : second.get? entry.1 = some entry.2 :=
      (given entry.1).symm.trans (findEntry_of_mem _ first.distinct entry member)
    obtain ⟨other, among, -, same⟩ := exists_of_findEntry _ _ _ found
    exact ⟨entry.2, found,
      (lawful _ (List.mem_map_of_mem member) _ (same ▸ List.mem_map_of_mem among)).mpr rfl⟩

theorem eq_of_entries {first second : Table κ α} (same : first.entries = second.entries) :
    first = second := by
  cases first
  cases second
  cases same
  rfl

theorem ofList_self (table : Table κ α) : ofList table.entries = table :=
  eq_of_entries (ofList_entries table.entries table.distinct)

theorem get?_remove (table : Table κ α) (key name : κ) :
    (table.remove key).get? name =
      if Keyed.identity key = Keyed.identity name then none else table.get? name :=
  findEntry_dropEntry key name table.entries

section Map

variable {β : Type} (f : α → β) (table : Table κ α) (key : κ)

theorem get?_map : (table.map f).get? key = (table.get? key).map f :=
  findEntry_map f key table.entries

/-- An entry may be put before or after the values are mapped. -/
theorem map_put (value : α) : (table.map f).put key (f value) = (table.put key value).map f := by
  have written (entries : List (κ × α)) :
      putEntry key (f value) (entries.map fun entry => (entry.1, f entry.2)) =
        (putEntry key value entries).map fun entry => (entry.1, f entry.2) := by
    induction entries with
    | nil => rfl
    | cons entry rest ih =>
        rw [List.map_cons, putEntry, putEntry]
        split
        · rfl
        · rw [ih, List.map_cons]
  exact eq_of_entries (written table.entries)

theorem map_remove : (table.map f).remove key = (table.remove key).map f :=
  eq_of_entries List.filter_map

end Map

end Table

/-- No key but a text has the identity of a text. -/
theorem Key.identity_eq_text_iff (key : Key) (name : String) :
    key.identity = .text name ↔ key = .text name := by
  cases key with
  | float number =>
      simp only [Key.identity]
      split <;> simp
  | _ => simp [Key.identity]

theorem Value.textKey?_eq_some_iff (member : Key × Value) (named : String × Value) :
    textKey? member = some named ↔ member = (.text named.1, named.2) := by
  obtain ⟨key, value⟩ := member
  cases key <;> simp [textKey?, Prod.ext_iff]

/-- An object has members exactly when it was made from them. -/
theorem Value.members?_eq_some_iff (value : Value) (members : Members) :
    value.members? = some members ↔ value = .ofMembers members := by
  constructor
  · intro found
    cases value with
    | object entries =>
        apply congrArg Value.object
        simp only [members?] at found
        induction entries generalizing members with
        | nil =>
            cases found
            rfl
        | cons entry rest ih =>
            simp only [List.mapM_cons, Option.bind_eq_bind, Option.bind_eq_some_iff,
              Option.pure_def, Option.some.injEq] at found
            obtain ⟨named, first, others, following, rfl⟩ := found
            rw [List.map_cons, ← ih others following,
              (textKey?_eq_some_iff entry named).mp first]
    | _ => cases found
  · intro same
    rw [same]
    exact members?_ofMembers members

/-- Keys that are no texts are passed over when a text is looked up. -/
theorem findEntry_text (name : String) (members : List (Key × Value)) :
    findEntry name (members.filterMap Value.textKey?) = findEntry (Key.text name) members := by
  induction members with
  | nil => rfl
  | cons member rest ih =>
      cases named : Value.textKey? member with
      | none =>
          have different : ¬ Keyed.identity member.1 = Key.text name := by
            intro same
            have text := (Key.identity_eq_text_iff member.1 name).mp same
            have found := (Value.textKey?_eq_some_iff member (name, member.2)).mpr
              (Prod.ext text rfl)
            rw [named] at found
            cases found
          simp [named, findEntry, different, ih]
      | some entry =>
          obtain rfl := (Value.textKey?_eq_some_iff member entry).mp named
          by_cases same : entry.1 = name <;> simp [Value.textKey?, findEntry, same, ih]

/-- Tables under texts hold the same entries in some order when they are read the same. -/
theorem Table.perm_iff {α : Type} (first second : Table Key α)
    (left : ∀ entry ∈ first.entries, ∃ name, entry.1 = .text name)
    (right : ∀ entry ∈ second.entries, ∃ name, entry.1 = .text name) :
    first.entries.Perm second.entries ↔ ∀ key, first.get? key = second.get? key := by
  have within (one two : Table Key α) (texts : ∀ entry ∈ one.entries, ∃ name, entry.1 = .text name)
      (same : ∀ key, one.get? key = two.get? key) (entry : Key × α)
      (member : entry ∈ one.entries) : entry ∈ two.entries := by
    obtain ⟨name, named⟩ := texts entry member
    have found : two.get? entry.1 = some entry.2 :=
      (same entry.1).symm.trans (findEntry_of_mem _ one.distinct entry member)
    obtain ⟨other, among, identity, value⟩ := exists_of_findEntry _ _ _ found
    rw [named] at identity
    have key : other.1 = .text name := (Key.identity_eq_text_iff other.1 name).mp identity
    rwa [← Prod.ext (key.trans named.symm) value]
  constructor
  · intro order key
    exact findEntry_of_perm key order first.distinct
  · intro same
    rw [List.perm_ext_iff_of_nodup (.of_map _ first.distinct) (.of_map _ second.distinct)]
    intro entry
    exact ⟨within first second left same entry,
      within second first right (fun key => (same key).symm) entry⟩

end CheckpointReport
