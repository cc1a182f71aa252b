/-
This file defines tables. A table keeps its entries in the order in which their keys first came,
and each key has one entry.
-/

import CheckpointReport.Key

namespace CheckpointReport

/-- This function reads the first entry of a key. -/
def findEntry {κ α : Type} [Keyed κ] (key : κ) : List (κ × α) → Option α
  | [] => none
  | (name, value) :: rest =>
      if Keyed.identity name = Keyed.identity key then some value else findEntry key rest

/-- A write replaces the value of its key in place, or adds an entry at the end. The key stays
as it was first written. -/
def putEntry {κ α : Type} [Keyed κ] (key : κ) (value : α) : List (κ × α) → List (κ × α)
  | [] => [(key, value)]
  | (name, old) :: rest =>
      if Keyed.identity name = Keyed.identity key then (name, value) :: rest
      else (name, old) :: putEntry key value rest

/-- This function drops every entry of a key. -/
def dropEntry {κ α : Type} [Keyed κ] (key : κ) (entries : List (κ × α)) : List (κ × α) :=
  entries.filter fun entry => Keyed.identity entry.1 ≠ Keyed.identity key

/-- These are the identities of the keys of a list of entries. -/
def identities {κ α : Type} [Keyed κ] (entries : List (κ × α)) : List Key :=
  entries.map fun entry => Keyed.identity entry.1

@[simp] theorem identities_nil {κ α : Type} [Keyed κ] : identities ([] : List (κ × α)) = [] := rfl

@[simp] theorem identities_cons {κ α : Type} [Keyed κ] (entry : κ × α) (rest : List (κ × α)) :
    identities (entry :: rest) = Keyed.identity entry.1 :: identities rest := rfl

/-- A write keeps the keys, and a new key comes at the end. -/
theorem putEntry_keys {κ α : Type} [Keyed κ] (key : κ) (value : α) (entries : List (κ × α)) :
    (putEntry key value entries).map Prod.fst =
      if Keyed.identity key ∈ identities entries then entries.map Prod.fst
      else entries.map Prod.fst ++ [key] := by
  induction entries with
  | nil => simp [putEntry]
  | cons entry rest ih =>
      obtain ⟨name, old⟩ := entry
      by_cases same : Keyed.identity name = Keyed.identity key
      · simp [putEntry, same]
      · have different : ¬ Keyed.identity key = Keyed.identity name := fun eq => same eq.symm
        simp only [putEntry, same, if_false, List.map_cons, ih, identities_cons, List.mem_cons,
          different, false_or]
        split <;> simp

theorem putEntry_identities {κ α : Type} [Keyed κ] (key : κ) (value : α)
    (entries : List (κ × α)) :
    identities (putEntry key value entries) =
      if Keyed.identity key ∈ identities entries then identities entries
      else identities entries ++ [Keyed.identity key] := by
  have written := congrArg (List.map Keyed.identity) (putEntry_keys key value entries)
  rw [apply_ite (List.map Keyed.identity)] at written
  simpa [identities, Function.comp_def] using written

/-- An entry takes the place of the one with its key, so keys stay distinct. -/
theorem putEntry_distinct {κ α : Type} [Keyed κ] (key : κ) (value : α) (entries : List (κ × α))
    (distinct : (identities entries).Nodup) :
    (identities (putEntry key value entries)).Nodup := by
  rw [putEntry_identities]
  split
  · exact distinct
  · rename_i fresh
    rw [List.nodup_append]
    refine ⟨distinct, by simp, ?_⟩
    intro name present other last
    simp only [List.mem_singleton] at last
    subst last
    intro same
    exact fresh (same ▸ present)

theorem dropEntry_distinct {κ α : Type} [Keyed κ] (key : κ) (entries : List (κ × α))
    (distinct : (identities entries).Nodup) : (identities (dropEntry key entries)).Nodup :=
  (List.filter_sublist.map _).nodup distinct

/-- A table holds one entry for each key, in the order of first appearance. -/
structure Table (κ α : Type) [Keyed κ] where
  entries : List (κ × α)
  distinct : (identities entries).Nodup
  deriving Repr

namespace Table

variable {κ α : Type} [Keyed κ]

def empty : Table κ α := ⟨[], by simp⟩

instance : Inhabited (Table κ α) := ⟨empty⟩

def keys (table : Table κ α) : List κ := table.entries.map Prod.fst

def values (table : Table κ α) : List α := table.entries.map Prod.snd

def size (table : Table κ α) : Nat := table.entries.length

def get? (table : Table κ α) (key : κ) : Option α := findEntry key table.entries

/-- The update keeps the position of a key that is already present. -/
def put (table : Table κ α) (key : κ) (value : α) : Table κ α :=
  ⟨putEntry key value table.entries, putEntry_distinct key value _ table.distinct⟩

def remove (table : Table κ α) (key : κ) : Table κ α :=
  ⟨dropEntry key table.entries, dropEntry_distinct key _ table.distinct⟩

/-- A table is filled from left to right, so the last value of a key counts. -/
def ofList (entries : List (κ × α)) : Table κ α :=
  entries.foldl (fun table entry => table.put entry.1 entry.2) empty

/-- This function changes the values and keeps the keys. -/
def map {β : Type} (f : α → β) (table : Table κ α) : Table κ β :=
  ⟨table.entries.map fun entry => (entry.1, f entry.2), by
    simpa [identities, List.map_map, Function.comp_def] using table.distinct⟩

/-- Two tables agree when they have the same keys with related values, in any order. -/
def agree (related : α → α → Bool) (first second : Table κ α) : Bool :=
  first.size == second.size &&
    first.entries.all fun entry =>
      match second.get? entry.1 with
      | some value => related entry.2 value
      | none => false

end Table

theorem findEntry_eq_none_iff {κ α : Type} [Keyed κ] (key : κ) (entries : List (κ × α)) :
    findEntry key entries = none ↔ Keyed.identity key ∉ identities entries := by
  induction entries with
  | nil => simp [findEntry]
  | cons entry rest ih =>
      obtain ⟨name, value⟩ := entry
      by_cases same : Keyed.identity name = Keyed.identity key
      · simp [findEntry, same]
      · have different : ¬ Keyed.identity key = Keyed.identity name := fun eq => same eq.symm
        simp [findEntry, same, different, ih]

/-- The new value is found under every key of the same identity, and the rest is as before. -/
theorem findEntry_putEntry {κ α : Type} [Keyed κ] (key name : κ) (value : α)
    (entries : List (κ × α)) :
    findEntry name (putEntry key value entries) =
      if Keyed.identity key = Keyed.identity name then some value
      else findEntry name entries := by
  induction entries with
  | nil => simp [putEntry, findEntry]
  | cons entry rest ih =>
      obtain ⟨other, old⟩ := entry
      by_cases same : Keyed.identity other = Keyed.identity key
      · by_cases asked : Keyed.identity key = Keyed.identity name <;>
          simp [putEntry, findEntry, same, asked]
      · by_cases asked : Keyed.identity key = Keyed.identity name
        · rw [asked] at same
          simp [putEntry, findEntry, asked, same, ih]
        · simp [putEntry, findEntry, same, asked, ih]

namespace Table

variable {κ α : Type} [Keyed κ]

/-- A write is seen under its own key only. -/
theorem get?_put (table : Table κ α) (key name : κ) (value : α) :
    (table.put key value).get? name =
      if Keyed.identity key = Keyed.identity name then some value else table.get? name :=
  findEntry_putEntry key name value table.entries

end Table

end CheckpointReport
