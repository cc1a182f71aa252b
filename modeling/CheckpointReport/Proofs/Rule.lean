/-
This file tells what it means to report the first broken rule of a list. A check that is a chain of
steps follows the rules of its steps in their order.
-/

import Mathlib.Data.List.Basic

namespace CheckpointReport

/-- A rule that is broken is reported by its breach. -/
structure Rule (β : Type) where
  holds : Prop
  breach : β

namespace Rule

variable {α β δ : Type}

/-- All rules before the first broken one hold. What comes after it does not matter. -/
inductive FirstBroken : List (Rule β) → β → Prop where
  | here (rule : Rule β) (rest : List (Rule β)) (broken : ¬ rule.holds) :
      FirstBroken (rule :: rest) rule.breach
  | later (rule : Rule β) (rest : List (Rule β)) (breach : β) (holds : rule.holds)
      (found : FirstBroken rest breach) : FirstBroken (rule :: rest) breach

def AllHold (rules : List (Rule β)) : Prop := ∀ rule ∈ rules, rule.holds

theorem allHold_cons_iff (rule : Rule β) (rest : List (Rule β)) :
    AllHold (rule :: rest) ↔ rule.holds ∧ AllHold rest :=
  List.forall_mem_cons

theorem allHold_append_iff (first rest : List (Rule β)) :
    AllHold (first ++ rest) ↔ AllHold first ∧ AllHold rest :=
  List.forall_mem_append

/-- A broken rule is one of those that do not all hold. -/
theorem FirstBroken.not_allHold {rules : List (Rule β)} {breach : β}
    (found : FirstBroken rules breach) : ¬ AllHold rules := by
  intro all
  induction found with
  | here rule rest broken => exact broken ((allHold_cons_iff rule rest).mp all).1
  | later rule rest breach holds _ ih => exact ih ((allHold_cons_iff rule rest).mp all).2

/-- Only one rule can be the first. -/
theorem FirstBroken.unique {rules : List (Rule β)} {one two : β} (first : FirstBroken rules one)
    (second : FirstBroken rules two) : one = two := by
  induction first with
  | here rule rest broken =>
      cases second with
      | here _ _ _ => rfl
      | later _ _ _ holds _ => exact absurd holds broken
  | later rule rest breach holds _ ih =>
      cases second with
      | here _ _ broken => exact absurd holds broken
      | later _ _ _ _ found => exact ih found

theorem FirstBroken.mem {rules : List (Rule β)} {breach : β} (found : FirstBroken rules breach) :
    ∃ rule ∈ rules, rule.breach = breach := by
  induction found with
  | here rule rest _ => exact ⟨rule, List.mem_cons_self, rfl⟩
  | later rule rest breach _ _ ih =>
      obtain ⟨other, member, same⟩ := ih
      exact ⟨other, List.mem_cons_of_mem rule member, same⟩

theorem firstBroken_singleton_iff (rule : Rule β) (breach : β) :
    FirstBroken [rule] breach ↔ breach = rule.breach ∧ ¬ rule.holds := by
  constructor
  · intro found
    cases found with
    | here _ _ broken => exact ⟨rfl, broken⟩
    | later _ _ _ _ found => cases found
  · rintro ⟨rfl, broken⟩
    exact .here rule [] broken

theorem FirstBroken.append_left {first : List (Rule β)} {breach : β}
    (found : FirstBroken first breach) (rest : List (Rule β)) :
    FirstBroken (first ++ rest) breach := by
  induction found with
  | here rule tail broken => exact .here rule (tail ++ rest) broken
  | later rule tail breach holds _ ih => exact .later rule (tail ++ rest) breach holds ih

theorem FirstBroken.append_right {rest : List (Rule β)} {breach : β}
    (found : FirstBroken rest breach) (first : List (Rule β)) (holds : AllHold first) :
    FirstBroken (first ++ rest) breach := by
  induction first with
  | nil => exact found
  | cons rule tail ih =>
      obtain ⟨head, others⟩ := (allHold_cons_iff rule tail).mp holds
      exact .later rule (tail ++ rest) breach head (ih others)

/-- A rule may report its breach under another name. -/
def rename (f : β → δ) (rule : Rule β) : Rule δ := ⟨rule.holds, f rule.breach⟩

theorem allHold_rename_iff (f : β → δ) (rules : List (Rule β)) :
    AllHold (rules.map (rename f)) ↔ AllHold rules :=
  List.forall_mem_map

/-- New names for the breaches leave the first broken rule where it was. -/
theorem firstBroken_rename_iff (f : β → δ) (rules : List (Rule β)) (breach : δ) :
    FirstBroken (rules.map (rename f)) breach ↔
      ∃ original, FirstBroken rules original ∧ breach = f original := by
  induction rules with
  | nil =>
      constructor
      · intro found
        cases found
      · rintro ⟨original, found, -⟩
        cases found
  | cons rule rest ih =>
      rw [List.map_cons]
      constructor
      · intro found
        cases found with
        | here _ _ broken => exact ⟨rule.breach, .here rule rest broken, rfl⟩
        | later _ _ _ holds found =>
            obtain ⟨original, first, same⟩ := ih.mp found
            exact ⟨original, .later rule rest original holds first, same⟩
      · rintro ⟨original, found, rfl⟩
        cases found with
        | here _ _ broken => exact .here (rename f rule) _ broken
        | later _ _ _ holds found =>
            exact .later (rename f rule) _ _ holds (ih.mpr ⟨original, found, rfl⟩)

/-- A check follows some rules when it fails by the first broken one and succeeds only if there is
none. -/
structure Follows (check : Except β α) (rules : List (Rule β)) : Prop where
  failure : ∀ breach, check = .error breach → FirstBroken rules breach
  success : ∀ value, check = .ok value → AllHold rules

namespace Follows

variable {check : Except β α} {rules : List (Rule β)}

theorem eq_error_iff (follows : Follows check rules) (breach : β) :
    check = .error breach ↔ FirstBroken rules breach := by
  constructor
  · exact follows.failure breach
  · intro found
    cases known : check with
    | error other => rw [(follows.failure other known).unique found]
    | ok value => exact absurd (follows.success value known) found.not_allHold

theorem exists_ok_iff (follows : Follows check rules) :
    (∃ value, check = .ok value) ↔ AllHold rules := by
  constructor
  · intro done
    obtain ⟨value, known⟩ := done
    exact follows.success value known
  · intro all
    cases known : check with
    | error breach => exact absurd all (follows.failure breach known).not_allHold
    | ok value => exact ⟨value, rfl⟩

theorem eq_ok_iff {check : Except β Unit} (follows : Follows check rules) :
    check = .ok () ↔ AllHold rules :=
  (exists_const Unit).symm.trans follows.exists_ok_iff

/-- A check that cannot fail needs no rules. -/
theorem ok (value : α) : Follows (.ok value : Except β α) [] where
  failure := by
    intro breach failed
    cases failed
  success := fun _ _ => List.forall_mem_nil _

theorem error (rule : Rule β) (rest : List (Rule β)) (broken : ¬ rule.holds) :
    Follows (.error rule.breach : Except β α) (rule :: rest) where
  failure := by
    intro breach failed
    cases failed
    exact .here rule rest broken
  success := by
    intro value done
    cases done

/-- A check of one thing has one rule, which tells when the check succeeds. -/
theorem single (rule : Rule β) (success : (∃ value, check = .ok value) ↔ rule.holds)
    (failure : ∀ breach, check = .error breach → breach = rule.breach) :
    Follows check [rule] := by
  cases known : check with
  | ok value =>
      have holds := success.mp ⟨value, known⟩
      refine ⟨?_, fun _ _ => List.forall_mem_singleton.mpr holds⟩
      intro breach failed
      cases failed
  | error breach =>
      rw [failure breach known]
      refine .error rule [] fun holds => ?_
      obtain ⟨value, done⟩ := success.mpr holds
      cases known.symm.trans done

/-- Rules with one breach make up one rule. -/
theorem merge (follows : Follows check rules) (rule : Rule β) (holds : AllHold rules ↔ rule.holds)
    (same : ∀ part ∈ rules, part.breach = rule.breach) : Follows check [rule] := by
  refine .single rule (follows.exists_ok_iff.trans holds) ?_
  intro breach failed
  obtain ⟨part, member, found⟩ := (follows.failure breach failed).mem
  exact found.symm.trans (same part member)

/-- The rules of a first step come before those of the steps after it. -/
theorem bind {next : α → Except β δ} {rest : List (Rule β)} (first : Follows check rules)
    (following : ∀ value, check = .ok value → Follows (next value) rest) :
    Follows (check >>= next) (rules ++ rest) := by
  cases known : check with
  | error breach =>
      refine ⟨?_, fun value done => by cases done⟩
      intro other failed
      cases failed
      exact (first.failure breach known).append_left rest
  | ok value =>
      have holds := first.success value known
      have tail := following value known
      refine ⟨?_, ?_⟩
      · intro breach failed
        exact (tail.failure breach failed).append_right rules holds
      · intro result done
        exact (allHold_append_iff rules rest).mpr ⟨holds, tail.success result done⟩

/-- A step with one rule is the first of a chain. -/
theorem cons {rule : Rule β} {next : α → Except β δ} {rest : List (Rule β)}
    (first : Follows check [rule])
    (following : ∀ value, check = .ok value → Follows (next value) rest) :
    Follows (check >>= next) (rule :: rest) :=
  first.bind following

/-- What cannot fail at the end of a chain adds no rules. -/
theorem map (follows : Follows check rules) (f : α → δ) :
    Follows (check >>= fun value => pure (f value)) rules := by
  have chain : Follows (check >>= fun value => pure (f value)) (rules ++ []) :=
    follows.bind fun value _ => ok (f value)
  rwa [List.append_nil] at chain

/-- A failure and its rule are renamed alike. -/
theorem mapError (follows : Follows check rules) (f : β → δ) :
    Follows (check.mapError f) (rules.map (rename f)) := by
  cases known : check with
  | error breach =>
      refine ⟨?_, fun value done => by cases done⟩
      intro other failed
      cases failed
      exact (firstBroken_rename_iff f rules _).mpr ⟨breach, follows.failure breach known, rfl⟩
  | ok value =>
      refine ⟨?_, fun _ _ => (allHold_rename_iff f rules).mpr (follows.success value known)⟩
      intro breach failed
      cases failed

/-- Rules that hold may be added at the front. -/
theorem after (follows : Follows check rules) (first : List (Rule β)) (holds : AllHold first) :
    Follows check (first ++ rules) where
  failure := fun breach failed => (follows.failure breach failed).append_right first holds
  success := fun value done =>
    (allHold_append_iff first rules).mpr ⟨holds, follows.success value done⟩

/-- Rules that hold may be added at the end. -/
theorem before (follows : Follows check rules) (rest : List (Rule β)) (holds : AllHold rest) :
    Follows check (rules ++ rest) where
  failure := fun breach failed => (follows.failure breach failed).append_left rest
  success := fun value done =>
    (allHold_append_iff rules rest).mpr ⟨follows.success value done, holds⟩

/-- A list of steps follows the rules of its items, one item after the other. -/
theorem mapM {f : δ → Except β α} {rulesOf : δ → List (Rule β)} (items : List δ)
    (each : ∀ item ∈ items, Follows (f item) (rulesOf item)) :
    Follows (items.mapM f) (items.flatMap rulesOf) := by
  induction items with
  | nil => exact ok []
  | cons item rest ih =>
      obtain ⟨first, others⟩ := List.forall_mem_cons.mp each
      rw [List.mapM_cons, List.flatMap_cons]
      exact first.bind fun value _ => (ih others).map (value :: ·)

end Follows

end Rule

end CheckpointReport
