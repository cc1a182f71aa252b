/-
This file tells when a chain of steps succeeds. Every step must succeed, and the result is that of
the last one.
-/

import Mathlib.Data.List.Forall2

namespace CheckpointReport.Success

variable {α β ε δ : Type}

theorem bind_eq_ok_iff {first : Except ε α} {next : α → Except ε β} {result : β} :
    (first >>= next) = .ok result ↔ ∃ value, first = .ok value ∧ next value = .ok result := by
  cases first <;> simp [bind, Except.bind]

theorem pure_eq_ok_iff {value result : α} :
    (pure value : Except ε α) = .ok result ↔ value = result := by
  simp [pure, Except.pure]

/-- A step that cannot fail changes neither whether a chain succeeds nor how it fails. -/
theorem exists_bind_pure_iff {first : Except ε α} {f : α → β} :
    (∃ result, (first >>= fun value => pure (f value)) = .ok result) ↔
      ∃ value, first = .ok value := by
  cases first <;> simp [bind, Except.bind, pure, Except.pure]

theorem bind_pure_eq_error_iff {first : Except ε α} {f : α → β} {cause : ε} :
    (first >>= fun value => pure (f value)) = .error cause ↔ first = .error cause := by
  cases first <;> simp [bind, Except.bind, pure, Except.pure]

/-- A new name for a failure changes no success. -/
theorem mapError_eq_ok_iff {first : Except ε α} {rename : ε → δ} {result : α} :
    first.mapError rename = .ok result ↔ first = .ok result := by
  cases first <;> simp [Except.mapError]

/-- A list of steps succeeds when each step does. -/
theorem mapM_eq_ok_iff {f : α → Except ε β} {items : List α} {results : List β} :
    items.mapM f = .ok results ↔
      List.Forall₂ (fun item result => f item = .ok result) items results := by
  induction items generalizing results with
  | nil =>
      rw [List.mapM_nil, pure_eq_ok_iff, List.forall₂_nil_left_iff]
      exact eq_comm
  | cons item rest ih =>
      simp only [List.mapM_cons, bind_eq_ok_iff, pure_eq_ok_iff, ih, List.forall₂_cons_left_iff]
      constructor
      · intro success
        obtain ⟨head, first, tail, others, rfl⟩ := success
        exact ⟨head, tail, first, others, rfl⟩
      · intro given
        obtain ⟨head, tail, first, others, rfl⟩ := given
        exact ⟨head, first, tail, others, rfl⟩

/-- A list of lookups finds something when each lookup does. -/
theorem mapM_eq_some_iff {f : α → Option β} {items : List α} {results : List β} :
    items.mapM f = some results ↔
      List.Forall₂ (fun item result => f item = some result) items results := by
  induction items generalizing results with
  | nil =>
      rw [List.mapM_nil, List.forall₂_nil_left_iff]
      exact Option.some_inj.trans eq_comm
  | cons item rest ih =>
      simp only [List.mapM_cons, Option.bind_eq_bind, Option.bind_eq_some_iff, Option.pure_def,
        Option.some.injEq, ih, List.forall₂_cons_left_iff]
      constructor
      · intro success
        obtain ⟨head, first, tail, others, rfl⟩ := success
        exact ⟨head, tail, first, others, rfl⟩
      · intro given
        obtain ⟨head, tail, first, others, rfl⟩ := given
        exact ⟨head, first, tail, others, rfl⟩

/-- Some results belong to all items when each item has one. -/
theorem exists_forall₂_iff (related : α → β → Prop) (items : List α) :
    (∃ results, List.Forall₂ related items results) ↔
      ∀ item ∈ items, ∃ result, related item result := by
  induction items with
  | nil => simp
  | cons item rest ih =>
      rw [List.forall_mem_cons, ← ih]
      simp only [List.forall₂_cons_left_iff]
      constructor
      · intro found
        obtain ⟨_, result, others, first, following, rfl⟩ := found
        exact ⟨⟨result, first⟩, others, following⟩
      · intro found
        obtain ⟨⟨result, first⟩, others, following⟩ := found
        exact ⟨result :: others, result, others, first, following, rfl⟩

/-- A list of steps fails as its first failing step does. -/
theorem mapM_eq_error_iff {f : α → Except ε β} {items : List α} {cause : ε} :
    items.mapM f = .error cause ↔ ∃ before item after, items = before ++ item :: after ∧
      (∀ earlier ∈ before, ∃ result, f earlier = .ok result) ∧ f item = .error cause := by
  induction items with
  | nil =>
      refine iff_of_false (fun failed => nomatch failed) ?_
      rintro ⟨before, item, after, same, -⟩
      cases before <;> cases same
  | cons head rest ih =>
      rw [List.mapM_cons]
      cases first : f head with
      | error other =>
          constructor
          · intro failed
            cases failed
            exact ⟨[], head, rest, rfl, List.forall_mem_nil _, first⟩
          · rintro ⟨before, item, after, same, fine, failed⟩
            cases before with
            | nil =>
                cases same
                rw [← first, failed]
                rfl
            | cons earlier others =>
                cases same
                obtain ⟨result, succeeded⟩ := fine _ List.mem_cons_self
                cases first.symm.trans succeeded
      | ok value =>
          change ((rest.mapM f >>= fun results => pure (value :: results)) = .error cause) ↔ _
          rw [bind_pure_eq_error_iff, ih]
          constructor
          · rintro ⟨before, item, after, rfl, fine, failed⟩
            exact ⟨head :: before, item, after, rfl,
              List.forall_mem_cons.mpr ⟨⟨value, first⟩, fine⟩, failed⟩
          · rintro ⟨before, item, after, same, fine, failed⟩
            cases before with
            | nil =>
                cases same
                cases first.symm.trans failed
            | cons earlier others =>
                cases same
                exact ⟨others, item, after, rfl, (List.forall_mem_cons.mp fine).2, failed⟩

/-- Two lists of steps are the same when the steps are the same for each item. -/
theorem mapM_congr {f g : α → Except ε β} {items : List α}
    (same : ∀ item ∈ items, f item = g item) : items.mapM f = items.mapM g := by
  induction items with
  | nil => rfl
  | cons item rest ih =>
      obtain ⟨first, others⟩ := List.forall_mem_cons.mp same
      rw [List.mapM_cons, List.mapM_cons, first, ih others]

/-- What each step gives for its own item holds of all the results. -/
theorem forall_results {related : α → β → Prop} {holds : β → Prop} {items : List α}
    {results : List β} (steps : List.Forall₂ related items results)
    (gives : ∀ item ∈ items, ∀ result, related item result → holds result) :
    ∀ result ∈ results, holds result := by
  induction steps with
  | nil => exact List.forall_mem_nil _
  | cons step _ ih =>
      obtain ⟨first, others⟩ := List.forall_mem_cons.mp gives
      exact List.forall_mem_cons.mpr ⟨first _ step, ih others⟩

end CheckpointReport.Success
