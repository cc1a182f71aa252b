/-
This file proves that every record and every task of a program is well formed, however it came to
be. A record is built from its words only, and no step changes an attribute afterwards.
-/

import CheckpointReport.Proofs.Workspace.Ownership

namespace CheckpointReport

/-- The counters of an item are in order. A record also tells a status and a type, and its tasks
stand in a cell that was made. -/
structure Item.WellFormed (item : Item) (store : Store) : Prop where
  ordered : item.InOrder
  status : ∀ sheet place, item = .record sheet place →
    (Value.read sheet.common "status").IsWord Status
  type : ∀ sheet place, item = .record sheet place →
    (Value.read sheet.common "checkpoint_type").IsWord CheckpointType
  tasks : ∀ sheet place, item = .record sheet place → place < store.size

namespace Workspace

def InOrder (space : Workspace) : Prop := ∀ item, space.Holds item → item.InOrder

theorem inOrder_empty : Workspace.empty.InOrder := by
  intro item held
  cases held with
  | named name found => cases found
  | kept place member => cases member

namespace InOrder

variable {space next : Workspace} (ordered : space.InOrder)
include ordered

/-- Whatever is made by a move is in order, and whatever is not made was held before. -/
theorem of_move (isolated : space.Isolated) {step : WorkStep} (move : space.Move step next) :
    next.InOrder := by
  intro item after
  cases move with
  | stays => exact ordered item after
  | makesTask target sheet known made =>
      rcases holds_of_bind _ target _ item after with before | rfl
      · exact ordered item before
      · exact (Item.inOrder_task_iff sheet).mpr made
  | makesMap target items tasks known held =>
      rcases holds_of_bind _ target _ item after with before | rfl
      · rcases space.holds_of_add tasks item before with old | among
        · exact ordered item old
        · exact ordered item (held item among)
      · exact Item.inOrder_map _
  | makesRecord target sheet tasks known held made tasksMade =>
      rcases holds_of_bind _ target _ item after with before | rfl
      · rcases space.holds_of_add tasks item before with old | among
        · exact ordered item old
        · exact (tasksMade item among).elim (ordered item) id
      · exact (Item.inOrder_record_iff sheet _).mpr made
  | puts name source given place key written known found held =>
      rcases space.holds_of_update place _ item after with old | among
      · exact ordered item old
      · rcases Table.mem_values_put _ key written item among with old | rfl
        · exact ordered item (.kept place old)
        · exact ordered item held
  | removes name given place key known found =>
      rcases space.holds_of_update place _ item after with old | among
      · exact ordered item old
      · exact ordered item (.kept place (Table.mem_values_remove _ key item among))
  | copies source target way original known found =>
      have held : space.Holds original := .named source found
      obtain ⟨among, shift, revise, copied⟩ := isolated.copied_of_holds way original held
      have origin := space.held_of_copy target original _ _ among shift revise held copied
      rcases origin item after with old | ⟨was, before, -, copies⟩
      · exact ordered item old
      · exact copies.inOrder (ordered was before)
  | takes source target sheet place known found =>
      rcases holds_of_bind _ target _ item after with before | rfl
      · exact ordered item before
      · exact Item.inOrder_map _

/-- The induction is on the steps, and the cells of records stay apart all along. -/
theorem run (isolated : space.Isolated) (steps : List WorkStep) : (space.run steps).InOrder := by
  induction steps generalizing space with
  | nil => exact ordered
  | cons step rest ih =>
      exact ih (ordered.of_move isolated (space.move_of_advance step)) (isolated.advance step)

theorem wellFormed (isolated : space.Isolated) (item : Item) (held : space.Holds item) :
    item.WellFormed space.store where
  ordered := ordered item held
  status := fun sheet _ _ => ⟨sheet.status, rfl⟩
  type := fun sheet _ _ => ⟨sheet.type, rfl⟩
  tasks := by
    rintro sheet place rfl
    exact isolated.place_lt sheet place held

end InOrder

end Workspace

/-- The words and the counters of a sheet are the ones that were given. -/
structure Sheet.BuiltFrom (sheet : Sheet) (given : Members) : Prop where
  status : Value.read given "status" = .text sheet.status.name
  type : Value.read given "checkpoint_type" = .text sheet.type.name
  counters : sheet.counters = countersOf given

theorem requireWord_eq_ok_iff {α : Type} [Named α] {filled : Members} {name : String}
    {rule : Invalid} {word : α} :
    requireWord α filled name rule = .ok word ↔
      Value.read filled name = .text (Named.name word) := by
  rw [← readWord_eq_ok_iff, readWord, require_eq_ok_iff, requireWord]
  cases (Value.read filled name).word? α <;> simp

namespace Declared

/-- An attribute without a default keeps the value that was given. -/
theorem read_of_fill? (declared : Declared) (given filled : Members) (name : String)
    (listed : name ∈ declared.map Prod.fst)
    (required : ∀ attribution ∈ declared, attribution.1 = name → attribution.2 = none)
    (done : declared.fill? given = some filled) :
    Value.read filled name = Value.read given name := by
  induction declared generalizing filled with
  | nil => cases listed
  | cons attribution rest ih =>
      obtain ⟨first, others⟩ := List.forall_mem_cons.mp required
      simp only [fill?, List.mapM_cons, Option.bind_eq_bind, Option.bind_eq_some_iff,
        Option.pure_def, Option.some.injEq] at done
      obtain ⟨head, chosen, tail, following, rfl⟩ := done
      by_cases same : attribution.1 = name
      · rw [first same] at chosen
        cases found : findEntry attribution.1 given with
        | none =>
            rw [found] at chosen
            cases chosen
        | some value =>
            rw [found] at chosen
            cases chosen
            rw [same] at found
            simp [Value.read, findEntry, same, found]
      · have named : head.1 = attribution.1 := by
          split at chosen
          · cases chosen
            rfl
          · obtain ⟨value, -, rfl⟩ := Option.map_eq_some_iff.mp chosen
            rfl
        have listedLater : name ∈ rest.map Prod.fst :=
          (List.mem_cons.mp listed).resolve_left (Ne.symm same)
        rw [← ih tail listedLater others following]
        simp [Value.read, findEntry, named, same]

/-- The words and the counters of a record have no defaults. -/
theorem required_record (kind : Kind) :
    ∀ name ∈ "status" :: "checkpoint_type" :: Counters.keys.toList,
      name ∈ (record kind).map Prod.fst ∧
        ∀ attribution ∈ record kind, attribution.1 = name → attribution.2 = none := by
  cases kind <;> decide

end Declared

theorem Counters.map_congr {α β : Type} (f g : α → β) (counters : Counters α)
    (same : ∀ counter ∈ counters.toList, f counter = g counter) :
    counters.map f = counters.map g := by
  simp only [toList, List.forall_mem_cons] at same
  obtain ⟨a, b, c, d, e, h, i, j, k, -⟩ := same
  simp only [map, a, b, c, d, e, h, i, j, k]

/-- A record is built from its own words and counters. -/
theorem builtFrom_of_readAttributes (kind : Kind) (given : Members) (attributes : Attributes)
    (sheet : Sheet) (read : readAttributes kind given = .ok attributes)
    (checked : attributes.check = .ok sheet) : sheet.BuiltFrom given := by
  have same := attributes.eq_of_check sheet checked
  simp only [readAttributes, Success.bind_eq_ok_iff, Success.pure_eq_ok_iff,
    requireWord_eq_ok_iff] at read
  obtain ⟨filled, completed, status, isStatus, type, isType, rfl⟩ := read
  have done : (Declared.record kind).fill? given = some filled := by
    rw [Declared.complete] at completed
    split at completed
    · rename_i fills
      cases completed
      exact fills
    · cases completed
  have kept (name : String)
      (required : name ∈ "status" :: "checkpoint_type" :: Counters.keys.toList) :
      Value.read filled name = Value.read given name := by
    obtain ⟨listed, bare⟩ := Declared.required_record kind name required
    exact (Declared.record kind).read_of_fill? given filled name listed bare done
  have counted : countersOf filled = countersOf given :=
    Counters.map_congr _ _ _ fun name member =>
      kept name (List.mem_cons_of_mem _ (List.mem_cons_of_mem _ member))
  exact {
    status := by
      rw [← kept "status" List.mem_cons_self, isStatus, show sheet.status = status from
        congrArg Attributes.status same]
      rfl
    type := by
      rw [← kept "checkpoint_type" (List.mem_cons_of_mem _ List.mem_cons_self), isType,
        show sheet.type = type from congrArg Attributes.type same]
      rfl
    counters := (congrArg Attributes.counters same).trans counted }

namespace Workspace

/-- These are the guards of a workspace. A record is built from words and from tasks that are not
null, and no attribute of an item can be written or deleted. -/
structure Guarded (space : Workspace) : Prop where
  built : ∀ target kind fields next reply,
    space.step (.new target kind fields) = .ok (next, reply) →
      (∃ tasks, fields.tasks = some tasks ∧ tasks ≠ .null) ∧
        ∃ sheet place, next.names.get? target = some (.record sheet place) ∧
          sheet.BuiltFrom fields.members
  replaced : ∀ source target fields next reply sheet place,
    space.names.get? source = some (.record sheet place) →
      space.step (.replace source target fields) = .ok (next, reply) →
        fields.tasks ≠ some .null ∧
          ∃ made cell, next.names.get? target = some (.record made cell) ∧
            made.BuiltFrom (overwrite sheet.hashed fields.members)
  declared : ∀ of item names field, space.names.get? of = some item →
    item.declared? = some names → field ∈ names →
      space.step (.assign of (.text field)) = .error (.assigned field) ∧
        space.step (.delete of (.text field)) = .error (.deleted field)
  unchanged : ∀ of field, space.advance (.assign of field) = space ∧
    space.advance (.delete of field) = space

theorem builtFrom_of_newRecord (space next : Workspace) (target : String) (kind : Kind)
    (members : Members) (given : Option GivenTasks)
    (done : space.newRecord target kind members given = .ok next) :
    given ≠ none ∧ given ≠ some .null ∧
      ∃ sheet place, next.names.get? target = some (.record sheet place) ∧
        sheet.BuiltFrom members := by
  obtain ⟨attributes, sheet, tasks, read, checked, rfl, rfl⟩ :=
    space.bindRecord_of_newRecord next target kind members given done
  refine ⟨by simp, by simp, sheet, space.store.size, ?_,
    builtFrom_of_readAttributes kind members attributes sheet read checked⟩
  exact (get?_bind _ target target _).trans (if_pos rfl)

/-- Tasks are given as null only by a field that is null, and no field gives none. -/
theorem lookup_of_tasks (space : Workspace) (fields : Fields) (given : Option GivenTasks)
    (looked : space.lookup fields = .ok given) :
    (fields.tasks = none → given = none) ∧ (fields.tasks = some .null → given = some .null) := by
  rw [lookup, Success.bind_eq_ok_iff] at looked
  obtain ⟨-, -, looked⟩ := looked
  constructor
  · intro missing
    rw [missing] at looked
    exact (Except.ok.inj looked).symm
  · intro null
    rw [null] at looked
    exact (Except.ok.inj looked).symm

/-- The name of a declared attribute is the name of an attribute. -/
theorem attributeName?_of_declared (item : Item) (names : List String) (field : String)
    (declares : item.declared? = some names) (listed : field ∈ names) :
    attributeName? (.text field) = some field := by
  have ordinary : typeAttribute ∉ names := by
    cases item with
    | task sheet =>
        cases declares
        decide
    | map place => cases declares
    | record sheet place =>
        cases declares
        cases sheet.kind <;> decide
  rw [attributeName?, if_neg (ne_of_mem_of_not_mem listed ordinary)]

theorem immutable_declared (space : Workspace) (of : String) (item : Item) (names : List String)
    (field : String) (error : String → StepError) (found : space.names.get? of = some item)
    (declares : item.declared? = some names) (listed : field ∈ names) :
    space.immutable of (.text field) error = .error (error field) := by
  have known := (space.item_eq_ok_iff of item).mpr found
  have named := attributeName?_of_declared item names field declares listed
  have refused : refuseChange error item (.text field) = error field := by
    simp [refuseChange, named, declares, listed]
  rw [immutable, known, ← refused]
  rfl

theorem immutable_fails (space next : Workspace) (of : String) (field : Value)
    (error : String → StepError) : space.immutable of field error ≠ .ok next := by
  intro done
  obtain ⟨item, -, refused⟩ := Success.bind_eq_ok_iff.mp done
  cases refused

theorem advance_of_fails (space : Workspace) (step : WorkStep)
    (fails : ∀ result, space.step step ≠ .ok result) : space.advance step = space := by
  rw [advance]
  cases done : space.step step with
  | error cause => rfl
  | ok result => exact absurd done (fails result)

/-- The rules are looked at before anything is built, and no attribute is ever written. -/
theorem guarded (space : Workspace) : space.Guarded where
  built := by
    intro target kind fields next reply done
    obtain ⟨given, looked, done⟩ := Success.bind_eq_ok_iff.mp done
    obtain ⟨next, made, same⟩ := Success.bind_eq_ok_iff.mp done
    cases same
    obtain ⟨some, proper, built⟩ := space.builtFrom_of_newRecord next target kind _ given made
    obtain ⟨missing, null⟩ := space.lookup_of_tasks fields given looked
    refine ⟨?_, built⟩
    cases known : fields.tasks with
    | none => exact absurd (missing known) some
    | some tasks =>
        refine ⟨tasks, rfl, ?_⟩
        intro isNull
        exact proper (null (known.trans (congrArg _ isNull)))
  replaced := by
    intro source target fields next reply sheet place found done
    obtain ⟨item, named, done⟩ := Success.bind_eq_ok_iff.mp done
    obtain ⟨given, looked, done⟩ := Success.bind_eq_ok_iff.mp done
    obtain ⟨next, made, same⟩ := Success.bind_eq_ok_iff.mp done
    cases same
    cases found.symm.trans ((space.item_eq_ok_iff source item).mp named)
    have remade : space.newRecord target sheet.kind (overwrite sheet.hashed fields.members)
        (some (given.getD (.cell (space.store.cell place)))) = .ok next := made
    obtain ⟨-, proper, built⟩ := space.builtFrom_of_newRecord next target _ _ _ remade
    refine ⟨?_, built⟩
    intro null
    rw [(space.lookup_of_tasks fields given looked).2 null] at proper
    exact proper rfl
  declared := by
    intro of item names field found declares listed
    have refused (error : String → StepError) :=
      space.immutable_declared of item names field error found declares listed
    exact ⟨by rw [step, refused]; rfl, by rw [step, refused]; rfl⟩
  unchanged := by
    intro of field
    constructor
    · refine space.advance_of_fails _ fun result done => ?_
      obtain ⟨next, changed, -⟩ := Success.bind_eq_ok_iff.mp done
      exact space.immutable_fails next of field .assigned changed
    · refine space.advance_of_fails _ fun result done => ?_
      obtain ⟨next, changed, -⟩ := Success.bind_eq_ok_iff.mp done
      exact space.immutable_fails next of field .deleted changed

/-- Every item that a program holds is well formed after any steps, whether they failed or not. No
integer counts more acknowledged subtasks than subtasks, and the guards hold all along. -/
theorem held_items_are_wellFormed (steps : List WorkStep) :
    let space := Workspace.empty.run steps
    (∀ item, space.Holds item → item.WellFormed space.store) ∧
    (∀ item counters (acknowledged subtasks : Int), space.Holds item →
      item.counters? = some counters → counters.acknowledged = .int acknowledged →
        counters.subtasks = .int subtasks → acknowledged ≤ subtasks) ∧
    space.Guarded := by
  intro space
  have ordered : space.InOrder := inOrder_empty.run isolated_empty steps
  refine ⟨ordered.wellFormed (isolated_empty.run steps), ?_, space.guarded⟩
  intro item counters acknowledged subtasks held counted more most
  exact (ordered item held counters counted).le acknowledged subtasks more most

/-- A record with one task is written out and read back. The last step would count more acknowledged
subtasks than there are, so it fails. -/
def handingOver : List WorkStep :=
  let fours := Counters.keys.toList.map fun key => (key, .int 4)
  [.task "task" ⟨[("id", .int 8), ("status", .text "FAILED")] ++ fours, none⟩,
    .map "tasks" [(.text "vertex", "task")],
    .new "record" .failed ⟨[("id", .float .invalid), ("status", .text "FAILED"),
      ("is_savepoint", .bool false), ("savepoint_format", .null), ("trigger_timestamp", .int 0),
      ("checkpoint_type", .text "CHECKPOINT")] ++ fours, some (.named "tasks")⟩,
    .clone "record" "copy" .transferred,
    .replace "copy" "copy" ⟨[("num_acknowledged_subtasks", .int 5)], none⟩]

/-- The copy survives the step that fails, and none of its declared attributes can be deleted. -/
theorem handedOver_wellFormed :
    ∃ sheet place, (empty.run handingOver).names.get? "copy" = some (.record sheet place) ∧
      (Item.record sheet place).WellFormed (empty.run handingOver).store ∧
        sheet.counters.acknowledged = .int 4 ∧
          (empty.run handingOver).step (.delete "copy" (.text "tasks")) =
            .error (.deleted "tasks") := by
  obtain ⟨sheet, place, found, counted⟩ : ∃ sheet place,
      (empty.run handingOver).names.get? "copy" = some (.record sheet place) ∧
        sheet.counters.acknowledged = .int 4 := ⟨_, _, rfl, rfl⟩
  obtain ⟨wellFormed, -, guarded⟩ := held_items_are_wellFormed handingOver
  have refused := guarded.declared "copy" _ _ "tasks" found rfl List.mem_cons_self
  exact ⟨sheet, place, found, wellFormed _ (.named "copy" found), counted, refused.2⟩

end Workspace

end CheckpointReport
