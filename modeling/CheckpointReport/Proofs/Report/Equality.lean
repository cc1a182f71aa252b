/-
This file compares records with what is written of them. Two records are the same exactly when
their written forms are, and typed records then have equal attributes and equal tasks.
-/

import CheckpointReport.Proofs.Report.RoundTrip

namespace CheckpointReport

namespace Value

/-- Two lists are compared part by part when their first parts are equally long. -/
theorem sameItems_append (first second one two : List Value) (length : first.length = one.length) :
    sameItems (first ++ second) (one ++ two) = (sameItems first one && sameItems second two) := by
  induction first generalizing one with
  | nil =>
      rw [List.eq_nil_of_length_eq_zero length.symm]
      rfl
  | cons item rest ih =>
      cases one with
      | nil => cases length
      | cons other others =>
          rw [List.cons_append, List.cons_append, sameItems, sameItems,
            ih others (Nat.succ.inj length), Bool.and_assoc]

theorem same_object (first second : List (Key × Value)) :
    (object first).same (object second) =
      (first.length == second.length && sameMembers first second) := by
  rw [same]
  rfl

/-- Under equal keys that are all different the values are compared one by one. The induction is on
the members that are left, and those before them have other keys. -/
theorem sameMembers_append (first before second : List (Key × Value))
    (keys : first.map Prod.fst = second.map Prod.fst)
    (distinct : (identities (before ++ second)).Nodup) :
    sameMembers first (before ++ second) =
      sameItems (first.map Prod.snd) (second.map Prod.snd) := by
  induction first generalizing before second with
  | nil =>
      rw [List.map_eq_nil_iff.mp keys.symm]
      rfl
  | cons member rest ih =>
      cases second with
      | nil => cases keys
      | cons other others =>
          obtain ⟨named, following⟩ := List.cons.inj keys
          have found : findEntry other.1 (before ++ other :: others) = some other.2 :=
            findEntry_of_mem _ distinct other (List.mem_append_right before List.mem_cons_self)
          have moved : before ++ other :: others = (before ++ [other]) ++ others := by
            rw [List.append_assoc, List.singleton_append]
          rw [moved] at distinct
          rw [List.map_cons, List.map_cons, sameItems, sameMembers.eq_def]
          dsimp only
          rw [named, found, moved, ih (before ++ [other]) others following distinct]

/-- Two objects with the same names are the same when their values are. -/
theorem same_ofMembers (first second : Members)
    (names : first.map Prod.fst = second.map Prod.fst) (distinct : (second.map Prod.fst).Nodup) :
    (ofMembers first).same (ofMembers second) = sameAttributes first second := by
  have length : first.length = second.length := by
    simpa using congrArg List.length names
  have keys : (first.map fun member => (Key.text member.1, member.2)).map Prod.fst =
      (second.map fun member => (Key.text member.1, member.2)).map Prod.fst := by
    simpa [Function.comp_def] using congrArg (List.map Key.text) names
  have apart : (identities (second.map fun member => (Key.text member.1, member.2))).Nodup := by
    simpa [identities, Function.comp_def] using nodup_identities second distinct
  have compared := sameMembers_append _ [] _ keys apart
  rw [List.nil_append] at compared
  rw [ofMembers, ofMembers, same_object, compared, List.length_map, List.length_map, length,
    sameAttributes]
  simp [Function.comp_def]

end Value

/-- A task is the same as another one when their written forms are. -/
theorem TaskReport.same_encode (one two : TaskReport) :
    one.encode.same two.encode = one.same two :=
  Value.same_ofMembers one.members two.members rfl two.members_distinct

/-- The written tasks are the same when the tasks agree, in any order. -/
theorem same_encodeTasks (first second : Table Key TaskReport) :
    (encodeTasks first).same (encodeTasks second) = first.agree TaskReport.same second := by
  have each (entries others : List (Key × TaskReport)) :
      Value.sameMembers (entries.map fun entry => (entry.1, entry.2.encode))
          (others.map fun entry => (entry.1, entry.2.encode)) =
        entries.all fun entry => (findEntry entry.1 others).any entry.2.same := by
    induction entries with
    | nil => rfl
    | cons entry rest ih =>
        rw [List.map_cons, List.all_cons, Value.sameMembers.eq_def]
        dsimp only
        rw [ih, findEntry_map]
        cases findEntry entry.1 others with
        | none => rfl
        | some task => simp only [Option.map_some, Option.any_some, TaskReport.same_encode]
  rw [encodeTasks, encodeTasks, Value.same_object, each, List.length_map, List.length_map,
    Table.agree_eq]
  rfl

namespace Sheet

/-- These are the values of a written record. -/
theorem values_members (sheet : Sheet) (tasks : Value) :
    (sheet.members tasks).map Prod.snd =
      .text sheet.kind.name :: (sheet.common.map Prod.snd ++ (tasks :: sheet.extra.map Prod.snd)) := by
  simp [members]

/-- Records of one kind have the same names. -/
theorem names_members (one two : Sheet) (first second : Value) (kinds : one.kind = two.kind) :
    (one.members first).map Prod.fst = (two.members second).map Prod.fst := by
  have extra : one.extra.map Prod.fst = two.extra.map Prod.fst := by
    unfold kind Outcome.kind at kinds
    unfold Sheet.extra Outcome.members
    cases known : one.outcome <;> cases other : two.outcome <;> rw [known, other] at kinds <;>
      first | rfl | cases kinds
  simp only [members, List.map_cons, List.map_append, List.map_map, extra]
  rfl

end Sheet

theorem Value.same_text (one two : String) : (text one).same (text two) = (one == two) := rfl

/-- Records are the same exactly when their written forms are. -/
theorem Report.same_encode (one two : Report) : one.encode.same two.encode = one.same two := by
  by_cases kinds : one.kind = two.kind
  · have names := Sheet.names_members one.sheet two.sheet (encodeTasks one.tasks)
      (encodeTasks two.tasks) kinds
    have common : (one.sheet.common.map Prod.snd).length = (two.sheet.common.map Prod.snd).length :=
      rfl
    rw [encode, encode, Value.same_ofMembers one.members two.members names two.members_distinct,
      sameAttributes, members, members, Sheet.values_members, Sheet.values_members, Value.sameItems,
      Value.sameItems_append _ _ _ _ common, Value.sameItems, same_encodeTasks, same, Sheet.same,
      Sheet.sameCommon, Sheet.sameExtra, sameAttributes, sameAttributes, ← kind, ← kind, kinds,
      Value.same_text, beq_self_eq_true, beq_self_eq_true, Bool.true_and, Bool.true_and,
      Bool.and_assoc]
    exact congrArg _ (Bool.and_comm _ _)
  · have named : (one.kind.name == two.kind.name) = false :=
      beq_eq_false_iff_ne.mpr fun same => kinds (Named.injective one.kind two.kind same)
    have apart : (one.kind == two.kind) = false := beq_eq_false_iff_ne.mpr kinds
    have first : Value.sameMembers (one.members.map fun member => (.text member.1, member.2))
        (two.members.map fun member => (.text member.1, member.2)) = false := by
      rw [members, Sheet.members, List.map_append, List.map_cons, List.cons_append]
      change ((Value.text one.kind.name).same (.text two.kind.name) && _) = false
      rw [Value.same_text, named, Bool.false_and]
    rw [encode, encode, Value.ofMembers, Value.ofMembers, Value.same_object, first, Bool.and_false,
      same, Sheet.same, Sheet.sameCommon]
    rw [show (one.sheet.kind == two.sheet.kind) = false from apart]
    rfl

/-- Two values are alike when both are integers, flags, texts or null, where a text may stand beside
null. -/
inductive Value.Alike : Value → Value → Prop
  | int (one two : Int) : Alike (.int one) (.int two)
  | flag (one two : Bool) : Alike (.bool one) (.bool two)
  | text (one two : String) : Alike (.text one) (.text two)
  | null : Alike .null .null
  | absent (content : String) : Alike .null (.text content)
  | present (content : String) : Alike (.text content) .null

namespace Value

/-- A flag and an integer may be the same, but values that are alike are the same only when they are
equal. -/
theorem Alike.same_iff {one two : Value} (alike : Alike one two) :
    one.same two = true ↔ one = two := by
  cases alike with
  | int one two => simp [same, number?]
  | flag one two => cases one <;> cases two <;> simp [same, number?]
  | text one two => simp [same]
  | null => simp [same]
  | absent content => simp [same, number?]
  | present content => simp [same, number?]

theorem sameItems_iff {first second : List Value} (alike : List.Forall₂ Alike first second) :
    sameItems first second = true ↔ first = second := by
  induction alike with
  | nil => exact iff_of_true rfl rfl
  | cons head _ ih => rw [sameItems, Bool.and_eq_true, head.same_iff, ih, List.cons.injEq]

theorem IsInteger.alike {one two : Value} (first : one.IsInteger) (second : two.IsInteger) :
    Alike one two := by
  obtain ⟨number, rfl⟩ := first
  obtain ⟨other, rfl⟩ := second
  exact .int number other

theorem IsFlag.alike {one two : Value} (first : one.IsFlag) (second : two.IsFlag) :
    Alike one two := by
  obtain ⟨flag, rfl⟩ := first
  obtain ⟨other, rfl⟩ := second
  exact .flag flag other

theorem IsOptionalText.alike {one two : Value} (first : one.IsOptionalText)
    (second : two.IsOptionalText) : Alike one two := by
  rcases first with rfl | ⟨content, rfl⟩
  · rcases second with rfl | ⟨other, rfl⟩
    · exact .null
    · exact .absent other
  · rcases second with rfl | ⟨other, rfl⟩
    · exact .present content
    · exact .text content other

end Value

namespace Counters

theorem AreIntegers.alike {one two : Counters Value} (first : one.AreIntegers)
    (second : two.AreIntegers) : List.Forall₂ Value.Alike one.toList two.toList := by
  rw [List.forall₂_iff_zip]
  refine ⟨rfl, ?_⟩
  intro counter other paired
  obtain ⟨left, right⟩ := List.of_mem_zip paired
  exact (first counter left).alike (second other right)

theorem toList_injective {one two : Counters Value} (same : one.toList = two.toList) :
    one = two := by
  cases one
  cases two
  simpa [toList] using same

end Counters

theorem Value.ofMembers_injective : Function.Injective Value.ofMembers := by
  intro first second same
  have members := congrArg members? same
  rw [members?_ofMembers, members?_ofMembers] at members
  exact Option.some.inj members

/-- The values of a task tell the whole task. -/
theorem TaskReport.eq_of_values {one two : TaskReport}
    (same : one.members.map Prod.snd = two.members.map Prod.snd) : one = two := by
  obtain ⟨ids, rest⟩ := List.cons.inj same
  obtain ⟨names, counters⟩ := List.cons.inj rest
  have status := Named.injective one.status two.status (Value.text.inj names)
  have counts : one.counters = two.counters := Counters.toList_injective counters
  cases one
  cases two
  cases ids
  cases status
  cases counts
  rfl

theorem TaskReport.encode_injective : Function.Injective TaskReport.encode := by
  intro one two same
  exact eq_of_values (congrArg (List.map Prod.snd) (Value.ofMembers_injective same))

/-- Typed tasks are the same only when they are equal. -/
theorem TaskReport.same_iff (one two : TaskReport) (first : one.WellTyped)
    (second : two.WellTyped) : one.same two = true ↔ one = two := by
  have alike : List.Forall₂ Value.Alike (one.members.map Prod.snd) (two.members.map Prod.snd) :=
    .cons (first.id.alike second.id) (.cons (.text _ _) (first.counters.alike second.counters))
  rw [same, sameAttributes, Value.sameItems_iff alike]
  constructor
  · exact eq_of_values
  · rintro rfl
    rfl

namespace Outcome

/-- Outcomes of one kind are compared field by field. -/
theorem WellTyped.alike {one two : Outcome} (first : one.WellTyped) (second : two.WellTyped)
    (kinds : one.kind = two.kind) :
    List.Forall₂ Value.Alike (one.members.map Prod.snd) (two.members.map Prod.snd) := by
  cases one with
  | inProgress =>
      cases two with
      | inProgress => exact .nil
      | _ => cases kinds
  | completed externalPath discarded =>
      cases two with
      | completed otherPath otherDiscarded =>
          exact .cons (first.1.alike second.1) (.cons (first.2.alike second.2) .nil)
      | _ => cases kinds
  | failed failureTimestamp failureMessage =>
      cases two with
      | failed otherTimestamp otherMessage =>
          exact .cons (first.1.alike second.1) (.cons (first.2.alike second.2) .nil)
      | _ => cases kinds

theorem eq_of_values {one two : Outcome} (kinds : one.kind = two.kind)
    (same : one.members.map Prod.snd = two.members.map Prod.snd) : one = two := by
  cases one with
  | inProgress =>
      cases two with
      | inProgress => rfl
      | _ => cases kinds
  | completed externalPath discarded =>
      cases two with
      | completed otherPath otherDiscarded =>
          cases same
          rfl
      | _ => cases kinds
  | failed failureTimestamp failureMessage =>
      cases two with
      | failed otherTimestamp otherMessage =>
          cases same
          rfl
      | _ => cases kinds

end Outcome

namespace Sheet

/-- The words of two sheets are alike in any case. -/
theorem WellTyped.alike_common {one two : Sheet} (first : one.WellTyped)
    (second : two.WellTyped) :
    List.Forall₂ Value.Alike (one.common.map Prod.snd) (two.common.map Prod.snd) :=
  .cons (first.id.alike second.id) (.cons (.text _ _)
    (.cons (first.isSavepoint.alike second.isSavepoint)
      (.cons (first.savepointFormat.alike second.savepointFormat)
        (.cons (first.trigger.alike second.trigger)
          (List.rel_append (first.counters.alike second.counters) (.cons (.text _ _) .nil))))))

theorem eq_of_attributes {one two : Sheet} (same : one.toAttributes = two.toAttributes) :
    one = two := by
  cases one
  cases two
  cases same
  rfl

/-- The values of a sheet and its kind tell the whole sheet. -/
theorem eq_of_values {one two : Sheet} (kinds : one.kind = two.kind)
    (common : one.common.map Prod.snd = two.common.map Prod.snd)
    (extra : one.extra.map Prod.snd = two.extra.map Prod.snd) : one = two := by
  have outcomes : one.outcome = two.outcome := Outcome.eq_of_values kinds extra
  change [one.id, .text one.status.name, one.isSavepoint, one.savepointFormat, one.trigger] ++
      one.counters.toList ++ [.text one.type.name] =
    [two.id, .text two.status.name, two.isSavepoint, two.savepointFormat, two.trigger] ++
      two.counters.toList ++ [.text two.type.name] at common
  obtain ⟨fields, types⟩ := List.append_inj common rfl
  obtain ⟨heads, lists⟩ := List.append_inj fields rfl
  have counters : one.counters = two.counters := Counters.toList_injective lists
  have type : one.type = two.type :=
    Named.injective _ _ (Value.text.inj (List.cons.inj types).1)
  simp only [List.cons.injEq, Value.text.injEq, and_true] at heads
  obtain ⟨id, named, isSavepoint, savepointFormat, trigger⟩ := heads
  have status : one.status = two.status := Named.injective _ _ named
  refine eq_of_attributes ?_
  change (⟨one.id, one.status, one.isSavepoint, one.savepointFormat, one.trigger, one.counters,
    one.type, one.outcome⟩ : Attributes) = _
  rw [id, status, isSavepoint, savepointFormat, trigger, counters, type, outcomes]

/-- The members of a record tell its sheet. -/
theorem eq_of_members {one two : Sheet} {first second : Value}
    (same : one.members first = two.members second) : one = two ∧ first = second := by
  have values := congrArg (List.map Prod.snd) same
  rw [values_members, values_members] at values
  obtain ⟨names, rest⟩ := List.cons.inj values
  obtain ⟨common, others⟩ := List.append_inj rest rfl
  obtain ⟨tasks, extra⟩ := List.cons.inj others
  have kinds : one.kind = two.kind := Named.injective _ _ (Value.text.inj names)
  exact ⟨eq_of_values kinds common extra, tasks⟩

/-- Typed sheets are the same only when they are equal. -/
theorem same_iff (one two : Sheet) (first : one.WellTyped) (second : two.WellTyped) :
    one.same two = true ↔ one = two := by
  rw [same, sameCommon, sameExtra, sameAttributes, sameAttributes, Bool.and_eq_true,
    Bool.and_eq_true, beq_iff_eq, Value.sameItems_iff (first.alike_common second)]
  constructor
  · rintro ⟨⟨kinds, common⟩, extra⟩
    have alike := first.outcome.alike second.outcome kinds
    exact eq_of_values kinds common ((Value.sameItems_iff alike).mp extra)
  · rintro rfl
    have alike := first.outcome.alike first.outcome rfl
    exact ⟨⟨rfl, rfl⟩, (Value.sameItems_iff alike).mpr rfl⟩

end Sheet

/-- Two records agree when they have one kind and equal attributes, and under each key the same
task or none. The order of the tasks does not count. -/
structure Report.AgreesWith (one two : Report) : Prop where
  kind : one.kind = two.kind
  attributes : one.sheet = two.sheet
  tasks : ∀ key, one.tasks.get? key = two.tasks.get? key

namespace Report

/-- Typed records are the same exactly when they agree. -/
theorem same_iff (one two : Report) (first : one.WellTyped) (second : two.WellTyped) :
    one.same two = true ↔ one.AgreesWith two := by
  have tasks : one.tasks.agree TaskReport.same two.tasks = true ↔
      ∀ key, one.tasks.get? key = two.tasks.get? key := by
    refine Table.agree_iff _ _ _ ?_
    intro task member other among
    obtain ⟨entry, present, rfl⟩ := List.mem_map.mp member
    obtain ⟨partner, beside, rfl⟩ := List.mem_map.mp among
    exact entry.2.same_iff partner.2 (first.tasks entry present).2 (second.tasks partner beside).2
  rw [same, Bool.and_eq_true, one.sheet.same_iff two.sheet first.sheet second.sheet, tasks]
  constructor
  · rintro ⟨attributes, tasks⟩
    exact ⟨congrArg Sheet.kind attributes, attributes, tasks⟩
  · exact fun agrees => ⟨agrees.attributes, agrees.tasks⟩

theorem AgreesWith.refl (report : Report) : report.AgreesWith report := ⟨rfl, rfl, fun _ => rfl⟩

theorem AgreesWith.symm {one two : Report} (agrees : one.AgreesWith two) : two.AgreesWith one :=
  ⟨agrees.kind.symm, agrees.attributes.symm, fun key => (agrees.tasks key).symm⟩

theorem AgreesWith.trans {one two three : Report} (first : one.AgreesWith two)
    (second : two.AgreesWith three) : one.AgreesWith three :=
  ⟨first.kind.trans second.kind, first.attributes.trans second.attributes,
    fun key => (first.tasks key).trans (second.tasks key)⟩

/-- One record is written as the other one when the tasks are taken in another order. Everything else
is written in one order. -/
def WrittenAlike (one two : Report) : Prop :=
  ∃ entries, entries.Perm (two.tasks.entries.map fun entry => (entry.1, entry.2.encode)) ∧
    one.encode = .ofMembers (two.sheet.members (.object entries))

/-- Written forms are alike when the attributes are equal and the tasks stand in any order. -/
theorem writtenAlike_iff (one two : Report) : one.WrittenAlike two ↔
    one.sheet = two.sheet ∧ one.tasks.entries.Perm two.tasks.entries := by
  have injective : Function.Injective fun entry : Key × TaskReport =>
      (entry.1, entry.2.encode) := by
    intro entry other same
    obtain ⟨keys, values⟩ := Prod.mk.inj same
    exact Prod.ext keys (TaskReport.encode_injective values)
  constructor
  · rintro ⟨entries, order, same⟩
    obtain ⟨sheets, tasks⟩ := Sheet.eq_of_members (Value.ofMembers_injective same)
    refine ⟨sheets, ?_⟩
    rw [← Value.object.inj tasks] at order
    exact (List.map_perm_map_iff injective).mp order
  · rintro ⟨sheets, order⟩
    refine ⟨_, order.map _, ?_⟩
    rw [encode, members, sheets]
    rfl

/-- Typed records agree exactly when they are written alike. -/
theorem agreesWith_iff (one two : Report) (first : one.WellTyped) (second : two.WellTyped) :
    one.AgreesWith two ↔ one.WrittenAlike two := by
  have order := Table.perm_iff one.tasks two.tasks (fun entry member => (first.tasks entry member).1)
    fun entry member => (second.tasks entry member).1
  rw [writtenAlike_iff, order]
  constructor
  · exact fun agrees => ⟨agrees.attributes, agrees.tasks⟩
  · exact fun same => ⟨congrArg Sheet.kind same.1, same.1, same.2⟩

section Change

variable {one two : Report} (agrees : one.AgreesWith two) (key : Key)
include agrees

/-- A write keeps the agreement only when it writes the task that stands there already. -/
theorem AgreesWith.put_iff (task : TaskReport) :
    (⟨one.sheet, one.tasks.put key task⟩ : Report).AgreesWith two ↔
      one.tasks.get? key = some task := by
  constructor
  · intro after
    have written := after.tasks key
    rw [Table.get?_put, if_pos rfl] at written
    exact (agrees.tasks key).trans written.symm
  · intro present
    refine ⟨agrees.kind, agrees.attributes, ?_⟩
    intro name
    rw [Table.get?_put]
    split
    · rename_i same
      have named : one.tasks.get? name = one.tasks.get? key := findEntry_congr same.symm _
      rw [← agrees.tasks name, named, present]
    · exact agrees.tasks name

/-- A removal ends the agreement when it removes something. -/
theorem AgreesWith.remove_iff :
    (⟨one.sheet, one.tasks.remove key⟩ : Report).AgreesWith two ↔ one.tasks.get? key = none := by
  constructor
  · intro after
    have removed := after.tasks key
    rw [Table.get?_remove, if_pos rfl] at removed
    exact (agrees.tasks key).trans removed.symm
  · intro absent
    refine ⟨agrees.kind, agrees.attributes, ?_⟩
    intro name
    rw [Table.get?_remove]
    split
    · rename_i same
      have named : one.tasks.get? name = one.tasks.get? key := findEntry_congr same.symm _
      rw [← agrees.tasks name, named, absent]
    · exact agrees.tasks name

end Change

end Report

end CheckpointReport
