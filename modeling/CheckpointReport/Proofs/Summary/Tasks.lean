/-
This file proves that the tasks of a record lose nothing of a snapshot but what a later task of the
same vertex replaces. Every task is checked, and also one that does not survive.
-/

import CheckpointReport.Proofs.Summary.Refusals
import CheckpointReport.Proofs.Table

namespace CheckpointReport

namespace Progress

/-- A task stands under the vertex that it names. -/
def Names (progress : Progress) (key : Key) : Prop :=
  ∃ vertex, progress.vertex.key? = some vertex ∧ Keyed.identity vertex = Keyed.identity key

/-- No later task of the list names this vertex. -/
def IsLastOf (progress : Progress) (tasks : List Progress) (key : Key) : Prop :=
  progress.Names key ∧ ∃ before after, tasks = before ++ progress :: after ∧
    ∀ later ∈ after, ¬ later.Names key

/-- These are the vertices of some tasks, one for each task. -/
def vertices (tasks : List Progress) : List Key :=
  tasks.filterMap fun progress => progress.vertex.key?

end Progress

/-- A task describes the progress of one vertex when it says the same as the snapshot. The timestamps
that make up a duration are integers. -/
structure TaskReport.Describes (task : TaskReport) (snapshot : Snapshot) (progress : Progress) :
    Prop where
  id : task.id = snapshot.checkpointId
  status : task.status = snapshot.status
  latestAck : task.counters.latestAck = progress.latestAck
  checkpointedSize : task.counters.checkpointedSize = progress.checkpointedSize
  stateSize : task.counters.stateSize = progress.stateSize
  processedData : task.counters.processedData = progress.processedData
  persistedData : task.counters.persistedData = progress.persistedData
  subtasks : task.counters.subtasks = progress.subtasks
  acknowledged : task.counters.acknowledged = progress.acknowledged
  alignmentBuffered : task.counters.alignmentBuffered = .int 0
  duration : ∀ trigger latestAck : Int,
    snapshot.trigger = .int trigger → progress.latestAck = .int latestAck →
      task.counters.duration = .int (if latestAck = -1 then -1 else max 0 (latestAck - trigger))

/-- An entry stands under the vertex of a task and describes it. -/
structure Snapshot.Enters (snapshot : Snapshot) (progress : Progress) (entry : Key × TaskReport) :
    Prop where
  vertex : progress.vertex.key? = some entry.1
  task : entry.2.Describes snapshot progress

namespace Snapshot

/-- A task that is built is an entry for its progress. -/
theorem enters_of_taskReport (snapshot : Snapshot) (progress : Progress)
    (entry : Key × TaskReport) (done : snapshot.taskReport (.known progress) = .ok entry) :
    snapshot.Enters progress entry := by
  simp only [taskReport, taskCounters, TaskEntry.read, Success.bind_eq_ok_iff,
    Success.pure_eq_ok_iff, fitting_eq_ok_iff, counted_eq_ok_iff] at done
  obtain ⟨_, same, _, ⟨duration, lasted, rfl⟩, task, made, key, named, rfl⟩ := done
  cases same
  obtain ⟨within, rfl⟩ := Counters.eq_of_checked _ _ task made
  have vertex : progress.vertex.key? = some key := by
    unfold Value.asKey at named
    split at named
    · cases named
      assumption
    · cases named
  have timed : ∀ trigger latestAck : Int,
      snapshot.trigger = .int trigger → progress.latestAck = .int latestAck →
        duration = .int (if latestAck = -1 then -1 else max 0 (latestAck - trigger)) := by
    intro trigger latestAck triggered acknowledged
    rw [Progress.duration, triggered, acknowledged, durationSince_int] at lasted
    exact (Except.ok.inj lasted).symm
  exact ⟨vertex, ⟨rfl, rfl, rfl, rfl, rfl, rfl, rfl, rfl, rfl, rfl, timed⟩⟩

variable {snapshot : Snapshot} {tasks : List Progress} {reports : List (Key × TaskReport)}

/-- The entries name the vertices of their tasks in the same order. -/
theorem keys_of_enters (entered : List.Forall₂ snapshot.Enters tasks reports) :
    reports.map Prod.fst = Progress.vertices tasks := by
  induction entered with
  | nil => rfl
  | cons first _ ih => simp [Progress.vertices, first.vertex, ih]

/-- The entry of the last task of a vertex survives all the others. -/
theorem get?_of_enters (entered : List.Forall₂ snapshot.Enters tasks reports)
    (progress : Progress) (key : Key) (last : progress.IsLastOf tasks key) :
    ∃ task, (Table.ofList reports).get? key = some task ∧ task.Describes snapshot progress := by
  obtain ⟨⟨vertex, named, same⟩, before, after, rfl, others⟩ := last
  have split := List.forall₂_drop_append reports before (progress :: after) entered.flip
  obtain ⟨entry, later, enters, following, rest⟩ := List.forall₂_cons_right_iff.mp split
  have whole : reports = reports.take before.length ++ entry :: later := by
    rw [← rest, List.take_append_drop]
  have found : vertex = entry.1 := Option.some.inj (named.symm.trans enters.vertex)
  rw [whole]
  refine ⟨entry.2, Table.get?_ofList _ later entry key (found ▸ same) ?_, enters.task⟩
  refine Success.forall_results following.flip ?_
  intro progress member report entersLater identity
  exact others progress member ⟨report.1, entersLater.vertex, identity⟩

/-- Tasks of different vertices are entered one after the other. -/
theorem entries_of_enters (entered : List.Forall₂ snapshot.Enters tasks reports)
    (distinct : ((Progress.vertices tasks).map Keyed.identity).Nodup) :
    (Table.ofList reports).entries = reports := by
  apply Table.ofList_entries
  rw [← keys_of_enters entered, List.map_map] at distinct
  exact distinct

theorem enters_of_taskReports (snapshot : Snapshot) (tasks : List Progress)
    (entries : Table Key TaskEntry) (listed : snapshot.tasks = .table entries)
    (known : entries.values = tasks.map .known) (table : Table Key TaskReport)
    (done : snapshot.taskReports = .ok table) :
    ∃ reports, List.Forall₂ snapshot.Enters tasks reports ∧ table = Table.ofList reports := by
  obtain ⟨sources, reports, found, summed, rfl⟩ := (snapshot.taskReports_eq_ok_iff table).mp done
  rw [listed] at found
  cases found
  rw [known, List.forall₂_map_left_iff] at summed
  exact ⟨reports, summed.imp fun progress entry built =>
    snapshot.enters_of_taskReport progress entry built, rfl⟩

end Snapshot

/-- A table sums up some tasks when it has one entry for each vertex, where the vertex first came, and
the entry describes the last task of the vertex. -/
structure Snapshot.SumsUp (snapshot : Snapshot) (tasks : List Progress)
    (table : Table Key TaskReport) : Prop where
  keys : table.keys = firstKeys (Progress.vertices tasks)
  last : ∀ progress key, progress.IsLastOf tasks key →
    ∃ task, table.get? key = some task ∧ task.Describes snapshot progress
  distinct : ((Progress.vertices tasks).map Keyed.identity).Nodup →
    List.Forall₂ snapshot.Enters tasks table.entries

/-- The tasks of a snapshot are summed up by their vertices, whatever keys the snapshot uses. A bad
value is blamed exactly when one of the tasks counts too many acknowledged subtasks, even if a later
task has the same vertex. -/
theorem tasks_summed_by_vertex (snapshot : Snapshot) (tasks : List Progress)
    (entries : Table Key TaskEntry) (listed : snapshot.tasks = .table entries)
    (known : entries.values = tasks.map .known) (triggered : snapshot.trigger.IsInteger)
    (readable : ∀ progress ∈ tasks, progress.Readable) :
    (∀ refusal, snapshot.taskReports = .error refusal ↔ refusal = .excess ∧
      ∃ progress ∈ tasks, ¬ CountsWithin progress.acknowledged progress.subtasks) ∧
    Refusal.excess.complaint = .plain .badValue excessMessage ∧
    ((∀ progress ∈ tasks, CountsWithin progress.acknowledged progress.subtasks) →
      ∃ table, snapshot.taskReports = .ok table ∧ snapshot.SumsUp tasks table) := by
  have tasksReadable : snapshot.TasksReadable := by
    refine ⟨⟨entries, listed, ?_⟩, triggered⟩
    intro entry member
    rw [known] at member
    obtain ⟨progress, among, rfl⟩ := List.mem_map.mp member
    exact ⟨progress, rfl, readable progress among⟩
  have follows := tasksReadable.taskReports_follows
  have within : snapshot.TasksWithin ↔
      ∀ progress ∈ tasks, CountsWithin progress.acknowledged progress.subtasks := by
    simp [Snapshot.TasksWithin, listed, known]
  refine ⟨?_, rfl, ?_⟩
  · intro refusal
    rw [follows.eq_error_iff, Rule.firstBroken_singleton_iff, within]
    simp [and_comm]
  · intro fine
    obtain ⟨table, done⟩ :=
      follows.exists_ok_iff.mpr (List.forall_mem_singleton.mpr (within.mpr fine))
    obtain ⟨reports, entered, rfl⟩ :=
      snapshot.enters_of_taskReports tasks entries listed known table done
    refine ⟨_, done, ?_, ?_, ?_⟩
    · rw [Table.keys_ofList, Snapshot.keys_of_enters entered]
    · exact Snapshot.get?_of_enters entered
    · intro distinct
      rwa [Snapshot.entries_of_enters entered distinct]

/-- The last of these tasks has the vertex of the first one. -/
def mergedTasks (acknowledged : Int) : List Progress :=
  [⟨.text "source", .int 4, .int acknowledged, .int 1200, .int 7, .int 7, .int 0, .int 0⟩,
    ⟨.text "sink", .int 1, .int 0, .int (-1), .int 0, .int 0, .int 0, .int 0⟩,
    ⟨.text "source", .int 4, .int 4, .int 1500, .int 9, .int 9, .int 0, .int 0⟩]

def merged (acknowledged : Int) : Snapshot :=
  { abandoned with
    tasks := .table (Table.ofList
      ([Key.text "c", Key.text "a", Key.text "b"].zip ((mergedTasks acknowledged).map .known))) }

theorem merged_readable (acknowledged : Int) :
    ∀ progress ∈ mergedTasks acknowledged, progress.Readable := by
  simp only [mergedTasks, List.forall_mem_cons, List.not_mem_nil]
  refine ⟨?_, ?_, ?_, nofun⟩ <;> exact ⟨⟨_, rfl⟩, ⟨_, rfl⟩, ⟨_, rfl⟩, ⟨_, rfl⟩⟩

/-- The first task is refused although the last one would replace it. -/
theorem merged_summed :
    (merged 5).taskReports = .error .excess ∧
      ∃ table, (merged 3).taskReports = .ok table ∧
        table.keys = [.text "source", .text "sink"] ∧
          ∃ task, table.get? (.text "source") = some task ∧
            task.counters.duration = .int 500 ∧ task.counters.acknowledged = .int 4 := by
  obtain ⟨refused, -, -⟩ := tasks_summed_by_vertex (merged 5) (mergedTasks 5) _ rfl rfl
    ⟨1000, rfl⟩ (merged_readable 5)
  obtain ⟨-, -, summed⟩ := tasks_summed_by_vertex (merged 3) (mergedTasks 3) _ rfl rfl
    ⟨1000, rfl⟩ (merged_readable 3)
  constructor
  · rw [refused]
    refine ⟨rfl, _, List.mem_cons_self, fun within => ?_⟩
    have most := within 5 4 rfl rfl
    omega
  · have within : ∀ progress ∈ mergedTasks 3,
        CountsWithin progress.acknowledged progress.subtasks := by
      simp [mergedTasks, CountsWithin]
    obtain ⟨table, done, sums⟩ := summed within
    obtain ⟨task, found, described⟩ := sums.last _ (.text "source")
      ⟨⟨.text "source", rfl, rfl⟩, [_, _], [], rfl, List.forall_mem_nil _⟩
    exact ⟨table, done, sums.keys, task, found, described.duration 1000 1500 rfl rfl,
      described.acknowledged⟩

end CheckpointReport
