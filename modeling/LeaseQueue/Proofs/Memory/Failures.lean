import LeaseQueue.Proofs.Memory.Leases

/-!
What receives and mutations leave when they fail. Nearly always they leave the rows alone; where date arithmetic
overflows between two rows or two mutations, what was written until then stays.
-/
namespace LeaseQueue

namespace StoredMessage

/-- Mutations that overflow stop at one of them, and have made those before it. -/
theorem mutateAll_stops {now : Instant} {mutations : List Mutation} {row changed : StoredMessage} {overflow : Overflow}
    (done : row.mutateAll now mutations = (some overflow, changed)) : ∃ applied failing rest,
      mutations = applied ++ failing :: rest ∧ row.mutateAll now applied = (none, changed) ∧
        changed.mutate now failing = .error overflow := by
  induction mutations generalizing row with
  | nil => cases done
  | cons mutation others ih =>
    unfold mutateAll at done
    cases first : row.mutate now mutation with
    | error failure =>
      rw [first] at done
      cases done
      exact ⟨[], mutation, others, rfl, rfl, first⟩
    | ok next =>
      rw [first] at done
      obtain ⟨applied, failing, rest, rfl, reached, stuck⟩ := ih done
      refine ⟨mutation :: applied, failing, rest, rfl, ?_, stuck⟩
      rw [mutateAll, first]
      exact reached

/-- The message after mutations of the messages with the given ids, one after the other. -/
def mutateEach (now : Instant) (mutations : List Mutation) (ids : List MessageId) (row : StoredMessage) :
    StoredMessage :=
  ids.foldl (fun row id => if row.address = id then (row.mutateAll now mutations).2 else row) row

theorem mutateEach_writes (now : Instant) (mutations : List Mutation) (ids : List MessageId) (row : StoredMessage) :
    let changed := row.mutateEach now mutations ids
    changed = { row with scheduledAt := changed.scheduledAt, remaining := changed.remaining } := by
  unfold mutateEach
  induction ids generalizing row with
  | nil => rfl
  | cons id rest ih =>
    rw [List.foldl_cons]
    refine (ih _).trans ?_
    split
    · rw [mutateAll_writes]
    · rfl

theorem mutateEach_receipt (now : Instant) (mutations : List Mutation) (ids : List MessageId) (row : StoredMessage) :
    (row.mutateEach now mutations ids).receipt = row.receipt := by
  rw [mutateEach_writes]
  rfl

theorem mutateEach_processingAt (now : Instant) (mutations : List Mutation) (ids : List MessageId)
    (row : StoredMessage) : (row.mutateEach now mutations ids).processingAt = row.processingAt := by
  rw [mutateEach_writes]

theorem mutateEach_other (now : Instant) (mutations : List Mutation) {ids : List MessageId} {row : StoredMessage}
    (other : row.address ∉ ids) : row.mutateEach now mutations ids = row := by
  unfold mutateEach
  induction ids with
  | nil => rfl
  | cons id rest ih =>
    rw [List.mem_cons, not_or] at other
    rw [List.foldl_cons, if_neg other.1]
    exact ih other.2

end StoredMessage

namespace Table

theorem rows_replace {rows : List StoredMessage} (ascending : Ascending rows) {row changed : StoredMessage}
    (present : row ∈ rows) (same : changed.receipt = row.receipt) (change : StoredMessage → StoredMessage)
    (changes : change row = changed) :
    (rows.map fun other => if other.id = changed.id then changed else other) =
      rows.map fun other => if other.address = row.address then change other else other := by
  have ids := StoredMessage.receipt_id same
  refine List.map_congr_left fun other member => ?_
  by_cases here : other.id = row.id
  · obtain rfl := eq_of_id ascending member present here
    rw [if_pos (here.trans ids.symm), if_pos rfl, changes]
  · have apart : other.address ≠ row.address := fun equal => here (congrArg MessageId.localId equal)
    rw [if_neg fun equal => here (equal.trans ids), if_neg apart]

theorem mutate_rows {table : Table} (ascending : Ascending table.rows) (now : Instant) (mutations : List Mutation)
    (id : MessageId) :
    (table.mutate now mutations id).2.rows =
      table.rows.map fun row => if row.address = id then (row.mutateAll now mutations).2 else row := by
  unfold mutate
  cases found : table.rows.find? fun row => row.address = id with
  | none =>
    have absent : ∀ row ∈ table.rows, ¬ row.address = id := fun row member here =>
      List.find?_eq_none.mp found row member (decide_eq_true here)
    exact (List.map_id _).symm.trans (List.map_congr_left fun row member => (if_neg (absent row member)).symm)
  | some row =>
    have named : row.address = id := by simpa using List.find?_some found
    subst named
    have replaced := rows_replace ascending (List.mem_of_find?_eq_some found) (row.mutateAll_receipt now mutations)
      (fun row => (row.mutateAll now mutations).2) rfl
    rcases done : row.mutateAll now mutations with ⟨failed, changed⟩
    rw [done] at replaced
    simp only [done]
    cases failed <;> exact replaced

/-- A mutation of one message that overflows has made the mutations before the one that it stops at. -/
theorem mutate_stops {table last : Table} (ascending : Ascending table.rows) {now : Instant} {mutations : List Mutation}
    {id : MessageId} {overflow : Overflow} (done : table.mutate now mutations id = (.error overflow, last)) :
    ∃ row ∈ table.rows, row.address = id ∧ ∃ applied failing rest, mutations = applied ++ failing :: rest ∧
      (row.mutateEach now applied [id]).mutate now failing = .error overflow ∧
        last.rows = table.rows.map (StoredMessage.mutateEach now applied [id]) := by
  have same := done
  unfold mutate at done
  cases found : table.rows.find? fun row => row.address = id with
  | none =>
    rw [found] at done
    cases done
  | some row =>
    rw [found] at done
    have named : row.address = id := by simpa using List.find?_some found
    have present := List.mem_of_find?_eq_some found
    rcases mutated : row.mutateAll now mutations with ⟨failed, changed⟩
    simp only [mutated] at done
    cases failed with
    | none => cases done
    | some failure =>
      cases done
      obtain ⟨applied, failing, rest, parts, reached, stuck⟩ := StoredMessage.mutateAll_stops mutated
      have target : row.mutateEach now applied [id] = changed := by
        unfold StoredMessage.mutateEach
        rw [List.foldl_cons, if_pos named, reached]
        rfl
      refine ⟨row, present, named, applied, failing, rest, parts, ?_, ?_⟩
      · rw [target]
        exact stuck
      · have receipt := row.mutateAll_receipt now applied
        rw [reached] at receipt
        subst named
        exact rows_replace ascending present receipt (fun row => (row.mutateAll now applied).2) (by rw [reached])

/-- Mutations of several messages that overflow stop at one message, and have changed those before it entirely and
this one in part. -/
theorem mutateAll_stops {table last : Table} (ascending : Ascending table.rows) {now : Instant}
    {mutations : List Mutation} {ids : List MessageId} {overflow : Overflow}
    (done : table.mutateAll now mutations ids = (.error overflow, last)) :
    ∃ earlier stuck later, ids = earlier ++ stuck :: later ∧ ∃ applied failing rest,
      mutations = applied ++ failing :: rest ∧ ∃ row ∈ table.rows, row.address = stuck ∧
        ((row.mutateEach now mutations earlier).mutateEach now applied [stuck]).mutate now failing =
          .error overflow ∧
        last.rows = table.rows.map fun row =>
          (row.mutateEach now mutations earlier).mutateEach now applied [stuck] := by
  induction ids generalizing table with
  | nil => cases done
  | cons id others ih =>
    unfold mutateAll at done
    have rows := mutate_rows ascending now mutations id
    have order := (mutate_mutates ascending now mutations id).ascending ascending
    rcases first : table.mutate now mutations id with ⟨result, changed⟩
    rw [first] at done rows order
    cases result with
    | error failure =>
      cases done
      obtain ⟨row, present, named, applied, failing, rest, parts, fails, left⟩ := mutate_stops ascending first
      exact ⟨[], id, others, rfl, applied, failing, rest, parts, row, present, named, fails, left⟩
    | ok outcome =>
      rcases next : changed.mutateAll now mutations others with ⟨found, after⟩
      dsimp only at done
      rw [next] at done
      cases found with
      | ok found => cases done
      | error failure =>
        cases done
        obtain ⟨earlier, stuck, later, split, applied, failing, rest, parts, row, present, named, fails, left⟩ :=
          ih order next
        rw [rows] at present
        obtain ⟨first, there, rfl⟩ := List.mem_map.mp present
        have receipt := first.mutateEach_receipt now mutations [id]
        refine ⟨id :: earlier, stuck, later, congrArg (id :: ·) split, applied, failing, rest, parts, first, there, ?_,
          fails, ?_⟩
        · exact (congrArg Receipt.address receipt).symm.trans named
        · rw [left, rows, List.map_map]
          rfl

end Table

namespace Run

open Database

variable {queue : Queue} {before after : Database} {clock : Except Overflow Instant} {left : List StoredMessage}

/-- What a receive that gives no messages leaves of the rows its sweep has kept. -/
inductive ReceiveFailure (queue : Queue) (options : ReceiveOptions) (clock : Except Overflow Instant)
    (kept : List StoredMessage) : Except Overflow (Except Error (List LeasedMessage)) → List StoredMessage → Prop
  | refused (failure : Error) : ReceiveFailure queue options clock kept (.ok (.error failure)) kept
  | stopped {overflow : Overflow} (unread : clock = .error overflow) :
      ReceiveFailure queue options clock kept (.error overflow) kept
  /-- The leases would end outside the calendar. The message that comes first is already marked as leased. -/
  | marked {now : Instant} {overflow : Overflow} {sequence : IdSequence} {first : StoredMessage}
      {others : List StoredMessage} (read : clock = .ok now)
      (picked : Table.choose ⟨sequence, kept⟩ now options = .ok (first :: others))
      (late : now.add (queue.visibilityOf options) = .error overflow) :
      ReceiveFailure queue options clock kept (.error overflow)
        (kept.map fun row => if row.id = first.id then { row with processingAt := some now } else row)

/-- What a mutation that reports nothing leaves of the rows of its table. -/
inductive MutateFailure (mutations : List Mutation) (ids : List MessageId) (clock : Except Overflow Instant)
    (rows : List StoredMessage) : Except Overflow (Except Error (List MutationOutcome)) → List StoredMessage → Prop
  | refused (failure : Error) : MutateFailure mutations ids clock rows (.ok (.error failure)) rows
  | stopped {overflow : Overflow} (unread : clock = .error overflow) :
      MutateFailure mutations ids clock rows (.error overflow) rows
  /-- A schedule would leave the calendar. The messages before the stuck one are mutated, and the mutations before the
  failing one are made on the stuck one. -/
  | cut {now : Instant} {overflow : Overflow} {earlier later : List MessageId} {applied rest : List Mutation}
      {failing : Mutation} {stuck : StoredMessage} (read : clock = .ok now)
      (reached : ids = earlier ++ stuck.address :: later) (made : mutations = applied ++ failing :: rest)
      (present : stuck ∈ rows)
      (fails : ((stuck.mutateEach now mutations earlier).mutateEach now applied [stuck.address]).mutate now failing =
        .error overflow) :
      MutateFailure mutations ids clock rows (.error overflow)
        (rows.map fun row => (row.mutateEach now mutations earlier).mutateEach now applied [stuck.address])

/-- Whatever a failed receive leaves, the schedules and the attempts are those from before. -/
theorem ReceiveFailure.columns {options : ReceiveOptions} {kept : List StoredMessage}
    {outcome : Except Overflow (Except Error (List LeasedMessage))}
    (failure : ReceiveFailure queue options clock kept outcome left) :
    (left.map fun row => (row.scheduledAt, row.remaining)) = kept.map fun row => (row.scheduledAt, row.remaining) := by
  cases failure with
  | refused | stopped => rfl
  | marked =>
    rw [List.map_map]
    refine List.map_congr_left fun row _ => ?_
    dsimp only [Function.comp_apply]
    split <;> rfl

section

variable {mutations : List Mutation} {ids : List MessageId} {rows : List StoredMessage}
  {outcome : Except Overflow (Except Error (List MutationOutcome))}

/-- Whatever a failed mutation leaves, the times of the leases are those from before. -/
theorem MutateFailure.columns
    (failure : MutateFailure mutations ids clock rows outcome left) :
    left.map StoredMessage.processingAt = rows.map StoredMessage.processingAt := by
  cases failure with
  | refused | stopped => rfl
  | cut =>
    rw [List.map_map]
    refine List.map_congr_left fun row _ => ?_
    exact (StoredMessage.mutateEach_processingAt ..).trans (StoredMessage.mutateEach_processingAt ..)

/-- A failed mutation has changed no message but those it was given. -/
theorem MutateFailure.others (failure : MutateFailure mutations ids clock rows outcome left) {row : StoredMessage}
    (member : row ∈ rows) (other : row.address ∉ ids) : row ∈ left := by
  cases failure with
  | refused | stopped => exact member
  | cut read reached made present fails =>
    rw [reached, List.mem_append, List.mem_cons, not_or, not_or] at other
    obtain ⟨before, apart, _⟩ := other
    refine List.mem_map.mpr ⟨row, member, ?_⟩
    rw [StoredMessage.mutateEach_other _ _ before]
    exact StoredMessage.mutateEach_other _ _ (List.not_mem_cons_of_ne_of_not_mem apart List.not_mem_nil)

end

/-- Leasing stops only if the leases would end outside the calendar, and then at the first row. -/
theorem leaseRows_stops {name : QueueName} {table : Table} {now : Instant} {visibility : Duration}
    {chosen : List StoredMessage} {overflow : Overflow}
    (ran : (leaseRows name table now visibility chosen).run.run before = (.error overflow, after)) :
    now.add visibility = .error overflow ∧ ∃ first others, chosen = first :: others ∧
      after = before.setTable name (table.replace { first with processingAt := some now }) := by
  unfold leaseRows at ran
  cases chosen with
  | nil => cases ran
  | cons first others =>
    cases due : now.add visibility with
    | error failure =>
      rw [due] at ran
      cases ran
      exact ⟨rfl, first, others, rfl, rfl⟩
    | ok expiry =>
      rw [due] at ran
      cases ran

theorem receive_fails (engine : SweepEngine) (drawn : Bool) (options : ReceiveOptions)
    (ascending : Table.Ascending (before.rows queue.table))
    {outcome : Except Overflow (Except Error (List LeasedMessage))}
    (ran : (receive engine drawn queue options).run.run before = (outcome, after))
    (failed : ∀ messages, outcome ≠ .ok (.ok messages)) :
    ∃ limit, ReceiveFailure queue options before.now (before.dropSwept queue.table limit) outcome
      (after.rows queue.table) := by
  obtain ⟨swept, sweeps, ends⟩ := receive_cases engine drawn queue options ran
  obtain ⟨limit, kept⟩ := sweeps.rows
  refine ⟨limit, ?_⟩
  rw [← kept, ← sweeps.now]
  cases ends with
  | refused failure => exact .refused failure
  | stopped clock => exact .stopped clock
  | noTable clock absent => exact absurd rfl (failed [])
  | @leased now table chosen _ result clock found picked leased =>
    cases result with
    | ok messages => exact absurd rfl (failed messages)
    | error overflow =>
      obtain ⟨late, first, others, rfl, rfl⟩ := leaseRows_stops leased
      have rows : swept.rows queue.table = table.rows := rows_of_table found
      have order : Table.Ascending table.rows := rows ▸ List.Pairwise.sublist sweeps.sublist ascending
      have present := ((Table.choose_spec picked order).2 first List.mem_cons_self).1
      have left : (swept.setTable queue.name (table.replace { first with processingAt := some now })).rows queue.table =
          (swept.rows queue.table).map fun row =>
            if row.id = first.id then { row with processingAt := some now } else row := by
        refine (rows_setTable swept queue.name _).trans ?_
        rw [rows]
        refine List.map_congr_left fun row member => ?_
        by_cases same : row.id = first.id
        · rw [Table.eq_of_id order member present same]
        · rw [if_neg same, if_neg same]
      rw [left]
      have again : Table.choose ⟨table.sequence, swept.rows queue.table⟩ now options = .ok (first :: others) := by
        rw [rows]
        exact picked
      exact .marked clock again late

theorem mutate_fails {mutations : List Mutation} {ids : List MessageId}
    (ascending : Table.Ascending (before.rows queue.table))
    {outcome : Except Overflow (Except Error (List MutationOutcome))}
    (ran : (mutate queue mutations ids).run.run before = (outcome, after))
    (failed : ∀ outcomes, outcome ≠ .ok (.ok outcomes)) :
    MutateFailure mutations ids before.now (before.rows queue.table) outcome (after.rows queue.table) := by
  cases mutate_cases queue mutations ids ran with
  | refused failure => exact .refused failure
  | stopped clock => exact .stopped clock
  | noTable absent => exact absurd rfl (failed (ids.map .notFound))
  | @changed now table clock found =>
    have rows : before.rows queue.table = table.rows := rows_of_table found
    rw [rows] at ascending ⊢
    rcases done : table.mutateAll now mutations ids with ⟨result, last⟩
    rw [done] at failed
    cases result with
    | ok outcomes => exact absurd rfl (failed outcomes)
    | error overflow =>
      obtain ⟨earlier, _, later, reached, applied, failing, rest, made, stuck, present, rfl, fails, left⟩ :=
        Table.mutateAll_stops ascending done
      have after : (before.setTable queue.name last).rows queue.table = _ := rows_setTable before queue.name last
      rw [after, left]
      exact .cut clock reached made present fails

/-- What a receive or a mutation that fails does to the rows. An error leaves all rows alone but dead ones that the
receive has swept. So does an overflow, except where it comes between two writes: a receive has then marked one message
as leased, and a mutation has written schedules and attempts of some of its messages. -/
theorem failed_calls_leave (ascending : ∀ name, Table.Ascending (before.rows name)) :
    (∀ engine drawn queue options outcome after,
      (receive engine drawn queue options).run.run before = (outcome, after) →
      (∀ messages, outcome ≠ .ok (.ok messages)) →
        (∀ name ≠ queue.table, after.rows name = before.rows name) ∧ ∃ limit,
          let kept := before.dropSwept queue.table limit
          ReceiveFailure queue options before.now kept outcome (after.rows queue.table) ∧
            ((after.rows queue.table).map fun row => (row.scheduledAt, row.remaining)) =
              kept.map fun row => (row.scheduledAt, row.remaining)) ∧
    ∀ queue mutations ids outcome after, (mutate queue mutations ids).run.run before = (outcome, after) →
      (∀ outcomes, outcome ≠ .ok (.ok outcomes)) →
        (∀ name ≠ queue.table, after.rows name = before.rows name) ∧
          MutateFailure mutations ids before.now (before.rows queue.table) outcome (after.rows queue.table) ∧
          (after.rows queue.table).map StoredMessage.processingAt =
            (before.rows queue.table).map StoredMessage.processingAt ∧
          ∀ row ∈ before.rows queue.table, row.address ∉ ids → row ∈ after.rows queue.table := by
  constructor
  · intro engine drawn queue options outcome after ran failed
    have moves := receive_moves engine drawn queue options before
    rw [ran] at moves
    obtain ⟨limit, failure⟩ := receive_fails engine drawn options (ascending queue.table) ran failed
    exact ⟨fun name apart => moves.rows apart, limit, failure, failure.columns⟩
  · intro queue mutations ids outcome after ran failed
    have moves := mutate_moves queue mutations ids before
    rw [ran] at moves
    have failure := mutate_fails (ascending queue.table) ran failed
    exact ⟨fun name apart => moves.rows apart, failure, failure.columns, fun row => failure.others⟩

end Run

theorem History.ordered {start database : Database} {past : List Entry} (opened : start.Opened)
    (history : History start past database) (name : String) : Table.Ascending (database.rows name) := by
  induction history with
  | start =>
    rw [(opened.start.2 name).1]
    exact .nil
  | call earlier engine drawn call ih => exact Entry.ascending _ ih

/-- A span that the calendar's arithmetic takes, but that leads out of the calendar from everywhere. -/
def ages : Duration := 9000000000000000000000

/-- Sends one message, which can be leased at once. -/
def sendOne : List (SweepEngine × Bool × Call) :=
  [(⟨.disabled, ""⟩, false, .send (.named .jobs) 1 [⟨.empty, ∅, none, none⟩])]

def oneMessage : Database := (replay .fresh sendOne).2

def endlessLease : Entry := ⟨⟨.disabled, ""⟩, false, .receive (.named .jobs) ⟨1, some ages, none, [], none⟩, oneMessage⟩

/-- Uses up the attempts and then moves the schedule by ages. -/
def halfMutation : Entry :=
  ⟨⟨.disabled, ""⟩, false, .mutate (.named .jobs) [.setAttempts 0, .addSchedule ages] [⟨1, 1⟩], oneMessage⟩

theorem failures_keep_columns :
    ((endlessLease.after.rows "q_jobs").map fun row => (row.scheduledAt, row.remaining)).Sublist [(0, 5)] ∧
      (halfMutation.after.rows "q_jobs").map StoredMessage.processingAt = [none] := by
  have ordered : ∀ name, Table.Ascending (oneMessage.rows name) :=
    (replay_history .fresh sendOne).ordered Database.fresh_opened
  obtain ⟨receives, mutates⟩ := Run.failed_calls_leave ordered
  constructor
  · have made : endlessLease.call = .receive (.named .jobs) ⟨1, some ages, none, [], none⟩ := rfl
    obtain ⟨outcome, ran, ended⟩ := Entry.of_receive made
    have stopped : endlessLease.outcome.isStopped := by decide +kernel
    rw [ended] at stopped
    obtain ⟨_, limit, _, columns⟩ := receives _ _ _ _ _ _ ran (by rintro messages rfl; cases stopped)
    have kept := oneMessage.dropSwept_sublist (Queue.named .jobs).table limit
    have sent : (oneMessage.rows (Queue.named .jobs).table).map (fun row => (row.scheduledAt, row.remaining)) =
        [(0, 5)] := by decide +kernel
    have inside := kept.map fun row => (row.scheduledAt, row.remaining)
    rw [sent, ← columns] at inside
    exact inside
  · have made : halfMutation.call = .mutate (.named .jobs) [.setAttempts 0, .addSchedule ages] [⟨1, 1⟩] := rfl
    obtain ⟨outcome, ran, ended⟩ := Entry.of_mutate made
    have stopped : halfMutation.outcome.isStopped := by decide +kernel
    rw [ended] at stopped
    obtain ⟨_, _, columns, _⟩ := mutates _ _ _ _ _ ran (by rintro outcomes rfl; cases stopped)
    refine columns.trans ?_
    decide +kernel

/-- The two calls fail, and the message is not as it was. -/
theorem overflow_leaves_traces :
    (endlessLease.outcome.isStopped ∧
      (endlessLease.before.rows "q_jobs").map StoredMessage.processingAt = [none] ∧
      (endlessLease.after.rows "q_jobs").map StoredMessage.processingAt = [some 0]) ∧
    halfMutation.outcome.isStopped ∧
      (halfMutation.before.rows "q_jobs").map StoredMessage.remaining = [5] ∧
      (halfMutation.after.rows "q_jobs").map StoredMessage.remaining = [0] := by
  refine ⟨⟨?_, ?_, ?_⟩, ?_, ?_, ?_⟩ <;> decide +kernel

end LeaseQueue
