import LeaseQueue.Proofs.Running
import LeaseQueue.Proofs.Sql.Effects
import LeaseQueue.Sql.Store

/-!
Mutations over SQL. The rows that come back tell what became of each message. They are read only when the change is
committed, so a row that cannot be read makes an error of a change that stays.
-/
namespace LeaseQueue.Sql

namespace Row

variable {α : Type} {row : Row} {column : String} {read : Cell → Option α} {failure : Error}

theorem optional_error (failed : row.optional column read = .error failure) :
    failure = .persistence (.unreadable column) := by
  unfold optional at failed
  split at failed
  · cases failed; rfl
  · cases failed
  · split at failed
    · cases failed
    · cases failed; rfl

/-- A column that cannot be read is named by the error. -/
theorem required_error (failed : row.required column read = .error failure) :
    failure = .persistence (.unreadable column) := by
  unfold required at failed
  cases found : row.optional column read with
  | error cause =>
    rw [found] at failed
    cases failed
    exact optional_error found
  | ok content =>
    rw [found] at failed
    cases content with
    | none => cases failed; rfl
    | some content => cases failed

end Row

/-- A row is about a message. -/
structure About (row : Row) (id : MessageId) : Prop where
  localId : row.required MessageColumn.id.text Cell.bigInt? = .ok id.localId
  shard : row.required MessageColumn.shard.text Cell.int? = .ok id.shard

/-- A row gives the schedule and the attempts that a message now has. -/
structure Tells (row : Row) (id : MessageId) (scheduledAt : Instant) (remaining : Int) : Prop extends About row id where
  scheduledAt : row.required MessageColumn.scheduledAt.text Cell.time? = .ok scheduledAt
  remaining : row.required MessageColumn.remainingAttempts.text Cell.int? = .ok remaining

/-- What became of a message, by the rows that came back: the last row about it tells. -/
inductive Became (rows : List Row) (id : MessageId) : MutationOutcome → Prop
  | mutated {earlier later : List Row} {row : Row} {scheduledAt : Instant} {remaining : Int}
      (split : rows = earlier ++ row :: later) (tells : Tells row id scheduledAt remaining)
      (last : ∀ other ∈ later, ¬ About other id) : Became rows id (.mutated id scheduledAt remaining)
  | notFound (absent : ∀ row ∈ rows, ¬ About row id) : Became rows id (.notFound id)

/-- No row tells of a message that another one tells of too. -/
theorem About.unique {row : Row} {first second : MessageId} (here : About row first) (there : About row second) :
    first = second := by
  obtain ⟨localId, shard⟩ := first
  obtain ⟨otherId, otherShard⟩ := second
  cases here.localId.symm.trans there.localId
  cases here.shard.symm.trans there.shard
  rfl

namespace Action

theorem readMutated_of_tells {row : Row} {id : MessageId} {scheduledAt : Instant} {remaining : Int}
    (tells : Tells row id scheduledAt remaining) : readMutated row = .ok (id, scheduledAt, remaining) := by
  unfold readMutated
  rw [tells.localId, tells.shard, tells.scheduledAt, tells.remaining]
  rfl

/-- A row is read, or one of its columns cannot be. -/
theorem readMutated_cases (row : Row) :
    (∃ id scheduledAt remaining, Tells row id scheduledAt remaining ∧
      readMutated row = .ok (id, scheduledAt, remaining)) ∨
    ∃ column ∈ mutatedColumns, readMutated row = .error (.persistence (.unreadable column)) := by
  have listed (column : MessageColumn) (named : column ∈ [MessageColumn.id, .shard, .scheduledAt, .remainingAttempts])
      (failed : readMutated row = .error (.persistence (.unreadable column.text))) :
      ∃ column ∈ mutatedColumns, readMutated row = .error (.persistence (.unreadable column)) :=
    ⟨column.text, List.mem_map_of_mem named, failed⟩
  cases localId : row.required MessageColumn.id.text Cell.bigInt? with
  | error failure =>
    cases Row.required_error localId
    exact .inr (listed .id (by decide) (by unfold readMutated; rw [localId]; rfl))
  | ok number =>
    cases shard : row.required MessageColumn.shard.text Cell.int? with
    | error failure =>
      cases Row.required_error shard
      exact .inr (listed .shard (by decide) (by unfold readMutated; rw [localId, shard]; rfl))
    | ok place =>
      cases due : row.required MessageColumn.scheduledAt.text Cell.time? with
      | error failure =>
        cases Row.required_error due
        exact .inr (listed .scheduledAt (by decide) (by unfold readMutated; rw [localId, shard, due]; rfl))
      | ok instant =>
        cases left : row.required MessageColumn.remainingAttempts.text Cell.int? with
        | error failure =>
          cases Row.required_error left
          exact .inr (listed .remainingAttempts (by decide)
            (by unfold readMutated; rw [localId, shard, due, left]; rfl))
        | ok count =>
          have tells : Tells row ⟨number, place⟩ instant count := ⟨⟨localId, shard⟩, due, left⟩
          exact .inl ⟨_, _, _, tells, readMutated_of_tells tells⟩

/-- The rows, each with what was read of it. -/
theorem tells_of_read {rows : List Row} {written : List (MessageId × Instant × Int)}
    (read : rows.mapM readMutated = .ok written) :
    List.Forall₂ (fun row entry => Tells row entry.1 entry.2.1 entry.2.2) rows written := by
  refine (forall₂_of_mapM read).imp fun row entry same => ?_
  rcases readMutated_cases row with ⟨id, scheduledAt, remaining, tells, given⟩ | ⟨_, _, given⟩
  · cases same.symm.trans given
    exact tells
  · cases same.symm.trans given

/-- A row that cannot be read is one that tells of no message, and the error names a column that it was read for. -/
theorem untold_of_read {rows : List Row} {failure : Error} (failed : rows.mapM readMutated = .error failure) :
    (∃ row ∈ rows, ∀ id scheduledAt remaining, ¬ Tells row id scheduledAt remaining) ∧
      ∃ column ∈ mutatedColumns, failure = .persistence (.unreadable column) := by
  obtain ⟨row, member, same⟩ := exists_of_mapM_error failed
  constructor
  · refine ⟨row, member, fun id scheduledAt remaining tells => ?_⟩
    cases same.symm.trans (readMutated_of_tells tells)
  · rcases readMutated_cases row with ⟨_, _, _, _, given⟩ | ⟨column, named, given⟩
    · cases same.symm.trans given
    · cases same.symm.trans given
      exact ⟨column, named, rfl⟩

/-- Every message is accounted for by the rows, in the order of the request. -/
theorem matchMutated_became {rows : List Row} {written : List (MessageId × Instant × Int)}
    (read : rows.mapM readMutated = .ok written) (ids : List MessageId) :
    List.Forall₂ (Became rows) ids (matchMutated written ids) := by
  have told := tells_of_read read
  unfold matchMutated
  refine List.forall₂_map_right_iff.mpr (List.forall₂_same.mpr fun id _ => ?_)
  cases found : written.reverse.lookup id with
  | none =>
    refine .notFound fun row member about => ?_
    obtain ⟨entry, listed, tells⟩ := exists_of_mem_forall₂ told member
    have other := List.lookup_eq_none_iff.mp found _ (List.mem_reverse.mpr listed)
    exact bne_iff_ne.mp other (about.unique tells.toAbout)
  | some entry =>
    obtain ⟨later, earlier, split, others⟩ := List.lookup_eq_some_iff.mp found
    have order : written = earlier.reverse ++ (id, entry) :: later.reverse := by
      rw [← List.reverse_reverse written, split]
      simp
    rw [order] at told
    obtain ⟨before, row, after, rfl, tells, rest⟩ := forall₂_append_cons told
    refine .mutated rfl tells fun other member about => ?_
    obtain ⟨entry, listed, tells⟩ := exists_of_mem_forall₂ rest member
    exact bne_iff_ne.mp (others _ (List.mem_reverse.mp listed)) (about.unique tells.toAbout)

end Action

/-- How a mutation of messages may run, with the answer that it gives. -/
inductive MutateRun (queue : Queue) (mutations : List Mutation) (ids : List MessageId) :
    Exchanges → Except Error (List MutationOutcome) → Prop
  | rejected {failure : Error} (cause : Mutation.validateAll mutations = .error failure ∨
      mutateStatement queue mutations ids = .error failure) : MutateRun queue mutations ids [] (.error failure)
  | nothing (empty : ids = []) : MutateRun queue mutations ids [] (.ok [])
  | refused : MutateRun queue mutations ids [⟨.begin, false⟩] (Action.failed "begin mutate failed")
  | failed {statement : Statement} (built : mutateStatement queue mutations ids = .ok statement) :
      MutateRun queue mutations ids [⟨.begin, true⟩, ⟨.query statement, none⟩, ⟨.leave, ()⟩]
        (Action.failed "mutate messages failed")
  | dropped {statement : Statement} {result : ResultSet} (built : mutateStatement queue mutations ids = .ok statement) :
      MutateRun queue mutations ids [⟨.begin, true⟩, ⟨.query statement, some result⟩, ⟨.commit, false⟩]
        (Action.failed "commit mutate failed")
  | committed {statement : Statement} {result : ResultSet}
      (built : mutateStatement queue mutations ids = .ok statement) :
      MutateRun queue mutations ids [⟨.begin, true⟩, ⟨.query statement, some result⟩, ⟨.commit, true⟩]
        ((result.rows.mapM Action.readMutated).map fun written => Action.matchMutated written ids)

namespace Action

variable {queue : Queue} {mutations : List Mutation} {ids : List MessageId} {exchanges : Exchanges}
variable {answer : Except Error (List MutationOutcome)}

theorem mutate_ends (ends : (mutate queue mutations ids).Ends exchanges answer) :
    MutateRun queue mutations ids exchanges answer := by
  unfold mutate at ends
  cases valid : Mutation.validateAll mutations with
  | error failure =>
    rw [valid] at ends
    obtain ⟨rfl, rfl⟩ := ends
    exact .rejected (.inl valid)
  | ok _ =>
    rw [valid] at ends
    dsimp only at ends
    split at ends
    · rename_i empty
      obtain ⟨rfl, rfl⟩ := ends
      exact .nothing (List.isEmpty_iff.mp empty)
    · cases built : mutateStatement queue mutations ids with
      | error failure =>
        rw [built] at ends
        obtain ⟨rfl, rfl⟩ := ends
        exact .rejected (.inr built)
      | ok statement =>
        rw [built] at ends
        dsimp only at ends
        rw [inTransaction_eq] at ends
        obtain ⟨changed, ran, rfl⟩ := Program.ends_bind_pure.mp ends
        rcases enclosed_ends ran with ⟨rfl, rfl⟩ | ⟨within, outcome, ending, rfl, executed, closed⟩
        · exact .refused
        · obtain ⟨found, rfl, rfl⟩ := execute_ends executed
          cases found with
          | none =>
            obtain ⟨⟨_, rfl⟩, rfl⟩ := closed
            exact .failed built
          | some result =>
            -- The commit may fail although the statement was carried out.
            obtain ⟨committed, rfl, rfl⟩ := closed
            cases committed with
            | false => exact .dropped built
            | true => exact .committed built

/-- The change of a mutation is committed before its rows are read. What fails earlier leaves nothing; a row that
cannot be read is reported as an error of a change that stays. Without an error the rows account for every message in
the order of the request. -/
theorem mutate_commits_before_reading (ends : (mutate queue mutations ids).Ends exchanges answer) :
    (∀ failure, answer = .error failure →
      ((Ledger.empty.after exchanges).durable = [] ∧ ⟨.commit, true⟩ ∉ exchanges) ∨
      ∃ statement result, mutateStatement queue mutations ids = .ok statement ∧
        exchanges = [⟨.begin, true⟩, ⟨.query statement, some result⟩, ⟨.commit, true⟩] ∧
        (Ledger.empty.after exchanges).durable = [⟨statement, result⟩] ∧
        (∃ row ∈ result.rows, ∀ id scheduledAt remaining, ¬ Tells row id scheduledAt remaining) ∧
        ∃ column ∈ mutatedColumns, failure = .persistence (.unreadable column)) ∧
    ∀ outcomes, answer = .ok outcomes →
      (ids = [] ∧ exchanges = [] ∧ outcomes = []) ∨
      ∃ statement result, mutateStatement queue mutations ids = .ok statement ∧
        exchanges = [⟨.begin, true⟩, ⟨.query statement, some result⟩, ⟨.commit, true⟩] ∧
        (Ledger.empty.after exchanges).durable = [⟨statement, result⟩] ∧
        List.Forall₂ (Became result.rows) ids outcomes := by
  cases mutate_ends ends with
  | rejected cause => exact ⟨fun _ _ => .inl ⟨rfl, List.not_mem_nil⟩, nofun⟩
  | nothing empty => exact ⟨nofun, fun _ same => .inl ⟨empty, rfl, (Except.ok.inj same).symm⟩⟩
  | refused => exact ⟨fun _ _ => .inl ⟨rfl, nofun⟩, nofun⟩
  | failed built => exact ⟨fun _ _ => .inl ⟨rfl, nofun⟩, nofun⟩
  | dropped built => exact ⟨fun _ _ => .inl ⟨rfl, nofun⟩, nofun⟩
  | @committed statement result built =>
    cases read : result.rows.mapM readMutated with
    | error failure =>
      refine ⟨fun _ same => .inr ⟨statement, result, built, rfl, rfl, ?_⟩, nofun⟩
      cases same
      exact untold_of_read read
    | ok written =>
      refine ⟨nofun, fun _ same => .inr ⟨statement, result, built, rfl, rfl, ?_⟩⟩
      cases same
      exact matchMutated_became read ids

end Action

def tickets : Queue := .named ⟨"tickets", by decide +kernel⟩

/-- Sets the attempts of two messages. -/
def ticketsMutation : Action (Except Error (List MutationOutcome)) :=
  Action.mutate tickets [.setAttempts 3] [⟨1, 1⟩, ⟨2, 1⟩]

/-- What came of the first one, its attempts in a given cell. -/
def firstTicket (attempts : Cell) : Row :=
  [("id", .value (.bigInt 1)), ("shard", .value (.int 1)), ("scheduled_at", .time 1000),
    ("remaining_attempts", attempts)]

def oneTicket : Connection := { Connection.fresh with replies := [some ⟨[firstTicket (.value (.int 3))], 1⟩] }

theorem tickets_accounted :
    ∃ outcomes, (ticketsMutation.run Connection.answer oneTicket).1 = .ok outcomes ∧
      ∃ statement result, mutateStatement tickets [.setAttempts 3] [⟨1, 1⟩, ⟨2, 1⟩] = .ok statement ∧
        (Ledger.empty.after (ticketsMutation.told Connection.answer oneTicket)).durable = [⟨statement, result⟩] ∧
        List.Forall₂ (Became result.rows) [⟨1, 1⟩, ⟨2, 1⟩] outcomes := by
  have done : (ticketsMutation.run Connection.answer oneTicket).1.isOk = true := by decide +kernel
  have ends := ticketsMutation.told_ends Connection.answer oneTicket
  cases answer : (ticketsMutation.run Connection.answer oneTicket).1 with
  | error failure => rw [answer] at done; cases done
  | ok outcomes =>
    rcases (Action.mutate_commits_before_reading ends).2 outcomes answer with ⟨impossible, _⟩ | found
    · cases impossible
    · obtain ⟨statement, result, built, _, kept, accounted⟩ := found
      exact ⟨outcomes, rfl, statement, result, built, kept, accounted⟩

/-- The change is committed, and then its row cannot be read. -/
theorem unreadable_ticket_stays :
    let narrow : Connection := { Connection.fresh with replies := [some ⟨[firstTicket (.value (.smallInt 3))], 1⟩] }
    (Connection.perform ticketsMutation narrow).1.isOk = false ∧
      (Ledger.empty.after (ticketsMutation.told Connection.answer narrow)).durable.length = 1 := by
  decide +kernel

end LeaseQueue.Sql
