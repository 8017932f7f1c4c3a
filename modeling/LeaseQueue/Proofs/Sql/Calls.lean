import LeaseQueue.Proofs.Sql.Batches
import LeaseQueue.Proofs.Sql.Sending
import LeaseQueue.Proofs.Sweep.Composition
import LeaseQueue.Sql.Store

/-!
The statements that operations on a queue send. Whatever the database answers, an operation says nothing but what is
listed here for it, and each sentence has one statement.
-/
namespace LeaseQueue.Sql

/-- The action may send the statement: it does so after some answers. -/
def Action.Sends {α : Type} (action : Action α) (statement : Statement) : Prop :=
  ∃ exchanges, action.Waits exchanges (.query statement)

/-- What a queue store can be asked. -/
inductive Operation
  | sendBatched (shard : Int) (messages : List NewMessage) (options : SendOptions)
  | receive (options : ReceiveOptions)
  | delete (ids : List MessageId)
  | mutate (mutations : List Mutation) (ids : List MessageId)
  | count (filter : Option Condition)
  | isEmpty
  | isDeadOrEmpty
  | messageAge
  | distinctValues (column : String) (limit : Nat) (options : DistinctOptions)
  | sweep (hint : Nat)

/-- The operation may send the statement; `drawn` says whether a receive sweeps. -/
def Operation.Sends (engine : SweepEngine) (drawn : Bool) (queue : Queue) (operation : Operation)
    (statement : Statement) : Prop :=
  let store := Action.store engine drawn
  match operation with
  | sendBatched shard messages options => (store.sendBatched queue shard messages options).Sends statement
  | receive options => (store.receive queue options).Sends statement
  | delete ids => (store.delete queue ids).Sends statement
  | mutate mutations ids => (store.mutate queue mutations ids).Sends statement
  | count filter => (store.count queue filter).Sends statement
  | isEmpty => (store.isEmpty queue).Sends statement
  | isDeadOrEmpty => (store.isDeadOrEmpty queue).Sends statement
  | messageAge => (store.messageAge queue).Sends statement
  | distinctValues column limit options => (store.distinctValues queue column limit options).Sends statement
  | sweep hint => (store.sweep queue hint).Sends statement

/-- The filter that an operation is given. -/
def Operation.filter? : Operation → Option Condition
  | receive options => options.filter
  | count filter => filter
  | distinctValues _ _ options => options.filter
  | _ => none

/-- What a statement says, with its data. -/
inductive Sentence
  /-- Inserts the message at a position of those sent. -/
  | insert (position : Nat) (shard : Int) (message : NewMessage)
  | lease (options : ReceiveOptions)
  | delete (ids : List MessageId)
  | mutate (mutations : List Mutation) (ids : List MessageId)
  | count (filter : Option Condition)
  | isEmpty
  | isDeadOrEmpty
  | messageAge
  | pages
  | distinct (column : MetaColumn) (limit : Nat) (options : DistinctOptions) (share : Single)
  | askLock (function : String) (lock : Int)
  | sweepBatch (rows : Nat)

/-- The statement of a sentence. -/
def Sentence.Is (queue : Queue) : Sentence → Statement → Prop
  | insert _ shard message, statement =>
    ∃ delay, checkMillis (queue.delayOf message) = .ok delay ∧ statement = insertStatement queue shard message delay
  | lease options, statement =>
    ∃ visibility, checkMillis (queue.visibilityOf options) = .ok visibility ∧
      statement = leaseStatement queue options visibility
  | delete ids, statement => statement = deleteStatement queue ids
  | mutate mutations ids, statement => mutateStatement queue mutations ids = .ok statement
  | count filter, statement => statement = countStatement queue filter
  | isEmpty, statement => statement = isEmptyStatement queue
  | isDeadOrEmpty, statement => statement = isDeadOrEmptyStatement queue
  | messageAge, statement => statement = messageAgeStatement queue
  | pages, statement => statement = pagesStatement queue
  | distinct column limit options share, statement => statement = distinctStatement queue column limit options share
  | askLock function lock, statement => statement = lockStatement function lock
  | sweepBatch rows, statement => statement = sweepStatement queue.name rows

/-- The size of a sample: the one asked for, or the one for a number of pages. -/
def Sampled : Sample → Single → Prop
  | .percent given, share => share = given
  | .auto, share => ∃ pages, share = samplePercentForPages pages

/-- The sentences of an operation. A message and a column are checked against the queue before they are spoken of. -/
inductive Operation.Says (engine : SweepEngine) (queue : Queue) : Operation → Sentence → Prop
  | insert {shard : Int} {messages : List NewMessage} {options : SendOptions} {position : Nat} {message : NewMessage}
      (placed : messages[position]? = some message) (accepted : queue.checkMessage message = .ok ()) :
      Says engine queue (.sendBatched shard messages options) (.insert position shard message)
  | lease {options : ReceiveOptions} : Says engine queue (.receive options) (.lease options)
  | askInline {options : ReceiveOptions} :
      Says engine queue (.receive options) (.askLock "pg_try_advisory_xact_lock" (engine.lockId queue.name))
  | sweepInline {options : ReceiveOptions} :
      Says engine queue (.receive options) (.sweepBatch (max options.limit engine.settings.maxRows))
  | delete {ids : List MessageId} : Says engine queue (.delete ids) (.delete ids)
  | mutate {mutations : List Mutation} {ids : List MessageId} :
      Says engine queue (.mutate mutations ids) (.mutate mutations ids)
  | count {filter : Option Condition} : Says engine queue (.count filter) (.count filter)
  | isEmpty : Says engine queue .isEmpty .isEmpty
  | isDeadOrEmpty : Says engine queue .isDeadOrEmpty .isDeadOrEmpty
  | messageAge : Says engine queue .messageAge .messageAge
  | pages {column : String} {limit : Nat} {options : DistinctOptions} (auto : options.sample = .auto) :
      Says engine queue (.distinctValues column limit options) .pages
  | distinct {column : String} {limit : Nat} {options : DistinctOptions} {declared : MetaColumn} {share : Single}
      (found : queue.requireColumn column = .ok declared) (sampled : Sampled options.sample share) :
      Says engine queue (.distinctValues column limit options) (.distinct declared limit options share)
  | lock {hint : Nat} : Says engine queue (.sweep hint) (.askLock "pg_try_advisory_lock" (engine.lockId queue.name))
  | unlock {hint : Nat} : Says engine queue (.sweep hint) (.askLock "pg_advisory_unlock" (engine.lockId queue.name))
  | sweepBatch {hint : Nat} : Says engine queue (.sweep hint) (.sweepBatch (max hint engine.settings.maxRows))

/-- The statement is one of a sentence that the operation has. -/
def Operation.MaySend (engine : SweepEngine) (queue : Queue) (operation : Operation) (statement : Statement) : Prop :=
  ∃ sentence, operation.Says engine queue sentence ∧ sentence.Is queue statement

/-! Durations that a statement takes. -/

theorem checkMillis_ok {duration : Duration} {millis : Param} (fits : checkMillis duration = .ok millis) :
    millis = .bigInt duration.millis := by
  unfold checkMillis at fits
  split at fits <;> cases fits
  rfl

theorem checkMillis_with {duration : Duration} {fragment : Fragment} {written : Fragment × Param}
    (done : (do .ok (fragment, ← checkMillis duration)) = Except.ok written) :
    written = (fragment, .bigInt duration.millis) := by
  cases fits : checkMillis duration with
  | error failure => rw [fits] at done; cases done
  | ok millis =>
    rw [fits] at done
    cases done
    rw [checkMillis_ok fits]

theorem assignments_cons {mutation : Mutation} {rest : List Mutation} {index : Nat} {written : List (Fragment × Param)}
    (done : assignments index (mutation :: rest) = .ok written) :
    ∃ first others, written = first :: others ∧ assignment mutation index = .ok first ∧
      assignments (index + 1) rest = .ok others := by
  unfold assignments at done
  cases first : assignment mutation index with
  | error failure => rw [first] at done; cases done
  | ok found =>
    cases others : assignments (index + 1) rest with
    | error failure => rw [first, others] at done; cases done
    | ok later =>
      rw [first, others] at done
      cases done
      exact ⟨found, later, rfl, rfl, rfl⟩

theorem mutateStatement_ok {queue : Queue} {mutations : List Mutation} {ids : List MessageId} {statement : Statement}
    (stated : mutateStatement queue mutations ids = .ok statement) :
    ∃ written, assignments 3 mutations = .ok written ∧
      statement.text = sql "update " ++ name queue.table ++ sql " set " ++ Fragment.join ", " (written.map (·.1)) ++
        sql " where " ++ addressed ++ sql " returning " ++ names mutatedColumns ∧
      statement.params = addressParams ids ++ written.map (·.2) := by
  unfold mutateStatement at stated
  cases done : assignments 3 mutations with
  | error failure => rw [done] at stated; cases stated
  | ok written =>
    rw [done] at stated
    cases stated
    exact ⟨written, rfl, rfl, rfl⟩

/-! What an action asks the database is told from its parts. -/

/-- A request that sends no other statements than these. -/
def Request.Asks (good : Statement → Prop) : Request → Prop
  | .query statement => good statement
  | _ => True

/-- An action that sends no other statements than these. -/
def Speaks (good : Statement → Prop) (α : Type) (action : Action α) : Prop := action.Within (Request.Asks good)

namespace Speaks

variable {good : Statement → Prop} {α β : Type} {action : Action α} {next : α → Action β}

theorem pure (result : α) : Speaks good α (Pure.pure result) := trivial

/-- Asking for something else than a statement. -/
theorem quiet {request : Request} (silent : request.Asks good) : Speaks good _ (.ask request .done) :=
  ⟨silent, fun _ => trivial⟩

theorem bind (first : Speaks good α action) (rest : ∀ value, Speaks good β (next value)) :
    Speaks good β (action >>= next) := Program.within_bind first rest

theorem composable : Composable (Speaks good) where
  pure := pure
  bind := bind

theorem sends (speaks : Speaks good α action) {statement : Statement} (sent : action.Sends statement) :
    good statement := by
  obtain ⟨exchanges, waits⟩ := sent
  exact (speaks.waits waits).2

theorem execute {statement : Statement} (known : good statement) (context : String) :
    Speaks good _ (Action.execute context statement) := by
  refine Action.execute_within ?_ context
  exact known

theorem fetchOne {statement : Statement} (known : good statement) (context : String) :
    Speaks good _ (Action.fetchOne context statement) := (execute known context).bind fun _ => pure _

theorem fetchValue {statement : Statement} (known : good statement) (context : String) (read : Cell → Option α) :
    Speaks good _ (Action.fetchValue context statement read) := (fetchOne known context).bind fun _ => pure _

theorem enclosed {undo : Request} (silent : undo.Asks good) (beginning committing : String)
    {body : Action (Except Error α)} (speaks : Speaks good _ body) :
    Speaks good _ (Action.enclosed undo beginning committing body) := by
  refine bind (quiet trivial : Speaks good _ Action.begin) fun begun => ?_
  split
  · refine speaks.bind fun outcome => ?_
    cases outcome with
    | error failure => exact ⟨silent, fun _ => trivial⟩
    | ok result => exact ⟨trivial, fun committed => by cases committed <;> trivial⟩
  · exact pure _

theorem inTransaction (beginning committing : String) {body : Action (Except Error α)} (speaks : Speaks good _ body) :
    Speaks good _ (Action.inTransaction beginning committing body) :=
  enclosed (show Request.Asks good .leave from trivial) beginning committing speaks

theorem inSavepoint (beginning committing : String) {body : Action (Except Error α)} (speaks : Speaks good _ body) :
    Speaks good _ (Action.inSavepoint beginning committing body) :=
  enclosed (show Request.Asks good .rollback from trivial) beginning committing speaks

theorem guarded (guard : Guard) (speaks : Speaks good α action) : Speaks good α (Action.guarded guard action) := by
  refine bind (quiet trivial : Speaks good _ (Action.arm guard)) fun _ => speaks.bind fun result => ?_
  exact ⟨trivial, fun _ => trivial⟩

end Speaks

/-! Sweeps. -/

section

variable {good : Statement → Prop} {lock : Int} {queue : QueueName} {rows : Nat}

theorem Speaks.deleteDead (known : good (sweepStatement queue rows)) :
    Speaks good _ (Action.deleteDead queue rows) :=
  ((Speaks.execute known _).inSavepoint _ _).bind fun _ => .pure _

theorem Speaks.askLock {function context : String} (known : good (lockStatement function lock)) :
    Speaks good _ (Action.askLock function context lock) := .fetchValue known _ _

theorem inline_speaks (asks : good (lockStatement "pg_try_advisory_xact_lock" lock))
    (sweeps : good (sweepStatement queue rows)) : TargetHas (Speaks good) Action.inline lock queue rows where
  takeLocal _ := .quiet trivial
  freeLocal _ := .quiet trivial
  tryAdvisory := (Speaks.askLock asks).inSavepoint _ _
  unlock := .pure _
  abandon := .pure _
  guarded guard action speaks := by
    cases guard with
    | freeLocal key => exact speaks.guarded _
    | abandon lock => exact speaks
  deleteDead := .deleteDead sweeps

theorem standalone_speaks (asks : good (lockStatement "pg_try_advisory_lock" lock))
    (releases : good (lockStatement "pg_advisory_unlock" lock)) (sweeps : good (sweepStatement queue rows)) :
    TargetHas (Speaks good) Action.standalone lock queue rows where
  takeLocal _ := .quiet trivial
  freeLocal _ := .quiet trivial
  tryAdvisory := .askLock asks
  unlock := .askLock releases
  abandon := .quiet trivial
  guarded guard _ speaks := speaks.guarded guard
  deleteDead := .deleteDead sweeps

end

/-! Operations. -/

namespace Action

variable {good : Statement → Prop} {engine : SweepEngine} {queue : Queue} {shard : Int}

/-- The statement that inserts the message is among these, should the message be accepted. -/
def Inserts (good : Statement → Prop) (queue : Queue) (shard : Int) (message : NewMessage) : Prop :=
  queue.checkMessage message = .ok () → ∀ delay, checkMillis (queue.delayOf message) = .ok delay →
    good (insertStatement queue shard message delay)

theorem insertMessages_speaks {messages : List NewMessage}
    (known : ∀ message ∈ messages, ∀ delay, checkMillis (queue.delayOf message) = .ok delay →
      good (insertStatement queue shard message delay)) :
    Speaks good _ (insertMessages queue shard messages) := by
  induction messages with
  | nil => exact .pure _
  | cons message rest ih =>
    unfold insertMessages
    cases delayed : checkMillis (queue.delayOf message) with
    | error failure => exact .pure _
    | ok delay =>
      refine (Speaks.fetchOne (known message List.mem_cons_self delay delayed) _).bind fun row => ?_
      cases row.bind fun row => row.required MessageColumn.id.text Cell.bigInt? with
      | error failure => exact .pure _
      | ok id => exact (ih fun other member => known other (List.mem_cons_of_mem _ member)).bind fun _ => .pure _

theorem writeChunk_speaks {mode : PartialInsert} {chunk : List NewMessage}
    (known : ∀ message ∈ chunk, Inserts good queue shard message) :
    Speaks good _ (writeChunk queue shard mode chunk) := by
  have inserts : Speaks good _ (insertChunk queue shard chunk) := by
    unfold insertChunk
    rcases forM_cases queue.checkMessage chunk with ⟨accepted, passed⟩ | ⟨_, _, failure, _, stopped⟩
    · rw [passed]
      exact insertMessages_speaks fun message member => known message member (accepted message member)
    · rw [stopped]
      exact .pure _
  cases mode with
  | prohibited => exact inserts
  | untilFirstFailure | asManyAsPossible => exact inserts.inSavepoint _ _

theorem sendBatched_speaks {messages : List NewMessage} {options : SendOptions}
    (known : ∀ message ∈ messages, Inserts good queue shard message) :
    Speaks good _ (sendBatched queue shard messages options) := by
  unfold sendBatched
  cases valid : options.validate with
  | error failure => exact .pure _
  | ok _ =>
    have whole := flatten_chunks (SendOptions.validate_ok valid) messages
    have writes (chunk : List NewMessage) (member : chunk ∈ chunks options.batchSize messages) :
        Speaks good _ (writeChunk queue shard options.partialInsert chunk) := by
      refine writeChunk_speaks fun message inside => known message ?_
      rw [← whole]
      exact List.mem_flatten_of_mem member inside
    dsimp only
    split
    · exact .pure _
    · refine Speaks.bind (.quiet trivial : Speaks good _ begin) fun begun => ?_
      split
      · refine Speaks.bind (placeChunks_within writes _ _) fun placement => ?_
        split
        · exact ⟨trivial, fun committed => by cases committed <;> trivial⟩
        · exact ⟨trivial, fun _ => trivial⟩
      · exact .pure _

theorem receive_speaks {drawn : Bool} {options : ReceiveOptions}
    (leases : ∀ visibility, checkMillis (queue.visibilityOf options) = .ok visibility →
      good (leaseStatement queue options visibility))
    (asks : good (lockStatement "pg_try_advisory_xact_lock" (engine.lockId queue.name)))
    (sweeps : good (sweepStatement queue.name (max options.limit engine.settings.maxRows))) :
    Speaks good _ (receive engine drawn queue options) := by
  unfold receive
  split
  · exact .pure _
  · cases spanned : checkMillis (queue.visibilityOf options) with
    | error failure => exact .pure _
    | ok visibility =>
      refine Speaks.inTransaction _ _ (Speaks.bind ?_ fun _ => ?_)
      · exact (inline_speaks asks sweeps).sweepIf Speaks.composable drawn
      · exact (Speaks.execute (leases visibility spanned) _).bind fun _ => .pure _

theorem mutate_speaks {mutations : List Mutation} {ids : List MessageId}
    (known : ∀ statement, mutateStatement queue mutations ids = .ok statement → good statement) :
    Speaks good _ (mutate queue mutations ids) := by
  unfold mutate
  cases Mutation.validateAll mutations with
  | error failure => exact .pure _
  | ok _ =>
    dsimp only
    split
    · exact .pure _
    · cases stated : mutateStatement queue mutations ids with
      | error failure => exact .pure _
      | ok statement => exact ((Speaks.execute (known statement stated) _).inTransaction _ _).bind fun _ => .pure _

theorem delete_speaks {ids : List MessageId} (known : good (deleteStatement queue ids)) :
    Speaks good _ (delete queue ids) := by
  unfold delete
  split
  · exact .pure _
  · exact (Speaks.execute known _).bind fun _ => .pure _

theorem distinctValues_speaks {column : String} {limit : Nat} {options : DistinctOptions}
    (pages : options.sample = .auto → good (pagesStatement queue))
    (reads : ∀ declared share, queue.requireColumn column = .ok declared → Sampled options.sample share →
      good (distinctStatement queue declared limit options share)) :
    Speaks good _ (distinctValues queue column limit options) := by
  unfold distinctValues
  cases found : queue.requireColumn column with
  | error failure => exact .pure _
  | ok declared =>
    have read (share : Single) (sampled : Sampled options.sample share) : Speaks good _ (do
        let found ← execute "distinct values failed" (distinctStatement queue declared limit options share)
        return found.bind fun result => result.rows.mapM (readDistinct declared.type share)) :=
      (Speaks.execute (reads declared share found sampled) _).bind fun _ => .pure _
    cases options.validate with
    | error failure => exact .pure _
    | ok _ =>
      cases require (decide (limit ≠ 0)) .distinctLimit with
      | error failure => exact .pure _
      | ok _ =>
        cases sample : options.sample with
        | percent share => exact read share (by rw [sample]; rfl)
        | auto =>
          -- Only shares that come of a number of pages go on from here.
          show Speaks good _ (Program.bind (Program.bind _ _) _)
          rw [Program.bind_assoc]
          refine Speaks.bind (Speaks.fetchValue (pages sample) _ _) fun sized => ?_
          cases sized with
          | error failure => exact .pure _
          | ok size => exact read _ (by rw [sample]; exact ⟨size, rfl⟩)

end Action

/-- Whatever an operation is answered, what it sends is the statement of a sentence that it has. -/
theorem Operation.Sends.maySend {engine : SweepEngine} {drawn : Bool} {queue : Queue} {operation : Operation}
    {statement : Statement} (sends : operation.Sends engine drawn queue statement) :
    operation.MaySend engine queue statement := by
  cases operation with
  | sendBatched shard messages options =>
    refine (Action.sendBatched_speaks fun message member accepted delay delayed => ?_).sends sends
    obtain ⟨position, placed⟩ := List.mem_iff_getElem?.mp member
    exact ⟨_, .insert placed accepted, delay, delayed, rfl⟩
  | receive options =>
    refine (Action.receive_speaks (fun visibility spanned => ?_) ?_ ?_).sends sends
    · exact ⟨_, .lease, visibility, spanned, rfl⟩
    · exact ⟨_, .askInline, rfl⟩
    · exact ⟨_, .sweepInline, rfl⟩
  | delete ids => exact (Action.delete_speaks ⟨_, .delete, rfl⟩).sends sends
  | mutate mutations ids => exact (Action.mutate_speaks fun statement stated => ⟨_, .mutate, stated⟩).sends sends
  | count filter =>
    exact ((Speaks.fetchOne ⟨_, .count, rfl⟩ _).bind fun _ => .pure _).sends sends
  | isEmpty => exact (Speaks.fetchValue ⟨_, .isEmpty, rfl⟩ _ _).sends sends
  | isDeadOrEmpty => exact (Speaks.fetchValue ⟨_, .isDeadOrEmpty, rfl⟩ _ _).sends sends
  | messageAge => exact ((Speaks.fetchOne ⟨_, .messageAge, rfl⟩ _).bind fun _ => .pure _).sends sends
  | distinctValues column limit options =>
    refine (Action.distinctValues_speaks (fun auto => ?_) fun declared share found sampled => ?_).sends sends
    · exact ⟨_, .pages auto, rfl⟩
    · exact ⟨_, .distinct found sampled, rfl⟩
  | sweep hint =>
    have target : TargetHas (Speaks (Operation.MaySend engine queue (.sweep hint))) Action.standalone
        (engine.lockId queue.name) queue.name (max hint engine.settings.maxRows) :=
      standalone_speaks ⟨_, .lock, rfl⟩ ⟨_, .unlock, rfl⟩ ⟨_, .sweepBatch, rfl⟩
    exact (target.sweep Speaks.composable).sends sends

end LeaseQueue.Sql
