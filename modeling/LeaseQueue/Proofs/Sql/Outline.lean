import LeaseQueue.Proofs.Sql.Vocabulary

/-!
No data in the text of a statement. Operations that are alike, whatever they carry, send the same texts; and what is
written into a text besides fixed phrases and the SQL of native filters are the names of the schema, of queues and of
their fields.
-/
namespace LeaseQueue

/-! Operations that are alike. -/

namespace Condition

mutual

/-- The shape of a condition with its columns, operators and SQL; its literals are dropped. -/
def outline : Condition → Condition
  | compare field comparison _ => compare field comparison (.boolean false)
  | like field _ => like field ""
  | between field _ _ _ => between field .boolean false false
  | among field _ => among field ⟨.boolean, []⟩
  | isNull field => isNull field
  | isNotNull field => isNotNull field
  | all children => all (outlines children)
  | any children => any (outlines children)
  | not child => not child.outline
  | native filter => native filter

def outlines : List Condition → List Condition
  | [] => []
  | child :: rest => child.outline :: outlines rest

end

end Condition

/-- What a mutation does, without its amount. -/
def Mutation.outline : Mutation → Mutation
  | addAttempts _ => addAttempts 0
  | setAttempts _ => setAttempts 0
  | addSchedule _ => addSchedule 0
  | setSchedule _ => setSchedule 0

namespace Sql

/-- The operations agree but for their data. -/
def Operation.Alike : Operation → Operation → Prop
  | sendBatched _ messages _, sendBatched _ others _ =>
    messages.map (fun message => message.metadata.keys) = others.map fun message => message.metadata.keys
  | receive options, receive others => options.filter.map Condition.outline = others.filter.map Condition.outline ∧
    options.order = others.order ∧ options.shards.isSome = others.shards.isSome
  | delete _, delete _ | isEmpty, isEmpty | isDeadOrEmpty, isDeadOrEmpty | messageAge, messageAge
  | sweep _, sweep _ => True
  | mutate mutations _, mutate others _ => mutations.map Mutation.outline = others.map Mutation.outline
  | count filter, count other => filter.map Condition.outline = other.map Condition.outline
  | distinctValues column _ options, distinctValues other _ others => column = other ∧
    options.filter.map Condition.outline = others.filter.map Condition.outline ∧ options.order = others.order ∧
    (options.sample = .auto ↔ others.sample = .auto)
  | _, _ => False

/-- The part that a sentence has in its operation. -/
inductive Part
  | insert (position : Nat)
  | lease
  | delete
  | mutate
  | count
  | isEmpty
  | isDeadOrEmpty
  | messageAge
  | pages
  | distinct
  | askLock (function : String)
  | sweepBatch

def Sentence.part : Sentence → Part
  | insert position _ _ => .insert position
  | lease _ => .lease
  | delete _ => .delete
  | mutate _ _ => .mutate
  | count _ => .count
  | isEmpty => .isEmpty
  | isDeadOrEmpty => .isDeadOrEmpty
  | messageAge => .messageAge
  | pages => .pages
  | distinct _ _ _ _ => .distinct
  | askLock function _ => .askLock function
  | sweepBatch _ => .sweepBatch

/-- The operation may send the statement for a part of its own. -/
def Operation.SendsFor (engine : SweepEngine) (queue : Queue) (operation : Operation) (part : Part)
    (statement : Statement) : Prop :=
  ∃ sentence, operation.Says engine queue sentence ∧ sentence.part = part ∧ sentence.Is queue statement

/-! Texts are told from outlines. -/

end Sql

namespace Condition

mutual

theorem expr_outline : ∀ (condition : Condition) (next : Nat), condition.outline.expr next = condition.expr next
  | .compare .., _ | .like .., _ | .between .., _ | .among .., _ | .isNull _, _ | .isNotNull _, _ | .native _, _ => rfl
  | .all children, next => by rw [outline, expr, expr, groups_outlines children next]
  | .any children, next => by rw [outline, expr, expr, groups_outlines children next]
  | .not child, next => by rw [outline, expr, expr, expr_outline child next]

theorem groups_outlines : ∀ (children : List Condition) (next : Nat),
    groups next (outlines children) = groups next children
  | [], _ => rfl
  | child :: rest, next => by simp only [outlines, groups, expr_outline child next, groups_outlines rest]

end

theorem expr_alike {condition other : Condition} (alike : condition.outline = other.outline) (next : Nat) :
    condition.expr next = other.expr next := by
  rw [← expr_outline condition, alike, expr_outline]

end Condition

namespace Sql

section

variable {queue : Queue}

theorem insertStatement_alike {shard shard' : Int} {message other : NewMessage} {delay delay' : Param}
    (alike : message.metadata.keys = other.metadata.keys) :
    (insertStatement queue shard message delay).text = (insertStatement queue shard' other delay').text := by
  have columns (message : NewMessage) : message.metadata.toList.map (·.1) = message.metadata.keys :=
    Std.ExtTreeMap.map_fst_toList_eq_keys
  have count (message : NewMessage) : message.metadata.toList.length = message.metadata.keys.length := by
    rw [← columns, List.length_map]
  simp only [insertStatement, columns, count, alike]

theorem whereClause_alike {filter other : Option Condition} {index : Nat}
    (alike : filter.map Condition.outline = other.map Condition.outline) :
    (whereClause filter index).1 = (whereClause other index).1 := by
  cases filter with
  | none => cases other with
    | none => rfl
    | some condition => cases alike
  | some condition => cases other with
    | none => cases alike
    | some other =>
      show sql " where " ++ (condition.expr _).1.fragment = sql " where " ++ (other.expr _).1.fragment
      rw [Condition.expr_alike (Option.some.inj alike)]

theorem leaseCondition_alike {options others : ReceiveOptions}
    (filters : options.filter.map Condition.outline = others.filter.map Condition.outline)
    (shards : options.shards.isSome = others.shards.isSome) :
    (leaseCondition options).1 = (leaseCondition others).1 := by
  have sharded : shardTerms options = shardTerms others := by
    unfold shardTerms
    cases given : options.shards <;> cases given' : others.shards <;> simp_all
  have filtered (next : Nat) : filterTerms options next = filterTerms others next := by
    unfold filterTerms
    cases given : options.filter <;> cases given' : others.filter <;> rw [given, given'] at filters <;> simp_all
    exact Condition.expr_alike filters _ ▸ rfl
  rw [leaseCondition_eq, leaseCondition_eq, sharded, filtered]

theorem leaseStatement_alike {options others : ReceiveOptions} {visibility visibility' : Param}
    (filters : options.filter.map Condition.outline = others.filter.map Condition.outline)
    (orders : options.order = others.order) (shards : options.shards.isSome = others.shards.isSome) :
    (leaseStatement queue options visibility).text = (leaseStatement queue others visibility').text := by
  have condition := leaseCondition_alike filters shards
  unfold leaseStatement
  generalize leaseCondition options = first at condition ⊢
  generalize leaseCondition others = second at condition ⊢
  obtain ⟨expr, _⟩ := first
  obtain ⟨_, _⟩ := second
  cases condition
  rw [orders]

theorem assignment_alike {mutation other : Mutation} {index : Nat} {written written' : Fragment × Param}
    (alike : mutation.outline = other.outline) (done : assignment mutation index = .ok written)
    (done' : assignment other index = .ok written') : written.1 = written'.1 := by
  cases mutation <;> cases other <;> try cases alike
  case addAttempts.addAttempts | setAttempts.setAttempts =>
    cases done
    cases done'
    rfl
  case addSchedule.addSchedule | setSchedule.setSchedule =>
    obtain rfl := checkMillis_with done
    obtain rfl := checkMillis_with done'
    rfl

theorem assignments_alike {mutations others : List Mutation} {index : Nat} {written written' : List (Fragment × Param)}
    (alike : mutations.map Mutation.outline = others.map Mutation.outline)
    (done : assignments index mutations = .ok written) (done' : assignments index others = .ok written') :
    written.map (·.1) = written'.map (·.1) := by
  induction mutations generalizing others index written written' with
  | nil =>
    obtain rfl := List.map_eq_nil_iff.mp alike.symm
    cases done
    cases done'
    rfl
  | cons mutation rest ih =>
    cases others with
    | nil => cases alike
    | cons other rest' =>
      obtain ⟨same, alike⟩ := List.cons_eq_cons.mp alike
      obtain ⟨found, later, rfl, first, behind⟩ := assignments_cons done
      obtain ⟨found', later', rfl, first', behind'⟩ := assignments_cons done'
      rw [List.map_cons, List.map_cons, assignment_alike same first first', ih alike behind behind']

theorem mutateStatement_alike {mutations others : List Mutation} {ids ids' : List MessageId} {one other : Statement}
    (alike : mutations.map Mutation.outline = others.map Mutation.outline)
    (stated : mutateStatement queue mutations ids = .ok one) (stated' : mutateStatement queue others ids' = .ok other) :
    one.text = other.text := by
  obtain ⟨written, done, text, _⟩ := mutateStatement_ok stated
  obtain ⟨written', done', text', _⟩ := mutateStatement_ok stated'
  rw [text, text', assignments_alike alike done done']

theorem countStatement_alike {filter other : Option Condition}
    (alike : filter.map Condition.outline = other.map Condition.outline) :
    (countStatement queue filter).text = (countStatement queue other).text :=
  congrArg (_ ++ ·) (whereClause_alike alike)

theorem distinctStatement_alike {column : MetaColumn} {limit limit' : Nat} {options others : DistinctOptions}
    {share share' : Single} (filters : options.filter.map Condition.outline = others.filter.map Condition.outline)
    (orders : options.order = others.order) :
    (distinctStatement queue column limit options share).text =
      (distinctStatement queue column limit' others share').text := by
  have clause : (whereClause options.filter 3).1 = (whereClause others.filter 3).1 := whereClause_alike filters
  unfold distinctStatement
  generalize whereClause options.filter 3 = first at clause ⊢
  generalize whereClause others.filter 3 = second at clause ⊢
  obtain ⟨_, _⟩ := first
  obtain ⟨_, _⟩ := second
  cases clause
  rw [orders]

end

/-- The statements of one part of operations that are alike have the same text. -/
theorem Operation.SendsFor.alike {engine others : SweepEngine} {queue : Queue} {first second : Operation} {part : Part}
    {one other : Statement} (alike : first.Alike second) (sends : first.SendsFor engine queue part one)
    (sends' : second.SendsFor others queue part other) : one.text = other.text := by
  obtain ⟨sentence, spoken, rfl, stated⟩ := sends
  obtain ⟨sentence', spoken', same, stated'⟩ := sends'
  cases sentence <;> cases sentence' <;> try cases same
  case insert.insert position shard message shard' other =>
    obtain ⟨delay, _, rfl⟩ := stated
    obtain ⟨delay', _, rfl⟩ := stated'
    cases spoken with
    | insert placed _ =>
      cases spoken' with
      | insert placed' _ =>
        have keys := congrArg (·[position]?) (show List.map _ _ = List.map _ _ from alike)
        rw [List.getElem?_map, List.getElem?_map, placed, placed'] at keys
        exact insertStatement_alike (Option.some.inj keys)
  case lease.lease options others =>
    obtain ⟨visibility, _, rfl⟩ := stated
    obtain ⟨visibility', _, rfl⟩ := stated'
    cases spoken
    cases spoken'
    obtain ⟨filters, orders, shards⟩ := alike
    exact leaseStatement_alike filters orders shards
  case mutate.mutate mutations ids others ids' =>
    cases spoken
    cases spoken'
    exact mutateStatement_alike alike stated stated'
  case count.count filter other =>
    obtain rfl := stated
    obtain rfl := stated'
    cases spoken
    cases spoken'
    exact countStatement_alike alike
  case distinct.distinct column limit options share column' limit' others share' =>
    obtain rfl := stated
    obtain rfl := stated'
    cases spoken with
    | distinct found _ =>
      cases spoken' with
      | distinct found' _ =>
        obtain ⟨rfl, filters, orders, _⟩ := alike
        cases found.symm.trans found'
        exact distinctStatement_alike filters orders
  case delete.delete | isEmpty.isEmpty | isDeadOrEmpty.isDeadOrEmpty | messageAge.messageAge | pages.pages |
      askLock.askLock | sweepBatch.sweepBatch =>
    obtain rfl := stated
    obtain rfl := stated'
    rfl

/-- What is sent has a part, and alike operations send the same text for it, whatever they carry and whoever answers.
The text is made of placeholders, fixed phrases, names that are fixed or accepted, and the SQL of native filters. -/
theorem Operation.no_data_in_text {engine others : SweepEngine} {drawn drawn' : Bool} {queue : Queue}
    {first second : Operation} {one other : Statement} (alike : first.Alike second)
    (sends : first.Sends engine drawn queue one) (sends' : second.Sends others drawn' queue other) :
    (∃ part, first.SendsFor engine queue part one) ∧ (∃ part, second.SendsFor others queue part other) ∧
      (∀ part, first.SendsFor engine queue part one → second.SendsFor others queue part other →
        one.text = other.text) ∧
      ∀ piece ∈ one.text, piece.Vetted first.natives := by
  obtain ⟨sentence, spoken, stated⟩ := sends.maySend
  obtain ⟨sentence', spoken', stated'⟩ := sends'.maySend
  exact ⟨⟨_, sentence, spoken, rfl, stated⟩, ⟨_, sentence', spoken', rfl, stated'⟩, fun part => SendsFor.alike alike,
    spoken.vetted stated⟩

def sketches : Queue := .named ⟨"sketches", by decide +kernel⟩

/-- Counts the sketches of one shade. -/
def ofShade (shade : String) : Operation := .count (some (.compare ⟨"shade", by decide +kernel⟩ .eq (.text shade)))

theorem ofShade_sends (shade : String) : (ofShade shade).Sends ⟨.default, ""⟩ false sketches
    (countStatement sketches (some (.compare ⟨"shade", by decide +kernel⟩ .eq (.text shade)))) :=
  ⟨[], .inl ⟨rfl, rfl⟩⟩

/-- SQL in a literal stays a literal. -/
theorem quote_counts_alike : (ofShade "grey").Alike (ofShade "'; drop table q_sketches; --") ∧
    ∃ one other, (ofShade "grey").Sends ⟨.default, ""⟩ false sketches one ∧
      (ofShade "'; drop table q_sketches; --").Sends ⟨.default, ""⟩ false sketches other ∧ one.text = other.text ∧
      ∀ piece ∈ other.text, piece.Vetted [] := by
  have alike : (ofShade "grey").Alike (ofShade "'; drop table q_sketches; --") := rfl
  obtain ⟨_, _, same, vetted⟩ := Operation.no_data_in_text alike (ofShade_sends _) (ofShade_sends _)
  have text := same .count ⟨_, .count, rfl, rfl⟩ ⟨_, .count, rfl, rfl⟩
  exact ⟨alike, _, _, ofShade_sends _, ofShade_sends _, text, text ▸ vetted⟩

end Sql

end LeaseQueue
