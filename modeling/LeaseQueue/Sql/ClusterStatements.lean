import LeaseQueue.Sql.Statement

/-!
The tables of a cluster and the statements about them. The node table has one row; the shard table has one row for
each shard and refuses owners that are neither stable nor migrating.
-/
namespace LeaseQueue.Sql

def nodeTable : String := "q__node"

def shardTable : String := "q__shard"

/-- The status of the only row of the node table. -/
def activeStatus : Param := .text "active"

/-- The columns of the shard table that hold owners. -/
inductive OwnerColumn
  | producer
  | consumer
  | nextConsumer
deriving DecidableEq, Repr

def OwnerColumn.text : OwnerColumn → String
  | producer => "producer_node"
  | consumer => "consumer_node"
  | nextConsumer => "next_consumer_node"

/-- A test in the check of the shard table. -/
inductive OwnerTest
  | present (column : OwnerColumn)
  | absent (column : OwnerColumn)
  | same (first second : OwnerColumn)
deriving DecidableEq, Repr

def OwnerTest.text : OwnerTest → String
  | present column => s!"{column.text} IS NOT NULL"
  | absent column => s!"{column.text} IS NULL"
  | same first second => s!"{first.text} = {second.text}"

/-- A row passes one of these forms, all tests of it. That the owner is present keeps a row without any consumer from
passing as unknown. -/
structure OwnerForm where
  owner : OwnerTest
  agreement : OwnerTest
  exclusion : OwnerTest
deriving DecidableEq, Repr

/-- Producer and consumer are one node, and nobody is next. -/
def stableForm : OwnerForm := ⟨.present .consumer, .same .producer .consumer, .absent .nextConsumer⟩

/-- Producer and next consumer are one node, and nobody consumes. -/
def migratingForm : OwnerForm := ⟨.present .nextConsumer, .same .producer .nextConsumer, .absent .consumer⟩

def OwnerForm.tests (form : OwnerForm) : List OwnerTest := [form.owner, form.agreement, form.exclusion]

def OwnerForm.text (form : OwnerForm) : String :=
  s!"({form.owner.text} AND {form.agreement.text}\n                AND {form.exclusion.text})"

def createNodeTable : String :=
  s!"\n    CREATE TABLE IF NOT EXISTS {nodeTable} (\n" ++
  "        status             VARCHAR(100) NOT NULL PRIMARY KEY,\n" ++
  "        server_id          VARCHAR(100) NOT NULL,\n" ++
  "        created_at         TIMESTAMPTZ  NOT NULL DEFAULT current_timestamp,\n" ++
  "        identifiers_bucket INT\n" ++
  "    )\n"

def createShardTable : String :=
  s!"\n    CREATE TABLE IF NOT EXISTS {shardTable} (\n" ++
  "        shard              INT          NOT NULL PRIMARY KEY,\n" ++
  "        producer_node      VARCHAR(100) NOT NULL,\n" ++
  "        consumer_node      VARCHAR(100),\n" ++
  "        next_consumer_node VARCHAR(100),\n" ++
  "        CHECK (\n" ++
  s!"            {stableForm.text} OR\n" ++
  s!"            {migratingForm.text}\n" ++
  "        )\n" ++
  "    )\n"

def createTableStatements : List Statement := [⟨sql createNodeTable, []⟩, ⟨sql createShardTable, []⟩]

/-- Adds the node's row unless there is one. -/
def insertNodeStatement (serverId : String) : Statement :=
  ⟨sql "INSERT INTO " ++ name nodeTable ++ sql " (status, server_id) VALUES (" ++ slot 1 ++ sql ", " ++ slot 2 ++
    sql ") ON CONFLICT (status) DO NOTHING", [activeStatus, .serverId serverId]⟩

def readNodeStatement : Statement :=
  ⟨sql "SELECT server_id, created_at, identifiers_bucket FROM " ++ name nodeTable ++ sql " WHERE status = " ++ slot 1,
    [activeStatus]⟩

def setBucketStatement (bucket : Option Int) : Statement :=
  ⟨sql "UPDATE " ++ name nodeTable ++ sql " SET identifiers_bucket = " ++ slot 1 ++ sql " WHERE status = " ++ slot 2,
    [bucket.elim .null .int, activeStatus]⟩

/-- Adds rows for some shards, each with its owner, where there are none. -/
def insertShardsStatement (shards : List Int) (owners : List String) : Statement :=
  ⟨sql "INSERT INTO " ++ name shardTable ++ sql " (shard, producer_node, consumer_node) " ++
    sql "SELECT shard, owner, owner FROM UNNEST(" ++ slot 1 ++ sql "::int[], " ++ slot 2 ++
    sql "::varchar[]) AS t(shard, owner) ON CONFLICT (shard) DO NOTHING", [.ints shards, .texts owners]⟩

def readShardsStatement : Statement :=
  ⟨sql "SELECT shard, producer_node, consumer_node, next_consumer_node FROM " ++ name shardTable ++
    sql " ORDER BY shard", []⟩

end LeaseQueue.Sql
