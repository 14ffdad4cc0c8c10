import Mathlib.Data.List.Basic
/-!
# The simulator's data model (`simulator/generation/plan.rs`)

| here | there |
| --- | --- |
| `Interactions`, `Interaction`, `Fault` | the enums of plan.rs:107-112, :235-241, :273-277 |
| `InteractionPlan`, `InteractionStats` | plan.rs:32-35, :208-217 |
| `Assertion` | plan.rs:254-263: a boxed `Fn(&Vec<ResultSet>, &SimulatorEnv) -> Result<bool>` and its message |
| `Property` | the variants and fields plan.rs matches on (:292-375); generation/property.rs is not in the source |
| `Query`, `Predicate`, `Table`, `SimValue` | model/query and model/table, not in the source: the fields plan.rs reads, the rest from the spec |
| `SimulatorEnv`, `SimConnection` | runner/env.rs, not in the source: the fields plan.rs reads |
| `Methods` | `Display for Query` and `Property::interactions`, whose code is not in the source |

The two methods in `Methods` are arguments of every result: the theorems hold whatever SQL text
a query renders to and whatever a property expands to.
-/

namespace LimboSim

/-- `SimValue` (model/table.rs). Modelled from the spec: a SQL scalar; `Float` is left out,
nothing modelled computes with it. -/
inductive SimValue
  | null
  | integer (v : Int)
  | text (v : String)
  | blob (v : List UInt8)
  deriving DecidableEq, Repr

/-- `Table` (model/table.rs): its name and rows. Its columns are left out: nothing modelled reads
them. -/
structure Table where
  name : String
  rows : List (List SimValue)
  deriving DecidableEq, Repr

/-- `Predicate` (model/query/predicate.rs). Modelled from the spec: equality, comparison,
boolean combinators and a literal `true` (`Predicate::true_()`, plan.rs:360). -/
inductive Predicate
  | true_
  | eq (column : String) (value : SimValue)
  | lt (column : String) (value : SimValue)
  | gt (column : String) (value : SimValue)
  | and (p q : Predicate)
  | or (p q : Predicate)
  | not (p : Predicate)
  deriving DecidableEq, Repr

inductive ResultColumn
  | star
  | expr (p : Predicate)
  deriving DecidableEq, Repr

inductive Distinctness
  | all
  | distinct
  deriving DecidableEq, Repr

structure Create where
  table : Table
  deriving DecidableEq, Repr

/-- `CreateIndex`: plan.rs reads none of its fields, and nothing modelled does. -/
structure CreateIndex
  deriving DecidableEq, Repr

/-- `Insert`: the rows to append to `table`. -/
structure Insert where
  table : String
  values : List (List SimValue)
  deriving DecidableEq, Repr

structure Delete where
  table : String
  predicate : Predicate
  deriving DecidableEq, Repr

/-- `Update`: plan.rs reads none of its fields, and nothing modelled does. -/
structure Update
  deriving DecidableEq, Repr

structure Drop where
  table : String
  deriving DecidableEq, Repr

/-- `Select`, with the fields plan.rs builds it from (plan.rs:327-333). -/
structure Select where
  table : String
  resultColumns : List ResultColumn
  predicate : Predicate
  distinct : Distinctness
  limit : Option Nat
  deriving DecidableEq, Repr

inductive Query
  | create (c : Create)
  | createIndex (c : CreateIndex)
  | insert (i : Insert)
  | delete (d : Delete)
  | update (u : Update)
  | drop (d : Drop)
  | select (s : Select)
  deriving DecidableEq, Repr

/-- `turso_core::LimboError`: plan.rs builds only `InternalError`; any other error comes from the
engine and is passed on. -/
inductive LimboError
  | internalError (msg : String)
  | engine (msg : String)
  deriving DecidableEq, Repr

/-- A connection handle of the engine under test (opaque). -/
abbrev Connection := Nat

/-- A database handle of the engine under test (opaque). -/
abbrev Database := Nat

/-- `SimConnection` (runner/env.rs): a live connection or an empty slot. -/
inductive SimConnection
  | limboConnection (conn : Connection)
  | disconnected
  deriving DecidableEq, Repr

def SimConnection.isConnected : SimConnection → Bool
  | .limboConnection _ => true
  | .disconnected => false

/-- The fields of `SimulatorEnv` that plan.rs reads or writes. -/
structure SimulatorEnv where
  tables : List Table
  connections : List SimConnection
  db : Database
  dbPath : String
  deriving DecidableEq, Repr

abbrev ResultSet := Except LimboError (List (List SimValue))

/-- `Assertion` (plan.rs:260-263); also the shape of an assumption. -/
structure Assertion where
  func : List ResultSet → SimulatorEnv → Except LimboError Bool
  message : String

inductive Fault
  | disconnect
  | reopenDatabase
  deriving DecidableEq, Repr

/-- `Display for Fault` (plan.rs:279-286). -/
def Fault.toString : Fault → String
  | .disconnect => "DISCONNECT"
  | .reopenDatabase => "REOPEN_DATABASE"

inductive Interaction
  | query (q : Query)
  | assumption (a : Assertion)
  | assertion (a : Assertion)
  | fault (f : Fault)

/-- `Property` with the fields plan.rs reads (plan.rs:293-356). -/
inductive Property
  | insertValuesSelect (insert : Insert) (rowIndex : Nat) (queries : List Query) (select : Select)
  | doubleCreateFailure (create : Create) (queries : List Query)
  | selectLimit (select : Select)
  | deleteSelect (table : String) (predicate : Predicate) (queries : List Query)
  | dropSelect (table : String) (queries : List Query) (select : Select)
  | selectSelectOptimizer (table : String) (predicate : Predicate)
  deriving DecidableEq, Repr

/-- `Property::name`. Modelled from the spec: the names of §4.3. -/
def Property.name : Property → String
  | .insertValuesSelect .. => "InsertValuesSelect"
  | .doubleCreateFailure .. => "DoubleCreateFailure"
  | .selectLimit .. => "SelectLimit"
  | .deleteSelect .. => "DeleteSelect"
  | .dropSelect .. => "DropSelect"
  | .selectSelectOptimizer .. => "SelectSelectOptimizer"

inductive Interactions
  | property (p : Property)
  | query (q : Query)
  | fault (f : Fault)
  deriving DecidableEq, Repr

structure InteractionPlan where
  plan : List Interactions
  deriving DecidableEq, Repr

structure InteractionStats where
  readCount : Nat
  writeCount : Nat
  deleteCount : Nat
  updateCount : Nat
  createCount : Nat
  createIndexCount : Nat
  dropCount : Nat
  deriving DecidableEq, Repr

/-- The methods plan.rs calls whose code is not in the source: `query.to_string()` and
`property.interactions()`. -/
structure Methods where
  sql : Query → String
  interactions : Property → List Interaction

/-- `Interactions::interactions` (plan.rs:123-129). -/
def Interactions.interactions (m : Methods) : Interactions → List Interaction
  | .property p => m.interactions p
  | .query q => [.query q]
  | .fault f => [.fault f]

/-- `Interactions::name` (plan.rs:115-121): a property's name; queries and faults have none. -/
def Interactions.name : Interactions → Option String
  | .property p => some p.name
  | .query _ => none
  | .fault _ => none

/-- `Display for Interaction` (plan.rs:243-252): what the diff looks for in a line. -/
def Interaction.toString (m : Methods) : Interaction → String
  | .query q => m.sql q
  | .assumption a => "ASSUME " ++ a.message
  | .assertion a => "ASSERT " ++ a.message
  | .fault f => "FAULT '" ++ f.toString ++ "'"

end LimboSim
