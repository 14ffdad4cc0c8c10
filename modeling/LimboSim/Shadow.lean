import LimboSim.Model
import Mathlib.Data.Finset.Basic
/-! # `Interactions::shadow` (plan.rs:288-414, :502-508)

The shadow model predicts the tables of the database under test. `Query::shadow` is not in the
source: here it is an argument `sh`, the change a query makes to the tables (the rows it
predicts are left out).

| here | there |
|---|---|
| `Interaction.shadow` | `Interaction::shadow` (plan.rs:502-508) |
| `Property.shadowQueries` | the first `match` of `Interactions::shadow` on a property (plan.rs:292-375) |
| `Interactions.shadow` | `Interactions::shadow` (plan.rs:288-414) |
| `Property.queries` | the queries of `Property::interactions()`, modelled from the spec (§4.3) |
| `Interactions.dependencies`, `Interactions.uses` | plan.rs:133-169 |

A property's own shadow runs its queries, and the loop over `property.interactions()`
(plan.rs:377-406) then runs them once more (`shadow_property_twice`). A `DoubleCreateFailure`
whose table exists returns before either (plan.rs:306-308), so its filler queries are not run
at all (`shadow_doubleCreateFailure_exists`).
-/

namespace LimboSim

section
variable (sh : Query → SimulatorEnv → SimulatorEnv)

/-- The shadow of queries run one after another. -/
def runQueries (qs : List Query) (env : SimulatorEnv) : SimulatorEnv :=
  qs.foldl (fun env q => sh q env) env

/-- `Interaction::shadow` (plan.rs:502-508): a query's shadow; the others change nothing. -/
def Interaction.shadow : Interaction → SimulatorEnv → SimulatorEnv
  | .query q, env => sh q env
  | _, env => env

/-- The queries the first `match` of `Interactions::shadow` runs for a property (plan.rs:292-375);
`none` is the `return` of `DoubleCreateFailure` when its table exists (:306-308). -/
def Property.shadowQueries (env : SimulatorEnv) : Property → Option (List Query)
  | .insertValuesSelect insert _ queries select => some (.insert insert :: queries ++ [.select select])
  | .doubleCreateFailure create queries =>
    if env.tables.any (·.name == create.table.name) then none else some (.create create :: queries)
  | .selectLimit select => some [.select select]
  | .deleteSelect table predicate queries =>
    some (.delete ⟨table, predicate⟩ :: queries ++ [.select ⟨table, [.star], predicate, .all, none⟩])
  | .dropSelect table queries select => some (.drop ⟨table⟩ :: queries ++ [.select select])
  | .selectSelectOptimizer table predicate =>
    some [.select ⟨table, [.expr predicate], .true_, .all, none⟩, .select ⟨table, [.star], predicate, .all, none⟩]

/-- `Interactions::shadow` (plan.rs:288-414). The loop over `property.interactions()` (:377-406)
calls each query kind's shadow, which is what `Interaction::shadow` does. -/
def Interactions.shadow (m : Methods) : Interactions → SimulatorEnv → SimulatorEnv
  | .property p, env =>
    match p.shadowQueries env with
    | none => env
    | some qs => (m.interactions p).foldl (fun env y => y.shadow sh env) (runQueries sh qs env)
  | .query q, env => sh q env
  | .fault _, env => env

end

/-- The query an interaction runs, if it is one. -/
def Interaction.asQuery : Interaction → Option Query
  | .query q => some q
  | _ => none

/-- Modelled from the spec: the queries of `Property::interactions()` (generation/property.rs,
not in the source), in the order §4.3 gives them; the assumptions and assertions among them
are not listed. -/
def Property.queries : Property → List Query
  | .insertValuesSelect insert _ queries select => .insert insert :: queries ++ [.select select]
  | .doubleCreateFailure create queries => .create create :: queries ++ [.create create]
  | .selectLimit select => [.select select]
  | .deleteSelect table predicate queries =>
    .delete ⟨table, predicate⟩ :: queries ++ [.select ⟨table, [.star], predicate, .all, none⟩]
  | .dropSelect table queries select => .drop ⟨table⟩ :: queries ++ [.select select]
  | .selectSelectOptimizer table predicate =>
    [.select ⟨table, [.expr predicate], .true_, .all, none⟩, .select ⟨table, [.star], predicate, .all, none⟩]

/-- `property.interactions()` runs the queries of `Property.queries`, in that order. -/
def Methods.QueriesAsSpec (m : Methods) : Prop :=
  ∀ p, (m.interactions p).filterMap Interaction.asQuery = p.queries

/-- Modelled from the spec: `Insert::shadow` (§4.1) on the tables: its rows are appended to the
table of that name. -/
def Insert.shadow (i : Insert) (env : SimulatorEnv) : SimulatorEnv :=
  { env with tables := env.tables.map fun t => if t.name = i.table then { t with rows := t.rows ++ i.values } else t }

/-! ## Each query once, or twice -/

section
variable {sh : Query → SimulatorEnv → SimulatorEnv} {m : Methods}

theorem runQueries_append (qs qs' : List Query) (env : SimulatorEnv) :
    runQueries sh (qs ++ qs') env = runQueries sh qs' (runQueries sh qs env) :=
  List.foldl_append _ _ _ _

/-- Stepping through interactions runs exactly their queries. -/
theorem foldl_shadow (ys : List Interaction) (env : SimulatorEnv) :
    ys.foldl (fun env y => y.shadow sh env) env = runQueries sh (ys.filterMap Interaction.asQuery) env := by
  induction ys generalizing env with
  | nil => rfl
  | cons y ys ih => cases y <;> exact ih _

theorem shadowQueries_eq (env : SimulatorEnv) (p : Property)
    (hp : ∀ c qs, p ≠ .doubleCreateFailure c qs) : p.shadowQueries env = some p.queries := by
  cases p with
  | doubleCreateFailure c qs => exact absurd rfl (hp c qs)
  | _ => rfl

/-- **Every query of a property is shadowed twice**: once by the property's own shadow, once by
the loop over its interactions; stepping through the interactions runs each once. -/
theorem shadow_property_twice (hm : m.QueriesAsSpec) (p : Property)
    (hp : ∀ c qs, p ≠ .doubleCreateFailure c qs) (env : SimulatorEnv) :
    Interactions.shadow sh m (.property p) env = runQueries sh p.queries (runQueries sh p.queries env) ∧
      ((Interactions.property p).interactions m).foldl (fun env y => y.shadow sh env) env =
        runQueries sh p.queries env := by
  simp only [Interactions.shadow, Interactions.interactions, shadowQueries_eq env p hp, foldl_shadow, hm p,
    and_self]

/-- A `DoubleCreateFailure` whose table exists changes nothing: its filler queries are skipped. -/
theorem shadow_doubleCreateFailure_exists (c : Create) (qs : List Query) (env : SimulatorEnv)
    (h : env.tables.any (·.name == c.table.name) = true) :
    Interactions.shadow sh m (.property (.doubleCreateFailure c qs)) env = env := by
  simp [Interactions.shadow, Property.shadowQueries, h]

end

/-- An `InsertValuesSelect` of one row into an empty table `t`, with no filler query: the code's
shadow leaves `t` with the row twice, stepping through the interactions leaves it once. -/
theorem shadow_insertValuesSelect_doubles (sh : Query → SimulatorEnv → SimulatorEnv) (m : Methods)
    (hm : m.QueriesAsSpec) (hins : ∀ i env, sh (.insert i) env = i.shadow env)
    (hsel : ∀ s env, sh (.select s) env = env) :
    let p := Property.insertValuesSelect ⟨"t", [[.integer 1]]⟩ 0 [] ⟨"t", [.star], .true_, .all, none⟩
    let env : SimulatorEnv := ⟨[⟨"t", []⟩], [], 0, ""⟩
    ((Interactions.property p).shadow sh m env).tables = [⟨"t", [[.integer 1], [.integer 1]]⟩] ∧
      (((Interactions.property p).interactions m).foldl (fun env y => y.shadow sh env) env).tables =
        [⟨"t", [[.integer 1]]⟩] := by
  intro p env
  obtain ⟨h2, h1⟩ := shadow_property_twice hm p (fun _ _ => by simp [p]) env
  rw [h2, h1]
  simp [Property.queries, runQueries, hins, hsel, Insert.shadow, env]

/-- The shadow of the spec on inserts, and no change for the other queries. -/
theorem shadow_insertValuesSelect_doubles_insertOnly :
    let sh : Query → SimulatorEnv → SimulatorEnv := fun q env => match q with
      | .insert i => i.shadow env
      | _ => env
    let m : Methods := ⟨fun _ => "", fun p => p.queries.map .query⟩
    m.QueriesAsSpec ∧ (∀ i env, sh (.insert i) env = i.shadow env) ∧ (∀ s env, sh (.select s) env = env) ∧
      ((Interactions.property (.insertValuesSelect ⟨"t", [[.integer 1]]⟩ 0 []
        ⟨"t", [.star], .true_, .all, none⟩)).shadow sh m ⟨[⟨"t", []⟩], [], 0, ""⟩).tables =
        [⟨"t", [[.integer 1], [.integer 1]]⟩] := by
  intro sh m
  have hm : m.QueriesAsSpec := fun p => by simp [m, List.filterMap_map, Function.comp_def, Interaction.asQuery]
  exact ⟨hm, fun _ _ => rfl, fun _ _ => rfl,
    (shadow_insertValuesSelect_doubles sh m hm (fun _ _ => rfl) (fun _ _ => rfl)).1⟩

/-! ## The tables an item names -/

/-- `Interactions::dependencies` (plan.rs:133-150); `deps` is `Query::dependencies`, which is not
in the source. -/
def Interactions.dependencies (deps : Query → Finset String) (m : Methods) : Interactions → Finset String
  | .property p => (m.interactions p).foldl (fun acc y => match y with
      | .query q => acc ∪ deps q
      | _ => acc) ∅
  | .query q => deps q
  | .fault _ => ∅

/-- `Interactions::uses` (plan.rs:152-169); `uses` is `Query::uses`, which is not in the source. -/
def Interactions.uses (uses : Query → List String) (m : Methods) : Interactions → List String
  | .property p => (m.interactions p).foldl (fun acc y => match y with
      | .query q => acc ++ uses q
      | _ => acc) []
  | .query q => uses q
  | .fault _ => []

section
variable {deps : Query → Finset String} {uses : Query → List String} {m : Methods}

theorem foldl_dependencies (ys : List Interaction) (acc : Finset String) :
    ys.foldl (fun acc y => match y with
      | .query q => acc ∪ deps q
      | _ => acc) acc = acc ∪ (ys.filterMap Interaction.asQuery).foldr (fun q s => deps q ∪ s) ∅ := by
  induction ys generalizing acc with
  | nil => simp
  | cons y ys ih => cases y <;> simp [ih, Interaction.asQuery, Finset.union_assoc]

theorem foldl_uses (ys : List Interaction) (acc : List String) :
    ys.foldl (fun acc y => match y with
      | .query q => acc ++ uses q
      | _ => acc) acc = acc ++ (ys.filterMap Interaction.asQuery).flatMap uses := by
  induction ys generalizing acc with
  | nil => simp
  | cons y ys ih => cases y <;> simp [ih, Interaction.asQuery]

/-- An item depends on a table exactly when one of the queries it runs does. -/
theorem mem_dependencies (x : Interactions) (s : String) :
    s ∈ x.dependencies deps m ↔ ∃ q, Interaction.query q ∈ x.interactions m ∧ s ∈ deps q := by
  have key (qs : List Query) : s ∈ qs.foldr (fun q s => deps q ∪ s) ∅ ↔ ∃ q ∈ qs, s ∈ deps q := by
    induction qs with
    | nil => simp
    | cons q qs ih => simp [ih]
  cases x with
  | property p =>
    simp only [Interactions.dependencies, foldl_dependencies, Finset.empty_union, key,
      Interactions.interactions, List.mem_filterMap]
    constructor
    · rintro ⟨q, ⟨y, hy, hq⟩, hs⟩
      cases y <;> cases hq
      exact ⟨q, hy, hs⟩
    · rintro ⟨q, hq, hs⟩
      exact ⟨q, ⟨_, hq, rfl⟩, hs⟩
  | query q => simp [Interactions.dependencies, Interactions.interactions]
  | fault f => simp [Interactions.dependencies, Interactions.interactions]

/-- An item's uses are those of the queries it runs, in order. -/
theorem uses_eq (x : Interactions) :
    x.uses uses m = ((x.interactions m).filterMap Interaction.asQuery).flatMap uses := by
  cases x with
  | property p => simp [Interactions.uses, foldl_uses, Interactions.interactions]
  | query q => simp [Interactions.uses, Interactions.interactions, Interaction.asQuery]
  | fault f => simp [Interactions.uses, Interactions.interactions, Interaction.asQuery]

/-- **`dependencies` is the set of `uses`.** When each query's dependencies are the tables it
uses, so are every item's: a property's two loops (plan.rs:133-169) walk the same queries of
`property.interactions()`. -/
theorem dependencies_eq_uses (hq : ∀ q, deps q = (uses q).toFinset) (x : Interactions) :
    x.dependencies deps m = (x.uses uses m).toFinset := by
  ext s
  simp only [mem_dependencies, uses_eq, List.mem_toFinset, List.mem_flatMap, List.mem_filterMap, hq]
  constructor
  · rintro ⟨q, hx, hs⟩
    exact ⟨q, ⟨_, hx, rfl⟩, hs⟩
  · rintro ⟨q, ⟨y, hy, hyq⟩, hs⟩
    cases y <;> cases hyq
    exact ⟨q, hy, hs⟩

end

/-- The tables a `SELECT` or an `INSERT` names; none for the other queries. -/
def tablesNamed : Query → List String
  | .select s => [s.table]
  | .insert i => [i.table]
  | _ => []

/-- The same tables as a set. -/
def tableSet : Query → Finset String
  | .select s => {s.table}
  | .insert i => {i.table}
  | _ => ∅

/-- A property that reads `t`, assumes, writes `u`, then asserts. -/
def mixedMethods : Methods where
  sql _ := ""
  interactions _ := [.query (.select ⟨"t", [.star], .true_, .all, none⟩),
    .assumption ⟨fun _ _ => .ok true, "t exists"⟩, .query (.insert ⟨"u", []⟩),
    .assertion ⟨fun _ _ => .ok true, "u holds the row"⟩]

theorem dependencies_eq_uses_property :
    (∀ q, tableSet q = (tablesNamed q).toFinset) ∧
      (Interactions.property (.selectLimit ⟨"t", [.star], .true_, .all, some 1⟩)).dependencies
          tableSet mixedMethods =
        ((Interactions.property (.selectLimit ⟨"t", [.star], .true_, .all, some 1⟩)).uses tablesNamed
          mixedMethods).toFinset :=
  have hq : ∀ q, tableSet q = (tablesNamed q).toFinset := fun q => by cases q <;> rfl
  ⟨hq, dependencies_eq_uses hq _⟩

end LimboSim
