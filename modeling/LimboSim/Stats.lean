import LimboSim.Model
/-!
# `InteractionPlan::stats` (plan.rs:421-469)

`stats` counts queries through its own two match arms: the queries a property expands to, and
the top-level queries. `stats_eq_count` shows this is the count over the concatenation of every
item's `interactions()`, the list the interpreter steps through, so the generator's budgets see
exactly the queries that will run.
-/

namespace LimboSim

/-- One arm of the match on the query's kind (plan.rs:435-443, the same at :447-455). -/
def InteractionStats.countQuery (s : InteractionStats) : Query → InteractionStats
  | .select _ => { s with readCount := s.readCount + 1 }
  | .insert _ => { s with writeCount := s.writeCount + 1 }
  | .delete _ => { s with deleteCount := s.deleteCount + 1 }
  | .create _ => { s with createCount := s.createCount + 1 }
  | .drop _ => { s with dropCount := s.dropCount + 1 }
  | .update _ => { s with updateCount := s.updateCount + 1 }
  | .createIndex _ => { s with createIndexCount := s.createIndexCount + 1 }

/-- The loop over `property.interactions()` (plan.rs:433-445): only queries are counted. -/
def InteractionStats.countInteraction (s : InteractionStats) : Interaction → InteractionStats
  | .query q => s.countQuery q
  | _ => s

/-- The body of `for interactions in &self.plan` (plan.rs:431-457). -/
def InteractionStats.countItem (m : Methods) (s : InteractionStats) : Interactions → InteractionStats
  | .property p => (m.interactions p).foldl InteractionStats.countInteraction s
  | .query q => s.countQuery q
  | .fault _ => s

/-- `InteractionPlan::stats`: all seven counters start at zero. -/
def InteractionPlan.stats (m : Methods) (P : InteractionPlan) : InteractionStats :=
  P.plan.foldl (InteractionStats.countItem m) ⟨0, 0, 0, 0, 0, 0, 0⟩

/-! ## The counts it should be -/

inductive QueryKind
  | select | insert | delete | update | create | createIndex | drop
  deriving DecidableEq, Repr

def Query.kind : Query → QueryKind
  | .create _ => .create
  | .createIndex _ => .createIndex
  | .insert _ => .insert
  | .delete _ => .delete
  | .update _ => .update
  | .drop _ => .drop
  | .select _ => .select

/-- The kind of an `Interaction::Query`; faults, assumptions and assertions have none. -/
def Interaction.queryKind : Interaction → Option QueryKind
  | .query q => some q.kind
  | _ => none

/-- How many `Interaction::Query` of kind `k` the list holds. -/
def countKind (k : QueryKind) (xs : List Interaction) : Nat :=
  xs.countP (·.queryKind == some k)

/-- The seven counts of `xs`, in `InteractionStats`' order (Select as read, Insert as write). -/
def InteractionStats.ofInteractions (xs : List Interaction) : InteractionStats :=
  ⟨countKind .select xs, countKind .insert xs, countKind .delete xs, countKind .update xs,
    countKind .create xs, countKind .createIndex xs, countKind .drop xs⟩

instance : Add InteractionStats where
  add a b := ⟨a.readCount + b.readCount, a.writeCount + b.writeCount,
    a.deleteCount + b.deleteCount, a.updateCount + b.updateCount, a.createCount + b.createCount,
    a.createIndexCount + b.createIndexCount, a.dropCount + b.dropCount⟩

theorem InteractionStats.add_def (a b : InteractionStats) : a + b =
    ⟨a.readCount + b.readCount, a.writeCount + b.writeCount,
      a.deleteCount + b.deleteCount, a.updateCount + b.updateCount, a.createCount + b.createCount,
      a.createIndexCount + b.createIndexCount, a.dropCount + b.dropCount⟩ := rfl

@[simp] theorem ofInteractions_nil : InteractionStats.ofInteractions [] = ⟨0, 0, 0, 0, 0, 0, 0⟩ := rfl

theorem ofInteractions_append (xs ys : List Interaction) :
    InteractionStats.ofInteractions (xs ++ ys) =
      InteractionStats.ofInteractions xs + InteractionStats.ofInteractions ys := by
  simp only [InteractionStats.ofInteractions, countKind, List.countP_append, InteractionStats.add_def]

theorem add_assoc_stats (a b c : InteractionStats) : a + b + c = a + (b + c) := by
  simp only [InteractionStats.add_def, InteractionStats.mk.injEq]
  omega

/-- Counting one interaction adds its own counts. -/
theorem countInteraction_eq (s : InteractionStats) (x : Interaction) :
    s.countInteraction x = s + InteractionStats.ofInteractions [x] := by
  cases x with
  | query q => cases q <;> rfl
  | _ => rfl

theorem foldl_countInteraction (xs : List Interaction) (s : InteractionStats) :
    xs.foldl InteractionStats.countInteraction s = s + InteractionStats.ofInteractions xs := by
  induction xs generalizing s with
  | nil => simp [InteractionStats.add_def]
  | cons x xs ih =>
    rw [List.foldl_cons, ih, countInteraction_eq, add_assoc_stats, ← ofInteractions_append]
    rfl

/-- Both arms of `stats` add the item's own counts: the property arm through its expansion, the
query arm directly, since a top-level query expands to itself. -/
theorem countItem_eq (m : Methods) (s : InteractionStats) (x : Interactions) :
    s.countItem m x = s + InteractionStats.ofInteractions (x.interactions m) := by
  cases x with
  | property p => exact foldl_countInteraction _ s
  | query q => exact countInteraction_eq s (.query q)
  | fault f => exact countInteraction_eq s (.fault f)

/-- **`stats` counts every query the plan runs.** Each counter of `P.stats()` is the number of
`Interaction::Query` of its kind in the concatenation of `item.interactions()` over the plan. -/
theorem stats_eq_count (m : Methods) (P : InteractionPlan) :
    P.stats m = InteractionStats.ofInteractions (P.plan.flatMap (·.interactions m)) := by
  suffices h : ∀ (xs : List Interactions) (s : InteractionStats),
      xs.foldl (InteractionStats.countItem m) s =
        s + InteractionStats.ofInteractions (xs.flatMap (·.interactions m)) by
    simpa [InteractionPlan.stats, InteractionStats.add_def] using h P.plan ⟨0, 0, 0, 0, 0, 0, 0⟩
  intro xs
  induction xs with
  | nil => intro s; simp [InteractionStats.add_def]
  | cons x xs ih =>
    intro s
    rw [List.foldl_cons, ih, countItem_eq, List.flatMap_cons, ofInteractions_append, add_assoc_stats]

end LimboSim
