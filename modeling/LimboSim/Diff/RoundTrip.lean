import LimboSim.Diff.Edit
/-!
# Reading the plan file back (plan.rs:44-98, :172-206)

`compute_via_diff` is run on the text of the `.plan` file. The file is `Display for
InteractionPlan`; a user may delete any of its lines before the run.

| here | there |
|---|---|
| `InteractionPlan.display` | `Display for InteractionPlan` (plan.rs:172-206) |
| `computeViaDiff` | `InteractionPlan::compute_via_diff` (plan.rs:44-98) |
| `editedLines`, `keptPlan` | the file after an edit, and the plan the edit asks for |

`computeViaDiff_display`: the unedited file gives the whole plan back, even when one
interaction's text is part of another's line. `computeViaDiff_edited`: an edited file gives the
interactions whose lines were kept, provided no deleted interaction's `to_string()` is in the one
line the loop compares it with (`NoLateMatch`). `computeViaDiff_overmatch` shows the loop failing
the docstring of plan.rs:38-43 ("constructs the plan from the remaining interactions"): a
deleted `SELECT` whose text is a prefix of the next kept `SELECT … LIMIT 1` is matched against
that line and returned in place of the kept one.
-/

namespace LimboSim

open Str

/-! ## Nothing deleted -/

@[simp] theorem keptSlots_true {α : Type} (S : List α) : keptSlots S (fun _ => true) = S := by
  induction S with
  | nil => rfl
  | cons s S ih => simp [keptSlots, ih]

section
variable {m : Methods}

theorem editedLines_true (xs : List Interactions) :
    editedLines m xs (fun _ _ => true) = xs.flatMap (·.lines m) := by
  induction xs with
  | nil => rfl
  | cons x xs ih => simp [editedLines, slots_fst, ih]

theorem keptPlan_true {xs : List Interactions} (hne : ∀ x ∈ xs, x.interactions m ≠ []) :
    keptPlan m xs (fun _ _ => true) = xs.map (·.interactions m) := by
  induction xs with
  | nil => rfl
  | cons x xs ih =>
    have hx := keptSlots_slots_snd (m := m) x (fun _ => true)
    simp only [keptSlots_true, entries_snd] at hx
    simp [keptPlan, hx, hne x (List.mem_cons_self _ _), ih fun x' h => hne x' (List.mem_cons_of_mem _ h)]

theorem noLateMatch_true (xs : List Interactions) : NoLateMatch m xs (fun _ _ => true) :=
  fun _ _ _ _ _ _ hk => nomatch hk

/-! ## Edited files -/

theorem mem_lines_of_slotAt {xs : List Interactions} {j n : Nat} {l : String}
    {o : Option Interaction} (h : slotAt m xs j n = some (l, o)) : ∃ x ∈ xs, l ∈ x.lines m := by
  obtain ⟨x, hx, hs⟩ := Option.bind_eq_some.1 h
  exact ⟨x, List.getElem?_mem hx, slots_fst m x ▸ List.mem_map_of_mem Prod.fst (List.getElem?_mem hs)⟩

theorem oneLine_editedLines {P : InteractionPlan} (hs : P.SingleLine m) (keep : Nat → Nat → Bool) :
    ∀ l ∈ editedLines m P.plan keep, OneLine l := fun l hl => by
  obtain ⟨j, n, o, h, -⟩ := mem_editedLines hl
  obtain ⟨x, hx, hl⟩ := mem_lines_of_slotAt h
  exact lines_oneLine m x (hs x hx) l hl

end

/-- **The unedited file gives the whole plan back.** -/
theorem computeViaDiff_display (m : Methods) (P : InteractionPlan)
    (hne : ∀ x ∈ P.plan, x.interactions m ≠ []) (hs : P.SingleLine m)
    (htop : ∀ q, .query q ∈ P.plan → startsWith (m.sql q) "--" = false) :
    computeViaDiff m (P.display m) P = some (P.plan.map (·.interactions m)) := by
  rw [computeViaDiff, lines_display m P hs, ← editedLines_true, diffPlan_eq_matchPlan,
    matchPlan_editedLines _ _ htop (noLateMatch_true _), keptPlan_true hne]

/-- **An edited file gives the interactions whose lines were kept**, item by item, with no item
left whose interactions were all deleted; provided no deleted interaction is found in the line
the loop compares it with. -/
theorem computeViaDiff_edited (m : Methods) (P : InteractionPlan) (keep : Nat → Nat → Bool)
    (hs : P.SingleLine m) (htop : ∀ q, .query q ∈ P.plan → startsWith (m.sql q) "--" = false)
    (hlate : NoLateMatch m P.plan keep) :
    computeViaDiff m (String.join ((editedLines m P.plan keep).map (· ++ "\n"))) P =
      some (keptPlan m P.plan keep) := by
  rw [computeViaDiff, lines_join _ (oneLine_editedLines hs keep), diffPlan_eq_matchPlan,
    matchPlan_editedLines _ _ htop hlate]

/-! ## A plan with a `LIMIT` -/

/-- `SELECT * FROM t`, with the given `LIMIT`. -/
def selectAll (limit : Option Nat) : Query := .select ⟨"t", [.star], .true_, .all, limit⟩

/-- The assertion of the `SelectLimit` property below. -/
def limitAssertion : Assertion := ⟨fun _ _ => .ok true, "at most one row"⟩

/-- A rendering of queries in which `LIMIT` comes last, so that a `SELECT` without one is a prefix
of the same `SELECT` with one. (`Display for Query` and `Property::interactions` are not in the
source; a property expands to both `SELECT`s and an assertion.) -/
def limitSql : Methods where
  sql q := match q with
    | .select s => "SELECT * FROM " ++ s.table ++ (s.limit.map (" LIMIT " ++ toString ·)).getD ""
    | _ => "SELECT 1"
  interactions _ := [.query (selectAll none), .query (selectAll (some 1)), .assertion limitAssertion]

/-- `SELECT * FROM t;` then `SELECT * FROM t LIMIT 1;`. -/
def limitPlan : InteractionPlan := ⟨[.query (selectAll none), .query (selectAll (some 1))]⟩

theorem limitPlan_singleLine : limitPlan.SingleLine limitSql := by
  unfold InteractionPlan.SingleLine; decide

theorem limitPlan_top : ∀ q, .query q ∈ limitPlan.plan → startsWith (limitSql.sql q) "--" = false := by
  intro q hq
  rcases List.mem_pair.1 hq with h | h <;> (cases h; decide)

/-- A `SelectLimit` property, framed by its markers, then the two `SELECT`s at the top level. -/
def propLimitPlan : InteractionPlan :=
  ⟨[.property (.selectLimit ⟨"t", [.star], .true_, .all, some 1⟩), .query (selectAll none),
    .query (selectAll (some 1))]⟩

theorem propLimitPlan_singleLine : propLimitPlan.SingleLine limitSql := by
  unfold InteractionPlan.SingleLine; decide

theorem propLimitPlan_top :
    ∀ q, .query q ∈ propLimitPlan.plan → startsWith (limitSql.sql q) "--" = false := by
  intro q hq
  simp only [propLimitPlan, List.mem_cons, List.not_mem_nil, or_false, reduceCtorEq, false_or] at hq
  rcases hq with h | h <;> (cases h; decide)

theorem computeViaDiff_display_limitPlan :
    (∀ x ∈ propLimitPlan.plan, x.interactions limitSql ≠ []) ∧
      computeViaDiff limitSql (propLimitPlan.display limitSql) propLimitPlan =
        some [[.query (selectAll none), .query (selectAll (some 1)), .assertion limitAssertion],
          [.query (selectAll none)], [.query (selectAll (some 1))]] :=
  have hne : ∀ x ∈ propLimitPlan.plan, x.interactions limitSql ≠ [] := by
    simp [propLimitPlan, Interactions.interactions, limitSql]
  ⟨hne, computeViaDiff_display limitSql propLimitPlan hne propLimitPlan_singleLine propLimitPlan_top⟩

/-- Deleting the property's `SELECT * FROM t LIMIT 1`: the loop compares it with the assertion's
line, which does not hold it, though the last line of the file does. -/
theorem computeViaDiff_edited_limitPlan :
    NoLateMatch limitSql propLimitPlan.plan (fun j n => !(j == 0 && n == 2)) ∧
      computeViaDiff limitSql (String.join ((editedLines limitSql propLimitPlan.plan
        fun j n => !(j == 0 && n == 2)).map (· ++ "\n"))) propLimitPlan =
        some [[.query (selectAll none), .assertion limitAssertion], [.query (selectAll none)],
          [.query (selectAll (some 1))]] :=
  have hlate : NoLateMatch limitSql propLimitPlan.plan (fun j n => !(j == 0 && n == 2)) := by
    intro j n l y l' h hk hl
    obtain ⟨rfl, rfl⟩ : j = 0 ∧ n = 2 := by simpa using hk
    have e : slotAt limitSql propLimitPlan.plan 0 2 =
        some ("\tSELECT * FROM t LIMIT 1;", some (.query (selectAll (some 1)))) := rfl
    have e' : comparedLine (keepsInteraction limitSql propLimitPlan.plan (fun j n => !(j == 0 && n == 2)) 0)
        (linesAfter limitSql propLimitPlan.plan (fun j n => !(j == 0 && n == 2)) 0 2) =
        some "\t-- ASSERT at most one row;" := rfl
    simp only [e, e', Option.some.injEq, Prod.mk.injEq] at h hl
    obtain ⟨-, rfl⟩ := h
    subst hl
    decide
  ⟨hlate, computeViaDiff_edited limitSql propLimitPlan _ propLimitPlan_singleLine propLimitPlan_top hlate⟩

/-- Deleting the first line: its `SELECT * FROM t` is a prefix of the kept line, so the loop keeps
it there and returns it in place of the `SELECT * FROM t LIMIT 1` the edit kept: not the plan of
the remaining interactions. -/
theorem computeViaDiff_overmatch :
    limitPlan.SingleLine limitSql ∧
      (∀ q, .query q ∈ limitPlan.plan → startsWith (limitSql.sql q) "--" = false) ∧
      editedLines limitSql limitPlan.plan (fun j _ => j == 1) = ["SELECT * FROM t LIMIT 1;"] ∧
      keptPlan limitSql limitPlan.plan (fun j _ => j == 1) = [[.query (selectAll (some 1))]] ∧
      computeViaDiff limitSql (String.join ((editedLines limitSql limitPlan.plan fun j _ => j == 1).map
        (· ++ "\n"))) limitPlan = some [[.query (selectAll none)]] ∧
      computeViaDiff limitSql (String.join ((editedLines limitSql limitPlan.plan fun j _ => j == 1).map
        (· ++ "\n"))) limitPlan ≠ some (keptPlan limitSql limitPlan.plan (fun j _ => j == 1)) :=
  have hrun : computeViaDiff limitSql (String.join ((editedLines limitSql limitPlan.plan
      fun j _ => j == 1).map (· ++ "\n"))) limitPlan = some [[.query (selectAll none)]] := rfl
  have hkept : keptPlan limitSql limitPlan.plan (fun j _ => j == 1) = [[.query (selectAll (some 1))]] := rfl
  ⟨limitPlan_singleLine, limitPlan_top, by decide, hkept, hrun, by simp [hrun, hkept, selectAll]⟩

end LimboSim
