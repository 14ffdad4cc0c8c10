import LimboSim.Shadow
import LimboSim.Stats
import Mathlib.Algebra.Order.Field.Rat
import Mathlib.Tactic.Linarith
/-! # Generating a plan (plan.rs:472-500, :672-777)

The random draws enter as data: a `Draws` holds what the `rng` calls for one item give. The
producers' `arbitrary` functions, `remaining` and `frequency` live in files that are not in the
source. The `f64` weights are exact rationals here.

| here | there |
|---|---|
| `Remaining` | what `remaining(env, &stats)` returns (generation/property.rs) |
| `frequency` | `frequency` (generation/mod.rs), modelled from the spec (§4.2) |
| `randomRead`, …, `randomFault` | plan.rs:672-713 |
| `Interactions.arbitraryFrom` | `ArbitraryFrom<(&SimulatorEnv, InteractionStats)> for Interactions` (plan.rs:715-777) |
| `generateLoop`, `InteractionPlan.arbitraryFrom` | `ArbitraryFrom<&mut SimulatorEnv> for InteractionPlan` (plan.rs:472-500) |

`arbitraryFrom_some_allowed`: the weighted choice always lands on a producer of positive weight,
so an item is always made; it is never a `Drop`, a `CreateIndex` only when a table exists, and a
`ReopenDatabase` only when it is enabled. `InteractionPlan.arbitraryFrom_spec`: the plan has
`max 1 max_interactions` items, the first the `Create`, each later one drawn from the
environment and the stats of the plan before it, and allowed there.
-/

namespace LimboSim

/-- The per-kind slack `remaining(env, &stats)` returns; the spec clamps it at zero (§4.2). -/
structure Remaining where
  read : ℚ
  write : ℚ
  create : ℚ
  createIndex : ℚ
  delete : ℚ
  update : ℚ
  read_nonneg : 0 ≤ read
  write_nonneg : 0 ≤ write
  create_nonneg : 0 ≤ create
  createIndex_nonneg : 0 ≤ createIndex
  delete_nonneg : 0 ≤ delete
  update_nonneg : 0 ≤ update

/-- The fields of `env.opts` that plan.rs reads. -/
structure SimulatorOpts where
  maxInteractions : Nat
  disableReopenDatabase : Bool

/-- The random draws for one item. `gen_range(0.0..total)` is `unit * total` and
`gen_range(0..n)` is `faultIndex % n`; the rest is what the `arbitrary` functions return. -/
structure Draws where
  unit : ℚ
  unit_nonneg : 0 ≤ unit
  unit_lt_one : unit < 1
  faultIndex : Nat
  property : Property
  select : Select
  insert : Insert
  create : Create
  createIndex : CreateIndex
  delete : Delete
  update : Update
  drop : Drop

/-! ## Weighted choice -/

/-- The sum of the weights. -/
def totalWeight {α : Type} : List (ℚ × α) → ℚ
  | [] => 0
  | (w, _) :: rest => w + totalWeight rest

/-- The first choice whose cumulative weight exceeds `d`; `none` is the `unreachable!` past the
last one. -/
def pick {α : Type} : List (ℚ × α) → ℚ → Option α
  | [], _ => none
  | (w, x) :: rest, d => if d < w then some x else pick rest (d - w)

/-- Modelled from the spec: `frequency` (§4.2) draws `d` uniform in `[0, T)`, `T` the total
weight, and dispatches to the first choice whose cumulative weight exceeds `d`. An empty range
(`T ≤ 0`) makes `gen_range` panic: `none`. -/
def frequency {α : Type} (choices : List (ℚ × α)) (unit : ℚ) : Option α :=
  if 0 < totalWeight choices then pick choices (unit * totalWeight choices) else none

/-! ## One item -/

def randomCreate (d : Draws) : Interactions := .query (.create d.create)

def randomRead (d : Draws) : Interactions := .query (.select d.select)

def randomWrite (d : Draws) : Interactions := .query (.insert d.insert)

def randomDelete (d : Draws) : Interactions := .query (.delete d.delete)

def randomUpdate (d : Draws) : Interactions := .query (.update d.update)

def randomDrop (d : Draws) : Interactions := .query (.drop d.drop)

/-- `random_create_index` (plan.rs:696-703): none without a table. -/
def randomCreateIndex (env : SimulatorEnv) (d : Draws) : Option Interactions :=
  if env.tables.isEmpty then none else some (.query (.createIndex d.createIndex))

/-- `random_fault` (plan.rs:705-713). -/
def randomFault (opts : SimulatorOpts) (d : Draws) : Interactions :=
  let faults := if opts.disableReopenDatabase then [Fault.disconnect] else [.disconnect, .reopenDatabase]
  .fault (faults.getD (d.faultIndex % faults.length) .disconnect)

/-- The weights and producers of `Interactions::arbitrary_from` (plan.rs:721-774). -/
def Interactions.choices (opts : SimulatorOpts) (env : SimulatorEnv) (r : Remaining) (d : Draws) :
    List (ℚ × Interactions) :=
  [(min r.read r.write + r.create, .property d.property),
    (r.read, randomRead d),
    (r.write, randomWrite d),
    (r.create, randomCreate d),
    (r.createIndex, (randomCreateIndex env d).getD (randomCreate d)),
    (r.delete, randomDelete d),
    (r.update, randomUpdate d),
    (0, randomDrop d),
    (max (min (min r.read r.write) r.create) 1, randomFault opts d)]

/-- `Interactions::arbitrary_from` (plan.rs:715-777), `r` the value of `remaining(env, &stats)`. -/
def Interactions.arbitraryFrom (opts : SimulatorOpts) (env : SimulatorEnv) (r : Remaining) (d : Draws) :
    Option Interactions :=
  frequency (Interactions.choices opts env r d) d.unit

/-! ## The weighted choice lands on a positive weight -/

section
variable {α : Type}

theorem pick_pos : ∀ {cs : List (ℚ × α)} {d : ℚ}, (∀ c ∈ cs, 0 ≤ c.1) → 0 ≤ d → d < totalWeight cs →
    ∃ c ∈ cs, 0 < c.1 ∧ pick cs d = some c.2
  | [], _, _, hd, hlt => absurd hlt (by simp [totalWeight, hd])
  | (w, x) :: rest, d, hw, hd, hlt => by
    by_cases h : d < w
    · exact ⟨(w, x), List.mem_cons_self _ _, by simp only; linarith, by simp [pick, h]⟩
    · have hd' : d - w < totalWeight rest := by simp only [totalWeight] at hlt; linarith
      obtain ⟨c, hc, hpos, hp⟩ := pick_pos (d := d - w) (fun c hc => hw c (List.mem_cons_of_mem _ hc))
        (by linarith) hd'
      exact ⟨c, List.mem_cons_of_mem _ hc, hpos, by simp [pick, h, hp]⟩

theorem frequency_pos {cs : List (ℚ × α)} {u : ℚ} (hw : ∀ c ∈ cs, 0 ≤ c.1) (hu : 0 ≤ u) (hu1 : u < 1)
    (ht : 0 < totalWeight cs) : ∃ c ∈ cs, 0 < c.1 ∧ frequency cs u = some c.2 := by
  obtain ⟨c, hc, hpos, hp⟩ := pick_pos hw (mul_nonneg hu ht.le) (mul_lt_of_lt_one_left ht hu1)
  exact ⟨c, hc, hpos, by simp [frequency, ht, hp]⟩

end

/-! ## An item is always made -/

/-- What a generated item can be: no `Drop`, a `CreateIndex` only over a table, and a
`ReopenDatabase` only when it is enabled. -/
def Interactions.Allowed (opts : SimulatorOpts) (env : SimulatorEnv) (x : Interactions) : Prop :=
  (∀ dr, x ≠ .query (.drop dr)) ∧ (∀ ci, x = .query (.createIndex ci) → env.tables ≠ []) ∧
    (x = .fault .reopenDatabase → opts.disableReopenDatabase = false)

section
variable {opts : SimulatorOpts} {env : SimulatorEnv} {r : Remaining} {d : Draws}

theorem allowed_query {q : Query} (h1 : ∀ dr, q ≠ .drop dr) (h2 : ∀ ci, q ≠ .createIndex ci) :
    (Interactions.query q).Allowed opts env :=
  ⟨fun dr h => h1 dr (by injection h), fun ci h => absurd (by injection h) (h2 ci), fun h => nomatch h⟩

theorem allowed_randomCreateIndex : ((randomCreateIndex env d).getD (randomCreate d)).Allowed opts env := by
  unfold randomCreateIndex
  split
  · exact allowed_query (fun _ h => nomatch h) (fun _ h => nomatch h)
  · rename_i h
    refine ⟨fun _ h' => (nomatch h'), fun _ _ ht => ?_, fun h' => nomatch h'⟩
    simp [ht] at h

theorem allowed_randomFault : (randomFault opts d).Allowed opts env := by
  refine ⟨fun _ h => (nomatch h), fun _ h => (nomatch h), fun h => ?_⟩
  cases hd : opts.disableReopenDatabase
  · rfl
  · simp [randomFault, hd, Nat.mod_one] at h

theorem choices_nonneg : ∀ c ∈ Interactions.choices opts env r d, 0 ≤ c.1 := by
  simp only [Interactions.choices, List.mem_cons, List.mem_singleton, List.not_mem_nil, or_false]
  rintro c (rfl | rfl | rfl | rfl | rfl | rfl | rfl | rfl | rfl)
  exacts [add_nonneg (le_min r.read_nonneg r.write_nonneg) r.create_nonneg, r.read_nonneg,
    r.write_nonneg, r.create_nonneg, r.createIndex_nonneg, r.delete_nonneg, r.update_nonneg, le_rfl,
    le_max_of_le_right zero_le_one]

theorem one_le_totalWeight_choices : 1 ≤ totalWeight (Interactions.choices opts env r d) := by
  have := r.create_nonneg; have := r.createIndex_nonneg; have := r.delete_nonneg; have := r.update_nonneg
  have := r.read_nonneg; have := r.write_nonneg
  have := le_min r.read_nonneg r.write_nonneg
  have := le_max_right (min (min r.read r.write) r.create) 1
  simp only [Interactions.choices, totalWeight]
  linarith

theorem choices_allowed : ∀ c ∈ Interactions.choices opts env r d, 0 < c.1 → c.2.Allowed opts env := by
  simp only [Interactions.choices, List.mem_cons, List.mem_singleton, List.not_mem_nil, or_false]
  rintro c (rfl | rfl | rfl | rfl | rfl | rfl | rfl | rfl | rfl) hpos
  · exact ⟨fun _ h => (nomatch h), fun _ h => (nomatch h), fun h => nomatch h⟩
  · exact allowed_query (fun _ h => nomatch h) (fun _ h => nomatch h)
  · exact allowed_query (fun _ h => nomatch h) (fun _ h => nomatch h)
  · exact allowed_query (fun _ h => nomatch h) (fun _ h => nomatch h)
  · exact allowed_randomCreateIndex
  · exact allowed_query (fun _ h => nomatch h) (fun _ h => nomatch h)
  · exact allowed_query (fun _ h => nomatch h) (fun _ h => nomatch h)
  · exact absurd hpos (lt_irrefl 0)
  · exact allowed_randomFault

end

/-- The weighted choice lands on a producer of positive weight: the weights are never all zero,
the fault's being at least 1. -/
theorem arbitraryFrom_pick (opts : SimulatorOpts) (env : SimulatorEnv) (r : Remaining) (d : Draws) :
    ∃ c ∈ Interactions.choices opts env r d, 0 < c.1 ∧ Interactions.arbitraryFrom opts env r d = some c.2 :=
  frequency_pos choices_nonneg d.unit_nonneg d.unit_lt_one (lt_of_lt_of_le one_pos one_le_totalWeight_choices)

/-- Every item made is allowed: the `Drop` has weight 0 and is never picked. -/
theorem arbitraryFrom_allowed {opts : SimulatorOpts} {env : SimulatorEnv} {r : Remaining} {d : Draws}
    {x : Interactions} (h : Interactions.arbitraryFrom opts env r d = some x) : x.Allowed opts env := by
  obtain ⟨c, hc, hpos, hx⟩ := arbitraryFrom_pick opts env r d
  rw [h] at hx
  exact Option.some_injective _ hx ▸ choices_allowed c hc hpos

/-- **An item is always made**, and it is allowed: never a `Drop`, a `CreateIndex` only when a
table exists, a `ReopenDatabase` only when it is enabled. -/
theorem arbitraryFrom_some_allowed (opts : SimulatorOpts) (env : SimulatorEnv) (r : Remaining) (d : Draws) :
    ∃ x, Interactions.arbitraryFrom opts env r d = some x ∧ x.Allowed opts env :=
  have ⟨c, _, _, hx⟩ := arbitraryFrom_pick opts env r d
  ⟨c.2, hx, arbitraryFrom_allowed hx⟩

/-! ## The plan -/

section
variable (opts : SimulatorOpts) (remaining : SimulatorEnv → InteractionStats → Remaining)
  (draws : Nat → Draws) (sh : Query → SimulatorEnv → SimulatorEnv) (m : Methods)

/-- `while plan.plan.len() < env.opts.max_interactions` (plan.rs:483-495), at most `fuel` passes;
`draws k` are the draws of the item made when the plan holds `k` items. -/
def generateLoop : Nat → InteractionPlan → SimulatorEnv → Option (InteractionPlan × SimulatorEnv)
  | 0, _, _ => none
  | fuel + 1, P, env =>
    if P.plan.length < opts.maxInteractions then do
      let x ← Interactions.arbitraryFrom opts env (remaining env (P.stats m)) (draws P.plan.length)
      generateLoop fuel ⟨P.plan ++ [x]⟩ (x.shadow sh m env)
    else some (P, env)

/-- `InteractionPlan::arbitrary_from` (plan.rs:472-500), `create` what `Create::arbitrary`
returns: the plan, and the environment it leaves. -/
def InteractionPlan.arbitraryFrom (create : Create) (env : SimulatorEnv) :
    Option (InteractionPlan × SimulatorEnv) :=
  generateLoop opts remaining draws sh m (opts.maxInteractions + 1) ⟨[.query (.create create)]⟩
    { env with tables := env.tables ++ [create.table] }

/-- The environment after the items of `P` past the first, from `env0`. -/
def envAfter (env0 : SimulatorEnv) (P : List Interactions) : SimulatorEnv :=
  (P.drop 1).foldl (fun env x => x.shadow sh m env) env0

/-- Each item past the first is what the generator makes from the environment and the stats of
the items before it. -/
def Drawn (env0 : SimulatorEnv) (P : List Interactions) : Prop :=
  ∀ k (hk : k < P.length), 0 < k →
    Interactions.arbitraryFrom opts (envAfter sh m env0 (P.take k))
      (remaining (envAfter sh m env0 (P.take k)) (InteractionPlan.stats m ⟨P.take k⟩)) (draws k) = some P[k]

end

section
variable {opts : SimulatorOpts} {remaining : SimulatorEnv → InteractionStats → Remaining}
  {draws : Nat → Draws} {sh : Query → SimulatorEnv → SimulatorEnv} {m : Methods} {env0 : SimulatorEnv}

theorem envAfter_snoc {P : List Interactions} (hP : P ≠ []) (x : Interactions) :
    envAfter sh m env0 (P ++ [x]) = x.shadow sh m (envAfter sh m env0 P) := by
  obtain ⟨y, P, rfl⟩ := List.exists_cons_of_ne_nil hP
  simp [envAfter]

theorem drawn_snoc {P : List Interactions} {x : Interactions}
    (hd : Drawn opts remaining draws sh m env0 P)
    (hx : Interactions.arbitraryFrom opts (envAfter sh m env0 P)
      (remaining (envAfter sh m env0 P) (InteractionPlan.stats m ⟨P⟩)) (draws P.length) = some x) :
    Drawn opts remaining draws sh m env0 (P ++ [x]) := by
  intro k hk hk0
  rcases Nat.lt_or_ge k P.length with hlt | hge
  · rw [List.take_append_of_le_length hlt.le, List.getElem_append_left hlt]
    exact hd k hlt hk0
  · have hkP : k = P.length := by simp at hk; omega
    subst hkP
    simpa using hx

variable (opts remaining draws sh m env0) in
/-- **The loop.** From a plan whose items past the first were drawn, and the environment they
leave, the loop returns a plan of `max` the length and `max_interactions` that extends it, whose
items past the first were drawn, and the environment they leave. -/
theorem generateLoop_spec : ∀ (fuel : Nat) (P : InteractionPlan), P.plan ≠ [] →
    opts.maxInteractions - P.plan.length < fuel → Drawn opts remaining draws sh m env0 P.plan →
    ∃ P', generateLoop opts remaining draws sh m fuel P (envAfter sh m env0 P.plan) =
        some (P', envAfter sh m env0 P'.plan) ∧
      P'.plan.length = max P.plan.length opts.maxInteractions ∧ P.plan <+: P'.plan ∧
      Drawn opts remaining draws sh m env0 P'.plan
  | 0, _, _, hf, _ => absurd hf (Nat.not_lt_zero _)
  | fuel + 1, P, hP, hf, hd => by
    by_cases hlt : P.plan.length < opts.maxInteractions
    · obtain ⟨⟨_, x⟩, -, -, hx⟩ := arbitraryFrom_pick opts (envAfter sh m env0 P.plan)
        (remaining (envAfter sh m env0 P.plan) (P.stats m)) (draws P.plan.length)
      obtain ⟨P', hg, hl, hpre, hd'⟩ := generateLoop_spec fuel ⟨P.plan ++ [x]⟩ (by simp)
        (by simp only [List.length_append, List.length_singleton]; omega) (drawn_snoc hd hx)
      simp only [List.length_append, List.length_singleton, envAfter_snoc hP] at hl hg
      refine ⟨P', ?_, by rw [hl, max_eq_right hlt, max_eq_right hlt.le], (List.prefix_append _ _).trans hpre, hd'⟩
      simpa [generateLoop, hlt, hx] using hg
    · exact ⟨P, by simp [generateLoop, hlt], (max_eq_left (by omega)).symm, List.prefix_refl _, hd⟩


theorem drawn_allowed {P : List Interactions} (hd : Drawn opts remaining draws sh m env0 P) {k : Nat}
    (hk : k < P.length) (hk0 : 0 < k) : P[k].Allowed opts (envAfter sh m env0 (P.take k)) :=
  arbitraryFrom_allowed (hd k hk hk0)

end

/-- **A generated plan.** `InteractionPlan::arbitrary_from` returns a plan of
`max 1 max_interactions` items: the `Create` first, then items each drawn from the environment
the items before it leave and from their stats, and each allowed in that environment. No item is
a `Drop`, and the environment it returns is the one all the items' shadows leave. -/
theorem InteractionPlan.arbitraryFrom_spec (opts : SimulatorOpts)
    (remaining : SimulatorEnv → InteractionStats → Remaining) (draws : Nat → Draws)
    (sh : Query → SimulatorEnv → SimulatorEnv) (m : Methods) (create : Create) (env : SimulatorEnv) :
    let env0 := { env with tables := env.tables ++ [create.table] }
    ∃ P, InteractionPlan.arbitraryFrom opts remaining draws sh m create env = some (P, envAfter sh m env0 P.plan) ∧
      P.plan.length = max 1 opts.maxInteractions ∧ P.plan.head? = some (.query (.create create)) ∧
      Drawn opts remaining draws sh m env0 P.plan ∧
      (∀ k (hk : k < P.plan.length), 0 < k → P.plan[k].Allowed opts (envAfter sh m env0 (P.plan.take k))) ∧
      ∀ dr, .query (.drop dr) ∉ P.plan := by
  intro env0
  obtain ⟨P, hg, hl, ⟨t, ht⟩, hd⟩ := generateLoop_spec opts remaining draws sh m env0 (opts.maxInteractions + 1)
    ⟨[.query (.create create)]⟩ (List.cons_ne_nil _ _) (by simp; omega) (fun k hk hk0 => by simp at hk; omega)
  have hhead : P.plan.head? = some (.query (.create create)) := by rw [← ht]; rfl
  refine ⟨P, hg, hl, hhead, hd, fun k hk hk0 => drawn_allowed hd hk hk0, fun dr hdr => ?_⟩
  obtain ⟨k, hk, hkx⟩ := List.getElem_of_mem hdr
  rcases Nat.eq_zero_or_pos k with rfl | hk0
  · rw [List.head?_eq_getElem?, List.getElem?_eq_getElem hk, hkx] at hhead
    cases hhead
  · exact (drawn_allowed hd hk hk0).1 dr hkx

end LimboSim