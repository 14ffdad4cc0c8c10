import LimboSim.Model
/-! # `Interaction::execute_fault` (plan.rs:616-669)

The engine's side of a fault is a `FaultEngine`: `Database::open_file` on the database path, the
`db.connect()` calls, and whether `SimConnection::disconnect` returns (runner/env.rs is not in
the source). A panic is `none`.

| here | there |
|---|---|
| `executeFault` | `Interaction::execute_fault` (plan.rs:616-669) |
| `reconnect` | the `for _ in 0..num_conns` loop of `ReopenDatabase` (plan.rs:660-663) |
| `Reachable` | the environments a run of faults reaches |
| `runFaults` | faults run one after another, each with its connection index |

Every reachable environment keeps the number of connection slots it started with; a
`Disconnect` fails exactly on a slot that is not connected and then changes nothing, and
otherwise empties its own slot only; after a `ReopenDatabase` every slot is live
(`executeFault_slots`).

Over a whole run the slots follow a reference model in which the last fault that touches a slot
decides whether it is live (`liveAfter`): a `Disconnect` of it leaves it dead, a
`ReopenDatabase` live. A `Disconnect` returns `Err` exactly when the reference has its slot dead
at that point (`runFaults_refines`). With an engine whose calls succeed and indices in range, a
run never panics (`runFaults_returns`).
-/

namespace LimboSim

/-- The engine calls of `execute_fault`. -/
structure FaultEngine where
  openFile : String → Except LimboError Database
  connect : Database → Nat → Except LimboError Connection
  disconnect : Connection → Bool

/-- `for _ in 0..num_conns { … push(LimboConnection(env.db.connect().unwrap())) }`
(plan.rs:660-663); the `n`-th call is `connect db n`. -/
def reconnect (eng : FaultEngine) (db : Database) : Nat → Option (List SimConnection)
  | 0 => some []
  | n + 1 => do
    let conns ← reconnect eng db n
    let conn ← (eng.connect db n).toOption
    pure (conns ++ [.limboConnection conn])

/-- `Interaction::execute_fault` (plan.rs:616-669): the result and the environment after it. The
indexing of `env.connections`, a failed `open_file` (the `panic!` of :655), a failed `connect`
and the `unreachable!` of the other interactions are `none`. -/
def executeFault (eng : FaultEngine) (env : SimulatorEnv) (connIndex : Nat) :
    Interaction → Option (Except LimboError Unit × SimulatorEnv)
  | .fault .disconnect => do
    let slot ← env.connections[connIndex]?
    match slot with
    | .limboConnection conn =>
      if eng.disconnect conn then
        pure (.ok (), { env with connections := env.connections.set connIndex .disconnected })
      else none
    | .disconnected => pure (.error (.internalError "connection already disconnected"), env)
  | .fault .reopenDatabase => do
    let db ← (eng.openFile env.dbPath).toOption
    let conns ← reconnect eng db env.connections.length
    pure (.ok (), { env with db := db, connections := conns })
  | _ => none

/-- The environments that faults run one after another reach from `env₀`. -/
inductive Reachable (eng : FaultEngine) (env₀ : SimulatorEnv) : SimulatorEnv → Prop
  | init : Reachable eng env₀ env₀
  | step {env env' : SimulatorEnv} {r : Except LimboError Unit} (f : Fault) (i : Nat) :
      Reachable eng env₀ env → executeFault eng env i (.fault f) = some (r, env') → Reachable eng env₀ env'

section
variable {eng : FaultEngine} {env env' : SimulatorEnv} {i : Nat} {r : Except LimboError Unit}

theorem reconnect_spec {db : Database} :
    ∀ {n : Nat} {cs : List SimConnection}, reconnect eng db n = some cs →
      cs.length = n ∧ ∀ s ∈ cs, s.isConnected = true
  | 0, cs, h => by cases h; simp
  | n + 1, cs, h => by
    obtain ⟨cs', h', h''⟩ := Option.bind_eq_some.1 h
    obtain ⟨conn, -, h'''⟩ := Option.bind_eq_some.1 h''
    cases h'''
    obtain ⟨hl, hc⟩ := reconnect_spec h'
    refine ⟨by simp [hl], fun s hs => ?_⟩
    rcases List.mem_append.1 hs with hs | hs
    · exact hc s hs
    · simp only [List.mem_singleton] at hs; subst hs; rfl

theorem reconnect_returns (hc : ∀ db n, ∃ c, eng.connect db n = .ok c) (db : Database) :
    ∀ n, ∃ cs, reconnect eng db n = some cs
  | 0 => ⟨[], rfl⟩
  | n + 1 => by
    obtain ⟨cs, hcs⟩ := reconnect_returns hc db n
    obtain ⟨c, hc'⟩ := hc db n
    exact ⟨_, by simp [reconnect, hcs, hc']; rfl⟩

/-- What a `Disconnect` can do: fail on an empty slot and change nothing, or empty a live one. -/
theorem executeFault_disconnect (h : executeFault eng env i (.fault .disconnect) = some (r, env')) :
    (env.connections[i]? = some .disconnected ∧ r = .error (.internalError "connection already disconnected") ∧
        env' = env) ∨
      (∃ conn, env.connections[i]? = some (.limboConnection conn) ∧ r = .ok () ∧
        env' = { env with connections := env.connections.set i .disconnected }) := by
  obtain ⟨slot, hs, h⟩ := Option.bind_eq_some.1 h
  cases slot with
  | disconnected => cases h; exact .inl ⟨hs, rfl, rfl⟩
  | limboConnection conn =>
    simp only at h
    split at h
    · cases h; exact .inr ⟨conn, hs, rfl, rfl⟩
    · cases h

/-- What a `ReopenDatabase` does: a new database and a live connection in each slot. -/
theorem executeFault_reopen (h : executeFault eng env i (.fault .reopenDatabase) = some (r, env')) :
    r = .ok () ∧ env'.connections.length = env.connections.length ∧
      ∀ s ∈ env'.connections, s.isConnected = true := by
  obtain ⟨db, -, h⟩ := Option.bind_eq_some.1 h
  obtain ⟨cs, hcs, h⟩ := Option.bind_eq_some.1 h
  cases h
  exact ⟨rfl, reconnect_spec hcs⟩

/-- On a live slot whose connection the engine disconnects, a `Disconnect` succeeds and empties
that slot. -/
theorem executeFault_disconnect_live {conn : Connection}
    (hs : env.connections[i]? = some (.limboConnection conn)) (hd : eng.disconnect conn = true) :
    executeFault eng env i (.fault .disconnect) =
      some (.ok (), { env with connections := env.connections.set i .disconnected }) := by
  simp [executeFault, hs, hd]

/-- When the database opens and every connection connects, a `ReopenDatabase` returns. -/
theorem executeFault_reopen_returns (ho : ∃ db, eng.openFile env.dbPath = .ok db)
    (hc : ∀ db n, ∃ c, eng.connect db n = .ok c) :
    ∃ env', executeFault eng env i (.fault .reopenDatabase) = some (.ok (), env') := by
  obtain ⟨db, hdb⟩ := ho
  obtain ⟨cs, hcs⟩ := reconnect_returns hc db env.connections.length
  exact ⟨{ env with db := db, connections := cs }, by simp [executeFault, hdb, hcs, Except.toOption]⟩

/-- One fault keeps the number of slots. -/
theorem executeFault_length {f : Fault} (h : executeFault eng env i (.fault f) = some (r, env')) :
    env'.connections.length = env.connections.length := by
  cases f with
  | disconnect =>
    rcases executeFault_disconnect h with ⟨-, -, rfl⟩ | ⟨-, -, -, rfl⟩
    · rfl
    · exact List.length_set ..
  | reopenDatabase => exact (executeFault_reopen h).2.1

theorem Reachable.length {env₀ : SimulatorEnv} (h : Reachable eng env₀ env) :
    env.connections.length = env₀.connections.length := by
  induction h with
  | init => rfl
  | step _ _ _ hs ih => rw [executeFault_length hs, ih]

end

/-- **Faults keep the connection slots.** Every environment a run of faults reaches from `env₀`
has `env₀`'s number of slots. A `Disconnect` on an empty slot returns `Err` and leaves the
environment as it was; on a live slot whose connection the engine disconnects it returns `Ok` and
marks that slot `Disconnected`. One that returns `Err` was on an empty slot, and one that succeeds
marks its own slot `Disconnected` and changes nothing else. A `ReopenDatabase` returns when the
database opens and the connections connect, and after it every slot, as many as before, holds a
live connection. -/
theorem executeFault_slots (eng : FaultEngine) (env₀ : SimulatorEnv) :
    (∀ env, Reachable eng env₀ env → env.connections.length = env₀.connections.length) ∧
    (∀ env i, env.connections[i]? = some .disconnected →
      executeFault eng env i (.fault .disconnect) =
        some (.error (.internalError "connection already disconnected"), env)) ∧
    (∀ env i conn, env.connections[i]? = some (.limboConnection conn) → eng.disconnect conn = true →
      executeFault eng env i (.fault .disconnect) =
        some (.ok (), { env with connections := env.connections.set i .disconnected })) ∧
    (∀ env i r env', executeFault eng env i (.fault .disconnect) = some (r, env') →
        ((∃ e, r = .error e) ↔ env.connections[i]?.map SimConnection.isConnected = some false) ∧
        ((∃ e, r = .error e) → env' = env) ∧
        (r = .ok () → env' = { env with connections := env.connections.set i .disconnected })) ∧
    (∀ env i, (∃ db, eng.openFile env.dbPath = .ok db) → (∀ db n, ∃ c, eng.connect db n = .ok c) →
      ∃ env', executeFault eng env i (.fault .reopenDatabase) = some (.ok (), env')) ∧
    (∀ env i r env', executeFault eng env i (.fault .reopenDatabase) = some (r, env') →
      r = .ok () ∧ env'.connections.length = env.connections.length ∧
        ∀ s ∈ env'.connections, s.isConnected = true) := by
  refine ⟨fun env h => h.length, fun env i h => by simp [executeFault, h],
    fun env i conn hs hd => executeFault_disconnect_live hs hd, fun env i r env' h => ?_,
    fun env i ho hc => executeFault_reopen_returns ho hc, fun env i r env' h => executeFault_reopen h⟩
  rcases executeFault_disconnect h with ⟨hs, rfl, rfl⟩ | ⟨conn, hs, rfl, rfl⟩
  · simp [hs, SimConnection.isConnected]
  · simp [hs, SimConnection.isConnected]

/-! ## Runs of faults -/

/-- Faults run one after another, each with the connection index it is given; `none` if one
panics. -/
def runFaults (eng : FaultEngine) :
    SimulatorEnv → List (Fault × Nat) → Option (List (Except LimboError Unit) × SimulatorEnv)
  | env, [] => some ([], env)
  | env, (f, i) :: fs => do
    let (r, env') ← executeFault eng env i (.fault f)
    let (rs, env'') ← runFaults eng env' fs
    pure (r :: rs, env'')

/-- Which slots hold a live connection. -/
def SimulatorEnv.live (env : SimulatorEnv) : List Bool := env.connections.map SimConnection.isConnected

/-- Reference: slot `i` after one fault, from whether it was live before. -/
def liveStep (i : Nat) (live : Bool) : Fault × Nat → Bool
  | (.disconnect, j) => if j = i then false else live
  | (.reopenDatabase, _) => true

/-- Reference: slot `i` is live after `fs` when the last fault of `fs` that touches it is a
`ReopenDatabase`, dead when it is a `Disconnect` of `i`, and as it was when there is none. -/
def liveAfter (i : Nat) (live : Bool) (fs : List (Fault × Nat)) : Bool := fs.foldl (liveStep i) live

section
variable {eng : FaultEngine} {env env' : SimulatorEnv} {i : Nat} {r : Except LimboError Unit}

/-- One fault moves every slot as the reference says. -/
theorem executeFault_live {f : Fault} (h : executeFault eng env i (.fault f) = some (r, env')) (j : Nat) :
    env'.live[j]? = env.live[j]?.map (liveStep j · (f, i)) := by
  cases f with
  | disconnect =>
    rcases executeFault_disconnect h with ⟨hs, -, rfl⟩ | ⟨_, hs, -, rfl⟩
    · by_cases hj : i = j
      · subst hj; simp [SimulatorEnv.live, liveStep, hs, SimConnection.isConnected]
      · simp [liveStep, hj]
    · have hi : i < env.connections.length := (List.getElem?_eq_some_iff.1 hs).1
      by_cases hj : i = j
      · subst hj; simp [SimulatorEnv.live, liveStep, hi, SimConnection.isConnected]
      · simp only [SimulatorEnv.live, List.getElem?_map, List.getElem?_set_ne hj]
        cases env.connections[j]? <;> simp [liveStep, hj]
  | reopenDatabase =>
    obtain ⟨-, hl, hc⟩ := executeFault_reopen h
    simp only [SimulatorEnv.live, List.getElem?_map, liveStep]
    rcases Nat.lt_or_ge j env.connections.length with hj | hj
    · simp [List.getElem?_eq_getElem hj, List.getElem?_eq_getElem (hl ▸ hj), hc _ (List.getElem_mem _)]
    · simp [List.getElem?_eq_none hj, List.getElem?_eq_none (hl ▸ hj)]

/-- One fault returns `Err` exactly when it disconnects a dead slot. -/
theorem executeFault_error_iff {f : Fault} (h : executeFault eng env i (.fault f) = some (r, env')) :
    (∃ e, r = .error e) ↔ f = .disconnect ∧ env.live[i]? = some false := by
  cases f with
  | disconnect =>
    rcases executeFault_disconnect h with ⟨hs, rfl, -⟩ | ⟨_, hs, rfl, -⟩ <;>
      simp [SimulatorEnv.live, hs, SimConnection.isConnected]
  | reopenDatabase => simp [(executeFault_reopen h).1]

theorem runFaults_cons {f : Fault} {fs : List (Fault × Nat)} {rs : List (Except LimboError Unit)}
    (h : runFaults eng env ((f, i) :: fs) = some (rs, env')) :
    ∃ r env₁ rs', executeFault eng env i (.fault f) = some (r, env₁) ∧
      runFaults eng env₁ fs = some (rs', env') ∧ rs = r :: rs' := by
  obtain ⟨⟨r, env₁⟩, h1, h⟩ := Option.bind_eq_some.1 h
  obtain ⟨⟨rs', env''⟩, h2, h⟩ := Option.bind_eq_some.1 h
  cases h
  exact ⟨r, env₁, rs', h1, h2, rfl⟩

end

/-- **A run of faults refines the reference.** After any run that does not panic, each slot is
live exactly when `liveAfter` says, from its liveness before the run; there is one result per
fault, and result `k` is `Err` exactly when fault `k` is a `Disconnect` of a slot the reference
has dead after the faults before it. -/
theorem runFaults_refines {eng : FaultEngine} {env env' : SimulatorEnv} {fs : List (Fault × Nat)}
    {rs : List (Except LimboError Unit)} (h : runFaults eng env fs = some (rs, env')) :
    (∀ j, env'.live[j]? = env.live[j]?.map (liveAfter j · fs)) ∧ rs.length = fs.length ∧
      ∀ k r, rs[k]? = some r → ((∃ e, r = .error e) ↔
        ∃ i, fs[k]? = some (.disconnect, i) ∧ env.live[i]?.map (liveAfter i · (fs.take k)) = some false) := by
  induction fs generalizing env rs with
  | nil =>
    cases h
    exact ⟨fun j => by simp [liveAfter], rfl, fun k r hr => nomatch hr⟩
  | cons fi fs ih =>
    obtain ⟨f, i⟩ := fi
    obtain ⟨r, env₁, rs', h1, h2, rfl⟩ := runFaults_cons h
    obtain ⟨hlive, hlen, herr⟩ := ih h2
    refine ⟨fun j => by rw [hlive, executeFault_live h1, Option.map_map]; rfl,
      by simp [hlen], fun k r' hr => ?_⟩
    cases k with
    | zero =>
      obtain rfl : r = r' := by simpa using hr
      rw [executeFault_error_iff h1]
      cases f <;> simp [liveAfter]
    | succ k =>
      rw [List.getElem?_cons_succ] at hr
      rw [herr k r' hr]
      simp only [List.getElem?_cons_succ, List.take_succ_cons, executeFault_live h1, Option.map_map]
      rfl

/-- An engine whose calls all succeed; the `n`-th connection it makes is `n`. -/
def okEngine : FaultEngine := ⟨fun _ => .ok 0, fun _ n => .ok n, fun _ => true⟩

/-- Two slots, both live. -/
def twoSlots : SimulatorEnv := ⟨[], [.limboConnection 0, .limboConnection 1], 0, "sim.db"⟩

/-- Slot 0 disconnected twice, then the database reopened: the second `Disconnect` fails, and
both slots end live. -/
theorem runFaults_refines_twoSlots :
    runFaults okEngine twoSlots [(.disconnect, 0), (.disconnect, 0), (.reopenDatabase, 1)] =
        some ([.ok (), .error (.internalError "connection already disconnected"), .ok ()], twoSlots) ∧
      (∀ j, twoSlots.live[j]? =
        twoSlots.live[j]?.map (liveAfter j · [(.disconnect, 0), (.disconnect, 0), (.reopenDatabase, 1)])) ∧
      [(Except.ok () : Except LimboError Unit), .error (.internalError "connection already disconnected"),
        .ok ()].length =
        [(Fault.disconnect, 0), (.disconnect, 0), (.reopenDatabase, 1)].length ∧
      ∀ k r, [(Except.ok () : Except LimboError Unit), .error (.internalError "connection already disconnected"),
        .ok ()][k]? = some r →
        ((∃ e, r = .error e) ↔ ∃ i, [(Fault.disconnect, 0), (.disconnect, 0), (.reopenDatabase, 1)][k]? =
          some (.disconnect, i) ∧ twoSlots.live[i]?.map
            (liveAfter i · ([(.disconnect, 0), (.disconnect, 0), (.reopenDatabase, 1)].take k)) = some false) :=
  have h : runFaults okEngine twoSlots [(.disconnect, 0), (.disconnect, 0), (.reopenDatabase, 1)] =
      some ([.ok (), .error (.internalError "connection already disconnected"), .ok ()], twoSlots) := rfl
  ⟨h, runFaults_refines h⟩

/-- **Faults do not panic on a working engine.** When every disconnect, open and connect of the
engine succeeds and every `Disconnect` names a slot that exists, a run of faults returns. -/
theorem runFaults_returns {eng : FaultEngine} (hd : ∀ c, eng.disconnect c = true)
    (ho : ∀ p, ∃ db, eng.openFile p = .ok db) (hc : ∀ db n, ∃ c, eng.connect db n = .ok c) :
    ∀ (fs : List (Fault × Nat)) (env : SimulatorEnv),
      (∀ i, (Fault.disconnect, i) ∈ fs → i < env.connections.length) →
      ∃ rs env', runFaults eng env fs = some (rs, env')
  | [], env, _ => ⟨[], env, rfl⟩
  | (f, i) :: fs, env, hi => by
    have hstep : ∃ r env₁, executeFault eng env i (.fault f) = some (r, env₁) := by
      cases f with
      | disconnect =>
        cases hs : env.connections[i]? with
        | none => exact absurd (List.getElem?_eq_none_iff.1 hs) (Nat.not_le.2 (hi i (List.mem_cons_self _ _)))
        | some s =>
          cases s with
          | limboConnection conn => exact ⟨_, _, executeFault_disconnect_live hs (hd conn)⟩
          | disconnected => exact ⟨.error (.internalError "connection already disconnected"), env,
              by simp [executeFault, hs]⟩
      | reopenDatabase =>
        obtain ⟨env₁, h⟩ := executeFault_reopen_returns (i := i) (ho env.dbPath) hc
        exact ⟨_, _, h⟩
    obtain ⟨r, env₁, h1⟩ := hstep
    obtain ⟨rs, env', h2⟩ := runFaults_returns hd ho hc fs env₁ fun j hj => by
      rw [executeFault_length h1]; exact hi j (List.mem_cons_of_mem _ hj)
    exact ⟨r :: rs, env', by simp [runFaults, h1, h2]⟩

theorem runFaults_returns_okEngine :
    (∀ c, okEngine.disconnect c = true) ∧ (∀ p, ∃ db, okEngine.openFile p = .ok db) ∧
      (∀ db n, ∃ c, okEngine.connect db n = .ok c) ∧
      (∀ i, (Fault.disconnect, i) ∈ [(Fault.disconnect, 1), (.reopenDatabase, 0)] →
        i < twoSlots.connections.length) ∧
      ∃ rs env', runFaults okEngine twoSlots [(.disconnect, 1), (.reopenDatabase, 0)] = some (rs, env') :=
  have hd : ∀ c, okEngine.disconnect c = true := fun _ => rfl
  have ho : ∀ p, ∃ db, okEngine.openFile p = .ok db := fun _ => ⟨0, rfl⟩
  have hc : ∀ db n, ∃ c, okEngine.connect db n = .ok c := fun _ n => ⟨n, rfl⟩
  have hi : ∀ i, (Fault.disconnect, i) ∈ [(Fault.disconnect, 1), (.reopenDatabase, 0)] →
      i < twoSlots.connections.length := fun i hi => by simp at hi; subst hi; decide
  ⟨hd, ho, hc, hi, runFaults_returns hd ho hc _ twoSlots hi⟩

end LimboSim
