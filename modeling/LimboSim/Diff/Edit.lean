import LimboSim.Diff.SubPlan
import LimboSim.Render
/-!
# Deleting lines from the plan file

A user edits the `.plan` file by deleting lines. An edit is `keep j n`: whether line `n` of the
rendering of item `j` stays. `editedLines` is the file left, `keptPlan` what the diff should make
of it: each item's interactions whose lines stayed, in order, and no item with none.

`matchPlan_editedLines` says the loop computes exactly `keptPlan`, provided that no interaction
whose line was deleted has its `to_string()` in the one line the loop compares it with
(`NoLateMatch`). That line is the first kept line after it (`linesAfter`), past the markers when
its item keeps no interaction, since the outer loop then steps over them first (`comparedLine`).
The loop takes that line when it contains the text (plan.rs:82-87), so without the proviso it can
return the deleted interaction in place of the one whose line was kept.
-/

namespace LimboSim

open Str

/-! ## An item's lines, with what each renders -/

/-- The marker lines above a property's interactions. -/
def Interactions.pre : Interactions → List String
  | .property p => [beginLine p]
  | _ => []

/-- The marker lines below a property's interactions. -/
def Interactions.suf : Interactions → List String
  | .property p => [endLine p]
  | _ => []

/-- The line interaction `y` of item `x` is rendered on. -/
def Interactions.lineOf (m : Methods) : Interactions → Interaction → String
  | .property _, y => "\t" ++ planLine m y
  | .query q, _ => m.sql q ++ ";"
  | .fault f, _ => "-- FAULT '" ++ f.toString ++ "'"

/-- Item `x`'s interactions, each with the line it is rendered on. -/
def Interactions.entries (m : Methods) (x : Interactions) : List (String × Interaction) :=
  (x.interactions m).map fun y => (x.lineOf m y, y)

/-- The lines of item `x`, each with the interaction it renders (`none` for a marker). -/
def Interactions.slots (m : Methods) (x : Interactions) : List (String × Option Interaction) :=
  x.pre.map (·, none) ++ (x.entries m).map (fun s => (s.1, some s.2)) ++ x.suf.map (·, none)

theorem slots_fst (m : Methods) (x : Interactions) : (x.slots m).map Prod.fst = x.lines m := by
  cases x <;> simp [Interactions.slots, Interactions.entries, Interactions.pre, Interactions.suf,
    Interactions.lineOf, Interactions.lines, Interactions.interactions, Function.comp_def]

theorem entries_snd (m : Methods) (x : Interactions) : (x.entries m).map Prod.snd = x.interactions m := by
  simp [Interactions.entries, Function.comp_def]

/-! ## Edits -/

/-- The elements of `S` an edit keeps: element `n` when `k n`. -/
def keptSlots {α : Type} : List α → (Nat → Bool) → List α
  | [], _ => []
  | s :: S, k => if k 0 then s :: keptSlots S (fun n => k (n + 1)) else keptSlots S (fun n => k (n + 1))

/-- The plan file after an edit: line `n` of item `j` stays when `keep j n`. -/
def editedLines (m : Methods) : List Interactions → (Nat → Nat → Bool) → List String
  | [], _ => []
  | x :: xs, keep => (keptSlots (x.slots m) (keep 0)).map Prod.fst ++ editedLines m xs (fun j => keep (j + 1))

/-- What the diff should return for an edit: each item's interactions whose lines stayed, and
no item with none. -/
def keptPlan (m : Methods) : List Interactions → (Nat → Nat → Bool) → List (List Interaction)
  | [], _ => []
  | x :: xs, keep =>
    if ((keptSlots (x.slots m) (keep 0)).filterMap Prod.snd).isEmpty then keptPlan m xs (fun j => keep (j + 1))
    else (keptSlots (x.slots m) (keep 0)).filterMap Prod.snd :: keptPlan m xs (fun j => keep (j + 1))

/-- Line `n` of item `j` of the rendering, with what it renders. -/
def slotAt (m : Methods) (xs : List Interactions) (j n : Nat) : Option (String × Option Interaction) :=
  xs[j]?.bind fun x => (x.slots m)[n]?

/-- The kept lines after line `n` of item `j`, to the end of the file. -/
def linesAfter (m : Methods) : List Interactions → (Nat → Nat → Bool) → Nat → Nat → List String
  | [], _, _, _ => []
  | x :: xs, keep, 0, n =>
    (keptSlots ((x.slots m).drop (n + 1)) (fun i => keep 0 (i + (n + 1)))).map Prod.fst ++
      editedLines m xs (fun j => keep (j + 1))
  | _ :: xs, keep, j + 1, n => linesAfter m xs (fun j => keep (j + 1)) j n

/-- Whether the edit keeps one of item `j`'s interactions. -/
def keepsInteraction (m : Methods) : List Interactions → (Nat → Nat → Bool) → Nat → Bool
  | [], _, _ => false
  | x :: _, keep, 0 => !((keptSlots (x.slots m) (keep 0)).filterMap Prod.snd).isEmpty
  | _ :: xs, keep, j + 1 => keepsInteraction m xs (fun j => keep (j + 1)) j

/-- The line the loop compares a deleted interaction with, from the kept lines `after` it: the
first of them; or, when its item keeps no interaction, the first that is not a marker, since the
outer loop steps over the markers before it hands the item a line (plan.rs:64-66). -/
def comparedLine (keepsSome : Bool) (after : List String) : Option String :=
  if keepsSome then after.head? else (after.dropWhile isMarker).head?

/-- No interaction whose line the edit deleted has its `to_string()` in the line the loop
compares it with. -/
def NoLateMatch (m : Methods) (xs : List Interactions) (keep : Nat → Nat → Bool) : Prop :=
  ∀ j n l y l', slotAt m xs j n = some (l, some y) → keep j n = false →
    comparedLine (keepsInteraction m xs keep j) (linesAfter m xs keep j n) = some l' →
    contains l' (y.toString m) = false

/-! ## `keptSlots` -/

section
variable {α β : Type}

theorem keptSlots_append (A B : List α) (k : Nat → Bool) :
    keptSlots (A ++ B) k = keptSlots A k ++ keptSlots B (fun n => k (n + A.length)) := by
  induction A generalizing k with
  | nil => rfl
  | cons a A ih => by_cases h : k 0 <;> simp [keptSlots, h, ih, Nat.add_assoc]

theorem keptSlots_map (f : α → β) (S : List α) (k : Nat → Bool) :
    keptSlots (S.map f) k = (keptSlots S k).map f := by
  induction S generalizing k with
  | nil => rfl
  | cons a S ih => by_cases h : k 0 <;> simp [keptSlots, h, ih]

theorem mem_keptSlots {S : List α} {k : Nat → Bool} {s : α} :
    s ∈ keptSlots S k ↔ ∃ n, S[n]? = some s ∧ k n = true := by
  induction S generalizing k with
  | nil => simp [keptSlots]
  | cons a S ih =>
    have e : (∃ n, (a :: S)[n]? = some s ∧ k n = true) ↔
        (a = s ∧ k 0 = true) ∨ ∃ n, S[n]? = some s ∧ k (n + 1) = true := by
      constructor
      · rintro ⟨_ | n, hn, hk⟩
        · exact .inl ⟨by simpa using hn, hk⟩
        · exact .inr ⟨n, by simpa using hn, hk⟩
      · rintro (⟨rfl, h⟩ | ⟨n, hn, hk⟩)
        exacts [⟨0, by simp, h⟩, ⟨n + 1, by simpa using hn, hk⟩]
    rw [e, ← ih]
    by_cases h0 : k 0 <;> simp [keptSlots, h0, eq_comm]

theorem mem_of_mem_keptSlots {S : List α} {k : Nat → Bool} {s : α} (h : s ∈ keptSlots S k) : s ∈ S :=
  let ⟨_, hn, _⟩ := mem_keptSlots.1 h
  List.getElem?_mem hn

/-- An edit that keeps nothing of `S` keeps nothing of its tail after `n`. -/
theorem keptSlots_drop_nil {S : List α} {k : Nat → Bool} {n : Nat} {s : α} (hM : keptSlots S k = [])
    (h : S[n]? = some s) : keptSlots (S.drop (n + 1)) (fun i => k (i + (n + 1))) = [] := by
  have e := keptSlots_append (S.take (n + 1)) (S.drop (n + 1)) k
  rw [List.take_append_drop, hM, List.length_take,
    min_eq_left (List.getElem?_eq_some_iff.1 h).1] at e
  exact (List.append_eq_nil.1 e.symm).2

end

/-! ## The loop on an edited file -/

section
variable {I : Type} (render : I → String)

theorem matchPlan_markers {ms : List String} (ls : List String) (ps : List (List I))
    (h : ∀ l ∈ ms, isMarker l = true) : matchPlan render (ms ++ ls) ps = matchPlan render ls ps := by
  induction ms with
  | nil => rfl
  | cons l ms ih =>
    rw [List.cons_append, matchPlan_marker _ _ (h l (List.mem_cons_self _ _))]
    exact ih fun l' hl' => h l' (List.mem_cons_of_mem _ hl')

theorem matchPlan_dropWhile (ls : List String) (ps : List (List I)) :
    matchPlan render (ls.dropWhile isMarker) ps = matchPlan render ls ps := by
  induction ls with
  | nil => rfl
  | cons l ls ih =>
    cases h : isMarker l
    · rw [List.dropWhile_cons_of_neg (by simp [h])]
    · rw [List.dropWhile_cons_of_pos h, ih, matchPlan_marker _ _ h]

/-- An item's interactions against its kept lines followed by `rest`: each kept interaction takes
its own line and the deleted ones are dropped, provided no deleted one is found in the line it is
compared with, the first kept line after it or else the first of `rest`. -/
theorem matchRow_kept (mids : List (String × I)) (k : Nat → Bool) (rest : List String)
    (hhit : ∀ s ∈ mids, Hit render s.2 s.1)
    (hcmp : ∀ n s, mids[n]? = some s → k n = false → ∀ l,
      ((keptSlots (mids.drop (n + 1)) (fun i => k (i + (n + 1)))).map Prod.fst ++ rest).head? = some l →
      contains l (render s.2) = false) :
    matchRow render ((keptSlots mids k).map Prod.fst ++ rest) (mids.map Prod.snd) =
      ((keptSlots mids k).map Prod.snd, rest) := by
  induction mids generalizing k with
  | nil => simp [keptSlots]
  | cons s mids ih =>
    have ih' := ih (fun n => k (n + 1)) (fun s' h => hhit s' (List.mem_cons_of_mem _ h))
      (fun n s₁ h₁ hk₁ => hcmp (n + 1) s₁ (by simpa using h₁) hk₁)
    cases h0 : k 0
    · simp only [keptSlots, h0, Bool.false_eq_true, if_false, List.map_cons]
      cases hl : (keptSlots mids fun n => k (n + 1)).map Prod.fst ++ rest with
      | nil =>
        obtain ⟨h1, rfl⟩ := List.append_eq_nil.1 hl
        simp [List.map_eq_nil_iff.1 h1]
      | cons l ls =>
        have hne := hcmp 0 s (by simp) h0 l (by simp [hl])
        rw [matchRow_cons_cons, if_neg (by simp [hne]), ← hl, ih']
    · simp only [keptSlots, h0, if_true, List.map_cons, List.cons_append]
      rw [matchRow_cons_cons, if_pos (show contains s.1 (render s.2) = true from
        hhit s (List.mem_cons_self _ _)), ih']

/-- One edited item: its kept marker lines are stepped over, its kept interactions taken, and the
item dropped when none of its interactions was kept. -/
theorem matchPlan_edit_item (kpre ksuf : List String) (mids : List (String × I)) (k : Nat → Bool)
    (E : List String) (ps : List (List I))
    (hpre : ∀ l ∈ kpre, isMarker l = true) (hsuf : ∀ l ∈ ksuf, isMarker l = true)
    (hmark : ∀ s ∈ mids, isMarker s.1 = false) (hhit : ∀ s ∈ mids, Hit render s.2 s.1)
    (hcmp : ∀ n s, mids[n]? = some s → k n = false → ∀ l,
      comparedLine (!(keptSlots mids k).isEmpty)
        ((keptSlots (mids.drop (n + 1)) (fun i => k (i + (n + 1)))).map Prod.fst ++ (ksuf ++ E)) = some l →
      contains l (render s.2) = false) :
    matchPlan render (kpre ++ (keptSlots mids k).map Prod.fst ++ ksuf ++ E) (mids.map Prod.snd :: ps) =
      (if (keptSlots mids k).isEmpty then [] else [(keptSlots mids k).map Prod.snd]) ++
        matchPlan render E ps := by
  rw [List.append_assoc, List.append_assoc, matchPlan_markers render _ _ hpre]
  cases hM : keptSlots mids k with
  | nil =>
    simp only [List.map_nil, List.nil_append, List.isEmpty_nil, if_true]
    rw [matchPlan_markers render _ _ hsuf, ← matchPlan_dropWhile render E,
      ← matchPlan_dropWhile render E ps]
    cases hD : E.dropWhile isMarker with
    | nil => simp
    | cons l ls =>
      have hl : isMarker l = false := by simpa [hD] using List.head?_dropWhile_not isMarker E
      have hr := matchRow_kept render mids k (l :: ls) hhit fun n s h hk l' hl' => hcmp n s h hk l' (by
        rw [keptSlots_drop_nil hM h] at hl' ⊢
        simpa [comparedLine, hM, List.dropWhile_append_of_pos hsuf, hD] using hl')
      simp only [hM, List.map_nil, List.nil_append] at hr
      rw [matchPlan_item render ls _ ps hl, hr]
      simp only [List.isEmpty_nil, if_true]
  | cons s M =>
    have hr := matchRow_kept render mids k (ksuf ++ E) hhit fun n s h hk l hl =>
      hcmp n s h hk l (by simpa [comparedLine, hM] using hl)
    have hs : isMarker s.1 = false := hmark s (mem_of_mem_keptSlots (hM ▸ List.mem_cons_self s M))
    rw [hM] at hr
    simp only [List.map_cons, List.cons_append] at hr ⊢
    rw [matchPlan_item render _ _ ps hs, hr]
    simp [matchPlan_markers render _ _ hsuf]

end

/-! ## Items of a plan -/

section
variable {m : Methods}

theorem isMarker_beginLine (p : Property) : isMarker (beginLine p) = true := by
  have h : "-- begin".data <+: (beginLine p).data := by
    simp only [beginLine, String.data_append]
    exact ((by decide : "-- begin".data <+: "-- begin testing '".data).trans
      (List.prefix_append _ _)).trans (List.prefix_append _ _)
  simp [isMarker, startsWith_iff.2 h]

theorem isMarker_endLine (p : Property) : isMarker (endLine p) = true := by
  have h : "-- end".data <+: (endLine p).data := by
    simp only [endLine, String.data_append]
    exact ((by decide : "-- end".data <+: "-- end testing '".data).trans
      (List.prefix_append _ _)).trans (List.prefix_append _ _)
  simp [isMarker, startsWith_iff.2 h]

theorem pre_marker (x : Interactions) : ∀ l ∈ x.pre, isMarker l = true := by
  cases x <;> simp [Interactions.pre, isMarker_beginLine]

theorem suf_marker (x : Interactions) : ∀ l ∈ x.suf, isMarker l = true := by
  cases x <;> simp [Interactions.suf, isMarker_endLine]

/-- A non-empty line that does not start with `--` is no marker. -/
theorem isMarker_of_not_dash {l : String} (hne : l.data ≠ []) (h : ¬ "--".data <+: l.data) :
    isMarker l = false := by
  have hb : startsWith l "-- begin" = false := Bool.eq_false_iff.2 fun hb =>
    h ((by decide : "--".data <+: "-- begin".data).trans (startsWith_iff.1 hb))
  have he : startsWith l "-- end" = false := Bool.eq_false_iff.2 fun he =>
    h ((by decide : "--".data <+: "-- end".data).trans (startsWith_iff.1 he))
  simp [isMarker, hb, he, isEmpty, hne]

theorem not_dash_semicolon {s : String} (h : ¬ "--".data <+: s.data) :
    ¬ "--".data <+: (s ++ ";").data := by
  rcases s with ⟨_ | ⟨a, _ | ⟨b, t⟩⟩⟩
  · simp [String.data_append]
  · simp [String.data_append]
  · simpa [String.data_append] using h

/-- No interaction line is a marker (a top-level query's SQL must not start with `--`). -/
theorem entries_marker (x : Interactions) (htop : ∀ q, x = .query q → startsWith (m.sql q) "--" = false) :
    ∀ s ∈ x.entries m, isMarker s.1 = false := by
  cases x with
  | property p =>
    simp only [Interactions.entries, Interactions.lineOf, List.mem_map]
    rintro _ ⟨y, -, rfl⟩
    exact isMarker_of_not_dash (by simp [String.data_append]) (by simp [String.data_append])
  | query q =>
    simp only [Interactions.entries, Interactions.interactions, Interactions.lineOf, List.map_cons,
      List.map_nil, List.mem_singleton]
    rintro _ rfl
    have hq : ¬ "--".data <+: (m.sql q).data := fun h => by simp [startsWith_iff.2 h] at htop
    exact isMarker_of_not_dash (by simp [String.data_append]) (not_dash_semicolon hq)
  | fault f => cases f <;> simp [Interactions.entries, Interactions.interactions, Interactions.lineOf] <;> decide


/-- Each interaction line contains the interaction's `to_string()`. -/
theorem entries_hit (x : Interactions) : ∀ s ∈ x.entries m, Hit (·.toString m) s.2 s.1 := by
  cases x with
  | property p =>
    simp only [Interactions.entries, Interactions.lineOf, List.mem_map]
    rintro _ ⟨y, -, rfl⟩
    rw [planLine_eq]
    exact contains_append_left _ (contains_append_right _ (contains_append_left _ (contains_self _)))
  | query q =>
    simp only [Interactions.entries, Interactions.interactions, List.map_cons, List.map_nil,
      List.mem_singleton]
    rintro _ rfl
    exact contains_append_right _ (contains_self _)
  | fault f =>
    simp only [Interactions.entries, Interactions.interactions, Interactions.lineOf, List.map_cons,
      List.map_nil, List.mem_singleton]
    rintro _ rfl
    have e : "-- FAULT '" ++ f.toString ++ "'" = "-- " ++ (Interaction.fault f).toString m := by
      simp only [Interaction.toString, ← String.append_assoc]; rfl
    show contains _ _ = true
    rw [e]
    exact contains_append_left _ (contains_self _)

theorem slots_getElem?_entry {x : Interactions} {n : Nat} {s : String × Interaction}
    (h : (x.entries m)[n]? = some s) : (x.slots m)[n + x.pre.length]? = some (s.1, some s.2) := by
  obtain ⟨hn, -⟩ := List.getElem?_eq_some_iff.1 h
  rw [Interactions.slots, List.getElem?_append_left (by simp; omega),
    List.getElem?_append_right (by simp)]
  simp [h]

theorem slots_getElem?_suf {x : Interactions} {i : Nat} {l : String} (h : x.suf[i]? = some l) :
    (x.slots m)[i + (x.pre.length + (x.entries m).length)]? = some (l, none) := by
  rw [Interactions.slots, List.getElem?_append_right (by simp)]
  simp [h]

theorem keptSlots_slots_fst (x : Interactions) (k : Nat → Bool) :
    (keptSlots (x.slots m) k).map Prod.fst = keptSlots x.pre k ++
      (keptSlots (x.entries m) (fun n => k (n + x.pre.length))).map Prod.fst ++
      keptSlots x.suf (fun n => k (n + (x.pre.length + (x.entries m).length))) := by
  simp [Interactions.slots, keptSlots_append, keptSlots_map, Function.comp_def, Nat.add_assoc,
    Nat.add_comm (x.entries m).length]

theorem keptSlots_slots_snd (x : Interactions) (k : Nat → Bool) :
    (keptSlots (x.slots m) k).filterMap Prod.snd =
      (keptSlots (x.entries m) (fun n => k (n + x.pre.length))).map Prod.snd := by
  have none_nil (l : List String) : l.filterMap (fun _ => (none : Option Interaction)) = [] :=
    List.filterMap_eq_nil_iff.2 fun _ _ => rfl
  simp only [Interactions.slots, keptSlots_append, keptSlots_map, List.filterMap_append,
    List.filterMap_map, Function.comp_def, none_nil, List.nil_append, List.append_nil, List.length_map]
  exact congrFun (List.filterMap_eq_map Prod.snd) _

theorem mem_editedLines {xs : List Interactions} {keep : Nat → Nat → Bool} {l : String}
    (h : l ∈ editedLines m xs keep) : ∃ j n o, slotAt m xs j n = some (l, o) ∧ keep j n = true := by
  induction xs generalizing keep with
  | nil => simp [editedLines] at h
  | cons x xs ih =>
    rcases List.mem_append.1 h with h | h
    · obtain ⟨s, hs, rfl⟩ := List.mem_map.1 h
      obtain ⟨n, hn, hk⟩ := mem_keptSlots.1 hs
      exact ⟨0, n, s.2, by simpa [slotAt] using hn, hk⟩
    · obtain ⟨j, n, o, hs, hk⟩ := ih h
      exact ⟨j + 1, n, o, by simpa [slotAt] using hs, hk⟩

theorem keepsInteraction_zero (x : Interactions) (xs : List Interactions) (keep : Nat → Nat → Bool) :
    keepsInteraction m (x :: xs) keep 0 =
      !(keptSlots (x.entries m) (fun n => keep 0 (n + x.pre.length))).isEmpty := by
  simp only [keepsInteraction, keptSlots_slots_snd]
  cases keptSlots (x.entries m) _ <;> rfl

/-- The kept lines after an interaction line of the first item: the kept lines of its item after
it, the kept lines below the item, then the rest of the file. -/
theorem linesAfter_entry {x : Interactions} {xs : List Interactions} {keep : Nat → Nat → Bool} {n : Nat}
    {s : String × Interaction} (h : (x.entries m)[n]? = some s) :
    linesAfter m (x :: xs) keep 0 (n + x.pre.length) =
      (keptSlots ((x.entries m).drop (n + 1)) (fun i => keep 0 (i + (n + 1) + x.pre.length))).map Prod.fst ++
        (keptSlots x.suf (fun i => keep 0 (i + (x.pre.length + (x.entries m).length))) ++
          editedLines m xs (fun j => keep (j + 1))) := by
  have hn := (List.getElem?_eq_some_iff.1 h).1
  have hdrop : (x.slots m).drop (n + x.pre.length + 1) =
      ((x.entries m).drop (n + 1)).map (fun s => (s.1, some s.2)) ++ x.suf.map (·, none) := by
    rw [Interactions.slots, List.drop_append_eq_append_drop, List.drop_append_eq_append_drop,
      List.drop_eq_nil_of_le (by simp; omega)]
    simp only [List.length_append, List.length_map, List.nil_append, List.map_drop]
    rw [show n + x.pre.length + 1 - x.pre.length = n + 1 by omega,
      show n + x.pre.length + 1 - (x.pre.length + (x.entries m).length) = 0 by omega, List.drop_zero]
  have e1 : (fun i => keep 0 (i + (n + x.pre.length + 1))) = fun i => keep 0 (i + (n + 1) + x.pre.length) :=
    funext fun i => by rw [show i + (n + x.pre.length + 1) = i + (n + 1) + x.pre.length by omega]
  have e2 : (fun i => keep 0 (i + ((x.entries m).length - (n + 1)) + (n + 1) + x.pre.length)) =
      fun i => keep 0 (i + (x.pre.length + (x.entries m).length)) :=
    funext fun i => by rw [show i + ((x.entries m).length - (n + 1)) + (n + 1) + x.pre.length =
      i + (x.pre.length + (x.entries m).length) by omega]
  simp only [linesAfter, hdrop, keptSlots_append, keptSlots_map, List.length_map, List.length_drop,
    List.map_append, List.map_map, Function.comp_def, List.map_id', List.append_assoc, e1, e2]

/-- **The loop on an edited plan file.** When no deleted interaction is found in the line the
loop compares it with, `compute_via_diff`'s matching returns exactly the interactions whose lines
were kept. -/
theorem matchPlan_editedLines (xs : List Interactions) (keep : Nat → Nat → Bool)
    (htop : ∀ q, .query q ∈ xs → startsWith (m.sql q) "--" = false) (hlate : NoLateMatch m xs keep) :
    matchPlan (·.toString m) (editedLines m xs keep) (xs.map (·.interactions m)) = keptPlan m xs keep := by
  induction xs generalizing keep with
  | nil => simp [editedLines, keptPlan]
  | cons x xs ih =>
    have hcmp : ∀ n s, (x.entries m)[n]? = some s → keep 0 (n + x.pre.length) = false → ∀ l,
        comparedLine (!(keptSlots (x.entries m) (fun n => keep 0 (n + x.pre.length))).isEmpty)
          ((keptSlots ((x.entries m).drop (n + 1)) (fun i => keep 0 (i + (n + 1) + x.pre.length))).map
            Prod.fst ++ (keptSlots x.suf (fun n => keep 0 (n + (x.pre.length + (x.entries m).length))) ++
              editedLines m xs (fun j => keep (j + 1)))) = some l →
        contains l (s.2.toString m) = false := fun n s h hk l hl =>
      hlate 0 _ _ _ l (by simpa [slotAt] using slots_getElem?_entry h) hk
        (by rwa [keepsInteraction_zero, linesAfter_entry h])
    have hitem := matchPlan_edit_item (·.toString m) (keptSlots x.pre (keep 0)) _ (x.entries m) _ _
      (xs.map (·.interactions m)) (fun l hl => pre_marker x l (mem_of_mem_keptSlots hl))
      (fun l hl => suf_marker x l (mem_of_mem_keptSlots hl))
      (entries_marker x fun q hq => htop q (hq ▸ List.mem_cons_self _ _)) (entries_hit x) hcmp
    have hlate' : NoLateMatch m xs (fun j => keep (j + 1)) := fun j n l y l' h hk hl =>
      hlate (j + 1) n l y l' (by simpa [slotAt] using h) hk hl
    rw [entries_snd] at hitem
    rw [editedLines, keptPlan, List.map_cons, keptSlots_slots_fst, hitem, keptSlots_slots_snd,
      ih _ (fun q hq => htop q (List.mem_cons_of_mem _ hq)) hlate']
    cases keptSlots (x.entries m) _ <;> rfl
end

end LimboSim