import LimboSim.Diff.Loop
/-!
# What the matching loop computes (plan.rs:61-97)

`matchRow` and `matchPlan` say what the two loops of `compute_via_diff` compute, by structural
recursion on the plan: skip marker lines, then hand the item's interactions the lines that
follow, an interaction taking the next line when that line contains its `to_string()`.

The simulation follows the Rust loops pass by pass. The inner loop is summed up by `InnerPost`,
the outer loop by the plan `outerView` predicts from a cursor, which every pass keeps
(`outerPass_spec`). `viaDiffLoop_eq_matchPlan` is the refinement: with `diffFuel` the loop returns
`matchPlan`. `viaDiffLoop_terminates` states what the Rust loop needs to terminate without a
panic: every pass stays in bounds and shrinks its loop's measure.
-/

namespace LimboSim

open Str

section
variable {I : Type} (render : I → String)

/-- What the inner loop keeps of one item, and the lines it leaves. -/
def matchRow : List String → List I → List I × List String
  | ls, [] => ([], ls)
  | [], _ :: _ => ([], [])
  | l :: ls, x :: xs =>
    if contains l (render x) then (x :: (matchRow ls xs).1, (matchRow ls xs).2)
    else matchRow (l :: ls) xs

/-- What the loops compute: skip marker lines, match the next item, drop it if nothing of it
was kept. -/
def matchPlan : List String → List (List I) → List (List I)
  | _, [] => []
  | ls, p :: ps =>
    match ls.dropWhile isMarker with
    | [] => []
    | l :: ls' =>
      if (matchRow render (l :: ls') p).1.isEmpty then matchPlan (matchRow render (l :: ls') p).2 ps
      else (matchRow render (l :: ls') p).1 :: matchPlan (matchRow render (l :: ls') p).2 ps

end

section
variable {I : Type} {render : I → String}

@[simp] theorem matchRow_nil_right (ls : List String) : matchRow render ls ([] : List I) = ([], ls) := by
  cases ls <;> rfl

@[simp] theorem matchRow_nil_left (xs : List I) : matchRow render [] xs = ([], []) := by
  cases xs <;> rfl

theorem matchRow_cons_cons (l : String) (ls : List String) (x : I) (xs : List I) :
    matchRow render (l :: ls) (x :: xs) =
      if contains l (render x) then (x :: (matchRow render ls xs).1, (matchRow render ls xs).2)
      else matchRow render (l :: ls) xs := rfl

@[simp] theorem matchPlan_nil_right (ls : List String) : matchPlan render ls ([] : List (List I)) = [] := by
  cases ls <;> rfl

@[simp] theorem matchPlan_nil_left (ps : List (List I)) : matchPlan render [] ps = [] := by
  cases ps <;> rfl

theorem matchPlan_marker {l : String} (ls : List String) (ps : List (List I)) (h : isMarker l = true) :
    matchPlan render (l :: ls) ps = matchPlan render ls ps := by
  cases ps with
  | nil => simp
  | cons p ps => simp only [matchPlan, List.dropWhile_cons_of_pos h]

variable (render) in
theorem matchPlan_item {l : String} (ls : List String) (p : List I) (ps : List (List I))
    (h : isMarker l = false) :
    matchPlan render (l :: ls) (p :: ps) =
      if (matchRow render (l :: ls) p).1.isEmpty then matchPlan render (matchRow render (l :: ls) p).2 ps
      else (matchRow render (l :: ls) p).1 :: matchPlan render (matchRow render (l :: ls) p).2 ps := by
  simp only [matchPlan, List.dropWhile_cons_of_neg (p := isMarker) (a := l) (by simp [h])]

end

/-! ## List edits the loop makes -/

section
variable {α : Type}

theorem take_eraseIdx_self (l : List α) {j : Nat} (h : j < l.length) : (l.eraseIdx j).take j = l.take j := by
  rw [List.eraseIdx_eq_take_drop_succ, List.take_left' (by simp; omega)]

theorem drop_eraseIdx_self (l : List α) {j : Nat} (h : j < l.length) :
    (l.eraseIdx j).drop j = l.drop (j + 1) := by
  rw [List.eraseIdx_eq_take_drop_succ, List.drop_left' (by simp; omega)]

theorem take_set_self (l : List α) (j : Nat) (a : α) : (l.set j a).take j = l.take j := by
  rw [List.set_take, List.set_eq_of_length_le (by simp)]

theorem drop_set_succ (l : List α) (j : Nat) (a : α) : (l.set j a).drop (j + 1) = l.drop (j + 1) := by
  rw [List.drop_set, if_pos (Nat.lt_succ_self _)]

end

/-! ## The inner loop -/

section
variable {I : Type} {render : I → String} {lines : List String} {c c' : Cursor I}

theorem Cursor.getElem_eq_row (h : c.j < c.plan.length) : c.plan[c.j] = c.row := by
  simp [Cursor.row, List.getD_eq_getElem?_getD, List.getElem?_eq_getElem h]

theorem Cursor.row_mem (h : c.j < c.plan.length) : c.row ∈ c.plan :=
  Cursor.getElem_eq_row h ▸ List.getElem_mem h

theorem Cursor.row_set' {p : List (List I)} (h : c.j < p.length) (r : List I) :
    ({ c with plan := p.set c.j r } : Cursor I).row = r := by
  simp [Cursor.row, List.getD_eq_getElem?_getD, h]

variable (render lines) in
/-- What the inner loop leaves, from the cursor `c` it started at: `plan[j]` holds the kept
interactions and `i` points after the last line they took. -/
structure InnerPost (c c' : Cursor I) : Prop where
  j_eq : c'.j = c.j
  i_mono : c.i ≤ c'.i
  i_le : c'.i ≤ lines.length
  take_eq : c'.plan.take c.j = c.plan.take c.j
  j_lt : c.j < c'.plan.length
  length_le : c'.plan.length ≤ c.plan.length
  drop_eq : c'.plan.drop (c.j + 1) = c.plan.drop (c.j + 1) ∨ c'.i = lines.length
  row_eq : c'.row = c.row.take c.k ++ (matchRow render (lines.drop c.i) (c.row.drop c.k)).1
  lines_eq : lines.drop c'.i = (matchRow render (lines.drop c.i) (c.row.drop c.k)).2
  rows_le : ∀ r ∈ c'.plan, ∃ r' ∈ c.plan, r.length ≤ r'.length

/-- The loop ends at once when `k` is past the item. -/
theorem InnerPost.refl (hj : c.j < c.plan.length) (hk : c.row.length ≤ c.k) (hi : c.i ≤ lines.length) :
    InnerPost render lines c c where
  j_eq := rfl
  i_mono := le_rfl
  i_le := hi
  take_eq := rfl
  j_lt := hj
  length_le := le_rfl
  drop_eq := .inl rfl
  row_eq := by rw [List.drop_of_length_le hk, matchRow_nil_right, List.take_of_length_le hk, List.append_nil]
  lines_eq := by rw [List.drop_of_length_le hk, matchRow_nil_right]
  rows_le := fun r hr => ⟨r, hr, le_rfl⟩

/-- The `break` once the text ran out: the item keeps what it matched, later items are cut. -/
theorem InnerPost.brk (hj : c.j < c.plan.length) (hi : lines.length ≤ c.i) (hi' : c.i ≤ lines.length) :
    InnerPost render lines c { c with plan := (c.plan.take (c.j + 1)).set c.j (c.row.take c.k) } where
  j_eq := rfl
  i_mono := le_rfl
  i_le := hi'
  take_eq := by rw [take_set_self, List.take_take, Nat.min_eq_left (Nat.le_succ _)]
  j_lt := by simp; omega
  length_le := by simp
  drop_eq := .inr (show c.i = lines.length by omega)
  row_eq := by
    rw [Cursor.row_set' (by simp; omega), List.drop_of_length_le hi, matchRow_nil_left, List.append_nil]
  lines_eq := by rw [List.drop_of_length_le hi, matchRow_nil_left]
  rows_le := fun r hr => by
    rcases List.mem_or_eq_of_mem_set hr with hr | rfl
    · exact ⟨r, List.mem_of_mem_take hr, le_rfl⟩
    · exact ⟨c.row, Cursor.row_mem hj, by simp⟩

/-- A kept interaction takes the current line. -/
theorem InnerPost.keep (hk : c.k < c.row.length) (hi : c.i < lines.length)
    (hx : contains lines[c.i] (render c.row[c.k]) = true)
    (h : InnerPost render lines { c with i := c.i + 1, k := c.k + 1 } c') : InnerPost render lines c c' where
  j_eq := h.j_eq
  i_mono := Nat.le_of_succ_le h.i_mono
  i_le := h.i_le
  take_eq := h.take_eq
  j_lt := h.j_lt
  length_le := h.length_le
  drop_eq := h.drop_eq
  row_eq := by
    have e := h.row_eq
    simp only [Cursor.row_ik] at e
    rw [e, List.drop_eq_getElem_cons hi, List.drop_eq_getElem_cons hk, matchRow_cons_cons,
      if_pos hx, List.take_succ, List.getElem?_eq_getElem hk]
    simp only [Option.toList_some, List.append_assoc, List.singleton_append]
  lines_eq := by
    have e := h.lines_eq
    simp only [Cursor.row_ik] at e
    rw [e, List.drop_eq_getElem_cons hi, List.drop_eq_getElem_cons hk, matchRow_cons_cons, if_pos hx]
  rows_le := h.rows_le

/-- An interaction the current line does not contain is removed. -/
theorem InnerPost.drop (hj : c.j < c.plan.length) (hk : c.k < c.row.length) (hi : c.i < lines.length)
    (hx : contains lines[c.i] (render c.row[c.k]) = false)
    (h : InnerPost render lines { c with plan := c.plan.set c.j (c.row.eraseIdx c.k) } c') :
    InnerPost render lines c c' where
  j_eq := h.j_eq
  i_mono := h.i_mono
  i_le := h.i_le
  take_eq := h.take_eq.trans (take_set_self _ _ _)
  j_lt := by simpa using h.j_lt
  length_le := by simpa using h.length_le
  drop_eq := by simpa only [drop_set_succ] using h.drop_eq
  row_eq := by
    rw [h.row_eq, Cursor.row_set hj, take_eraseIdx_self _ hk, drop_eraseIdx_self _ hk,
      List.drop_eq_getElem_cons hk (l := c.row), List.drop_eq_getElem_cons hi, matchRow_cons_cons,
      if_neg (by simp [hx])]
  lines_eq := by
    rw [h.lines_eq, Cursor.row_set hj, drop_eraseIdx_self _ hk,
      List.drop_eq_getElem_cons hk (l := c.row), List.drop_eq_getElem_cons hi, matchRow_cons_cons,
      if_neg (by simp [hx])]
  rows_le := fun r hr => by
    obtain ⟨r', hr', hle⟩ := h.rows_le r hr
    rcases List.mem_or_eq_of_mem_set hr' with hr' | rfl
    · exact ⟨r', hr', hle⟩
    · exact ⟨c.row, Cursor.row_mem hj, hle.trans (List.length_eraseIdx_le _ _)⟩

variable (render) in
/-- **The inner loop**, given more fuel than `plan[j].len() - k`, ends without a panic. -/
theorem innerLoop_spec : ∀ (fuel : Nat) (c : Cursor I), c.j < c.plan.length → c.i ≤ lines.length →
    c.row.length - c.k < fuel →
    ∃ c', innerLoop render lines fuel c = some c' ∧ InnerPost render lines c c'
  | 0, _, _, _, hf => absurd hf (Nat.not_lt_zero _)
  | fuel + 1, c, hj, hi, hf => by
    have hrow := Cursor.getElem?_row hj
    by_cases hk : c.k < c.row.length
    · by_cases hb : lines.length ≤ c.i
      · exact ⟨_, by simp [innerLoop, hrow, hk, innerPass_break render hj hk hb], InnerPost.brk hj hb hi⟩
      have hi' : c.i < lines.length := by omega
      cases hx : contains lines[c.i] (render c.row[c.k])
      · have hp := innerPass_drop render hj hk hi' hx
        obtain ⟨-, hlen, hm⟩ := innerPass_continue hj hk hp
        obtain ⟨c', hc', hpost⟩ :=
          innerLoop_spec fuel { c with plan := c.plan.set c.j (c.row.eraseIdx c.k) } (by simpa using hj) hi
            (by omega)
        exact ⟨c', by simp [innerLoop, hrow, hk, hp, hc'], hpost.drop hj hk hi' hx⟩
      · have hp := innerPass_keep render hj hk hi' hx
        obtain ⟨-, -, hm⟩ := innerPass_continue hj hk hp
        obtain ⟨c', hc', hpost⟩ :=
          innerLoop_spec fuel { c with i := c.i + 1, k := c.k + 1 } hj (by simpa using hi') (by omega)
        exact ⟨c', by simp [innerLoop, hrow, hk, hp, hc'], hpost.keep hk hi' hx⟩
    · exact ⟨c, by simp [innerLoop, hrow, hk], InnerPost.refl hj (by omega) hi⟩

end

/-! ## The outer loop -/

section
variable {I : Type} {render : I → String} {lines : List String}

variable (render lines) in
/-- The plan the loop returns, seen from cursor `c`: the items before `j` are settled, the rest
is what `matchPlan` makes of the lines from `i`. -/
def outerView (c : Cursor I) : List (List I) :=
  c.plan.take c.j ++ matchPlan render (lines.drop c.i) (c.plan.drop c.j)

variable (lines) in
/-- The outer loop's invariant: both cursors in range, every item shorter than the inner loop's
fuel. -/
structure OuterInv (fuel : Nat) (c : Cursor I) : Prop where
  i_le : c.i ≤ lines.length
  j_le : c.j ≤ c.plan.length
  rows_lt : ∀ r ∈ c.plan, r.length < fuel

variable (lines) in
/-- `(lines.len() - i) + (plan.len() - j)`. -/
def outerMeasure (c : Cursor I) : Nat := (lines.length - c.i) + (c.plan.length - c.j)

variable (render) in
/-- A marker line is stepped over. -/
theorem outerPass_marker {fuel : Nat} {c : Cursor I} (hinv : OuterInv lines fuel c)
    (hi : c.i < lines.length) (hm : isMarker lines[c.i] = true) :
    ∃ c', outerPass render lines fuel c = some c' ∧ OuterInv lines fuel c' ∧
      outerView render lines c' = outerView render lines c ∧ outerMeasure lines c' < outerMeasure lines c :=
  ⟨{ c with i := c.i + 1 }, by simp [outerPass, List.getElem?_eq_getElem hi, hm],
    ⟨hi, hinv.j_le, hinv.rows_lt⟩,
    by simp only [outerView, List.drop_eq_getElem_cons hi, matchPlan_marker _ _ hm],
    by simp only [outerMeasure]; omega⟩

variable (render) in
/-- Any other line starts the inner loop on item `j`; the item is then removed if nothing of it
was kept, and `j` moves on otherwise. -/
theorem outerPass_item {fuel : Nat} {c : Cursor I} (hinv : OuterInv lines fuel c)
    (hi : c.i < lines.length) (hj : c.j < c.plan.length) (hm : isMarker lines[c.i] = false) :
    ∃ c', outerPass render lines fuel c = some c' ∧ OuterInv lines fuel c' ∧
      outerView render lines c' = outerView render lines c ∧ outerMeasure lines c' < outerMeasure lines c := by
  obtain ⟨c₁, hc₁, hp⟩ := innerLoop_spec render fuel { c with k := 0 } hj hinv.i_le
    (by have := hinv.rows_lt _ (Cursor.row_mem hj); simp only [Cursor.row_ik]; omega)
  have hj₁ : c₁.j = c.j := hp.j_eq
  have hlt : c.j < c₁.plan.length := hp.j_lt
  have hrow₁ : c₁.plan[c₁.j]? = some c₁.row := Cursor.getElem?_row (hj₁ ▸ hlt)
  have hrow : c₁.row = (matchRow render (lines.drop c.i) c.row).1 := by simpa using hp.row_eq
  have hrest : lines.drop c₁.i = (matchRow render (lines.drop c.i) c.row).2 := by simpa using hp.lines_eq
  have htail : matchPlan render (lines.drop c₁.i) (c₁.plan.drop (c.j + 1)) =
      matchPlan render (lines.drop c₁.i) (c.plan.drop (c.j + 1)) := by
    rcases hp.drop_eq with h | h
    · simpa using congrArg (matchPlan render (lines.drop c₁.i)) h
    · simp [h]
  have hview : outerView render lines c = c.plan.take c.j ++
      matchPlan render (lines.drop c.i) (c.row :: c.plan.drop (c.j + 1)) := by
    rw [outerView, List.drop_eq_getElem_cons hj, Cursor.getElem_eq_row hj]
  have hitem := matchPlan_item render (lines.drop (c.i + 1)) c.row (c.plan.drop (c.j + 1)) hm
  rw [← List.drop_eq_getElem_cons hi, ← hrow, ← hrest] at hitem
  have hrows : ∀ r ∈ c₁.plan, r.length < fuel := fun r hr => by
    obtain ⟨r', hr', hle⟩ := hp.rows_le r hr
    exact lt_of_le_of_lt hle (hinv.rows_lt r' hr')
  have hm₁ : c.i ≤ c₁.i := hp.i_mono
  have hl₁ : c₁.plan.length ≤ c.plan.length := hp.length_le
  have htake : c₁.plan.take (c.j + 1) = c.plan.take c.j ++ [c₁.row] := by
    rw [List.take_succ, hp.take_eq, ← hj₁, hrow₁]; rfl
  cases he : c₁.row.isEmpty
  · refine ⟨{ c₁ with j := c₁.j + 1 }, ?_, ⟨hp.i_le, by simp only; omega, hrows⟩, ?_, ?_⟩
    · simp [outerPass, List.getElem?_eq_getElem hi, hm, hc₁, hrow₁, he]
    · rw [hview, hitem, if_neg (by simp [he])]
      simp only [outerView, hj₁, htake, htail, ← hrest, ← hrow, List.append_assoc, List.singleton_append]
    · simp only [outerMeasure]; omega
  · refine ⟨{ c₁ with plan := c₁.plan.eraseIdx c₁.j }, ?_, ⟨hp.i_le, ?_, ?_⟩, ?_, ?_⟩
    · simp [outerPass, List.getElem?_eq_getElem hi, hm, hc₁, hrow₁, he, vecRemove_of_lt (hj₁ ▸ hlt)]
    · simp only [List.length_eraseIdx, hj₁, hlt, if_true]; omega
    · exact fun r hr => hrows r (List.mem_of_mem_eraseIdx hr)
    · rw [hview, hitem, if_pos he]
      simp only [outerView, hj₁, take_eraseIdx_self _ hlt, drop_eraseIdx_self _ hlt, htail, hp.take_eq]
    · simp only [outerMeasure, List.length_eraseIdx, hj₁, hlt, if_true]; omega

variable (render) in
theorem outerPass_spec {fuel : Nat} {c : Cursor I} (hinv : OuterInv lines fuel c)
    (hi : c.i < lines.length) (hj : c.j < c.plan.length) :
    ∃ c', outerPass render lines fuel c = some c' ∧ OuterInv lines fuel c' ∧
      outerView render lines c' = outerView render lines c ∧ outerMeasure lines c' < outerMeasure lines c := by
  cases hm : isMarker lines[c.i]
  · exact outerPass_item render hinv hi hj hm
  · exact outerPass_marker render hinv hi hm

variable (render) in
/-- **The outer loop**, given more passes than its measure, exits with the view unchanged. -/
theorem outerLoop_spec {fuel : Nat} : ∀ (n : Nat) (c : Cursor I), OuterInv lines fuel c →
    outerMeasure lines c < n →
    ∃ c', outerLoop render lines fuel n c = some c' ∧ OuterInv lines fuel c' ∧
      outerView render lines c' = outerView render lines c ∧ ¬(c'.i < lines.length ∧ c'.j < c'.plan.length)
  | 0, _, _, h => absurd h (Nat.not_lt_zero _)
  | n + 1, c, hinv, hn => by
    by_cases hc : c.i < lines.length ∧ c.j < c.plan.length
    · obtain ⟨c₁, h₁, hinv₁, hv₁, hm₁⟩ := outerPass_spec render hinv hc.1 hc.2
      obtain ⟨c', h', hinv', hv', hexit⟩ := outerLoop_spec n c₁ hinv₁ (by omega)
      exact ⟨c', by simp [outerLoop, hc, h₁, h'], hinv', hv'.trans hv₁, hexit⟩
    · exact ⟨c, by simp [outerLoop, hc], hinv, rfl, hc⟩

/-- At the exit the plan to return is the settled prefix. -/
theorem outerView_exit {c : Cursor I} (h : ¬(c.i < lines.length ∧ c.j < c.plan.length)) :
    outerView render lines c = c.plan.take c.j := by
  rcases not_and_or.1 h with h | h <;> simp [outerView, List.drop_of_length_le (Nat.le_of_not_lt h)]

end

section
variable {I : Type} {render : I → String}

variable (render) in
/-- **Refinement.** With `diffFuel`, the matching loop of `compute_via_diff` returns exactly what
`matchPlan` computes. -/
theorem viaDiffLoop_eq_matchPlan (lines : List String) (plan : List (List I))
    {fuel : Nat} (hf : diffFuel lines plan ≤ fuel) :
    viaDiffLoop render lines fuel plan = some (matchPlan render lines plan) := by
  have hinv : OuterInv lines fuel ⟨0, 0, 0, plan⟩ := ⟨Nat.zero_le _, Nat.zero_le _, fun r hr => by
    have := (List.sublist_flatten_of_mem (show r ∈ plan from hr)).length_le
    simp only [diffFuel] at hf; omega⟩
  obtain ⟨c, hc, hinv', hv, hexit⟩ := outerLoop_spec render fuel ⟨0, 0, 0, plan⟩ hinv
    (by simp only [outerMeasure, diffFuel] at hf ⊢; omega)
  rw [outerView_exit hexit] at hv
  simp [viaDiffLoop, hc, vecSplitOff_of_le hinv'.j_le, hv, outerView]

variable (render) in
theorem diffPlan_eq_matchPlan (lines : List String) (plan : List (List I)) :
    diffPlan render lines plan = some (matchPlan render lines plan) :=
  viaDiffLoop_eq_matchPlan render lines plan le_rfl

variable (render) in
/-- **The matching loop terminates without a panic.** Each pass of the inner loop stays in bounds
and, unless it is the `break`, shrinks `plan[j].len() - k`; each pass of the outer loop stays in
bounds and shrinks `(lines.len() - i) + (plan.len() - j)`; so the loops and the final
`split_off(j)` return for every text and every plan. -/
theorem viaDiffLoop_terminates (lines : List String) (plan : List (List I)) :
    (∀ c : Cursor I, c.j < c.plan.length → c.k < c.row.length →
      ∃ r, innerPass render lines c = some r ∧
        ∀ c', r = .inl c' → c'.row.length - c'.k < c.row.length - c.k) ∧
    (∀ (fuel : Nat) (c : Cursor I), c.i < lines.length → c.j < c.plan.length →
      (∀ r ∈ c.plan, r.length < fuel) →
      ∃ c', outerPass render lines fuel c = some c' ∧
        lines.length - c'.i + (c'.plan.length - c'.j) < lines.length - c.i + (c.plan.length - c.j)) ∧
    ∀ fuel, diffFuel lines plan ≤ fuel → ∃ out, viaDiffLoop render lines fuel plan = some out := by
  refine ⟨fun c hj hk => ?_, fun fuel c hi hj hrows => ?_, fun fuel hf =>
    ⟨_, viaDiffLoop_eq_matchPlan render lines plan hf⟩⟩
  · by_cases hb : lines.length ≤ c.i
    · exact ⟨_, innerPass_break render hj hk hb, fun c' h => nomatch h⟩
    have hi : c.i < lines.length := by omega
    cases hx : contains lines[c.i] (render c.row[c.k])
    · exact ⟨_, innerPass_drop render hj hk hi hx, fun c' h =>
        (innerPass_continue hj hk ((innerPass_drop render hj hk hi hx).trans (congrArg some h))).2.2⟩
    · exact ⟨_, innerPass_keep render hj hk hi hx, fun c' h =>
        (innerPass_continue hj hk ((innerPass_keep render hj hk hi hx).trans (congrArg some h))).2.2⟩
  · obtain ⟨c', h, -, -, hm⟩ := outerPass_spec render ⟨hi.le, hj.le, hrows⟩ hi hj
    exact ⟨c', h, hm⟩

end

end LimboSim
