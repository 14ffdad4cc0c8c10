import LimboSim.Model
import LimboSim.Text
/-!
# `InteractionPlan::compute_via_diff`: the matching loop (plan.rs:44-98)

The loop walks the lines of the edited `.plan` file (`i`) and the expansion of the plan read
from the `.json` file (item `j`, interaction `k`). It keeps an interaction whose `to_string()`
the current line contains, and removes it otherwise. The `Vec` operations it uses panic out of
bounds; here they return `none`. Each `while` gets fuel, and `none` also means that fuel ran out;
`Diff/Match.lean` shows that `diffFuel` is always enough.

The facts in this file are about one pass of the inner loop: what each branch of `innerPass`
does (`innerPass_break`, `innerPass_keep`, `innerPass_drop`), and that a pass that goes on
shrinks the loop's measure (`innerPass_continue`).
-/

namespace LimboSim

open Str

/-! ## `Vec` operations; `none` is the panic -/

/-- `Vec::remove(k)`: panics unless `k < len`. -/
def vecRemove {α : Type} (v : List α) (k : Nat) : Option (List α) :=
  if k < v.length then some (v.eraseIdx k) else none

/-- `Vec::split_off(n)`: the vector keeps `[0, n)`; panics if `n > len`. -/
def vecSplitOff {α : Type} (v : List α) (n : Nat) : Option (List α) :=
  if n ≤ v.length then some (v.take n) else none

theorem vecRemove_of_lt {α : Type} {v : List α} {k : Nat} (h : k < v.length) :
    vecRemove v k = some (v.eraseIdx k) := if_pos h

theorem vecSplitOff_of_le {α : Type} {v : List α} {n : Nat} (h : n ≤ v.length) :
    vecSplitOff v n = some (v.take n) := if_pos h

/-! ## The loop -/

/-- The lines the outer loop steps over (plan.rs:64-66). -/
def isMarker (line : String) : Bool :=
  startsWith line "-- begin" || startsWith line "-- end" || isEmpty line

/-- The loop variables (plan.rs:61, :74); `k` belongs to the inner loop. -/
structure Cursor (I : Type) where
  i : Nat
  j : Nat
  k : Nat
  plan : List (List I)

section
variable {I : Type} (render : I → String) (lines : List String)

/-- One pass of the inner loop (plan.rs:77-87); `.inr` is the `break` once the text ran out. -/
def innerPass (c : Cursor I) : Option (Cursor I ⊕ Cursor I) :=
  if lines.length ≤ c.i then do
    let plan ← vecSplitOff c.plan (c.j + 1)
    let row ← plan[c.j]?
    let row ← vecSplitOff row c.k
    pure (.inr { c with plan := plan.set c.j row })
  else do
    let line ← lines[c.i]?
    let row ← c.plan[c.j]?
    let x ← row[c.k]?
    if contains line (render x) then pure (.inl { c with i := c.i + 1, k := c.k + 1 })
    else
      let row ← vecRemove row c.k
      pure (.inl { c with plan := c.plan.set c.j row })

/-- `while k < plan[j].len()` (plan.rs:76-88), at most `fuel` passes. -/
def innerLoop : Nat → Cursor I → Option (Cursor I)
  | 0, _ => none
  | fuel + 1, c => do
    let row ← c.plan[c.j]?
    if c.k < row.length then
      match ← innerPass render lines c with
      | .inl c' => innerLoop fuel c'
      | .inr c' => pure c'
    else pure c

/-- One pass of the outer loop (plan.rs:64-94), the inner loop given `fuel`. -/
def outerPass (fuel : Nat) (c : Cursor I) : Option (Cursor I) := do
  let line ← lines[c.i]?
  if isMarker line then pure { c with i := c.i + 1 }
  else
    let c ← innerLoop render lines fuel { c with k := 0 }
    let row ← c.plan[c.j]?
    if row.isEmpty then
      let plan ← vecRemove c.plan c.j
      pure { c with plan := plan }
    else pure { c with j := c.j + 1 }

/-- `while i < interactions.len() && j < plan.len()` (plan.rs:63-95), at most `n` passes. -/
def outerLoop (fuel : Nat) : Nat → Cursor I → Option (Cursor I)
  | 0, _ => none
  | n + 1, c =>
    if c.i < lines.length ∧ c.j < c.plan.length then
      (outerPass render lines fuel c).bind (outerLoop fuel n)
    else some c

/-- The loops, then `plan.split_off(j)` (plan.rs:61-97), each loop given `fuel`. -/
def viaDiffLoop (fuel : Nat) (plan : List (List I)) : Option (List (List I)) := do
  let c ← outerLoop render lines fuel fuel ⟨0, 0, 0, plan⟩
  vecSplitOff c.plan c.j

end

/-- Fuel for both loops: each outer pass moves `i` or `j` or drops an item, each inner pass
moves `k` or drops an interaction. -/
def diffFuel {I : Type} (lines : List String) (plan : List (List I)) : Nat :=
  lines.length + plan.length + plan.flatten.length + 1

/-- The matching loop with `diffFuel`. -/
def diffPlan {I : Type} (render : I → String) (lines : List String) (plan : List (List I)) :
    Option (List (List I)) :=
  viaDiffLoop render lines (diffFuel lines plan) plan

/-- `compute_via_diff` on the text of the `.plan` file and the plan of the `.json` file. -/
def computeViaDiff (m : Methods) (text : String) (P : InteractionPlan) :
    Option (List (List Interaction)) :=
  diffPlan (·.toString m) (Str.lines text) (P.plan.map (·.interactions m))

/-! ## One pass of the inner loop -/

/-- `plan[j]`, the item the inner loop works on. -/
def Cursor.row {I : Type} (c : Cursor I) : List I := c.plan.getD c.j []

section
variable {I : Type} {render : I → String} {lines : List String} {c : Cursor I}

theorem Cursor.getElem?_row (h : c.j < c.plan.length) : c.plan[c.j]? = some c.row := by
  simp [Cursor.row, List.getD_eq_getElem?_getD, List.getElem?_eq_getElem h]

@[simp] theorem Cursor.row_set (h : c.j < c.plan.length) (r : List I) :
    ({ c with plan := c.plan.set c.j r } : Cursor I).row = r := by
  simp [Cursor.row, List.getD_eq_getElem?_getD, h]

@[simp] theorem Cursor.row_ik (a b : Nat) :
    ({ i := a, j := c.j, k := b, plan := c.plan } : Cursor I).row = c.row := rfl

variable (render) in
theorem innerPass_break (hj : c.j < c.plan.length) (hk : c.k < c.row.length)
    (hi : lines.length ≤ c.i) :
    innerPass render lines c =
      some (.inr { c with plan := (c.plan.take (c.j + 1)).set c.j (c.row.take c.k) }) := by
  have hrow : (c.plan.take (c.j + 1))[c.j]? = some c.row := by
    rw [List.getElem?_take_of_lt (Nat.lt_succ_self _), Cursor.getElem?_row hj]
  simp [innerPass, hi, vecSplitOff_of_le (show c.j + 1 ≤ c.plan.length by omega), hrow,
    vecSplitOff_of_le hk.le]

variable (render) in
theorem innerPass_keep (hj : c.j < c.plan.length) (hk : c.k < c.row.length)
    (hi : c.i < lines.length) (hx : contains lines[c.i] (render c.row[c.k]) = true) :
    innerPass render lines c = some (.inl { c with i := c.i + 1, k := c.k + 1 }) := by
  simp [innerPass, Nat.not_le.2 hi, List.getElem?_eq_getElem hi, Cursor.getElem?_row hj,
    List.getElem?_eq_getElem hk, hx]

variable (render) in
theorem innerPass_drop (hj : c.j < c.plan.length) (hk : c.k < c.row.length)
    (hi : c.i < lines.length) (hx : contains lines[c.i] (render c.row[c.k]) = false) :
    innerPass render lines c =
      some (.inl { c with plan := c.plan.set c.j (c.row.eraseIdx c.k) }) := by
  simp [innerPass, Nat.not_le.2 hi, List.getElem?_eq_getElem hi, Cursor.getElem?_row hj,
    List.getElem?_eq_getElem hk, hx, vecRemove_of_lt hk]

/-- A pass that does not `break` keeps `j` and the number of items, and shrinks
`plan[j].len() - k`. -/
theorem innerPass_continue {c' : Cursor I} (hj : c.j < c.plan.length) (hk : c.k < c.row.length)
    (h : innerPass render lines c = some (.inl c')) :
    c'.j = c.j ∧ c'.plan.length = c.plan.length ∧ c'.row.length - c'.k < c.row.length - c.k := by
  by_cases hi : lines.length ≤ c.i
  · simp [innerPass_break render hj hk hi] at h
  cases hx : contains lines[c.i] (render c.row[c.k])
  · rw [innerPass_drop render hj hk (by omega) hx] at h
    cases h
    simp only [List.length_set, Cursor.row_set hj, List.length_eraseIdx, hk, if_true, true_and]
    omega
  · rw [innerPass_keep render hj hk (by omega) hx] at h
    cases h
    exact ⟨rfl, rfl, show c.row.length - (c.k + 1) < c.row.length - c.k by omega⟩

end

end LimboSim
