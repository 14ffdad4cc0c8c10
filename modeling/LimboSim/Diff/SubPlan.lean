import LimboSim.Diff.Match
import Mathlib.Data.List.Forall2
import Mathlib.Data.List.NodupEquivFin
/-!
# Whatever the text, the diff returns a sub-plan (plan.rs:61-97)

The loop only ever removes interactions and items and only moves forward in the text. So for any
lines at all, its result is a sub-plan of the baseline: items taken in order
from the plan, each a non-empty subsequence of its item, whose interactions have, in order,
lines that contain their `to_string()`. `matchRow_sound` and `matchPlan_sound` state this in
`Sublist`/`Forall₂` form; `diffPlan_subPlan` states it with strictly increasing index maps.
-/

namespace LimboSim

open Str
open scoped List

section
variable {I : Type} (render : I → String)

/-- A line that contains the interaction's `to_string()`. -/
def Hit (x : I) (l : String) : Prop := contains l (render x) = true

variable {render}

theorem matchRow_sublist (ls : List String) (xs : List I) : (matchRow render ls xs).1 <+ xs := by
  induction ls, xs using matchRow.induct render with
  | case1 => simp
  | case2 => simp
  | case3 l ls x xs h ih => simpa [matchRow_cons_cons, h] using ih.cons_cons x
  | case4 l ls x xs h ih => simpa [matchRow_cons_cons, h] using ih.cons x

variable (render) in
/-- What one item keeps was taken, in order, from lines before the ones it leaves. -/
theorem matchRow_sound (ls : List String) (xs : List I) :
    ∃ pre, ls = pre ++ (matchRow render ls xs).2 ∧
      ∃ sub, sub <+ pre ∧ List.Forall₂ (Hit render) (matchRow render ls xs).1 sub := by
  induction ls, xs using matchRow.induct render with
  | case1 ls => exact ⟨[], by simp, [], by simp⟩
  | case2 => exact ⟨[], by simp, [], by simp⟩
  | case3 l ls x xs h ih =>
    obtain ⟨pre, hpre, sub, hsub, hall⟩ := ih
    refine ⟨l :: pre, by simp [matchRow_cons_cons, h, ← hpre], l :: sub, hsub.cons_cons l, ?_⟩
    simpa [matchRow_cons_cons, h] using List.Forall₂.cons (R := Hit render) h hall
  | case4 l ls x xs h ih => simpa [matchRow_cons_cons, h] using ih

variable (render) in
/-- **The loop's result is a sub-plan of the baseline**, its interactions matched in order to
lines that contain them. -/
theorem matchPlan_sound (ls : List String) (ps : List (List I)) :
    (∃ ps', ps' <+ ps ∧ List.Forall₂ (fun o p => o ≠ [] ∧ o <+ p) (matchPlan render ls ps) ps') ∧
      ∃ sub, sub <+ ls ∧ List.Forall₂ (Hit render) (matchPlan render ls ps).flatten sub := by
  induction ps generalizing ls with
  | nil => exact ⟨⟨[], by simp⟩, [], by simp⟩
  | cons p ps ih =>
    have hsuf : ls.dropWhile isMarker <:+ ls := List.dropWhile_suffix _
    unfold matchPlan
    split
    · exact ⟨⟨[], by simp⟩, [], by simp⟩
    · rename_i l ls' hd
      rw [hd] at hsuf
      obtain ⟨pre, hpre, sub, hsub, hall⟩ := matchRow_sound render (l :: ls') p
      obtain ⟨⟨ps', hps', hitems⟩, sub', hsub', hall'⟩ := ih (matchRow render (l :: ls') p).2
      have hrest : (matchRow render (l :: ls') p).2 <+ ls :=
        ((List.suffix_append pre _).sublist.trans (hpre ▸ List.Sublist.refl _)).trans hsuf.sublist
      split
      · exact ⟨⟨ps', hps'.cons p, hitems⟩, sub', hsub'.trans hrest, hall'⟩
      · rename_i hne
        refine ⟨⟨p :: ps', hps'.cons_cons p, .cons ⟨by simpa using hne, matchRow_sublist _ p⟩ hitems⟩,
          sub ++ sub', ?_, ?_⟩
        · exact ((hsub.append hsub').trans (hpre ▸ List.Sublist.refl _)).trans hsuf.sublist
        · simpa using List.rel_append hall hall'

end

/-- A list matched pointwise to a sublist of `ys` is matched along a strictly increasing map into
`ys`. -/
theorem exists_strictMono_of_forall₂ {α β : Type} {R : α → β → Prop} {xs : List α} {ys sub : List β}
    (hs : sub <+ ys) (h : List.Forall₂ R xs sub) :
    ∃ f : Fin xs.length → Fin ys.length, StrictMono f ∧ ∀ n, R (xs.get n) (ys.get (f n)) := by
  obtain ⟨g, hg⟩ := List.sublist_iff_exists_fin_orderEmbedding_get_eq.1 hs
  have hlen := h.length_eq
  refine ⟨fun n => g (Fin.cast hlen n), fun a b hab => g.strictMono hab, fun n => ?_⟩
  rw [← hg]
  exact h.get n.2 (hlen ▸ n.2)

/-- **Whatever the text, `compute_via_diff` returns a sub-plan of the baseline.** Its items come
from items of `P` along a strictly increasing map, each a non-empty subsequence of that item's
`interactions()`, and the kept interactions in order sit on strictly increasing lines that
contain their `to_string()`. -/
theorem diffPlan_subPlan (m : Methods) (lines : List String) (P : InteractionPlan) :
    ∃ out, diffPlan (·.toString m) lines (P.plan.map (·.interactions m)) = some out ∧
      (∃ f : Fin out.length → Fin (P.plan.map (·.interactions m)).length, StrictMono f ∧
        ∀ n, out.get n ≠ [] ∧ out.get n <+ (P.plan.map (·.interactions m)).get (f n)) ∧
      ∃ g : Fin out.flatten.length → Fin lines.length, StrictMono g ∧
        ∀ n, contains (lines.get (g n)) ((out.flatten.get n).toString m) = true := by
  refine ⟨_, diffPlan_eq_matchPlan _ _ _, ?_⟩
  obtain ⟨⟨ps', hps', hitems⟩, sub, hsub, hall⟩ := matchPlan_sound (·.toString m) lines
    (P.plan.map (·.interactions m))
  exact ⟨exists_strictMono_of_forall₂ hps' hitems, exists_strictMono_of_forall₂ hsub hall⟩

end LimboSim
