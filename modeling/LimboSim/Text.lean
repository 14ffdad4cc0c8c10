import Mathlib.Data.List.Infix
import Mathlib.Data.String.Basic
/-!
# The `str` methods the diff reads a plan file with

`compute_via_diff` splits the file with `str::lines` and tests each line with `starts_with`,
`is_empty` and `contains` (plan.rs:46, :64-66, :82). They are modelled on the characters of the
string; for a valid UTF-8 `&str` a byte prefix or substring is a character prefix or substring.
The main fact is `lines_join`: `lines` gives back the lines a `writeln!` sequence wrote, when
none of them holds a `'\n'` or ends in `'\r'`.
-/

namespace LimboSim.Str

/-- `str::starts_with` with a `&str` pattern. -/
def startsWith (s p : String) : Bool := p.data.isPrefixOf s.data

/-- `str::contains` with a `&str` pattern. -/
def contains (s p : String) : Bool := decide (p.data <:+: s.data)

/-- `str::is_empty`. -/
def isEmpty (s : String) : Bool := s.data.isEmpty

/-- A line as `lines` returns it: without its `"\n"` and one `'\r'` before it. `acc` holds the
line's characters in reverse. -/
def lineOf (acc : List Char) : String :=
  match acc with
  | '\r' :: a => ⟨a.reverse⟩
  | a => ⟨a.reverse⟩

/-- The characters after the last line ending, reversed in `acc`. -/
def linesAux : List Char → List Char → List String
  | [], acc => if acc.isEmpty then [] else [⟨acc.reverse⟩]
  | c :: cs, acc => if c = '\n' then lineOf acc :: linesAux cs [] else linesAux cs (c :: acc)

/-- `str::lines`: split at `"\n"` and `"\r\n"`; the final line ending is optional. -/
def lines (s : String) : List String := linesAux s.data []

theorem contains_iff {s p : String} : contains s p = true ↔ p.data <:+: s.data := by
  simp [contains]

theorem contains_append_left {s p : String} (t : String) (h : contains s p = true) :
    contains (t ++ s) p = true := by
  rw [contains_iff, String.data_append] at *
  exact h.trans (List.suffix_append _ _).isInfix

theorem contains_append_right {s p : String} (t : String) (h : contains s p = true) :
    contains (s ++ t) p = true := by
  rw [contains_iff, String.data_append] at *
  exact h.trans (List.prefix_append _ _).isInfix

theorem contains_self (s : String) : contains s s = true := contains_iff.2 (List.infix_refl _)

theorem startsWith_iff {s p : String} : startsWith s p = true ↔ p.data <+: s.data := by
  simp [startsWith, List.isPrefixOf_iff_prefix]

/-- A line with no `'\n'` is read up to the `'\n'` that ends it. -/
theorem linesAux_line (l rest acc : List Char) (hl : '\n' ∉ l) :
    linesAux (l ++ '\n' :: rest) acc = lineOf (l.reverse ++ acc) :: linesAux rest [] := by
  induction l generalizing acc with
  | nil => simp [linesAux]
  | cons c l ih =>
    have hc : c ≠ '\n' := fun h => hl (h ▸ List.mem_cons_self _ _)
    simp only [List.cons_append, linesAux, hc, if_false, List.reverse_cons, List.append_assoc,
      List.singleton_append]
    exact ih (c :: acc) (fun h => hl (List.mem_cons_of_mem _ h))

theorem lineOf_reverse (l : List Char) (hr : l.getLast? ≠ some '\r') : lineOf l.reverse = ⟨l⟩ := by
  unfold lineOf
  split
  · rename_i a h
    have := congrArg List.head? h
    rw [List.head?_reverse] at this
    exact absurd this hr
  · simp

/-- A line that may stand in a file that `lines` reads back: no `'\n'`, no final `'\r'`. -/
def OneLine (l : String) : Prop := '\n' ∉ l.data ∧ l.data.getLast? ≠ some '\r'

/-- **`lines` inverts `writeln!`.** -/
theorem lines_join (ls : List String) (h : ∀ l ∈ ls, OneLine l) :
    lines (String.join (ls.map (· ++ "\n"))) = ls := by
  rw [lines, String.data_join, List.map_map]
  induction ls with
  | nil => simp [linesAux]
  | cons l ls ih =>
    obtain ⟨hn, hr⟩ := h l (List.mem_cons_self _ _)
    have e : (l ++ "\n").data = l.data ++ ['\n'] := by simp [String.data_append]
    simp only [List.map_cons, Function.comp_apply, List.flatten_cons, e, List.append_assoc,
      List.singleton_append]
    rw [linesAux_line _ _ _ hn, List.append_nil, lineOf_reverse _ hr,
      ih (fun l' h' => h l' (List.mem_cons_of_mem _ h'))]

end LimboSim.Str
