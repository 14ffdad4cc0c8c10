import LimboSim.Model
import LimboSim.Text
/-!
# The human-readable plan file: `Display for InteractionPlan` (plan.rs:172-206)

A property is framed by `-- begin testing '<name>'` and `-- end testing '<name>'`, each of its
interactions on a line of its own after a tab; a top-level query is `<sql>;`, a top-level fault
`-- FAULT '<kind>'`. `planLine_eq`, `lines_query` and `lines_fault` say that every line that
renders an interaction is that interaction's `to_string()` with a fixed frame around it: this is
what lets `compute_via_diff` find interactions in the file with `contains`.
-/

namespace LimboSim

open Str

/-- The text after the tab for an interaction inside a property (plan.rs:182-191). -/
def planLine (m : Methods) : Interaction → String
  | .query q => m.sql q ++ ";"
  | .assumption a => "-- ASSUME " ++ a.message ++ ";"
  | .assertion a => "-- ASSERT " ++ a.message ++ ";"
  | .fault f => "-- FAULT '" ++ f.toString ++ "';"

def beginLine (p : Property) : String := "-- begin testing '" ++ p.name ++ "'"

def endLine (p : Property) : String := "-- end testing '" ++ p.name ++ "'"

/-- The lines one plan item is written as (plan.rs:175-201), without their `'\n'`. -/
def Interactions.lines (m : Methods) : Interactions → List String
  | .property p => beginLine p :: (m.interactions p).map (fun y => "\t" ++ planLine m y) ++ [endLine p]
  | .fault f => ["-- FAULT '" ++ f.toString ++ "'"]
  | .query q => [m.sql q ++ ";"]

/-- `Display for InteractionPlan`: each line followed by the `'\n'` of its `writeln!`. -/
def InteractionPlan.display (m : Methods) (P : InteractionPlan) : String :=
  String.join ((P.plan.flatMap (·.lines m)).map (· ++ "\n"))

/-! ## Every interaction line is its `to_string()` in a frame -/

/-- The frame before an interaction's `to_string()` on its line. -/
def Interaction.framePrefix : Interaction → String
  | .query _ => ""
  | _ => "-- "

theorem planLine_eq (m : Methods) (y : Interaction) :
    planLine m y = y.framePrefix ++ y.toString m ++ ";" := by
  cases y with
  | fault f => cases f <;> rfl
  | _ => simp only [planLine, Interaction.framePrefix, Interaction.toString, ← String.append_assoc]; rfl

theorem lines_query (m : Methods) (q : Query) :
    (Interactions.query q).lines m = [(Interaction.query q).toString m ++ ";"] := rfl

theorem lines_fault (m : Methods) (f : Fault) :
    (Interactions.fault f).lines m = ["-- " ++ (Interaction.fault f).toString m] := by
  cases f <;> rfl

/-! ## The file reads back line by line -/

/-- Every interaction of the plan renders to a single line (`to_string()` holds no `'\n'`). -/
def InteractionPlan.SingleLine (m : Methods) (P : InteractionPlan) : Prop :=
  ∀ x ∈ P.plan, ∀ y ∈ x.interactions m, '\n' ∉ (y.toString m).data

theorem oneLine_semicolon {pre s : String} (hpre : '\n' ∉ pre.data) (hs : '\n' ∉ s.data) :
    OneLine (pre ++ s ++ ";") := by
  refine ⟨?_, ?_⟩ <;> simp [String.data_append, hpre, hs]

theorem framePrefix_oneLine (y : Interaction) : '\n' ∉ y.framePrefix.data := by
  cases y <;> (simp only [Interaction.framePrefix]; decide)

theorem lines_oneLine (m : Methods) (x : Interactions)
    (h : ∀ y ∈ x.interactions m, '\n' ∉ (y.toString m).data) : ∀ l ∈ x.lines m, OneLine l := by
  cases x with
  | property p =>
    simp only [Interactions.lines, List.mem_cons, List.mem_append, List.mem_map, List.mem_singleton,
      List.not_mem_nil, or_false]
    rintro l ((rfl | ⟨y, hy, rfl⟩) | rfl)
    · cases p <;> (simp only [OneLine, beginLine, Property.name]; decide)
    · rw [planLine_eq, ← String.append_assoc, ← String.append_assoc]
      exact oneLine_semicolon (by simp [String.data_append, framePrefix_oneLine]) (h y hy)
    · cases p <;> (simp only [OneLine, endLine, Property.name]; decide)
  | query q =>
    simp only [lines_query, List.mem_singleton]
    rintro l rfl
    simpa using oneLine_semicolon (by decide : '\n' ∉ ("" : String).data) (h _ (List.mem_singleton_self _))
  | fault f =>
    simp only [Interactions.lines, List.mem_singleton]
    rintro l rfl
    cases f <;> (simp only [OneLine, Fault.toString]; decide)

/-- **Reading the rendered plan back with `lines()` gives its lines.** -/
theorem lines_display (m : Methods) (P : InteractionPlan) (h : P.SingleLine m) :
    Str.lines (P.display m) = P.plan.flatMap (·.lines m) :=
  Str.lines_join _ fun l hl => by
    obtain ⟨x, hx, hl⟩ := List.mem_flatMap.1 hl
    exact lines_oneLine m x (h x hx) l hl

end LimboSim
