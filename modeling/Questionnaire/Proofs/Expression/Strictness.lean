import Mathlib.Data.List.Nodup
import Questionnaire.Expression.Parser
import Questionnaire.Proofs.Expression.Reads
import Questionnaire.Value.Inference

/-!
Evaluation that leaves operands out, against evaluation that does not.

Strict evaluation also evaluates and checks the right operand of `and` and `or` where the left one
settles the outcome. It fails more often and reads more names, but where it has a value, so has
evaluation: `Expr.strict_refined`.
-/

namespace Questionnaire

/-! ### What a collector of names holds -/

theorem nodup_record {names : List String} (distinct : names.Nodup) (name : String) :
    (record names name).Nodup := by
  unfold record
  by_cases present : name ∈ names
  · rw [if_pos present]
    exact distinct
  · rw [if_neg present, ← List.concat_eq_append]
    exact distinct.concat present

theorem nodup_distinctNames (names : List String) : (distinctNames names).Nodup := by
  have collected (before : List String) (distinct : before.Nodup) :
      (names.foldl record before).Nodup := by
    induction names generalizing before with
    | nil => exact distinct
    | cons name rest ih => exact ih _ (nodup_record distinct name)
  exact collected [] List.nodup_nil

namespace Expr

/-- Evaluation of all operands. The outcome that a left operand settles stands only if the right
operand has a value and is a truth value too. -/
def evaluateStrict (scope : Scope) : Expr → Evaluation
  | literal v _ => (.ok v, [])
  | ref name _ =>
    match scope name with
    | some v => (.ok v, [name])
    | none => (.error (.missing name), [name])
  | unary op e _ =>
    let (value, reads) := e.evaluateStrict scope
    (value.bind op.apply, reads)
  | binary op l r _ =>
    let (left, reads) := l.evaluateStrict scope
    match left with
    | .error e => (.error e, reads)
    | .ok a =>
      match op.settled? a with
      | .error e => (.error e, reads)
      | .ok outcome =>
        let (right, more) := r.evaluateStrict scope
        ((right.bind (op.apply a)).map outcome.getD, reads ++ more)
  | call1 f a _ =>
    let (value, reads) := a.evaluateStrict scope
    (do let d ← argument f.name (← value)
        return .number (← f.apply d), reads)
  | call2 f a b _ =>
    let (first, reads) := a.evaluateStrict scope
    match first.bind (argument f.name) with
    | .error e => (.error e, reads)
    | .ok x =>
      let (second, more) := b.evaluateStrict scope
      (do let y ← argument f.name (← second)
          return .number (← f.apply x y), reads ++ more)

variable {scope : Scope} {e l r : Expr} {op : Operator} {span : Span} {v : Value}

/-- Both operands have values, and the operator has one for them. What the left operand settles takes
its place. -/
theorem strict_binary_ok (h : ((binary op l r span).evaluateStrict scope).1 = .ok v) :
    ∃ a outcome b w, (l.evaluateStrict scope).1 = .ok a ∧ op.settled? a = .ok outcome ∧
      (r.evaluateStrict scope).1 = .ok b ∧ op.apply a b = .ok w ∧ outcome.getD w = v := by
  simp only [evaluateStrict] at h
  cases first : (l.evaluateStrict scope).1 with
  | error e => simp [first] at h
  | ok a =>
    cases settled : op.settled? a with
    | error e => simp [first, settled] at h
    | ok outcome =>
      simp only [first, settled] at h
      obtain ⟨w, computed, rfl⟩ := map_ok.mp h
      obtain ⟨b, second, applied⟩ := bind_ok.mp computed
      exact ⟨a, outcome, b, w, rfl, settled, second, applied, rfl⟩

theorem strict_call2_ok {f : Function2} (h : ((call2 f l r span).evaluateStrict scope).1 = .ok v) :
    ∃ a x b y d, (l.evaluateStrict scope).1 = .ok a ∧ argument f.name a = .ok x ∧
      (r.evaluateStrict scope).1 = .ok b ∧ argument f.name b = .ok y ∧ f.apply x y = .ok d ∧
      .number d = v := by
  simp only [evaluateStrict] at h
  cases first : (l.evaluateStrict scope).1.bind (argument f.name) with
  | error e => simp [first] at h
  | ok x =>
    simp only [first] at h
    obtain ⟨a, left, number⟩ := bind_ok.mp first
    obtain ⟨b, right, h⟩ := bind_ok.mp h
    obtain ⟨y, other, h⟩ := bind_ok.mp h
    obtain ⟨d, applied, same⟩ := bind_ok.mp h
    exact ⟨a, x, b, y, d, left, number, right, other, applied, pure_ok.mp same⟩

/-- Where there is a strict value, every name in the expression was read for it. -/
theorem strict_names (h : (e.evaluateStrict scope).1 = .ok v) :
    (e.evaluateStrict scope).2 = e.names := by
  induction e generalizing v with
  | literal v span => rfl
  | ref name span =>
    simp only [evaluateStrict]
    split <;> rfl
  | unary op e span ih =>
    obtain ⟨a, first, -⟩ := bind_ok.mp h
    exact ih first
  | binary op l r span ihl ihr =>
    obtain ⟨a, outcome, b, w, first, settled, second, -⟩ := strict_binary_ok h
    simp only [evaluateStrict, names, first, settled, ihl first, ihr second]
  | call1 f a span ih =>
    obtain ⟨a, first, -⟩ := bind_ok.mp h
    exact ih first
  | call2 f l r span ihl ihr =>
    obtain ⟨a, x, b, y, d, first, number, second, -⟩ := strict_call2_ok h
    have left : (l.evaluateStrict scope).1.bind (argument f.name) = .ok x := by
      rw [first]
      exact number
    simp only [evaluateStrict, names, left, ihl first, ihr second]

/-- A strict value is the value. -/
theorem value_of_strict (h : (e.evaluateStrict scope).1 = .ok v) : (e.evaluate scope).1 = .ok v := by
  induction e generalizing v with
  | literal v span => exact h
  | ref name span => exact h
  | unary op e span ih =>
    obtain ⟨a, first, applied⟩ := bind_ok.mp h
    exact bind_ok.mpr ⟨a, ih first, applied⟩
  | binary op l r span ihl ihr =>
    obtain ⟨a, outcome, b, w, first, settled, second, applied, rfl⟩ := strict_binary_ok h
    have left := ihl first
    cases outcome with
    | some w => simp only [evaluate, left, settled, Option.getD_some]
    | none =>
      simp only [evaluate, left, settled, Option.getD_none]
      exact bind_ok.mpr ⟨b, ihr second, applied⟩
  | call1 f a span ih =>
    obtain ⟨a, first, applied⟩ := bind_ok.mp h
    exact bind_ok.mpr ⟨a, ih first, applied⟩
  | call2 f l r span ihl ihr =>
    obtain ⟨a, x, b, y, d, first, number, second, other, applied, rfl⟩ := strict_call2_ok h
    have left : (l.evaluate scope).1.bind (argument f.name) = .ok x :=
      bind_ok.mpr ⟨a, ihl first, number⟩
    simp only [evaluate, left]
    exact bind_ok.mpr ⟨b, ihr second, bind_ok.mpr ⟨y, other, bind_ok.mpr ⟨d, applied, rfl⟩⟩⟩

/-- Evaluation reads the names of the expression in their order, some of them not at all. -/
theorem reads_sublist (e : Expr) (scope : Scope) : (e.evaluate scope).2.Sublist e.names := by
  induction e with
  | literal v span => exact List.Sublist.refl []
  | ref name span =>
    simp only [evaluate]
    split <;> exact List.Sublist.refl [name]
  | unary op e span ih => exact ih
  | binary op l r span ihl ihr =>
    have leftOnly := ihl.trans (List.sublist_append_left l.names r.names)
    simp only [evaluate, names]
    split
    · exact leftOnly
    · split
      · exact leftOnly
      · exact leftOnly
      · exact ihl.append ihr
  | call1 f a span ih => exact ih
  | call2 f l r span ihl ihr =>
    simp only [evaluate, names]
    split
    · exact ihl.trans (List.sublist_append_left l.names r.names)
    · exact ihl.append ihr

/-- Leaving operands out refines strict evaluation. A strict value is the value, so evaluation fails
only where strict evaluation does; strict evaluation that succeeds collects just the references of the
expression, in order. Evaluation collects each name once and only references, and a name that it misses
is the last one it read and has no value. -/
theorem strict_refined (e : Expr) (scope : Scope) :
    (∀ v, (e.evaluateStrict scope).1 = .ok v → (e.evaluate scope).1 = .ok v ∧
      distinctNames (e.evaluateStrict scope).2 = e.references ∧
      distinctNames (e.evaluate scope).2 ⊆ distinctNames (e.evaluateStrict scope).2) ∧
    (∀ failure, (e.evaluate scope).1 = .error failure →
      ∃ other, (e.evaluateStrict scope).1 = .error other) ∧
    (distinctNames (e.evaluate scope).2).Nodup ∧
    distinctNames (e.evaluate scope).2 ⊆ e.references ∧
    ∀ name, (e.evaluate scope).1 = .error (.missing name) →
      (e.evaluate scope).2.getLast? = some name ∧ scope name = none := by
  have collected : distinctNames (e.evaluate scope).2 ⊆ e.references := by
    intro name member
    have read := (reads_sublist e scope).subset (mem_distinctNames.mp member)
    exact mem_distinctNames.mpr read
  refine ⟨?_, ?_, nodup_distinctNames _, collected, ?_⟩
  · intro v strict
    have all : distinctNames (e.evaluateStrict scope).2 = e.references :=
      congrArg distinctNames (strict_names strict)
    exact ⟨value_of_strict strict, all, all ▸ collected⟩
  · intro failure failed
    cases strict : (e.evaluateStrict scope).1 with
    | error other => exact ⟨other, rfl⟩
    | ok v => exact absurd ((value_of_strict strict).symm.trans failed) nofun
  · intro name missing
    obtain ⟨unknown, last⟩ := missing_last missing
    exact ⟨last, unknown⟩

def partnerScope (income : Option Value) : Scope := fun name =>
  if name = "partner" then some (.boolean false) else if name = "inkomen" then income else none

/-- A left operand that settles the outcome: strict evaluation needs the income too, and has no value
without it. -/
theorem strict_refined_partner : ∃ f, Formula.ofText "partner and inkomen > 0" = .ok f ∧
    (f.root.evaluateStrict (partnerScope (some (.ofText "30")))).1 = .ok (.boolean false) ∧
    (f.root.evaluate (partnerScope (some (.ofText "30")))).1 = .ok (.boolean false) ∧
    distinctNames (f.root.evaluateStrict (partnerScope (some (.ofText "30")))).2 =
      ["partner", "inkomen"] ∧
    (f.root.evaluateStrict (partnerScope none)).1 = .error (.missing "inkomen") ∧
    f.root.evaluate (partnerScope none) = (.ok (.boolean false), ["partner"]) := by
  have read : (Formula.ofText "partner and inkomen > 0").map (fun f =>
      ((f.root.evaluateStrict (partnerScope (some (.ofText "30")))).1, f.root.references,
        (f.root.evaluateStrict (partnerScope none)).1, f.root.evaluate (partnerScope none))) =
      .ok (.ok (.boolean false), ["partner", "inkomen"], .error (.missing "inkomen"),
        (.ok (.boolean false), ["partner"])) := by
    decide +kernel
  obtain ⟨f, made, checked⟩ := map_ok.mp read
  simp only [Prod.mk.injEq] at checked
  obtain ⟨strict, references, fails, settled⟩ := checked
  obtain ⟨value, all, -⟩ := (strict_refined f.root _).1 _ strict
  exact ⟨f, made, strict, value, all.trans references, fails, settled⟩

end Expr

end Questionnaire
