import SchemaPlan.Sql.Compile
import SchemaPlan.Proofs.Results

namespace SchemaPlan

open Sql

variable (d : Dialect)

namespace Command

def isSupported (k : CommandKind) : Bool :=
  (refusal? d k).isNone

/-- A change is refused in the words that it goes by itself. -/
theorem statements_eq (table : String) (c : Command) :
    c.statements d table =
      if isSupported d c.kind then .ok (c.plan d table) else .error ⟨d, c.kind.label, table⟩ := by
  cases d <;> cases c <;> rfl

theorem allStatements_cons (table : String) (c : Command) (cs : List Command) :
    allStatements d table (c :: cs) =
      if isSupported d c.kind then (allStatements d table cs).map (c.plan d table ++ ·)
      else .error ⟨d, c.kind.label, table⟩ := by
  rw [allStatements, statements_eq]
  split
  · cases allStatements d table cs <;> rfl
  · rfl

theorem toOption_allStatements (table : String) (cs : List Command) :
    (allStatements d table cs).toOption =
      if cs.all (isSupported d ·.kind) then some (cs.flatMap (·.plan d table)) else none := by
  induction cs with
  | nil => rfl
  | cons c cs ih =>
    have hmap : ((allStatements d table cs).map (c.plan d table ++ ·)).toOption =
        (allStatements d table cs).toOption.map (c.plan d table ++ ·) := by
      cases allStatements d table cs <;> rfl
    rw [allStatements_cons, List.all_cons, List.flatMap_cons]
    by_cases hc : isSupported d c.kind = true
    · rw [if_pos hc, hmap, ih, hc, Bool.true_and]
      split <;> rfl
    · simp [hc, Except.toOption]

end Command

theorem Blueprint.toOption_compile (b : Blueprint) :
    (b.compile d).toOption = match b.mode with
      | .create => some (b.create d)
      | .alter => if b.commands.all (Command.isSupported d ·.kind) then
          some (b.commands.flatMap (·.plan d b.table)) else none := by
  unfold compile
  cases b.mode with
  | create => rfl
  | alter => exact Command.toOption_allStatements d b.table b.commands

theorem Blueprint.alter_eq_ok_iff {b : Blueprint} {ss : List Statement} :
    b.alter d = .ok ss ↔ (∀ c ∈ b.commands, Command.isSupported d c.kind = true) ∧
      b.commands.flatMap (·.plan d b.table) = ss := by
  rw [← toOption_eq_some_iff, alter, Command.toOption_allStatements, Option.ite_none_right_eq_some,
    List.all_eq_true, Option.some.injEq]

end SchemaPlan
