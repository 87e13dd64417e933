import SchemaPlan.Session.Request
import SchemaPlan.Proofs.Building
import SchemaPlan.Proofs.Execution

namespace SchemaPlan

open Sql

variable {σ : Type}

/-- A plan of statements, and what an error says of it: the table and what is done to it. -/
structure Work where
  table : String
  op : Operation
  planned : Except Unsupported (List Statement)

namespace Request

def work? (d : Dialect) : Request → Option Work
  | .create table calls => some ⟨table, .create, (Blueprint.build table .create calls).compile d⟩
  | .alter table calls => some ⟨table, .alter, (Blueprint.build table .alter calls).compile d⟩
  | .apply b => some ⟨b.table, .ofMode b.mode, b.compile d⟩
  | .drop table => some ⟨table, .drop, .ok [.dropTable table false]⟩
  | .dropIfExists table => some ⟨table, .drop, .ok [.dropTable table true]⟩
  | .rename old new => some ⟨old, .rename, .ok [.renameTable old new]⟩
  | .createSql .. | .alterSql .. | .compile _ | .hasTable _ | .dryRun _ => none

def dryRunAfter (before : Bool) : Request → Bool
  | .dryRun enabled => enabled
  | _ => before

end Request

namespace Session

variable (db : Database σ)

/-- What becomes of a request: what it has to run is run, and else the database is left alone. -/
inductive Answered (s : Session σ) (r : Request) (o : Outcome σ Reply) : Prop
  | ran {w : Work} {run : Outcome σ (Except ApplyError (List Statement))}
      (work : r.work? s.dialect = some w) (ran : Ran db s w.table w.op w.planned run)
      (answer : o = reply .statements run)
  | asked (work : r.work? s.dialect = none) (attempts : o.trail.attempts = [])
      (session : o.session = { s with dryRun := r.dryRunAfter s.dryRun })

inductive Course : Session σ → List Request → List (Outcome σ Reply) → Prop
  | nil (s : Session σ) : Course s [] []
  | cons {s : Session σ} {r : Request} {rs : List Request} {o : Outcome σ Reply}
      {os : List (Outcome σ Reply)} (first : Answered db s r o) (rest : Course o.session rs os) :
      Course s (r :: rs) (o :: os)

variable {db} (s : Session σ)

theorem answered_answer (r : Request) : Answered db s r (s.answer db r) := by
  cases r with
  | create table calls =>
    have h := s.ran_apply db (.build table .create calls)
    rw [Blueprint.table_build, Blueprint.mode_build] at h
    exact .ran rfl h rfl
  | alter table calls =>
    have h := s.ran_apply db (.build table .alter calls)
    rw [Blueprint.table_build, Blueprint.mode_build] at h
    exact .ran rfl h rfl
  | apply b => exact .ran rfl (s.ran_apply db b) rfl
  | drop table => exact .ran rfl (s.ran_run db table .drop _) rfl
  | dropIfExists table => exact .ran rfl (s.ran_run db table .drop _) rfl
  | rename old new => exact .ran rfl (s.ran_run db old .rename _) rfl
  | createSql table calls => exact .asked rfl rfl rfl
  | alterSql table calls => exact .asked rfl rfl rfl
  | compile b => exact .asked rfl rfl rfl
  | dryRun enabled => exact .asked rfl rfl rfl
  | hasTable table =>
    refine .asked rfl ?_ ?_
    · unfold answer reply hasTable
      dsimp only
      split <;> rfl
    · unfold answer reply hasTable
      dsimp only
      split <;> rfl

/-- What an operation passes to the database is one run of statements, from the state in which it
found it to the state in which it leaves it. -/
theorem Ran.attempts_eq {table : String} {op : Operation}
    {planned : Except Unsupported (List Statement)} {s : Session σ}
    {o : Outcome σ (Except ApplyError (List Statement))} (h : Ran db s table op planned o) :
    ∃ passed, o.trail.attempts = db.attempts passed s.state ∧
      o.session.state = db.after passed s.state := by
  cases h with
  | unsupported plan result attempts session => exact ⟨[], attempts, by rw [session]; rfl⟩
  | shown plan dry result attempts session => exact ⟨[], attempts, by rw [session]; rfl⟩
  | completed plan live accepted result attempts executed session =>
    exact ⟨_, attempts, by rw [session]⟩
  | stopped plan live accepted refused result attempts executed session =>
    exact ⟨_, attempts, by rw [session]⟩

theorem Answered.attempts_eq {s : Session σ} {r : Request} {o : Outcome σ Reply}
    (h : Answered db s r o) :
    ∃ passed, o.trail.attempts = db.attempts passed s.state ∧
      o.session.state = db.after passed s.state := by
  cases h with
  | ran work ran answer =>
    subst answer
    exact ran.attempts_eq
  | asked work attempts session => exact ⟨[], attempts, by rw [session]; rfl⟩

theorem Course.attempts_eq {s : Session σ} {rs : List Request} {os : List (Outcome σ Reply)}
    (h : Course db s rs os) :
    ∃ passed, os.flatMap (·.trail.attempts) = db.attempts passed s.state := by
  induction h with
  | nil s => exact ⟨[], rfl⟩
  | cons first rest ih =>
    obtain ⟨xs, hxs, hstate⟩ := first.attempts_eq
    obtain ⟨ys, hys⟩ := ih
    exact ⟨xs ++ ys, by rw [List.flatMap_cons, hxs, hys, hstate, db.attempts_append]⟩

theorem course (rs : List Request) : Course db s rs (s.answerAll db rs) := by
  induction rs generalizing s with
  | nil => exact .nil s
  | cons r rs ih => exact .cons (s.answered_answer r) (ih _)

/-- Over a whole session, each operation passes a prefix of its plan to the database, and all that
is passed meets the database as one sequence. -/
theorem course_answerAll (db : Database σ) (s : Session σ) (rs : List Request) :
    Course db s rs (s.answerAll db rs) ∧
      ∃ passed, (s.answerAll db rs).flatMap (·.trail.attempts) = db.attempts passed s.state :=
  ⟨s.course rs, (s.course rs).attempts_eq⟩

end Session

end SchemaPlan
