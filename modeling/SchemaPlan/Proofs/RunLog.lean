import SchemaPlan.Session.Scripted
import SchemaPlan.Proofs.Requests

namespace SchemaPlan

open Sql

variable {σ : Type}

structure LogLine where
  level : Level
  message : String
  fields : List (String × FieldValue)
deriving DecidableEq, Repr

def Event.line (e : Event) : LogLine :=
  ⟨e.level, e.message, e.fields⟩

def Reply.failure? : Reply → Option Failure
  | .statements (.error (.execution f)) => some f
  | _ => none

namespace LogLine

def ignored (b : Blueprint) : LogLine where
  level := .warn
  message := match b.mode with
    | .create => "Alter commands are ignored when creating a table"
    | .alter => "Column and index definitions are ignored when altering a table"
  fields := [("table", .quoted b.table), ("ignored", .count b.ignored)]

def applying (table operation : String) (statements : Nat) (dryRun : Bool) : LogLine where
  level := .info
  message := "Applying schema change"
  fields := [("table", .quoted table), ("operation", .quoted operation),
    ("statements", .count statements), ("dry_run", .flag dryRun)]

def executing (st : Statement) : LogLine where
  level := .debug
  message := "Executing SQL"
  fields := [("sql", .plain st.text)]

def failed (f : Failure) : LogLine where
  level := .error
  message := "Statement failed"
  fields := [("table", .quoted f.table), ("operation", .quoted f.op.label),
    ("position", .count f.position), ("error", .plain f.source.message)]

end LogLine

def Blueprint.ignoredLines (b : Blueprint) : List LogLine :=
  if b.ignored = 0 then [] else [.ignored b]

def Request.ignoredLines : Request → List LogLine
  | .create table calls => (Blueprint.build table .create calls).ignoredLines
  | .alter table calls => (Blueprint.build table .alter calls).ignoredLines
  | .apply b => b.ignoredLines
  | _ => []

def Work.planLines (w : Work) (dryRun : Bool) : List LogLine :=
  match w.planned with
  | .ok ss => [.applying w.table w.op.label ss.length dryRun]
  | .error _ => []

namespace Session

/-- The log of an operation: what it ignores, its plan, each statement that is passed to the
database and the one that fails. -/
structure Logged (db : Database σ) (s : Session σ) (w : Work) (ignored : List LogLine)
    (passed : List Statement) (o : Outcome σ Reply) : Prop where
  log : o.trail.events.map Event.line = ignored ++ w.planLines s.dryRun ++
    passed.map LogLine.executing ++ (o.result.failure?.map LogLine.failed).toList
  attempts : o.trail.attempts = db.attempts passed s.state
  state : o.session.state = db.after passed s.state
  unplanned : ∀ e, w.planned = .error e → passed = []
  planned : ∀ ss, w.planned = .ok ss → passed <+: ss
  dry : s.dryRun = true → passed = []
  failure : o.result.failure? = none ↔ db.Accepts passed s.state
  position : ∀ f, o.result.failure? = some f → f.position + 1 = passed.length

variable (db : Database σ) (s : Session σ)

theorem map_line_executing (ss : List Statement) :
    (ss.map fun st => Event.executing st.text).map Event.line = ss.map LogLine.executing :=
  List.map_map

theorem logged_run (table : String) (op : Operation) (ss : List Statement) :
    ∃ passed, Logged db s ⟨table, op, .ok ss⟩ [] passed
      (reply .statements (s.run db table op ss)) := by
  cases hd : s.dryRun with
  | true =>
    rw [run_of_dryRun hd]
    exact ⟨[], {
      log := by rw [hd]; rfl
      attempts := rfl
      state := rfl
      unplanned := fun _ _ => rfl
      planned := fun _ _ => List.nil_prefix
      dry := fun _ => rfl
      failure := iff_of_true rfl (db.accepts_nil s.state)
      position := fun f hf => nomatch hf }⟩
  | false =>
    rcases db.accepts_or_refuses ss s.state with h | ⟨pre, st, post, e, rfl, hpre, he⟩
    · rw [run_of_accepts hd h]
      exact ⟨ss, {
        log := by
          change LogLine.applying .. ::
            List.map Event.line (ss.map fun st => Event.executing st.text) = _
          rw [map_line_executing, hd]
          exact (List.append_nil _).symm
        attempts := rfl
        state := rfl
        unplanned := fun _ h => nomatch h
        planned := fun _ h => Except.ok.inj h ▸ List.prefix_refl ss
        dry := fun h => absurd (hd.symm.trans h) Bool.false_ne_true
        failure := iff_of_true rfl h
        position := fun f hf => nomatch hf }⟩
    · have hrefused : ¬db.Accepts (pre ++ [st]) s.state := by
        rw [db.accepts_append, db.accepts_cons, he]
        rintro ⟨-, h, -⟩
        cases h
      rw [run_of_refused hd hpre he]
      exact ⟨pre ++ [st], {
        log := by
          change LogLine.applying .. :: List.map Event.line
            ((pre ++ [st]).map (fun st => Event.executing st.text) ++ [_]) = _
          rw [List.map_append, map_line_executing, hd]
          rfl
        attempts := List.append_nil _
        state := rfl
        unplanned := fun _ h => nomatch h
        planned := fun _ h => by
          rw [← Except.ok.inj h]
          exact ⟨post, List.append_assoc pre [st] post⟩
        dry := fun h => absurd (hd.symm.trans h) Bool.false_ne_true
        failure := iff_of_false (fun h => nomatch h) hrefused
        position := by
          rintro f ⟨⟩
          change pre.length + 1 = (pre ++ [st]).length
          rw [List.length_append, List.length_singleton] }⟩

theorem map_line_warnings (b : Blueprint) : b.warnings.map Event.line = b.ignoredLines := by
  unfold Blueprint.warnings Blueprint.ignoredLines LogLine.ignored
  split
  · rfl
  · cases b.mode <;> rfl

theorem logged_apply (b : Blueprint) :
    ∃ passed, Logged db s ⟨b.table, .ofMode b.mode, b.compile s.dialect⟩ b.ignoredLines passed
      (reply .statements (s.apply db b)) := by
  unfold apply compile
  cases hc : b.compile s.dialect with
  | error e =>
    exact ⟨[], {
      log := by
        change b.warnings.map Event.line = b.ignoredLines ++ [] ++ [] ++ []
        rw [map_line_warnings]
        simp only [List.append_nil]
      attempts := rfl
      state := rfl
      unplanned := fun _ _ => rfl
      planned := fun _ _ => List.nil_prefix
      dry := fun _ => rfl
      failure := iff_of_true rfl (db.accepts_nil s.state)
      position := fun f hf => nomatch hf }⟩
  | ok ss =>
    obtain ⟨passed, h⟩ := s.logged_run db b.table (.ofMode b.mode) ss
    have hlog := h.log
    refine ⟨passed, { h with log := ?_ }⟩
    change (b.warnings ++ (s.run db b.table (.ofMode b.mode) ss).trail.events).map Event.line = _
    change (s.run db b.table (.ofMode b.mode) ss).trail.events.map Event.line = _ at hlog
    rw [List.map_append, map_line_warnings, hlog]
    simp only [List.append_assoc, List.nil_append]
    rfl

theorem logged_answer {r : Request} {w : Work} (h : r.work? s.dialect = some w) :
    ∃ passed, Logged db s w r.ignoredLines passed (s.answer db r) := by
  cases r with
  | create table calls =>
    obtain rfl := Option.some.inj h
    have happly := s.logged_apply db (.build table .create calls)
    rwa [Blueprint.table_build, Blueprint.mode_build] at happly
  | alter table calls =>
    obtain rfl := Option.some.inj h
    have happly := s.logged_apply db (.build table .alter calls)
    rwa [Blueprint.table_build, Blueprint.mode_build] at happly
  | apply b =>
    obtain rfl := Option.some.inj h
    exact s.logged_apply db b
  | drop table =>
    obtain rfl := Option.some.inj h
    exact s.logged_run db table .drop _
  | dropIfExists table =>
    obtain rfl := Option.some.inj h
    exact s.logged_run db table .drop _
  | rename old new =>
    obtain rfl := Option.some.inj h
    exact s.logged_run db old .rename _
  | _ => cases h

end Session

theorem Blueprint.length_ignoredLines (b : Blueprint) : b.ignoredLines.length ≤ 1 := by
  unfold ignoredLines
  split
  · exact Nat.zero_le 1
  · exact Nat.le_refl 1

theorem Blueprint.level_ignoredLines (b : Blueprint) : ∀ l ∈ b.ignoredLines, l.level = .warn := by
  unfold ignoredLines
  split
  · exact fun l hl => absurd hl List.not_mem_nil
  · rintro l hl
    rw [List.mem_singleton.mp hl]
    rfl

theorem Request.length_ignoredLines (r : Request) : r.ignoredLines.length ≤ 1 := by
  cases r with
  | create | alter | apply => exact Blueprint.length_ignoredLines _
  | _ => exact Nat.zero_le 1

theorem Request.level_ignoredLines (r : Request) : ∀ l ∈ r.ignoredLines, l.level = .warn := by
  cases r with
  | create | alter | apply => exact Blueprint.level_ignoredLines _
  | _ => exact fun l hl => absurd hl List.not_mem_nil

namespace Session

theorem Logged.countP_debug {db : Database σ} {s : Session σ} {w : Work} {ignored : List LogLine}
    {passed : List Statement} {o : Outcome σ Reply} (h : Logged db s w ignored passed o)
    (hignored : ∀ l ∈ ignored, l.level = .warn) :
    o.trail.events.countP (·.level = .debug) = passed.length := by
  let debug (l : LogLine) : Bool := l.level = .debug
  have hline : o.trail.events.countP (·.level = .debug) =
      (o.trail.events.map Event.line).countP debug := by
    rw [List.countP_map]
    rfl
  have hwarned : ignored.countP debug = 0 := by
    rw [List.countP_eq_zero]
    intro l hl
    simp [debug, hignored l hl]
  have hplan : (w.planLines s.dryRun).countP debug = 0 := by
    unfold Work.planLines
    cases w.planned <;> rfl
  have hpassed : (passed.map LogLine.executing).countP debug = passed.length := by
    rw [List.countP_map, List.countP_eq_length]
    exact fun _ _ => rfl
  have hfailed : (o.result.failure?.map LogLine.failed).toList.countP debug = 0 := by
    cases o.result.failure? <;> rfl
  rw [hline, h.log, List.countP_append, List.countP_append, List.countP_append, hwarned, hplan,
    hpassed, hfailed]
  omega

/-- The log of what is run tells what was: it warns once at most, and of a blueprint only, tells
the plan if there is one, every statement just as it is passed to the database, and at last the one
that is refused, if one is. -/
theorem log_tells_run (db : Database σ) (s : Session σ) {r : Request} {w : Work}
    (h : r.work? s.dialect = some w) :
    let o := s.answer db r
    (∃ passed, Logged db s w r.ignoredLines passed o) ∧
      r.ignoredLines.length ≤ 1 ∧ (∀ l ∈ r.ignoredLines, l.level = .warn) ∧
      ∀ f, o.result.failure? = some f →
        f.position + 1 = o.trail.events.countP (·.level = .debug) := by
  obtain ⟨passed, hlogged⟩ := s.logged_answer db h
  refine ⟨⟨passed, hlogged⟩, r.length_ignoredLines, r.level_ignoredLines, fun f hf => ?_⟩
  rw [hlogged.position f hf, hlogged.countP_debug r.level_ignoredLines]

theorem log_tells_run_of_refused :
    let s : Session Scripted := ⟨.sqlite, { refused := [1] }, false⟩
    let calls : List Call := [.column .id [], .column (.text "slug") [.index], .drop ["x"]]
    let r : Request := .create "t" calls
    let w : Work := ⟨"t", .create, (Blueprint.build "t" .create calls).compile .sqlite⟩
    let o := s.answer Scripted.database r
    r.work? s.dialect = some w ∧
      (∃ passed, Logged Scripted.database s w r.ignoredLines passed o) ∧
      o.result.failure?.map Failure.position = some 1 ∧
      o.trail.events.countP (·.level = .debug) = 2 := by
  intro s calls r w o
  have hwork : r.work? s.dialect = some w := rfl
  have hfailure : o.result.failure? = some ⟨"t", .create, 1,
      .createIndex "t_slug_index" "t" ["slug"], { message := "attempt 1 refused" }⟩ := by
    decide +kernel
  obtain ⟨hlogged, -, -, hposition⟩ := log_tells_run Scripted.database s hwork
  exact ⟨hwork, hlogged, by rw [hfailure]; rfl, (hposition _ hfailure).symm⟩

end Session

end SchemaPlan
