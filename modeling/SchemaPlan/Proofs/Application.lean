import Mathlib.Data.List.Forall2
import SchemaPlan.Cli.Run
import SchemaPlan.Proofs.Execution
import SchemaPlan.Proofs.Results

namespace SchemaPlan

open Sql

variable {σ : Type}

def Event.passed? : Event → Option String
  | .executing sql => some sql
  | _ => none

namespace Trail

def IsLogged (t : Trail) : Prop :=
  t.events.filterMap Event.passed? = t.attempts.map Attempt.sql

theorem IsLogged.append {a b : Trail} (ha : a.IsLogged) (hb : b.IsLogged) : (a ++ b).IsLogged := by
  unfold IsLogged at *
  rw [events_append, attempts_append, List.filterMap_append, List.map_append, ha, hb]

theorem isLogged_warnings (b : Blueprint) : IsLogged { events := b.warnings } := by
  unfold IsLogged Blueprint.warnings
  split
  · rfl
  · split <;> rfl

theorem isLogged_trail (db : Database σ) (ss : List Statement) (state : σ) :
    (db.trail ss state).IsLogged := by
  induction ss generalizing state with
  | nil => rfl
  | cons st ss ih =>
    have hst : IsLogged
        { attempts := [⟨st.text, db.refusal? st state⟩], events := [.executing st.text] } := rfl
    exact hst.append (ih (db.after [st] state))

end Trail

namespace Session

variable (db : Database σ) (s : Session σ)

theorem isLogged_run (table : String) (op : Operation) (ss : List Statement) :
    (s.run db table op ss).trail.IsLogged := by
  have hstart (dryRun : Bool) :
      Trail.IsLogged { events := [.applying table op ss.length dryRun] } := rfl
  cases hd : s.dryRun with
  | true =>
    rw [run_of_dryRun hd]
    exact hstart true
  | false =>
    rcases db.accepts_or_refuses ss s.state with h | ⟨pre, st, post, e, rfl, hpre, he⟩
    · rw [run_of_accepts hd h]
      exact (hstart false).append (Trail.isLogged_trail db ss s.state)
    · rw [run_of_refused hd hpre he]
      exact (hstart false).append ((Trail.isLogged_trail db (pre ++ [st]) s.state).append rfl)

theorem isLogged_apply (b : Blueprint) : (s.apply db b).trail.IsLogged := by
  unfold apply compile
  cases b.compile s.dialect with
  | error e => exact Trail.isLogged_warnings b
  | ok ss => exact (Trail.isLogged_warnings b).append (s.isLogged_run db b.table _ ss)

variable {db s} {b : Blueprint}

theorem applyEach_of_error {e : ApplyError} (h : (s.apply db b).result = .error e)
    (bs : List Blueprint) :
    s.applyEach db (b :: bs) = ([(b, s.apply db b)], (s.apply db b).session) := by
  rw [applyEach]
  dsimp only
  rw [h]

theorem applyEach_of_ok {ss : List Statement} (h : (s.apply db b).result = .ok ss)
    (bs : List Blueprint) :
    s.applyEach db (b :: bs) =
      let rest := (s.apply db b).session.applyEach db bs
      ((b, s.apply db b) :: rest.1, rest.2) := by
  rw [applyEach]
  dsimp only
  rw [h]

end Session

namespace Cli

def Line.passed? : Line → Option String
  | .event e => e.passed?
  | .text _ => none

def Report.passed (r : Report) : List String :=
  r.lines.filterMap Line.passed?

/-- How far blueprints get that are applied in order: the statements that succeed, those that are
passed to the database, and the end. All statements of the blueprints before the one that fails
succeed, and if it is a statement that fails, those before it in its own plan. -/
inductive Reached (db : Database σ) (d : Dialect) (bs : List Blueprint) (state : σ) :
    List Statement → List Statement → Ending → Prop
  | all {plans : List (List Statement)} (planned : bs.map (·.compile d) = plans.map .ok)
      (accepted : db.Accepts plans.flatten state) :
      Reached db d bs state plans.flatten plans.flatten .done
  | unsupported {before later : List Blueprint} {b : Blueprint} {plans : List (List Statement)}
      {e : Unsupported} (order : bs = before ++ b :: later)
      (planned : before.map (·.compile d) = plans.map .ok)
      (accepted : db.Accepts plans.flatten state) (unplanned : b.compile d = .error e) :
      Reached db d bs state plans.flatten plans.flatten (.failed (.compile e))
  | refused {before later : List Blueprint} {b : Blueprint} {plans : List (List Statement)}
      {pre post : List Statement} {st : Statement} {e : DatabaseError}
      (order : bs = before ++ b :: later) (planned : before.map (·.compile d) = plans.map .ok)
      (plan : b.compile d = .ok (pre ++ st :: post))
      (accepted : db.Accepts (plans.flatten ++ pre) state)
      (refused : db.refusal? st (db.after (plans.flatten ++ pre) state) = some e) :
      Reached db d bs state (plans.flatten ++ pre) (plans.flatten ++ pre ++ [st])
        (.failed (.execution ⟨b.table, .ofMode b.mode, pre.length, st, e⟩))

section

variable {db : Database σ} {d : Dialect} {b : Blueprint} {bs : List Blueprint} {state : σ}
  {executed passed ss : List Statement} {ending : Ending}

theorem Reached.cons (plan : b.compile d = .ok ss) (hss : db.Accepts ss state)
    (h : Reached db d bs (db.after ss state) executed passed ending) :
    Reached db d (b :: bs) state (ss ++ executed) (ss ++ passed) ending := by
  cases h with
  | @all plans planned accepted =>
    have hp : (b :: bs).map (·.compile d) = (ss :: plans).map .ok := by simp [plan, planned]
    exact .all hp ((db.accepts_append ss _ state).mpr ⟨hss, accepted⟩)
  | @unsupported before later b' plans e order planned accepted unplanned =>
    have hp : (b :: before).map (·.compile d) = (ss :: plans).map .ok := by simp [plan, planned]
    exact .unsupported (congrArg (b :: ·) order) hp
      ((db.accepts_append ss _ state).mpr ⟨hss, accepted⟩) unplanned
  | @refused before later b' plans pre post st e order planned plan' accepted refused =>
    have hp : (b :: before).map (·.compile d) = (ss :: plans).map .ok := by simp [plan, planned]
    have ha : db.Accepts ((ss :: plans).flatten ++ pre) state := by
      rw [List.flatten_cons, List.append_assoc]
      exact (db.accepts_append ss _ state).mpr ⟨hss, accepted⟩
    have hr : db.refusal? st (db.after ((ss :: plans).flatten ++ pre) state) = some e := by
      rw [List.flatten_cons, List.append_assoc, db.after_append]
      exact refused
    have h := Reached.refused (congrArg (b :: ·) order) hp plan' ha hr
    simpa only [List.flatten_cons, List.append_assoc] using h

end

section

variable {b : Blueprint} {o : Outcome σ (Except ApplyError (List Statement))}

theorem reportEach_of_error {e : ApplyError} (h : o.result = .error e) (dryRun : Bool)
    (rest : List (Blueprint × Outcome σ (Except ApplyError (List Statement)))) :
    reportEach dryRun ((b, o) :: rest) = ⟨events o.trail, .failed (.ofApply e)⟩ := by
  rw [reportEach, h]

theorem reportEach_of_ok {ss : List Statement} (h : o.result = .ok ss) (dryRun : Bool)
    (rest : List (Blueprint × Outcome σ (Except ApplyError (List Statement)))) :
    reportEach dryRun ((b, o) :: rest) =
      (reportEach dryRun rest).after (events o.trail ++ appliedLines dryRun b ss) := by
  rw [reportEach, h]

end

variable (db : Database σ)

theorem reached_applyEach (bs : List Blueprint) (s : Session σ) (live : s.dryRun = false) :
    let applied := s.applyEach db bs
    ∃ executed passed,
      Reached db s.dialect bs s.state executed passed (reportEach false applied.1).ending ∧
        applied.1.flatMap (·.2.trail.executed) = executed.map Statement.text ∧
        applied.1.flatMap (·.2.trail.attempts) = db.attempts passed s.state ∧
        applied.2.state = db.after passed s.state := by
  -- What is left of the list meets the session that the first blueprint leaves.
  induction bs generalizing s with
  | nil =>
    have hp : ([] : List Blueprint).map (·.compile s.dialect) =
        ([] : List (List Statement)).map .ok := rfl
    exact ⟨[], [], .all hp (db.accepts_nil _), rfl, rfl, rfl⟩
  | cons b bs ih =>
    have order : b :: bs = [] ++ b :: bs := rfl
    have before : ([] : List Blueprint).map (·.compile s.dialect) =
        ([] : List (List Statement)).map .ok := rfl
    cases s.ran_apply db b with
    | unsupported plan result attempts session =>
      rw [Session.applyEach_of_error result]
      refine ⟨[], [], ?_, ?_, ?_, ?_⟩
      · rw [reportEach_of_error result]
        exact .unsupported order before (db.accepts_nil _) plan
      · simp [Trail.executed, attempts]
      · simp [attempts, Database.attempts]
      · rw [session]
        rfl
    | shown plan dry result attempts session =>
      rw [live] at dry
      cases dry
    | @completed ss plan _ accepted result attempts executed session =>
      have hlive : (s.apply db b).session.dryRun = false := by rw [session, live]
      have hdialect : (s.apply db b).session.dialect = s.dialect := by rw [session]
      have hafter : (s.apply db b).session.state = db.after ss s.state := by rw [session]
      obtain ⟨xs, ys, hreached, hxs, hys, hstate⟩ := ih (s.apply db b).session hlive
      rw [hafter] at hreached hys hstate
      rw [hdialect] at hreached
      rw [Session.applyEach_of_ok result]
      refine ⟨ss ++ xs, ss ++ ys, ?_, ?_, ?_, ?_⟩
      · rw [reportEach_of_ok result]
        exact hreached.cons plan accepted
      · rw [List.flatMap_cons, executed, hxs, List.map_append]
      · rw [List.flatMap_cons, attempts, hys, db.attempts_append]
      · rw [hstate, db.after_append]
    | @stopped pre post st e plan _ accepted refused result attempts executed session =>
      rw [Session.applyEach_of_error result]
      refine ⟨pre, pre ++ [st], ?_, ?_, ?_, ?_⟩
      · rw [reportEach_of_error result]
        exact .refused order before plan accepted refused
      · simpa using executed
      · simpa using attempts
      · rw [session]

theorem passed_after (lines : List Line) (r : Report) :
    (r.after lines).passed = lines.filterMap Line.passed? ++ r.passed :=
  List.filterMap_append

theorem filterMap_passed_events {t : Trail} (h : t.IsLogged) :
    (events t).filterMap Line.passed? = t.attempts.map Attempt.sql := by
  rw [events, List.filterMap_map]
  exact h

theorem filterMap_passed_appliedLines (dryRun : Bool) (b : Blueprint) (ss : List Statement) :
    (appliedLines dryRun b ss).filterMap Line.passed? = [] := by
  cases dryRun with
  | true =>
    rw [appliedLines, if_pos rfl, List.filterMap_map]
    exact List.filterMap_eq_nil_iff.mpr fun _ _ => rfl
  | false => rfl

theorem passed_reportEach (dryRun : Bool) (bs : List Blueprint) (s : Session σ) :
    (reportEach dryRun (s.applyEach db bs).1).passed =
      ((s.applyEach db bs).1.flatMap (·.2.trail.attempts)).map Attempt.sql := by
  induction bs generalizing s with
  | nil => rfl
  | cons b bs ih =>
    have hb := filterMap_passed_events (s.isLogged_apply db b)
    cases hr : (s.apply db b).result with
    | error e =>
      rw [Session.applyEach_of_error hr, reportEach_of_error hr, List.flatMap_singleton]
      exact hb
    | ok ss =>
      rw [Session.applyEach_of_ok hr, reportEach_of_ok hr, passed_after, List.filterMap_append, hb,
        filterMap_passed_appliedLines, List.append_nil, ih, List.flatMap_cons, List.map_append]

theorem map_sql_attempts (ss : List Statement) (state : σ) :
    (db.attempts ss state).map Attempt.sql = ss.map Statement.text := by
  induction ss generalizing state with
  | nil => rfl
  | cons st ss ih => rw [Database.attempts, List.map_cons, ih, List.map_cons]

end Cli

namespace Manifest

variable {m : Manifest}

theorem blueprints_eq_ok {bs : List Blueprint} (h : m.blueprints = .ok bs) :
    m.tables.map (·.blueprint) = bs.map .ok := by
  have hm : m.tables.map (blueprintOf m.path) = bs.map .ok := mapM_eq_ok_iff.mp h
  rw [← List.forall₂_eq_eq_eq, List.forall₂_map_left_iff, List.forall₂_map_right_iff] at hm ⊢
  exact hm.imp fun t b hb => mapError_eq_ok_iff.mp hb

theorem blueprints_eq_error {e : Invalid} (h : m.blueprints = .error e) :
    ∃ t ∈ m.tables, ∃ f, t.blueprint = .error f ∧ e = ⟨m.path, .fault t.table f⟩ := by
  obtain ⟨pre, post, t, ys, ht, -, he⟩ := mapM_eq_error h
  obtain ⟨f, hf, rfl⟩ := mapError_eq_error_iff.mp he
  exact ⟨t, by simp [ht], f, hf, rfl⟩

end Manifest

namespace Cli

variable (db : Database σ)

/-- Nothing of a manifest is applied unless all of its tables have their blueprints. Then they are
applied in file order, up to the first statement that fails or the first table without a plan. -/
theorem runApply_reached (disk : Disk) (d : Dialect) (state : σ) (path : String) :
    let s : Session σ := ⟨d, state, false⟩
    let r := runApply db disk s path
    match disk.readText path with
    | .error e => r = ⟨[], .failed (.file e)⟩
    | .ok text =>
      match Manifest.parse path text with
      | .error e => r = ⟨[], .failed (.ofLoad e)⟩
      | .ok m =>
        match m.blueprints with
        | .error e =>
          (∃ t ∈ m.tables, ∃ f, t.blueprint = .error f ∧ e = ⟨m.path, .fault t.table f⟩) ∧
            r = ⟨[.event (.loaded m.path m.tables.length)], .failed (.invalid e)⟩
        | .ok bs =>
          m.tables.map (·.blueprint) = bs.map .ok ∧
            ∃ executed passed, Reached db d bs state executed passed r.ending ∧
              r.passed = passed.map Statement.text ∧
              (s.applyEach db bs).1.flatMap (·.2.trail.executed) = executed.map Statement.text ∧
              (s.applyEach db bs).1.flatMap (·.2.trail.attempts) = db.attempts passed state ∧
              (s.applyEach db bs).2.state = db.after passed state := by
  dsimp only
  unfold runApply loadManifest buildBlueprints
  cases disk.readText path with
  | error e => rfl
  | ok text =>
    dsimp only
    cases Manifest.parse path text with
    | error e => rfl
    | ok m =>
      dsimp only [Except.mapError]
      cases hbs : m.blueprints with
      | error e => exact ⟨Manifest.blueprints_eq_error hbs, rfl⟩
      | ok bs =>
        obtain ⟨executed, passed, hreached, hexecuted, hattempts, hstate⟩ :=
          reached_applyEach db bs ⟨d, state, false⟩ rfl
        refine ⟨Manifest.blueprints_eq_ok hbs, executed, passed, hreached, ?_, hexecuted, hattempts,
          hstate⟩
        have hpassed := passed_reportEach db false bs ⟨d, state, false⟩
        rw [hattempts, map_sql_attempts] at hpassed
        exact hpassed

end Cli

end SchemaPlan
