import SchemaPlan.Cli.Output
import SchemaPlan.Session.Scripted
import SchemaPlan.Proofs.Application
import SchemaPlan.Proofs.Building

namespace SchemaPlan

open Sql

variable {σ : Type}

def Database.NeverFails (db : Database σ) (state : σ) : Prop :=
  ∀ ss, db.Accepts ss state

namespace Session

section

variable {db : Database σ} {s : Session σ} {table : String} {op : Operation}
  {planned : Except Unsupported (List Statement)}
  {o : Outcome σ (Except ApplyError (List Statement))}

/-- A dry run tells the plan, and the database is left alone. -/
theorem Ran.result_of_dryRun (h : Ran db s table op planned o) (dry : s.dryRun = true) :
    o.result = planned.mapError .compile ∧ o.trail.attempts = [] := by
  cases h with
  | unsupported plan result attempts =>
    rw [result, plan]
    exact ⟨rfl, attempts⟩
  | shown plan _ result attempts =>
    rw [result, plan]
    exact ⟨rfl, attempts⟩
  | completed _ live | stopped _ live =>
    rw [dry] at live
    cases live

/-- Where nothing is refused the plan is told too, and all of it is run. -/
theorem Ran.result_of_neverFails (h : Ran db s table op planned o) (live : s.dryRun = false)
    (never : db.NeverFails s.state) :
    o.result = planned.mapError .compile ∧
      o.trail.executed = (planned.toOption.getD []).map Statement.text := by
  cases h with
  | unsupported plan result attempts =>
    rw [result, plan, Trail.executed, attempts]
    exact ⟨rfl, rfl⟩
  | shown _ dry =>
    rw [live] at dry
    cases dry
  | completed plan _ _ result _ executed =>
    rw [result, plan]
    exact ⟨rfl, executed⟩
  | @stopped pre post st e _ _ _ refused =>
    have hst := ((db.accepts_append pre [st] s.state).mp (never _)).2
    have hnone := ((db.accepts_cons st [] _).mp hst).1
    rw [refused] at hnone
    cases hnone

end

variable (db : Database σ) (s : Session σ) (b : Blueprint)

theorem result_apply_dryRun :
    (apply db { s with dryRun := true } b).result = (s.compile b).result :=
  ((ran_apply db { s with dryRun := true } b).result_of_dryRun rfl).1

theorem apply_neverFails (never : db.NeverFails s.state) :
    (apply db { s with dryRun := false } b).result = (s.compile b).result ∧
      (apply db { s with dryRun := false } b).trail.executed =
        ((s.compile b).result.toOption.getD []).map Statement.text := by
  have h := (ran_apply db { s with dryRun := false } b).result_of_neverFails rfl never
  rwa [← toOption_mapError ApplyError.compile] at h

end Session

def planEach (d : Dialect) (bs : List Blueprint) : Except Unsupported (List Statement) :=
  List.flatten <$> bs.mapM (·.compile d)

section Plan

variable {d : Dialect} {b : Blueprint} {bs : List Blueprint}

theorem planEach_of_error {e : Unsupported} (h : b.compile d = .error e) :
    planEach d (b :: bs) = .error e := by
  rw [planEach, List.mapM_cons, h]
  rfl

theorem planEach_of_ok {ss : List Statement} (h : b.compile d = .ok ss) :
    planEach d (b :: bs) = (ss ++ ·) <$> planEach d bs := by
  rw [planEach, List.mapM_cons, h, planEach]
  cases bs.mapM (·.compile d) <;> rfl

end Plan

namespace Cli

def Line.printed? : Line → Option String
  | .event _ => none
  | .text s => some s

def Report.printed (r : Report) : List String :=
  r.lines.filterMap Line.printed?

/-- The reports print the same lines and come to the same end, whatever they log on the way. -/
structure Report.Agrees (a b : Report) : Prop where
  printed : a.printed = b.printed
  ending : a.ending = b.ending

theorem filterMap_printed_event (es : List Event) :
    (es.map Line.event).filterMap Line.printed? = [] := by
  simp [List.filterMap_map, Function.comp_def, Line.printed?]

theorem filterMap_printed_statementLine (ss : List Statement) :
    (ss.map statementLine).filterMap Line.printed? = ss.map fun st => st.text ++ ";" := by
  rw [List.filterMap_map]
  exact List.filterMap_eq_map_iff_forall_eq_some.mpr fun _ _ => rfl

theorem after_nil (r : Report) : r.after [] = r := rfl

theorem Report.printed_after (lines : List Line) (r : Report) :
    (r.after lines).printed = lines.filterMap Line.printed? ++ r.printed :=
  List.filterMap_append

theorem Report.Agrees.after {a b : Report} {xs ys : List Line} (h : a.Agrees b)
    (hlines : xs.filterMap Line.printed? = ys.filterMap Line.printed?) :
    (a.after xs).Agrees (b.after ys) where
  printed := by rw [printed_after, printed_after, hlines, h.printed]
  ending := h.ending

theorem Report.Agrees.exit {a b : Report} (h : a.Agrees b) (verbose : Bool) :
    (a.exit verbose).code = (b.exit verbose).code ∧
      (a.exit verbose).stderr = (b.exit verbose).stderr := by
  unfold Report.exit
  rw [h.ending]
  cases b.ending <;> exact ⟨rfl, rfl⟩

section Print

variable {r : Report} {d : Dialect} {ss : List Statement} {ending : Ending}

/-- Apart from the log the report holds these statements, a line for each, and this is its end. -/
structure Report.Prints (r : Report) (ss : List Statement) (ending : Ending) : Prop where
  printed : r.printed = ss.map fun st => st.text ++ ";"
  ending : r.ending = ending

theorem Report.Prints.after (h : r.Prints ss ending) (es : List Event) (front : List Statement) :
    (r.after (es.map .event ++ front.map statementLine)).Prints (front ++ ss) ending where
  printed := by
    rw [printed_after, List.filterMap_append, filterMap_printed_event,
      filterMap_printed_statementLine, h.printed, List.map_append]
    rfl
  ending := h.ending

theorem prints_printStatements {before later : List Blueprint} {front : List Statement}
    (hplans : planEach d before = .ok front) (h : (printStatements d later).Prints ss ending) :
    (printStatements d (before ++ later)).Prints (front ++ ss) ending := by
  induction before generalizing front with
  | nil =>
    cases hplans
    exact h
  | cons b before ih =>
    cases hb : b.compile d with
    | error e =>
      rw [planEach_of_error hb] at hplans
      cases hplans
    | ok mine =>
      rw [planEach_of_ok hb, map_eq_ok_iff] at hplans
      obtain ⟨others, hothers, rfl⟩ := hplans
      rw [List.cons_append, printStatements, hb, List.append_assoc]
      exact (ih hothers).after b.warnings mine

theorem prints_of_error {b : Blueprint} {e : Unsupported} (h : b.compile d = .error e)
    (later : List Blueprint) :
    (printStatements d (b :: later)).Prints [] (.failed (.compile e)) := by
  rw [printStatements, h]
  exact ⟨filterMap_printed_event b.warnings, rfl⟩

/-- The report of a manifest file: the plans of its tables up to the first that has none, and
nothing if the file does not describe tables that can be built. -/
structure Shows (disk : Disk) (d : Dialect) (path : String) (r : Report) : Prop where
  unread : ∀ e, loadManifest disk path = .error e → r.Prints [] (.failed e)
  invalid : ∀ m e, loadManifest disk path = .ok m → m.blueprints = .error e →
    r.Prints [] (.failed (.invalid e))
  planned : ∀ m bs ss, loadManifest disk path = .ok m → m.blueprints = .ok bs →
    planEach d bs = .ok ss → r.Prints ss .done
  unplanned : ∀ m before b later ss e, loadManifest disk path = .ok m →
    m.blueprints = .ok (before ++ b :: later) → planEach d before = .ok ss →
      b.compile d = .error e → r.Prints ss (.failed (.compile e))

theorem shows_runSql (disk : Disk) (d : Dialect) (path : String) :
    Shows disk d path (runSql disk d path) := by
  have hbuilt {m : Manifest} {bs : List Blueprint} (hload : loadManifest disk path = .ok m)
      (hbs : m.blueprints = .ok bs) : runSql disk d path = printStatements d bs := by
    have hbuild : buildBlueprints m = .ok bs := mapError_eq_ok_iff.mpr hbs
    rw [runSql, hload]
    dsimp only
    rw [hbuild]
  refine ⟨fun e hload => ?_, fun m e hload hbs => ?_, fun m bs ss hload hbs hplans => ?_,
    fun m before b later ss e hload hbs hplans he => ?_⟩
  · rw [runSql, hload]
    exact ⟨rfl, rfl⟩
  · have hbuild : buildBlueprints m = .error (.invalid e) :=
      mapError_eq_error_iff.mpr ⟨e, hbs, rfl⟩
    rw [runSql, hload]
    dsimp only
    rw [hbuild]
    exact ⟨rfl, rfl⟩
  · have hdone : (printStatements d []).Prints [] .done := ⟨rfl, rfl⟩
    have h := prints_printStatements hplans hdone
    rwa [List.append_nil, List.append_nil, ← hbuilt hload hbs] at h
  · have h := prints_printStatements hplans (prints_of_error he later)
    rwa [List.append_nil, ← hbuilt hload hbs] at h

theorem Shows.after {disk : Disk} {path : String} (h : Shows disk d path r) (es : List Event) :
    Shows disk d path (r.after (es.map .event)) := by
  have hafter {ss : List Statement} {ending : Ending} (hr : r.Prints ss ending) :
      (r.after (es.map .event)).Prints ss ending := by
    have hlog := hr.after es []
    rwa [List.map_nil, List.append_nil, List.nil_append] at hlog
  exact ⟨fun e hload => hafter (h.unread e hload),
    fun m e hload hbs => hafter (h.invalid m e hload hbs),
    fun m bs ss hload hbs hplans => hafter (h.planned m bs ss hload hbs hplans),
    fun m before b later ss e hload hbs hplans he =>
      hafter (h.unplanned m before b later ss e hload hbs hplans he)⟩

end Print

variable (db : Database σ)

/-- Blueprints that are applied in a dry run print what they print without a database, also those
before one that does not compile. -/
theorem agrees_reportEach (s : Session σ) (dry : s.dryRun = true) (bs : List Blueprint) :
    (printStatements s.dialect bs).Agrees (reportEach true (s.applyEach db bs).1) := by
  induction bs with
  | nil => exact ⟨rfl, rfl⟩
  | cons b bs ih =>
    have hevents : (events (s.apply db b).trail).filterMap Line.printed? =
        (b.warnings.map Line.event).filterMap Line.printed? := by
      rw [events, filterMap_printed_event, filterMap_printed_event]
    cases s.ran_apply db b with
    | unsupported plan result =>
      rw [Session.applyEach_of_error result, reportEach_of_error result, printStatements, plan]
      exact ⟨hevents.symm, rfl⟩
    | @shown ss plan _ result _ session =>
      rw [Session.applyEach_of_ok result, reportEach_of_ok result, printStatements, plan, session]
      refine ih.after ?_
      rw [List.filterMap_append, List.filterMap_append, hevents]
      rfl
    | completed _ live | stopped _ live =>
      rw [dry] at live
      cases live

theorem agrees_runApply (disk : Disk) (d : Dialect) (state : σ) (path : String) :
    (runSql disk d path).Agrees (runApply db disk ⟨d, state, true⟩ path) := by
  unfold runSql runApply
  cases loadManifest disk path with
  | error e => exact ⟨rfl, rfl⟩
  | ok m =>
    dsimp only
    cases buildBlueprints m with
    | error e => exact ⟨rfl, rfl⟩
    | ok bs =>
      have h := agrees_reportEach db ⟨d, state, true⟩ rfl bs
      dsimp only
      rw [← after_nil (printStatements d bs)]
      exact h.after rfl

end Cli

namespace Disk

variable {d d' : Disk}

structure Extends (d d' : Disk) : Prop where
  here : d'.here = d.here
  entry : ∀ loc e, d.entry loc = some e → d'.entry loc = some e

theorem extends_create (d : Disk) (path : String) : d.Extends (d.create path) := by
  unfold create
  dsimp only
  split
  · exact ⟨rfl, fun _ _ h => h⟩
  · rename_i hfree
    refine ⟨rfl, fun loc e h => ?_⟩
    dsimp only
    rw [if_neg, h]
    rintro rfl
    exact hfree (by rw [h]; rfl)

theorem Extends.follow (h : d.Extends d') {loc : Location} {names : List String} {e : DiskEntry}
    (he : d.follow loc names = .ok e) : d'.follow loc names = .ok e := by
  induction names generalizing loc with
  | nil =>
    rw [Disk.follow] at he ⊢
    cases hloc : d.entry loc with
    | none =>
      rw [hloc] at he
      cases he
    | some e' =>
      rw [hloc] at he
      rw [h.entry loc e' hloc]
      exact he
  | cons name names ih =>
    rw [Disk.follow] at he ⊢
    cases hloc : d.entry loc with
    | none =>
      rw [hloc] at he
      cases he
    | some e' =>
      rw [hloc] at he
      rw [h.entry loc e' hloc]
      cases e' with
      | file bytes => cases he
      | folder =>
        dsimp only at he ⊢
        split at he
        · cases he
        · rename_i hname
          rw [if_neg hname]
          exact ih he

/-- A file that can be read stays as it is where more is put on the disk. -/
theorem Extends.read (h : d.Extends d') {path : String} {bytes : ByteArray}
    (hbytes : d.read path = .ok bytes) : d'.read path = .ok bytes := by
  unfold Disk.read at hbytes ⊢
  split at hbytes
  · cases hbytes
  · rename_i hpath
    rw [if_neg hpath]
    split at hbytes
    · cases hbytes
    · rename_i hsize
      rw [if_neg hsize, h.here]
      dsimp only at hbytes ⊢
      cases hentry : d.follow (Location.ofPath d.here path).1 (Location.ofPath d.here path).2 with
      | error e =>
        rw [hentry] at hbytes
        cases hbytes
      | ok entry =>
        rw [hentry] at hbytes
        rw [h.follow hentry]
        exact hbytes

end Disk

namespace Cli

theorem extends_openDatabase (disk : Disk) (url : String) :
    disk.Extends (openDatabase disk url) := by
  unfold openDatabase
  split
  · exact disk.extends_create _
  · exact ⟨rfl, fun _ _ h => h⟩

theorem loadManifest_congr {disk disk' : Disk} {path : String}
    (h : disk'.read path = disk.read path) : loadManifest disk' path = loadManifest disk path := by
  unfold loadManifest Disk.readText
  rw [h]

variable (db : Database σ)

/-- The file of a manifest is not touched by opening the database, so that the two tasks read the
same manifest. -/
theorem agrees_run (disk : Disk) (environment : Option String) (state : σ) (i : Invocation)
    {manifest : String} {bytes : ByteArray} (h : disk.read manifest = .ok bytes) :
    (run db disk environment state { i with task := .sql manifest }).Agrees
      (run db disk environment state { i with task := .apply manifest true }) := by
  let url := databaseUrl i environment
  let resolved := resolveDialect i.dialect url
  have hopen := (extends_openDatabase disk url).read h
  have hsql : runSql (openDatabase disk url) resolved.1 manifest =
      runSql disk resolved.1 manifest := by
    unfold runSql
    rw [loadManifest_congr (hopen.trans h.symm)]
  -- Apart from what they read, the two differ in a warning that only the one with a database gives.
  change Report.Agrees ((runSql disk resolved.1 manifest).after (resolved.2.map .event))
    ((runApply db (openDatabase disk url) ⟨resolved.1, state, true⟩ manifest).after
      (resolved.2.map .event ++ if Dialect.ofUrl url = resolved.1 then [] else
        [.event (.dialectMismatch (Dialect.ofUrl url) resolved.1)]))
  rw [← hsql]
  refine (agrees_runApply db _ _ state manifest).after ?_
  rw [List.filterMap_append, filterMap_printed_event]
  split <;> rfl

end Cli

/-- All ways to ask for the plan of a table agree: the statements alone, the plan of its blueprint,
a dry run and, where nothing is refused, a real one, in which just these statements are run.
Printing the statements of a manifest and applying it in a dry run agree as well, and both print
the plans of its tables. -/
theorem previews_agree (db : Database σ) (s : Session σ) :
    (∀ table calls,
      let planned := s.createSql table calls
      (s.compile (.build table .create calls)).result = .ok planned ∧
        (Session.create db { s with dryRun := true } table calls).result = .ok planned ∧
        (db.NeverFails s.state →
          let o := Session.create db { s with dryRun := false } table calls
          o.result = .ok planned ∧ o.trail.executed = planned.map Statement.text)) ∧
    (∀ table calls,
      let planned := (s.alterSql table calls).result
      (s.compile (.build table .alter calls)).result = planned ∧
        (Session.alter db { s with dryRun := true } table calls).result = planned ∧
        (∀ e, planned = .error e → ∃ u, e = .compile u) ∧
        (db.NeverFails s.state →
          let o := Session.alter db { s with dryRun := false } table calls
          o.result = planned ∧
            o.trail.executed = (planned.toOption.getD []).map Statement.text)) ∧
    ∀ (disk : Disk) (environment : Option String) (i : Cli.Invocation) (manifest : String)
      (bytes : ByteArray), disk.read manifest = .ok bytes →
      let shown := Cli.run db disk environment s.state { i with task := .sql manifest }
      let tried := Cli.run db disk environment s.state { i with task := .apply manifest true }
      shown.printed = tried.printed ∧ shown.ending = tried.ending ∧
        (shown.exit i.verbose).code = (tried.exit i.verbose).code ∧
        (shown.exit i.verbose).stderr = (tried.exit i.verbose).stderr ∧
        Cli.Shows disk (Cli.resolveDialect i.dialect (Cli.databaseUrl i environment)).1 manifest
          shown := by
  refine ⟨fun table calls => ?_, fun table calls => ?_, ?_⟩
  · have hcompile : (s.compile (.build table .create calls)).result =
        .ok (s.createSql table calls) := by
      rw [Session.compile, Blueprint.compile, Blueprint.mode_build]
      rfl
    refine ⟨hcompile, (s.result_apply_dryRun db _).trans hcompile, fun never => ?_⟩
    have hlive := s.apply_neverFails db (.build table .create calls) never
    rw [hcompile] at hlive
    exact hlive
  · refine ⟨rfl, s.result_apply_dryRun db _, fun e he => ?_, fun never => ?_⟩
    · obtain ⟨u, -, hu⟩ := mapError_eq_error_iff.mp he
      exact ⟨u, hu.symm⟩
    · exact s.apply_neverFails db (.build table .alter calls) never
  · intro disk environment i manifest bytes h
    have hagrees := Cli.agrees_run db disk environment s.state i h
    obtain ⟨hcode, hstderr⟩ := hagrees.exit i.verbose
    exact ⟨hagrees.printed, hagrees.ending, hcode, hstderr,
      (Cli.shows_runSql disk _ manifest).after _⟩

theorem Scripted.neverFails (answer : Option Int) (attempts : Nat) :
    database.NeverFails ⟨[], answer, attempts⟩ := by
  intro ss
  induction ss generalizing attempts with
  | nil => exact database.accepts_nil _
  | cons st ss ih => exact (database.accepts_cons st ss _).mpr ⟨rfl, ih (attempts + 1)⟩

theorem previews_agree_unrefused :
    let db := Scripted.database
    let s : Session Scripted := ⟨.sqlite, ⟨[], none, 0⟩, false⟩
    let bytes := "[\x7b\"table\":\"t\"\x7d,\x7b\"table\":\"t\",\"mode\":\"alter\"\x7d]".toUTF8
    let disk := Disk.ofFiles [("m.json", bytes)]
    let shown := Cli.run db disk none s.state ⟨none, none, false, .sql "m.json"⟩
    let tried := Cli.run db disk none s.state ⟨none, none, false, .apply "m.json" true⟩
    db.NeverFails s.state ∧ disk.read "m.json" = .ok bytes ∧
      (Session.create db s "t" [.column .id [], .column (.text "slug") [.index]]).trail.executed =
        ["CREATE TABLE \"t\" (\"id\" INTEGER PRIMARY KEY AUTOINCREMENT, \"slug\" TEXT NOT NULL)",
          "CREATE INDEX \"t_slug_index\" ON \"t\" (\"slug\")"] ∧
      shown.printed = tried.printed ∧ shown.ending = tried.ending := by
  intro db s bytes disk shown tried
  have never : db.NeverFails s.state := Scripted.neverFails none 0
  have hread : disk.read "m.json" = .ok bytes := by decide +kernel
  obtain ⟨hcreate, -, hrun⟩ := previews_agree db s
  obtain ⟨-, -, hlive⟩ := hcreate "t" [.column .id [], .column (.text "slug") [.index]]
  obtain ⟨hprinted, hending, -⟩ :=
    hrun disk none ⟨none, none, false, .sql "m.json"⟩ "m.json" bytes hread
  refine ⟨never, hread, (hlive never).2.trans ?_, hprinted, hending⟩
  decide +kernel

end SchemaPlan
