import SchemaPlan.Proofs.Application
import SchemaPlan.Proofs.Spelling
import SchemaPlan.Sql.Grammar

namespace SchemaPlan

open Sql

variable {σ : Type}

/-- The name that an event warns of because no dialect goes by it. -/
def Event.fallback? : Event → Option Dialect.Unknown
  | .fallback e => some e
  | _ => none

def Trail.IsQuiet (t : Trail) : Prop :=
  t.events.filterMap Event.fallback? = []

namespace Dialect

variable {name : String}

def warned (name : String) : List Unknown :=
  match parse name with
  | .ok _ => []
  | .error e => [e]

theorem ofNameOrDefault_eq (name : String) :
    ofNameOrDefault name = (parse name).toOption.getD .sqlite := by
  unfold ofNameOrDefault parse
  cases ofName? name <;> rfl

theorem warned_eq_nil_iff : warned name = [] ↔ ∃ d, parse name = .ok d := by
  unfold warned
  cases parse name <;> simp

theorem parse_name (d : Dialect) : parse d.name = .ok d := by
  cases d <;> decide +kernel

theorem ofNameOrDefault_name (d : Dialect) : ofNameOrDefault d.name = d := by
  rw [ofNameOrDefault_eq, parse_name]
  rfl

theorem warned_name (d : Dialect) : warned d.name = [] :=
  warned_eq_nil_iff.mpr ⟨d, d.parse_name⟩

end Dialect

namespace Trail

variable {a b : Trail}

theorem IsQuiet.append (ha : a.IsQuiet) (hb : b.IsQuiet) : (a ++ b).IsQuiet := by
  unfold IsQuiet at *
  rw [events_append, List.filterMap_append, ha, hb, List.append_nil]

theorem isQuiet_warnings (b : Blueprint) : IsQuiet { events := b.warnings } := by
  unfold IsQuiet Blueprint.warnings
  split
  · rfl
  · split <;> rfl

theorem isQuiet_trail (db : Database σ) (ss : List Statement) (state : σ) :
    (db.trail ss state).IsQuiet := by
  change (ss.map fun st => Event.executing st.text).filterMap Event.fallback? = []
  rw [List.filterMap_map, List.filterMap_eq_nil_iff]
  exact fun _ _ => rfl

end Trail

namespace Session

variable (db : Database σ) (s : Session σ)

theorem openNamed_eq (name : String) (state : σ) :
    openNamed name state = (⟨Dialect.ofNameOrDefault name, state, false⟩,
      (Dialect.warned name).map Event.fallback) := by
  rw [Dialect.ofNameOrDefault_eq]
  unfold openNamed Dialect.warned
  cases Dialect.parse name <;> rfl

theorem isQuiet_run (table : String) (op : Operation) (ss : List Statement) :
    (s.run db table op ss).trail.IsQuiet := by
  have hstart (dryRun : Bool) :
      Trail.IsQuiet { events := [.applying table op ss.length dryRun] } := rfl
  cases hd : s.dryRun with
  | true =>
    rw [run_of_dryRun hd]
    exact hstart true
  | false =>
    rcases db.accepts_or_refuses ss s.state with h | ⟨pre, st, post, e, rfl, hpre, he⟩
    · rw [run_of_accepts hd h]
      exact (hstart false).append (Trail.isQuiet_trail db ss s.state)
    · rw [run_of_refused hd hpre he]
      exact (hstart false).append ((Trail.isQuiet_trail db (pre ++ [st]) s.state).append rfl)

theorem isQuiet_apply (b : Blueprint) : (s.apply db b).trail.IsQuiet := by
  unfold apply compile
  cases b.compile s.dialect with
  | error e => exact Trail.isQuiet_warnings b
  | ok ss => exact (Trail.isQuiet_warnings b).append (s.isQuiet_run db b.table _ ss)

theorem isQuiet_hasTable (table : String) : (s.hasTable db table).trail.IsQuiet := by
  unfold hasTable
  dsimp only
  split <;> rfl

end Session

namespace Cli

def Line.fallback? : Line → Option Dialect.Unknown
  | .event e => e.fallback?
  | .text _ => none

def Report.fallbacks (r : Report) : List Dialect.Unknown :=
  r.lines.filterMap Line.fallback?

theorem fallbacks_after (lines : List Line) (r : Report) :
    (r.after lines).fallbacks = lines.filterMap Line.fallback? ++ r.fallbacks :=
  List.filterMap_append

theorem filterMap_fallback_event (es : List Event) :
    (es.map Line.event).filterMap Line.fallback? = es.filterMap Event.fallback? :=
  List.filterMap_map

theorem filterMap_fallback_events {t : Trail} (h : t.IsQuiet) :
    (events t).filterMap Line.fallback? = [] := by
  rw [events, filterMap_fallback_event]
  exact h

theorem filterMap_fallback_text {α : Type} (xs : List α) (text : α → String) :
    (xs.map fun x => Line.text (text x)).filterMap Line.fallback? = [] := by
  rw [List.filterMap_map, List.filterMap_eq_nil_iff]
  exact fun _ _ => rfl

theorem filterMap_fallback_appliedLines (dryRun : Bool) (b : Blueprint) (ss : List Statement) :
    (appliedLines dryRun b ss).filterMap Line.fallback? = [] := by
  cases dryRun with
  | true => exact filterMap_fallback_text ss fun st => st.text ++ ";"
  | false => rfl

theorem fallbacks_printStatements (d : Dialect) (bs : List Blueprint) :
    (printStatements d bs).fallbacks = [] := by
  induction bs with
  | nil => rfl
  | cons b bs ih =>
    have hwarnings := filterMap_fallback_events (Trail.isQuiet_warnings b)
    change (b.warnings.map Line.event).filterMap Line.fallback? = [] at hwarnings
    rw [printStatements]
    cases b.compile d with
    | error e => exact hwarnings
    | ok ss =>
      dsimp only
      rw [fallbacks_after, List.filterMap_append, hwarnings, ih, List.append_nil]
      exact filterMap_fallback_text ss fun st => st.text ++ ";"

theorem fallbacks_runSql (disk : Disk) (d : Dialect) (path : String) :
    (runSql disk d path).fallbacks = [] := by
  unfold runSql
  cases loadManifest disk path with
  | error e => rfl
  | ok m =>
    dsimp only
    cases buildBlueprints m with
    | error e => rfl
    | ok bs => exact fallbacks_printStatements d bs

variable (db : Database σ)

theorem fallbacks_reportEach (dryRun : Bool) (bs : List Blueprint) (s : Session σ) :
    (reportEach dryRun (s.applyEach db bs).1).fallbacks = [] := by
  induction bs generalizing s with
  | nil => rfl
  | cons b bs ih =>
    have hb := filterMap_fallback_events (s.isQuiet_apply db b)
    cases hr : (s.apply db b).result with
    | error e =>
      rw [Session.applyEach_of_error hr, reportEach_of_error hr]
      exact hb
    | ok ss =>
      rw [Session.applyEach_of_ok hr, reportEach_of_ok hr, fallbacks_after, List.filterMap_append,
        hb, filterMap_fallback_appliedLines, ih]
      rfl

theorem fallbacks_runApply (disk : Disk) (s : Session σ) (path : String) :
    (runApply db disk s path).fallbacks = [] := by
  have hopening (m : Manifest) : (Line.event (.loaded m.path m.tables.length) ::
      (if s.dryRun then [.event .dryRunMode] else [])).filterMap Line.fallback? = [] := by
    cases s.dryRun <;> rfl
  unfold runApply
  cases loadManifest disk path with
  | error e => rfl
  | ok m =>
    dsimp only
    cases buildBlueprints m with
    | error e => exact hopening m
    | ok bs =>
      dsimp only
      rw [fallbacks_after, hopening, fallbacks_reportEach]
      rfl

theorem fallbacks_events_append {t : Trail} {line : Line} (ht : t.IsQuiet)
    (hline : line.fallback? = none) (ending : Ending) :
    (Report.mk (events t ++ [line]) ending).fallbacks = [] := by
  rw [Report.fallbacks, List.filterMap_append, filterMap_fallback_events ht]
  simp [hline]

theorem fallbacks_runHasTable (s : Session σ) (table : String) :
    (runHasTable db s table).fallbacks = [] := by
  have hquiet := s.isQuiet_hasTable db table
  unfold runHasTable
  dsimp only
  split
  · exact fallbacks_events_append hquiet rfl .done
  · exact fallbacks_events_append hquiet rfl .absent

theorem fallbacks_reportOf {o : Outcome σ (Except ApplyError (List Statement))} {closing : Event}
    (ho : o.trail.IsQuiet) (hclosing : closing.fallback? = none) :
    (reportOf o closing).fallbacks = [] := by
  have hline : (Line.event closing).fallback? = none := hclosing
  unfold reportOf
  cases o.result with
  | error e => exact filterMap_fallback_events ho
  | ok ss => exact fallbacks_events_append ho hline .done

theorem fallbacks_runConnected (disk : Disk) (d : Dialect) (state : σ) (task : Task) :
    (runConnected db disk d state task).fallbacks = [] := by
  cases task with
  | sql manifest => exact fallbacks_runSql disk d manifest
  | apply manifest dryRun => exact fallbacks_runApply db disk ⟨d, state, dryRun⟩ manifest
  | hasTable table => exact fallbacks_runHasTable db ⟨d, state, false⟩ table
  | drop table ifExists =>
    cases ifExists <;> exact fallbacks_reportOf (Session.isQuiet_run db _ table .drop _) rfl
  | rename old new => exact fallbacks_reportOf (Session.isQuiet_run db _ old .rename _) rfl

theorem after_append (xs ys : List Line) (r : Report) :
    r.after (xs ++ ys) = (r.after ys).after xs :=
  congrArg (Report.mk · r.ending) (List.append_assoc xs ys r.lines)

theorem resolveDialect_some (name url : String) :
    resolveDialect (some name) url =
      (Dialect.ofNameOrDefault name, (Dialect.warned name).map Event.fallback) := by
  rw [Dialect.ofNameOrDefault_eq]
  unfold resolveDialect Dialect.warned
  dsimp only
  cases Dialect.parse name <;> rfl

variable (disk : Disk) (environment : Option String) (state : σ) (i : Invocation) (name : String)

theorem fallbacks_run_name (d : Dialect) :
    (run db disk environment state { i with dialect := some d.name }).fallbacks = [] := by
  unfold run
  dsimp only
  rw [resolveDialect_some, Dialect.ofNameOrDefault_name, Dialect.warned_name]
  have hwarning (connection : Dialect) : (if connection = d then [] else
      [Line.event (.dialectMismatch connection d)]).filterMap Line.fallback? = [] := by
    split <;> rfl
  cases i.task with
  | sql manifest => exact fallbacks_runSql disk d manifest
  | apply | hasTable | drop | rename =>
    dsimp only
    rw [fallbacks_after, List.map_nil, List.map_nil, List.nil_append, hwarning,
      fallbacks_runConnected]
    rfl

/-- A name stands for that of its dialect. It is warned of in front if it has none. -/
theorem run_eq_after :
    run db disk environment state { i with dialect := some name } =
      (run db disk environment state
        { i with dialect := some (Dialect.ofNameOrDefault name).name }).after
          (((Dialect.warned name).map Event.fallback).map Line.event) := by
  unfold run
  dsimp only
  rw [resolveDialect_some, resolveDialect_some, Dialect.ofNameOrDefault_name, Dialect.warned_name]
  cases i.task with
  | sql manifest => rfl
  | apply | hasTable | drop | rename => exact after_append _ _ _

theorem fallbacks_run :
    (run db disk environment state { i with dialect := some name }).fallbacks =
      Dialect.warned name := by
  have hopening : (((Dialect.warned name).map Event.fallback).map Line.event).filterMap
      Line.fallback? = Dialect.warned name := by
    rw [filterMap_fallback_event, List.filterMap_map]
    exact List.filterMap_some
  rw [run_eq_after, fallbacks_after, hopening, fallbacks_run_name, List.append_nil]

end Cli

open Text in
/-- Every way from a name to a dialect is the same: the five spellings are known, in any case and
with blanks around them. SQLite stands for all other names, with one warning where a session or a
task of the command line asks for one of them. -/
theorem names_resolve_alike (name : String) :
    let named := (Dialect.parse name).toOption.getD .sqlite
    ((∃ d, Dialect.parse name = .ok d) ↔ ∃ core, Blank.Leaves name core ∧
      core.map Char.toLower ∈ ["sqlite", "sqlite3", "pgsql", "postgres", "postgresql"]) ∧
    (∀ d, Dialect.parse name = .ok d ↔
      ∃ core, Blank.Leaves name core ∧ core.map Char.toLower ∈ d.synonyms) ∧
    ((∃ d, Dialect.parse name = .ok d) ∧ Dialect.warned name = [] ∨
      Dialect.parse name = .error ⟨name⟩ ∧ Dialect.warned name = [⟨name⟩]) ∧
    (∀ other, Respelled name other →
      Dialect.parse other = (Dialect.parse name).mapError fun _ => ⟨other⟩) ∧
    Dialect.ofNameOrDefault name = named ∧
    ((Grammar.ofName name).dialect = named ∧ Grammar.ofName name = named.grammar) ∧
    ∀ (σ : Type) (state : σ),
      ((Session.openNamed name state).1.dialect = named ∧
        (Session.openNamed name state).2 = (Dialect.warned name).map Event.fallback) ∧
      (∀ url, (Cli.resolveDialect (some name) url).1 = named) ∧
      ∀ (db : Database σ) (disk : Disk) (environment : Option String) (i : Cli.Invocation),
        let r := Cli.run db disk environment state { i with dialect := some name }
        r.fallbacks = Dialect.warned name ∧
          r = (Cli.run db disk environment state { i with dialect := some named.name }).after
            (((Dialect.warned name).map Event.fallback).map Cli.Line.event) := by
  intro named
  have hnamed : Dialect.ofNameOrDefault name = named := Dialect.ofNameOrDefault_eq name
  refine ⟨?_, fun d => ?_, ?_, fun _ => Dialect.parse_of_respelled, hnamed, ⟨hnamed, ?_⟩, ?_⟩
  · simp only [Dialect.exists_parse_eq_ok_iff, Blank.leaves_iff, exists_eq_left]
  · simp only [Dialect.parse_eq_ok_iff, Blank.leaves_iff, exists_eq_left]
  · cases hparse : Dialect.parse name with
    | ok d => exact .inl ⟨⟨d, rfl⟩, Dialect.warned_eq_nil_iff.mpr ⟨d, hparse⟩⟩
    | error e =>
      obtain rfl := Dialect.eq_of_parse_eq_error hparse
      refine .inr ⟨rfl, ?_⟩
      rw [Dialect.warned, hparse]
  · rw [Grammar.ofName, hnamed]
  · intro σ state
    rw [Session.openNamed_eq, hnamed]
    refine ⟨⟨rfl, rfl⟩, fun url => ?_, fun db disk environment i => ⟨?_, ?_⟩⟩
    · rw [Cli.resolveDialect_some, hnamed]
    · exact Cli.fallbacks_run db disk environment state i name
    · rw [← hnamed]
      exact Cli.run_eq_after db disk environment state i name

theorem names_resolve_alike_of_case :
    let name := "pgsql"
    let other := "\u3000PgSQL "
    let unknown := "my\u200Bsql"
    Text.Respelled name other ∧ Dialect.parse other = .ok .postgres ∧
      (Session.openNamed unknown ()).1.dialect = .sqlite ∧
      (Session.openNamed unknown ()).2 = [.fallback ⟨unknown⟩] := by
  intro name other unknown
  have hsurrounds : Text.Blank.Surrounds other "PgSQL" :=
    ⟨"\u3000", " ", by decide, by simp [Text.Blank.isBlank], by simp [Text.Blank.isBlank]⟩
  have hrespelled : Text.Respelled name other := ⟨"PgSQL", hsurrounds, by simp [Text.Recased, name]⟩
  have hname : Dialect.parse name = .ok .postgres := by decide +kernel
  have hunknown : Dialect.parse unknown = .error ⟨unknown⟩ := by decide +kernel
  obtain ⟨-, -, -, hother, -⟩ := names_resolve_alike name
  obtain ⟨-, -, -, -, -, -, hopen⟩ := names_resolve_alike unknown
  obtain ⟨⟨hdialect, hevents⟩, -⟩ := hopen Unit ()
  refine ⟨hrespelled, ?_, ?_, ?_⟩
  · rw [hother other hrespelled, hname]
    rfl
  · rw [hdialect, hunknown]
    rfl
  · rw [hevents, Dialect.warned, hunknown]
    rfl

end SchemaPlan
