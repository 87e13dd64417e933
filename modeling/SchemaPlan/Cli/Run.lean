import SchemaPlan.Error
import SchemaPlan.Cli.Arguments
import SchemaPlan.Cli.Catalogue

namespace SchemaPlan.Cli

open Sql

inductive Line where
  | event (e : Event)
  | text (s : String)
deriving DecidableEq

def statementLine (s : Statement) : Line :=
  .text (s.text ++ ";")

inductive Ending where
  | done
  | absent
  | failed (e : SchemaError)

structure Report where
  lines : List Line
  ending : Ending

namespace Report

def after (lines : List Line) (r : Report) : Report :=
  { r with lines := lines ++ r.lines }

end Report

def loadManifest (disk : Disk) (path : String) : Except SchemaError Manifest :=
  match disk.readText path with
  | .error e => .error (.file e)
  | .ok text => (Manifest.parse path text).mapError .ofLoad

def buildBlueprints (m : Manifest) : Except SchemaError (List Blueprint) :=
  m.blueprints.mapError .invalid

/-- The dialect that is asked for, else the one of the database. A name that no dialect goes by
stands for SQLite, with a warning. -/
def resolveDialect (asked : Option String) (url : String) : Dialect × List Event :=
  match asked with
  | none => (Dialect.ofUrl url, [])
  | some name =>
    match Dialect.parse name with
    | .ok d => (d, [])
    | .error e => (.sqlite, [.fallback e])

/-- Prints what each blueprint compiles to, up to the first that does not. -/
def printStatements (d : Dialect) : List Blueprint → Report
  | [] => ⟨[], .done⟩
  | b :: bs =>
    let warnings := b.warnings.map Line.event
    match b.compile d with
    | .error e => ⟨warnings, .failed (.compile e)⟩
    | .ok statements =>
      (printStatements d bs).after (warnings ++ statements.map statementLine)

def runSql (disk : Disk) (d : Dialect) (path : String) : Report :=
  match loadManifest disk path with
  | .error e => ⟨[], .failed e⟩
  | .ok m =>
    match buildBlueprints m with
    | .error e => ⟨[], .failed e⟩
    | .ok bs => printStatements d bs

variable {σ : Type} (db : Database σ)

def events (t : Trail) : List Line :=
  t.events.map .event

def appliedLines (dryRun : Bool) (b : Blueprint) (statements : List Statement) : List Line :=
  if dryRun then statements.map statementLine
  else [.event (.applied b.table statements.length)]

def reportEach (dryRun : Bool) :
    List (Blueprint × Outcome σ (Except ApplyError (List Statement))) → Report
  | [] => ⟨[], .done⟩
  | (b, o) :: rest =>
    match o.result with
    | .error e => ⟨events o.trail, .failed (.ofApply e)⟩
    | .ok statements =>
      (reportEach dryRun rest).after (events o.trail ++ appliedLines dryRun b statements)

def runApply (disk : Disk) (s : Session σ) (path : String) : Report :=
  match loadManifest disk path with
  | .error e => ⟨[], .failed e⟩
  | .ok m =>
    let opening := Line.event (.loaded m.path m.tables.length) ::
      (if s.dryRun then [.event .dryRunMode] else [])
    match buildBlueprints m with
    | .error e => ⟨opening, .failed e⟩
    | .ok bs => (reportEach s.dryRun (s.applyEach db bs).1).after opening

def runHasTable (s : Session σ) (table : String) : Report :=
  let o := s.hasTable db table
  if o.result then ⟨events o.trail ++ [.text (table ++ ": present")], .done⟩
  else ⟨events o.trail ++ [.text (table ++ ": missing")], .absent⟩

def reportOf (o : Outcome σ (Except ApplyError (List Statement))) (closing : Event) : Report :=
  match o.result with
  | .ok _ => ⟨events o.trail ++ [.event closing], .done⟩
  | .error e => ⟨events o.trail, .failed (.ofApply e)⟩

def defaultDatabase : String := "sqlite:db.sqlite3"

def databaseUrl (i : Invocation) (environment : Option String) : String :=
  (i.database.or environment).getD defaultDatabase

def dropLead (lead cs : List Char) : List Char :=
  if lead.isPrefixOf cs then cs.drop lead.length else cs

/-- The path of an SQLite database, none if it is kept in memory. A question mark ends the path. -/
def databasePath? (url : String) : Option String :=
  let rest := dropLead "sqlite:".toList (dropLead "sqlite://".toList url.toList)
  let path := String.ofList (rest.takeWhile (· ≠ '?'))
  if path = ":memory:" then none else some path

/-- The disk once a database is open. SQLite makes an empty file of a database that is not there. -/
def openDatabase (disk : Disk) (url : String) : Disk :=
  match Dialect.ofUrl url, databasePath? url with
  | .sqlite, some path => disk.create path
  | _, _ => disk

def runConnected (disk : Disk) (d : Dialect) (state : σ) : Task → Report
  | .sql manifest => runSql disk d manifest
  | .apply manifest dryRun => runApply db disk ⟨d, state, dryRun⟩ manifest
  | .hasTable table => runHasTable db ⟨d, state, false⟩ table
  | .drop table true => reportOf (Session.dropIfExists db ⟨d, state, false⟩ table) (.dropped table)
  | .drop table false => reportOf (Session.drop db ⟨d, state, false⟩ table) (.dropped table)
  | .rename old new => reportOf (Session.rename db ⟨d, state, false⟩ old new) (.renamed old new)

/-- The whole run of a task. Printing the SQL of a manifest needs no connection. -/
def run (disk : Disk) (environment : Option String) (state : σ) (i : Invocation) : Report :=
  let url := databaseUrl i environment
  let (d, opening) := resolveDialect i.dialect url
  let opening := opening.map Line.event
  match i.task with
  | .sql manifest => (runSql disk d manifest).after opening
  | task =>
    let connection := Dialect.ofUrl url
    let warning := if connection = d then [] else [Line.event (.dialectMismatch connection d)]
    (runConnected db (openDatabase disk url) d state task).after (opening ++ warning)

end SchemaPlan.Cli
