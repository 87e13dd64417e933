import SchemaPlan.Blueprint.Call
import SchemaPlan.Session.Event
import SchemaPlan.Session.Database

namespace SchemaPlan

open Sql

structure Attempt where
  sql : String
  error : Option DatabaseError
deriving DecidableEq, Repr

structure Trail where
  attempts : List Attempt := []
  queries : List String := []
  events : List Event := []
deriving DecidableEq

namespace Trail

def append (a b : Trail) : Trail :=
  ⟨a.attempts ++ b.attempts, a.queries ++ b.queries, a.events ++ b.events⟩

instance : Append Trail := ⟨append⟩

variable (a b : Trail)

@[simp] theorem attempts_append : (a ++ b).attempts = a.attempts ++ b.attempts := rfl

@[simp] theorem queries_append : (a ++ b).queries = a.queries ++ b.queries := rfl

@[simp] theorem events_append : (a ++ b).events = a.events ++ b.events := rfl

def executed (t : Trail) : List String :=
  (t.attempts.filter (·.error.isNone)).map Attempt.sql

end Trail

/-- A statement that the database refused. Those before it stay applied. -/
structure Failure where
  table : String
  op : Operation
  position : Nat
  statement : Statement
  source : DatabaseError
deriving DecidableEq

namespace Failure

def message (f : Failure) : String :=
  "Failed to " ++ f.op.label ++ " '" ++ f.table ++ "' at statement " ++
    Decimal.Numeral.ofNat f.position ++ ": " ++ f.source.message ++ "\n  " ++ f.statement.text

end Failure

inductive ApplyError where
  | compile (e : Unsupported)
  | execution (f : Failure)
deriving DecidableEq

/-- A connection, the dialect it is spoken to in, and whether statements are only shown. -/
structure Session (σ : Type) where
  dialect : Dialect
  state : σ
  dryRun : Bool := false

structure Outcome (σ α : Type) where
  result : α
  trail : Trail
  session : Session σ

namespace Blueprint

def warnings (b : Blueprint) : List Event :=
  if b.ignored = 0 then []
  else match b.mode with
    | .create => [.ignoredCommands b.table b.ignored]
    | .alter => [.ignoredDefinitions b.table b.ignored]

end Blueprint

namespace Session

variable {σ : Type} (db : Database σ) (s : Session σ)

/-- A new session. A name that no dialect goes by stands for SQLite, with a warning. -/
def openNamed (name : String) (state : σ) : Session σ × List Event :=
  match Dialect.parse name with
  | .ok d => (⟨d, state, false⟩, [])
  | .error e => (⟨.sqlite, state, false⟩, [.fallback e])

def execute (table : String) (op : Operation) (position : Nat) :
    List Statement → σ → Option Failure × Trail × σ
  | [], state => (none, {}, state)
  | st :: rest, state =>
    match db.execute st state with
    | (.ok (), state) =>
      let (failure, trail, state) := execute table op (position + 1) rest state
      (failure, { attempts := [⟨st.text, none⟩], events := [.executing st.text] } ++ trail, state)
    | (.error e, state) =>
      (some ⟨table, op, position, st, e⟩,
        { attempts := [⟨st.text, some e⟩]
          events := [.executing st.text, .failed table op position e.message] }, state)

def run (table : String) (op : Operation) (statements : List Statement) :
    Outcome σ (Except ApplyError (List Statement)) :=
  let start : Trail := { events := [.applying table op statements.length s.dryRun] }
  if s.dryRun then ⟨.ok statements, start, s⟩
  else
    let (failure, trail, state) := execute db table op 0 statements s.state
    ⟨match failure with
      | none => .ok statements
      | some f => .error (.execution f), start ++ trail, { s with state }⟩

def compile (b : Blueprint) : Outcome σ (Except ApplyError (List Statement)) :=
  ⟨(b.compile s.dialect).mapError .compile, { events := b.warnings }, s⟩

def apply (b : Blueprint) : Outcome σ (Except ApplyError (List Statement)) :=
  let compiled := s.compile b
  match compiled.result with
  | .error e => ⟨.error e, compiled.trail, s⟩
  | .ok statements =>
    let o := s.run db b.table (.ofMode b.mode) statements
    { o with trail := compiled.trail ++ o.trail }

def createSql (table : String) (calls : List Call) : List Statement :=
  (Blueprint.build table .create calls).create s.dialect

def alterSql (table : String) (calls : List Call) :
    Outcome σ (Except ApplyError (List Statement)) :=
  s.compile (.build table .alter calls)

def create (table : String) (calls : List Call) : Outcome σ (Except ApplyError (List Statement)) :=
  s.apply db (.build table .create calls)

def alter (table : String) (calls : List Call) : Outcome σ (Except ApplyError (List Statement)) :=
  s.apply db (.build table .alter calls)

def drop (table : String) : Outcome σ (Except ApplyError (List Statement)) :=
  s.run db table .drop [.dropTable table false]

def dropIfExists (table : String) : Outcome σ (Except ApplyError (List Statement)) :=
  s.run db table .drop [.dropTable table true]

def rename (old new : String) : Outcome σ (Except ApplyError (List Statement)) :=
  s.run db old .rename [.renameTable old new]

/-- Whether a table exists. If the database cannot tell, it counts as missing. -/
def hasTable (table : String) : Outcome σ Bool :=
  let query : TableCount := ⟨s.dialect, table⟩
  let trail : Trail := { queries := [query.text], events := [.executing query.text] }
  match db.count query s.state with
  | .ok n => ⟨0 < n, trail, s⟩
  | .error e => ⟨false, trail ++ { events := [.lookupFailed table e.message] }, s⟩

def applyEach : List Blueprint → Session σ →
    List (Blueprint × Outcome σ (Except ApplyError (List Statement))) × Session σ
  | [], s => ([], s)
  | b :: bs, s =>
    let o := s.apply db b
    match o.result with
    | .error _ => ([(b, o)], o.session)
    | .ok _ =>
      let (rest, s) := applyEach bs o.session
      ((b, o) :: rest, s)

end Session

end SchemaPlan
