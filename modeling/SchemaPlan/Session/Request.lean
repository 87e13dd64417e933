import SchemaPlan.Session.Basic

namespace SchemaPlan

open Sql

inductive Request where
  | create (table : String) (calls : List Call)
  | alter (table : String) (calls : List Call)
  | createSql (table : String) (calls : List Call)
  | alterSql (table : String) (calls : List Call)
  | compile (b : Blueprint)
  | apply (b : Blueprint)
  | drop (table : String)
  | dropIfExists (table : String)
  | rename (old new : String)
  | hasTable (table : String)
  | dryRun (enabled : Bool)
deriving DecidableEq

inductive Reply where
  | statements (r : Except ApplyError (List Statement))
  | present (b : Bool)
  | done

namespace Session

variable {σ : Type} (db : Database σ)

def reply (f : α → Reply) (o : Outcome σ α) : Outcome σ Reply :=
  { o with result := f o.result }

def answer (s : Session σ) : Request → Outcome σ Reply
  | .create table calls => reply .statements (s.create db table calls)
  | .alter table calls => reply .statements (s.alter db table calls)
  | .createSql table calls => ⟨.statements (.ok (s.createSql table calls)), {}, s⟩
  | .alterSql table calls => reply .statements (s.alterSql table calls)
  | .compile b => reply .statements (s.compile b)
  | .apply b => reply .statements (s.apply db b)
  | .drop table => reply .statements (s.drop db table)
  | .dropIfExists table => reply .statements (s.dropIfExists db table)
  | .rename old new => reply .statements (s.rename db old new)
  | .hasTable table => reply .present (s.hasTable db table)
  | .dryRun enabled => ⟨.done, {}, { s with dryRun := enabled }⟩

def answerAll : List Request → Session σ → List (Outcome σ Reply)
  | [], _ => []
  | r :: rs, s =>
    let o := s.answer db r
    o :: answerAll rs o.session

end Session

end SchemaPlan
