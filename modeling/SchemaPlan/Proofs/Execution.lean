import SchemaPlan.Session.Basic

namespace SchemaPlan

open Sql

variable {σ : Type}

namespace Database

variable (db : Database σ)

def refusal? (st : Statement) (state : σ) : Option DatabaseError :=
  match (db.execute st state).1 with
  | .ok () => none
  | .error e => some e

/-- The state after statements were passed one by one, whatever came of each. -/
def after (ss : List Statement) (state : σ) : σ :=
  ss.foldl (fun state st => (db.execute st state).2) state

def attempts : List Statement → σ → List Attempt
  | [], _ => []
  | st :: ss, state => ⟨st.text, db.refusal? st state⟩ :: attempts ss (db.after [st] state)

def Accepts (ss : List Statement) (state : σ) : Prop :=
  ∀ a ∈ db.attempts ss state, a.error = none

variable (st : Statement) (ss ts : List Statement) (state : σ)

theorem after_cons : db.after (st :: ss) state = db.after ss (db.after [st] state) := rfl

theorem after_append : db.after (ss ++ ts) state = db.after ts (db.after ss state) :=
  List.foldl_append

theorem attempts_append :
    db.attempts (ss ++ ts) state = db.attempts ss state ++ db.attempts ts (db.after ss state) := by
  induction ss generalizing state with
  | nil => rfl
  | cons st ss ih =>
    rw [List.cons_append, attempts, ih, attempts, List.cons_append, ← after_cons]

theorem accepts_nil : db.Accepts [] state := by
  simp [Accepts, attempts]

theorem accepts_cons :
    db.Accepts (st :: ss) state ↔
      db.refusal? st state = none ∧ db.Accepts ss (db.after [st] state) := by
  simp [Accepts, attempts]

theorem accepts_append :
    db.Accepts (ss ++ ts) state ↔ db.Accepts ss state ∧ db.Accepts ts (db.after ss state) := by
  simp [Accepts, attempts_append, or_imp, forall_and]

theorem accepts_or_refuses :
    db.Accepts ss state ∨ ∃ pre st post e, ss = pre ++ st :: post ∧ db.Accepts pre state ∧
      db.refusal? st (db.after pre state) = some e := by
  induction ss generalizing state with
  | nil => exact .inl (db.accepts_nil state)
  | cons st ss ih =>
    cases hst : db.refusal? st state with
    | some e => exact .inr ⟨[], st, ss, e, rfl, db.accepts_nil state, hst⟩
    | none =>
      rcases ih (db.after [st] state) with h | ⟨pre, st', post, e, rfl, hpre, he⟩
      · exact .inl ((db.accepts_cons st ss state).mpr ⟨hst, h⟩)
      · have hpre := (db.accepts_cons st pre state).mpr ⟨hst, hpre⟩
        exact .inr ⟨st :: pre, st', post, e, rfl, hpre, he⟩

variable {db st ss state}

theorem executed_of_accepts {t : Trail} (h : db.Accepts ss state)
    (ht : t.attempts = db.attempts ss state) : t.executed = ss.map Statement.text := by
  rw [Trail.executed, ht, List.filter_eq_self.mpr fun a ha => by simp [h a ha]]
  clear h ht
  induction ss generalizing state with
  | nil => rfl
  | cons st ss ih => rw [attempts, List.map_cons, ih, List.map_cons]

theorem executed_of_refused {t : Trail} {e : DatabaseError} (h : db.Accepts ss state)
    (he : db.refusal? st (db.after ss state) = some e)
    (ht : t.attempts = db.attempts (ss ++ [st]) state) : t.executed = ss.map Statement.text := by
  have hst : (db.attempts [st] (db.after ss state)).filter (·.error.isNone) = [] := by
    simp [attempts, he]
  rw [← executed_of_accepts (t := { attempts := db.attempts ss state }) h rfl, Trail.executed, ht,
    attempts_append, List.filter_append, hst, List.append_nil]
  rfl

theorem execute_of_refusal_eq_none (h : db.refusal? st state = none) :
    db.execute st state = (.ok (), db.after [st] state) := by
  unfold refusal? at h
  split at h
  · rename_i hok
    exact Prod.ext hok rfl
  · cases h

theorem execute_of_refusal_eq_some {e : DatabaseError} (h : db.refusal? st state = some e) :
    db.execute st state = (.error e, db.after [st] state) := by
  unfold refusal? at h
  split at h
  · cases h
  · rename_i he
    obtain rfl := Option.some.inj h
    exact Prod.ext he rfl

end Database

namespace Trail

theorem append_assoc (a b c : Trail) : a ++ b ++ c = a ++ (b ++ c) := by
  change append (append a b) c = append a (append b c)
  simp [append, List.append_assoc]

theorem append_nil (a : Trail) : a ++ ({} : Trail) = a := by
  change append a {} = a
  simp [append]

end Trail

def Database.trail (db : Database σ) (ss : List Statement) (state : σ) : Trail where
  attempts := db.attempts ss state
  events := ss.map fun st => .executing st.text

theorem Database.trail_cons (db : Database σ) (st : Statement) (ss : List Statement) (state : σ) :
    db.trail (st :: ss) state =
      { attempts := [⟨st.text, db.refusal? st state⟩], events := [.executing st.text] } ++
        db.trail ss (db.after [st] state) := rfl

theorem Database.trail_append (db : Database σ) (ss ts : List Statement) (state : σ) :
    db.trail (ss ++ ts) state = db.trail ss state ++ db.trail ts (db.after ss state) := by
  change _ = Trail.append _ _
  simp [Database.trail, Trail.append, Database.attempts_append]

namespace Session

variable {db : Database σ} {table : String} {op : Operation} {state : σ}

theorem execute_append {pre ss : List Statement} {n : Nat} {failure : Option Failure}
    {trail : Trail} {state' : σ} (hpre : db.Accepts pre state)
    (hss : execute db table op (n + pre.length) ss (db.after pre state) =
      (failure, trail, state')) :
    execute db table op n (pre ++ ss) state = (failure, db.trail pre state ++ trail, state') := by
  -- The position moves on with the statements that succeed, and so does the state.
  induction pre generalizing n state with
  | nil => exact hss
  | cons st pre ih =>
    obtain ⟨hst, hrest⟩ := (db.accepts_cons st pre state).mp hpre
    have hn : n + (st :: pre).length = n + 1 + pre.length := by
      rw [List.length_cons]
      omega
    rw [hn, db.after_cons] at hss
    have ht := ih hrest hss
    rw [List.cons_append, execute, Database.execute_of_refusal_eq_none hst]
    dsimp only
    rw [ht, Database.trail_cons, hst, Trail.append_assoc]

theorem execute_of_accepts {ss : List Statement} (h : db.Accepts ss state) (n : Nat) :
    execute db table op n ss state = (none, db.trail ss state, db.after ss state) := by
  have hs : execute db table op n (ss ++ []) state = (none, db.trail ss state ++ {}, _) :=
    execute_append h rfl
  rwa [List.append_nil, Trail.append_nil] at hs

theorem execute_of_refused {pre : List Statement} {st : Statement} {e : DatabaseError}
    (hpre : db.Accepts pre state) (he : db.refusal? st (db.after pre state) = some e) (n : Nat)
    (post : List Statement) :
    execute db table op n (pre ++ st :: post) state =
      (some ⟨table, op, n + pre.length, st, e⟩,
        db.trail (pre ++ [st]) state ++
          { events := [.failed table op (n + pre.length) e.message] },
        db.after (pre ++ [st]) state) := by
  have hst : execute db table op (n + pre.length) (st :: post) (db.after pre state) =
      (some ⟨table, op, n + pre.length, st, e⟩,
        db.trail [st] (db.after pre state) ++
          { events := [.failed table op (n + pre.length) e.message] },
        db.after [st] (db.after pre state)) := by
    rw [execute, Database.execute_of_refusal_eq_some he, Database.trail_cons, he]
    rfl
  rw [execute_append hpre hst, Database.trail_append, db.after_append, Trail.append_assoc]

/-- What becomes of an operation whose statements are planned so. Nothing is passed to the database
without a plan or in a dry run. Otherwise the statements are passed in the order of the plan, up to
the first that is refused. -/
inductive Ran (db : Database σ) (s : Session σ) (table : String) (op : Operation)
    (planned : Except Unsupported (List Statement))
    (o : Outcome σ (Except ApplyError (List Statement))) : Prop
  | unsupported {e : Unsupported} (plan : planned = .error e)
      (result : o.result = .error (.compile e)) (attempts : o.trail.attempts = [])
      (session : o.session = s)
  | shown {ss : List Statement} (plan : planned = .ok ss) (dry : s.dryRun = true)
      (result : o.result = .ok ss) (attempts : o.trail.attempts = []) (session : o.session = s)
  | completed {ss : List Statement} (plan : planned = .ok ss) (live : s.dryRun = false)
      (accepted : db.Accepts ss s.state) (result : o.result = .ok ss)
      (attempts : o.trail.attempts = db.attempts ss s.state)
      (executed : o.trail.executed = ss.map Statement.text)
      (session : o.session = { s with state := db.after ss s.state })
  | stopped {pre post : List Statement} {st : Statement} {e : DatabaseError}
      (plan : planned = .ok (pre ++ st :: post)) (live : s.dryRun = false)
      (accepted : db.Accepts pre s.state)
      (refused : db.refusal? st (db.after pre s.state) = some e)
      (result : o.result = .error (.execution ⟨table, op, pre.length, st, e⟩))
      (attempts : o.trail.attempts = db.attempts (pre ++ [st]) s.state)
      (executed : o.trail.executed = pre.map Statement.text)
      (session : o.session = { s with state := db.after (pre ++ [st]) s.state })

section Run

variable {s : Session σ}

theorem run_of_dryRun (dry : s.dryRun = true) (ss : List Statement) :
    s.run db table op ss = ⟨.ok ss, { events := [.applying table op ss.length true] }, s⟩ := by
  simp [run, dry]

theorem run_of_accepts (live : s.dryRun = false) {ss : List Statement}
    (h : db.Accepts ss s.state) :
    s.run db table op ss =
      ⟨.ok ss, { events := [.applying table op ss.length false] } ++ db.trail ss s.state,
        { s with state := db.after ss s.state }⟩ := by
  simp [run, live, execute_of_accepts h]

theorem run_of_refused (live : s.dryRun = false) {pre : List Statement} {st : Statement}
    {e : DatabaseError} (hpre : db.Accepts pre s.state)
    (he : db.refusal? st (db.after pre s.state) = some e) (post : List Statement) :
    s.run db table op (pre ++ st :: post) =
      ⟨.error (.execution ⟨table, op, pre.length, st, e⟩),
        { events := [.applying table op (pre ++ st :: post).length false] } ++
          (db.trail (pre ++ [st]) s.state ++ { events := [.failed table op pre.length e.message] }),
        { s with state := db.after (pre ++ [st]) s.state }⟩ := by
  simp [run, live, execute_of_refused hpre he]

end Run

variable (db) (s : Session σ)

theorem ran_run (table : String) (op : Operation) (ss : List Statement) :
    Ran db s table op (.ok ss) (s.run db table op ss) := by
  cases hd : s.dryRun with
  | true =>
    rw [run_of_dryRun hd]
    exact .shown rfl hd rfl rfl rfl
  | false =>
    rcases db.accepts_or_refuses ss s.state with h | ⟨pre, st, post, e, rfl, hpre, he⟩
    · rw [run_of_accepts hd h]
      exact .completed rfl hd h rfl rfl (Database.executed_of_accepts h rfl) rfl
    · rw [run_of_refused hd hpre he]
      have ha : db.attempts (pre ++ [st]) s.state ++ [] = db.attempts (pre ++ [st]) s.state :=
        List.append_nil _
      exact .stopped rfl hd hpre he rfl ha (Database.executed_of_refused hpre he ha) rfl

theorem ran_apply (b : Blueprint) :
    Ran db s b.table (.ofMode b.mode) (b.compile s.dialect) (s.apply db b) := by
  unfold apply compile
  cases hc : b.compile s.dialect with
  | error e => exact .unsupported rfl rfl rfl rfl
  | ok ss =>
    -- the warnings that compiling adds stand in the log only
    cases s.ran_run db b.table (.ofMode b.mode) ss with
    | unsupported plan result attempts session => cases plan
    | shown plan dry result attempts session => exact .shown plan dry result attempts session
    | completed plan live accepted result attempts executed session =>
      exact .completed plan live accepted result attempts executed session
    | stopped plan live accepted refused result attempts executed session =>
      exact .stopped plan live accepted refused result attempts executed session

end Session

end SchemaPlan
