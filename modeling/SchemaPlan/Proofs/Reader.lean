import Mathlib.Data.List.Basic
import SchemaPlan.Sql.ColumnClause

namespace SchemaPlan.Sql

open Text

abbrev Reader := StateT (List Char) Option

namespace Reader

variable {α β : Type}

def flag (w : String) : Reader Bool := fun cs =>
  if w.toList <+: cs then some (true, cs.drop w.toList.length) else some (false, cs)

def skip (w : String) : Reader Unit := do
  if ← flag w then pure () else failure

def behind (w : String) (p : Reader α) : Reader (Option α) := do
  if ← flag w then
    let a ← p
    return some a
  return none

def run (p : Char → Bool) : Reader String := fun cs =>
  some (String.ofList (cs.takeWhile p), cs.dropWhile p)

def quoted (mark : Char) : Reader String := fun cs =>
  (Quoted.unquote mark cs).map fun (s, rest) => (String.ofList s, rest)

/-- At least one and at most `n` items with commas between them. -/
def items (p : Reader α) : Nat → Reader (List α)
  | 0 => failure
  | n + 1 => do
    let a ← p
    if ← flag ", " then
      let as ← items p n
      return a :: as
    return [a]

def closedItems (p : Reader α) (n : Nat) : Reader (List α) := do
  let as ← items p n
  skip ")"
  return as

/-- All items up to a closing parenthesis, which is skipped. The text is longer than their list. -/
def enclosed (p : Reader α) : Reader (List α) := do
  if ← flag ")" then
    return []
  else
    closedItems p (← get).length

end Reader

def Begins (ws : List String) (cs : List Char) : Prop :=
  ∃ w ∈ ws, w.toList <+: cs

/-- Neither of the two begins the other, so that no text begins with both. -/
def clash (v w : String) : Bool :=
  !v.toList.isPrefixOf w.toList && !w.toList.isPrefixOf v.toList

def stops (p : Char → Bool) (w : String) : Bool :=
  w.toList.head?.any (!p ·)

/-- Where one of `ws` follows, the reader takes `a` for the text `s`, and the text begins with one
of `vs`. -/
structure Recovers {α : Type} (vs ws : List String) (p : Reader α) (s : String) (a : α) :
    Prop where
  begins : ∀ rest, Begins ws rest → Begins vs (s.toList ++ rest)
  reads : ∀ rest, Begins ws rest → p (s.toList ++ rest) = some (a, rest)

section Begins

variable {ws : List String} {cs : List Char}

theorem Begins.mono {vs : List String} (h : Begins ws cs) (hw : ws ⊆ vs) : Begins vs cs := by
  obtain ⟨w, hm, hp⟩ := h
  exact ⟨w, hw hm, hp⟩

theorem Begins.not_prefix (h : Begins ws cs) {v : String} (hv : ws.all (clash v) = true) :
    ¬v.toList <+: cs := by
  obtain ⟨w, hw, hp⟩ := h
  have hc := List.all_eq_true.mp hv w hw
  simp only [clash, Bool.and_eq_true, Bool.not_eq_true', ← Bool.not_eq_true,
    List.isPrefixOf_iff_prefix] at hc
  intro hvp
  rcases List.prefix_or_prefix_of_prefix hvp hp with h | h
  · exact hc.1 h
  · exact hc.2 h

theorem Begins.head {p : Char → Bool} (h : Begins ws cs) (hp : ws.all (stops p) = true) :
    ∃ c rest, cs = c :: rest ∧ p c = false := by
  obtain ⟨w, hw, t, rfl⟩ := h
  have hs := List.all_eq_true.mp hp w hw
  unfold stops at hs
  cases hl : w.toList with
  | nil => simp [hl] at hs
  | cons c l =>
    rw [hl] at hs
    exact ⟨c, l ++ t, rfl, by simpa using hs⟩

variable {rest : String} (w : String)

theorem Begins.lead (h : w ∈ ws) : Begins ws (w ++ rest).toList :=
  ⟨w, h, by rw [String.toList_append]; exact List.prefix_append _ _⟩

theorem Begins.onlyIf (b : Bool) (h : Begins ws rest.toList) :
    Begins (w :: ws) (onlyIf b w ++ rest).toList := by
  cases b with
  | false =>
    have hrest : Sql.onlyIf false w ++ rest = rest := String.empty_append
    rw [hrest]
    exact h.mono (List.subset_cons_self w ws)
  | true => exact Begins.lead w List.mem_cons_self

theorem Begins.led (o : Option String) (h : Begins ws rest.toList) :
    Begins (w :: ws) (led w o ++ rest).toList := by
  cases o with
  | none =>
    have hrest : Sql.led w none ++ rest = rest := String.empty_append
    rw [hrest]
    exact h.mono (List.subset_cons_self w ws)
  | some s =>
    have hrest : Sql.led w (some s) ++ rest = w ++ (s ++ rest) := String.append_assoc
    rw [hrest]
    exact Begins.lead w List.mem_cons_self

end Begins

namespace Recovers

open Reader

variable {α β : Type} {us vs ws : List String} {p : Reader α} {s t : String} {a : α} {b : β}

theorem pure (a : α) : Recovers ws ws (Pure.pure a) "" a where
  begins _ h := h
  reads _ _ := rfl

theorem bind {f : α → Reader β} (hp : Recovers us vs p s a) (hf : Recovers vs ws (f a) t b) :
    Recovers us ws (p >>= f) (s ++ t) b where
  begins rest h := by
    rw [String.toList_append, List.append_assoc]
    exact hp.begins _ (hf.begins rest h)
  reads rest h := by
    have hs := hp.reads _ (hf.begins rest h)
    rw [String.toList_append, List.append_assoc]
    change (p _).bind _ = _
    rw [hs]
    exact hf.reads rest h

theorem map (h : Recovers vs ws p s a) (f : α → β) :
    Recovers vs ws (do let x ← p; return f x) s (f a) := by
  simpa using h.bind (f := fun x => Pure.pure (f x)) (.pure (f a))

theorem mono (h : Recovers vs ws p s a) (hu : us ⊆ ws) : Recovers vs us p s a where
  begins rest hr := h.begins rest (hr.mono hu)
  reads rest hr := h.reads rest (hr.mono hu)

theorem widen (h : Recovers vs ws p s a) (hv : vs ⊆ us) : Recovers us ws p s a where
  begins rest hr := (h.begins rest hr).mono hv
  reads := h.reads

theorem skipped (w : String) : Recovers [w] ws (flag w) w true where
  begins rest _ := ⟨w, by simp, List.prefix_append _ _⟩
  reads rest _ := by simp [flag]

theorem missed {w : String} (hw : ws.all (clash w) = true) : Recovers ws ws (flag w) "" false where
  begins _ h := h
  reads rest h := by simp [flag, h.not_prefix hw]

theorem taken {q : Reader α} (w : String) (h : Recovers vs ws p s a) :
    Recovers [w] ws (do if ← flag w then p else q) (w ++ s) a :=
  (skipped w).bind h

theorem passed {q : Reader α} {w : String} (h : Recovers vs ws q s a)
    (hw : vs.all (clash w) = true) :
    Recovers vs ws (do if ← flag w then p else q) s a := by
  simpa using (missed hw).bind (f := fun b => if b = true then p else q) h

theorem skip (w : String) : Recovers [w] ws (skip w) w () := by
  have h : Recovers [w] ws (Reader.skip w) (w ++ "") () := taken w (.pure ())
  rwa [String.append_empty] at h

theorem flag (w : String) (b : Bool) (hw : ws.all (clash w) = true) :
    Recovers (w :: ws) ws (flag w) (onlyIf b w) b := by
  cases b with
  | false => exact (missed hw).widen (by simp)
  | true => exact (skipped w).widen (by simp)

theorem behind {text : α → String} (w : String) (o : Option α)
    (h : ∀ a ∈ o, Recovers vs ws p (text a) a) (hw : ws.all (clash w) = true) :
    Recovers (w :: ws) ws (behind w p) (led w (o.map text)) o := by
  cases o with
  | none => exact ((Recovers.pure none).passed hw).widen (by simp)
  | some a => exact (((h a rfl).map some).taken w).widen (by simp)

theorem run {p : Char → Bool} (s : String) (hs : ∀ c ∈ s.toList, p c = true)
    (hw : ws.all (stops p) = true) : Recovers [""] ws (run p) s s where
  begins rest _ := ⟨"", by simp, by simp⟩
  reads rest h := by
    obtain ⟨c, rest, rfl, hc⟩ := h.head hw
    simp [Reader.run, List.takeWhile_append_of_pos hs, List.dropWhile_append_of_pos hs, hc]

theorem quoted (mark : Char) (s : String) (hw : ws.all (stops (· == mark)) = true) :
    Recovers [mark.toString] ws (quoted mark) (Quoted.quote mark s) s where
  begins rest _ := ⟨mark.toString, by simp, by simp [Quoted.toList_quote]⟩
  reads rest h := by
    obtain ⟨c, rest, rfl, hc⟩ := h.head hw
    simp [Reader.quoted, Quoted.unquote_quote s (c :: rest) (by simpa using hc)]

theorem items {text : α → String} {as : List α} {n : Nat}
    (h : ∀ a ∈ as, Recovers vs [", ", ")"] p (text a) a) (hne : as ≠ []) (hn : as.length ≤ n) :
    Recovers vs [")"] (items p n) (", ".intercalate (as.map text)) as := by
  induction as generalizing n with
  | nil => exact absurd rfl hne
  | cons a as ih =>
    have ha := h a (by simp)
    cases n with
    | zero => simp at hn
    | succ n =>
      cases as with
      | nil =>
        have hlast : Recovers [")"] [")"] (do
            if ← Reader.flag ", " then
              let as ← Reader.items p n
              return a :: as
            return [a]) "" [a] := .passed (.pure [a]) (by decide)
        rw [List.map_singleton, String.intercalate_singleton, ← String.append_empty (s := text a)]
        exact (ha.mono (by simp)).bind hlast
      | cons b as =>
        have hrest := ih (fun c hc => h c (by simp [hc])) (by simp) (by simpa using hn)
        have hmore := (hrest.map (a :: ·)).taken (q := Pure.pure [a]) ", "
        rw [List.map_cons, List.map_cons, String.intercalate_cons_cons, String.append_assoc]
        exact (ha.mono (by simp)).bind hmore

theorem length_le_intercalate (ss : List String) :
    ss.length ≤ (", ".intercalate ss).toList.length + 1 := by
  induction ss with
  | nil => simp
  | cons s ss ih =>
    cases ss with
    | nil => simp
    | cons t ss =>
      have hsep : ", ".toList.length = 2 := rfl
      rw [String.intercalate_cons_cons, String.toList_append, String.toList_append,
        List.length_append, List.length_append, hsep, List.length_cons]
      omega

theorem closedItems {text : α → String} {as : List α} {n : Nat}
    (h : ∀ a ∈ as, Recovers vs [", ", ")"] p (text a) a) (hne : as ≠ []) (hn : as.length ≤ n) :
    Recovers vs ws (closedItems p n) (", ".intercalate (as.map text) ++ ")") as :=
  (items h hne hn).bind ((skip ")").map fun _ => as)

theorem enclosed {text : α → String} {as : List α}
    (h : ∀ a ∈ as, Recovers vs [", ", ")"] p (text a) a) (hv : vs.all (clash ")") = true) :
    Recovers (")" :: vs) ws (enclosed p) (", ".intercalate (as.map text) ++ ")") as := by
  by_cases hne : as = []
  · subst hne
    have hnil : Recovers [")"] ws (Reader.enclosed p) (")" ++ "") [] := taken ")" (.pure [])
    exact hnil.widen (by simp)
  · have hlen : ∀ rest, as.length ≤
        ((", ".intercalate (as.map text) ++ ")").toList ++ rest).length := by
      intro rest
      have hlist := length_le_intercalate (as.map text)
      have hclose : ")".toList.length = 1 := rfl
      rw [List.length_map] at hlist
      rw [List.length_append, String.toList_append, List.length_append, hclose]
      omega
    have hget : Recovers vs ws (do Reader.closedItems p (← get).length)
        (", ".intercalate (as.map text) ++ ")") as :=
      ⟨(closedItems h hne (Nat.le_refl _)).begins,
        fun rest => (closedItems h hne (hlen rest)).reads rest⟩
    exact (hget.passed hv).widen (by simp)

end Recovers

end SchemaPlan.Sql
