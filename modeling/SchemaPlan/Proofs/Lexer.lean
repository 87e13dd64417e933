import Mathlib.Data.List.Basic
import SchemaPlan.Sql.Quote

namespace SchemaPlan.Sql

open Text

def isMark (c : Char) : Bool :=
  c == nameMark || c == stringMark

/-- Where a reader stands that knows quotes and nothing else. After a mark inside quotes it waits:
the same mark again belongs to the quoted text, anything else is outside. -/
inductive Place where
  | outside
  | inside (mark : Char)
  | waiting (mark : Char)
deriving DecidableEq, Repr

namespace Place

def enter (c : Char) : Place :=
  if isMark c then .inside c else .outside

def next : Place → Char → Place
  | .outside, c => enter c
  | .inside mark, c => if c = mark then .waiting mark else .inside mark
  | .waiting mark, c => if c = mark then .inside mark else enter c

/-- Whether a character read here is outside quotes or opens them. -/
def shows : Place → Char → Bool
  | .outside, _ => true
  | .inside _, _ => false
  | .waiting mark, c => c ≠ mark

end Place

/-- The text outside quotes, where a quoted text leaves only the mark that opens it; none if a
quote is left open. -/
def outer : Place → List Char → Option (List Char)
  | .inside _, [] => none
  | _, [] => some []
  | p, c :: cs => (outer (p.next c) cs).map fun o => if p.shows c then c :: o else o

def outerText (s : String) : Option (List Char) :=
  outer .outside s.toList

def nest (d : Nat) (c : Char) : Option Nat :=
  if c = '(' then some (d + 1)
  else if c = ')' then if d = 0 then none else some (d - 1)
  else some d

/-- How many parentheses are open after a text that begins within `d` of them; none if it closes
one that is not open. -/
def nesting (d : Nat) (o : List Char) : Option Nat :=
  o.foldlM nest d

/-- Outside quotes, the text is balanced and holds `k` semicolons; and it ends there. -/
def Closed (k : Nat) (s : String) : Prop :=
  ∃ o, outerText s = some o ∧ nesting 0 o = some 0 ∧ o.count ';' = k

/-- The text does not begin with a mark, so that it may stand behind a quoted one. -/
def Unquoted (cs : List Char) : Prop :=
  ∀ c ∈ cs.head?, isMark c = false

theorem Unquoted.nil : Unquoted [] := by
  intro c hc
  cases hc

theorem Unquoted.append {s t : List Char} (hs : Unquoted s) (ht : Unquoted t) :
    Unquoted (s ++ t) := by
  cases s with
  | nil => exact ht
  | cons c s => exact hs

theorem nesting_append (d : Nat) (o p : List Char) :
    nesting d (o ++ p) = (nesting d o).bind (nesting · p) :=
  List.foldlM_append

theorem eq_of_isMark {c : Char} (h : isMark c = true) : c = nameMark ∨ c = stringMark := by
  simpa [isMark] using h

theorem outer_plain (l rest : List Char) (hl : l.all (!isMark ·) = true) :
    outer .outside (l ++ rest) = (outer .outside rest).map (l ++ ·) := by
  induction l with
  | nil => simp
  | cons c l ih =>
    simp only [List.all_cons, Bool.and_eq_true, Bool.not_eq_true'] at hl
    have hp : Place.next .outside c = .outside := by simp [Place.next, Place.enter, hl.1]
    rw [List.cons_append, outer, hp, ih hl.2, Option.map_map]
    rfl

theorem outer_waiting {mark : Char} (hm : isMark mark = true) (rest : List Char)
    (hr : Unquoted rest) : outer (.waiting mark) rest = outer .outside rest := by
  cases rest with
  | nil => rfl
  | cons c rest =>
    have hc : c ≠ mark := by
      rintro rfl
      simp [hr c rfl] at hm
    simp [outer, Place.next, Place.shows, hc]

/-- Whatever the text between the marks, the doubled marks keep the reader inside. -/
theorem outer_inside (mark : Char) (s rest : List Char) :
    outer (.inside mark) (Quoted.encode mark s ++ mark :: rest) = outer (.waiting mark) rest := by
  induction s with
  | nil => simp [outer, Place.next, Place.shows]
  | cons c s ih =>
    by_cases hc : c = mark
    · subst hc
      simp [Quoted.encode, outer, Place.next, Place.shows, ih]
    · simp [Quoted.encode, outer, Place.next, Place.shows, hc, ih]

theorem outer_quote {mark : Char} (hm : isMark mark = true) (s : String) (rest : List Char)
    (hr : Unquoted rest) :
    outer .outside ((Quoted.quote mark s).toList ++ rest) =
      (outer .outside rest).map (mark :: ·) := by
  have hp : Place.next .outside mark = .inside mark := by simp [Place.next, Place.enter, hm]
  rw [Quoted.toList_quote, List.cons_append, List.append_assoc, List.singleton_append, outer, hp,
    outer_inside, outer_waiting hm rest hr]
  rfl

end SchemaPlan.Sql
