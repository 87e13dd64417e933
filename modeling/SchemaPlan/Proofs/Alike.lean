import Mathlib.Data.List.Forall2
import SchemaPlan.Proofs.Lexer
import SchemaPlan.Proofs.Literal

namespace SchemaPlan.Sql

open Text

variable {d e f j k : Nat} {s t u v : String}

/-- Outside quotes the text reads as `o`, whatever but a mark comes after it. -/
def Reads (s : String) (o : List Char) : Prop :=
  ∀ rest, Unquoted rest → outer .outside (s.toList ++ rest) = (outer .outside rest).map (o ++ ·)

/-- The texts differ inside quotes only. Outside they lead from `d` open parentheses to `e` and
hold `k` semicolons. -/
structure Alike (d e k : Nat) (s t : String) : Prop where
  reads : ∃ o, Reads s o ∧ Reads t o ∧ nesting d o = some e ∧ o.count ';' = k

/-- Such texts as may stand behind a quoted one. -/
structure Follows (d e k : Nat) (s t : String) : Prop extends Alike d e k s t where
  left : Unquoted s.toList
  right : Unquoted t.toList

theorem Reads.append {o p : List Char} (hs : Reads s o) (hu : Unquoted u.toList)
    (hp : Reads u p) : Reads (s ++ u) (o ++ p) := by
  intro rest hr
  rw [String.toList_append, List.append_assoc, hs _ (hu.append hr), hp rest hr, Option.map_map]
  simp [Function.comp_def]

theorem Reads.lead {l : String} {o : List Char} (hl : l.toList.all (!isMark ·) = true)
    (hs : Reads s o) : Reads (l ++ s) (l.toList ++ o) := by
  intro rest hr
  rw [String.toList_append, List.append_assoc, outer_plain _ _ hl, hs rest hr, Option.map_map]
  simp [Function.comp_def]

theorem Reads.quote {mark : Char} (hm : isMark mark = true) (a : String) {o : List Char}
    (hu : Unquoted s.toList) (hs : Reads s o) : Reads (Quoted.quote mark a ++ s) (mark :: o) := by
  intro rest hr
  rw [String.toList_append, List.append_assoc, outer_quote hm a _ (hu.append hr), hs rest hr,
    Option.map_map]
  simp [Function.comp_def]

theorem Follows.nil : Follows d d 0 "" "" :=
  ⟨⟨[], fun rest _ => by simp, fun rest _ => by simp, rfl, rfl⟩, .nil, .nil⟩

theorem Alike.append (h : Alike d e j s t) (h' : Follows e f k u v) :
    Alike d f (j + k) (s ++ u) (t ++ v) := by
  obtain ⟨o, hs, ht, hn, rfl⟩ := h.reads
  obtain ⟨p, hu, hv, hn', rfl⟩ := h'.reads
  refine ⟨o ++ p, hs.append h'.left hu, ht.append h'.right hv, ?_, List.count_append⟩
  rw [nesting_append, hn, Option.bind_some, hn']

theorem Follows.append (h : Follows d e j s t) (h' : Follows e f k u v) :
    Follows d f (j + k) (s ++ u) (t ++ v) where
  toAlike := h.toAlike.append h'
  left := by
    rw [String.toList_append]
    exact h.left.append h'.left
  right := by
    rw [String.toList_append]
    exact h.right.append h'.right

/-- Words of the dialect: at least a letter, and neither marks nor semicolons. -/
def isWords (l : String) : Bool :=
  !l.toList.isEmpty && l.toList.all fun c => !isMark c && c != ';'

theorem isWords_iff {l : String} : isWords l = true ↔
    l.toList ≠ [] ∧ l.toList.all (!isMark ·) = true ∧ l.toList.count ';' = 0 := by
  have hc : (∀ c ∈ l.toList, c ≠ ';') ↔ ';' ∉ l.toList :=
    ⟨fun h hm => h ';' hm rfl, fun h c hm he => h (he ▸ hm)⟩
  simp [isWords, List.count_eq_zero, ← hc, forall_and]

theorem Alike.lead {l : String} (h : Alike e f k s t) (hl : l.toList.all (!isMark ·) = true)
    (hn : nesting d l.toList = some e) :
    Alike d f (l.toList.count ';' + k) (l ++ s) (l ++ t) := by
  obtain ⟨o, hs, ht, hn', rfl⟩ := h.reads
  refine ⟨l.toList ++ o, hs.lead hl, ht.lead hl, ?_, List.count_append⟩
  rw [nesting_append, hn, Option.bind_some, hn']

theorem Follows.lead {l : String} (h : Alike e f k s t) (hl : l.toList.all (!isMark ·) = true)
    (hn : nesting d l.toList = some e) (hne : l.toList ≠ []) :
    Follows d f (l.toList.count ';' + k) (l ++ s) (l ++ t) := by
  have hu : ∀ r : String, Unquoted (l ++ r).toList := by
    intro r c hc
    cases hs : l.toList with
    | nil => exact absurd hs hne
    | cons a l' =>
      obtain rfl : a = c := by simpa [hs] using hc
      simpa using List.all_eq_true.mp hl a (by simp [hs])
  exact ⟨h.lead hl hn, hu s, hu t⟩

theorem Alike.quote {mark : Char} (hm : isMark mark = true) (a b : String)
    (h : Follows d e k s t) :
    Alike d e k (Quoted.quote mark a ++ s) (Quoted.quote mark b ++ t) := by
  obtain ⟨o, hs, ht, hn, rfl⟩ := h.reads
  refine ⟨mark :: o, hs.quote hm a h.left, ht.quote hm b h.right, ?_, ?_⟩
  · rcases eq_of_isMark hm with rfl | rfl <;> exact hn
  · rcases eq_of_isMark hm with rfl | rfl <;> simp [nameMark, stringMark]

theorem Alike.name (a b : String) (h : Follows d e k s t) :
    Alike d e k (quoteName a ++ s) (quoteName b ++ t) :=
  .quote (by decide) a b h

theorem Alike.words (l : String) (hl : isWords l = true) (hn : nesting d l.toList = some e)
    (h : Alike e f k s t) : Alike d f k (l ++ s) (l ++ t) := by
  obtain ⟨-, hm, hc⟩ := isWords_iff.mp hl
  simpa [hc] using h.lead hm hn

theorem Follows.words (l : String) (hl : isWords l = true) (hn : nesting d l.toList = some e)
    (h : Alike e f k s t) : Follows d f k (l ++ s) (l ++ t) := by
  obtain ⟨hne, hm, hc⟩ := isWords_iff.mp hl
  simpa [hc] using Follows.lead h hm hn hne

theorem Follows.last (l : String) (hl : isWords l = true) (hn : nesting d l.toList = some e) :
    Follows d e 0 l l := by
  simpa using Follows.words l hl hn (Follows.nil (d := e)).toAlike

theorem Follows.close (h : Alike d e k s t) : Follows (d + 1) e k (")" ++ s) (")" ++ t) :=
  .words ")" rfl rfl h

theorem Follows.lastClose : Follows (d + 1) d 0 ")" ")" :=
  .last ")" rfl rfl

theorem Alike.lastQuote {mark : Char} (hm : isMark mark = true) (a b : String) :
    Alike d d 0 (Quoted.quote mark a) (Quoted.quote mark b) := by
  simpa using Alike.quote hm a b (Follows.nil (d := d))

theorem Alike.lastName (a b : String) : Alike d d 0 (quoteName a) (quoteName b) :=
  .lastQuote (by decide) a b

theorem Alike.lastString (a b : String) : Alike d d 0 (quoteString a) (quoteString b) :=
  .lastQuote (by decide) a b

theorem nesting_flat {l : List Char} (hl : ∀ c ∈ l, c ≠ '(' ∧ c ≠ ')') :
    nesting d l = some d := by
  induction l with
  | nil => rfl
  | cons c l ih =>
    obtain ⟨ho, hc⟩ := hl c (by simp)
    have hn : nest d c = some d := by simp [nest, ho, hc]
    rw [nesting, List.foldlM_cons, hn]
    exact ih fun x hx => hl x (by simp [hx])

theorem Alike.intercalate (sep : String) (hm : sep.toList.all (!isMark ·) = true)
    (hn : nesting d sep.toList = some d) (hne : sep.toList ≠ []) {ss ts : List String}
    (h : List.Forall₂ (Alike d d 0) ss ts) :
    Alike d d (sep.toList.count ';' * (ss.length - 1)) (sep.intercalate ss)
      (sep.intercalate ts) := by
  induction h with
  | nil => simpa using (Follows.nil (d := d)).toAlike
  | cons h hs ih =>
    cases hs with
    | nil => simpa using h
    | cons h' hs' =>
      have hk := h.append (Follows.lead ih hm hn hne)
      rw [String.intercalate_cons_cons, String.intercalate_cons_cons, String.append_assoc,
        String.append_assoc]
      simpa [Nat.mul_add, Nat.add_comm] using hk

theorem Alike.commas {ss ts : List String} (h : List.Forall₂ (Alike d d 0) ss ts) :
    Alike d d 0 (", ".intercalate ss) (", ".intercalate ts) := by
  simpa using Alike.intercalate ", " (by decide) rfl (by decide) h

theorem Alike.nameList {xs ys : List String} (h : xs.length = ys.length) :
    Alike d d 0 (nameList xs) (nameList ys) := by
  refine .commas (List.forall₂_iff_get.mpr ⟨by simpa using h, fun i hi hj => ?_⟩)
  simpa using Alike.lastName _ _

theorem Alike.flat {l : String}
    (hl : ∀ c ∈ l.toList, isMark c = false ∧ c ≠ '(' ∧ c ≠ ')' ∧ c ≠ ';') : Alike d d 0 l l := by
  have hn : nesting d l.toList = some d :=
    nesting_flat fun c hc => ⟨(hl c hc).2.1, (hl c hc).2.2.1⟩
  have hcount : l.toList.count ';' = 0 :=
    List.count_eq_zero.mpr fun hc => (hl ';' hc).2.2.2 rfl
  have h := (Follows.nil (d := d)).toAlike.lead (by simpa using fun c hc => (hl c hc).1) hn
  simpa [hcount] using h

theorem Alike.closed (h : Alike 0 0 k s t) : Closed k s := by
  obtain ⟨o, hs, -, hn, hk⟩ := h.reads
  exact ⟨o, by simpa [outerText, outer] using hs [] .nil, hn, hk⟩

theorem Alike.outerText_eq (h : Alike d e k s t) : outerText s = outerText t := by
  obtain ⟨o, hs, ht, -, -⟩ := h.reads
  have hs' := hs [] .nil
  have ht' := ht [] .nil
  rw [List.append_nil] at hs' ht'
  rw [outerText, outerText, hs', ht']

end SchemaPlan.Sql
