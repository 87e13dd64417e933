import Mathlib.Data.List.Basic
import SchemaPlan.Column.Modifier

namespace SchemaPlan

section Last

variable {α β μ : Type}

def lastOf (f : μ → Option β) (ms : List μ) : Option β :=
  (ms.filterMap f).getLast?

theorem lastOf_cons (f : μ → Option β) (m : μ) (ms : List μ) :
    lastOf f (m :: ms) = (lastOf f ms).or (f m) := by
  unfold lastOf
  cases hm : f m with
  | none => rw [List.filterMap_cons_none hm, Option.or_none]
  | some b =>
    rw [List.filterMap_cons_some hm, List.getLast?_cons]
    cases (ms.filterMap f).getLast? <;> rfl

variable {step : α → μ → α}

theorem foldl_kept {field : α → β} (h : ∀ a m, field (step a m) = field a) (ms : List μ) (a : α) :
    field (ms.foldl step a) = field a := by
  induction ms generalizing a with
  | nil => rfl
  | cons m ms ih => rw [List.foldl_cons, ih, h]

theorem foldl_last {field : α → Option β} {write : μ → Option β}
    (h : ∀ a m, field (step a m) = (write m).or (field a)) (ms : List μ) (a : α) :
    field (ms.foldl step a) = (lastOf write ms).or (field a) := by
  induction ms generalizing a with
  | nil => rfl
  | cons m ms ih => rw [List.foldl_cons, ih, h, lastOf_cons, Option.or_assoc]

theorem foldl_flag [DecidableEq μ] {flag : α → Bool} {setter : μ}
    (h : ∀ a m, flag (step a m) = (flag a || decide (m = setter))) (ms : List μ) (a : α) :
    flag (ms.foldl step a) = (flag a || decide (setter ∈ ms)) := by
  induction ms generalizing a with
  | nil => simp
  | cons m ms ih =>
    rw [List.foldl_cons, ih, h, Bool.or_assoc, ← Bool.decide_or]
    simp only [List.mem_cons, eq_comm]

end Last

inductive Aspect where
  | flag
  | default
  | comment
  | reference
  | onDelete
  | onUpdate
deriving DecidableEq, Repr

namespace Aspect

/-- Whether the order counts in which a column is refined in these respects. -/
def clashes : Aspect → Aspect → Bool
  | .default, .default | .comment, .comment | .onDelete, .onDelete | .onUpdate, .onUpdate => true
  | .reference, .reference | .reference, .onDelete | .reference, .onUpdate => true
  | .onDelete, .reference | .onUpdate, .reference => true
  | _, _ => false

theorem clashes_comm (a b : Aspect) : a.clashes b = b.clashes a := by
  cases a <;> cases b <;> rfl

end Aspect

def Reference.withActions (r : Reference) (onDelete onUpdate : Option ReferentialAction) :
    Reference :=
  { r with onDelete := onDelete.or r.onDelete, onUpdate := onUpdate.or r.onUpdate }

namespace Reference

variable (r : Reference)

theorem withActions_none : r.withActions none none = r := rfl

theorem withActions_withActions (a b a' b' : Option ReferentialAction) :
    (r.withActions a b).withActions a' b' = r.withActions (a'.or a) (b'.or b) := by
  simp only [withActions, Option.or_assoc]

end Reference

namespace Modifier

def aspect : Modifier → Aspect
  | .default _ | .defaultExpr _ | .useCurrent => .default
  | .comment _ => .comment
  | .references .. => .reference
  | .onDelete _ => .onDelete
  | .onUpdate _ => .onUpdate
  | .nullable | .unique | .index | .primary | .autoIncrement | .unsigned => .flag

def default? : Modifier → Option DefaultValue
  | .default value => some value
  | .defaultExpr sql => some (.expression sql)
  | .useCurrent => some .currentTimestamp
  | _ => none

def comment? : Modifier → Option String
  | .comment text => some text
  | _ => none

def onDelete? : Modifier → Option ReferentialAction
  | .onDelete action => some action
  | _ => none

def onUpdate? : Modifier → Option ReferentialAction
  | .onUpdate action => some action
  | _ => none

def refer (r : Option Reference) : Modifier → Option Reference
  | .references table column => some ⟨table, column, none, none⟩
  | .onDelete action => r.map ({ · with onDelete := some action })
  | .onUpdate action => r.map ({ · with onUpdate := some action })
  | _ => r

variable (c : Column) (m n : Modifier)

theorem apply_eq :
    m.apply c =
      { name := c.name
        type := c.type
        nullable := c.nullable || decide (m = .nullable)
        default := m.default?.or c.default
        autoIncrement := c.autoIncrement || decide (m = .autoIncrement)
        primary := c.primary || decide (m = .primary)
        unique := c.unique || decide (m = .unique)
        index := c.index || decide (m = .index)
        unsigned := c.unsigned || decide (m = .unsigned)
        comment := m.comment?.or c.comment
        references := m.refer c.references } := by
  cases m <;> simp [apply, default?, comment?, refer]

/-- What a modifier is not about it leaves open. -/
theorem eq_none_of_aspect_ne :
    (m.aspect ≠ .default → m.default? = none) ∧ (m.aspect ≠ .comment → m.comment? = none) ∧
      (m.aspect ≠ .onDelete → m.onDelete? = none) ∧
      (m.aspect ≠ .onUpdate → m.onUpdate? = none) := by
  cases m <;> simp [aspect, default?, comment?, onDelete?, onUpdate?]

theorem refer_of_aspect_ne (h : m.aspect ≠ .reference) (r : Option Reference) :
    m.refer r = r.map (·.withActions m.onDelete? m.onUpdate?) := by
  cases m with
  | references table column => exact absurd rfl h
  | _ => cases r <;> rfl

theorem refer_of_not_clashes (h : m.aspect.clashes .reference = false) (r : Option Reference) :
    m.refer r = r := by
  cases m with
  | references | onDelete | onUpdate => cases h
  | _ => rfl

variable {m n}

theorem or_left_comm_of_not_clashes {β : Type} {f : Modifier → Option β} {a : Aspect}
    (hf : ∀ m : Modifier, m.aspect ≠ a → f m = none) (ha : a.clashes a = true)
    (h : m.aspect.clashes n.aspect = false) (o : Option β) :
    (f n).or ((f m).or o) = (f m).or ((f n).or o) := by
  by_cases hm : m.aspect = a
  · have hn : n.aspect ≠ a := by
      rintro hn
      rw [hm, hn, ha] at h
      cases h
    rw [hf n hn]
    rfl
  · rw [hf m hm]
    rfl

theorem refer_comm (h : m.aspect.clashes n.aspect = false) (r : Option Reference) :
    n.refer (m.refer r) = m.refer (n.refer r) := by
  by_cases hm : m.aspect = .reference
  · have hn : n.aspect.clashes .reference = false := by rwa [Aspect.clashes_comm, ← hm]
    rw [n.refer_of_not_clashes hn, n.refer_of_not_clashes hn]
  · by_cases hn : n.aspect = .reference
    · rw [hn] at h
      rw [m.refer_of_not_clashes h, m.refer_of_not_clashes h]
    · simp only [refer_of_aspect_ne _ hm, refer_of_aspect_ne _ hn, Option.map_map]
      refine congrArg (r.map ·) (funext fun r => ?_)
      have hdelete := or_left_comm_of_not_clashes (fun m => m.eq_none_of_aspect_ne.2.2.1) rfl h
        r.onDelete
      have hupdate := or_left_comm_of_not_clashes (fun m => m.eq_none_of_aspect_ne.2.2.2) rfl h
        r.onUpdate
      simp only [Function.comp_apply, Reference.withActions, hdelete, hupdate]

/-- Of two refinements the order does not count unless they clash. -/
theorem apply_comm (h : m.aspect.clashes n.aspect = false) (c : Column) :
    n.apply (m.apply c) = m.apply (n.apply c) := by
  have hdefault := or_left_comm_of_not_clashes (fun m => m.eq_none_of_aspect_ne.1) rfl h c.default
  have hcomment := or_left_comm_of_not_clashes (fun m => m.eq_none_of_aspect_ne.2.1) rfl h
    c.comment
  rw [apply_eq, apply_eq, apply_eq, apply_eq c n]
  simp only [hdefault, hcomment, refer_comm h, Bool.or_right_comm]

/-- Two modifiers of kinds that clash, either way around. -/
def sample (first : Bool) : Aspect → Modifier
  | .flag => .nullable
  | .default => .default (.bool first)
  | .comment => .comment (if first then "a" else "b")
  | .reference => .references "t" (if first then "a" else "b")
  | .onDelete => .onDelete (if first then .cascade else .restrict)
  | .onUpdate => .onUpdate (if first then .cascade else .restrict)

end Modifier

/-- Kinds of modifier clash if the order of some two modifiers of these kinds counts. -/
theorem Aspect.clashes_iff (a b : Aspect) :
    a.clashes b = true ↔ ∃ (m n : Modifier) (c : Column), m.aspect = a ∧ n.aspect = b ∧
      n.apply (m.apply c) ≠ m.apply (n.apply c) := by
  constructor
  · intro h
    let c : Column := { name := "c", type := .text, references := some ⟨"t", "k", none, none⟩ }
    refine ⟨Modifier.sample true a, Modifier.sample false b, c, ?_⟩
    revert h
    cases a <;> cases b <;> decide
  · rintro ⟨m, n, c, rfl, rfl, hne⟩
    by_contra h
    exact hne (Modifier.apply_comm (by simpa using h) c)

namespace Column

variable (c : Column)

/-- What a list of modifiers makes of a column: flags are set, and of what is overwritten the last
stays. Actions count from the last reference on. -/
structure Refined (c : Column) (mods : List Modifier) (r : Column) : Prop where
  name : r.name = c.name
  type : r.type = c.type
  nullable : r.nullable = (c.nullable || decide (.nullable ∈ mods))
  autoIncrement : r.autoIncrement = (c.autoIncrement || decide (.autoIncrement ∈ mods))
  primary : r.primary = (c.primary || decide (.primary ∈ mods))
  unique : r.unique = (c.unique || decide (.unique ∈ mods))
  index : r.index = (c.index || decide (.index ∈ mods))
  unsigned : r.unsigned = (c.unsigned || decide (.unsigned ∈ mods))
  default : r.default = (lastOf Modifier.default? mods).or c.default
  comment : r.comment = (lastOf Modifier.comment? mods).or c.comment
  referenced : ∀ pre table column post, mods = pre ++ .references table column :: post →
    (∀ m ∈ post, m.aspect ≠ .reference) →
      r.references = some ⟨table, column, lastOf Modifier.onDelete? post,
        lastOf Modifier.onUpdate? post⟩
  unreferenced : (∀ m ∈ mods, m.aspect ≠ .reference) →
    r.references = c.references.map
      (·.withActions (lastOf Modifier.onDelete? mods) (lastOf Modifier.onUpdate? mods))

theorem references_modify {mods : List Modifier} (h : ∀ m ∈ mods, m.aspect ≠ .reference) :
    (c.modify mods).references = c.references.map
      (·.withActions (lastOf Modifier.onDelete? mods) (lastOf Modifier.onUpdate? mods)) := by
  induction mods generalizing c with
  | nil => cases hr : c.references <;> simp [hr, lastOf, Reference.withActions_none]
  | cons m mods ih =>
    obtain ⟨hm, hmods⟩ := List.forall_mem_cons.mp h
    have hstep : (m.apply c).references = m.refer c.references := by rw [m.apply_eq]
    rw [modify_cons, ih _ hmods, hstep, m.refer_of_aspect_ne hm, Option.map_map]
    refine congrArg (c.references.map ·) (funext fun r => ?_)
    rw [Function.comp_apply, Reference.withActions_withActions, lastOf_cons, lastOf_cons]

theorem references_modify_append (pre post : List Modifier) (table column : String)
    (h : ∀ m ∈ post, m.aspect ≠ .reference) :
    (c.modify (pre ++ .references table column :: post)).references =
      some ⟨table, column, lastOf Modifier.onDelete? post, lastOf Modifier.onUpdate? post⟩ := by
  rw [modify_append, modify_cons, references_modify _ h]
  simp only [Modifier.apply, Option.map_some, Reference.withActions, Option.or_none]

theorem refined_modify (mods : List Modifier) : c.Refined mods (c.modify mods) where
  name := foldl_kept (fun c m => by rw [m.apply_eq]) mods c
  type := foldl_kept (fun c m => by rw [m.apply_eq]) mods c
  nullable := foldl_flag (fun c m => by rw [m.apply_eq]) mods c
  autoIncrement := foldl_flag (fun c m => by rw [m.apply_eq]) mods c
  primary := foldl_flag (fun c m => by rw [m.apply_eq]) mods c
  unique := foldl_flag (fun c m => by rw [m.apply_eq]) mods c
  index := foldl_flag (fun c m => by rw [m.apply_eq]) mods c
  unsigned := foldl_flag (fun c m => by rw [m.apply_eq]) mods c
  default := foldl_last (fun c m => by rw [m.apply_eq]) mods c
  comment := foldl_last (fun c m => by rw [m.apply_eq]) mods c
  referenced := by
    rintro pre table column post rfl h
    exact c.references_modify_append pre post table column h
  unreferenced := c.references_modify

/-- A refined column hangs on its modifiers in this form alone, whatever their number. Two that
stand beside each other may change places unless they clash, and the kinds that clash are just those
of which some two may not. -/
theorem modify_normalForm (mods : List Modifier) :
    c.Refined mods (c.modify mods) ∧
      (∀ pre m n post, m.aspect.clashes n.aspect = false →
        c.modify (pre ++ m :: n :: post) = c.modify (pre ++ n :: m :: post)) ∧
      ∀ a b : Aspect, a.clashes b = true ↔ ∃ (m n : Modifier) (c : Column),
        m.aspect = a ∧ n.aspect = b ∧ n.apply (m.apply c) ≠ m.apply (n.apply c) := by
  refine ⟨c.refined_modify mods, fun pre m n post h => ?_, Aspect.clashes_iff⟩
  simp only [modify_append, modify_cons]
  rw [Modifier.apply_comm h]

theorem modify_normalForm_reference :
    let c : Column := { name := "owner", type := .bigInteger }
    let mods : List Modifier := [.onDelete .cascade, .references "users" "id", .unique,
      .onUpdate .restrict, .onUpdate .setNull]
    (c.modify mods).references = some ⟨"users", "id", none, some .setNull⟩ ∧
      c.modify mods = c.modify [.onDelete .cascade, .unique, .references "users" "id",
        .onUpdate .restrict, .onUpdate .setNull] := by
  intro c mods
  obtain ⟨hrefined, hswap, -⟩ := c.modify_normalForm mods
  refine ⟨?_, hswap [.onDelete .cascade] (.references "users" "id") .unique
    [.onUpdate .restrict, .onUpdate .setNull] rfl⟩
  exact hrefined.referenced [.onDelete .cascade] "users" "id"
    [.unique, .onUpdate .restrict, .onUpdate .setNull] rfl (by decide)

end Column

end SchemaPlan
