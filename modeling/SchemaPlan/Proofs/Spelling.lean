import Mathlib.Data.List.DropRight
import Mathlib.Data.List.Forall2
import SchemaPlan.Dialect

namespace SchemaPlan

namespace Text.Blank

def Surrounds (s core : String) : Prop :=
  ∃ before after : String, s = before ++ core ++ after ∧
    (∀ c ∈ before.toList, isBlank c = true) ∧ ∀ c ∈ after.toList, isBlank c = true

/-- `core` is left of `s` once the blanks around it are taken away. -/
structure Leaves (s core : String) : Prop where
  surrounds : Surrounds s core
  first : ∀ c ∈ core.toList.head?, isBlank c = false
  last : ∀ c ∈ core.toList.getLast?, isBlank c = false

section Lists

variable {cs : List Char}

theorem trimLeft_append_left {before : List Char} (h : ∀ c ∈ before, isBlank c = true) :
    trimLeft (before ++ cs) = trimLeft cs :=
  List.dropWhile_append_of_pos h

theorem trimRight_append_right {after : List Char} (h : ∀ c ∈ after, isBlank c = true) :
    trimRight (cs ++ after) = trimRight cs := by
  rw [trimRight, List.reverse_append, trimLeft_append_left (by simpa using h), trimRight]

theorem trimRight_trimLeft_append_right {after : List Char} (h : ∀ c ∈ after, isBlank c = true) :
    trimRight (trimLeft (cs ++ after)) = trimRight (trimLeft cs) := by
  unfold trimLeft
  rw [List.dropWhile_append]
  split
  · rename_i hcs
    rw [List.isEmpty_iff.mp hcs, List.dropWhile_eq_nil_iff.mpr h]
  · exact trimRight_append_right h

theorem not_isBlank_of_head_trimLeft {c : Char} (h : c ∈ (trimLeft cs).head?) :
    isBlank c = false := by
  have hfind : cs.find? (fun c => !isBlank c) = some c := by
    rwa [List.find?_not_eq_head?_dropWhile]
  simpa using List.find?_some hfind

theorem map_trimLeft {f : Char → Char} (hf : ∀ c, isBlank (f c) = isBlank c) :
    trimLeft (cs.map f) = (trimLeft cs).map f := by
  have hblank : isBlank ∘ f = isBlank := funext hf
  rw [trimLeft, List.dropWhile_map, hblank, trimLeft]

theorem map_trimRight {f : Char → Char} (hf : ∀ c, isBlank (f c) = isBlank c) :
    trimRight (cs.map f) = (trimRight cs).map f := by
  rw [trimRight, ← List.map_reverse, map_trimLeft hf, ← List.map_reverse, trimRight]

end Lists

theorem toList_trim (s : String) : (trim s).toList = trimRight (trimLeft s.toList) :=
  String.toList_ofList

variable {s core : String}

theorem trim_of_surrounds (h : Surrounds s core) : trim s = trim core := by
  obtain ⟨before, after, rfl, hbefore, hafter⟩ := h
  rw [trim, String.toList_append, String.toList_append, List.append_assoc,
    trimLeft_append_left hbefore, trimRight_trimLeft_append_right hafter, trim]

theorem surrounds_trim (s : String) : Surrounds s (trim s) := by
  refine ⟨.ofList (s.toList.takeWhile isBlank), .ofList ((trimLeft s.toList).rtakeWhile isBlank),
    ?_, fun c hc => ?_, fun c hc => ?_⟩
  · have hright : trimRight (trimLeft s.toList) ++ (trimLeft s.toList).rtakeWhile isBlank =
        trimLeft s.toList := List.rdropWhile_append_rtakeWhile
    rw [← String.toList_inj, String.toList_append, String.toList_append, toList_trim,
      String.toList_ofList, String.toList_ofList, List.append_assoc, hright]
    exact List.takeWhile_append_dropWhile.symm
  · rw [String.toList_ofList] at hc
    exact List.mem_takeWhile_imp hc
  · rw [String.toList_ofList] at hc
    exact List.mem_rtakeWhile_imp hc

theorem leaves_trim (s : String) : Leaves s (trim s) where
  surrounds := surrounds_trim s
  first c hc := by
    obtain ⟨after, hafter⟩ : trimRight (trimLeft s.toList) <+: trimLeft s.toList :=
      List.rdropWhile_prefix isBlank _
    rw [toList_trim] at hc
    have hhead : c ∈ (trimLeft s.toList).head? := by
      rw [← hafter, List.head?_append, hc]
      rfl
    exact not_isBlank_of_head_trimLeft hhead
  last c hc := by
    rw [toList_trim, trimRight, List.getLast?_reverse] at hc
    exact not_isBlank_of_head_trimLeft hc

theorem leaves_iff : Leaves s core ↔ core = trim s := by
  constructor
  · rintro ⟨hsurrounds, hfirst, hlast⟩
    have hleft : trimLeft core.toList = core.toList := by
      cases hcs : core.toList with
      | nil => rfl
      | cons c cs =>
        rw [hcs] at hfirst
        exact List.dropWhile_cons_of_neg (by simp [hfirst c rfl])
    have hright : trimRight core.toList = core.toList :=
      List.rdropWhile_eq_self_iff.mpr fun hne => by
        rw [hlast _ (List.getLast?_eq_some_getLast hne)]
        exact Bool.false_ne_true
    rw [trim_of_surrounds hsurrounds, ← String.toList_inj, toList_trim, hleft, hright]
  · rintro rfl
    exact leaves_trim s

end Text.Blank

/-- The text with some of its ASCII letters in the other case. -/
def Text.Recased (s t : String) : Prop :=
  List.Forall₂ (fun c d => d = c ∨ d = c.toLower ∨ d = c.toUpper) s.toList t.toList

/-- `t` is `s` with its ASCII letters in any case and blanks around it. -/
def Text.Respelled (s t : String) : Prop :=
  ∃ core, Blank.Surrounds t core ∧ Recased s core

namespace Text

theorem toNat_toLower (c : Char) :
    c.toLower.toNat = if 65 ≤ c.toNat ∧ c.toNat ≤ 90 then c.toNat + 32 else c.toNat := by
  unfold Char.toLower Char.toNat
  split
  · next h =>
    have hbounds : 65 ≤ c.val.toNat ∧ c.val.toNat ≤ 90 := h
    rw [if_pos hbounds, UInt32.toNat_add]
    change (c.val.toNat + 32) % 0x100000000 = _
    omega
  · next h => exact (if_neg h).symm

theorem toNat_toUpper (c : Char) :
    c.toUpper.toNat = if 97 ≤ c.toNat ∧ c.toNat ≤ 122 then c.toNat - 32 else c.toNat := by
  unfold Char.toUpper Char.toNat
  split
  · next h =>
    have hbounds : 97 ≤ c.val.toNat ∧ c.val.toNat ≤ 122 := h
    rw [if_pos hbounds, UInt32.toNat_add]
    change (c.val.toNat + (0x100000000 - 32)) % 0x100000000 = _
    omega
  · next h => exact (if_neg h).symm

theorem Blank.isBlank_toLower (c : Char) : isBlank c.toLower = isBlank c := by
  unfold isBlank
  rw [toNat_toLower]
  grind

theorem toLower_of_recased {c c' : Char} (h : c' = c ∨ c' = c.toLower ∨ c' = c.toUpper) :
    c'.toLower = c.toLower := by
  rw [← Char.toNat_inj, toNat_toLower, toNat_toLower]
  rcases h with rfl | rfl | rfl
  · rfl
  · rw [toNat_toLower]
    grind
  · rw [toNat_toUpper]
    grind

end Text

namespace Dialect

open Text

def synonyms : Dialect → List String
  | .sqlite => ["sqlite", "sqlite3"]
  | .postgres => ["pgsql", "postgres", "postgresql"]

variable {s t : String} {d : Dialect}

theorem map_toLower_trim (s : String) :
    (Blank.trim s).map Char.toLower = Blank.trim (s.map Char.toLower) := by
  rw [← String.toList_inj, Blank.toList_trim, String.toList_map, String.toList_map,
    Blank.toList_trim, Blank.map_trimLeft Blank.isBlank_toLower,
    Blank.map_trimRight Blank.isBlank_toLower]

theorem map_toLower_of_recased (h : Recased s t) : t.map Char.toLower = s.map Char.toLower := by
  rw [← String.toList_inj, String.toList_map, String.toList_map, ← List.forall₂_eq_eq_eq,
    List.forall₂_map_left_iff, List.forall₂_map_right_iff]
  exact h.flip.imp fun _ _ hcase => toLower_of_recased hcase

theorem lookup_spellings : spellings.lookup s = some d ↔ s ∈ d.synonyms := by
  unfold spellings
  simp only [List.lookup_cons]
  cases d <;> simp [synonyms] <;> grind

theorem parse_eq_ok_iff : parse s = .ok d ↔ (Blank.trim s).map Char.toLower ∈ d.synonyms := by
  rw [← lookup_spellings]
  unfold parse ofName?
  split
  · rename_i h
    rw [h, Except.ok.injEq, Option.some.injEq]
  · rename_i h
    simp [h]

theorem exists_parse_eq_ok_iff :
    (∃ d, parse s = .ok d) ↔ (Blank.trim s).map Char.toLower ∈
      ["sqlite", "sqlite3", "pgsql", "postgres", "postgresql"] := by
  simp only [parse_eq_ok_iff]
  change _ ↔ _ ∈ synonyms .sqlite ++ synonyms .postgres
  rw [List.mem_append]
  constructor
  · rintro ⟨d, hd⟩
    cases d with
    | sqlite => exact .inl hd
    | postgres => exact .inr hd
  · rintro (h | h)
    · exact ⟨.sqlite, h⟩
    · exact ⟨.postgres, h⟩

theorem eq_of_parse_eq_error {e : Unknown} (h : parse s = .error e) : e = ⟨s⟩ := by
  unfold parse at h
  split at h
  · cases h
  · exact (Except.error.inj h).symm

/-- However a name is spelled, its dialect is the same. If there is none, the name is told as it was
given. -/
theorem parse_of_respelled (h : Respelled s t) : parse t = (parse s).mapError fun _ => ⟨t⟩ := by
  obtain ⟨core, hcore, hcase⟩ := h
  have hname : ofName? t = ofName? s := by
    unfold ofName?
    rw [Blank.trim_of_surrounds hcore, map_toLower_trim, map_toLower_of_recased hcase,
      map_toLower_trim]
  unfold parse
  rw [hname]
  cases ofName? s <;> rfl

end Dialect

end SchemaPlan
