import SchemaPlan.Proofs.Decoding

namespace SchemaPlan

open Sql Text

namespace Text.Quoted

variable {mark : Char} {cs s rest : List Char}

/-- The mark at which reading ends is not doubled, and what was read is written so again. -/
theorem eq_encode_of_takeQuoted (h : takeQuoted mark cs = some (s, rest)) :
    cs = encode mark s ++ mark :: rest ∧ rest.head? ≠ some mark := by
  -- a character at a time, two if the first is a mark and doubled
  fun_induction takeQuoted mark cs generalizing s with
  | case1 | case3 => cases h
  | case2 =>
    cases h
    exact ⟨rfl, nofun⟩
  | case4 cs ih =>
    obtain ⟨⟨s', rest'⟩, htail, hs⟩ := Option.map_eq_some_iff.mp h
    cases hs
    obtain ⟨htext, hnext⟩ := ih htail
    rw [encode, if_pos rfl, htext]
    exact ⟨rfl, hnext⟩
  | case5 d cs hd =>
    cases h
    exact ⟨rfl, fun he => hd (Option.some.inj he)⟩
  | case6 c d cs hc ih =>
    obtain ⟨⟨s', rest'⟩, htail, hs⟩ := Option.map_eq_some_iff.mp h
    cases hs
    obtain ⟨htext, hnext⟩ := ih htail
    rw [encode, if_neg hc, htext]
    exact ⟨rfl, hnext⟩

/-- A quoted text can be read off the front just where no further mark follows, and only as the
text that was quoted. -/
theorem unquote_eq_some_iff {text s rest : String} :
    unquote mark text.toList = some (s.toList, rest.toList) ↔
      text = quote mark s ++ rest ∧ rest.toList.head? ≠ some mark := by
  rw [← String.toList_inj, String.toList_append]
  constructor
  · intro h
    cases hcs : text.toList with
    | nil =>
      rw [hcs] at h
      cases h
    | cons c cs =>
      rw [hcs, unquote] at h
      split at h
      · rename_i hc
        obtain ⟨htext, hnext⟩ := eq_encode_of_takeQuoted h
        rw [toList_quote, hc, htext]
        simpa using hnext
      · cases h
  · rintro ⟨htext, hnext⟩
    rw [htext]
    exact unquote_quote s rest.toList hnext

end Text.Quoted

namespace Sql

theorem enclosed_nameList (names : List String) (rest : String) :
    Reader.enclosed Reader.name (nameList names ++ (")" ++ rest)).toList =
      some (names, rest.toList) := by
  have hrest : Begins [""] rest.toList := ⟨"", List.mem_singleton.mpr rfl, List.nil_prefix⟩
  have hreads := (Recovers.nameList names).reads rest.toList hrest
  rwa [← String.toList_append, String.append_assoc] at hreads

theorem nameList_injective {names names' : List String} {rest rest' : String}
    (h : nameList names ++ (")" ++ rest) = nameList names' ++ (")" ++ rest')) :
    names = names' ∧ rest = rest' := by
  have hreads := enclosed_nameList names rest
  rw [h, enclosed_nameList, Option.some.injEq, Prod.mk.injEq] at hreads
  exact ⟨hreads.1.symm, String.toList_injective hreads.2.symm⟩

/-- A quoted name or string is told from what follows it, where no further mark does, and a list of
names from what follows its closing parenthesis. A string is quoted alike as a default. -/
theorem quoting_decodable :
    (∀ text name rest : String,
      Quoted.unquote nameMark text.toList = some (name.toList, rest.toList) ↔
        text = quoteName name ++ rest ∧ rest.toList.head? ≠ some nameMark) ∧
    (∀ text s rest : String,
      Quoted.unquote stringMark text.toList = some (s.toList, rest.toList) ↔
        text = quoteString s ++ rest ∧ rest.toList.head? ≠ some stringMark) ∧
    (∀ (tokens : BoolTokens) (s : String),
      (DefaultValue.string s).sql tokens = quoteString s) ∧
    (∀ (names : List String) (rest : String),
      Reader.enclosed Reader.name (nameList names ++ (")" ++ rest)).toList =
        some (names, rest.toList)) ∧
    ∀ (names names' : List String) (rest rest' : String),
      nameList names ++ (")" ++ rest) = nameList names' ++ (")" ++ rest') ↔
        names = names' ∧ rest = rest' := by
  refine ⟨fun _ _ _ => Quoted.unquote_eq_some_iff, fun _ _ _ => Quoted.unquote_eq_some_iff,
    fun tokens s => DefaultValue.sql_string tokens s, enclosed_nameList,
    fun names names' rest rest' => ⟨nameList_injective, ?_⟩⟩
  rintro ⟨rfl, rfl⟩
  rfl

/-- Names that look like the end of a list, an empty one and one of marks alone. -/
example : Reader.enclosed Reader.name "\"a\"\", \"\"\", \"\", \"\"\"\"); \"".toList =
    some (["a\", \"", "", "\""], "; \"".toList) := by decide +kernel

end Sql

end SchemaPlan
