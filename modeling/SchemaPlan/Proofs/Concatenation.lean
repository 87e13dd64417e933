import SchemaPlan.Proofs.Preview
import SchemaPlan.Proofs.RoundTrip

namespace SchemaPlan

open Sql

/-- The result of parts that are taken in order: their values put together or, if one of them has
none, the error of the first that has none. -/
structure Gathers {α β ε : Type} (join : List α → β) (x : Except ε β) (parts : List (Except ε α)) :
    Prop where
  ok_iff : ∀ b, x = .ok b ↔ ∃ as : List α, parts = as.map .ok ∧ join as = b
  error_iff : ∀ e, x = .error e ↔
    ∃ (before : List α) (later : List (Except ε α)),
      parts = before.map .ok ++ .error e :: later

namespace Gathers

variable {α β γ ε : Type} {join : List β → γ} {x : Except ε γ}

theorem of_eq_map {f : α → Except ε β} {xs : List α} (h : x = join <$> xs.mapM f) :
    Gathers join x (xs.map f) where
  ok_iff c := by
    rw [h, map_eq_ok_iff]
    simp only [mapM_eq_ok_iff]
  error_iff e := by
    rw [← mapM_eq_error_iff, h]
    cases xs.mapM f with
    | error e' =>
      change Except.error e' = Except.error e ↔ _
      rw [Except.error.injEq, Except.error.injEq]
    | ok ys => exact iff_of_false nofun nofun

theorem exists_ok_iff {parts : List (Except ε β)} (h : Gathers join x parts) :
    (∃ c, x = .ok c) ↔ ∀ p ∈ parts, ∃ b, p = .ok b := by
  constructor
  · rintro ⟨c, hc⟩
    obtain ⟨bs, rfl, -⟩ := (h.ok_iff c).mp hc
    intro p hp
    obtain ⟨b, -, rfl⟩ := List.mem_map.mp hp
    exact ⟨b, rfl⟩
  · intro hparts
    cases hx : x with
    | ok c => exact ⟨c, rfl⟩
    | error e =>
      obtain ⟨before, later, rfl⟩ := (h.error_iff e).mp hx
      obtain ⟨b, hb⟩ := hparts (.error e) (by simp)
      cases hb

end Gathers

def Json.isArray : Json → Bool
  | .array _ => true
  | _ => false

namespace Manifest

def joined (path : String) (ms : List Manifest) : Manifest where
  path := path
  tables := ms.flatMap Manifest.tables

theorem ofJson_of_not_isArray (path : String) {document : Json} (h : document.isArray = false) :
    ofJson path document =
      ((fun t => ⟨path, [t]⟩) <$> decodeTable document).mapError fun e => ⟨path, .mismatch e⟩ := by
  have htables : decodeTables document = (fun t => [t]) <$> decodeTable document := by
    cases document with
    | array items => cases h
    | _ => rfl
  unfold ofJson
  rw [htables]
  cases decodeTable document <;> rfl

theorem ofJson_array (path : String) {ds : List Json} (h : ∀ d ∈ ds, d.isArray = false) :
    ofJson path (.array ds) = joined path <$> ds.mapM (ofJson path) := by
  have heach : ds.mapM (ofJson path) = ds.mapM fun d =>
      ((fun t => ⟨path, [t]⟩) <$> decodeTable d).mapError fun e => ⟨path, .mismatch e⟩ :=
    mapM_congr fun d hd => ofJson_of_not_isArray path (h d hd)
  rw [heach, mapM_mapError, mapM_map_right, ofJson, decodeTables]
  cases ds.mapM decodeTable with
  | error e => rfl
  | ok ts =>
    have hjoined : joined path (ts.map fun t => ⟨path, [t]⟩) = ⟨path, ts⟩ := by
      simp [joined, List.flatMap_map]
    exact congrArg Except.ok hjoined.symm

theorem blueprints_joined (path : String) {ms : List Manifest} (h : ∀ m ∈ ms, m.path = path) :
    (joined path ms).blueprints = List.flatten <$> ms.mapM blueprints := by
  have heach : ms.mapM blueprints = ms.mapM fun m => m.tables.mapM (blueprintOf path) :=
    mapM_congr fun m hm => by rw [blueprints, h m hm]
  rw [heach]
  exact mapM_flatMap ms Manifest.tables (blueprintOf path)

end Manifest

theorem planEach_flatten (d : Dialect) (bss : List (List Blueprint)) :
    planEach d bss.flatten = List.flatten <$> bss.mapM (planEach d) := by
  let compileAll (bs : List Blueprint) := bs.mapM (·.compile d)
  have heach : bss.mapM (planEach d) = List.map List.flatten <$> bss.mapM compileAll :=
    mapM_map_right bss List.flatten compileAll
  have hflat : compileAll bss.flatten = List.flatten <$> bss.mapM compileAll := by
    rw [← List.flatMap_id]
    exact mapM_flatMap bss id (·.compile d)
  change List.flatten <$> compileAll bss.flatten = _
  rw [heach, hflat]
  cases bss.mapM compileAll with
  | error e => rfl
  | ok plans => exact congrArg Except.ok List.flatten_flatten

/-- An array of tables is the sequence of the documents of its tables: it is typed, replayed and
compiled by doing so to each of them on its own, and printed as their statements in order. -/
theorem array_gathers (path : String) {documents : List Json}
    (h : ∀ v ∈ documents, v.isArray = false) :
    Gathers (Manifest.joined path) (Manifest.ofJson path (.array documents))
        (documents.map (Manifest.ofJson path)) ∧
      ((∃ m, Manifest.ofJson path (.array documents) = .ok m) ↔
        ∀ v ∈ documents, ∃ m, Manifest.ofJson path v = .ok m) ∧
      ∀ ms : List Manifest, documents.map (Manifest.ofJson path) = ms.map .ok →
        Gathers List.flatten (Manifest.joined path ms).blueprints (ms.map Manifest.blueprints) ∧
          ∀ (bss : List (List Blueprint)) (d : Dialect),
            Gathers List.flatten (planEach d bss.flatten) (bss.map (planEach d)) ∧
              ∀ (plans : List (List Statement)) (disk : Disk) (text : String),
                ms.map Manifest.blueprints = bss.map .ok →
                bss.map (planEach d) = plans.map .ok →
                disk.readText path = .ok text → Json.parse text = .ok (.array documents) →
                  (Cli.runSql disk d path).printed =
                      plans.flatten.map (fun st => st.text ++ ";") ∧
                    (Cli.runSql disk d path).ending = .done := by
  have htyped := Gathers.of_eq_map (Manifest.ofJson_array path h)
  refine ⟨htyped, ?_, fun ms hms => ?_⟩
  · rw [htyped.exists_ok_iff]
    exact List.forall_mem_map
  have hpath : ∀ m ∈ ms, m.path = path := by
    intro m hm
    obtain ⟨v, hv⟩ := exists_of_mem_mapM (mapM_eq_ok_iff.mpr hms) hm
    exact (Manifest.ofJson_eq_ok_iff.mp hv).1
  have hbuilt := Gathers.of_eq_map (Manifest.blueprints_joined path hpath)
  refine ⟨hbuilt, fun bss d => ?_⟩
  have hplanned := Gathers.of_eq_map (planEach_flatten d bss)
  refine ⟨hplanned, fun plans disk text hbss hplans htext hparse => ?_⟩
  have hload : Cli.loadManifest disk path = .ok (Manifest.joined path ms) := by
    rw [Cli.loadManifest, htext]
    dsimp only
    rw [Manifest.parse, hparse]
    dsimp only
    rw [(htyped.ok_iff _).mpr ⟨ms, hms, rfl⟩]
    rfl
  obtain ⟨hprinted, hending⟩ := (Cli.shows_runSql disk d path).planned _ _ _ hload
    ((hbuilt.ok_iff _).mpr ⟨bss, hbss, rfl⟩) ((hplanned.ok_iff _).mpr ⟨plans, hplans, rfl⟩)
  exact ⟨hprinted, hending⟩

theorem array_gathers_tables :
    let disk := Disk.ofFiles
      [("m.json", "[\x7b\"table\":\"t\"\x7d,\x7b\"table\":\"u\"\x7d]".toUTF8)]
    let first : Json := .object [("table", .string "t")]
    let second : Json := .object [("table", .string "u")]
    (Cli.runSql disk .sqlite "m.json").printed =
        ["CREATE TABLE \"t\" ();", "CREATE TABLE \"u\" ();"] ∧
      ∃ e, Manifest.ofJson "m.json" (.bool true) = .error e ∧
        Manifest.ofJson "m.json" (.array [first, .bool true, second, .null]) = .error e := by
  intro disk first second
  have hread : disk.readText "m.json" =
      .ok "[\x7b\"table\":\"t\"\x7d,\x7b\"table\":\"u\"\x7d]" := by
    decide +kernel
  have hparse : Json.parse "[\x7b\"table\":\"t\"\x7d,\x7b\"table\":\"u\"\x7d]" =
      .ok (.array [first, second]) := by
    cbv
  have hplain : ∀ v ∈ [first, second], v.isArray = false := by simp [first, second, Json.isArray]
  have hmixed : ∀ v ∈ [first, .bool true, second, .null], v.isArray = false := by
    simp [first, second, Json.isArray]
  obtain ⟨-, -, hjoined⟩ := array_gathers "m.json" hplain
  obtain ⟨-, hplanned⟩ := hjoined
    [⟨"m.json", [{ table := "t" }]⟩, ⟨"m.json", [{ table := "u" }]⟩] rfl
  obtain ⟨-, hprinted⟩ := hplanned
    [[{ table := "t", mode := .create }], [{ table := "u", mode := .create }]] .sqlite
  obtain ⟨hlines, -⟩ := hprinted
    [[.createTable ⟨"t", [], none, []⟩], [.createTable ⟨"u", [], none, []⟩]] disk _ rfl rfl hread
    hparse
  obtain ⟨hfirst, -⟩ := array_gathers "m.json" hmixed
  refine ⟨hlines.trans (by decide +kernel), _, rfl, ?_⟩
  exact (hfirst.error_iff _).mpr ⟨[⟨"m.json", [{ table := "t" }]⟩], [_, _], rfl⟩

end SchemaPlan
