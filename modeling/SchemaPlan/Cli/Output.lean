import SchemaPlan.Cli.Run

namespace SchemaPlan.Cli

def padLeft (width : Nat) (s : String) : String :=
  String.ofList (List.replicate (width - s.length) ' ') ++ s

def logText (e : Event) : String :=
  padLeft 5 e.level.label ++ " " ++ e.message ++
    String.join (e.fields.map fun (name, value) => " " ++ name ++ "=" ++ value.logText)

def isShown (verbose : Bool) (e : Event) : Bool :=
  verbose || Level.info.severity ≤ e.level.severity

def lineText (verbose : Bool) : Line → String
  | .text s => s ++ "\n"
  | .event e => if isShown verbose e then logText e ++ "\n" else ""

def hang (indent : String) (s : String) : String :=
  String.ofList (s.toList.flatMap fun c => if c = '\n' then c :: indent.toList else [c])

def numberedCauses : Nat → List String → String
  | _, [] => ""
  | n, c :: cs =>
    "\n" ++ padLeft 5 (Decimal.Numeral.ofNat n) ++ ": " ++ hang "       " c ++
      numberedCauses (n + 1) cs

def causesText : List String → String
  | [] => ""
  | [c] => "\n\nCaused by:\n    " ++ hang "    " c
  | cs => "\n\nCaused by:" ++ numberedCauses 0 cs

def errorText (e : SchemaError) : String :=
  "Error: " ++ e.message ++ causesText e.causes ++ "\n"

structure Exit where
  code : UInt8
  stdout : String
  stderr : String
deriving DecidableEq, Repr

namespace Report

def exit (verbose : Bool) (r : Report) : Exit :=
  let stdout := String.join (r.lines.map (lineText verbose))
  match r.ending with
  | .done => ⟨0, stdout, ""⟩
  | .absent => ⟨1, stdout, ""⟩
  | .failed e => ⟨1, stdout, errorText e⟩

end Report

def versionText : String := "oxide-schema 0.1.0\n"

def usageText : String :=
  "Usage: oxide-schema [-d URL] [--dialect NAME] [-v] TASK\n" ++
  "  sql MANIFEST                print the SQL of a manifest\n" ++
  "  apply MANIFEST [--dry-run]  apply a manifest to the database\n" ++
  "  has-table TABLE             tell whether a table exists\n" ++
  "  drop TABLE [--if-exists]    drop a table\n" ++
  "  rename TABLE NAME           rename a table\n"

def Refusal.exit : Refusal → Exit
  | .version => ⟨0, versionText, ""⟩
  | .help => ⟨0, usageText, ""⟩
  | .usage => ⟨2, "", usageText⟩

/-- The program: from its arguments, the disk and the environment to what it leaves behind. The
database is one that has no tables yet. -/
def program (args : List String) (disk : Disk) (environment : Option String) : Exit :=
  match readArguments args with
  | .error r => r.exit
  | .ok i => (run Catalogue.database disk environment {} i).exit i.verbose

end SchemaPlan.Cli
