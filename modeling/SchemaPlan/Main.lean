import SchemaPlan.Cli.Output

namespace SchemaPlan.Cli

def manifestPath? (args : List String) : Option String :=
  match readArguments args with
  | .ok ⟨_, _, _, .sql path⟩ | .ok ⟨_, _, _, .apply path _⟩ => some path
  | _ => none

def placesOf (start : Location) (names : List String) : List Location :=
  names.foldr (fun name later loc => loc :: later (loc.step name)) (fun loc => [loc]) start

def readEntry? (loc : Location) : IO (Option DiskEntry) := do
  try
    return some (.file (← IO.FS.readBinFile ("/" ++ "/".intercalate loc)))
  catch
    | .inappropriateType .. => return some .folder
    | _ => return none

/-- As much of the disk as the way along a path shows. -/
def readDisk (path : String) : IO Disk := do
  let here := Location.target [] (← IO.currentDir).toString
  let (start, names) := Location.ofPath here path
  let entries ← (placesOf start names).mapM fun loc => return (loc, ← readEntry? loc)
  return ⟨fun loc => (entries.lookup loc).join, here⟩

end SchemaPlan.Cli

open SchemaPlan.Cli in
def main (args : List String) : IO UInt32 := do
  let disk ← readDisk ((manifestPath? args).getD ".")
  let e := program args disk (← IO.getEnv "DATABASE_URL")
  IO.print e.stdout
  IO.eprint e.stderr
  return e.code.toUInt32
