namespace SchemaPlan.Cli

inductive Task where
  | sql (manifest : String)
  | apply (manifest : String) (dryRun : Bool)
  | hasTable (table : String)
  | drop (table : String) (ifExists : Bool)
  | rename (old new : String)
deriving DecidableEq, Repr

structure Invocation where
  database : Option String
  dialect : Option String
  verbose : Bool
  task : Task
deriving DecidableEq, Repr

inductive Refusal where
  | version
  | help
  | usage
deriving DecidableEq, Repr

/-- What an option does: it takes a value, it is set, or it ends the reading. -/
inductive OptionKind where
  | value
  | flag
  | stop (r : Refusal)
deriving DecidableEq, Repr

/-- An option and its names. It is known by its long name. -/
structure OptionSpec where
  long : String
  short : Option Char
  kind : OptionKind
deriving DecidableEq, Repr

/-- The options given so far, a flag with an empty value, and the one that waits for its value. -/
structure Given where
  options : List (String × String) := []
  waiting : Option String := none
deriving DecidableEq, Repr

namespace Given

def value? (g : Given) (long : String) : Option String :=
  g.options.lookup long

/-- No option may be given twice. -/
def put (g : Given) (long value : String) : Except Refusal Given :=
  if (g.value? long).isSome then .error .usage
  else .ok ⟨g.options ++ [(long, value)], none⟩

end Given

/-- A lone dash is no option. -/
def looksLikeOption (arg : String) : Bool :=
  match arg.toList with
  | '-' :: _ :: _ => true
  | _ => false

def splitEquals (cs : List Char) : String × Option String :=
  let name := String.ofList (cs.takeWhile (· ≠ '='))
  match cs.dropWhile (· ≠ '=') with
  | _ :: value => (name, some (String.ofList value))
  | [] => (name, none)

variable (specs : List OptionSpec)

def readLong (g : Given) (cs : List Char) : Except Refusal Given :=
  let (name, value) := splitEquals cs
  match specs.find? (·.long = name) with
  | none => .error .usage
  | some spec =>
    match spec.kind, value with
    | .value, some v => g.put name v
    | .value, none => .ok { g with waiting := some name }
    | .flag, none => g.put name ""
    | .stop r, none => .error r
    | _, some _ => .error .usage

/-- Options by their short names in one argument. The first that takes a value takes what is left
of the argument or, if nothing is, waits for the next one. -/
def readShort (g : Given) : List Char → Except Refusal Given
  | [] => .ok g
  | c :: cs =>
    match specs.find? (·.short = some c) with
    | none => .error .usage
    | some spec =>
      match spec.kind, cs with
      | .value, [] => .ok { g with waiting := some spec.long }
      | .value, '=' :: v => g.put spec.long (String.ofList v)
      | .value, v => g.put spec.long (String.ofList v)
      | .flag, cs => do readShort (← g.put spec.long "") cs
      | .stop r, _ => .error r

def readOption (g : Given) (arg : String) : Except Refusal Given :=
  match arg.toList with
  | '-' :: '-' :: cs => readLong specs g cs
  | _ :: cs => readShort specs g cs
  | [] => .error .usage

def readGlobal (g : Given) : List String → Except Refusal (Given × String × List String)
  | [] => .error .usage
  | arg :: args =>
    match g.waiting, looksLikeOption arg with
    | some _, true => .error .usage
    | some long, false => do readGlobal (← g.put long arg) args
    | none, true =>
      if arg = "--" then .error .usage
      else do readGlobal (← readOption specs g arg) args
    | none, false => .ok (g, arg, args)

/-- The arguments of a task: options beside them, how many there are, whether they may be empty,
and the task they make. -/
structure TaskSpec where
  options : List OptionSpec
  arity : Nat
  allowsEmpty : Bool
  task : Given → List String → Option Task

namespace TaskSpec

variable (t : TaskSpec)

def take (found : List String) (arg : String) : Except Refusal (List String) :=
  if found.length = t.arity || (arg = "" && !t.allowsEmpty) then .error .usage
  else .ok (found ++ [arg])

/-- The arguments of a task, with its options among them. After two dashes none is an option. -/
def read (g : Given) (found : List String) : List String → Except Refusal Task
  | [] =>
    if g.waiting.isSome || found.length < t.arity then .error .usage
    else match t.task g found with
      | some task => .ok task
      | none => .error .usage
  | arg :: args =>
    match g.waiting, looksLikeOption arg with
    | some _, true => .error .usage
    | some long, false => do read (← g.put long arg) found args
    | none, true =>
      if arg = "--" then do
        let found ← args.foldlM t.take found
        read g found []
      else do read (← readOption t.options g arg) found args
    | none, false => do read g (← t.take found arg) args
termination_by args => args.length

end TaskSpec

def helpOption : OptionSpec := ⟨"help", some 'h', .stop .help⟩

def globalOptions : List OptionSpec :=
  [⟨"database", some 'd', .value⟩, ⟨"dialect", none, .value⟩, ⟨"verbose", some 'v', .flag⟩,
    helpOption, ⟨"version", some 'V', .stop .version⟩]

def taskSpecs : List (String × TaskSpec) :=
  [("sql", ⟨[helpOption], 1, false, fun
      | _, [manifest] => some (.sql manifest)
      | _, _ => none⟩),
    ("apply", ⟨[⟨"dry-run", none, .flag⟩, helpOption], 1, false, fun
      | g, [manifest] => some (.apply manifest (g.value? "dry-run").isSome)
      | _, _ => none⟩),
    ("has-table", ⟨[helpOption], 1, true, fun
      | _, [table] => some (.hasTable table)
      | _, _ => none⟩),
    ("drop", ⟨[⟨"if-exists", none, .flag⟩, helpOption], 1, true, fun
      | g, [table] => some (.drop table (g.value? "if-exists").isSome)
      | _, _ => none⟩),
    ("rename", ⟨[helpOption], 2, true, fun
      | _, [old, new] => some (.rename old new)
      | _, _ => none⟩)]

def readHelp : List String → Refusal
  | [] => .help
  | [name] => if name = "help" || (taskSpecs.lookup name).isSome then .help else .usage
  | _ => .usage

def readArguments (args : List String) : Except Refusal Invocation := do
  let (g, name, rest) ← readGlobal globalOptions {} args
  match taskSpecs.lookup name with
  | some spec => do
    let task ← spec.read {} [] rest
    pure ⟨g.value? "database", g.value? "dialect", (g.value? "verbose").isSome, task⟩
  | none => .error (if name = "help" then readHelp rest else .usage)

end SchemaPlan.Cli
