import Rendezvous.Node.Assembly

/-!
# Rendezvous.Cli.Execution

What the commands do: a node is assembled, a key is made, or the name that belongs to a key
is told. Before that the log is opened.

* `FlagFile.load`: the values in a flag file;
* `Done`, `Matches.execute`: what a command comes to;
* `Exit`, `start`: what the program leaves behind, or the node that it runs.
-/

namespace Rendezvous

/-- The flags and values of the file at a path, all of which have to be known. -/
def FlagFile.load (v : Volume) (known : List String) (path : String) :
    Except (Stop ConfigError) (List (String × String)) :=
  match v.readText path with
  | .error fault => .error (.error (.unreadable path fault))
  | .ok content =>
    match parse content with
    | .error (.cutCharacter _) => .error (.crash .cutCharacter)
    | .error e => .error (.error (.flagFile path e))
    | .ok pairs =>
      match unknown? known pairs with
      | some name => .error (.error (.unknownFlag path name))
      | none => .ok pairs

namespace Cli

/-- What a command comes to. -/
inductive Done where
  /-- A line for the user. -/
  | printed (line : String)
  /-- A node that is ready to run. -/
  | assembled (node : Node)

/-- Opens the log: its filter has to be one, and its file must be one that can be written. -/
def openLog (v : Volume) (l : LogSettings) : Volume × Except (Stop NodeError) Unit :=
  match LogFilter.check l.filters, l.destination with
  | .error (.crash c), _ => (v, .error (.crash c))
  | .error (.error e), _ => (v, .error (.error (.logging (.badFilter e))))
  | .ok (), .file path =>
    match v.openAppend path with
    | .ok v => (v, .ok ())
    | .error fault => (v, .error (.error (.logging (.cannotOpen path fault))))
  | .ok (), .stderr | .ok (), .stdout => (v, .ok ())

namespace Matches

/-- The arguments, with the values of the flag file that they name. -/
def withNamedFile (m : Matches) (env : Environment) (v : Volume) (args : List String) :
    Except (Stop ConfigError) Matches :=
  match m.get? "config" with
  | none => .ok m
  | some path => do
    let pairs ← FlagFile.load v fileNames path
    orStop ((m.withFlagFile env args pairs).mapError (.flags path))

/-- Assembles a node. -/
def serve (m : Matches) (w : Surroundings) (env : Environment) (v : Volume)
    (args : List String) : Volume × Except (Stop NodeError) Done :=
  match m.withNamedFile env v args with
  | .error (.crash c) => (v, .error (.crash c))
  | .error (.error e) => (v, .error (.error (.config e)))
  | .ok m =>
    match openLog v m.log with
    | (v, .error e) => (v, .error e)
    | (v, .ok ()) =>
      match Node.assemble w v m.nodeConfig with
      | (v, .error e) => (v, .error e)
      | (v, .ok n) => (v, .ok (.assembled n))

/-- A new key of a kind, as its owner keeps it. -/
def newKey (w : Surroundings) (kind : String) (length : Nat) : Except KeyError String :=
  match KeyKind.parse? kind with
  | none => .error (.unknownKind kind)
  | some k => (Identity.generate k length w.random).map (·.exported)

/-- Does what the arguments ask for. -/
def execute (m : Matches) (w : Surroundings) (env : Environment) (v : Volume)
    (args : List String) : Volume × Except (Stop NodeError) Done :=
  match m.invocation with
  | .serve _ _ _ => m.serve w env v args
  | .genkey kind length log =>
    match openLog v log with
    | (v, .error e) => (v, .error e)
    | (v, .ok ()) => (v, orStop ((newKey w kind length).mapError .identity |>.map .printed))
  | .sharekey key log =>
    match openLog v log with
    | (v, .error e) => (v, .error e)
    | (v, .ok ()) =>
      (v, orStop ((Identity.load key).mapError .identity |>.map fun i => .printed i.peerId.toText))

end Matches

/-! ### The program -/

/-- What the program leaves behind when it ends. -/
structure Exit where
  code : Nat
  /-- What it wrote for its user, and about errors. -/
  output : String
  errors : String
deriving Repr, DecidableEq, Inhabited

namespace Exit

/-- The end after arguments that are not taken, or that ask for help. -/
def ofUsage (e : UsageError) : Exit :=
  if e.isAnswer then ⟨e.exitCode, e.printed, ""⟩ else ⟨e.exitCode, "", e.printed⟩

/-- The end after an error. -/
def ofError (e : NodeError) : Exit := ⟨1, "", "error: " ++ e.message ++ "\n"⟩

/-- The end after a crash. -/
def ofCrash : Exit := ⟨101, "", ""⟩

/-- The end after a line was printed. -/
def ofLine (line : String) : Exit := ⟨0, line ++ "\n", ""⟩

end Exit

/-- What becomes of the program. -/
inductive Start where
  | exits (e : Exit)
  | runs (n : Node)

/-- What becomes of the program with some arguments, the first of which names it. -/
def start (w : Surroundings) (env : Environment) (v : Volume) (args : List String) :
    Volume × Start :=
  match parse env args with
  | .error e => (v, .exits (.ofUsage e))
  | .ok m =>
    match m.execute w env v args with
    | (v, .error (.crash _)) => (v, .exits .ofCrash)
    | (v, .error (.error e)) => (v, .exits (.ofError e))
    | (v, .ok (.printed line)) => (v, .exits (.ofLine line))
    | (v, .ok (.assembled n)) => (v, .runs n)

end Cli

end Rendezvous
