import StarFreight.Cli.Command
import StarFreight.Cli.DatabaseAddress
import StarFreight.Cli.Host
import StarFreight.Oracle.Http
/-!
# Cli — running

Carrying out a command line on a host. A database that is worked with has to be
there (`connectDatabase`); one that is set up is made where it is missing, and so
are the directories on the way to it (`runInit`).
-/

namespace StarFreight

/-- What a run leaves behind for whoever started it. -/
structure Outcome where
  /-- 0 for success, 1 for failure, 2 for a command line that makes no sense, 101
  for a run that broke off. -/
  exit : Nat
  output : String := ""
  complaint : String := ""
deriving DecidableEq, Repr

/-- A complaint about what was given or found. -/
def complain (message : String) : Outcome :=
  { exit := 1, complaint := "Error: " ++ message ++ "\n" }

/-- How the program is used. -/
def usage : String :=
  OutputFormat.unlines
    [ "Freight route planning over the stargate network"
    , ""
    , "Usage: haulroute-cli [OPTIONS] <COMMAND>"
    , ""
    , "Commands:"
    , "  route    Plan a route between two locations"
    , "  resolve  Resolve a location name or id to its system"
    , "  health   Report graph readiness. Exits non-zero when the graph is not ready"
    , "  init     Create the database schema and optionally seed settings" ]

/-- The version of the program. -/
def versionLine : String :=
  "haulroute-cli 0.1.0\n"

/-- The outcome of a command line that is not carried out. -/
def ArgumentStop.outcome : ArgumentStop → Outcome
  | .misuse => { exit := 2 }
  | .help => { exit := 0, output := usage }
  | .version => { exit := 0, output := versionLine }

/-- The outcome of a failure to plan. -/
def Failure.outcome (format : OutputFormat) (failure : Failure) : Outcome :=
  { exit := 1, output := failure.report.printed format }

namespace PlaceArguments

/-- The place of a route, given by exactly one of two options. -/
def forRoute (place : PlaceArguments) (direction : String) : Except String LocationQuery :=
  match place.name, place.id with
  | some _, some _ =>
    .error ("--" ++ direction ++ " and --" ++ direction ++ "-id are mutually exclusive")
  | some name, none => .ok (.name name)
  | none, some id => .ok (.number id place.kind)
  | none, none => .error ("one of --" ++ direction ++ " or --" ++ direction ++ "-id is required")

/-- The place to resolve, given by exactly one of a name and a number. -/
def forResolve (place : PlaceArguments) : Except String LocationQuery :=
  match place.name, place.id with
  | some _, some _ => .error "give either a name or --id, not both"
  | some name, none => .ok (.name name)
  | none, some id => .ok (.number id place.kind)
  | none, none => .error "a location name or --id is required"

end PlaceArguments

namespace Invocation

/-- The settings of a command line in an environment, or what is wrong with
them. -/
def settings (invocation : Invocation) (env : Environment) : Except String Settings := do
  let base ← (Settings.ofEnvironment env).mapError fun e =>
    "failed to read engine configuration: " ++ e.message
  let critical ← match invocation.critical with
    | none => pure none
    | some text =>
      match parseIdList text with
      | .ok ids => pure (some ids)
      | .error token =>
        throw ("invalid system id '" ++ token ++ "' in --critical-systems")
  return base.override { invocation.flags with critical }

end Invocation

/-- Stores the settings that are given in a database: first the policy, then the
flag. -/
def Database.seed (db : Database) (policy : Option PolicyDocument) (flag : Option Bool) :
    Except StoreError Database := do
  let db ← match policy with
    | none => pure db
    | some policy => db.storeSetting policyKey policy.toJson
  match flag with
  | none => pure db
  | some b => db.storeSetting backfillKey (.bool b)

section Running

variable {m : Type → Type} [Monad m] (host : Host m)

/-- A database that is open. -/
inductive OpenDatabase where
  | memory (writable : Bool) (db : Database)
  | file (opened : OpenFile)

/-- What an open database holds. -/
def OpenDatabase.database : OpenDatabase → Database
  | .memory _ db => db
  | .file opened => opened.database

/-- Opens the database that a text stands for. -/
def openDatabase (given : String) : m (Except StoreError OpenDatabase) := do
  match DatabaseAddress.ofText given with
  | .error fault => return .error (.address fault)
  | .ok (.memory writable) => return .ok (.memory writable {})
  | .ok .beyondReach => return .error (.cannotOpen given)
  | .ok (.file file) =>
    match ← host.openDatabase file with
    | .error fault => return .error (.ofOpening given fault)
    | .ok opened => return .ok (.file opened)

/-- Opens the database that a text stands for, if there is anything at the path
that the text is. -/
def connectDatabase (given : String) : m (Except StoreError (Option OpenDatabase)) := do
  if ← host.present (.ofText given) then
    return (← openDatabase host given).map some
  else return .ok none

/-- Puts something else into an open database. -/
def OpenDatabase.store (opened : OpenDatabase) (db : Database) :
    m (Except StoreError OpenDatabase) := do
  match opened with
  | .memory writable _ =>
    if writable then return .ok (.memory writable db) else return .error (.file .readOnly)
  | .file opened =>
    match ← host.writeDatabase opened db with
    | .error fault => return .error (.file fault)
    | .ok _ => return .ok (.file { opened with database := db })

/-- Closes an open database. -/
def OpenDatabase.close : OpenDatabase → m Unit
  | .memory _ _ => pure ()
  | .file opened => host.closeDatabase opened

/-- Carries out what needs a planner on the database of the settings, and puts
back what it changed. -/
def withPlanner {α : Type} (settings : Settings)
    (act : Planner → World → Except Failure α × World) : m (Except Failure α × World) := do
  let now ← host.now
  match ← connectDatabase host settings.graph.path with
  | .error e => return (.error (.ofStore e), { database := none, now })
  | .ok connected =>
    let database := connected.map (·.database)
    let (result, w) := act (settings.planner host.exchange) { database, now }
    match connected, w.database with
    | some opened, some db =>
      if db = opened.database then opened.close host
      else
        let _ ← opened.store host db
        opened.close host
    | _, _ => pure ()
    return (result, w)

/-- The last second that a clock can show. -/
def lastSecond : Nat := 9223372036854775807

/-- Whether the answer of an oracle was to be waited for until a second that no
clock can show. -/
def brokeOff (settings : Settings) (w : World) : Bool :=
  match settings.oracle with
  | none => false
  | some oracle =>
    w.calls.any (·.isWaitedFor oracle.url) && lastSecond < w.now + oracle.timeout

/-- Plans a route. -/
def runRoute (settings : Settings) (format : OutputFormat) (request : RouteRequest) :
    m Outcome := do
  let (result, w) ← withPlanner host settings fun planner w => planner.planRoute request w
  if brokeOff settings w then return { exit := 101 }
  else
    match result with
    | .ok route => return { exit := 0, output := route.printed format }
    | .error failure => return failure.outcome format

/-- Resolves a place. -/
def runResolve (settings : Settings) (format : OutputFormat) (query : LocationQuery) :
    m Outcome := do
  let (result, _) ← withPlanner host settings fun planner w => planner.resolve query w
  match result with
  | .ok location => return { exit := 0, output := location.printed format }
  | .error failure => return failure.outcome format

/-- Assesses the graph; an assessment that is not favourable is a failure too. -/
def runHealth (settings : Settings) (format : OutputFormat) : m Outcome := do
  let path := settings.graph.path
  let failed := fun e : StoreError =>
    complain ("failed to load route graph from " ++ path ++ ": " ++ e.account)
  match ← connectDatabase host path with
  | .error e => return failed e
  | .ok connected =>
    let database := connected.map (·.database)
    let (result, _) := (settings.planner host.exchange).health { database, now := ← host.now }
    if let some opened := connected then opened.close host
    match result with
    | .error e => return failed e
    | .ok health =>
      return { exit := if health.ready then 0 else 1, output := health.printed format }

/-- The database at a path with its tables, made where anything is missing, also
the directories on the way to it; or what is wrong. -/
def createDatabase (path : String) : m (Except String OpenDatabase) := do
  let made ← match (Path.ofText path).parent? with
    | none => pure (.ok ())
    | some directory => host.makeDirectories directory
  match made with
  | .error fault => return .error fault.message
  | .ok _ =>
    match ← openDatabase host path with
    | .error e => return .error e.account
    | .ok opened =>
      let database := opened.database.initialized
      if database = opened.database then return .ok opened
      else
        match ← opened.store host database with
        | .ok opened => return .ok opened
        | .error e =>
          opened.close host
          return .error e.account

/-- The policy in a file, none without a file; or what is wrong with it. -/
def readPolicy (file : Option String) : m (Except String (Option PolicyDocument)) := do
  match file with
  | none => return .ok none
  | some file =>
    match ← host.fileText (.ofText file) with
    | .error fault => return .error ("failed to read " ++ file ++ ": " ++ fault.message)
    | .ok text =>
      match Json.parse? text >>= PolicyDocument.ofJson? with
      | none => return .error ("invalid security policy in " ++ file)
      | some policy => return .ok (some policy)

/-- Stores the settings that are given in an open database; or what is wrong. -/
def storeSettings (opened : OpenDatabase) (policyFile : Option String) (flag : Option Bool) :
    m (Except String Unit) := do
  match ← readPolicy host policyFile with
  | .error problem => return .error problem
  | .ok policy =>
    if policy.isNone && flag.isNone then return .ok ()
    else
      match opened.database.seed policy flag with
      | .error e => return .error e.account
      | .ok database =>
        match ← opened.store host database with
        | .error e => return .error e.account
        | .ok _ => return .ok ()

/-- Makes the tables and stores settings. -/
def runInit (settings : Settings) (policyFile : Option String) (flag : Option Bool) :
    m Outcome := do
  let path := settings.graph.path
  match ← createDatabase host path with
  | .error problem =>
    return complain ("failed to initialise database at " ++ path ++ ": " ++ problem)
  | .ok opened =>
    let stored ← storeSettings host opened policyFile flag
    opened.close host
    match stored with
    | .error problem => return complain problem
    | .ok _ => return { exit := 0, output := "Database ready at " ++ path ++ "\n" }

/-- Carries out a command under its settings. -/
def runCommand (settings : Settings) (format : OutputFormat) : Command → m Outcome
  | .route origin destination profile pickup delivery =>
    match origin.forRoute "from", destination.forRoute "to" with
    | .error e, _ => return complain e
    | _, .error e => return complain e
    | .ok origin, .ok destination =>
      runRoute host settings format { origin, destination, profile, pickup, delivery }
  | .resolve place =>
    match place.forResolve with
    | .error e => return complain e
    | .ok query => runResolve host settings format query
  | .health => runHealth host settings format
  | .init policyFile flag => runInit host settings policyFile flag

/-- Carries out a command line. -/
def runArguments (args : List String) : m Outcome := do
  match Invocation.parse args with
  | .error stop => return stop.outcome
  | .ok invocation =>
    match invocation.settings host.environment with
    | .error e => return complain e
    | .ok settings => runCommand host settings invocation.format invocation.command

end Running

end StarFreight
