import StarFreight.Config.IdList
import StarFreight.Planning.Plan
/-!
# Config — settings

The settings of a planner as the environment gives them. A variable that is
missing or malformed leaves its setting at the default; flags that are given
go before the environment, each by itself (`Settings.override`).
-/

namespace StarFreight

/-- The environment: the values of variables. -/
abbrev Environment := String → Option String

/-- An oracle to be asked over HTTP. -/
structure OracleSettings where
  /-- Its base address. -/
  url : String
  /-- How many seconds a call may take. -/
  timeout : Nat := 10
deriving DecidableEq, Repr

/-- Everything a planner is set up from. -/
structure Settings where
  graph : GraphSettings
  /-- The name of the environment it runs in. -/
  environment : String := "development"
  /-- Whether accepted paths are written into the graph. -/
  backfill : BackfillMode := .auto
  oracle : Option OracleSettings := none
deriving DecidableEq, Repr

/-- How many seconds a call to an oracle may take when nothing else is said. -/
def defaultOracleTimeout : Nat := 10

namespace Environment

/-- The natural number in a variable, with blanks around it. -/
def natural? (env : Environment) (name : String) : Option Nat :=
  (env name).bind fun text => Decimal.readNatural? (Text.trim text)

/-- The text of a variable without the blanks around it, unless nothing is
left. -/
def filled? (env : Environment) (name : String) : Option String :=
  ((env name).map Text.trim).filter fun text => !text.isEmpty

/-- The list of numbers in a variable. -/
def ids? (env : Environment) (name : String) : Option (List Int) :=
  (env name).bind fun text => (parseIdList text).toOption

/-- The backfill mode in a variable. -/
def backfill? (env : Environment) (name : String) : Option BackfillMode :=
  (env name).bind fun text => (BackfillMode.parse text).toOption

end Environment

/-- A path below a directory. -/
def joinPath (directory name : String) : String :=
  if directory.isEmpty || directory.toList.getLast? == some '/' then directory ++ name
  else directory ++ "/" ++ name

/-- Where databases are kept for a user: in the data directory, if an absolute
one is named, or else below the home directory, if one is named. What the system's
list of users says of a home that is not named is left out. -/
def defaultDatabasePath (env : Environment) : Except StoreError String :=
  let data := (env "XDG_DATA_HOME").filter fun path => path.toList.head? == some '/'
  let home := (env "HOME").filter fun path => !path.isEmpty
  let directory := data <|> home.map fun path => joinPath path ".local/share"
  match directory with
  | some path => .ok (joinPath (joinPath path "haulroute") "haulroute.db")
  | none => .error .noDataDirectory

namespace Settings

/-- The oracle that the environment names. -/
def oracleOf (env : Environment) : Option OracleSettings :=
  (env.filled? "HAULROUTE_ORACLE_URL").map fun url =>
    { url
      timeout := (env.natural? "HAULROUTE_ORACLE_TIMEOUT_SECS").getD defaultOracleTimeout }

/-- The settings that the environment gives, but for the path of the
database. -/
def ofEnvironmentAt (path : String) (env : Environment) : Settings :=
  let graph : GraphSettings := { path }
  let base : Settings := { graph }
  { base with
    graph :=
      { graph with
        ttl := (env.natural? "HAULROUTE_CACHE_TTL_SECS").getD graph.ttl
        demands :=
          { minNodes := (env.natural? "HAULROUTE_MIN_NODES").getD graph.demands.minNodes
            critical := (env.ids? "HAULROUTE_CRITICAL_SYSTEMS").getD graph.demands.critical } }
    environment := (env.filled? "HAULROUTE_ENV").getD base.environment
    backfill := (env.backfill? "HAULROUTE_BACKFILL").getD base.backfill
    oracle := oracleOf env }

/-- The settings that the environment gives. -/
def ofEnvironment (env : Environment) : Except StoreError Settings :=
  match env "HAULROUTE_DB" with
  | some path => .ok (ofEnvironmentAt path env)
  | none => (defaultDatabasePath env).map (ofEnvironmentAt · env)

/-- The settings with an oracle; without a time limit, the usual one. -/
def withOracle (settings : Settings) (url : String) (timeout : Option Nat) : Settings :=
  { settings with oracle := some { url, timeout := timeout.getD defaultOracleTimeout } }

/-- The planner of the settings, given what becomes of requests to an oracle. -/
def planner (settings : Settings) (exchange : OracleSettings → Oracle) : Planner :=
  { graph := settings.graph, environment := settings.environment, backfill := settings.backfill
    oracle := settings.oracle.map exchange }

end Settings

/-- Flags that go before the environment. -/
structure SettingFlags where
  path : Option String := none
  minNodes : Option Nat := none
  critical : Option (List SystemId) := none
  environment : Option String := none
  backfill : Option BackfillMode := none
  oracleUrl : Option String := none
  /-- How many seconds a call to the oracle may take. -/
  oracleTimeout : Option Nat := none
deriving DecidableEq, Repr

namespace Settings

/-- The oracle under flags: an address that is given goes before the one set,
and so does a time limit; a new address keeps the time limit set before. -/
def overrideOracle (settings : Settings) (flags : SettingFlags) : Settings :=
  match flags.oracleUrl with
  | some url =>
    settings.withOracle url (flags.oracleTimeout <|> settings.oracle.map (·.timeout))
  | none =>
    { settings with
      oracle := settings.oracle.map fun oracle =>
        { oracle with timeout := flags.oracleTimeout.getD oracle.timeout } }

/-- The settings under flags. -/
def override (settings : Settings) (flags : SettingFlags) : Settings :=
  let graph := settings.graph
  let settings :=
    { settings with
      graph :=
        { graph with
          path := flags.path.getD graph.path
          demands :=
            { minNodes := flags.minNodes.getD graph.demands.minNodes
              critical := flags.critical.getD graph.demands.critical } }
      environment := flags.environment.getD settings.environment
      backfill := flags.backfill.getD settings.backfill }
  settings.overrideOracle flags

end Settings

/-- How a log is written. -/
inductive LogFormat where
  | json
  | text
deriving DecidableEq, Repr

/-- The name of a log format. -/
def LogFormat.label : LogFormat → String
  | .json => "json"
  | .text => "text"

/-- The log format that a text names; any other text stands for documents. -/
def LogFormat.parse (text : String) : LogFormat :=
  let name := Text.lowercase (Text.trim text)
  if name = "text" ∨ name = "pretty" then .text else .json

end StarFreight
