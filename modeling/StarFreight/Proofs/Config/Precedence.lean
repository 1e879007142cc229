import StarFreight.Config.Settings
import StarFreight.Proofs.Store.Result
/-!
# Config — where settings come from

A setting is what its flag says, or else its variable, or else the default, whatever
the other settings are (`Settings.Follows`). One setting is not its own: how long a call
to an oracle may take is kept with the address of the oracle, so the variable for it is
heeded only where a variable names an address too (`heededTimeout?`), and with an
address from a flag alone it is not.
-/

namespace StarFreight

/-- The path of the database that the environment gives. -/
def Environment.databasePath (env : Environment) : Except StoreError String :=
  ((env "HAULROUTE_DB").map .ok).getD (defaultDatabasePath env)

/-- The time limit of the environment, if it names an oracle. -/
def Environment.heededTimeout? (env : Environment) : Option Nat :=
  (env.filled? "HAULROUTE_ORACLE_URL").bind fun _ => env.natural? "HAULROUTE_ORACLE_TIMEOUT_SECS"

namespace Settings

variable {flags : SettingFlags} {env : Environment} {settings : Settings} {path : String}

/-- What settings owe to flags and an environment. -/
structure Follows (flags : SettingFlags) (env : Environment) (settings : Settings) : Prop where
  path : .ok settings.graph.path = (flags.path.map .ok).getD env.databasePath
  minNodes : settings.graph.demands.minNodes =
    (flags.minNodes <|> env.natural? "HAULROUTE_MIN_NODES").getD 5000
  critical : settings.graph.demands.critical =
    (flags.critical <|> env.ids? "HAULROUTE_CRITICAL_SYSTEMS").getD [30000142, 30002187]
  environment : settings.environment =
    (flags.environment <|> env.filled? "HAULROUTE_ENV").getD "development"
  backfill : settings.backfill =
    (flags.backfill <|> env.backfill? "HAULROUTE_BACKFILL").getD .auto
  oracleUrl : settings.oracle.map (·.url) =
    (flags.oracleUrl <|> env.filled? "HAULROUTE_ORACLE_URL")
  /-- A time limit of the environment counts only where it names an oracle. -/
  timeout : ∀ {oracle}, settings.oracle = some oracle →
    oracle.timeout = (flags.oracleTimeout <|> env.heededTimeout?).getD 10

theorem ofEnvironment_eq (env : Environment) :
    ofEnvironment env = env.databasePath.map (ofEnvironmentAt · env) := by
  unfold ofEnvironment Environment.databasePath
  cases env "HAULROUTE_DB" <;> rfl

/-- Only the oracle is another one. -/
theorem overrideOracle_eq (settings : Settings) (flags : SettingFlags) :
    settings.overrideOracle flags =
      { settings with oracle := (settings.overrideOracle flags).oracle } := by
  unfold overrideOracle
  split <;> rfl

/-- An address that is given goes before the one set. -/
theorem url_overrideOracle (settings : Settings) (flags : SettingFlags) :
    (settings.overrideOracle flags).oracle.map (·.url) =
      (flags.oracleUrl <|> settings.oracle.map (·.url)) := by
  unfold overrideOracle
  cases flags.oracleUrl with
  | some url => rfl
  | none => cases settings.oracle <;> rfl

/-- So does a time limit; without either, it is the usual one. -/
theorem timeout_overrideOracle {oracle : OracleSettings}
    (h : (settings.overrideOracle flags).oracle = some oracle) : oracle.timeout =
      (flags.oracleTimeout <|> settings.oracle.map (·.timeout)).getD defaultOracleTimeout := by
  unfold overrideOracle at h
  split at h
  · obtain rfl := Option.some.inj h
    rfl
  · obtain ⟨set, hset, rfl⟩ := Option.map_eq_some_iff.mp h
    rw [hset]
    cases flags.oracleTimeout <;> rfl

theorem timeout_oracleOf (env : Environment) :
    ((oracleOf env).map (·.timeout)).getD defaultOracleTimeout = env.heededTimeout?.getD 10 := by
  unfold oracleOf Environment.heededTimeout?
  cases env.filled? "HAULROUTE_ORACLE_URL" <;> rfl

/-- A value that is given goes before one that is found, and that before the default. -/
theorem getD_getD {α : Type} (given found : Option α) (default : α) :
    given.getD (found.getD default) = (given <|> found).getD default := by
  rw [Option.orElse_eq_orElse, Option.orElse_eq_or, Option.getD_or]

/-- **Settings under flags follow the flags and then the environment.** -/
theorem follows_override (h : env.databasePath = .ok path) :
    ((ofEnvironmentAt path env).override flags).Follows flags env where
  path := by
    rw [override, overrideOracle_eq, h]
    cases flags.path <;> rfl
  minNodes := by
    rw [override, overrideOracle_eq]
    exact getD_getD _ _ _
  critical := by
    rw [override, overrideOracle_eq]
    exact getD_getD _ _ _
  environment := by
    rw [override, overrideOracle_eq]
    exact getD_getD _ _ _
  backfill := by
    rw [override, overrideOracle_eq]
    exact getD_getD _ _ _
  oracleUrl := by
    rw [override, url_overrideOracle]
    unfold ofEnvironmentAt oracleOf
    cases env.filled? "HAULROUTE_ORACLE_URL" <;> rfl
  timeout h := by
    rw [override] at h
    rw [timeout_overrideOracle h, ← getD_getD, ← getD_getD, ← timeout_oracleOf]
    rfl

/-- **When the time limit is the one that its own flag and variable give**: when a flag
says it, or a variable names an oracle, or there is nothing to heed. -/
theorem Follows.timeout_eq_iff (h : settings.Follows flags env) {oracle : OracleSettings}
    (horacle : settings.oracle = some oracle) :
    oracle.timeout =
        (flags.oracleTimeout <|> env.natural? "HAULROUTE_ORACLE_TIMEOUT_SECS").getD 10 ↔
      flags.oracleTimeout.isSome ∨ (env.filled? "HAULROUTE_ORACLE_URL").isSome ∨
        (env.natural? "HAULROUTE_ORACLE_TIMEOUT_SECS").getD 10 = 10 := by
  rw [h.timeout horacle, Environment.heededTimeout?]
  cases flags.oracleTimeout <;> cases env.filled? "HAULROUTE_ORACLE_URL" <;> simp [eq_comm]

end Settings

end StarFreight
