import StarFreight.Cli.Run
import StarFreight.Proofs.Config.Precedence
/-!
# Cli — flags and what they settle

Values that an option does not take stop a command line, so what is given for a flag is
its value (`FlagsTold`): no flag is passed over in silence. The settings of a command
line follow its flags and then the environment (`configuredBy`).
-/

namespace StarFreight

namespace ArgumentRules

variable {rules : ArgumentRules} {args args' : Arguments} {rest left : List String}
  {name value : String}

/-- Whether every value that is given is one that its option takes. -/
def Accepts (rules : ArgumentRules) (args : Arguments) : Prop :=
  ∀ entry ∈ args.options, ∃ spec, rules.spec? entry.1 = some spec ∧ spec.accepts entry.2 = true

theorem accepts_addOption (h : rules.addOption args name value = .ok args')
    (hargs : rules.Accepts args) : rules.Accepts args' := by
  unfold addOption at h
  split at h
  · cases h
  · next spec hspec =>
    split at h
    · next htaken =>
      obtain rfl := Except.ok.inj h
      intro entry hentry
      rcases List.mem_append.mp hentry with hold | hnew
      · exact hargs entry hold
      · obtain rfl := List.mem_singleton.mp hnew
        exact ⟨spec, hspec, (Bool.and_eq_true _ _ ▸ htaken).1⟩
    · cases h

theorem accepts_addOther (h : rules.addOther args value = .ok args')
    (hargs : rules.Accepts args) : rules.Accepts args' := by
  unfold addOther at h
  split at h
  · obtain rfl := Except.ok.inj h
    exact hargs
  · cases h

theorem accepts_addOthers {stopped : List String}
    (h : stopped.foldlM (rules.addOther · ·) args = .ok args') (hargs : rules.Accepts args) :
    rules.Accepts args' := by
  induction stopped generalizing args with
  | nil =>
    obtain rfl := Except.ok.inj h
    exact hargs
  | cons arg stopped ih =>
    obtain ⟨next, hnext, h⟩ := bind_eq_ok.mp h
    exact ih h (accepts_addOther hnext hargs)

/-- **What is taken apart holds values that options take.** -/
theorem accepts_scan {stop : Bool} (h : rules.scan stop args rest = .ok (args', left))
    (hargs : rules.Accepts args) : rules.Accepts args' := by
  fun_induction scan rules stop args rest with
  | case1 args =>
    obtain ⟨rfl, -⟩ := Prod.mk.inj (Except.ok.inj h)
    exact hargs
  | case2 args arg rest _ =>
    obtain ⟨next, hnext, hsame⟩ := map_eq_ok.mp h
    obtain ⟨rfl, -⟩ := Prod.mk.inj hsame
    exact accepts_addOthers hnext hargs
  | case7 args arg rest name value _ next hnext ih => exact ih h (accepts_addOption hnext hargs)
  | case10 args arg name _ value rest _ next hnext ih => exact ih h (accepts_addOption hnext hargs)
  | case12 args arg rest =>
    obtain ⟨rfl, -⟩ := Prod.mk.inj (Except.ok.inj h)
    exact hargs
  | case14 args arg rest _ _ next hnext ih => exact ih h (accepts_addOther hnext hargs)
  | _ => cases h

/-- A value that is given is one that its option takes. -/
theorem Accepts.value? (hargs : rules.Accepts args) (h : args.value? name = some value)
    {spec : OptionSpec} (hspec : rules.spec? name = some spec) : spec.accepts value = true := by
  obtain ⟨entry, hentry, rfl⟩ := List.mem_map.mp (List.mem_of_head? h)
  obtain ⟨hmem, hname⟩ := List.mem_filter.mp hentry
  obtain ⟨found, hfound, haccepts⟩ := hargs entry hmem
  rw [beq_iff_eq.mp hname, hspec] at hfound
  obtain rfl := Option.some.inj hfound
  exact haccepts

end ArgumentRules

namespace Invocation

/-- Every command takes the options that go with all of them. -/
theorem specs_of_lookup {name : String} {rules : ArgumentRules}
    (h : commandRules.lookup name = some rules) :
    ∃ others, rules.specs = commonSpecs ++ others := by
  have hall : ∀ entry ∈ commandRules, ∃ others, entry.2.specs = commonSpecs ++ others := by
    simp [commandRules]
  obtain ⟨before, after, hsplit, -⟩ := List.lookup_eq_some_iff.mp h
  exact hall (name, rules) (hsplit ▸ List.mem_append_right _ List.mem_cons_self)

/-- A command line taken apart into options in front of the command and behind it. -/
def TakenApart (args : List String) (front behind : Arguments) : Prop :=
  ∃ name rest rules left,
    ({ specs := commonSpecs, hasVersion := true } : ArgumentRules).scan true {} args =
        .ok (front, name :: rest) ∧
      commandRules.lookup name = some rules ∧ rules.scan false {} rest = .ok (behind, left)

/-- What is given for an option: behind the command, or else in front of it. -/
def given? (front behind : Arguments) (name : String) : Option String :=
  behind.value? name <|> front.value? name

theorem of_parse_eq_ok {args : List String} {invocation : Invocation}
    (h : parse args = .ok invocation) : ∃ front behind, TakenApart args front behind ∧
      invocation.flags = flagsOf front behind ∧
      invocation.critical = given? front behind "critical-systems" := by
  unfold parse at h
  obtain ⟨⟨front, rest⟩, hfront, h⟩ := bind_eq_ok.mp h
  cases rest with
  | nil => cases h
  | cons name rest =>
    dsimp only at h
    split at h
    · cases h
    · split at h
      · next rules hrules =>
        obtain ⟨⟨behind, left⟩, hbehind, h⟩ := bind_eq_ok.mp h
        dsimp only at h
        split at h
        · obtain rfl := Except.ok.inj h
          exact ⟨front, behind, ⟨name, rest, rules, left, hfront, hrules, hbehind⟩, rfl, rfl⟩
        · cases h
      · cases h

/-! ## What flags say -/

/-- What the flags of a command line owe to what is given for them: its value, which
every text that is given has. -/
structure FlagsTold (given : String → Option String) (invocation : Invocation) : Prop where
  path : invocation.flags.path = given "db"
  minNodes : invocation.flags.minNodes.map some =
    (given "min-nodes").map Decimal.readNatural?
  critical : invocation.critical = given "critical-systems"
  environment : invocation.flags.environment = given "env"
  backfill : invocation.flags.backfill.map some =
    (given "backfill").map fun text => (BackfillMode.parse text).toOption
  oracleUrl : invocation.flags.oracleUrl = given "oracle-url"
  oracleTimeout : invocation.flags.oracleTimeout.map some =
    (given "oracle-timeout-secs").map Decimal.readNatural?

/-- Where every text that is given has a value, values are as many as texts. -/
theorem map_some_bind {α β : Type} {given : Option α} {read : α → Option β}
    (h : ∀ a, given = some a → (read a).isSome = true) :
    (given.bind read).map some = given.map read := by
  cases given with
  | none => rfl
  | some a =>
    obtain ⟨b, hb⟩ := Option.isSome_iff_exists.mp (h a rfl)
    rw [Option.bind_some, Option.map_some, hb, Option.map_some]

theorem TakenApart.accepts {args : List String} {front behind : Arguments} {name text : String}
    {spec : OptionSpec} (h : TakenApart args front behind)
    (hspec : commonSpecs.find? (·.name == name) = some spec)
    (hgiven : given? front behind name = some text) : spec.accepts text = true := by
  obtain ⟨command, rest, rules, left, hfront, hrules, hbehind⟩ := h
  obtain ⟨others, hothers⟩ := specs_of_lookup hrules
  have hrules : rules.spec? name = some spec := by
    rw [ArgumentRules.spec?, hothers, List.find?_append, hspec]
    rfl
  unfold given? at hgiven
  cases hvalue : behind.value? name with
  | some value =>
    rw [hvalue] at hgiven
    obtain rfl := Option.some.inj hgiven
    exact (ArgumentRules.accepts_scan hbehind (List.forall_mem_nil _)).value? hvalue hrules
  | none =>
    rw [hvalue] at hgiven
    exact (ArgumentRules.accepts_scan hfront (List.forall_mem_nil _)).value? hgiven hspec

/-- So an option that takes just the texts that can be read has a value when it is given. -/
theorem TakenApart.readable {α : Type} {args : List String} {front behind : Arguments}
    {name : String} {read : String → Option α} (h : TakenApart args front behind)
    (hspec : commonSpecs.find? (·.name == name) =
      some { name, accepts := fun text => (read text).isSome }) :
    ((given? front behind name).bind read).map some = (given? front behind name).map read :=
  map_some_bind fun _ hgiven => h.accepts hspec hgiven

theorem flagsTold {args : List String} {front behind : Arguments} {invocation : Invocation}
    (h : TakenApart args front behind) (hflags : invocation.flags = flagsOf front behind)
    (hcritical : invocation.critical = given? front behind "critical-systems") :
    invocation.FlagsTold (given? front behind) where
  path := congrArg SettingFlags.path hflags
  minNodes := by
    rw [hflags]
    exact h.readable rfl
  critical := hcritical
  environment := congrArg SettingFlags.environment hflags
  backfill := by
    rw [hflags]
    exact h.readable rfl
  oracleUrl := congrArg SettingFlags.oracleUrl hflags
  oracleTimeout := by
    rw [hflags]
    exact h.readable rfl

/-! ## What settings follow -/

/-- A command line has settings when there is a path to a database and the critical
systems can be read, and they are those of the environment under its flags. -/
theorem settings_eq_ok_iff {invocation : Invocation} {env : Environment} {settings : Settings} :
    invocation.settings env = .ok settings ↔ ∃ path ids, env.databasePath = .ok path ∧
      ids.map .ok = invocation.critical.map parseIdList ∧
      (Settings.ofEnvironmentAt path env).override { invocation.flags with critical := ids } =
        settings := by
  constructor
  · intro h
    obtain ⟨base, hbase, h⟩ := bind_eq_ok.mp h
    rw [mapError_eq_ok, Settings.ofEnvironment_eq] at hbase
    obtain ⟨path, hpath, rfl⟩ := map_eq_ok.mp hbase
    split at h
    · next hcritical =>
      rw [hcritical]
      exact ⟨path, none, hpath, rfl, Except.ok.inj h⟩
    · next text hcritical =>
      rw [hcritical]
      split at h
      · next ids hread =>
        exact ⟨path, some ids, hpath, congrArg some hread.symm, Except.ok.inj h⟩
      · cases h
  · rintro ⟨path, ids, hpath, hids, rfl⟩
    refine bind_eq_ok.mpr ⟨Settings.ofEnvironmentAt path env, ?_, ?_⟩
    · rw [mapError_eq_ok, Settings.ofEnvironment_eq, hpath]
      rfl
    · cases hcritical : invocation.critical with
      | none =>
        rw [hcritical, Option.map_none, Option.map_eq_none_iff] at hids
        rw [hids]
        rfl
      | some text =>
        rw [hcritical, Option.map_some] at hids
        obtain ⟨read, rfl, hread⟩ := Option.map_eq_some_iff.mp hids
        simp only [← hread]
        rfl

/-- Where there is no other word on it, a database is at its usual place. -/
theorem databasePath_eq_ok_iff {env : Environment} : (∃ path, env.databasePath = .ok path) ↔
    (env "HAULROUTE_DB").isSome ∨ ∃ path, defaultDatabasePath env = .ok path := by
  unfold Environment.databasePath
  cases env "HAULROUTE_DB" <;> simp

/-- A list that is given can be read when there are numbers that it reads as. -/
theorem exists_map_ok_iff {given : Option String} :
    (∃ ids : Option (List Int), ids.map .ok = given.map parseIdList) ↔
      ∀ text, given = some text → ∃ ids, parseIdList text = .ok ids := by
  cases given with
  | none => simp
  | some text =>
    constructor
    · rintro ⟨ids, hids⟩ other hother
      obtain rfl := Option.some.inj hother
      obtain ⟨read, -, hread⟩ := Option.map_eq_some_iff.mp hids
      exact ⟨read, hread.symm⟩
    · intro h
      obtain ⟨read, hread⟩ := h text rfl
      exact ⟨some read, congrArg some hread.symm⟩

/-- What a command line that is understood owes its flags and the environment. -/
structure ConfiguredBy (invocation : Invocation) (args : List String) (env : Environment) :
    Prop where
  flags : ∃ front behind, TakenApart args front behind ∧
    invocation.FlagsTold (given? front behind)
  /-- No variable that is malformed keeps a command line from having settings. -/
  settled : (∃ settings, invocation.settings env = .ok settings) ↔
    ((env "HAULROUTE_DB").isSome ∨ ∃ path, defaultDatabasePath env = .ok path) ∧
      ∀ text, invocation.critical = some text → ∃ ids, parseIdList text = .ok ids
  follows : ∀ {settings}, invocation.settings env = .ok settings →
    ∃ ids, ids.map .ok = invocation.critical.map parseIdList ∧
      settings.Follows { invocation.flags with critical := ids } env
  /-- The variable for the time limit is not passed over exactly when a flag says it, a
  variable names an oracle, or it says what is the limit anyway. -/
  timeout : ∀ {settings oracle}, invocation.settings env = .ok settings →
    settings.oracle = some oracle →
      (oracle.timeout = (invocation.flags.oracleTimeout <|>
          env.natural? "HAULROUTE_ORACLE_TIMEOUT_SECS").getD 10 ↔
        invocation.flags.oracleTimeout.isSome ∨ (env.filled? "HAULROUTE_ORACLE_URL").isSome ∨
          (env.natural? "HAULROUTE_ORACLE_TIMEOUT_SECS").getD 10 = 10)

/-- **Each setting is what its flag says, or else its variable, or else the default**,
but for the time limit of an oracle, of which it is told when it is. -/
theorem configuredBy {args : List String} {invocation : Invocation}
    (h : parse args = .ok invocation) (env : Environment) :
    invocation.ConfiguredBy args env where
  flags := by
    obtain ⟨front, behind, hapart, hflags, hcritical⟩ := of_parse_eq_ok h
    exact ⟨front, behind, hapart, flagsTold hapart hflags hcritical⟩
  settled := by
    rw [← databasePath_eq_ok_iff, ← exists_map_ok_iff]
    constructor
    · rintro ⟨settings, hsettings⟩
      obtain ⟨path, ids, hpath, hids, -⟩ := settings_eq_ok_iff.mp hsettings
      exact ⟨⟨path, hpath⟩, ids, hids⟩
    · rintro ⟨⟨path, hpath⟩, ids, hids⟩
      exact ⟨_, settings_eq_ok_iff.mpr ⟨path, ids, hpath, hids, rfl⟩⟩
  follows hsettings := by
    obtain ⟨path, ids, hpath, hids, rfl⟩ := settings_eq_ok_iff.mp hsettings
    exact ⟨ids, hids, Settings.follows_override hpath⟩
  timeout hsettings horacle := by
    obtain ⟨path, ids, hpath, hids, rfl⟩ := settings_eq_ok_iff.mp hsettings
    have hfollows : Settings.Follows { invocation.flags with critical := ids } env _ :=
      Settings.follows_override hpath
    exact hfollows.timeout_eq_iff horacle

/-- An environment in which only some variables are set. -/
def environmentOf (entries : List (String × String)) : Environment :=
  fun name => entries.lookup name

/-- A command line that says twice how many systems there have to be, and asks an oracle
that no variable names. -/
def pierCommandLine : List String :=
  ["--oracle-url", "https://example.test", "--min-nodes", "7", "health", "--min-nodes=+8"]

/-- Variables, one of them malformed and one with blanks around its value. -/
def pierEnvironment : Environment :=
  environmentOf
    [ ("HAULROUTE_DB", "/d"), ("HAULROUTE_MIN_NODES", "x"), ("HAULROUTE_ENV", " prod ")
    , ("HAULROUTE_CRITICAL_SYSTEMS", "1,2"), ("HAULROUTE_ORACLE_TIMEOUT_SECS", "30") ]

def pierInvocation : Invocation :=
  { flags := { minNodes := some 8, oracleUrl := some "https://example.test" }
    critical := none, format := .text, command := .health }

theorem configuredBy_pier :
    parse pierCommandLine = .ok pierInvocation ∧
      pierInvocation.ConfiguredBy pierCommandLine pierEnvironment := by
  have hparse : parse pierCommandLine = .ok pierInvocation := by decide +kernel
  exact ⟨hparse, configuredBy hparse pierEnvironment⟩

/-- The environment allows an oracle thirty seconds, no flag says otherwise, and it gets
ten. -/
theorem settings_passes_over_timeout :
    parse pierCommandLine = .ok pierInvocation ∧
      pierInvocation.flags.oracleTimeout = none ∧
      pierEnvironment.natural? "HAULROUTE_ORACLE_TIMEOUT_SECS" = some 30 ∧
      (pierInvocation.settings pierEnvironment).map (·.oracle) =
        .ok (some { url := "https://example.test", timeout := 10 }) := by
  decide +kernel

end Invocation

end StarFreight
