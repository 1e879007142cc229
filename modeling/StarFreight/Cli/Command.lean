import StarFreight.Cli.Arguments
import StarFreight.Config.Settings
import StarFreight.Report.Text
/-!
# Cli — commands

What a command line asks the program to do. Settings may be given before or
after the name of the command, and those after it count where both are given.
-/

namespace StarFreight

/-- A place as arguments give it: by name, by number or, wrongly, by both or
neither. -/
structure PlaceArguments where
  name : Option String
  id : Option Int
  kind : LocationKind
deriving DecidableEq, Repr

/-- What the program is to do. -/
inductive Command where
  | route (origin destination : PlaceArguments) (profile : Profile) (pickup delivery : AccessScope)
  | resolve (place : PlaceArguments)
  | health
  | init (policyFile : Option String) (backfill : Option Bool)
deriving DecidableEq, Repr

/-- A command line understood. -/
structure Invocation where
  /-- Settings that go before the environment; critical systems as given. -/
  flags : SettingFlags
  critical : Option String
  format : OutputFormat
  command : Command
deriving DecidableEq, Repr

/-- The truth value that a text names. -/
def readBool? (text : String) : Option Bool :=
  if text = "true" then some true else if text = "false" then some false else none

namespace Invocation

/-- The options that go with every command. -/
def commonSpecs : List OptionSpec :=
  [ { name := "db", accepts := (!·.isEmpty) }
  , { name := "min-nodes", accepts := fun v => (Decimal.readNatural? v).isSome }
  , { name := "critical-systems" }
  , { name := "env" }
  , { name := "backfill", accepts := fun v => (BackfillMode.parse v).toOption.isSome }
  , { name := "oracle-url" }
  , { name := "oracle-timeout-secs", accepts := fun v => (Decimal.readNatural? v).isSome }
  , { name := "format", accepts := fun v => (OutputFormat.ofLabel? v).isSome } ]

/-- An option whose value is an integer. -/
def integerSpec (name : String) (repeatable : Bool) : OptionSpec :=
  { name, repeatable, accepts := fun v => (Decimal.readInteger? v).isSome }

/-- An option whose value is a kind of place. -/
def kindSpec (name : String) : OptionSpec :=
  { name, accepts := fun v => (LocationKind.ofLabel? v).isSome }

/-- The options of each command, by its name, and how many other arguments it
takes. -/
def commandRules : List (String × ArgumentRules) :=
  [ ("route",
      { specs := commonSpecs ++
          [ { name := "from" }, integerSpec "from-id" false, kindSpec "from-kind"
          , { name := "to" }, integerSpec "to-id" false, kindSpec "to-kind"
          , { name := "profile", accepts := fun v => (Profile.parse v).toOption.isSome }
          , integerSpec "pickup-system" true, integerSpec "pickup-region" true
          , integerSpec "pickup-location" true, integerSpec "delivery-system" true
          , integerSpec "delivery-region" true, integerSpec "delivery-location" true ] })
  , ("resolve",
      { specs := commonSpecs ++ [integerSpec "id" false, kindSpec "kind"], maxOthers := 1 })
  , ("health", { specs := commonSpecs })
  , ("init",
      { specs := commonSpecs ++
          [ { name := "security-policy", accepts := (!·.isEmpty) }
          , { name := "backfill-enabled", accepts := fun v => (readBool? v).isSome } ] }) ]

/-- The integers given by a repeatable option. -/
def integers (args : Arguments) (name : String) : List Int :=
  (args.values name).filterMap Decimal.readInteger?

/-- The kind given by an option, a system when it is not given. -/
def kind (args : Arguments) (name : String) : LocationKind :=
  ((args.value? name).bind LocationKind.ofLabel?).getD .system

/-- The scope given by the options that start with a phase. -/
def scope (args : Arguments) (phase : String) : AccessScope :=
  { systems := integers args (phase ++ "-system")
    regions := integers args (phase ++ "-region")
    locations := integers args (phase ++ "-location") }

/-- The place given by the options that start with a direction. -/
def place (args : Arguments) (direction : String) : PlaceArguments :=
  { name := args.value? direction
    id := (args.value? (direction ++ "-id")).bind Decimal.readInteger?
    kind := kind args (direction ++ "-kind") }

/-- The command of a name with its arguments. -/
def command? (name : String) (args : Arguments) : Option Command :=
  if name = "route" then
    some (.route (place args "from") (place args "to")
      (((args.value? "profile").bind fun v => (Profile.parse v).toOption).getD .balanced)
      (scope args "pickup") (scope args "delivery"))
  else if name = "resolve" then
    some (.resolve
      { name := args.others.head?
        id := (args.value? "id").bind Decimal.readInteger?
        kind := kind args "kind" })
  else if name = "health" then some .health
  else if name = "init" then
    some (.init (args.value? "security-policy") ((args.value? "backfill-enabled").bind readBool?))
  else none

/-- The flags among the options, those of the command before those in front of
it. -/
def flagsOf (front behind : Arguments) : SettingFlags :=
  let value := fun name : String => behind.value? name <|> front.value? name
  { path := value "db"
    minNodes := (value "min-nodes").bind Decimal.readNatural?
    environment := value "env"
    backfill := (value "backfill").bind fun v => (BackfillMode.parse v).toOption
    oracleUrl := value "oracle-url"
    oracleTimeout := (value "oracle-timeout-secs").bind Decimal.readNatural? }

/-- What a request for help comes to: it may name one command, or help itself. -/
def helpStop : List String → ArgumentStop
  | [] => .help
  | [name] => if name = "help" || (commandRules.lookup name).isSome then .help else .misuse
  | _ => .misuse

/-- What a command line asks for. -/
def parse (args : List String) : Except ArgumentStop Invocation := do
  let common : ArgumentRules := { specs := commonSpecs, hasVersion := true }
  let (front, rest) ← common.scan true {} args
  let name :: rest := rest | throw .misuse
  if name = "help" then throw (helpStop rest)
  let some rules := commandRules.lookup name | throw .misuse
  let (behind, _) ← rules.scan false {} rest
  let some command := command? name behind | throw .misuse
  let format := (behind.value? "format" <|> front.value? "format").bind OutputFormat.ofLabel?
  return {
    flags := flagsOf front behind
    critical := behind.value? "critical-systems" <|> front.value? "critical-systems"
    format := format.getD .text
    command }

end Invocation

end StarFreight
