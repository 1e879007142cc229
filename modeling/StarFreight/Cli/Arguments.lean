/-!
# Cli — arguments

Taking a command line apart. Every option has a long name and one value, given
after an equals sign or as the next argument, which then does not look like an
option itself; an option may be given once unless it is repeatable. Everything
after a bare double dash is taken as it is.
-/

namespace StarFreight

/-- An option. -/
structure OptionSpec where
  name : String
  /-- Whether it may be given more than once. -/
  repeatable : Bool := false
  /-- Whether a value makes sense for it. -/
  accepts : String → Bool := fun _ => true

/-- What a command line asks for instead of being carried out. -/
inductive ArgumentStop where
  | misuse
  /-- It asks how the program is used. -/
  | help
  /-- It asks for the version of the program. -/
  | version
deriving DecidableEq, Repr

/-- Arguments taken apart: values by option and the rest, in order. -/
structure Arguments where
  options : List (String × String) := []
  /-- The arguments that belong to no option. -/
  others : List String := []
deriving DecidableEq, Repr

/-- How arguments are taken apart. -/
structure ArgumentRules where
  specs : List OptionSpec
  /-- How many arguments that belong to no option there may be. -/
  maxOthers : Nat := 0
  /-- Whether the version can be asked for. -/
  hasVersion : Bool := false

namespace Arguments

/-- The values of an option, in order. -/
def values (args : Arguments) (name : String) : List String :=
  (args.options.filter (·.1 == name)).map (·.2)

/-- The value of an option that is not repeatable. -/
def value? (args : Arguments) (name : String) : Option String :=
  (args.values name).head?

end Arguments

/-- Whether an argument looks like an option: it starts with a dash and is not
a single dash. -/
def looksLikeOption (arg : String) : Bool :=
  match arg.toList with
  | '-' :: _ :: _ => true
  | _ => false

/-- What an argument with two dashes in front says: the name and, after an
equals sign, the value. -/
def longOption? (arg : String) : Option (String × Option String) :=
  match arg.toList with
  | '-' :: '-' :: cs =>
    let name := String.ofList (cs.takeWhile (· ≠ '='))
    match cs.dropWhile (· ≠ '=') with
    | [] => some (name, none)
    | _ :: value => some (name, some (String.ofList value))
  | _ => none

/-- What an argument that is no value of an option is. -/
inductive ArgumentKind where
  | option (name : String) (value : Option String)
  | help
  | version
  | unknown
  | separator
  | other
deriving DecidableEq, Repr

/-- What an argument is. -/
def ArgumentKind.of (arg : String) : ArgumentKind :=
  if arg = "--" then .separator
  else
    match longOption? arg with
    | some ("help", none) => .help
    | some ("version", none) => .version
    | some (name, value) => .option name value
    | none =>
      match arg.toList with
      | '-' :: 'h' :: _ => .help
      | '-' :: 'V' :: _ => .version
      | '-' :: _ :: _ => .unknown
      | _ => .other

namespace ArgumentRules

/-- The option with a name. -/
def spec? (rules : ArgumentRules) (name : String) : Option OptionSpec :=
  rules.specs.find? (·.name == name)

/-- Arguments with one more value of an option, if it may be given. -/
def addOption (rules : ArgumentRules) (args : Arguments) (name value : String) :
    Except ArgumentStop Arguments :=
  match rules.spec? name with
  | none => .error .misuse
  | some spec =>
    if spec.accepts value && (spec.repeatable || (args.values name).isEmpty) then
      .ok { args with options := args.options ++ [(name, value)] }
    else .error .misuse

/-- Arguments with one more that belongs to no option, if there may be one. -/
def addOther (rules : ArgumentRules) (args : Arguments) (arg : String) :
    Except ArgumentStop Arguments :=
  if args.others.length < rules.maxOthers then .ok { args with others := args.others ++ [arg] }
  else .error .misuse

/-- Takes arguments apart up to the first that belongs to no option when
`stopAtOther` is set, and otherwise to the end; what is left is handed back. -/
def scan (rules : ArgumentRules) (stopAtOther : Bool) :
    Arguments → List String → Except ArgumentStop (Arguments × List String)
  | args, [] => .ok (args, [])
  | args, arg :: rest =>
    match ArgumentKind.of arg with
    | .separator =>
      (rest.foldlM (rules.addOther · ·) args).map (·, [])
    | .help => .error .help
    | .version => .error (if rules.hasVersion then .version else .misuse)
    | .unknown => .error .misuse
    | .option name (some value) =>
      match rules.addOption args name value with
      | .error stop => .error stop
      | .ok args => rules.scan stopAtOther args rest
    | .option name none =>
      match rest with
      | value :: rest =>
        if looksLikeOption value || (rules.spec? name).isNone then .error .misuse
        else
          match rules.addOption args name value with
          | .error stop => .error stop
          | .ok args => rules.scan stopAtOther args rest
      | [] => .error .misuse
    | .other =>
      if stopAtOther then .ok (args, arg :: rest)
      else
        match rules.addOther args arg with
        | .error stop => .error stop
        | .ok args => rules.scan stopAtOther args rest

end ArgumentRules

end StarFreight
