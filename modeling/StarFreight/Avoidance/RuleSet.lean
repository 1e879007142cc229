import StarFreight.Avoidance.Rule
import Std.Data.TreeMap
/-!
# Avoidance — rule sets

Rules sorted into buckets by what they are about, hard and soft apart, so that
the rules on a system or a connection are found without looking at the others.
In a bucket, rules keep the order in which they were given. Hard rules answer
`hardBlock?` and `blocksLink`; soft rules answer `softHits` and `penalty`.
-/

namespace StarFreight

/-- Rules in buckets by target. -/
structure RuleIndex where
  systems : Std.TreeMap SystemId (List AvoidRule) := {}
  constellations : Std.TreeMap ConstellationId (List AvoidRule) := {}
  regions : Std.TreeMap RegionId (List AvoidRule) := {}
  /-- The rules on each connection, by its ends. -/
  edges : Std.TreeMap SystemId (Std.TreeMap SystemId (List AvoidRule)) := {}
  size : Nat := 0

/-- Puts a rule in front of a bucket. -/
def consBucket (buckets : Std.TreeMap Int (List AvoidRule)) (key : Int) (rule : AvoidRule) :
    Std.TreeMap Int (List AvoidRule) :=
  buckets.insert key (rule :: buckets.getD key [])

namespace RuleIndex

/-- Puts a rule in front of the bucket of its target. -/
def cons (rule : AvoidRule) (index : RuleIndex) : RuleIndex :=
  let index := { index with size := index.size + 1 }
  match rule.scope with
  | .system id => { index with systems := consBucket index.systems id rule }
  | .constellation id => { index with constellations := consBucket index.constellations id rule }
  | .region id => { index with regions := consBucket index.regions id rule }
  | .edge link =>
    { index with
      edges := index.edges.insert link.low
        (consBucket (index.edges.getD link.low {}) link.high rule) }

/-- The index of a list of rules. -/
def ofList (rules : List AvoidRule) : RuleIndex :=
  rules.foldr cons {}

/-- The rules on a system: its own, then its constellation's, then its
region's. -/
def forSystem (index : RuleIndex) (s : StarSystem) : List AvoidRule :=
  index.systems.getD s.id [] ++ index.constellations.getD s.constellation []
    ++ index.regions.getD s.region []

/-- The rules on the connection between two systems. -/
def forLink (index : RuleIndex) (a b : SystemId) : List AvoidRule :=
  let link := Link.between a b
  (index.edges.getD link.low {}).getD link.high []

end RuleIndex

/-- The numbers whose buckets hold a rule that applies to passing through. -/
def transitTargets (buckets : Std.TreeMap Int (List AvoidRule)) : List Int :=
  (buckets.toList.filter fun bucket => bucket.2.any (·.applies.transit)).map (·.1)

/-- Avoidance rules, hard and soft apart. -/
structure RuleSet where
  /-- The rules that forbid. -/
  hard : RuleIndex := {}
  /-- The rules that discourage. -/
  soft : RuleIndex := {}

namespace RuleSet

/-- The rule set of a list of rules. -/
def ofList (rules : List AvoidRule) : RuleSet where
  hard := .ofList (rules.filter (·.hard))
  soft := .ofList (rules.filter (!·.hard))

/-- How many rules forbid. -/
def hardCount (rules : RuleSet) : Nat :=
  rules.hard.size

/-- How many rules discourage. -/
def softCount (rules : RuleSet) : Nat :=
  rules.soft.size

/-- The first hard rule that forbids a system in a phase. -/
def hardBlock? (rules : RuleSet) (s : StarSystem) (phase : Phase) : Option AvoidRule :=
  (rules.hard.forSystem s).find? (·.applies.applies phase)

/-- Whether a hard rule forbids a system in a phase. -/
def blocks (rules : RuleSet) (s : StarSystem) (phase : Phase) : Bool :=
  (rules.hardBlock? s phase).isSome

/-- Whether a hard rule forbids the connection between two systems in a
phase. -/
def blocksLink (rules : RuleSet) (a b : SystemId) (phase : Phase) : Bool :=
  (rules.hard.forLink a b).any (·.applies.applies phase)

/-- The soft rules crossed by moving into a system in a phase: those on the
system and its groups, then those on the connection. -/
def softHits (rules : RuleSet) (source : SystemId) (target : StarSystem) (phase : Phase) :
    List AvoidRule :=
  (rules.soft.forSystem target ++ rules.soft.forLink source target.id).filter
    (·.applies.applies phase)

/-- What the soft rules crossed by a step add to its cost. -/
def penalty (rules : RuleSet) (source : SystemId) (target : StarSystem) (phase : Phase) : Nat :=
  ((rules.softHits source target phase).map (·.penalty)).foldr (· + ·) 0

/-- The same rules without the hard ones. -/
def withoutHard (rules : RuleSet) : RuleSet :=
  { soft := rules.soft }

end RuleSet

end StarFreight
