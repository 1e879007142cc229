import StarFreight.Avoidance.RuleSet
import StarFreight.Store.Settings
import StarFreight.Store.Systems
/-!
# Store — policies and rules

The security policy and the avoidance rules as they stand in the tables: names
of zones become numbers, rows of rules become rules. Rows that are not active
or make no sense have no say, and without a table of rules there are none.
-/

namespace StarFreight

/-- The columns of a rule. -/
def ruleColumns : List String :=
  [ "id", "scope_type", "id_a", "id_b", "severity", "hard_block"
  , "apply_pickup", "apply_delivery", "apply_transit", "reason" ]

/-- The rule row that a record of its columns holds. -/
def Record.ruleRow (record : Record) : Except StoreError RuleRow := do
  let id ← record.integer 0
  let scopeType ← record.text 1
  let idA ← record.optional Record.integer 2
  let idB ← record.optional Record.integer 3
  let severity ← record.optional Record.integer 4
  let hard ← record.optional Record.truth 5
  let pickup ← record.optional Record.truth 6
  let delivery ← record.optional Record.truth 7
  let transit ← record.optional Record.truth 8
  let reason ← record.optional Record.text 9
  return {
    id, scopeType, idA, idB, severity, hard := hard.getD false
    pickup, delivery, transit, reason }

namespace Database

/-- The rows of rules that are active, by number. -/
def activeRuleRows (db : Database) : Except StoreError (List RuleRow) :=
  match db.avoidRules with
  | none => .ok []
  | some _ => do
    let records ← db.select
      { source := .avoidRules, columns := ruleColumns
        conditions := [.isInteger "active" 1], order := ["id"] }
    records.mapM Record.ruleRow

/-- The avoidance rules in force. -/
def rules (db : Database) : Except StoreError RuleSet := do
  let rows ← db.activeRuleRows
  return RuleSet.ofList (rows.filterMap RuleRow.toRule?)

/-- A zone with its names made numbers. -/
def resolveZone (db : Database) (category : SecurityClass) (zone : ZoneDocument) :
    Except StoreError Zone := do
  let systems ← db.systemIdsByNames zone.systemNames
  let regions ← db.regionIdsByNames zone.regionNames
  return { category, systems, regions }

/-- A policy with the names of its zones made numbers; a zone that is not
enabled is none. -/
def resolvePolicy (db : Database) (doc : PolicyDocument) : Except StoreError Policy := do
  let zones ← (doc.zones.toList.filter fun (_, zone) => zone.enabled).mapM
    fun (category, zone) => db.resolveZone category zone
  return { thresholds := doc.thresholds, zones, rules := doc.classes }

/-- The security policy in force. -/
def policy (db : Database) : Except StoreError Policy := do
  db.resolvePolicy (← db.policyDocument)

/-- The systems that hard rules keep cargo from passing through: those named,
and those of the constellations and regions named, in either table. -/
def hardAvoidSystems (db : Database) (rules : RuleSet) : Except StoreError (List SystemId) := do
  let own := transitTargets rules.hard.systems
  let inConstellations ← db.systemIdsInGroups "constellation_id"
    (transitTargets rules.hard.constellations)
  let inRegions ← db.systemIdsInGroups "region_id" (transitTargets rules.hard.regions)
  return ascending (own ++ inConstellations ++ inRegions)

end Database

end StarFreight
