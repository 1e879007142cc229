import StarFreight.Json.Field
import StarFreight.Security.Policy
/-!
# Security — policy documents

A policy as operators write it: zones are given by names. A document is read
from JSON (`PolicyDocument.ofJson?`) and written back whole
(`PolicyDocument.toJson`). A record of it may be an object, whose unknown keys
are passed over, or an array of the record's fields in order; what a record
leaves out takes that record's own default.
-/

namespace StarFreight

/-- The members of one special zone, by name. -/
structure ZoneDocument where
  enabled : Bool := false
  systemNames : List String := []
  regionNames : List String := []
deriving DecidableEq, Repr

/-- The three special zones, by name. -/
structure ZonesDocument where
  pochven : ZoneDocument := { enabled := true, regionNames := ["Pochven"] }
  zarzakh : ZoneDocument := { enabled := true, systemNames := ["Zarzakh"] }
  thera : ZoneDocument := { enabled := true, systemNames := ["Thera"] }
deriving DecidableEq, Repr

/-- A security policy whose zones are given by names. -/
structure PolicyDocument where
  thresholds : Thresholds := {}
  zones : ZonesDocument := {}
  classes : ClassRules := {}
deriving DecidableEq

/-- The zones of a document in the order in which they decide. -/
def ZonesDocument.toList (zones : ZonesDocument) : List (SecurityClass × ZoneDocument) :=
  [(.pochven, zones.pochven), (.zarzakh, zones.zarzakh), (.thera, zones.thera)]

namespace Thresholds

/-- Thresholds read from a document. -/
def ofJson? (doc : Json) : Option Thresholds := do
  let [highsec, lowsec] ← doc.fields? ["highsec_min", "lowsec_min"] | none
  let base : Thresholds := {}
  let highsecMin ← Json.fieldOr Json.toFloat? base.highsecMin highsec
  let lowsecMin ← Json.fieldOr Json.toFloat? base.lowsecMin lowsec
  return { highsecMin, lowsecMin }

/-- Thresholds as a document. -/
def toJson (t : Thresholds) : Json :=
  .object [("highsec_min", .ofFloat t.highsecMin), ("lowsec_min", .ofFloat t.lowsecMin)]

end Thresholds

namespace ZoneDocument

/-- A zone read from a document. -/
def ofJson? (doc : Json) : Option ZoneDocument := do
  let [enabled, systems, regions] ← doc.fields? ["enabled", "system_names", "region_names"] | none
  let base : ZoneDocument := {}
  let enabled ← Json.fieldOr Json.toBool? base.enabled enabled
  let systemNames ← Json.fieldOr Json.toTexts? base.systemNames systems
  let regionNames ← Json.fieldOr Json.toTexts? base.regionNames regions
  return { enabled, systemNames, regionNames }

/-- A zone as a document. -/
def toJson (zone : ZoneDocument) : Json :=
  .object
    [ ("enabled", .bool zone.enabled)
    , ("system_names", .array (zone.systemNames.map .string))
    , ("region_names", .array (zone.regionNames.map .string)) ]

end ZoneDocument

namespace ZonesDocument

/-- The zones read from a document. -/
def ofJson? (doc : Json) : Option ZonesDocument := do
  let [pochven, zarzakh, thera] ← doc.fields? ["pochven", "zarzakh", "thera"] | none
  let base : ZonesDocument := {}
  let pochven ← Json.fieldOr ZoneDocument.ofJson? base.pochven pochven
  let zarzakh ← Json.fieldOr ZoneDocument.ofJson? base.zarzakh zarzakh
  let thera ← Json.fieldOr ZoneDocument.ofJson? base.thera thera
  return { pochven, zarzakh, thera }

/-- The zones as a document. -/
def toJson (zones : ZonesDocument) : Json :=
  .object
    [ ("pochven", zones.pochven.toJson)
    , ("zarzakh", zones.zarzakh.toJson)
    , ("thera", zones.thera.toJson) ]

end ZonesDocument

namespace ClassRule

/-- A class's rule read from a document; what it leaves out is allowed. -/
def ofJson? (doc : Json) : Option ClassRule := do
  let [enabled, pickup, delivery, acknowledgement] ←
    doc.fields? ["enabled", "allow_pickup", "allow_delivery", "requires_acknowledgement"] | none
  let base : ClassRule := {}
  let enabled ← Json.fieldOr Json.toBool? base.enabled enabled
  let allowPickup ← Json.fieldOr Json.toBool? base.allowPickup pickup
  let allowDelivery ← Json.fieldOr Json.toBool? base.allowDelivery delivery
  let requiresAcknowledgement ←
    Json.fieldOr Json.toBool? base.requiresAcknowledgement acknowledgement
  return { enabled, allowPickup, allowDelivery, requiresAcknowledgement }

/-- A class's rule as a document. -/
def toJson (rule : ClassRule) : Json :=
  .object
    [ ("enabled", .bool rule.enabled)
    , ("allow_pickup", .bool rule.allowPickup)
    , ("allow_delivery", .bool rule.allowDelivery)
    , ("requires_acknowledgement", .bool rule.requiresAcknowledgement) ]

end ClassRule

namespace ClassRules

/-- The rules of all classes read from a document. -/
def ofJson? (doc : Json) : Option ClassRules := do
  let [highsec, lowsec, nullsec, pochven, zarzakh, thera] ←
    doc.fields? (SecurityClass.all.map (·.label)) | none
  let base : ClassRules := {}
  let highsec ← Json.fieldOr ClassRule.ofJson? base.highsec highsec
  let lowsec ← Json.fieldOr ClassRule.ofJson? base.lowsec lowsec
  let nullsec ← Json.fieldOr ClassRule.ofJson? base.nullsec nullsec
  let pochven ← Json.fieldOr ClassRule.ofJson? base.pochven pochven
  let zarzakh ← Json.fieldOr ClassRule.ofJson? base.zarzakh zarzakh
  let thera ← Json.fieldOr ClassRule.ofJson? base.thera thera
  return { highsec, lowsec, nullsec, pochven, zarzakh, thera }

/-- The rules of all classes as a document. -/
def toJson (rules : ClassRules) : Json :=
  .object (SecurityClass.all.map fun c => (c.label, (rules.get c).toJson))

end ClassRules

namespace PolicyDocument

/-- A policy read from a document. -/
def ofJson? (doc : Json) : Option PolicyDocument := do
  let [thresholds, zones, classes] ← doc.fields? ["thresholds", "zones", "classes"] | none
  let base : PolicyDocument := {}
  let thresholds ← Json.fieldOr Thresholds.ofJson? base.thresholds thresholds
  let zones ← Json.fieldOr ZonesDocument.ofJson? base.zones zones
  let classes ← Json.fieldOr ClassRules.ofJson? base.classes classes
  return { thresholds, zones, classes }

/-- A policy as a document. -/
def toJson (policy : PolicyDocument) : Json :=
  .object
    [ ("thresholds", policy.thresholds.toJson)
    , ("zones", policy.zones.toJson)
    , ("classes", policy.classes.toJson) ]

end PolicyDocument

end StarFreight
