import StarFreight.Json.Reader
import StarFreight.Proofs.Store.Result
import StarFreight.Security.PolicyDocument
/-!
# Security — policies given in part

A document may leave out any field of a policy and any record of it. What is
left out takes a default, and there are two of them: the policy's, and that of
the kind of record the field is in (`PolicyField.default`, `PolicyField.own`).
A record that is not given is the policy's by default; one that is given in
part is filled from its kind (`Fills`). The two differ in special zones and in
the rules of their classes (`keys_of_own_ne`), so a document that gives such a
record in part changes what it does not mention (`keeps_iff`).

Reading is told once for each kind of record, as what it gives of every field
(`Json.Reads`), and a way through the records once for all (`fieldOr_bind`).
-/

namespace StarFreight

/-! ## What a record gives -/

namespace Json

variable {α β : Type} {names : List String} {key : String} {members : List (String × Json)}

/-- What a record of the given fields gives for one of them, by key or by position. -/
def field? (names : List String) (key : String) (doc : Json) : Option Json :=
  (doc.fields? names).bind fun values => ((names.zip values).lookup key).join

theorem field?_of_fields? {doc : Json} {values : List (Option Json)}
    (h : doc.fields? names = some values) :
    doc.field? names key = ((names.zip values).lookup key).join := by
  rw [field?, h, Option.bind_some]

/-- Looking up what was looked up under each of the names. -/
theorem lookup_zip_map {f : String → Option Json} (h : key ∈ names) :
    (names.zip (names.map f)).lookup key = some (f key) := by
  induction names with
  | nil => cases h
  | cons name names ih =>
    rw [List.map_cons, List.zip_cons_cons, List.lookup_cons]
    cases hkey : key == name with
    | true => rw [beq_iff_eq.mp hkey]
    | false => exact ih ((List.mem_cons.mp h).resolve_left (beq_eq_false_iff_ne.mp hkey))

/-- An object gives for a field what stands under its key. -/
theorem field?_object (hnames : ((object members).fields? names).isSome = true) (h : key ∈ names) :
    (object members).field? names key = members.lookup key := by
  obtain ⟨values, hvalues⟩ := Option.isSome_iff_exists.mp hnames
  rw [field?_of_fields? hvalues]
  rw [fields?, Option.ite_none_right_eq_some] at hvalues
  obtain ⟨-, hvalues⟩ := hvalues
  obtain rfl := Option.some.inj hvalues
  rw [lookup_zip_map h, Option.join_some]

/-- What stands in a document at the end of a way through its records: of each the
fields, and the one to follow. -/
def at? (doc : Json) : List (List String × String) → Option Json
  | [] => some doc
  | (names, key) :: rest => (doc.field? names key).bind (·.at? rest)

theorem at?_singleton (doc : Json) (names : List String) (key : String) :
    doc.at? [(names, key)] = doc.field? names key :=
  Option.bind_fun_some _

theorem at?_pair (doc : Json) (names inner : List String) (key part : String) :
    doc.at? [(names, key), (inner, part)] = (doc.field? names key).bind (·.field? inner part) := by
  simp only [at?, Option.bind_fun_some]

/-- A value is what a record gives for a field, or the default where it gives nothing. -/
def Reads (doc : Json) (names : List String) (key : String) (read : Json → Option α)
    (default value : α) : Prop :=
  fieldOr read default (doc.field? names key) = some value

/-- **A part of a record is read from the part of what gives it**, if both have the same
default. -/
theorem fieldOr_bind {read : Json → Option α} {readPart : Json → Option β} {default value : α}
    (part : α → β) {given : Option Json}
    (hpart : ∀ doc a, read doc = some a → doc.Reads names key readPart (part default) (part a))
    (h : fieldOr read default given = some value) :
    fieldOr readPart (part default) (given.bind (·.field? names key)) = some (part value) := by
  cases given with
  | none =>
    obtain rfl := Option.some.inj h
    rfl
  | some doc => exact hpart doc value h

end Json

/-! ## The records of a policy -/

section Records

variable {doc : Json}

namespace Thresholds

/-- The fields of a record of thresholds. -/
def names : List String := ["highsec_min", "lowsec_min"]

/-- Thresholds that are read are the record's, field by field. -/
theorem reads_of_ofJson? {t : Thresholds} (h : ofJson? doc = some t) :
    doc.Reads names "highsec_min" Json.toFloat? ({} : Thresholds).highsecMin t.highsecMin ∧
      doc.Reads names "lowsec_min" Json.toFloat? ({} : Thresholds).lowsecMin t.lowsecMin := by
  obtain ⟨values, hvalues, h⟩ := Option.bind_eq_some_iff.mp h
  split at h
  · simp only [Option.bind_eq_bind, Option.bind_eq_some_iff, Option.pure_def] at h
    obtain ⟨highsec, hhighsec, lowsec, hlowsec, h⟩ := h
    obtain rfl := Option.some.inj h
    simp only [Json.Reads, names, Json.field?_of_fields? hvalues]
    exact ⟨hhighsec, hlowsec⟩
  · cases h

end Thresholds

namespace ZoneDocument

/-- The fields of a record of a zone. -/
def names : List String := ["enabled", "system_names", "region_names"]

/-- A zone that is read is the record's, field by field. -/
theorem reads_of_ofJson? {zone : ZoneDocument} (h : ofJson? doc = some zone) :
    doc.Reads names "enabled" Json.toBool? ({} : ZoneDocument).enabled zone.enabled ∧
      doc.Reads names "system_names" Json.toTexts? ({} : ZoneDocument).systemNames
        zone.systemNames ∧
      doc.Reads names "region_names" Json.toTexts? ({} : ZoneDocument).regionNames
        zone.regionNames := by
  obtain ⟨values, hvalues, h⟩ := Option.bind_eq_some_iff.mp h
  split at h
  · simp only [Option.bind_eq_bind, Option.bind_eq_some_iff, Option.pure_def] at h
    obtain ⟨enabled, henabled, systems, hsystems, regions, hregions, h⟩ := h
    obtain rfl := Option.some.inj h
    simp only [Json.Reads, names, Json.field?_of_fields? hvalues]
    exact ⟨henabled, hsystems, hregions⟩
  · cases h

end ZoneDocument

namespace ZonesDocument

/-- The fields of a record of all zones. -/
def names : List String := ["pochven", "zarzakh", "thera"]

/-- Zones that are read are the record's, one by one. -/
theorem reads_of_ofJson? {zones : ZonesDocument} (h : ofJson? doc = some zones) :
    doc.Reads names "pochven" ZoneDocument.ofJson? ({} : ZonesDocument).pochven zones.pochven ∧
      doc.Reads names "zarzakh" ZoneDocument.ofJson? ({} : ZonesDocument).zarzakh zones.zarzakh ∧
      doc.Reads names "thera" ZoneDocument.ofJson? ({} : ZonesDocument).thera zones.thera := by
  obtain ⟨values, hvalues, h⟩ := Option.bind_eq_some_iff.mp h
  split at h
  · simp only [Option.bind_eq_bind, Option.bind_eq_some_iff, Option.pure_def] at h
    obtain ⟨pochven, hpochven, zarzakh, hzarzakh, thera, hthera, h⟩ := h
    obtain rfl := Option.some.inj h
    simp only [Json.Reads, names, Json.field?_of_fields? hvalues]
    exact ⟨hpochven, hzarzakh, hthera⟩
  · cases h

end ZonesDocument

namespace ClassRule

/-- The fields of a record of a class's rule. -/
def names : List String := ["enabled", "allow_pickup", "allow_delivery", "requires_acknowledgement"]

/-- A rule that is read is the record's, field by field. -/
theorem reads_of_ofJson? {rule : ClassRule} (h : ofJson? doc = some rule) :
    doc.Reads names "enabled" Json.toBool? ({} : ClassRule).enabled rule.enabled ∧
      doc.Reads names "allow_pickup" Json.toBool? ({} : ClassRule).allowPickup rule.allowPickup ∧
      doc.Reads names "allow_delivery" Json.toBool? ({} : ClassRule).allowDelivery
        rule.allowDelivery ∧
      doc.Reads names "requires_acknowledgement" Json.toBool?
        ({} : ClassRule).requiresAcknowledgement rule.requiresAcknowledgement := by
  obtain ⟨values, hvalues, h⟩ := Option.bind_eq_some_iff.mp h
  split at h
  · simp only [Option.bind_eq_bind, Option.bind_eq_some_iff, Option.pure_def] at h
    obtain ⟨enabled, henabled, pickup, hpickup, delivery, hdelivery, acknowledged, hacknowledged,
      h⟩ := h
    obtain rfl := Option.some.inj h
    simp only [Json.Reads, names, Json.field?_of_fields? hvalues]
    exact ⟨henabled, hpickup, hdelivery, hacknowledged⟩
  · cases h

end ClassRule

namespace ClassRules

/-- The fields of a record of all rules. -/
def names : List String := SecurityClass.all.map (·.label)

/-- Rules that are read are the record's, class by class. -/
theorem reads_of_ofJson? {rules : ClassRules} (h : ofJson? doc = some rules) (c : SecurityClass) :
    doc.Reads names c.label ClassRule.ofJson? (({} : ClassRules).get c) (rules.get c) := by
  obtain ⟨values, hvalues, h⟩ := Option.bind_eq_some_iff.mp h
  split at h
  · simp only [Option.bind_eq_bind, Option.bind_eq_some_iff, Option.pure_def] at h
    obtain ⟨highsec, hhighsec, lowsec, hlowsec, nullsec, hnullsec, pochven, hpochven, zarzakh,
      hzarzakh, thera, hthera, h⟩ := h
    obtain rfl := Option.some.inj h
    rw [Json.Reads, names, Json.field?_of_fields? hvalues]
    cases c <;> assumption
  · cases h

end ClassRules

namespace PolicyDocument

/-- The fields of a policy. -/
def names : List String := ["thresholds", "zones", "classes"]

/-- A policy that is read is the document's, section by section. -/
theorem reads_of_ofJson? {policy : PolicyDocument} (h : ofJson? doc = some policy) :
    doc.Reads names "thresholds" Thresholds.ofJson? ({} : PolicyDocument).thresholds
        policy.thresholds ∧
      doc.Reads names "zones" ZonesDocument.ofJson? ({} : PolicyDocument).zones policy.zones ∧
      doc.Reads names "classes" ClassRules.ofJson? ({} : PolicyDocument).classes
        policy.classes := by
  obtain ⟨values, hvalues, h⟩ := Option.bind_eq_some_iff.mp h
  split at h
  · simp only [Option.bind_eq_bind, Option.bind_eq_some_iff, Option.pure_def] at h
    obtain ⟨thresholds, hthresholds, zones, hzones, classes, hclasses, h⟩ := h
    obtain rfl := Option.some.inj h
    simp only [Json.Reads, names, Json.field?_of_fields? hvalues]
    exact ⟨hthresholds, hzones, hclasses⟩
  · cases h

end PolicyDocument

end Records

/-! ## The fields of a policy -/

/-- A field of a policy that holds no further fields. -/
structure PolicyField where
  Value : Type
  [values : DecidableEq Value]
  /-- The way through a document to the record that has it. -/
  record : List (List String × String)
  /-- The fields of that record. -/
  names : List String
  key : String
  read : Json → Option Value
  get : PolicyDocument → Value
  /-- What it is in a record that gives nothing. -/
  own : Value

namespace PolicyField

instance (f : PolicyField) : DecidableEq f.Value :=
  f.values

variable {R Value : Type} [DecidableEq Value]

/-- A field of a record of a policy. -/
def ofRecord (record : List (List String × String)) (part : PolicyDocument → R) (base : R)
    (names : List String) (key : String) (read : Json → Option Value) (get : R → Value) :
    PolicyField where
  Value := Value
  record := record
  names := names
  key := key
  read := read
  get policy := get (part policy)
  own := get base

/-- A field of the thresholds. -/
def ofThresholds (key : String) (get : Thresholds → Float) : PolicyField :=
  .ofRecord [(PolicyDocument.names, "thresholds")] (·.thresholds) {} Thresholds.names key
    Json.toFloat? get

/-- A field of a zone. -/
def ofZone (zone : String) (part : ZonesDocument → ZoneDocument) (key : String)
    (read : Json → Option Value) (get : ZoneDocument → Value) : PolicyField :=
  .ofRecord [(PolicyDocument.names, "zones"), (ZonesDocument.names, zone)]
    (fun policy => part policy.zones) {} ZoneDocument.names key read get

/-- A field of a class's rule. -/
def ofRule (c : SecurityClass) (key : String) (get : ClassRule → Bool) : PolicyField :=
  .ofRecord [(PolicyDocument.names, "classes"), (ClassRules.names, c.label)]
    (fun policy => policy.classes.get c) {} ClassRule.names key Json.toBool? get

/-- The fields of the thresholds. -/
def thresholds : List PolicyField :=
  [.ofThresholds "highsec_min" (·.highsecMin), .ofThresholds "lowsec_min" (·.lowsecMin)]

/-- The fields of a zone. -/
def zone (zone : String) (part : ZonesDocument → ZoneDocument) : List PolicyField :=
  [ .ofZone zone part "enabled" Json.toBool? (·.enabled)
  , .ofZone zone part "system_names" Json.toTexts? (·.systemNames)
  , .ofZone zone part "region_names" Json.toTexts? (·.regionNames) ]

/-- The fields of a class's rule. -/
def rule (c : SecurityClass) : List PolicyField :=
  [ .ofRule c "enabled" (·.enabled)
  , .ofRule c "allow_pickup" (·.allowPickup)
  , .ofRule c "allow_delivery" (·.allowDelivery)
  , .ofRule c "requires_acknowledgement" (·.requiresAcknowledgement) ]

/-- Every field of a policy. -/
def all : List PolicyField :=
  thresholds ++ (zone "pochven" (·.pochven) ++ zone "zarzakh" (·.zarzakh) ++
    zone "thera" (·.thera)) ++ SecurityClass.all.flatMap rule

/-- The keys that lead to a field. -/
def keys (f : PolicyField) : List String :=
  f.record.map (·.2) ++ [f.key]

/-- What a document gives for a field. -/
def given? (f : PolicyField) (doc : Json) : Option Json :=
  (doc.at? f.record).bind (·.field? f.names f.key)

/-- The value that a policy has by default. -/
def default (f : PolicyField) : f.Value :=
  f.get {}

/-- How a policy that was read has come by a field. -/
structure Fills (f : PolicyField) (doc : Json) (policy : PolicyDocument) : Prop where
  /-- What is given is what it has. -/
  given : ∀ value, f.given? doc = some value → f.read value = some (f.get policy)
  /-- What is not given is the policy's default if its record is not given either, and
  otherwise what such a record has by itself. -/
  missing : f.given? doc = none →
    f.get policy = if (doc.at? f.record).isSome then f.own else f.default

variable {doc : Json} {policy : PolicyDocument} {f : PolicyField}

/-- A field is come by in this way if its record is, and it is the record's. -/
theorem fills_ofRecord {record : List (List String × String)} {part : PolicyDocument → R} {base : R}
    {names : List String} {key : String} {read : Json → Option Value} {get : R → Value}
    {readRecord : Json → Option R}
    (hrecord : Json.fieldOr readRecord (part {}) (doc.at? record) = some (part policy))
    (hfield : ∀ inner r, readRecord inner = some r →
      inner.Reads names key read (get base) (get r)) :
    (ofRecord record part base names key read get).Fills doc policy := by
  cases hat : doc.at? record with
  | none =>
    -- the record is the policy's own, and so is every field of it
    rw [hat] at hrecord
    have hpart : part {} = part policy := Option.some.inj hrecord
    refine ⟨fun value hgiven => ?_, fun _ => ?_⟩
    · simp [given?, ofRecord, hat] at hgiven
    · simp [ofRecord, default, hat, hpart]
  | some inner =>
    -- what the record leaves out is its kind's, whatever the policy has there by default
    rw [hat] at hrecord
    have hreads := hfield inner (part policy) hrecord
    have hgiven : (ofRecord record part base names key read get).given? doc =
        inner.field? names key := by
      simp [given?, ofRecord, hat]
    rw [Json.Reads, ← hgiven] at hreads
    refine ⟨fun value hvalue => ?_, fun hnone => ?_⟩
    · rwa [hvalue] at hreads
    · rw [hnone] at hreads
      have hown : get base = get (part policy) := Option.some.inj hreads
      simp [ofRecord, hat, hown]

theorem fills_of_mem_thresholds (h : PolicyDocument.ofJson? doc = some policy)
    (hf : f ∈ thresholds) : f.Fills doc policy := by
  obtain ⟨hthresholds, -, -⟩ := PolicyDocument.reads_of_ofJson? h
  have hrecord : Json.fieldOr Thresholds.ofJson? ({} : PolicyDocument).thresholds
      (doc.at? [(PolicyDocument.names, "thresholds")]) = some policy.thresholds := by
    rw [Json.at?_singleton]
    exact hthresholds
  rcases List.mem_pair.mp hf with rfl | rfl
  · exact fills_ofRecord hrecord fun _ _ hread => (Thresholds.reads_of_ofJson? hread).1
  · exact fills_ofRecord hrecord fun _ _ hread => (Thresholds.reads_of_ofJson? hread).2

/-- The fields of a zone that is read from the record of all zones. -/
theorem fills_of_mem_zone {name : String} {part : ZonesDocument → ZoneDocument}
    (hpart : ∀ inner zones, ZonesDocument.ofJson? inner = some zones →
      inner.Reads ZonesDocument.names name ZoneDocument.ofJson? (part {}) (part zones))
    (h : PolicyDocument.ofJson? doc = some policy) (hf : f ∈ zone name part) :
    f.Fills doc policy := by
  obtain ⟨-, hzones, -⟩ := PolicyDocument.reads_of_ofJson? h
  have hrecord : Json.fieldOr ZoneDocument.ofJson? (part ({} : PolicyDocument).zones)
      (doc.at? [(PolicyDocument.names, "zones"), (ZonesDocument.names, name)]) =
        some (part policy.zones) := by
    rw [Json.at?_pair]
    exact Json.fieldOr_bind part hpart hzones
  simp only [zone, List.mem_cons, List.not_mem_nil, or_false] at hf
  rcases hf with rfl | rfl | rfl
  · exact fills_ofRecord hrecord fun _ _ hread => (ZoneDocument.reads_of_ofJson? hread).1
  · exact fills_ofRecord hrecord fun _ _ hread => (ZoneDocument.reads_of_ofJson? hread).2.1
  · exact fills_ofRecord hrecord fun _ _ hread => (ZoneDocument.reads_of_ofJson? hread).2.2

theorem fills_of_mem_rule {c : SecurityClass} (h : PolicyDocument.ofJson? doc = some policy)
    (hf : f ∈ rule c) : f.Fills doc policy := by
  obtain ⟨-, -, hclasses⟩ := PolicyDocument.reads_of_ofJson? h
  have hrecord : Json.fieldOr ClassRule.ofJson? (({} : PolicyDocument).classes.get c)
      (doc.at? [(PolicyDocument.names, "classes"), (ClassRules.names, c.label)]) =
        some (policy.classes.get c) := by
    have hpart : ∀ inner rules, ClassRules.ofJson? inner = some rules →
        inner.Reads ClassRules.names c.label ClassRule.ofJson? (({} : ClassRules).get c)
          (rules.get c) :=
      fun _ _ hread => ClassRules.reads_of_ofJson? hread c
    rw [Json.at?_pair]
    exact Json.fieldOr_bind (fun rules => rules.get c) hpart hclasses
  simp only [rule, List.mem_cons, List.not_mem_nil, or_false] at hf
  rcases hf with rfl | rfl | rfl | rfl
  · exact fills_ofRecord hrecord fun _ _ hread => (ClassRule.reads_of_ofJson? hread).1
  · exact fills_ofRecord hrecord fun _ _ hread => (ClassRule.reads_of_ofJson? hread).2.1
  · exact fills_ofRecord hrecord fun _ _ hread => (ClassRule.reads_of_ofJson? hread).2.2.1
  · exact fills_ofRecord hrecord fun _ _ hread => (ClassRule.reads_of_ofJson? hread).2.2.2

/-- **Every field of a policy that was read is come by in this way.** -/
theorem fills_of_ofJson? (h : PolicyDocument.ofJson? doc = some policy) (hf : f ∈ all) :
    f.Fills doc policy := by
  simp only [all, List.mem_append, List.mem_flatMap] at hf
  rcases hf with (hf | (hf | hf) | hf) | ⟨c, -, hf⟩
  · exact fills_of_mem_thresholds h hf
  · exact fills_of_mem_zone (fun _ _ hread => (ZonesDocument.reads_of_ofJson? hread).1) h hf
  · exact fills_of_mem_zone (fun _ _ hread => (ZonesDocument.reads_of_ofJson? hread).2.1) h hf
  · exact fills_of_mem_zone (fun _ _ hread => (ZonesDocument.reads_of_ofJson? hread).2.2) h hf
  · exact fills_of_mem_rule h hf

/-- The fields that have another value in a record that gives nothing than in the
policy without a document. -/
theorem keys_of_own_ne : (all.filter fun f => f.own ≠ f.default).map keys =
    [ ["zones", "pochven", "enabled"], ["zones", "pochven", "region_names"]
    , ["zones", "zarzakh", "enabled"], ["zones", "zarzakh", "system_names"]
    , ["zones", "thera", "enabled"], ["zones", "thera", "system_names"]
    , ["classes", "pochven", "requires_acknowledgement"]
    , ["classes", "zarzakh", "allow_pickup"], ["classes", "zarzakh", "allow_delivery"]
    , ["classes", "zarzakh", "requires_acknowledgement"]
    , ["classes", "thera", "enabled"], ["classes", "thera", "allow_pickup"]
    , ["classes", "thera", "allow_delivery"]
    , ["classes", "thera", "requires_acknowledgement"] ] := by
  decide +kernel

/-- How a policy was read from a document that may give it in part. -/
structure Filled (doc : Json) (policy : PolicyDocument) : Prop where
  fills : ∀ f ∈ all, f.Fills doc policy
  /-- Nothing changes but what is given exactly when a record that is given leaves out
  only fields that it has by itself as the policy has them by default. -/
  keeps_iff : (∀ f ∈ all, f.given? doc = none → f.get policy = f.default) ↔
    ∀ f ∈ all, f.own ≠ f.default → (doc.at? f.record).isSome → (f.given? doc).isSome

/-- **What becomes of a policy that a text gives in part**: each field that is given has
the value given, and one that is not has a default, but which one hangs on its record. -/
theorem filled_of_parse? {text : String}
    (h : Json.parse? text >>= PolicyDocument.ofJson? = some policy) :
    ∃ doc, Json.parse? text = some doc ∧ Filled doc policy := by
  obtain ⟨doc, hdoc, hpolicy⟩ := Option.bind_eq_some_iff.mp h
  have hfills : ∀ f ∈ all, f.Fills doc policy := fun f hf => fills_of_ofJson? hpolicy hf
  refine ⟨doc, hdoc, hfills, fun hkeeps f hf hown hrecord => ?_, fun hgiven f hf hnone => ?_⟩
  · rw [Option.isSome_iff_ne_none]
    intro hnone
    have hmissing := (hfills f hf).missing hnone
    rw [if_pos hrecord] at hmissing
    exact hown (hmissing.symm.trans (hkeeps f hf hnone))
  · rw [(hfills f hf).missing hnone, ite_eq_right_iff]
    intro hrecord
    by_contra hown
    simpa [hnone] using hgiven f hf hown hrecord

/-- A text with one threshold and one field of a rule. -/
def nullsecText : String :=
  "\x7b\"thresholds\": \x7b\"highsec_min\": 0.6\x7d, " ++
    "\"classes\": \x7b\"nullsec\": \x7b\"enabled\": false\x7d\x7d\x7d"

/-- The policy that these two make of the default one. -/
def nullsecPolicy : PolicyDocument where
  thresholds := { highsecMin := 0.6 }
  classes := { nullsec := { enabled := false } }

/-- The text changes nothing else. -/
theorem filled_of_parse?_nullsec :
    Json.parse? nullsecText >>= PolicyDocument.ofJson? = some nullsecPolicy ∧
      ∃ doc, Json.parse? nullsecText = some doc ∧ Filled doc nullsecPolicy := by
  have hread : Json.parse? nullsecText >>= PolicyDocument.ofJson? = some nullsecPolicy := by
    decide +kernel
  exact ⟨hread, filled_of_parse? hread⟩

/-- A text with the systems of one zone and one field of its rule. -/
def theraText : String :=
  "\x7b\"zones\": \x7b\"thera\": \x7b\"system_names\": [\"Thera\"]\x7d\x7d, " ++
    "\"classes\": \x7b\"thera\": \x7b\"requires_acknowledgement\": true\x7d\x7d\x7d"

/-- It gives both what they are by default; and yet the zone is disabled and the class
is open, neither of which is said. -/
theorem changes_theraText :
    ∃ (doc : Json) (policy : PolicyDocument), Json.parse? theraText = some doc ∧
      PolicyDocument.ofJson? doc = some policy ∧
      (∃ f ∈ all, f.keys = ["zones", "thera", "enabled"] ∧ f.given? doc = none ∧
        f.get policy ≠ f.default) ∧
      ∃ f ∈ all, f.keys = ["classes", "thera", "enabled"] ∧ f.given? doc = none ∧
        f.get policy ≠ f.default := by
  have hfacts : (Json.parse? theraText >>= fun doc => (PolicyDocument.ofJson? doc).map fun policy =>
      (all.filter fun f => (f.given? doc).isNone ∧ f.get policy ≠ f.default).map keys) =
      some
        [ ["zones", "thera", "enabled"], ["classes", "thera", "enabled"]
        , ["classes", "thera", "allow_pickup"], ["classes", "thera", "allow_delivery"] ] := by
    decide +kernel
  obtain ⟨doc, hdoc, hfacts⟩ := Option.bind_eq_some_iff.mp hfacts
  obtain ⟨policy, hpolicy, hfacts⟩ := Option.map_eq_some_iff.mp hfacts
  have hchanged : ∀ keys ∈ (all.filter fun f =>
        (f.given? doc).isNone ∧ f.get policy ≠ f.default).map PolicyField.keys,
      ∃ f ∈ all, f.keys = keys ∧ f.given? doc = none ∧ f.get policy ≠ f.default := by
    intro keys hkeys
    obtain ⟨f, hf, rfl⟩ := List.mem_map.mp hkeys
    obtain ⟨hf, hchanges⟩ := List.mem_filter.mp hf
    simp only [Option.isNone_iff_eq_none, decide_eq_true_eq] at hchanges
    exact ⟨f, hf, rfl, hchanges⟩
  rw [hfacts] at hchanged
  exact ⟨doc, policy, hdoc, hpolicy, hchanged _ (by decide), hchanged _ (by decide)⟩

end PolicyField

end StarFreight
