import StarFreight.Proofs.Decimal.Leading
import StarFreight.Proofs.Json.Readback
import StarFreight.Security.PolicyDocument
/-!
# Security — policies are read back

A policy is written whole, every field of every record under its key, so that no
default has a say when it is read again. Names and flags are read back as they were,
whatever is in them (`ZoneDocument.ofJson?_toJson`, `ClassRules.ofJson?_toJson`). A
threshold is written as its shortest decimal, and reading decimals rounds more than
once; so a policy is read back exactly when both of its thresholds are
(`PolicyDocument.ofJson?_toJson_iff`).
-/

namespace StarFreight

open Decimal

/-- A shortest decimal is written as documents write numbers. -/
theorem Numeral.standard_ofScaled {s : Scaled} (h : s.coefficient = 0 → s.exponent = 0) :
    (ofScaled s).Standard := by
  have hne : digits s.coefficient ≠ [] := digits_ne_nil _
  have hlength := List.length_pos_of_ne_nil hne
  by_cases hzero : s.coefficient = 0
  · -- zero is written with one digit on either side of the point
    have hexponent := h hzero
    refine ⟨?_, .inl ?_⟩ <;> simp [ofScaled, hzero, hexponent, digits]
  · have hhead := head?_digits_ne_zero hzero
    unfold ofScaled
    dsimp only
    split_ifs with hwhole hpoint hsmall
    · refine ⟨by simp [hne], .inr ?_⟩
      rwa [List.head?_append_of_ne_nil _ hne]
    · -- there is a digit before the point, and the first one is that of the whole
      have hpos : (((digits s.coefficient).length : Int) + s.exponent).toNat ≠ 0 := by omega
      have hfirst : ((digits s.coefficient).take
          (((digits s.coefficient).length : Int) + s.exponent).toNat).head? =
          (digits s.coefficient).head? := by
        rw [List.head?_take, if_neg hpos]
      refine ⟨fun hnil => ?_, .inr (hfirst ▸ hhead)⟩
      rcases List.take_eq_nil_iff.mp hnil with htake | hdigits
      · exact hpos htake
      · exact hne hdigits
    · exact ⟨List.cons_ne_nil _ _, .inl rfl⟩
    · refine ⟨fun hnil => ?_, .inl ?_⟩
      · rcases List.take_eq_nil_iff.mp hnil with htake | hdigits
        · cases htake
        · exact hne hdigits
      · rw [List.length_take]
        omega

namespace Json

/-- A double is written as a number in standard form, or as nothing at all. -/
theorem sound_ofFloat (x : Float) : (ofFloat x).Sound := by
  unfold ofFloat
  split
  · next s hs => exact Numeral.standard_ofScaled (exponent_eq_zero_of_shortest? hs)
  · trivial

theorem soundItems_iff {items : List Json} : SoundItems items ↔ ∀ item ∈ items, item.Sound := by
  induction items with
  | nil => simp [SoundItems]
  | cons item items ih => simp [SoundItems, ih]

theorem soundMembers_iff {members : List (String × Json)} :
    SoundMembers members ↔ ∀ member ∈ members, member.2.Sound := by
  induction members with
  | nil => simp [SoundMembers]
  | cons member members ih => simp [SoundMembers, ih]

/-- A list of texts is sound, whatever the texts are. -/
theorem sound_texts (texts : List String) : (array (texts.map .string)).Sound := by
  refine soundItems_iff.mpr fun item hitem => ?_
  obtain ⟨s, -, rfl⟩ := List.mem_map.mp hitem
  trivial

/-- A list of texts is read back. -/
theorem toTexts?_map_string (texts : List String) :
    toTexts? (array (texts.map .string)) = some texts := by
  rw [toTexts?]
  induction texts with
  | nil => rfl
  | cons s texts ih =>
    rw [List.map_cons, List.mapM_cons, ih]
    rfl

end Json

/-! ## Records -/

/-- A double that is read back from its shortest decimal. -/
def Json.Legible (x : Float) : Prop :=
  (ofFloat x).toFloat? = some x

instance (x : Float) : Decidable (Json.Legible x) :=
  inferInstanceAs (Decidable ((Json.ofFloat x).toFloat? = some x))

namespace ZoneDocument

theorem sound_toJson (zone : ZoneDocument) : zone.toJson.Sound := by
  simp only [toJson, Json.Sound, Json.SoundMembers, true_and, and_true]
  exact ⟨Json.sound_texts _, Json.sound_texts _⟩

/-- **A zone is read back**, whatever its names are. -/
theorem ofJson?_toJson (zone : ZoneDocument) : ofJson? zone.toJson = some zone := by
  have hfields : zone.toJson.fields? ["enabled", "system_names", "region_names"] =
      some [ some (.bool zone.enabled), some (.array (zone.systemNames.map .string))
           , some (.array (zone.regionNames.map .string)) ] := by
    rfl
  simp only [ofJson?, hfields, Json.fieldOr, Json.toBool?, Json.toTexts?_map_string,
    Option.bind_eq_bind, Option.bind_some]
  rfl

end ZoneDocument

namespace ZonesDocument

theorem sound_toJson (zones : ZonesDocument) : zones.toJson.Sound := by
  simp only [toJson, Json.Sound, Json.SoundMembers, and_true]
  exact ⟨zones.pochven.sound_toJson, zones.zarzakh.sound_toJson, zones.thera.sound_toJson⟩

theorem ofJson?_toJson (zones : ZonesDocument) : ofJson? zones.toJson = some zones := by
  have hfields : zones.toJson.fields? ["pochven", "zarzakh", "thera"] =
      some [some zones.pochven.toJson, some zones.zarzakh.toJson, some zones.thera.toJson] := by
    rfl
  simp only [ofJson?, hfields, Json.fieldOr, ZoneDocument.ofJson?_toJson, Option.bind_eq_bind,
    Option.bind_some]
  rfl

end ZonesDocument

namespace ClassRule

theorem sound_toJson (rule : ClassRule) : rule.toJson.Sound := by
  simp only [toJson, Json.Sound, Json.SoundMembers, and_self]

theorem ofJson?_toJson (rule : ClassRule) : ofJson? rule.toJson = some rule := by
  have hfields : rule.toJson.fields?
      ["enabled", "allow_pickup", "allow_delivery", "requires_acknowledgement"] =
      some [ some (.bool rule.enabled), some (.bool rule.allowPickup)
           , some (.bool rule.allowDelivery), some (.bool rule.requiresAcknowledgement) ] := by
    rfl
  simp only [ofJson?, hfields, Json.fieldOr, Json.toBool?, Option.bind_eq_bind, Option.bind_some]
  rfl

end ClassRule

namespace ClassRules

theorem sound_toJson (rules : ClassRules) : rules.toJson.Sound := by
  refine Json.soundMembers_iff.mpr fun member hmember => ?_
  obtain ⟨c, -, rfl⟩ := List.mem_map.mp hmember
  exact (rules.get c).sound_toJson

/-- **The rules of all classes are read back.** -/
theorem ofJson?_toJson (rules : ClassRules) : ofJson? rules.toJson = some rules := by
  have hfields : rules.toJson.fields? (SecurityClass.all.map (·.label)) =
      some (SecurityClass.all.map fun c => some (rules.get c).toJson) := by
    rfl
  rw [ofJson?, hfields]
  simp only [SecurityClass.all, List.map_cons, List.map_nil, Json.fieldOr,
    ClassRule.ofJson?_toJson, Option.bind_eq_bind, Option.bind_some]
  rfl

end ClassRules

namespace Thresholds

/-- Thresholds that are both read back. -/
def Legible (t : Thresholds) : Prop :=
  Json.Legible t.highsecMin ∧ Json.Legible t.lowsecMin

instance (t : Thresholds) : Decidable t.Legible :=
  inferInstanceAs (Decidable (Json.Legible t.highsecMin ∧ Json.Legible t.lowsecMin))

theorem sound_toJson (t : Thresholds) : t.toJson.Sound := by
  simp only [toJson, Json.Sound, Json.SoundMembers, and_true]
  exact ⟨Json.sound_ofFloat _, Json.sound_ofFloat _⟩

/-- **Thresholds are read back exactly when each of them is.** -/
theorem ofJson?_toJson_iff (t : Thresholds) : ofJson? t.toJson = some t ↔ t.Legible := by
  have hfields : t.toJson.fields? ["highsec_min", "lowsec_min"] =
      some [some (.ofFloat t.highsecMin), some (.ofFloat t.lowsecMin)] := by
    rfl
  simp only [ofJson?, hfields, Json.fieldOr, Option.bind_eq_bind, Option.bind_some]
  rw [Legible, Json.Legible, Json.Legible]
  constructor
  · intro h
    obtain ⟨highsec, hhighsec, h⟩ := Option.bind_eq_some_iff.mp h
    obtain ⟨lowsec, hlowsec, h⟩ := Option.bind_eq_some_iff.mp h
    obtain rfl := Option.some.inj h
    exact ⟨hhighsec, hlowsec⟩
  · rintro ⟨hhighsec, hlowsec⟩
    rw [hhighsec, hlowsec]
    rfl

/-- The thresholds that hold where nothing is said are read back. -/
example : ({} : Thresholds).Legible := by decide +kernel

/-- With sixteen digits a number may be rounded twice, and read as its neighbour. -/
example : ¬ Json.Legible 0.09011293630214721 := by decide +kernel

end Thresholds

namespace PolicyDocument

theorem sound_toJson (d : PolicyDocument) : d.toJson.Sound := by
  simp only [toJson, Json.Sound, Json.SoundMembers, and_true]
  exact ⟨d.thresholds.sound_toJson, d.zones.sound_toJson, d.classes.sound_toJson⟩

/-- **All of a policy is read back but for its thresholds**, which are read as they are
written. -/
theorem ofJson?_toJson (d : PolicyDocument) :
    ofJson? d.toJson =
      (Thresholds.ofJson? d.thresholds.toJson).map fun t => { d with thresholds := t } := by
  have hfields : d.toJson.fields? ["thresholds", "zones", "classes"] =
      some [some d.thresholds.toJson, some d.zones.toJson, some d.classes.toJson] := by
    rfl
  simp only [ofJson?, hfields, Json.fieldOr, ZonesDocument.ofJson?_toJson,
    ClassRules.ofJson?_toJson, Option.bind_eq_bind, Option.bind_some]
  cases Thresholds.ofJson? d.thresholds.toJson <;> rfl

/-- **So a policy is read back exactly when its thresholds are.** -/
theorem ofJson?_toJson_iff (d : PolicyDocument) :
    ofJson? d.toJson = some d ↔ d.thresholds.Legible := by
  rw [ofJson?_toJson, ← Thresholds.ofJson?_toJson_iff, Option.map_eq_some_iff]
  constructor
  · rintro ⟨t, ht, hd⟩
    have hsame : t = d.thresholds := congrArg PolicyDocument.thresholds hd
    rwa [hsame] at ht
  · intro h
    exact ⟨d.thresholds, h, rfl⟩

/-- Its text holds all of a policy. -/
theorem ofJson?_parse?_compact (d : PolicyDocument) :
    Json.parse? d.toJson.compact >>= ofJson? = ofJson? d.toJson := by
  rw [Json.parse?_compact d.sound_toJson]
  rfl

end PolicyDocument

end StarFreight
