import StarFreight.Proofs.Location.Stages
import StarFreight.Proofs.Text.NormalForm
/-!
# Location — spellings

A place is resolved by the normal form of its name. Two spellings with one normal form
are answered alike in all that a program reads (`heard`): the place, or the code of the
failure and the names that may have been meant (`Gazetteer.answersAlike`). Only what a
person reads quotes the spelling. The stages are gone through with the normal form
alone, and whatever looks a name up normalizes it once more, which changes nothing.
-/

namespace StarFreight

variable {α β : Type} {s t : String}

/-- What a program reads of an answer: what was found, or the code of the failure and the
names that may have been meant. -/
def heard (answer : Except FailureCause α) : Except (ReasonCode × List String) α :=
  answer.mapError fun cause => (cause.reason, cause.candidates)

/-- What is heard of two steps follows from what is heard of each. -/
theorem heard_bind {x x' : Except FailureCause α} {f f' : α → Except FailureCause β}
    (hx : heard x = heard x') (hf : ∀ a, heard (f a) = heard (f' a)) :
    heard (x >>= f) = heard (x' >>= f') := by
  cases x with
  | error cause =>
    obtain ⟨cause', rfl, hcause⟩ := mapError_eq_error.mp hx.symm
    exact congrArg Except.error hcause.symm
  | ok a =>
    obtain rfl := mapError_eq_ok.mp hx.symm
    exact hf a

/-- A name that normalizing leaves as it is, whole and in front of a dash, with no blank
too many. -/
structure Text.IsNormal (name : String) : Prop where
  again : normalizeName name = name
  front : ∀ part, before? Gazetteer.separator name = some part →
    normalizeName (trim part) = trim part
  unpadded : Unpadded name.toList

/-- **A normalized name is normal.** -/
theorem Text.isNormal_normalizeName (s : String) : IsNormal (normalizeName s) where
  again := normalizeName_normalizeName s
  front _ := normalizeName_trim_before
  unpadded := by
    rw [normalizeName, String.toList_ofList]
    exact (normalForm_normalizeChars s.toList).spaced.unpadded

namespace Gazetteer

variable {g : Gazetteer}

/-- The first stage answers, or else the stages after it do. -/
theorem firstStage_cons (stage : Unit → Except FailureCause (Option α))
    (stages : List (Unit → Except FailureCause (Option α))) :
    firstStage (stage :: stages) =
      stage () >>= fun found => found.elim (firstStage stages) fun a => .ok (some a) := by
  rw [firstStage]
  rcases stage () with _ | _ | _ <;> rfl

/-- Stages that are heard alike decide alike. -/
theorem heard_firstStage {stages stages' : List (Unit → Except FailureCause (Option α))}
    (h : List.Forall₂ (fun stage stage' => heard (stage ()) = heard (stage' ())) stages stages') :
    heard (firstStage stages) = heard (firstStage stages') := by
  induction h with
  | nil => rfl
  | cons hstage _ ih =>
    rw [firstStage_cons, firstStage_cons]
    refine heard_bind hstage fun found => ?_
    cases found with
    | none => exact ih
    | some a => rfl

/-- What finds mean does not depend on how they were asked for, but for the message. -/
theorem heard_decide? (s t : String) (finds : List NamedId) :
    heard (decide? s finds) = heard (decide? t finds) := by
  rcases finds with _ | ⟨first, _ | ⟨second, finds⟩⟩ <;> rfl

theorem heard_partialSystem (source : TableName) (s t normalized : String) :
    heard (g.partialSystem source s normalized) = heard (g.partialSystem source t normalized) :=
  heard_bind rfl fun finds => heard_decide? s t (finds.take partialLimit)

/-- **The stages of a name are those of its normal form.** -/
theorem heard_stages (s t normalized : String) :
    List.Forall₂ (fun stage stage' => heard (stage ()) = heard (stage' ()))
      (g.stages s normalized) (g.stages t normalized) :=
  .cons rfl <| .cons rfl <| .cons rfl <| .cons (heard_partialSystem _ s t normalized) <|
    .cons (heard_partialSystem _ s t normalized) .nil

theorem suggestions_congr (snapshot : Snapshot) (h : Text.normalizeName s = Text.normalizeName t)
    (limit : Nat) : snapshot.suggestions s limit = snapshot.suggestions t limit := by
  have hscore : textScale.score s = textScale.score t := by
    funext name
    rw [Scale.score, Scale.score, h]
  simp only [Snapshot.suggestions, Snapshot.suggestionsBy, Scale.nearestNames, hscore]

/-- A name that is not blank goes through the stages, and is unknown if none finds it. -/
theorem resolveName_eq (text : String) : g.resolveName text =
    if (Text.normalizeName text).isEmpty then .error .emptyName
    else firstStage (g.stages text (Text.normalizeName text)) >>= fun found =>
      found.elim (.error (.unknownName (Text.trim text)
        (g.snapshot.suggestions text suggestionLimit))) .ok := by
  unfold resolveName
  dsimp only
  split
  · rfl
  · rcases firstStage (g.stages text (Text.normalizeName text)) with _ | _ | _ <;> rfl

theorem heard_resolveName (h : Text.normalizeName s = Text.normalizeName t) :
    heard (g.resolveName s) = heard (g.resolveName t) := by
  rw [resolveName_eq, resolveName_eq, h, suggestions_congr g.snapshot h]
  split
  · rfl
  · refine heard_bind (heard_firstStage (heard_stages s t _)) fun found => ?_
    cases found <;> rfl

/-- What a resolver owes two spellings of one name. -/
structure AnswersAlike (g : Gazetteer) (s t : String) : Prop where
  normal : Text.IsNormal (Text.normalizeName s)
  answer : heard (g.resolve (.name s)) = heard (g.resolve (.name t))
  lookup : g.snapshot.idByName? s = g.snapshot.idByName? (Text.normalizeName s)

/-- **Spellings with one normal form are answered alike.** -/
theorem answersAlike (g : Gazetteer) (h : Text.normalizeName s = Text.normalizeName t) :
    g.AnswersAlike s t where
  normal := Text.isNormal_normalizeName s
  answer := by
    rw [resolve, resolve]
    exact heard_resolveName h
  lookup := congrArg (fun name => g.snapshot.names[name]?)
    (Text.normalizeName_normalizeName s).symm

end Gazetteer

/-- Case and blanks do not matter, and a capital sigma at the end of a word is a final one. -/
theorem Gazetteer.answersAlike_odos :
    Text.normalizeName " ΟΔΟΣ\t— Pier" = Text.normalizeName "οδος — PIER " ∧
      portGazetteer.AnswersAlike " ΟΔΟΣ\t— Pier" "οδος — PIER " := by
  have hform : Text.normalizeName " ΟΔΟΣ\t— Pier" = Text.normalizeName "οδος — PIER " := by
    decide +kernel
  exact ⟨hform, Gazetteer.answersAlike portGazetteer hform⟩

end StarFreight
