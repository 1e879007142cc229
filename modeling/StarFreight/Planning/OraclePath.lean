import StarFreight.Planning.Failure
import StarFreight.Search.Step
import StarFreight.Store.Systems
/-!
# Planning — paths from an oracle

A path that an oracle gives is held against the rules and the policy that a
search obeys. It runs between the ends asked for, never stays where it is,
visits known systems only, and enters none that the policy or a hard rule
keeps it from in its phase; and when the profile is the safest or both ends
are in high security, it never leaves high security.
-/

namespace StarFreight

/-- The phase of the `index`-th of the systems on a path whose last index is
`last`. -/
def pathPhase (index last : Nat) : Phase :=
  if index = 0 then .pickup else if index = last then .delivery else .transit

/-- What a path is held against. -/
structure PathJudge where
  /-- The tables, for systems that the graph lacks. -/
  database : Database
  context : SearchContext

namespace PathJudge

/-- The systems of a path, each of which somebody has to know. -/
def systemsOf (judge : PathJudge) (path : List SystemId) : Except FailureCause (List StarSystem) :=
  path.mapM fun id => do
    match ← (judge.database.knownSystem? judge.context.snapshot id).mapError .store with
    | some s => return s
    | none => throw (.rejected (.unknownSystem id))

/-- Whether a system is in high security. -/
def inHighSec (judge : PathJudge) (s : StarSystem) : Bool :=
  judge.context.policy.classify s == .highsec

/-- Whether a path between two systems may not leave high security. -/
def needsHighSec (judge : PathJudge) (first last : StarSystem) : Bool :=
  judge.context.profile == .safest || (judge.inHighSec first && judge.inHighSec last)

/-- What is wrong with entering a system in a phase, from another system if it
is not the first. -/
def stepFault? (judge : PathJudge) (needHighSec : Bool) (source : Option StarSystem)
    (s : StarSystem) (phase : Phase) : Option Rejection :=
  if !judge.context.policy.allows s phase then
    some (.refused s.name (judge.context.policy.classify s) phase)
  else if needHighSec && !judge.inHighSec s then some (.leavesHighSec s.name)
  else
    match judge.context.rules.hardBlock? s phase with
    | some rule => some (.blocked s.name phase rule.id)
    | none =>
      match source with
      | none => none
      | some before =>
        if judge.context.rules.blocksLink before.id s.id phase then
          some (.blockedLink before.name s.name)
        else none

/-- The first fault of the systems of a path from position `index` on. -/
def firstFault? (judge : PathJudge) (needHighSec : Bool) (last : Nat) :
    Nat → Option StarSystem → List StarSystem → Option Rejection
  | _, _, [] => none
  | index, source, s :: rest =>
    match judge.stepFault? needHighSec source s (pathPhase index last) with
    | some fault => some fault
    | none => judge.firstFault? needHighSec last (index + 1) (some s) rest

/-- Whether a path stays where it is for a step. -/
def staysPut : List SystemId → Bool
  | a :: b :: rest => a == b || staysPut (b :: rest)
  | _ => false

/-- The systems of a path that is permitted between two ends. -/
def validate (judge : PathJudge) (origin destination : SystemId) (path : List SystemId) :
    Except FailureCause (List StarSystem) :=
  match path.head?, path.getLast? with
  | some first, some last =>
    if first ≠ origin ∨ last ≠ destination then
      .error (.rejected (.wrongEnds first last origin destination))
    else if staysPut path then .error (.rejected .repeats)
    else do
      let systems ← judge.systemsOf path
      match systems.head?, systems.getLast? with
      | some a, some b =>
        match judge.firstFault? (judge.needsHighSec a b) (systems.length - 1) 0 none systems with
        | some fault => throw (.rejected fault)
        | none => return systems
      | _, _ => return systems
  | _, _ => .error (.oracle .emptyPath)

end PathJudge

end StarFreight
