import StarFreight.Proofs.Planning.Session
import StarFreight.Proofs.Store.Charting
/-!
# Planning — the lifetime of a cache

One cache of the graph serves any number of planners, while rows change, tables
go missing and come back, and time passes. What an event does to it is told once
(`CacheEvent.Effect`): it lets the snapshot be or forgets it, it fails to load
and changes nothing, or it loads the graph that the tables hold at that moment.
So the state of a cache is told by the loadings that succeeded so far
(`GraphCache.Backed`): their number is its own, and what it holds was read by the
last of them. Nothing is assumed of the tables, nor of how long snapshots are
kept; where they are kept for good, a loading is made when it is asked for or
when there is no snapshot to work with, and for no other reason.
-/

namespace StarFreight

namespace Planner.Action

/-- Whether an action loads the graph in any case. -/
def reloads : Action → Bool
  | .load => true
  | _ => false

/-- Whether an action needs a snapshot to work with. -/
def uses : Action → Bool
  | .plan _ | .resolve _ | .health | .snapshot => true
  | _ => false

end Planner.Action

/-- What can happen to a cache of the graph, and around it. -/
inductive CacheEvent where
  /-- A planner that uses the cache does something. -/
  | act (planner : Planner) (action : Planner.Action)
  /-- The database becomes another, or none, whatever stood in it. -/
  | upset (change : Option Database → Option Database)

namespace CacheEvent

/-- The world after an event. Planners that use one cache ask the same of the graph. -/
def after (settings : GraphSettings) (w : World) : CacheEvent → World
  | .act planner action => ({ planner with graph := settings }.act w action).2
  | .upset change => { w with database := change w.database }

/-- Whether an event loads the graph in any case. -/
def reloads : CacheEvent → Bool
  | .act _ action => action.reloads
  | .upset _ => false

/-- Whether an event needs a snapshot to work with. -/
def uses : CacheEvent → Bool
  | .act _ action => action.uses
  | .upset _ => false

/-- Whether a loading is due: when it is asked for, or when there is no snapshot to
work with that is not too old. -/
def isDue (settings : GraphSettings) (w : World) (event : CacheEvent) : Bool :=
  event.reloads || (event.uses && (w.cache.fresh? settings w.now).isNone)

/-- The tables that an event loads from, if a loading is due and succeeds. -/
def loaded? (settings : GraphSettings) (w : World) (event : CacheEvent) : Option Database :=
  if event.isDue settings w then w.database.filter (·.graph.isOk) else none

/-- The world after events that follow each other. -/
def run (settings : GraphSettings) : List CacheEvent → World → World
  | [], w => w
  | event :: events, w => run settings events (event.after settings w)

/-- The tables of the loadings that succeed in the course of events, each as it stood
then. -/
def loadings (settings : GraphSettings) : List CacheEvent → World → List Database
  | [], _ => []
  | event :: events, w =>
    (event.loaded? settings w).toList ++ loadings settings events (event.after settings w)

end CacheEvent

/-! ## What an event does to a cache -/

namespace GraphCache

/-- The cache after a graph was loaded. -/
def keep (cache : GraphCache) (settings : GraphSettings) (now : Nat) (g : Graph) : GraphCache where
  slot := some
    { snapshot := .ofGraph g settings.demands (cache.generation + 1), loadedAt := now }
  generation := cache.generation + 1

/-- **A loading succeeds with the graph of the tables, or changes nothing.** -/
theorem load_cases (cache : GraphCache) (settings : GraphSettings) (now : Nat)
    (db : Option Database) :
    (∃ database g, db = some database ∧ database.graph = .ok g ∧
      (cache.load settings now db).2 = cache.keep settings now g) ∨
    (db.filter (·.graph.isOk) = none ∧ ∃ e, cache.load settings now db = (.error e, cache)) := by
  cases db with
  | none => exact .inr ⟨rfl, _, rfl⟩
  | some database =>
    unfold load
    simp only [GraphSettings.connect, bind, Except.bind]
    cases hgraph : database.graph with
    | error e => exact .inr ⟨Option.filter_some_neg (by rw [hgraph]; rfl), e, rfl⟩
    | ok g => exact .inl ⟨database, g, rfl, hgraph, rfl⟩

end GraphCache

namespace Planner

variable {planner : Planner} {w : World} {action : Action}

/-- The oracle's part of a plan leaves the cache alone or forgets the snapshot. -/
theorem Asking.cache_cases {oracle : Oracle} {p : Prepared}
    {result : Except Failure Route × World} (h : Asking planner oracle p w result) :
    result.2.cache = w.cache ∨ result.2.cache = w.cache.invalidate := by
  cases h with
  | unasked | unanswered | rejected | unwritten => exact .inl rfl
  | @written call path systems db report _ _ _ hwrite =>
    cases hempty : report.isEmpty with
    | true => exact .inl (by simp [World.backfilled, World.asked, hempty])
    | false => exact .inr (by simp [World.backfilled, World.asked, hempty])

theorem Asking.now_eq {oracle : Oracle} {p : Prepared}
    {result : Except Failure Route × World} (h : Asking planner oracle p w result) :
    result.2.now = w.now := by
  cases h <;> rfl

/-- **What needs a snapshot leaves the cache as that snapshot has left it**, or forgets
the snapshot, which it had then. -/
theorem cache_act_of_uses (planner : Planner) (w : World) (huses : action.uses = true) :
    (planner.act w action).2.cache = (w.cache.snapshot planner.graph w.now w.database).2 ∨
      (∃ found, (w.cache.snapshot planner.graph w.now w.database).1 = .ok found) ∧
        (planner.act w action).2.cache =
          (w.cache.snapshot planner.graph w.now w.database).2.invalidate := by
  cases action with
  | plan request =>
    have hsurvey : (planner.survey w).2.cache =
        (w.cache.snapshot planner.graph w.now w.database).2 := by
      rw [survey_snd]
    rcases planner.planRoute_cases request w with hworld | ⟨oracle, p, -, hprepared, -, hasking⟩
    · exact .inl (by rw [← hsurvey, ← hworld]; rfl)
    · rcases hasking.cache_cases with hcache | hcache
      · exact .inl (hcache.trans hsurvey)
      · obtain ⟨database, snapshot, hseen, -⟩ := prepared_eq_ok hprepared
        refine .inr ⟨⟨snapshot, (survey_eq_ok (Prod.ext hseen rfl)).2⟩, ?_⟩
        rw [← hsurvey]
        exact hcache
  | resolve query => exact .inl (by simp only [act, Prod.map, id, resolve_eq, survey_snd])
  | health | snapshot => exact .inl rfl
  | load | invalidate | edit | wait => cases huses

/-- The clock is moved by waiting alone. -/
theorem now_le_act (planner : Planner) (w : World) (action : Action) :
    w.now ≤ (planner.act w action).2.now := by
  cases action with
  | plan request =>
    rcases planner.planRoute_cases request w with hworld | ⟨oracle, p, -, -, -, hasking⟩
    · exact Nat.le_of_eq ((congrArg World.now hworld).trans now_survey).symm
    · exact Nat.le_of_eq (hasking.now_eq.trans now_survey).symm
  | resolve query => simp only [act, Prod.map, id, resolve_eq, now_survey, Nat.le_refl]
  | wait seconds => exact Nat.le_add_right _ _
  | health | snapshot | load | invalidate | edit => exact Nat.le_refl _

end Planner

namespace CacheEvent

variable {settings : GraphSettings} {w start : World} {event : CacheEvent} {cache : GraphCache}

/-- What an event can do to a cache. -/
inductive Effect (settings : GraphSettings) (w : World) (event : CacheEvent)
    (cache : GraphCache) : Prop
  /-- No loading is due; the snapshot is kept or forgotten. -/
  | idle (hdue : event.isDue settings w = false)
      (hcache : cache = w.cache ∨ cache = w.cache.invalidate)
  /-- A loading is due and fails. -/
  | failed (hdue : event.isDue settings w = true)
      (hunread : w.database.filter (·.graph.isOk) = none) (hcache : cache = w.cache)
  /-- A loading succeeds; what it read is kept, or forgotten once it was worked with. -/
  | loaded {database : Database} {g : Graph} (hdue : event.isDue settings w = true)
      (hdatabase : w.database = some database) (hgraph : database.graph = .ok g)
      (hcache : cache = w.cache.keep settings w.now g ∨
        cache = (w.cache.keep settings w.now g).invalidate)

/-- A loading that was asked for or needed has its effect, even if what it read is
forgotten afterwards. -/
theorem effect_of_load (hdue : event.isDue settings w = true)
    (hcache : cache = (w.cache.load settings w.now w.database).2 ∨
      (∃ found, (w.cache.load settings w.now w.database).1 = .ok found) ∧
        cache = (w.cache.load settings w.now w.database).2.invalidate) :
    Effect settings w event cache := by
  rcases w.cache.load_cases settings w.now w.database with
    ⟨database, g, hdatabase, hgraph, hload⟩ | ⟨hunread, e, hload⟩
  · rw [hload] at hcache
    exact .loaded hdue hdatabase hgraph (hcache.imp_right And.right)
  · rcases hcache with hcache | ⟨⟨found, hfound⟩, -⟩
    · exact .failed hdue hunread (hcache.trans (congrArg Prod.snd hload))
    · rw [hload] at hfound
      cases hfound

/-- **Every event has one of these effects.** -/
theorem effect_after (settings : GraphSettings) (w : World) (event : CacheEvent) :
    Effect settings w event (event.after settings w).cache := by
  cases huses : event.uses with
  | true =>
    obtain ⟨planner, action⟩ | change := event
    · have hcache := Planner.cache_act_of_uses { planner with graph := settings } w huses
      unfold GraphCache.snapshot at hcache
      cases hfresh : w.cache.fresh? settings w.now with
      | none =>
        simp only [hfresh] at hcache
        exact effect_of_load (by simp [isDue, huses, hfresh]) hcache
      | some snapshot =>
        have hreloads : (CacheEvent.act planner action).reloads = false := by
          cases action with
          | load => cases huses
          | _ => rfl
        simp only [hfresh] at hcache
        exact .idle (by simp [isDue, hreloads, hfresh]) (hcache.imp_right And.right)
    · cases huses
  | false =>
    obtain ⟨planner, action⟩ | change := event
    · cases action with
      | plan | resolve | health | snapshot => cases huses
      | load => exact effect_of_load rfl (.inl rfl)
      | invalidate => exact .idle rfl (.inr rfl)
      | edit | wait => exact .idle rfl (.inl rfl)
    · exact .idle rfl (.inl rfl)

end CacheEvent

/-! ## What a cache is backed by -/

/-- A cache whose state is accounted for by the loadings that came before, the last of
them last. -/
structure GraphCache.Backed (cache : GraphCache) (settings : GraphSettings)
    (loadings : List Database) : Prop where
  /-- The loadings that succeeded are counted. -/
  generation_eq : cache.generation = loadings.length
  /-- What is held has the number of the last of them, and is what its tables gave: its
  systems and connections are those of the rows. -/
  held : ∀ held, cache.slot = some held → held.snapshot.generation = cache.generation ∧
    ∃ db g, loadings.getLast? = some db ∧ db.graph = .ok g ∧
      held.snapshot = .ofGraph g settings.demands cache.generation ∧
      held.snapshot.Charts db ∧
      ∀ id s, held.snapshot.system? id = some s → s.id = id ∧ db.ShowsSystem s

/-- To forget what is held takes no loading back. -/
theorem GraphCache.Backed.invalidate {cache : GraphCache} {settings : GraphSettings}
    {loadings : List Database} (h : cache.Backed settings loadings) :
    cache.invalidate.Backed settings loadings :=
  ⟨h.generation_eq, nofun⟩

namespace CacheEvent

variable {settings : GraphSettings} {w start : World} {event : CacheEvent} {cache : GraphCache}
  {events : List CacheEvent} {past : List Database} {since : Nat}

/-- What is loaded is what stands in the database. -/
theorem loaded?_eq_some {database : Database} {g : Graph} (hdue : event.isDue settings w = true)
    (hdatabase : w.database = some database) (hgraph : database.graph = .ok g) :
    event.loaded? settings w = some database := by
  rw [loaded?, if_pos hdue, hdatabase]
  exact Option.filter_some_pos (by rw [hgraph]; rfl)

/-- Nothing is loaded where no loading is due, or the tables cannot be read. -/
theorem loaded?_eq_none
    (h : event.isDue settings w = true → w.database.filter (·.graph.isOk) = none) :
    event.loaded? settings w = none := by
  unfold loaded?
  split
  · next hdue => exact h hdue
  · rfl

/-- **A cache stays backed through every effect**, by one loading more where one
succeeded. -/
theorem Effect.backed (h : Effect settings w event cache) (hw : w.cache.Backed settings past) :
    cache.Backed settings (past ++ (event.loaded? settings w).toList) := by
  cases h with
  | idle hdue hcache =>
    rw [loaded?_eq_none (by simp [hdue]), Option.toList_none, List.append_nil]
    rcases hcache with rfl | rfl
    · exact hw
    · exact hw.invalidate
  | failed hdue hunread hcache =>
    rw [loaded?_eq_none fun _ => hunread, Option.toList_none, List.append_nil, hcache]
    exact hw
  | @loaded database g hdue hdatabase hgraph hcache =>
    have hkept : (w.cache.keep settings w.now g).Backed settings (past ++ [database]) := by
      refine ⟨by simp [GraphCache.keep, hw.generation_eq], fun held hheld => ?_⟩
      obtain rfl := Option.some.inj hheld
      exact ⟨rfl, database, g, List.getLast?_concat, hgraph, rfl,
        Snapshot.charts_of_graph hgraph settings.demands _, fun id s hs =>
          ⟨g.keyed id s hs, Database.showsSystem_of_graph hgraph hs⟩⟩
    rw [loaded?_eq_some hdue hdatabase hgraph, Option.toList_some]
    rcases hcache with rfl | rfl
    · exact hkept
    · exact hkept.invalidate

/-- A cache stays backed through events, by their loadings. -/
theorem backed_run (hw : w.cache.Backed settings past) :
    (run settings events w).cache.Backed settings (past ++ loadings settings events w) := by
  induction events generalizing w past with
  | nil => simpa only [run, loadings, List.append_nil] using hw
  | cons event events ih =>
    rw [run, loadings, ← List.append_assoc]
    exact ih ((effect_after settings w event).backed hw)

/-! ## How old a snapshot can be -/

/-- A world in which no snapshot is older than some moment, which is past. -/
structure HeldSince (since : Nat) (w : World) : Prop where
  past : since ≤ w.now
  held : ∀ held, w.cache.slot = some held → since ≤ held.loadedAt

theorem HeldSince.after (h : HeldSince since w) (event : CacheEvent) :
    HeldSince since (event.after settings w) := by
  have hnow : w.now ≤ (event.after settings w).now := by
    obtain ⟨planner, action⟩ | change := event
    · exact Planner.now_le_act _ w action
    · exact Nat.le_refl _
  refine ⟨Nat.le_trans h.past hnow, ?_⟩
  generalize hcache : (event.after settings w).cache = cache
  rcases hcache ▸ effect_after settings w event with
    ⟨-, rfl | rfl⟩ | ⟨-, -, rfl⟩ | ⟨-, -, -, rfl | rfl⟩
  · exact h.held
  · exact nofun
  · exact h.held
  · intro held hheld
    obtain rfl := Option.some.inj hheld
    exact h.past
  · exact nofun

theorem HeldSince.run (h : HeldSince since w) (events : List CacheEvent) :
    HeldSince since (run settings events w) := by
  induction events generalizing w with
  | nil => exact h
  | cons event events ih => exact ih (h.after event)

/-- Before its time has run out, what is held is fresh. -/
theorem HeldSince.slot_of_fresh (h : HeldSince since w) (httl : w.now - since < settings.ttl)
    (hfresh : w.cache.fresh? settings w.now = none) : w.cache.slot = none := by
  cases hslot : w.cache.slot with
  | none => rfl
  | some held =>
    have hold : w.now - held.loadedAt < settings.ttl := by
      have := h.held held hslot
      omega
    simp [GraphCache.fresh?, hslot, Option.filter, hold] at hfresh

/-- The number of loadings grows with a loading that is due. -/
theorem isDue_of_generation_ne
    (h : (event.after settings w).cache.generation ≠ w.cache.generation) :
    event.isDue settings w = true := by
  generalize hcache : (event.after settings w).cache = cache at h
  rcases hcache ▸ effect_after settings w event with
    ⟨-, rfl | rfl⟩ | ⟨-, -, rfl⟩ | ⟨hdue, -, -, -⟩
  · exact absurd rfl h
  · exact absurd rfl h
  · exact absurd rfl h
  · exact hdue

end CacheEvent

/-! ## The guarantee -/

/-- How the state of a cache is told by what has happened since it was new. -/
structure GraphCache.Told (settings : GraphSettings) (start : World) (events : List CacheEvent)
    (w : World) : Prop where
  backed : w.cache.Backed settings (CacheEvent.loadings settings events start)
  /-- A loading that fails changes nothing. -/
  unharmed : ∀ event : CacheEvent, event.isDue settings w = true →
    event.loaded? settings w = none → (event.after settings w).cache = w.cache
  /-- While snapshots are kept, a loading is counted only when it was asked for, or when
  there was nothing to work with. -/
  sparing : w.now - start.now < settings.ttl → ∀ event : CacheEvent,
    (event.after settings w).cache.generation ≠ w.cache.generation →
      event.reloads = true ∨ (event.uses = true ∧ w.cache.slot = none)

/-- **The state of a cache is told by the loadings that succeeded**, through whatever
happens to it and to the tables. -/
theorem GraphCache.told_run (settings : GraphSettings) (start : World) (events : List CacheEvent) :
    Told settings start.uncached events (CacheEvent.run settings events start.uncached) where
  backed := by
    have hnew : start.uncached.cache.Backed settings [] := ⟨rfl, nofun⟩
    exact CacheEvent.backed_run hnew
  unharmed event hdue hloaded := by
    rcases CacheEvent.effect_after settings _ event with ⟨hidle, -⟩ | ⟨-, -, hcache⟩ |
      ⟨-, hdatabase, hgraph, -⟩
    · rw [hidle] at hdue
      cases hdue
    · exact hcache
    · cases hloaded.symm.trans (CacheEvent.loaded?_eq_some hdue hdatabase hgraph)
  sparing httl event hgrows := by
    have hdue := CacheEvent.isDue_of_generation_ne hgrows
    have hsince : CacheEvent.HeldSince start.now start.uncached := ⟨Nat.le_refl _, nofun⟩
    simp only [CacheEvent.isDue, Bool.or_eq_true, Bool.and_eq_true, Option.isNone_iff_eq_none]
      at hdue
    exact hdue.imp_right fun ⟨huses, hfresh⟩ =>
      ⟨huses, (hsince.run events).slot_of_fresh httl hfresh⟩

/-- A plan loads the graph once; when the database is gone by then, loading it again
fails and is not counted, and what was loaded stays. -/
theorem GraphCache.told_run_reef :
    let w := CacheEvent.run reefPlanner.graph
      [.act reefPlanner (.plan reefRequest), .upset fun _ => none] (reef none)
    w.cache.generation = 1 ∧
      ((CacheEvent.act reefPlanner .load).after reefPlanner.graph w).cache = w.cache := by
  intro w
  have h := told_run reefPlanner.graph (reef none)
    [.act reefPlanner (.plan reefRequest), .upset fun _ => none]
  have hloadings : (CacheEvent.loadings reefPlanner.graph
      [.act reefPlanner (.plan reefRequest), .upset fun _ => none]
      (reef none).uncached).length = 1 := by
    decide +kernel
  exact ⟨h.backed.generation_eq.trans hloadings, h.unharmed _ rfl rfl⟩

end StarFreight
