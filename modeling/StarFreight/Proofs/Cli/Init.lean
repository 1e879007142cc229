import StarFreight.Proofs.Cli.Disk
/-!
# Cli — what setting up leaves behind

Databases are set up by runs, one after another, each with a policy, a flag, both or
neither. What a run stores is told by what it is given (`InitRun.docs`), nothing where
its policy makes no sense, and what runs store by the last one that stores something
under a key (`leads_mapM_carryOut`). So the policy is in the end that of the last run
that gave a valid one, as it was given, and no other table has changed
(`InitRun.settled_of_runs`).
-/

namespace StarFreight

/-! ## What is stored -/

/-- The documents that a policy and a flag are stored as, if they are given. -/
def seeded (policy : Option PolicyDocument) (flag : Option Bool) (key : String) : Option Json :=
  if key = policyKey then policy.map PolicyDocument.toJson
  else if key = backfillKey then flag.map Json.bool
  else none

@[simp] theorem seeded_policyKey (policy : Option PolicyDocument) (flag : Option Bool) :
    seeded policy flag policyKey = policy.map PolicyDocument.toJson :=
  if_pos rfl

@[simp] theorem seeded_backfillKey (policy : Option PolicyDocument) (flag : Option Bool) :
    seeded policy flag backfillKey = flag.map Json.bool := by
  rw [seeded, if_neg (by decide), if_pos rfl]

theorem seeded_of_ne (policy : Option PolicyDocument) (flag : Option Bool) {key : String}
    (hpolicy : key ≠ policyKey) (hflag : key ≠ backfillKey) : seeded policy flag key = none := by
  rw [seeded, if_neg hpolicy, if_neg hflag]

theorem seeded_eq (policy : Option PolicyDocument) (flag : Option Bool) :
    seeded policy flag = fun key => (seeded none flag key).or (seeded policy none key) := by
  funext key
  by_cases hpolicy : key = policyKey
  · subst hpolicy
    simp
  · by_cases hflag : key = backfillKey
    · subst hflag
      simp
    · simp only [seeded_of_ne _ _ hpolicy hflag, Option.or_none]

theorem seeded_none_none : seeded none none = fun _ => none := by
  funext key
  simp [seeded]

theorem seeded_some_none (d : PolicyDocument) :
    seeded (some d) none = Database.single policyKey d.toJson := by
  funext key
  simp [seeded, Database.single]

theorem seeded_none_some (b : Bool) :
    seeded none (some b) = Database.single backfillKey (.bool b) := by
  funext key
  by_cases hpolicy : key = policyKey
  · subst hpolicy
    rw [seeded_policyKey, Database.single, if_neg (by decide)]
    rfl
  · simp [seeded, Database.single, hpolicy]

namespace Database

variable {db : Database}

theorem exists_seedFlag (h : db.KeepsSettings)
    (hpresent : (db.table? .engineSettings).isSome = true) (flag : Option Bool) :
    ∃ after, db.seed none flag = .ok after ∧ db.Updated (seeded none flag) after := by
  cases flag with
  | none => exact ⟨db, rfl, seeded_none_none ▸ .refl h⟩
  | some b =>
    obtain ⟨after, hafter, hset, -⟩ := exists_storeSetting h hpresent backfillKey (.bool b)
    exact ⟨after, hafter, seeded_none_some b ▸ hset⟩

/-- **What is given is stored**, where there is a table for it. -/
theorem exists_seed (h : db.KeepsSettings)
    (hpresent : (db.table? .engineSettings).isSome = true) (policy : Option PolicyDocument)
    (flag : Option Bool) :
    ∃ after, db.seed policy flag = .ok after ∧ db.Updated (seeded policy flag) after := by
  cases policy with
  | none => exact exists_seedFlag h hpresent flag
  | some d =>
    obtain ⟨mid, hmid, hpolicy, hpresent'⟩ := exists_storeSetting h hpresent policyKey d.toJson
    obtain ⟨after, hafter, hflag⟩ := exists_seedFlag hpolicy.keeps hpresent' flag
    have hseed : db.seed (some d) flag = mid.seed none flag := by
      unfold seed
      dsimp only
      rw [hmid]
      rfl
    refine ⟨after, hseed.trans hafter, ?_⟩
    rw [seeded_eq, seeded_some_none]
    exact hpolicy.trans hflag

end Database

/-- The policy in a file, none without a file; or what is wrong with it. -/
def givenPolicy (texts : Path → Except FileFault String) :
    Option String → Except String (Option PolicyDocument)
  | none => .ok none
  | some file =>
    match texts (.ofText file) with
    | .error fault => .error ("failed to read " ++ file ++ ": " ++ fault.message)
    | .ok text =>
      match Json.parse? text >>= PolicyDocument.ofJson? with
      | none => .error ("invalid security policy in " ++ file)
      | some policy => .ok (some policy)

namespace Keeper.Serves

variable {σ : Type} {keeper : Keeper σ} {host : Host (StateM σ)} {path : String}
  {texts : Path → Except FileFault String} {s : σ} {opened : OpenDatabase}
  (h : keeper.Serves host path texts)

include h

theorem readPolicy (hs : keeper.ready s) (file : Option String) :
    keeper.Leads (readPolicy host file) s fun policy db =>
      policy = givenPolicy texts file ∧ db = keeper.held s := by
  cases file with
  | none => exact .pure hs ⟨rfl, rfl⟩
  | some file =>
    simp only [StarFreight.readPolicy, givenPolicy]
    refine (h.reads s (.ofText file) hs).bind ?_
    rintro _ s' hs' ⟨rfl, hheld⟩
    cases texts (.ofText file) with
    | error fault => exact .pure hs' ⟨rfl, hheld⟩
    | ok text =>
      dsimp only
      cases Json.parse? text >>= PolicyDocument.ofJson? with
      | none => exact .pure hs' ⟨rfl, hheld⟩
      | some policy => exact .pure hs' ⟨rfl, hheld⟩

/-- What a policy that is given, or not given, leads to. -/
theorem storeSettings (hs : keeper.ready s) (hopened : keeper.Opens opened (keeper.held s))
    (hkeeps : (keeper.held s).KeepsSettings)
    (hpresent : ((keeper.held s).table? .engineSettings).isSome = true) (file : Option String)
    (flag : Option Bool) :
    keeper.Leads (storeSettings host opened file flag) s fun stored db =>
      match givenPolicy texts file with
      | .ok policy => stored = .ok () ∧ (keeper.held s).Updated (seeded policy flag) db
      | .error problem => stored = .error problem ∧ db = keeper.held s := by
  unfold StarFreight.storeSettings
  refine (h.readPolicy hs file).bind ?_
  rintro _ s' hs' ⟨rfl, hheld⟩
  cases givenPolicy texts file with
  | error problem => exact .pure hs' ⟨rfl, hheld⟩
  | ok policy =>
    obtain ⟨file, rfl, hhandle, hdatabase⟩ := hopened
    obtain ⟨after, hseed, hupdated⟩ := Database.exists_seed hkeeps hpresent policy flag
    have hbefore : (OpenDatabase.file file).database = keeper.held s := hdatabase
    dsimp only
    rw [hbefore, hseed]
    split
    · next hnothing =>
      obtain ⟨hpolicy, hflag⟩ := Bool.and_eq_true_iff.mp hnothing
      obtain rfl := Option.isNone_iff_eq_none.mp hpolicy
      obtain rfl := Option.isNone_iff_eq_none.mp hflag
      refine .pure hs' ⟨rfl, ?_⟩
      rw [hheld, seeded_none_none]
      exact .refl hkeeps
    · have hopened : keeper.Opens (.file file) (keeper.held s') :=
        ⟨file, rfl, hhandle, hdatabase.trans hheld.symm⟩
      refine (h.store hs' hopened after).bind ?_
      rintro _ s'' hs'' ⟨hheld', stored, rfl, -⟩
      exact .pure hs'' ⟨rfl, hheld' ▸ hupdated⟩

end Keeper.Serves

/-! ## Runs -/

/-- A run that sets up a database: where it is carried out, with the texts that files have
there, and what it is given. -/
structure InitRun (σ : Type) where
  host : Host (StateM σ)
  texts : Path → Except FileFault String
  settings : Settings
  policyFile : Option String
  flag : Option Bool

namespace InitRun

variable {σ : Type} {keeper : Keeper σ} {run : InitRun σ} {runs : List (InitRun σ)} {s : σ}

/-- What is done in a run. -/
def carryOut (run : InitRun σ) : StateM σ Outcome :=
  runInit run.host run.settings run.policyFile run.flag

/-- The policy that a run is given, none without a file; or what is wrong with it. -/
def policy (run : InitRun σ) : Except String (Option PolicyDocument) :=
  givenPolicy run.texts run.policyFile

/-- The policy that a run stores: a valid one that it is given. -/
def policy? (run : InitRun σ) : Option PolicyDocument :=
  match run.policy with
  | .ok policy => policy
  | .error _ => none

/-- The flag that a run stores: the one that it is given, unless its policy makes no
sense. -/
def flag? (run : InitRun σ) : Option Bool :=
  match run.policy with
  | .ok _ => run.flag
  | .error _ => none

/-- The documents that a run stores. -/
def docs (run : InitRun σ) : String → Option Json :=
  seeded run.policy? run.flag?

/-- What a run leaves behind for whoever started it. -/
def outcome (run : InitRun σ) : Outcome :=
  match run.policy with
  | .ok _ => { exit := 0, output := "Database ready at " ++ run.settings.graph.path ++ "\n" }
  | .error problem => complain problem

/-- A run on a host on which the database is kept. -/
def ServedBy (run : InitRun σ) (keeper : Keeper σ) : Prop :=
  keeper.Serves run.host run.settings.graph.path run.texts

/-- **What one run does**: it stores what it is given, and nothing where its policy makes
no sense. -/
theorem leads_carryOut (h : run.ServedBy keeper) (hs : keeper.ready s)
    (hkeeps : (keeper.held s).KeepsSettings) :
    keeper.Leads run.carryOut s fun outcome db =>
      outcome = run.outcome ∧ (keeper.held s).Updated run.docs db := by
  unfold carryOut runInit
  refine (h.createDatabase hs).bind ?_
  rintro _ s₁ hs₁ ⟨hheld₁, _, rfl, file, rfl, hhandle, hdatabase⟩
  -- the tables are made in any case, also where nothing is stored in the end
  have hmade : (keeper.held s).Updated (fun _ => none) (keeper.held s₁) :=
    hheld₁ ▸ Database.updated_initialized hkeeps
  have hpresent : ((keeper.held s₁).table? .engineSettings).isSome = true := by
    rw [hheld₁, Database.table?_initialized]
    rfl
  have hstored := h.storeSettings hs₁ ⟨file, rfl, hhandle, hdatabase⟩ hmade.keeps hpresent
    run.policyFile run.flag
  refine hstored.bind ?_
  intro stored s₂ hs₂ hpost
  refine (h.closes s₂ file hs₂ hhandle).bind ?_
  rintro _ s₃ hs₃ hheld₃
  simp only [outcome, docs, policy?, flag?, policy]
  cases hpolicy : givenPolicy run.texts run.policyFile with
  | error problem =>
    simp only [hpolicy] at hpost
    obtain ⟨rfl, hheld₂⟩ := hpost
    refine .pure hs₃ ⟨rfl, ?_⟩
    rw [hheld₃, hheld₂, seeded_none_none]
    exact hmade
  | ok policy =>
    simp only [hpolicy] at hpost
    obtain ⟨rfl, hupdated⟩ := hpost
    refine .pure hs₃ ⟨rfl, ?_⟩
    have hboth := hmade.trans hupdated
    simp only [Option.or_none] at hboth
    exact hheld₃ ▸ hboth

/-- The documents that runs store: under each key that of the last run that stores one. -/
def docsOf : List (InitRun σ) → String → Option Json
  | [], _ => none
  | run :: runs, key => (docsOf runs key).or (run.docs key)

/-- **What runs do, one after another.** -/
theorem leads_mapM_carryOut (h : ∀ run ∈ runs, run.ServedBy keeper) (hs : keeper.ready s)
    (hkeeps : (keeper.held s).KeepsSettings) :
    keeper.Leads (runs.mapM carryOut) s fun outcomes db =>
      outcomes = runs.map outcome ∧ (keeper.held s).Updated (docsOf runs) db := by
  induction runs generalizing s with
  | nil => exact .pure hs ⟨rfl, .refl hkeeps⟩
  | cons run runs ih =>
    have hrun := h run List.mem_cons_self
    have hruns : ∀ run ∈ runs, run.ServedBy keeper :=
      fun other hother => h other (List.mem_cons_of_mem _ hother)
    rw [List.mapM_cons]
    -- a run leaves the table of settings the planner's own, as the next one needs it
    refine (leads_carryOut hrun hs hkeeps).bind ?_
    rintro _ s₁ hs₁ ⟨rfl, hfirst⟩
    refine (ih hruns hs₁ hfirst.keeps).bind ?_
    rintro _ s₂ hs₂ ⟨rfl, hrest⟩
    exact .pure hs₂ ⟨rfl, hfirst.trans hrest⟩

/-! ## The last of them -/

/-- The policy of the last run that gave a valid one. -/
def lastPolicy? (runs : List (InitRun σ)) : Option PolicyDocument :=
  (runs.filterMap policy?).getLast?

/-- The flag of the last run that wrote one. -/
def lastFlag? (runs : List (InitRun σ)) : Option Bool :=
  (runs.filterMap flag?).getLast?

/-- What is stored under a key is what the last run left there. -/
theorem docsOf_eq {α : Type} {key : String} (given? : InitRun σ → Option α) (doc : α → Json)
    (h : ∀ run : InitRun σ, run.docs key = (given? run).map doc) (runs : List (InitRun σ)) :
    docsOf runs key = ((runs.filterMap given?).getLast?).map doc := by
  induction runs with
  | nil => rfl
  | cons run runs ih =>
    rw [docsOf, ih, h run]
    cases hgiven : given? run with
    | none => rw [List.filterMap_cons_none hgiven, Option.map_none, Option.or_none]
    | some a =>
      -- what this run gives is the last only where no later one gives anything
      rw [List.filterMap_cons_some hgiven, List.getLast?_cons]
      cases (runs.filterMap given?).getLast? <;> rfl

theorem docsOf_policyKey (runs : List (InitRun σ)) :
    docsOf runs policyKey = (lastPolicy? runs).map PolicyDocument.toJson :=
  docsOf_eq policy? _ (fun _ => seeded_policyKey _ _) runs

theorem docsOf_backfillKey (runs : List (InitRun σ)) :
    docsOf runs backfillKey = (lastFlag? runs).map Json.bool :=
  docsOf_eq flag? _ (fun _ => seeded_backfillKey _ _) runs

theorem docsOf_of_ne {key : String} (hpolicy : key ≠ policyKey) (hflag : key ≠ backfillKey)
    (runs : List (InitRun σ)) : docsOf runs key = none := by
  induction runs with
  | nil => rfl
  | cons run runs ih => rw [docsOf, ih, docs, seeded_of_ne _ _ hpolicy hflag, Option.or_none]

/-- What runs leave behind in a database. -/
structure Settled (before : Database) (runs : List (InitRun σ)) (after : Database) : Prop where
  /-- The policy of the last run that gave a valid one is stored, and it is read as it was
  given exactly when its thresholds are numbers that are read as they are written. -/
  policy : ∀ d, lastPolicy? runs = some d →
    after.settingText? policyKey = .ok (some d.toJson.compact) ∧
      (after.policyDocument = .ok d ↔ d.thresholds.Legible)
  /-- All else in it is read as it was given, whatever the names in it are. -/
  policy_rest : ∀ d read, lastPolicy? runs = some d → after.policyDocument = .ok read →
    read.zones = d.zones ∧ read.classes = d.classes
  policy_kept : lastPolicy? runs = none → after.policyDocument = before.policyDocument
  flag : ∀ b, lastFlag? runs = some b → after.backfillFlag? = .ok (some b)
  flag_kept : lastFlag? runs = none → after.backfillFlag? = before.backfillFlag?
  others : ∀ key, key ≠ policyKey → key ≠ backfillKey →
    after.settingText? key = before.settingText? key
  /-- No row of another table has changed; a table that was missing has none. -/
  tables : ∀ name ≠ .engineSettings, after.table? name = before.table? name ∨
    before.table? name = none ∧ after.table? name = some name.emptyTable

theorem settingText?_policyKey {before after : Database} (hkeeps : before.KeepsSettings)
    (h : before.Updated (docsOf runs) after) {d : PolicyDocument} (hd : lastPolicy? runs = some d) :
    after.settingText? policyKey = .ok (some d.toJson.compact) := by
  rw [h.settingText?_eq hkeeps, docsOf_policyKey, hd]
  rfl

/-- What was stored under every key tells what is read. -/
theorem settled_of_updated {before after : Database} (hkeeps : before.KeepsSettings)
    (h : before.Updated (docsOf runs) after) : Settled before runs after where
  policy d hd := by
    have htext := settingText?_policyKey hkeeps h hd
    exact ⟨htext, (Database.policyDocument_eq_ok_iff htext).trans d.ofJson?_toJson_iff⟩
  policy_rest d read hd hread := by
    have htext := settingText?_policyKey hkeeps h hd
    have hfound := (Database.policyDocument_eq_ok_iff htext).mp hread
    rw [d.ofJson?_toJson] at hfound
    obtain ⟨t, -, rfl⟩ := Option.map_eq_some_iff.mp hfound
    exact ⟨rfl, rfl⟩
  policy_kept hnone := by
    have htext : after.settingText? policyKey = before.settingText? policyKey := by
      rw [h.settingText?_eq hkeeps, docsOf_policyKey, hnone]
      rfl
    rw [Database.policyDocument, Database.policyDocument, Database.setting?_congr htext]
  flag b hb := by
    refine Database.backfillFlag?_eq ?_
    rw [h.settingText?_eq hkeeps, docsOf_backfillKey, hb]
    rfl
  flag_kept hnone := by
    have htext : after.settingText? backfillKey = before.settingText? backfillKey := by
      rw [h.settingText?_eq hkeeps, docsOf_backfillKey, hnone]
      rfl
    rw [Database.backfillFlag?, Database.backfillFlag?, Database.setting?_congr htext]
  others key hpolicy hflag := by
    rw [h.settingText?_eq hkeeps, docsOf_of_ne hpolicy hflag]
  tables := h.tables

/-- **The settings are in the end those of the last runs that stored them**, and a run
whose policy makes no sense changes neither. -/
theorem settled_of_runs (h : ∀ run ∈ runs, run.ServedBy keeper) (hs : keeper.ready s)
    (hkeeps : (keeper.held s).KeepsSettings) :
    ∃ s', (runs.mapM carryOut).run s = (runs.map outcome, s') ∧ keeper.ready s' ∧
      Settled (keeper.held s) runs (keeper.held s') ∧
      ∀ (run : InitRun σ) (problem : String), run.ServedBy keeper → run.policy = .error problem →
        ∃ s'', run.carryOut.run s' = (complain problem, s'') ∧
          (keeper.held s'').policyDocument = (keeper.held s').policyDocument ∧
          (keeper.held s'').backfillFlag? = (keeper.held s').backfillFlag? := by
  obtain ⟨_, s', hrun, hready, rfl, hupdated⟩ := leads_mapM_carryOut h hs hkeeps
  refine ⟨s', hrun, hready, settled_of_updated hkeeps hupdated, ?_⟩
  intro run problem hserved hproblem
  obtain ⟨_, s'', hcarried, -, rfl, hfailed⟩ := leads_carryOut hserved hready hupdated.keeps
  have houtcome : run.outcome = complain problem := by
    rw [outcome, hproblem]
  have hnone : docsOf [run] = run.docs := by
    funext key
    exact Option.none_or
  have hsettled : Settled (keeper.held s') [run] (keeper.held s'') :=
    settled_of_updated hupdated.keeps (hnone ▸ hfailed)
  have hpolicy : lastPolicy? [run] = none := by
    simp [lastPolicy?, policy?, hproblem]
  have hflag : lastFlag? [run] = none := by
    simp [lastFlag?, flag?, hproblem]
  exact ⟨s'', houtcome ▸ hcarried, hsettled.policy_kept hpolicy, hsettled.flag_kept hflag⟩

/-! ## A disk with two policies, one of them broken -/

/-- The name of a database under the root. -/
def harborDatabase : FileName := "freight.db".toUTF8.toList

/-- A disk with an empty database and two files. -/
def harborDisk : Disk where
  entries :=
    [ ([harborDatabase], .database {})
    , ( ["policy.json".toUTF8.toList]
      , .text ("\x7b\"thresholds\": \x7b\"highsec_min\": 0.6\x7d, \"zones\": " ++
          "\x7b\"thera\": \x7b\"system_names\": [\"Kiñ\\\"a\\u0007\\ud83d\\ude80\"]\x7d\x7d\x7d") )
    , (["broken.json".toUTF8.toList], .text "\x7b\"thresholds\": 1\x7d") ]
  working := []

/-- A run on the disk. -/
def harborRun (policyFile : Option String) (flag : Option Bool) : InitRun Disk where
  host := Disk.host (fun _ => none) (fun _ _ _ => .error .emptyPath) 0
  texts := harborDisk.fileText
  settings := { graph := { path := "/freight.db" } }
  policyFile
  flag

/-- The policy in the first of the files. -/
def harborPolicy : PolicyDocument where
  thresholds := { highsecMin := 0.6 }
  zones := { thera := { systemNames := ["Kiñ\"a\u0007🚀"] } }

theorem contents?_harborDatabase :
    harborDisk.contents? [harborDatabase] = some (.database {}) := by
  simp [Disk.contents?, harborDisk]

theorem harborDisk_hasDatabase : harborDisk.HasDatabase harborDatabase where
  short := by decide +kernel
  database := ⟨{}, contents?_harborDatabase⟩
  journal := Option.isNone_iff_eq_none.mp (by decide +kernel)
  log := Option.isNone_iff_eq_none.mp (by decide +kernel)

theorem servedBy_harborRun (policyFile : Option String) (flag : Option Bool) :
    (harborRun policyFile flag).ServedBy (harborDisk.keeper harborDatabase) := by
  have hpath : DatabaseAddress.ofText "/freight.db" =
      .ok (.file { path := .ofNames [harborDatabase] }) := by
    decide +kernel
  have hparent : (Path.ofText "/freight.db").parent? = some (.ofNames []) := by
    decide +kernel
  exact Disk.serves harborDisk_hasDatabase hpath hparent _ _ _

/-- Two runs on the disk, each with one of the files. -/
def harborRuns : List (InitRun Disk) :=
  [harborRun (some "/policy.json") (some true), harborRun (some "/broken.json") (some false)]

/-- The broken policy leaves the one before it in force, and the flag too. -/
theorem settled_of_runs_harbor :
    ∃ disk,
      (harborRuns.mapM carryOut).run harborDisk =
        ([ { exit := 0, output := "Database ready at /freight.db\n" }
         , complain "invalid security policy in /broken.json" ], disk) ∧
      (disk.databaseAt [harborDatabase]).policyDocument = .ok harborPolicy ∧
      (disk.databaseAt [harborDatabase]).backfillFlag? = .ok (some true) := by
  have hserved : ∀ run ∈ harborRuns, run.ServedBy (harborDisk.keeper harborDatabase) := by
    intro run hrun
    rcases List.mem_pair.mp hrun with rfl | rfl <;> exact servedBy_harborRun _ _
  have hkeeps : (harborDisk.databaseAt [harborDatabase]).KeepsSettings := by
    rw [Disk.databaseAt_of_contents? contents?_harborDatabase]
    intro t ht
    cases ht
  obtain ⟨disk, hrun, -, hsettled, -⟩ :=
    settled_of_runs hserved (Disk.keeps_self harborDisk_hasDatabase) hkeeps
  have houtcomes : harborRuns.map outcome =
      [ { exit := 0, output := "Database ready at /freight.db\n" }
      , complain "invalid security policy in /broken.json" ] := by
    decide +kernel
  have hpolicy : lastPolicy? harborRuns = some harborPolicy := by decide +kernel
  have hflag : lastFlag? harborRuns = some true := by decide +kernel
  have hlegible : harborPolicy.thresholds.Legible := by decide +kernel
  refine ⟨disk, houtcomes ▸ hrun, ?_, hsettled.flag true hflag⟩
  exact (hsettled.policy harborPolicy hpolicy).2.mpr hlegible

end InitRun

end StarFreight
