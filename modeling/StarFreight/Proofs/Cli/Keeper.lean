import StarFreight.Cli.Run
import StarFreight.Proofs.Store.Settings
/-!
# Cli — hosts that keep a database

What the program may rely on where commands are carried out one after another: the
database at a path can be opened, holds what was last put into it, and takes what is put
into it next, while the texts of files can be read and change nothing
(`Keeper.Serves`). A step on such a host is told by what it gives and what the database
holds then (`Keeper.Leads`), and steps follow one another (`Keeper.Leads.bind`). So a
database is created with all its tables (`Serves.createDatabase`).
-/

namespace StarFreight

/-- A database that is kept while the state of a machine changes. -/
structure Keeper (σ : Type) where
  /-- The file that it is kept in. -/
  file : DatabaseFile
  /-- The states in which the machine is in order. -/
  ready : σ → Prop
  /-- What the database holds. -/
  held : σ → Database
  /-- How the file may have been opened. -/
  handle : OpenFile → Prop
  handle_database : ∀ opened db, handle opened → handle { opened with database := db }

namespace Keeper

variable {σ α β : Type}

/-- A step leads from a state to one that is in order, and what it gives and the database
holds then is as said. -/
def Leads (keeper : Keeper σ) (x : StateM σ α) (s : σ) (post : α → Database → Prop) : Prop :=
  ∃ a s', x.run s = (a, s') ∧ keeper.ready s' ∧ post a (keeper.held s')

variable {keeper : Keeper σ} {x : StateM σ α} {f : α → StateM σ β} {s : σ} {a : α}
  {db : Database} {post : α → Database → Prop} {last : β → Database → Prop}

theorem Leads.pure (hs : keeper.ready s) (h : post a (keeper.held s)) :
    keeper.Leads (Pure.pure a) s post :=
  ⟨a, s, rfl, hs, h⟩

/-- **Where a step leads, the next one starts.** -/
theorem Leads.bind (hx : keeper.Leads x s post)
    (hf : ∀ a s', keeper.ready s' → post a (keeper.held s') → keeper.Leads (f a) s' last) :
    keeper.Leads (x >>= f) s last := by
  obtain ⟨a, s', hrun, hready, hpost⟩ := hx
  obtain ⟨b, s'', hrun', hready', hlast⟩ := hf a s' hready hpost
  refine ⟨b, s'', ?_, hready', hlast⟩
  rw [StateT.run_bind, hrun]
  exact hrun'

/-- A host on which a database is kept under a path, and files have texts. -/
structure Serves (keeper : Keeper σ) (host : Host (StateM σ)) (path : String)
    (texts : Path → Except FileFault String) : Prop where
  address : DatabaseAddress.ofText path = .ok (.file keeper.file)
  directories : ∀ s directory, keeper.ready s → (Path.ofText path).parent? = some directory →
    keeper.Leads (host.makeDirectories directory) s fun made db =>
      made = .ok () ∧ db = keeper.held s
  opens : ∀ s, keeper.ready s → keeper.Leads (host.openDatabase keeper.file) s fun result db =>
    db = keeper.held s ∧ ∃ opened, result = .ok opened ∧ keeper.handle opened ∧
      opened.database = db
  writes : ∀ s opened db, keeper.ready s → keeper.handle opened →
    keeper.Leads (host.writeDatabase opened db) s fun result kept => result = .ok () ∧ kept = db
  closes : ∀ s opened, keeper.ready s → keeper.handle opened →
    keeper.Leads (host.closeDatabase opened) s fun _ db => db = keeper.held s
  reads : ∀ s file, keeper.ready s → keeper.Leads (host.fileText file) s fun result db =>
    result = texts file ∧ db = keeper.held s

/-- An open database that holds what is kept. -/
def Opens (keeper : Keeper σ) (result : OpenDatabase) (db : Database) : Prop :=
  ∃ opened, result = .file opened ∧ keeper.handle opened ∧ opened.database = db

namespace Serves

variable {host : Host (StateM σ)} {path : String} {texts : Path → Except FileFault String}
  {opened : OpenDatabase} (h : keeper.Serves host path texts)

include h

theorem openDatabase (hs : keeper.ready s) :
    keeper.Leads (openDatabase host path) s fun result db =>
      db = keeper.held s ∧ ∃ opened, result = .ok opened ∧ keeper.Opens opened db := by
  unfold StarFreight.openDatabase
  rw [h.address]
  refine (h.opens s hs).bind ?_
  rintro _ s' hs' ⟨hheld, opened, rfl, hhandle, hdatabase⟩
  exact .pure hs' ⟨hheld, .file opened, rfl, opened, rfl, hhandle, hdatabase⟩

theorem store (hs : keeper.ready s) (hopened : keeper.Opens opened (keeper.held s))
    (db : Database) : keeper.Leads (opened.store host db) s fun result kept =>
      kept = db ∧ ∃ opened, result = .ok opened ∧ keeper.Opens opened kept := by
  obtain ⟨file, rfl, hhandle, -⟩ := hopened
  refine (h.writes s file db hs hhandle).bind ?_
  rintro _ s' hs' ⟨rfl, hkept⟩
  exact .pure hs' ⟨hkept, _, rfl, { file with database := db }, rfl,
    keeper.handle_database file db hhandle, hkept.symm⟩

/-- **A database is created with all its tables.** -/
theorem createDatabase (hs : keeper.ready s) :
    keeper.Leads (createDatabase host path) s fun result db =>
      db = (keeper.held s).initialized ∧ ∃ opened, result = .ok opened ∧
        keeper.Opens opened db := by
  have hmade : keeper.Leads
      ((Path.ofText path).parent?.elim (Pure.pure (.ok ())) host.makeDirectories)
      s fun made db => made = .ok () ∧ db = keeper.held s := by
    cases hparent : (Path.ofText path).parent? with
    | none => exact .pure hs ⟨rfl, rfl⟩
    | some directory => exact h.directories s directory hs hparent
  unfold StarFreight.createDatabase
  -- whether there is a directory to be made or not, what follows is the same
  cases hparent : (Path.ofText path).parent?
  all_goals
    rw [hparent] at hmade
    refine hmade.bind ?_
    rintro _ s₁ hs₁ ⟨rfl, hheld₁⟩
    refine (h.openDatabase hs₁).bind ?_
    rintro _ s₂ hs₂ ⟨hheld₂, opened, rfl, file, rfl, hhandle, hdatabase⟩
    have hheld : file.database = keeper.held s := by rw [hdatabase, hheld₂, hheld₁]
    have hbefore : (OpenDatabase.file file).database = file.database := rfl
    dsimp only
    rw [hbefore]
    -- what is opened is written back only where a table was missing
    split
    · next hsame =>
      refine .pure hs₂ ⟨?_, _, rfl, file, rfl, hhandle, hdatabase⟩
      rw [← hheld, hsame, hdatabase]
    · have hopened : keeper.Opens (.file file) (keeper.held s₂) := ⟨file, rfl, hhandle, hdatabase⟩
      refine (h.store hs₂ hopened file.database.initialized).bind ?_
      rintro _ s₃ hs₃ ⟨hheld₃, stored, rfl, hstored⟩
      exact .pure hs₃ ⟨by rw [hheld₃, hheld], stored, rfl, hstored⟩

end Serves

end Keeper

end StarFreight
