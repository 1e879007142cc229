import StarFreight.Cli.Disk.Database
/-!
# Cli — described machines

A host that has a disk and nothing else that changes: its environment is given,
and so is the second it always is.
-/

namespace StarFreight

namespace Disk

/-- A host that has a disk. -/
def host (environment : Environment) (exchange : OracleSettings → Oracle) (now : Nat) :
    Host (StateM Disk) where
  environment
  present := fun path => return ((← get).find path).toOption.isSome
  isDirectory := fun path => return (← get).isDirectory path
  makeDirectory := fun path => do
    match (← get).makeDirectory path with
    | .ok disk =>
      set disk
      return .ok ()
    | .error fault => return .error fault
  fileText := fun path => return (← get).fileText path
  openDatabase := fun file => (DiskTask.openDatabase file).run
  writeDatabase := fun opened db => (DiskTask.writeDatabase opened db).run
  closeDatabase := fun opened => do let _ ← (DiskTask.closeDatabase opened).run
  now := return now
  exchange

end Disk

end StarFreight
