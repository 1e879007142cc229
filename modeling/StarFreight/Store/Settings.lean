import StarFreight.Json.Printer
import StarFreight.Json.Reader
import StarFreight.Security.PolicyDocument
import StarFreight.Store.Query
/-!
# Store — settings

Settings are documents stored as text under a key. A setting that was never
stored, and every setting while the table is missing, reads as none; one whose
text does not have the form asked for is an error.
-/

namespace StarFreight

/-- The key of the security policy. -/
def policyKey : String := "security_policy"

/-- The key of the flag that allows backfill in production. -/
def backfillKey : String := "graph_backfill_enabled"

namespace Database

/-- The text stored under a key. -/
def settingText? (db : Database) (key : String) : Except StoreError (Option String) :=
  match db.engineSettings with
  | none => .ok none
  | some _ => do
    let records ← db.select
      { source := .engineSettings, columns := ["value"], conditions := [.isText "key" key] }
    match records with
    | [] => return none
    | record :: _ => return some (← record.text 0)

/-- The setting stored under a key, read as a document. -/
def setting? {α : Type} (db : Database) (key : String) (read : Json → Option α) :
    Except StoreError (Option α) := do
  match ← db.settingText? key with
  | none => return none
  | some text =>
    match Json.parse? text >>= read with
    | some value => return some value
    | none => throw (.invalidSetting key)

/-- The database with a document stored under a key. -/
def storeSetting (db : Database) (key : String) (doc : Json) : Except StoreError Database :=
  db.upsert .engineSettings "key" "value" [("key", .text key), ("value", .text doc.compact)]

/-- The stored security policy, or the default one. -/
def policyDocument (db : Database) : Except StoreError PolicyDocument := do
  return (← db.setting? policyKey PolicyDocument.ofJson?).getD {}

/-- The stored flag that allows backfill in production. -/
def backfillFlag? (db : Database) : Except StoreError (Option Bool) :=
  db.setting? backfillKey Json.toBool?

end Database

end StarFreight
