import StarFreight.Cli.Disk.Host
import StarFreight.Json.Canonical
import StarFreight.Main
import StarFreight.Proofs.Planning.Safety
import StarFreight.Proofs.Planning.Verdict
import StarFreight.Proofs.Planning.Agreement
import StarFreight.Proofs.Planning.Repair
import StarFreight.Proofs.Planning.Conduct
import StarFreight.Proofs.Planning.Generation
import StarFreight.Proofs.Planning.Session
import StarFreight.Proofs.Chart.Loading
import StarFreight.Proofs.Security.Stored
import StarFreight.Proofs.Store.Rows
import StarFreight.Proofs.Store.Insertion
import StarFreight.Proofs.Store.Naming
import StarFreight.Proofs.Planning.Growth
import StarFreight.Proofs.Planning.Retracing
import StarFreight.Proofs.Planning.Healing
import StarFreight.Proofs.Search.Relaxation
import StarFreight.Proofs.Store.Union
import StarFreight.Proofs.Planning.AvoidList
import StarFreight.Proofs.Location.Stages
import StarFreight.Proofs.Planning.Upkeep
import StarFreight.Proofs.Planning.Standing
import StarFreight.Proofs.Security.Partial
import StarFreight.Proofs.Location.Zones
import StarFreight.Proofs.Planning.Lifetime
import StarFreight.Proofs.Search.WayBack
import StarFreight.Proofs.Search.Charges
import StarFreight.Proofs.Planning.Record
import StarFreight.Proofs.Cli.Init
import StarFreight.Proofs.Search.Profiles
import StarFreight.Proofs.Search.Ordering
import StarFreight.Proofs.Search.Exclusion
import StarFreight.Proofs.Search.Permanence
import StarFreight.Proofs.Planning.Account
import StarFreight.Proofs.Store.Charting
import StarFreight.Proofs.Planning.Acceptance
import StarFreight.Proofs.Avoidance.Scan
import StarFreight.Proofs.Planning.RuleTable
import StarFreight.Proofs.Location.Spelling
import StarFreight.Proofs.Chart.Ranking
import StarFreight.Proofs.Oracle.Query
import StarFreight.Proofs.Cli.Flags
