import IdentityMap.Main
import IdentityMap.Proofs.AccountTables
import IdentityMap.Proofs.ByName
import IdentityMap.Proofs.Cache.Changes
import IdentityMap.Proofs.Cache.Lifetime
import IdentityMap.Proofs.Cache.Namesakes
import IdentityMap.Proofs.Cache.Overwriting
import IdentityMap.Proofs.Cache.Purge
import IdentityMap.Proofs.Contention
import IdentityMap.Proofs.Denial
import IdentityMap.Proofs.Ephemeral.Blocks
import IdentityMap.Proofs.FailedItems
import IdentityMap.Proofs.HostAccounts
import IdentityMap.Proofs.Ldap.NamedLookup
import IdentityMap.Proofs.Ledger
import IdentityMap.Proofs.MachineSid
import IdentityMap.Proofs.Mapping.Conclusion
import IdentityMap.Proofs.Narrowing
import IdentityMap.Proofs.OneBatch
import IdentityMap.Proofs.OneRound
import IdentityMap.Proofs.RecordedName
import IdentityMap.Proofs.Repetition
import IdentityMap.Proofs.Reserved
import IdentityMap.Proofs.Restart
import IdentityMap.Proofs.Revalidation
import IdentityMap.Proofs.Rule.Lookups
import IdentityMap.Proofs.Rule.Removal
import IdentityMap.Proofs.Rule.UpgradeBack
import IdentityMap.Proofs.Siblings
import IdentityMap.Proofs.Sid.Keys
import IdentityMap.Proofs.Stability
import IdentityMap.Proofs.WayBack
import IdentityMap.Service.Pool
