/-
The accounts of this host, read from two files.
-/
import IdentityMap.Account.Table
import IdentityMap.Host.Disk

namespace IdentityMap.Disk

/-- The accounts in a file.  A file that is not there or holds no text has none. -/
def accounts (disk : Disk) (text : String) : AccountTable :=
  .ofText ((disk.readText text).toOption.getD "")

/-- The name service over a file of users and a file of groups. -/
def nameService (disk : Disk) (users groups : String) : NameService :=
  .ofTables (disk.accounts users) (disk.accounts groups)

end IdentityMap.Disk
