/-
The directories that a service can be set up with, as one client.
-/
import IdentityMap.Directory.Scripted
import IdentityMap.Ldap.Session

namespace IdentityMap.Directory

/-- A directory together with its state. -/
inductive Source where
  | absent
  | fixed (table : Fixed) (state : Fixed.State)
  | scripted (script : Scripted)
  /-- An LDAP server that no connection leads to. -/
  | ldap (account : Ldap.Account) (session : Ldap.Session Unit)

namespace Source

/-- The batches and items so far, if the directory counts them. -/
def traffic? : Source → Option Traffic
  | .fixed _ state => some state.traffic
  | .scripted script => some script.traffic
  | .absent | .ldap _ _ => none

/-- Does the same step on whichever directory it is. -/
def dispatch {β : Type} (step : {δ : Type} → Client δ → δ → β × δ) : Source → β × Source
  | .absent =>
    let (answer, _) := step Directory.absent ()
    (answer, .absent)
  | .fixed table state =>
    let (answer, state) := step table.client state
    (answer, .fixed table state)
  | .scripted script =>
    let (answer, script) := step Scripted.client script
    (answer, .scripted script)
  | .ldap account session =>
    let (answer, session) := step (Ldap.Session.client Ldap.unreachable account) session
    (answer, .ldap account session)

def client : Client Source where
  start count := dispatch fun client => client.start count
  enqueue sent query := dispatch fun client => client.enqueue sent query
  finish sent := dispatch fun client => client.finish sent

end Source
end IdentityMap.Directory
