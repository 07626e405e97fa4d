/-
The accounts of this host: names of users and groups, and their ids.
-/
import IdentityMap.Identity

namespace IdentityMap

/-- A source of local accounts.  An account that is not there is `notFound`; any other
failure says that the source itself does not work. -/
structure NameService where
  idOf : IdKind → String → Except Failure UInt32
  nameOf : IdKind → UInt32 → Except Failure String

namespace NameService

/-- Ids below 2^31 alone: such a service never gives out a minted id. -/
def IsLocal (names : NameService) : Prop :=
  ∀ kind name id, names.idOf kind name = .ok id → isEphemeral id = false

/-- A service that fails for the given names, and for the ids whose text is given. -/
def failingFor (names : NameService) (broken : List String) : NameService :=
  { idOf := fun kind name =>
      if broken.contains name then .error (.storeFailed "name service down")
      else names.idOf kind name
    nameOf := fun kind id =>
      if broken.contains (UnixId.text { kind, number := id }) then
        .error (.storeFailed "name service down")
      else names.nameOf kind id }

end NameService
end IdentityMap
