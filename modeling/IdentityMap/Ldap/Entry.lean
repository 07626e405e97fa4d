/-
What an LDAP server says about an account, and which of its answers is taken.

The domain of an account is written in its distinguished name: the values of the `DC`
parts, joined by dots.  A lookup by name only takes an account from the domain it asked
for, which may be given in full or by its first label.
-/
import IdentityMap.Directory.Basic
import IdentityMap.Sid.Binary
import IdentityMap.Text.Blank

namespace IdentityMap.Ldap

/-- An entry as the server sends it: a distinguished name, and values of bytes for each
attribute. -/
structure RawEntry where
  dn : String
  attributes : List (String × List (List UInt8))
deriving DecidableEq, Repr

/-- The text that bytes encode, if they are UTF-8. -/
def textOfBytes? (bytes : List UInt8) : Option String :=
  String.fromUTF8? ⟨bytes.toArray⟩

namespace RawEntry

/-- The values of an attribute; without the attribute there are none. -/
def values (entry : RawEntry) (name : String) : List (List UInt8) :=
  match entry.attributes.find? (·.1 == name) with
  | some found => found.2
  | none => []

/-- The values of an attribute as texts.  One value that is no text makes the whole
attribute binary. -/
def texts (entry : RawEntry) (name : String) : List String :=
  ((entry.values name).mapM textOfBytes?).getD []

/-- The first value of an attribute.  Values that are no text go before the others. -/
def firstValue? (entry : RawEntry) (name : String) : Option (List UInt8) :=
  let values := entry.values name
  (values.find? (fun bytes => (textOfBytes? bytes).isNone)).or values.head?

end RawEntry

/-- The value of a part such as `DC=corp`, if its key is `DC` in any ASCII case.  Blanks
around the part, its key and its value do not count. -/
def domainPart? (part : List Char) : Option (List Char) :=
  let part := trimChars part
  match part.dropWhile (· != '=') with
  | '=' :: value =>
    if sameFolded (String.ofList (trimChars (part.takeWhile (· != '=')))) "dc" then
      some (trimChars value)
    else none
  | _ => none

/-- The domain in a distinguished name: `CN=x,DC=corp,DC=example` is in `corp.example`. -/
def domainOfDn (dn : String) : String :=
  String.ofList (['.'].intercalate ((dn.toList.splitOn ',').filterMap domainPart?))

/-- The first label of a domain, if it has more than one. -/
def firstLabel? (domain : String) : Option String :=
  match domain.toList.dropWhile (· != '.') with
  | [] => none
  | _ :: _ => some (String.ofList (domain.toList.takeWhile (· != '.')))

/-- The domain that was found is the one that was asked for.  The empty domain asks for
any; otherwise it has to be the domain itself or its first label. -/
def domainMatches (found requested : String) : Bool :=
  requested.isEmpty || sameFolded found requested ||
    (firstLabel? found).any (sameFolded · requested)

/-- Reads an entry.  `domainName`, if there is one, is the domain of every account. -/
def readEntry (domainName : Option String) (entry : RawEntry) : Directory.Outcome :=
  match entry.firstValue? "objectSid" with
  | none => .error (.malformed (entry.dn ++ ": no objectSid"))
  | some bytes =>
    match Sid.ofBytes bytes with
    | .error e => .error (.malformed e.message)
    | .ok sid =>
      match (entry.texts "sAMAccountName").head? with
      | none => .error (.malformed (entry.dn ++ ": no sAMAccountName"))
      | some name =>
        let isGroup := (entry.texts "objectClass").any (sameFolded · "group")
        .ok
          { sid, name, domain := domainName.getD (domainOfDn entry.dn),
            type := .ofIsUser !isGroup }

/-- The first entry from the requested domain.  An entry that makes no sense ends the
search. -/
def selectNamed (domainName : Option String) (domain : String) :
    List RawEntry → Directory.Outcome
  | [] => .error .notFound
  | entry :: rest =>
    match readEntry domainName entry with
    | .error fault => .error fault
    | .ok found =>
      if domainMatches found.domain domain then .ok found
      else selectNamed domainName domain rest

/-- The answer for a query among the entries that the server found. -/
def select (domainName : Option String) (query : Directory.Query) (entries : List RawEntry) :
    Directory.Outcome :=
  match query with
  | .ofSid _ =>
    match entries.head? with
    | some entry => readEntry domainName entry
    | none => .error .notFound
  | .ofName _ domain => selectNamed domainName domain entries

end IdentityMap.Ldap
