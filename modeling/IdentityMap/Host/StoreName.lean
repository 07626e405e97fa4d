/-
The names by which stores are opened.

A name is a path, unless it begins with `file:`.  Then it is an address.  Behind two slashes
stands a host, which has to be this one.  The path goes up to a question mark, and options
follow it, each a name and a value.  A hash sign ends the address, whatever comes after it.
Any sign but these marks may be written as a percent sign and two hexadecimal digits.

An address can ask for a store that is kept nowhere.  Such a store is empty whenever it is
opened.
-/
import IdentityMap.Text.Numeral

namespace IdentityMap

/-- Where a name says that a store is kept. -/
inductive StoreHome where
  /-- In a file, which may be made if it is not there. -/
  | file (path : String) (mayMake : Bool)
  /-- Nowhere. -/
  | nowhere
deriving DecidableEq, Repr

/-- What is wrong with an address. -/
inductive AddressFault where
  | foreignHost (host : String)
  | unknownSharing (value : String)
  | unknownAccess (value : String)
  /-- An option asks for more than one before it allows. -/
  | deniedAccess (value : String)
  | unknownSystem (value : String)
deriving DecidableEq, Repr

def AddressFault.message : AddressFault → String
  | .foreignHost host => "invalid uri authority: " ++ host
  | .unknownSharing value => "no such cache mode: " ++ value
  | .unknownAccess value => "no such access mode: " ++ value
  | .deniedAccess value => "access mode not allowed: " ++ value
  | .unknownSystem value => "no such vfs: " ++ value

namespace StoreName

/-! ### The parts of an address -/

/-- Splits a text at the first character of a kind, which belongs to neither part. -/
def splitFirst (mark : Char) (cs : List Char) : List Char × List Char :=
  (cs.takeWhile (· != mark), (cs.dropWhile (· != mark)).drop 1)

/-- Splits a text at every character of a kind. -/
def splitAll (mark : Char) : List Char → List (List Char)
  | [] => [[]]
  | c :: rest =>
    if c == mark then [] :: splitAll mark rest
    else match splitAll mark rest with
      | [] => [[c]]
      | part :: parts => (c :: part) :: parts

/-- The bytes that a part of an address stands for.  An escaped zero byte ends it. -/
def bytes : List Char → List UInt8
  | [] => []
  | '%' :: high :: low :: rest =>
    if Numeral.isHexDigit high && Numeral.isHexDigit low then
      match Numeral.valueOf 16 [high, low] with
      | 0 => []
      | n => UInt8.ofNat n :: bytes rest
    else '%'.toUInt8 :: bytes (high :: low :: rest)
  | c :: rest => String.utf8EncodeChar c ++ bytes rest

/-- The character that the first bytes spell, and how many of them. -/
def spelled? (bs : List UInt8) : Option (Char × Nat) :=
  [1, 2, 3, 4].findSome? fun size => do
    let text ← String.fromUTF8? ⟨(bs.take size).toArray⟩
    return (← text.toList.head?, size)

/-- The characters that bytes spell, from the byte behind those that are skipped.  A byte
that spells none is shown by a mark in its place. -/
def spelled : Nat → List UInt8 → List Char
  | _, [] => []
  | skipped + 1, _ :: rest => spelled skipped rest
  | 0, b :: rest =>
    match spelled? (b :: rest) with
    | some (c, size) => c :: spelled (size - 1) rest
    | none => '\uFFFD' :: spelled 0 rest

/-- The text that a part of an address stands for. -/
def decode (cs : List Char) : String :=
  String.ofList (spelled 0 (bytes cs))

/-- The options behind a path.  One without a name says nothing. -/
def options (cs : List Char) : List (String × String) :=
  ((splitAll '&' cs).map fun part =>
    let (name, value) := splitFirst '=' part
    (decode name, decode value)).filter (!·.1.isEmpty)

/-! ### What the options ask for -/

/-- How a store is opened. -/
inductive Access where
  | reading
  | writing
  | making
  | inMemory
deriving DecidableEq, Repr

namespace Access

def named? (value : String) : Option Access :=
  [("ro", reading), ("rw", writing), ("rwc", making), ("memory", inMemory)].lookup value

/-- Which access can be asked for after this one. -/
def allows : Access → Access → Bool
  | _, inMemory | _, reading | making, _ | inMemory, _ | writing, writing => true
  | _, _ => false

end Access

/-- How stores may share what they have read. -/
def sharings : List String := ["shared", "private"]

/-- The ways of keeping files that can be asked for, and the one that keeps none. -/
def systems : List String := ["unix", "unix-none", "unix-dotfile", "unix-excl", "memdb"]

/-- What the options read so far come to. -/
structure Terms where
  access : Access := .making
  system : String := "unix"

namespace Terms

/-- Reads one option.  Of those that say the same the last one counts. -/
def read (terms : Terms) : String × String → Except AddressFault Terms
  | ("vfs", value) => .ok { terms with system := value }
  | ("cache", value) => if sharings.contains value then .ok terms else .error (.unknownSharing value)
  | ("mode", value) =>
    match Access.named? value with
    | none => .error (.unknownAccess value)
    | some access =>
      if terms.access.allows access then .ok { terms with access }
      else .error (.deniedAccess value)
  | _ => .ok terms

/-- The terms under which nothing is kept. -/
def keepNothing (terms : Terms) : Bool :=
  terms.access == .inMemory || terms.system == "memdb"

end Terms

/-! ### Reading a name -/

/-- The host of an address, and what is behind it.  Without the two slashes there is none. -/
def splitHost : List Char → List Char × List Char
  | '/' :: '/' :: rest => (rest.takeWhile (· != '/'), rest.dropWhile (· != '/'))
  | cs => ([], cs)

/-- Reads what stands behind `file:`. -/
def readAddress (address : List Char) : Except AddressFault StoreHome := do
  let (host, rest) := splitHost address
  unless host.isEmpty || host == "localhost".toList do
    throw (.foreignHost (String.ofList host))
  let (path, query) := splitFirst '?' (splitFirst '#' rest).1
  let terms ← (options query).foldlM Terms.read {}
  unless systems.contains terms.system do
    throw (.unknownSystem terms.system)
  let path := decode path
  pure (if terms.keepNothing || path.isEmpty || path == ":memory:" then .nowhere
    else .file path (terms.access == .making))

/-- Where the store of a name is kept. -/
def read (name : String) : Except AddressFault StoreHome :=
  match name.toList with
  | 'f' :: 'i' :: 'l' :: 'e' :: ':' :: address => readAddress address
  | _ => .ok (.file name true)

/-- The path that a name leads to, if it leads to one. -/
def path? (name : String) : Option String :=
  match read name with
  | .ok (.file path _) => some path
  | .ok .nowhere | .error _ => none

/-! ### Plain names -/

/-- A name that is no address is the path. -/
theorem read_of_path (name : String) (h : ¬ "file:".toList <+: name.toList) :
    read name = .ok (.file name true) := by
  unfold read
  split
  · next address heq => exact absurd ⟨address, heq.symm⟩ h
  · rfl

/-- A part without percent signs stands for the bytes of its text. -/
theorem bytes_of_plain (cs : List Char) (h : '%' ∉ cs) :
    bytes cs = cs.flatMap String.utf8EncodeChar := by
  fun_induction bytes cs <;> simp_all

end StoreName
end IdentityMap
