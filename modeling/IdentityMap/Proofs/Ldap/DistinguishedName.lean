/-
Distinguished names, and the domains that are written in them.

A name is a list of components with commas in between, and a component is one attribute or several
with plus signs in between.  In a value a character that means something needs a backslash before
it, so that a value may hold commas as well.  This is how the names of entries are written as text.

The domain of a name is made of the values of its `DC` attributes.  Reading it off at every comma
does not stop at the ends of the components.  So a value with a comma can hold what looks like
another domain component, and this counts when the domain is read.
-/
import Mathlib
import IdentityMap.Ldap.Entry
import IdentityMap.Proofs.Text.Blank
import IdentityMap.Proofs.Text.Parts

namespace IdentityMap.Ldap

/-! ### The grammar of names -/

/-- A piece of a value: a character that stands for itself, one behind a backslash, or a byte as
two digits behind a backslash. -/
inductive Piece where
  | plain (c : Char)
  | escaped (c : Char)
  | byte (high low : Char)
deriving DecidableEq

namespace Piece

def chars : Piece → List Char
  | plain c => [c]
  | escaped c => ['\\', c]
  | byte high low => ['\\', high, low]

/-- The bytes that the piece stands for. -/
def bytes : Piece → List UInt8
  | plain c => String.utf8EncodeChar c
  | escaped c => String.utf8EncodeChar c
  | byte high low => [UInt8.ofNat (Numeral.valueOf 16 [high, low])]

/-- The characters that need a backslash wherever they stand. -/
def specials : List Char := ['"', '+', ',', ';', '<', '>', '\\']

def isValid : Piece → Bool
  | plain c => !specials.contains c && c != '\x00'
  | escaped c => specials.contains c || [' ', '#', '='].contains c
  | byte high low => Numeral.isHexDigit high && Numeral.isHexDigit low

end Piece

/-- The value of an attribute, as it is written. -/
inductive Value where
  | text (pieces : List Piece)
  /-- The digits, in pairs, of the value's encoding. -/
  | encoding (digits : List (Char × Char))
deriving DecidableEq

namespace Value

def chars : Value → List Char
  | text pieces => pieces.flatMap Piece.chars
  | encoding digits => '#' :: digits.flatMap fun (high, low) => [high, low]

/-- A value neither begins nor ends with a blank, nor begins with a number sign, unless there is a
backslash before it. -/
def isValid : Value → Bool
  | text pieces => pieces.all Piece.isValid && pieces.head? != some (.plain ' ') &&
      pieces.head? != some (.plain '#') && pieces.getLast? != some (.plain ' ')
  | encoding digits => !digits.isEmpty && digits.all fun (high, low) =>
      Numeral.isHexDigit high && Numeral.isHexDigit low

/-- A value without backslashes. -/
def plain (label : List Char) : Value :=
  text (label.map .plain)

/-- The text that a value is.  One that is given by its encoding is none here. -/
def text? : Value → Option String
  | text pieces => textOfBytes? (pieces.flatMap Piece.bytes)
  | encoding _ => none

end Value

structure Attribute where
  /-- A keyword, or numbers with dots in between. -/
  type : List Char
  value : Value
deriving DecidableEq

namespace Attribute

def chars (a : Attribute) : List Char :=
  a.type ++ '=' :: a.value.chars

def isKeyword (type : List Char) : Bool :=
  match type with
  | [] => false
  | first :: rest => first.isAlpha && rest.all fun c => c.isAlphanum || c == '-'

def isNumeric (type : List Char) : Bool :=
  2 ≤ (type.splitOn '.').length && (type.splitOn '.').all fun number =>
    !number.isEmpty && number.all Char.isDigit && (number == ['0'] || number.head? != some '0')

def isValid (a : Attribute) : Bool :=
  (isKeyword a.type || isNumeric a.type) && a.value.isValid

/-- The type is the keyword `DC`, in any case. -/
def isNamedDomain (a : Attribute) : Bool :=
  sameFolded (String.ofList a.type) "dc"

/-- The type is that of domain components, which has a number as well. -/
def isDomain (a : Attribute) : Bool :=
  a.isNamedDomain || a.type == "0.9.2342.19200300.100.1.25".toList

end Attribute

/-- A component of a name. -/
structure Component where
  first : Attribute
  others : List Attribute := []
deriving DecidableEq

namespace Component

def attributes (c : Component) : List Attribute :=
  c.first :: c.others

def chars (c : Component) : List Char :=
  ['+'].intercalate (c.attributes.map Attribute.chars)

end Component

structure DistinguishedName where
  components : List Component
deriving DecidableEq

namespace DistinguishedName

def attributes (d : DistinguishedName) : List Attribute :=
  d.components.flatMap Component.attributes

def chars (d : DistinguishedName) : List Char :=
  [','].intercalate (d.components.map Component.chars)

def isValid (d : DistinguishedName) : Bool :=
  d.attributes.all Attribute.isValid

/-- The text is a valid name, and this one. -/
def Spells (d : DistinguishedName) (text : String) : Prop :=
  d.isValid = true ∧ text.toList = d.chars

/-- The domain of a name: the values of its domain components, with dots in between. -/
def domain? (d : DistinguishedName) : Option String :=
  let labels? := (d.attributes.filter Attribute.isDomain).mapM fun a => a.value.text?
  labels?.map fun labels => String.ofList (['.'].intercalate (labels.map String.toList))

end DistinguishedName

/-! ### What hides a domain, and what does not -/

/-- The text looks like a domain component. -/
def IsDomainPart (part : List Char) : Prop :=
  ∃ key value, part = key ++ '=' :: value ∧ '=' ∉ key ∧
    sameFolded (String.ofList (trimChars key)) "dc" = true

/-- The domain component is named by its keyword, and its value needs no backslash. -/
structure Attribute.IsPlain (a : Attribute) : Prop where
  named : a.isNamedDomain = true
  value : ∃ label : List Char, a.value = .plain label ∧ IsTrimmed label

/-- All domain components stand alone and are plain. -/
def DistinguishedName.IsPlain (d : DistinguishedName) : Prop :=
  ∀ c ∈ d.components, ∀ a ∈ c.attributes, a.isDomain = true → c.others = [] ∧ a.IsPlain

/-- Behind a comma in a component there is what looks like a domain component. -/
def Component.Hides (c : Component) : Prop :=
  ∃ part ∈ (c.chars.splitOn ',').tail, IsDomainPart part

def DistinguishedName.Hides (d : DistinguishedName) : Prop :=
  ∃ c ∈ d.components, c.Hides

variable {part key value : List Char} {a : Attribute} {c : Component} {d : DistinguishedName}

/-! ### Parts that are read -/

theorem domainPart?_append (hkey : '=' ∉ key) :
    domainPart? (key ++ '=' :: value) =
      if sameFolded (String.ofList (trimChars key)) "dc" then
        some (trimChars (value.rdropWhile isBlank))
      else none := by
  have hall : ∀ c ∈ key.dropWhile isBlank, (c != '=') = true := by
    intro c hc
    rw [bne_iff_ne]
    rintro rfl
    exact hkey ((List.dropWhile_suffix _).subset hc)
  rw [domainPart?, trimChars_append_cons (by decide), List.dropWhile_append_of_pos hall,
    List.takeWhile_append_of_pos hall]
  simp [trimChars_dropWhile]

theorem domainPart?_of_not_mem (h : '=' ∉ part) : domainPart? part = none := by
  have hall : ∀ c ∈ trimChars part, (c != '=') = true := by
    intro c hc
    rw [bne_iff_ne]
    rintro rfl
    exact h (mem_of_mem_trimChars hc)
  have hnil : (trimChars part).dropWhile (· != '=') = [] := List.dropWhile_eq_nil_iff.mpr hall
  rw [domainPart?, hnil]

theorem isSome_domainPart?_iff : (domainPart? part).isSome = true ↔ IsDomainPart part := by
  constructor
  · intro h
    by_cases hmem : '=' ∈ part
    · obtain ⟨key, value, rfl, hkey⟩ := List.eq_append_cons_of_mem hmem
      rw [domainPart?_append hkey] at h
      split at h
      · next hdc => exact ⟨key, value, rfl, hkey, hdc⟩
      · cases h
    · rw [domainPart?_of_not_mem hmem] at h
      cases h
  · rintro ⟨key, value, rfl, hkey, hdc⟩
    rw [domainPart?_append hkey, if_pos hdc]
    rfl

/-! ### Types and values -/

/-- Types are made of these characters. -/
def IsTypeChar (c : Char) : Prop :=
  c.isAlphanum = true ∨ c = '-' ∨ c = '.'

theorem isTypeChar_of_isKeyword (h : Attribute.isKeyword key = true) {c : Char} (hc : c ∈ key) :
    IsTypeChar c := by
  cases key with
  | nil => cases h
  | cons first rest =>
      obtain ⟨hfirst, hrest⟩ := Bool.and_eq_true_iff.mp h
      rcases List.mem_cons.mp hc with rfl | hc
      · exact .inl (by simp [Char.isAlphanum, hfirst])
      · have hchar := List.all_eq_true.mp hrest c hc
        rw [Bool.or_eq_true, beq_iff_eq] at hchar
        exact hchar.imp_right .inl

theorem isTypeChar_of_isNumeric (h : Attribute.isNumeric key = true) {c : Char} (hc : c ∈ key) :
    IsTypeChar c := by
  have hnumbers := (Bool.and_eq_true_iff.mp h).2
  have hjoined : ['.'].intercalate (key.splitOn '.') = key := List.intercalate_splitOn '.'
  rw [← hjoined] at hc
  rcases mem_intercalate hc with rfl | ⟨number, hnumber, hc⟩
  · exact .inr (.inr rfl)
  · have hdigits := List.all_eq_true.mp hnumbers number hnumber
    simp only [Bool.and_eq_true] at hdigits
    have hdigit := List.all_eq_true.mp hdigits.1.2 c hc
    exact .inl (by simp [Char.isAlphanum, hdigit])

theorem isTypeChar_of_isValid (h : a.isValid = true) {c : Char} (hc : c ∈ a.type) :
    IsTypeChar c := by
  have htype := (Bool.and_eq_true_iff.mp h).1
  rcases Bool.or_eq_true_iff.mp htype with hkeyword | hnumeric
  · exact isTypeChar_of_isKeyword hkeyword hc
  · exact isTypeChar_of_isNumeric hnumeric hc

theorem IsTypeChar.isBlank_eq_false {c : Char} (h : IsTypeChar c) : isBlank c = false := by
  rcases h with h | rfl | rfl
  · have hrange : (48 ≤ c.toNat ∧ c.toNat ≤ 57) ∨ (65 ≤ c.toNat ∧ c.toNat ≤ 90) ∨
        (97 ≤ c.toNat ∧ c.toNat ≤ 122) := by
      simp only [Char.isAlphanum, Char.isAlpha, Char.isUpper, Char.isLower, Char.isDigit,
        Bool.or_eq_true, Bool.and_eq_true, decide_eq_true_eq, UInt32.le_iff_toNat_le,
        ge_iff_le] at h
      change (((65 ≤ c.toNat ∧ c.toNat ≤ 90) ∨ (97 ≤ c.toNat ∧ c.toNat ≤ 122)) ∨
        (48 ≤ c.toNat ∧ c.toNat ≤ 57)) at h
      omega
    generalize hn : c.toNat = n at hrange
    rw [isBlank, hn]
    simp only [Bool.or_eq_false_iff, Bool.and_eq_false_iff, beq_eq_false_iff_ne,
      decide_eq_false_iff_not]
    omega
  · decide
  · decide

theorem not_mem_type (h : a.isValid = true) : ',' ∉ a.type ∧ '=' ∉ a.type := by
  constructor
  all_goals
    intro hc
    have := isTypeChar_of_isValid h hc
    revert this
    unfold IsTypeChar
    decide

theorem trimChars_type (h : a.isValid = true) : trimChars a.type = a.type := by
  refine trimChars_eq_self (.of_any (List.any_eq_false.mpr fun c hc => ?_))
  rw [(isTypeChar_of_isValid h hc).isBlank_eq_false]
  exact Bool.false_ne_true

/-- What an attribute is read as, up to where its value is cut off. -/
theorem domainPart?_type (h : a.isValid = true) (value : List Char) :
    domainPart? (a.type ++ '=' :: value) =
      if a.isNamedDomain then some (trimChars (value.rdropWhile isBlank)) else none := by
  rw [domainPart?_append (not_mem_type h).2, trimChars_type h]
  rfl

theorem chars_of_plain (label : List Char) :
    (Value.plain label).chars = label := by
  simp [Value.plain, Value.chars, Piece.chars, List.flatMap_map]

/-- The bytes of a text are those of its characters. -/
theorem textOfBytes?_flatMap (cs : List Char) :
    textOfBytes? (cs.flatMap String.utf8EncodeChar) = some (String.ofList cs) := by
  have hbytes : (⟨(cs.flatMap String.utf8EncodeChar).toArray⟩ : ByteArray)
      = (String.ofList cs).toByteArray := by
    apply ByteArray.ext
    rw [String.toByteArray_ofList]
    simp [List.utf8Encode]
  rw [textOfBytes?, hbytes, String.fromUTF8?, dif_pos (String.ofList cs).isValidUTF8]
  rfl

theorem text?_of_plain (label : List Char) :
    (Value.plain label).text? = some (String.ofList label) := by
  rw [Value.plain, Value.text?, List.flatMap_map]
  exact textOfBytes?_flatMap label

theorem not_mem_of_plain {label : List Char} (h : (Value.plain label).isValid = true) :
    ',' ∉ label := by
  intro hc
  simp only [Value.plain, Value.isValid, Bool.and_eq_true, List.all_eq_true] at h
  have hcomma := h.1.1.1 (.plain ',') (List.mem_map_of_mem hc)
  revert hcomma
  decide

/-! ### Components that are read -/

/-- What follows the first type of a component. -/
theorem Component.chars_eq (c : Component) : ∃ behind, c.chars = c.first.type ++ '=' :: behind ∧
    (c.others = [] → behind = c.first.value.chars) := by
  obtain ⟨first, others⟩ := c
  cases others with
  | nil => exact ⟨first.value.chars, by simp [chars, attributes, Attribute.chars], fun _ => rfl⟩
  | cons next others =>
      refine ⟨first.value.chars ++ '+' :: ['+'].intercalate
        ((next :: others).map Attribute.chars), ?_, by simp⟩
      simp [chars, attributes, Attribute.chars, List.intercalate_cons_cons]

/-- What is read of a component: its domain, if it has one, and what it hides. -/
theorem filterMap_domainPart?_component (hvalid : ∀ a ∈ c.attributes, a.isValid = true)
    (hplain : ∀ a ∈ c.attributes, a.isDomain = true → c.others = [] ∧ a.IsPlain) :
    (c.chars.splitOn ',').filterMap domainPart?
      = (c.attributes.filter Attribute.isDomain).map (·.value.chars)
        ++ (c.chars.splitOn ',').tail.filterMap domainPart? := by
  have hfirst : c.first.isValid = true := hvalid c.first (by simp [Component.attributes])
  obtain ⟨behind, hchars, hbehind⟩ := c.chars_eq
  obtain ⟨value, tail, hsplit⟩ := List.exists_cons_of_ne_nil (List.splitOn_ne_nil ',' behind)
  have hparts : c.chars.splitOn ',' = (c.first.type ++ '=' :: value) :: tail := by
    have hkey : ',' ∉ c.first.type ++ ['='] := by simp [(not_mem_type hfirst).1]
    rw [hchars, List.append_cons _ _ behind, List.append_cons _ _ value]
    exact splitOn_append_of_not_mem hkey hsplit
  rw [hparts, List.filterMap_cons, domainPart?_type hfirst, List.tail_cons]
  by_cases hnamed : c.first.isNamedDomain = true
  · -- The component is the domain component alone, and its value holds no comma.
    have hdomain : c.first.isDomain = true := by simp [Attribute.isDomain, hnamed]
    obtain ⟨halone, hplain⟩ := hplain c.first (by simp [Component.attributes]) hdomain
    obtain ⟨label, hvalue, htrimmed⟩ := hplain.value
    have hlabel : behind = label := by rw [hbehind halone, hvalue, chars_of_plain]
    have hcomma : ',' ∉ label := by
      refine not_mem_of_plain ?_
      rw [← hvalue]
      exact (Bool.and_eq_true_iff.mp hfirst).2
    rw [hlabel, List.splitOn_eq_singleton hcomma] at hsplit
    obtain ⟨rfl, rfl⟩ := List.cons.inj hsplit
    rw [if_pos hnamed, htrimmed.rdropWhile_eq, trimChars_eq_self htrimmed]
    simp [Component.attributes, halone, hdomain, hvalue, chars_of_plain]
  · have hnone : c.attributes.filter Attribute.isDomain = [] := by
      refine List.filter_eq_nil_iff.mpr fun a ha hdomain => ?_
      obtain ⟨halone, hplain⟩ := hplain a ha hdomain
      rw [Component.attributes, halone, List.mem_singleton] at ha
      exact hnamed (ha ▸ hplain.named)
    rw [if_neg hnamed, hnone]
    rfl

/-! ### Names that are read -/

/-- What is read behind the commas in a component. -/
def Component.hidden (c : Component) : List (List Char) :=
  (c.chars.splitOn ',').tail.filterMap domainPart?

/-- The labels of a component, if they are plain. -/
def Component.labels (c : Component) : List (List Char) :=
  (c.attributes.filter Attribute.isDomain).map (·.value.chars)

theorem Component.hides_iff : c.Hides ↔ c.hidden ≠ [] := by
  simp only [Hides, hidden, ← isSome_domainPart?_iff, ne_eq, List.filterMap_eq_nil_iff]
  push Not
  simp only [Option.isSome_iff_ne_none]

/-- The labels that are read of a name. -/
theorem filterMap_domainPart?_chars (hvalid : d.isValid = true) (hplain : d.IsPlain) :
    (d.chars.splitOn ',').filterMap domainPart?
      = d.components.flatMap fun c => c.labels ++ c.hidden := by
  by_cases hnil : d.components = []
  · rw [DistinguishedName.chars, hnil]
    rfl
  have hmap : d.components.map Component.chars ≠ [] := by simp [hnil]
  rw [DistinguishedName.chars, splitOn_intercalate_eq_flatMap hmap, List.flatMap_map,
    List.filterMap_flatMap]
  refine List.flatMap_congr fun c hc => ?_
  refine filterMap_domainPart?_component (fun a ha => ?_) (hplain c hc)
  exact List.all_eq_true.mp hvalid a (List.mem_flatMap.mpr ⟨c, hc, ha⟩)

theorem text?_of_isPlain (h : a.IsPlain) : a.value.text? = some (String.ofList a.value.chars) := by
  obtain ⟨label, hvalue, -⟩ := h.value
  rw [hvalue, text?_of_plain, chars_of_plain]

theorem mapM_text? {attributes : List Attribute} (h : ∀ a ∈ attributes, a.IsPlain) :
    (attributes.mapM fun a => a.value.text?)
      = some (attributes.map fun a => String.ofList a.value.chars) := by
  induction attributes with
  | nil => rfl
  | cons a attributes ih =>
      rw [List.mapM_cons, text?_of_isPlain (h a List.mem_cons_self),
        ih fun other hother => h other (List.mem_cons_of_mem a hother)]
      rfl

/-- The domain of a name whose domain components are plain. -/
theorem domain?_of_isPlain (h : d.IsPlain) :
    d.domain?
      = some (String.ofList (['.'].intercalate (d.components.flatMap Component.labels))) := by
  have hplain : ∀ a ∈ d.attributes.filter Attribute.isDomain, a.IsPlain := by
    intro a ha
    obtain ⟨hattribute, hdomain⟩ := List.mem_filter.mp ha
    obtain ⟨c, hc, ha⟩ := List.mem_flatMap.mp hattribute
    exact (h c hc a ha hdomain).2
  have hlabels : (d.attributes.filter Attribute.isDomain).map (fun a => a.value.chars)
      = d.components.flatMap Component.labels := by
    rw [DistinguishedName.attributes, List.filter_flatMap, List.map_flatMap]
    rfl
  rw [DistinguishedName.domain?, mapM_text? hplain, ← hlabels]
  simp [List.map_map, Function.comp_def]

/-- How many characters labels take, with one more for each. -/
def weight (labels : List (List Char)) : Nat :=
  (labels.map (·.length + 1)).sum

theorem length_intercalate (labels : List (List Char)) :
    (['.'].intercalate labels).length = weight labels - 1 := by
  induction labels with
  | nil => rfl
  | cons label labels ih =>
      cases labels with
      | nil => simp [weight]
      | cons next labels =>
          rw [List.intercalate_cons_cons, List.length_append, List.length_append, ih]
          simp [weight]
          omega

theorem weight_flatMap_append (components : List Component) :
    weight (components.flatMap fun c => c.labels ++ c.hidden)
      = weight (components.flatMap Component.labels) +
        weight (components.flatMap Component.hidden) := by
  induction components with
  | nil => rfl
  | cons c components ih =>
      simp only [weight, List.flatMap_cons, List.map_append, List.sum_append] at ih ⊢
      omega

theorem weight_eq_zero_iff {labels : List (List Char)} : weight labels = 0 ↔ labels = [] := by
  cases labels with
  | nil => simp [weight]
  | cons label labels => simp [weight]

/-- The domain that is read of a name is the one that is written in it, unless it hides one. -/
theorem domainOfDn_eq_iff {text : String} (h : d.Spells text) (hplain : d.IsPlain)
    (hne : domainOfDn text ≠ "") :
    ∃ real, d.domain? = some real ∧ (domainOfDn text = real ↔ ¬d.Hides) := by
  refine ⟨_, domain?_of_isPlain hplain, ?_⟩
  have hread : domainOfDn text = String.ofList
      (['.'].intercalate (d.components.flatMap fun c => c.labels ++ c.hidden)) := by
    rw [domainOfDn, h.2, filterMap_domainPart?_chars h.1 hplain]
  rw [hread] at hne ⊢
  have hhides : d.Hides ↔ d.components.flatMap Component.hidden ≠ [] := by
    simp only [DistinguishedName.Hides, Component.hides_iff, ne_eq, List.flatMap_eq_nil_iff]
    push Not
    rfl
  rw [hhides, not_not, String.ofList_inj]
  constructor
  · intro heq
    have hlength := congrArg List.length heq
    rw [length_intercalate, length_intercalate, weight_flatMap_append] at hlength
    have hpos : (['.'].intercalate
        (d.components.flatMap fun c => c.labels ++ c.hidden)).length ≠ 0 := by
      intro hzero
      exact hne (congrArg String.ofList (List.length_eq_zero_iff.mp hzero))
    rw [length_intercalate, weight_flatMap_append] at hpos
    exact weight_eq_zero_iff.mp (by omega)
  · intro hnone
    rw [List.flatMap_congr fun c hc => ?_]
    rw [List.flatMap_eq_nil_iff.mp hnone c hc, List.append_nil]

end IdentityMap.Ldap
