/-
Accounts that are looked up by name, and the domains they are from.

A lookup takes the first entry that is read as one of the requested domain.  The domain is read off
the entry's name.  It is the one that is written there if the domain components are plain, and if no
other value holds a comma behind which there is what looks like a domain component.

Otherwise the lookup can be led astray.  Whoever names an entry can put any label in front of its
domain, and then the entry is taken for one of that domain.
-/
import IdentityMap.Proofs.Ldap.DistinguishedName

namespace IdentityMap.Ldap

variable {fixed : Option String} {name domain : String} {entries : List RawEntry}
  {entry : RawEntry} {found : Directory.Entry}

/-! ### Domains that match -/

/-- A domain is meant by its whole text, or by its first label if it has more than one, in any ASCII
case. -/
def IsMeantBy (domain requested : String) : Prop :=
  sameFolded domain requested = true ∨
    ∃ label rest, domain.toList = label ++ '.' :: rest ∧ '.' ∉ label ∧
      sameFolded (String.ofList label) requested = true

theorem firstLabel?_of_append {label rest : List Char}
    (hdomain : domain.toList = label ++ '.' :: rest) (hlabel : '.' ∉ label) :
    firstLabel? domain = some (String.ofList label) := by
  have hall : ∀ c ∈ label, (c != '.') = true := by
    intro c hc
    rw [bne_iff_ne]
    rintro rfl
    exact hlabel hc
  rw [firstLabel?, hdomain, List.dropWhile_append_of_pos hall, List.takeWhile_append_of_pos hall]
  simp

theorem firstLabel?_of_not_mem (h : '.' ∉ domain.toList) : firstLabel? domain = none := by
  have hnil : domain.toList.dropWhile (· != '.') = [] := by
    refine List.dropWhile_eq_nil_iff.mpr fun c hc => ?_
    rw [bne_iff_ne]
    rintro rfl
    exact h hc
  rw [firstLabel?, hnil]

theorem domainMatches_iff {requested : String} :
    domainMatches domain requested = true ↔ requested = "" ∨ IsMeantBy domain requested := by
  rw [domainMatches, Bool.or_eq_true, Bool.or_eq_true, String.isEmpty_iff, or_assoc, IsMeantBy]
  refine or_congr_right (or_congr_right ?_)
  constructor
  · intro hany
    by_cases hdot : '.' ∈ domain.toList
    · obtain ⟨label, rest, hdomain, hlabel⟩ := List.eq_append_cons_of_mem hdot
      rw [firstLabel?_of_append hdomain hlabel] at hany
      exact ⟨label, rest, hdomain, hlabel, hany⟩
    · rw [firstLabel?_of_not_mem hdot] at hany
      cases hany
  · rintro ⟨label, rest, hdomain, hlabel, hfolded⟩
    rw [firstLabel?_of_append hdomain hlabel]
    exact hfolded

/-- The empty domain is meant by no other text. -/
theorem IsMeantBy.ne_empty {requested : String} (h : IsMeantBy domain requested)
    (hne : requested ≠ "") : domain ≠ "" := by
  rintro rfl
  rcases h with h | ⟨label, rest, hdomain, -, -⟩
  · rw [sameFolded_iff] at h
    have hnil : requested.toList = [] := List.map_eq_nil_iff.mp h.symm
    exact hne (String.toList_eq_nil_iff.mp hnil)
  · simp at hdomain

/-! ### The entry that is taken -/

/-- The entry is read as an account of another domain. -/
def IsElsewhere (fixed : Option String) (domain : String) (entry : RawEntry) : Prop :=
  ∃ account, readEntry fixed entry = .ok account ∧ domainMatches account.domain domain = false

/-- A lookup by name takes the first entry of the domain, and reads all entries before it. -/
structure Takes (fixed : Option String) (domain : String) (entries : List RawEntry)
    (entry : RawEntry) (found : Directory.Entry) : Prop where
  split : ∃ before after, entries = before ++ entry :: after ∧
    ∀ other ∈ before, IsElsewhere fixed domain other
  reads : readEntry fixed entry = .ok found
  fits : domainMatches found.domain domain = true

theorem Takes.cons {other : RawEntry} (h : Takes fixed domain entries entry found)
    (hother : IsElsewhere fixed domain other) :
    Takes fixed domain (other :: entries) entry found where
  split := by
    obtain ⟨before, after, rfl, hbefore⟩ := h.split
    exact ⟨other :: before, after, rfl, List.forall_mem_cons.mpr ⟨hother, hbefore⟩⟩
  reads := h.reads
  fits := h.fits

theorem exists_takes_of_selectNamed (h : selectNamed fixed domain entries = .ok found) :
    ∃ entry, Takes fixed domain entries entry found := by
  induction entries with
  | nil => cases h
  | cons first rest ih =>
      rw [selectNamed] at h
      cases hread : readEntry fixed first with
      | error fault =>
          rw [hread] at h
          cases h
      | ok account =>
          simp only [hread] at h
          split at h
          · next hmatch =>
            cases h
            exact ⟨first, ⟨[], rest, rfl, by simp⟩, hread, hmatch⟩
          · next hmatch =>
            obtain ⟨entry, htakes⟩ := ih h
            exact ⟨entry, htakes.cons ⟨account, hread, Bool.eq_false_iff.mpr hmatch⟩⟩

/-- The domain of an account that is read is the one that is read off its name. -/
theorem domain_of_readEntry (h : readEntry none entry = .ok found) :
    found.domain = domainOfDn entry.dn := by
  unfold readEntry at h
  split at h
  · cases h
  split at h
  · cases h
  split at h
  · cases h
  cases h
  rfl

/--
**An account that is looked up by name is from the requested domain, if its name hides none.**

The account is read off the first entry whose domain is meant by the request, and the entries before
it are accounts of other domains.  When the domain components of its name are plain, the domain that
was read is the one that is written in the name if and only if no component hides another one behind
a comma.  Then the request means the domain that is written in the name.
-/
theorem named_account_is_from_domain
    (h : select none (.ofName name domain) entries = .ok found) (hdomain : domain ≠ "") :
    ∃ entry, Takes none domain entries entry found ∧
      ∀ d : DistinguishedName, d.Spells entry.dn → d.IsPlain →
        ∃ real, d.domain? = some real ∧ (found.domain = real ↔ ¬d.Hides) ∧
          (¬d.Hides → IsMeantBy real domain) := by
  obtain ⟨entry, htakes⟩ := exists_takes_of_selectNamed h
  refine ⟨entry, htakes, fun d hspells hplain => ?_⟩
  have hmeant : IsMeantBy found.domain domain :=
    (domainMatches_iff.mp htakes.fits).resolve_left hdomain
  have hread := domain_of_readEntry htakes.reads
  have hne : domainOfDn entry.dn ≠ "" := hread ▸ hmeant.ne_empty hdomain
  obtain ⟨real, hreal, hiff⟩ := domainOfDn_eq_iff hspells hplain hne
  rw [← hread] at hiff
  exact ⟨real, hreal, hiff, fun hhides => hiff.mpr hhides ▸ hmeant⟩

/-- The entry of a user called alice. -/
def alice (dn : String) : RawEntry where
  dn := dn
  attributes := [("sAMAccountName", [[97, 108, 105, 99, 101]]),
    ("objectSid", [[1, 2, 0, 0, 0, 0, 0, 5, 7, 0, 0, 0, 80, 4, 0, 0]])]

/-- A comma in the name of a user is no harm by itself. -/
theorem named_account_is_from_domain_corp :
    let dn := "CN=X\\,Y,DC=corp,dc=example"
    let found : Directory.Entry :=
      { sid := { base := "S-1-5-7", rid := 1104 }, name := "alice", domain := "corp.example",
        type := .user }
    let user : Attribute :=
      { type := ['C', 'N'], value := .text [.plain 'X', .escaped ',', .plain 'Y'] }
    let corp : Attribute := { type := ['D', 'C'], value := .plain "corp".toList }
    let top : Attribute := { type := ['d', 'c'], value := .plain "example".toList }
    let d : DistinguishedName := { components := [{ first := user }, { first := corp },
      { first := top }] }
    select none (.ofName "alice" "CORP") [alice dn] = .ok found ∧ d.Spells dn ∧
      d.domain? = some "corp.example" ∧ IsMeantBy "corp.example" "CORP" := by
  intro dn found user corp top d
  have h : select none (.ofName "alice" "CORP") [alice dn] = .ok found := by decide +kernel
  have hspells : d.Spells dn := ⟨by decide +kernel, by decide +kernel⟩
  have hplain : d.IsPlain := by
    intro c hc a ha hdomain
    simp only [d, List.mem_cons, List.not_mem_nil, or_false] at hc
    rcases hc with rfl | rfl | rfl
    · obtain rfl := List.mem_singleton.mp ha
      exact absurd hdomain (by decide +kernel)
    · obtain rfl := List.mem_singleton.mp ha
      exact ⟨rfl, by decide, "corp".toList, rfl, .of_any (by decide)⟩
    · obtain rfl := List.mem_singleton.mp ha
      exact ⟨rfl, by decide, "example".toList, rfl, .of_any (by decide)⟩
  have hhides : ¬d.Hides := by
    rintro ⟨c, hc, hhides⟩
    have hnone : ∀ c ∈ d.components, c.hidden = [] := by decide +kernel
    exact Component.hides_iff.mp hhides (hnone c hc)
  obtain ⟨entry, htakes, hfrom⟩ := named_account_is_from_domain h (by decide)
  obtain ⟨before, after, hentries, -⟩ := htakes.split
  obtain rfl : entry = alice dn := by
    cases before with
    | nil => simp_all
    | cons => simp_all
  obtain ⟨real, hreal, hiff, hmeant⟩ := hfrom d hspells hplain
  obtain rfl : found.domain = real := hiff.mpr hhides
  exact ⟨h, hspells, hreal, hmeant hhides⟩

/-- A user of one domain is taken for one of another, which the user's name mentions. -/
theorem named_account_from_other_domain :
    let dn := "CN=x\\,DC=corp,DC=evil"
    let user : Attribute := { type := ['C', 'N'], value := .text [.plain 'x', .escaped ',',
      .plain 'D', .plain 'C', .plain '=', .plain 'c', .plain 'o', .plain 'r', .plain 'p'] }
    let evil : Attribute := { type := ['D', 'C'], value := .plain "evil".toList }
    let d : DistinguishedName := { components := [{ first := user }, { first := evil }] }
    select none (.ofName "alice" "corp") [alice dn] = .ok
        { sid := { base := "S-1-5-7", rid := 1104 }, name := "alice", domain := "corp.evil",
          type := .user } ∧
      d.Spells dn ∧ d.domain? = some "evil" ∧ ¬IsMeantBy "evil" "corp" := by
  intro dn user evil d
  refine ⟨by decide +kernel, ⟨by decide +kernel, by decide +kernel⟩, by decide +kernel, ?_⟩
  rintro (h | ⟨label, rest, hdot, -, -⟩)
  · revert h
    decide
  · have hmem : '.' ∈ "evil".toList := by simp [hdot]
    revert hmem
    decide

/-- A text with a comma behind which there is what looks like a domain component. -/
def disguised (label : List Char) : List Piece :=
  [Piece.plain 'x', .escaped ',', .plain 'D', .plain 'C', .plain '='] ++ label.map Piece.plain

/-- A component with such a value, which is no domain component itself. -/
def disguise (label : List Char) : Component where
  first := { type := ['C', 'N'], value := .text (disguised label) }

variable {label : List Char}

theorem chars_disguise (label : List Char) :
    (disguise label).chars = ['C', 'N', '=', 'x', '\\'] ++ ',' :: (['D', 'C'] ++ '=' :: label) := by
  simp [disguise, disguised, Component.chars, Component.attributes, Attribute.chars, Value.chars,
    Piece.chars, List.flatMap_map]

theorem hidden_disguise (hcomma : ',' ∉ label) (htrimmed : IsTrimmed label) :
    (disguise label).hidden = [label] := by
  have hpart : domainPart? (['D', 'C'] ++ '=' :: label) = some label := by
    rw [domainPart?_append (by decide), if_pos (by decide), htrimmed.rdropWhile_eq,
      trimChars_eq_self htrimmed]
  rw [Component.hidden, chars_disguise, List.splitOn_append_cons_self_of_not_mem (by decide),
    List.splitOn_eq_singleton (by simpa using hcomma), List.tail_cons, List.filterMap_cons, hpart]
  rfl

theorem isValid_disguised (h : (Value.plain label).isValid = true) :
    (Value.text (disguised label)).isValid = true := by
  simp only [Value.plain, Value.isValid, Bool.and_eq_true, bne_iff_ne] at h ⊢
  obtain ⟨⟨⟨hall, -⟩, -⟩, hlast⟩ := h
  refine ⟨⟨⟨?_, by simp [disguised]⟩, by simp [disguised]⟩, ?_⟩
  · rw [disguised, List.all_append, hall]
    decide
  · rw [disguised, List.getLast?_append]
    cases hend : (label.map Piece.plain).getLast? with
    | none => decide
    | some piece =>
        rw [hend] at hlast
        simpa using hlast

/-- A domain whose first label is a text is meant by that text. -/
theorem isMeantBy_intercalate (hdot : '.' ∉ label) (labels : List (List Char)) :
    IsMeantBy (String.ofList (['.'].intercalate (label :: labels))) (String.ofList label) := by
  cases labels with
  | nil =>
      left
      rw [List.intercalate_singleton]
      exact sameFolded_refl _
  | cons next labels =>
      refine .inr ⟨label, ['.'].intercalate (next :: labels), ?_, hdot, sameFolded_refl _⟩
      rw [String.toList_ofList, List.intercalate_cons_cons]
      simp

theorem isDomain_disguise (label : List Char) : (disguise label).first.isDomain = false := by
  show (sameFolded (String.ofList ['C', 'N']) "dc" ||
    ['C', 'N'] == "0.9.2342.19200300.100.1.25".toList) = false
  decide

theorem labels_disguise (label : List Char) : (disguise label).labels = [] := by
  have hnone : [(disguise label).first].filter Attribute.isDomain = [] := by
    rw [List.filter_cons, isDomain_disguise]
    rfl
  show ([(disguise label).first].filter Attribute.isDomain).map _ = []
  rw [hnone, List.map_nil]

/-- The name of an entry below another one. -/
def DistinguishedName.below (d : DistinguishedName) (c : Component) : DistinguishedName where
  components := c :: d.components

/--
**Whatever domain an entry is in, its name can be one that any other domain is read off.**

The component in front has a valid value with a comma in it, and the domain that is written in the
name stays what it is.
-/
theorem exists_disguise {d : DistinguishedName} (hvalid : d.isValid = true) (hplain : d.IsPlain)
    (hlabel : (Value.plain label).isValid = true) (htrimmed : IsTrimmed label)
    (hdot : '.' ∉ label) :
    ∃ c, (d.below c).isValid = true ∧ (d.below c).domain? = d.domain? ∧
      ∀ text, (d.below c).Spells text → IsMeantBy (domainOfDn text) (String.ofList label) := by
  have htype : Attribute.isKeyword ['C', 'N'] = true := by decide
  have hattribute : ∀ a ∈ (disguise label).attributes, a.isValid = true ∧ a.isDomain = false := by
    intro a ha
    obtain rfl : a = (disguise label).first := List.mem_singleton.mp ha
    refine ⟨Bool.and_eq_true_iff.mpr ⟨?_, isValid_disguised hlabel⟩, isDomain_disguise label⟩
    exact Bool.or_eq_true_iff.mpr (.inl htype)
  have hvalid' : (d.below (disguise label)).isValid = true := by
    refine List.all_eq_true.mpr fun a ha => ?_
    rcases List.mem_append.mp ha with ha | ha
    · exact (hattribute a ha).1
    · exact List.all_eq_true.mp hvalid a ha
  have hplain' : (d.below (disguise label)).IsPlain := by
    intro c hc a ha hdomain
    rcases List.mem_cons.mp hc with rfl | hc
    · rw [(hattribute a ha).2] at hdomain
      cases hdomain
    · exact hplain c hc a ha hdomain
  refine ⟨disguise label, hvalid', ?_, ?_⟩
  · rw [domain?_of_isPlain hplain, domain?_of_isPlain hplain', DistinguishedName.below,
      List.flatMap_cons, labels_disguise, List.nil_append]
  · intro text htext
    rw [domainOfDn, htext.2, filterMap_domainPart?_chars hvalid' hplain', DistinguishedName.below,
      List.flatMap_cons, labels_disguise, hidden_disguise (not_mem_of_plain hlabel) htrimmed]
    exact isMeantBy_intercalate hdot _

end IdentityMap.Ldap
