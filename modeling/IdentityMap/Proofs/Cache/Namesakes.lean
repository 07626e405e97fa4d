/-
Names and the SIDs they lead to.

A SID has one name, but several SIDs may have the same.  A lookup by name then gives the one
whose name was written first, and writing the name of a SID again puts it behind all others.  So
the name table stands, whatever happened to the cache, in the order in which its SIDs were named
last; this and one row for each SID is all that the two lookups need to agree.

They agree as far as the store compares names, which is up to a NUL.  A name with a NUL in it can
lead to a SID whose own name reads otherwise.
-/
import Mathlib.Data.List.Induction
import IdentityMap.Proofs.Cache.Changes
import IdentityMap.Proofs.Rule.Deny

namespace IdentityMap

/-! ### The row of a SID -/

namespace NameRow.Names

variable {row : NameRow} {sid sid' : Sid} {name : String} {type : AccountType}

theorem isAbout (h : row.Names sid name type) : row.isAbout sid = true :=
  isAbout_iff.mpr ⟨h.base, h.rid⟩

theorem eq_sid (h : row.Names sid name type) (h' : row.isAbout sid' = true) : sid' = sid := by
  obtain ⟨hbase, hrid⟩ := isAbout_iff.mp h'
  rw [h.base] at hbase
  rw [h.rid] at hrid
  cases sid
  cases sid'
  rw [Sid.mk.injEq]
  exact ⟨(Option.some.inj hbase).symm, (wordColumn_inj hrid).symm⟩

end NameRow.Names

theorem NameRow.collides_comm (a b : NameRow) : a.collides b = b.collides a := by
  rw [collides, collides, Table.sameKey_comm a.base, Table.sameKey_comm a.rid]

theorem NameMapping.row_names (m : NameMapping) : m.row.Names m.sid m.name m.type :=
  ⟨rfl, rfl, rfl, rfl⟩

/-- The name is the one that is looked up, where `same` says which names are one.  Without a
domain any domain will do. -/
def CachedName.IsNamed (same : String → String → Bool) (hit : CachedName) (name : String)
    (domain : Option String) : Prop :=
  same hit.name name = true ∧ ∀ d ∈ domain, ∃ d' ∈ hit.domain, same d' d = true

/-- Where there is no NUL, the store tells apart what differs in more than the case of ASCII
letters. -/
theorem CachedName.isNamed_sameInStore_iff {hit : CachedName} {name : String}
    {domain : Option String} (hname : '\x00' ∉ name.toList)
    (hdomain : ∀ d ∈ domain, '\x00' ∉ d.toList) :
    hit.IsNamed sameInStore name domain ↔ hit.IsNamed sameFolded name domain := by
  rw [IsNamed, IsNamed, sameInStore_eq_sameFolded hname]
  refine and_congr_right fun _ => forall₂_congr fun d hd => ?_
  simp only [sameInStore_eq_sameFolded (hdomain d hd)]

theorem NameRow.isNamed_iff {row : NameRow} {sid : Sid} {name name' : String}
    {domain : Option String} {type : AccountType} (hnames : row.Names sid name type) :
    row.isNamed name' domain = true ↔
      CachedName.IsNamed sameInStore { name, domain := row.domain, type } name' domain := by
  unfold isNamed CachedName.IsNamed
  rw [hnames.name, Bool.and_eq_true, Option.any_some]
  refine and_congr_right fun _ => ?_
  cases domain with
  | none => simp
  | some d => simp [Option.any_eq_true]

namespace Cache

/-- The cache has this name for the SID, and says that it is an account of this type. -/
def Has (same : String → String → Bool) (cache : Cache) (name : String) (domain : Option String)
    (now : Int) (sid : Sid) (type : AccountType) : Prop :=
  ∃ hit, cache.nameOf sid now = .ok hit ∧ hit.type = type ∧ hit.IsNamed same name domain

/-! ### The order of the table -/

/-- The change writes a name of the SID. -/
def Change.namesSid (sid : Sid) : Change → Bool
  | putName m => m.sid == sid
  | putId _ | supersede _ _ | purge _ | clear => false

/-- Both SIDs were named, and the last time for `sid` came before the last time for `other`. -/
def NamedBefore (changes : List Change) (sid other : Sid) : Prop :=
  ∃ earlier later, changes = earlier ++ later ∧ (∃ change ∈ earlier, change.namesSid sid = true) ∧
    (∀ change ∈ later, change.namesSid sid = false) ∧ ∃ change ∈ later, change.namesSid other = true

namespace NamedBefore

variable {changes : List Change} {sid other : Sid}

theorem asymm (h : NamedBefore changes sid other) : ¬ NamedBefore changes other sid := by
  rintro ⟨earlier', later', hsplit', -, hnever', change', hmem', hnames'⟩
  obtain ⟨earlier, later, hsplit, -, hnever, change, hmem, hnames⟩ := h
  -- One of the two later parts is the end of the other, and names what the other does not.
  have hsuffix : later <:+ changes := ⟨earlier, hsplit.symm⟩
  have hsuffix' : later' <:+ changes := ⟨earlier', hsplit'.symm⟩
  rcases List.suffix_or_suffix_of_suffix hsuffix hsuffix' with hend | hend
  · rw [hnever' change (hend.subset hmem)] at hnames
    cases hnames
  · rw [hnever change' (hend.subset hmem')] at hnames'
    cases hnames'

theorem irrefl : ¬ NamedBefore changes sid sid :=
  fun h => h.asymm h

/-- What does not name the first of the two keeps the order. -/
theorem concat (h : NamedBefore changes sid other) {change : Change}
    (hchange : change.namesSid sid = false) : NamedBefore (changes ++ [change]) sid other := by
  obtain ⟨earlier, later, rfl, hfirst, hnever, last, hlast, hnames⟩ := h
  refine ⟨earlier, later ++ [change], List.append_assoc .., hfirst, ?_, last,
    List.mem_append_left _ hlast, hnames⟩
  intro c hc
  rcases List.mem_append.mp hc with hold | hnew
  · exact hnever c hold
  · rwa [List.mem_singleton.mp hnew]

end NamedBefore

/-- A name that the cache holds was written. -/
theorem exists_namesSid_of_mem {changes : List Change} {row : NameRow}
    (hrow : row ∈ (after changes).names) {sid : Sid} (habout : row.isAbout sid = true) :
    ∃ change ∈ changes, change.namesSid sid = true := by
  induction changes using List.reverseRecOn with
  | nil => cases hrow
  | append_singleton changes change ih =>
      rw [after_concat] at hrow
      have hkeep (hold : row ∈ (after changes).names) :
          ∃ c ∈ changes ++ [change], c.namesSid sid = true := by
        obtain ⟨c, hc, hnames⟩ := ih hold
        exact ⟨c, List.mem_append_left _ hc, hnames⟩
      cases change with
      | putName m =>
          rcases Table.mem_put.mp hrow with rfl | ⟨hold, -⟩
          · have hsid := m.row_names.eq_sid habout
            exact ⟨_, List.mem_append_right _ (List.mem_singleton_self _), beq_iff_eq.mpr hsid.symm⟩
          · exact hkeep hold
      | putId m => exact hkeep hrow
      | supersede s kind => exact hkeep hrow
      | purge now => exact hkeep (List.mem_filter.mp hrow).1
      | clear => cases hrow

/-- **The rows stand in the order in which their SIDs were named last.** -/
theorem names_in_order (changes : List Change) :
    (after changes).names.Pairwise fun a b => ∀ sid other, a.isAbout sid = true →
      b.isAbout other = true → NamedBefore changes sid other := by
  induction changes using List.reverseRecOn with
  | nil => exact List.Pairwise.nil
  | append_singleton changes change ih =>
      rw [after_concat]
      have hkeep (hnone : ∀ sid, change.namesSid sid = false) :
          (after changes).names.Pairwise fun a b => ∀ sid other, a.isAbout sid = true →
            b.isAbout other = true → NamedBefore (changes ++ [change]) sid other :=
        ih.imp fun h sid other ha hb => (h sid other ha hb).concat (hnone sid)
      cases change with
      | putId m => exact hkeep fun _ => rfl
      | supersede s kind => exact hkeep fun _ => rfl
      | purge now => exact (hkeep fun _ => rfl).filter _
      | clear => exact List.Pairwise.nil
      | putName m =>
          -- The rows that stay are not about the SID that is named now.
          have hother {row : NameRow} (hstays : (!row.collides m.row) = true) {sid : Sid}
              (habout : row.isAbout sid = true) : (m.sid == sid) = false := by
            rw [beq_eq_false_iff_ne]
            rintro rfl
            rw [NameRow.collides_of_isAbout habout m.row_names.isAbout] at hstays
            cases hstays
          refine List.pairwise_append.mpr ⟨?_, List.pairwise_singleton _ _, ?_⟩
          · refine (ih.filter _).imp_of_mem fun ha _ h sid other habout hbabout => ?_
            exact (h sid other habout hbabout).concat (hother (List.mem_filter.mp ha).2 habout)
          · intro a ha b hb sid other habout hbabout
            obtain ⟨hold, hstays⟩ := List.mem_filter.mp ha
            obtain rfl := List.mem_singleton.mp hb
            refine ⟨changes, [.putName m], rfl, exists_namesSid_of_mem hold habout, ?_,
              .putName m, List.mem_singleton_self _, ?_⟩
            · intro c hc
              obtain rfl := List.mem_singleton.mp hc
              exact hother hstays habout
            · exact beq_iff_eq.mpr (m.row_names.eq_sid hbabout).symm

/-! ### The two lookups -/

namespace Tidy

variable {cache : Cache} {sid : Sid} {now : Int} {name : String} {domain : Option String}
  {type : AccountType}

theorem eq_of_isAbout (h : cache.Tidy) {row row' : NameRow} (hrow : row ∈ cache.names)
    (hrow' : row' ∈ cache.names) (habout : row.isAbout sid = true)
    (habout' : row'.isAbout sid = true) : row = row' :=
  Table.eq_of_collides NameRow.collides_comm h.apart hrow hrow'
    (NameRow.collides_of_isAbout habout habout')

/-- The row that names a SID is the one that is found. -/
theorem nameRow?_eq (h : cache.Tidy) {row : NameRow} (hrow : row ∈ cache.names)
    (hanswers : row.answersSid sid now = true) : cache.nameRow? sid now = some row := by
  refine Table.find?_eq hrow hanswers fun other hother hothers => ?_
  exact h.eq_of_isAbout hother hrow (Bool.and_eq_true_iff.mp hothers).1
    (Bool.and_eq_true_iff.mp hanswers).1

/-- The name of a SID is what its row says, as long as that is live. -/
theorem nameOf_eq_ok_iff (h : cache.Tidy) {hit : CachedName} :
    cache.nameOf sid now = .ok hit ↔ ∃ row ∈ cache.names, row.Names sid hit.name hit.type ∧
      row.domain = hit.domain ∧ isLive row.expiration now = true := by
  constructor
  · intro hname
    unfold nameOf at hname
    cases hfound : cache.nameRow? sid now with
    | none => rw [hfound] at hname; cases hname
    | some row =>
        rw [hfound] at hname
        unfold nameRow? at hfound
        have hrow : row ∈ cache.names := List.mem_of_find?_eq_some hfound
        have hanswers : row.answersSid sid now = true := by simpa using List.find?_some hfound
        obtain ⟨habout, hlive⟩ := Bool.and_eq_true_iff.mp hanswers
        obtain ⟨sid', name, type, hnames⟩ := (h.names row hrow).names
        obtain rfl := hnames.eq_sid habout
        simp only [hnames.cachedName_eq] at hname
        cases hname
        exact ⟨row, hrow, hnames, rfl, hlive⟩
  · rintro ⟨row, hrow, hnames, hdomain, hlive⟩
    have hanswers : row.answersSid sid now = true := by
      rw [NameRow.answersSid, hnames.isAbout, hlive]
      rfl
    rw [nameOf, h.nameRow?_eq hrow hanswers]
    simp only [hnames.cachedName_eq, hdomain]

/-- The name of a row's SID is looked up if the row is live and holds it. -/
theorem has_iff_answersName (h : cache.Tidy) {row : NameRow} (hrow : row ∈ cache.names)
    (hnames : row.Names sid name type) {name' : String} :
    row.answersName name' domain now = true ↔ cache.Has sameInStore name' domain now sid type := by
  rw [NameRow.answersName, Bool.and_eq_true, NameRow.isNamed_iff hnames]
  constructor
  · rintro ⟨hnamed, hlive⟩
    exact ⟨_, h.nameOf_eq_ok_iff.mpr ⟨row, hrow, hnames, rfl, hlive⟩, rfl, hnamed⟩
  · rintro ⟨hit, hname, rfl, hnamed⟩
    obtain ⟨row', hrow', hnames', hdomain, hlive⟩ := h.nameOf_eq_ok_iff.mp hname
    obtain rfl := h.eq_of_isAbout hrow hrow' hnames.isAbout hnames'.isAbout
    have hspelled : name = hit.name := Option.some.inj (hnames.name.symm.trans hnames'.name)
    rw [hspelled, hdomain]
    exact ⟨hnamed, hlive⟩

/-- A lookup by name gives the first row that holds it. -/
theorem exists_row_of_accountNamed (h : cache.Tidy)
    (hfound : cache.accountNamed name domain now = .ok (sid, type)) :
    ∃ row own before behind, cache.names = before ++ row :: behind ∧ row.Names sid own type ∧
      row.answersName name domain now = true ∧
      ∀ other ∈ before, other.answersName name domain now = false := by
  unfold accountNamed at hfound
  cases hrow : cache.accountRow? name domain now with
  | none => rw [hrow] at hfound; cases hfound
  | some row =>
      rw [hrow] at hfound
      unfold accountRow? at hrow
      obtain ⟨sid', own, type', hnames⟩ := (h.names row (List.mem_of_find?_eq_some hrow)).names
      simp only [hnames.cachedAccount_eq] at hfound
      cases hfound
      obtain ⟨hanswers, before, behind, hsplit, hbefore⟩ :=
        List.find?_eq_some_iff_append.mp hrow
      exact ⟨row, own, before, behind, hsplit, hnames, hanswers,
        fun other hother => by simpa using hbefore other hother⟩

/-- A name that some SID has leads to some SID. -/
theorem exists_accountNamed (h : cache.Tidy) (hhas : cache.Has sameInStore name domain now sid type) :
    ∃ found, cache.accountNamed name domain now = .ok found := by
  obtain ⟨hit, hname, rfl, hnamed⟩ := hhas
  obtain ⟨row, hrow, hnames, hdomain, hlive⟩ := h.nameOf_eq_ok_iff.mp hname
  unfold accountNamed
  cases hfound : cache.accountRow? name domain now with
  | none =>
      have hanswers := (h.has_iff_answersName hrow hnames).mpr ⟨hit, hname, rfl, hnamed⟩
      exact absurd hanswers (List.find?_eq_none.mp hfound row hrow)
  | some first =>
      unfold accountRow? at hfound
      obtain ⟨sid', own, type', hnames'⟩ := (h.names first (List.mem_of_find?_eq_some hfound)).names
      exact ⟨(sid', type'), hnames'.cachedAccount_eq⟩

end Tidy
end Cache

/-- Of all SIDs that have a name, it leads to the one that was named first. -/
theorem Cache.eq_found_iff {changes : List Cache.Change} {now : Int} {name : String}
    {domain : Option String} {found : Sid × AccountType} {sid : Sid} {type : AccountType}
    (hfound : (Cache.after changes).accountNamed name domain now = .ok found)
    (hhas : (Cache.after changes).Has sameInStore name domain now sid type) :
    found = (sid, type) ↔ ∀ other type', Cache.NamedBefore changes other sid →
      ¬ (Cache.after changes).Has sameInStore name domain now other type' := by
  have htidy := Cache.Tidy.after changes
  obtain ⟨first, own, before, behind, hsplit, hfirst, hanswers, hbefore⟩ :=
    htidy.exists_row_of_accountNamed hfound
  have hfirstHas := (htidy.has_iff_answersName (by rw [hsplit]; simp) hfirst).mp hanswers
  -- Every row that holds the name is the first one, or behind it and so named later.
  have hrows {other : Sid} {type' : AccountType}
      (hother : (Cache.after changes).Has sameInStore name domain now other type') :
      (found.1 = other ∧ found.2 = type') ∨ Cache.NamedBefore changes found.1 other := by
    obtain ⟨hit, hname, rfl, -⟩ := id hother
    obtain ⟨row, hrow, hnames, -, -⟩ := htidy.nameOf_eq_ok_iff.mp hname
    have hholds := (htidy.has_iff_answersName hrow hnames).mpr hother
    rw [hsplit] at hrow
    rcases List.mem_append.mp hrow with hearly | hlate
    · rw [hbefore row hearly] at hholds
      cases hholds
    · rcases List.mem_cons.mp hlate with rfl | hlate
      · refine Or.inl ⟨hnames.eq_sid hfirst.isAbout, ?_⟩
        have hread := hfirst.readType_eq.symm.trans hnames.readType_eq
        exact Except.ok.inj hread
      · have horder := (List.pairwise_append.mp (hsplit ▸ Cache.names_in_order changes)).2.1
        exact Or.inr ((List.pairwise_cons.mp horder).1 row hlate _ _ hfirst.isAbout hnames.isAbout)
  constructor
  · rintro rfl other type' hearlier hother
    rcases hrows hother with ⟨rfl, -⟩ | hlater
    · exact Cache.NamedBefore.irrefl hearlier
    · exact hearlier.asymm hlater
  · intro hnone
    rcases hrows hhas with ⟨hsid, htype⟩ | hearlier
    · exact Prod.ext hsid htype
    · exact absurd hfirstHas (hnone _ _ hearlier)

/--
**The lookups of a name and of a SID agree.**

Whatever was done to the cache and at any time: if a name leads to a SID, the cache has that name
for the SID, and the same type.  If it has a name for a SID, the name leads somewhere, and to
this SID just if no SID that was named before has the same name.  Two names are one as the store
has it, and for a name and a domain without a NUL that is in any ASCII case.
-/
theorem name_and_sid_lookups_agree (changes : List Cache.Change) (now : Int) :
    (∀ name domain sid type,
      (Cache.after changes).accountNamed name domain now = .ok (sid, type) →
      (Cache.after changes).Has sameInStore name domain now sid type) ∧
    (∀ sid hit, (Cache.after changes).nameOf sid now = .ok hit →
      ∃ found, (Cache.after changes).accountNamed hit.name hit.domain now = .ok found ∧
        (found = (sid, hit.type) ↔ ∀ other type, Cache.NamedBefore changes other sid →
          ¬ (Cache.after changes).Has sameInStore hit.name hit.domain now other type)) ∧
    (∀ name domain, '\x00' ∉ name.toList → (∀ d ∈ domain, '\x00' ∉ d.toList) → ∀ sid type,
      (Cache.after changes).Has sameInStore name domain now sid type ↔
        (Cache.after changes).Has sameFolded name domain now sid type) := by
  have htidy := Cache.Tidy.after changes
  refine ⟨?_, ?_, ?_⟩
  · intro name domain sid type hfound
    obtain ⟨row, own, before, behind, hsplit, hnames, hanswers, -⟩ :=
      htidy.exists_row_of_accountNamed hfound
    exact (htidy.has_iff_answersName (by rw [hsplit]; simp) hnames).mp hanswers
  · intro sid hit hname
    have hhas : (Cache.after changes).Has sameInStore hit.name hit.domain now sid hit.type :=
      ⟨hit, hname, rfl, sameInStore_refl _, fun d hd => ⟨d, hd, sameInStore_refl d⟩⟩
    obtain ⟨found, hfound⟩ := htidy.exists_accountNamed hhas
    exact ⟨found, hfound, Cache.eq_found_iff hfound hhas⟩
  · intro name domain hnul hnuls sid type
    refine exists_congr fun hit => and_congr_right fun _ => and_congr_right fun _ => ?_
    exact CachedName.isNamed_sameInStore_iff hnul hnuls

/-- Two SIDs have one name in different spellings.  The first is named again, so the name leads
to the second from then on. -/
theorem name_and_sid_lookups_agree_renamed :
    let first : Sid := { base := "S-1-5-21-7", rid := 1104 }
    let second : Sid := { base := "S-1-5-21-7", rid := 1105 }
    let naming (sid : Sid) (name : String) : Cache.Change :=
      .putName { sid, name, domain := some "CORP", type := .user, expiry := .at 100 }
    let changes := [naming first "alice", naming second "Alice", naming first "ALICE"]
    (Cache.after changes).accountNamed "alice" (some "corp") 99 = .ok (second, .user) ∧
      (Cache.after changes).Has sameFolded "alice" (some "corp") 99 second .user ∧
      ∃ other type, Cache.NamedBefore changes other first ∧
        (Cache.after changes).Has sameInStore "ALICE" (some "CORP") 99 other type := by
  intro first second naming changes
  obtain ⟨hback, hforth, hplain⟩ := name_and_sid_lookups_agree changes 99
  have hfound : (Cache.after changes).accountNamed "alice" (some "corp") 99
      = .ok (second, .user) := by
    decide +kernel
  have hname : (Cache.after changes).nameOf first 99
      = .ok { name := "ALICE", domain := some "CORP", type := .user } := by
    decide +kernel
  refine ⟨hfound, ?_, ?_⟩
  · exact (hplain "alice" (some "corp") (by decide) (by simp) second .user).mp
      (hback _ _ _ _ hfound)
  · obtain ⟨found, hled, hfirst⟩ := hforth first _ hname
    have hsecond : found = (second, .user) := by
      have hagain : (Cache.after changes).accountNamed "ALICE" (some "CORP") 99
          = .ok (second, .user) := by
        decide +kernel
      exact Except.ok.inj (hled.symm.trans hagain)
    by_contra hnone
    have hother : found = (first, .user) :=
      hfirst.mpr fun other type hearlier hhas => hnone ⟨other, type, hearlier, hhas⟩
    rw [hsecond] at hother
    exact absurd hother (by decide)

/-- Behind a NUL the store compares nothing, so a name leads to a SID whose name ends in another
letter. -/
theorem name_with_nul_leads_astray :
    let sid : Sid := { base := "S-1-5-21-7", rid := 1104 }
    let changes : List Cache.Change :=
      [.putName { sid, name := "a\x00b", domain := some "D", type := .user, expiry := .never }]
    (Cache.after changes).accountNamed "A\x00z" (some "d") 0 = .ok (sid, .user) ∧
      ¬ (Cache.after changes).Has sameFolded "A\x00z" (some "d") 0 sid .user := by
  intro sid changes
  refine ⟨by decide +kernel, ?_⟩
  rintro ⟨hit, hname, -, hnamed, -⟩
  have hown : (Cache.after changes).nameOf sid 0
      = .ok { name := "a\x00b", domain := some "D", type := .user } := by
    decide +kernel
  rw [hown] at hname
  cases hname
  exact absurd hnamed (by decide +kernel)

end IdentityMap
