/-
What follows from the table of reserved identities.

A reserved id has one entry, and all of them lie at or below `maxNumber`, where minting
begins.  An ordinary SID is one that the table says nothing about.
-/
import IdentityMap.WellKnown

namespace IdentityMap.WellKnown

/-! ### Reserved ids -/

/-- The table maps the SID to the unix id. -/
def Maps (sid : Sid) (id : UnixId) : Prop :=
  ∃ entry ∈ table, entry.isFor sid = true ∧ entry.kind = id.kind ∧ entry.number = some id.number

/-- What a reserved SID is answered stands in one entry. -/
theorem exists_entry_of_idOf {sid : Sid} {wanted : Wanted} {id : UnixId} {direction : Direction}
    (h : idOf sid wanted = some (.mapped id direction)) :
    ∃ entry ∈ table, entry.isFor sid = true ∧ entry.kind = id.kind ∧
      entry.number = some id.number ∧ entry.direction = direction := by
  obtain ⟨entry, hentry, hfound⟩ := List.exists_of_findSome?_eq_some h
  obtain ⟨hmem, hfor⟩ := List.mem_filter.mp hentry
  split at hfound
  · cases hfound
  · next number hnumber =>
      split at hfound
      · cases hfound
        exact ⟨entry, hmem, hfor, rfl, hnumber, rfl⟩
      · cases hfound

/-- A SID has one entry. -/
theorem eq_of_sameFolded_base : ∀ entry ∈ table, ∀ other ∈ table, entry.rid = other.rid →
    sameFolded entry.base other.base = true → entry = other := by
  decide +kernel

theorem eq_of_isFor {sid : Sid} {entry other : WellKnown} (hmem : entry ∈ table)
    (hmem' : other ∈ table) (hfor : entry.isFor sid = true) (hfor' : other.isFor sid = true) :
    entry = other := by
  simp only [isFor, Bool.and_eq_true, beq_iff_eq, Sid.hasBase] at hfor hfor'
  refine eq_of_sameFolded_base entry hmem other hmem' (hfor.1.trans hfor'.1.symm) ?_
  rw [sameFolded_comm] at hfor
  exact sameFolded_trans hfor.2 hfor'.2

/-- The entries for a SID begin with its own one. -/
theorem exists_filter_eq_cons {sid : Sid} {entry : WellKnown} (hmem : entry ∈ table)
    (hfor : entry.isFor sid = true) : ∃ rest, table.filter (·.isFor sid) = entry :: rest := by
  have hentry : entry ∈ table.filter (·.isFor sid) := List.mem_filter.mpr ⟨hmem, hfor⟩
  cases hentries : table.filter (·.isFor sid) with
  | nil =>
      rw [hentries] at hentry
      cases hentry
  | cons first rest =>
      have hfirst : first ∈ table.filter (·.isFor sid) := by
        rw [hentries]
        exact List.mem_cons_self ..
      obtain ⟨hmem', hfor'⟩ := List.mem_filter.mp hfirst
      exact ⟨rest, by rw [eq_of_isFor hmem hmem' hfor hfor']⟩

/-- A SID whose entry has no unix id is said to have none, whatever is asked for. -/
theorem idOf_of_unmapped {sid : Sid} {entry : WellKnown} (hmem : entry ∈ table)
    (hnumber : entry.number = none) (hfor : entry.isFor sid = true) (wanted : Wanted) :
    idOf sid wanted = some .unmapped := by
  obtain ⟨rest, hentries⟩ := exists_filter_eq_cons hmem hfor
  rw [idOf, hentries, List.findSome?_cons]
  simp only [hnumber]

/-- What a reserved SID is answered does not depend on the request, as long as the kind of its
id answers it. -/
theorem idOf_of_admits {sid : Sid} {wanted wanted' : Wanted} {id : UnixId} {direction : Direction}
    (h : idOf sid wanted = some (.mapped id direction)) (hwanted : wanted'.admits id.kind = true) :
    idOf sid wanted' = some (.mapped id direction) := by
  obtain ⟨entry, hentry, hfound⟩ := List.exists_of_findSome?_eq_some h
  obtain ⟨hmem, hfor⟩ := List.mem_filter.mp hentry
  obtain ⟨rest, hentries⟩ := exists_filter_eq_cons hmem hfor
  rw [idOf, hentries, List.findSome?_cons]
  cases hnumber : entry.number with
  | none =>
      simp only [hnumber] at hfound
      cases hfound
  | some number =>
      simp only [hnumber] at hfound ⊢
      by_cases hanswers : (entry.direction.isToUnix && wanted.admits entry.kind) = true
      · rw [if_pos hanswers] at hfound
        cases hfound
        have hunix := (Bool.and_eq_true_iff.mp hanswers).1
        simp only [hunix, hwanted, Bool.and_self, if_true]
      · rw [if_neg hanswers] at hfound
        cases hfound

theorem maps_of_idOf {sid : Sid} {wanted : Wanted} {id : UnixId} {direction : Direction}
    (h : idOf sid wanted = some (.mapped id direction)) : Maps sid id := by
  obtain ⟨entry, hmem, hfor, hkind, hnumber, -⟩ := exists_entry_of_idOf h
  exact ⟨entry, hmem, hfor, hkind, hnumber⟩

theorem maps_of_ofId {id : UnixId} {entry : WellKnown} (h : ofId id = some entry) :
    Maps entry.sid id := by
  have hentry := List.find?_some h
  simp only [Bool.and_eq_true, beq_iff_eq] at hentry
  refine ⟨entry, List.mem_of_find?_eq_some h, ?_, hentry.1.2, hentry.1.1⟩
  simp [isFor, sid, Sid.hasBase, sameFolded_refl]

/-- The numbers of the table go up to `maxNumber`. -/
theorem le_maxNumber : ∀ entry ∈ table, entry.number.all (· ≤ maxNumber entry.kind) = true := by
  decide +kernel

/-- No unix id stands in the table twice. -/
theorem eq_of_number_eq : ∀ entry ∈ table, ∀ other ∈ table, entry.number.isSome = true →
    entry.kind = other.kind → entry.number = other.number → entry = other := by
  decide +kernel

theorem Maps.le {sid : Sid} {id : UnixId} (h : Maps sid id) : id.number ≤ maxNumber id.kind := by
  obtain ⟨entry, hmem, -, hkind, hnumber⟩ := h
  have hle := le_maxNumber entry hmem
  rw [hnumber, Option.all_some, decide_eq_true_eq] at hle
  rw [← hkind]
  exact hle

/-! ### Ordinary SIDs and ids -/

theorem idOf_of_ordinary {sid : Sid} (h : ofSid sid = none) (wanted : Wanted) :
    idOf sid wanted = none := by
  have hnone : table.filter (·.isFor sid) = [] := by
    rw [List.filter_eq_nil_iff]
    exact List.find?_eq_none.mp h
  rw [idOf, hnone]
  rfl

/-- A spelling of a SID in another case stands for the same entries. -/
theorem isFor_congr {sid sid' : Sid} (hbase : sameFolded sid.base sid'.base = true)
    (hrid : sid.rid = sid'.rid) (entry : WellKnown) : entry.isFor sid = entry.isFor sid' := by
  rw [isFor, isFor, hrid, Sid.hasBase, Sid.hasBase, sameFolded, sameFolded, sameFolded_iff.mp hbase]

theorem ofSid_congr {sid sid' : Sid} (hbase : sameFolded sid.base sid'.base = true)
    (hrid : sid.rid = sid'.rid) : ofSid sid = ofSid sid' := by
  rw [ofSid, ofSid, funext (isFor_congr hbase hrid)]

/-- A SID that is reserved for a unix id in both directions is what the id maps back to. -/
theorem ofId_ne_none {sid : Sid} {wanted : Wanted} {id : UnixId} {direction : Direction}
    (h : idOf sid wanted = some (.mapped id direction)) (hwindows : direction.isToWindows = true) :
    ofId id ≠ none := by
  obtain ⟨entry, hmem, -, hkind, hnumber, rfl⟩ := exists_entry_of_idOf h
  intro hnone
  refine List.find?_eq_none.mp hnone entry hmem ?_
  simp [hkind, hnumber, hwindows]

/-- Every entry of the table holds from unix to Windows. -/
theorem isToWindows_of_mem : ∀ entry ∈ table, entry.direction.isToWindows = true := by
  decide +kernel

/-- A unix id that stands in the table maps back. -/
theorem Maps.ofId_ne_none {sid : Sid} {id : UnixId} (h : Maps sid id) : ofId id ≠ none := by
  obtain ⟨entry, hmem, -, hkind, hnumber⟩ := h
  intro hnone
  refine List.find?_eq_none.mp hnone entry hmem ?_
  simp [hkind, hnumber, isToWindows_of_mem entry hmem]

/-- What a reserved unix id is answered is a reserved SID. -/
theorem ofSid_ne_none {id : UnixId} {entry : WellKnown} (h : ofId id = some entry) :
    ofSid entry.sid ≠ none := by
  obtain ⟨other, hmem, hfor, -⟩ := maps_of_ofId h
  exact fun hnone => List.find?_eq_none.mp hnone other hmem hfor

theorem length_base : ∀ entry ∈ table, entry.base.length ≤ 8 := by
  decide +kernel

/-- The bases of reserved SIDs are short. -/
theorem ofSid_of_long {sid : Sid} (h : 8 < sid.base.length) : ofSid sid = none := by
  rw [ofSid, List.find?_eq_none]
  intro entry hentry hfor
  simp only [isFor, Bool.and_eq_true, Sid.hasBase] at hfor
  have hfold := congrArg List.length (sameFolded_iff.mp hfor.2)
  simp only [fold, List.length_map, String.length_toList] at hfold
  have := length_base entry hentry
  omega

end IdentityMap.WellKnown
