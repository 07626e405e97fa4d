/-
What a row of the id table says, and which rows a write leaves.

A row that the engine writes ties one SID to one unix id, whatever the directions in
which it holds.  `Ties` is that reading of a row.  Everything a lookup makes of a row
follows from it, so proofs about the engine never look at columns again.

A write removes the rows that share a key with the new one and changes no other row.
Superseding and purging only ever take something away: a direction, or a row.
-/
import IdentityMap.Mapping.Engine

namespace IdentityMap

/-! ### Numbers and columns -/

theorem wordColumn_inj {m n : UInt32} (h : wordColumn m = wordColumn n) : m = n := by
  have h' := congrArg word32OfColumn? h
  rw [word32OfColumn?_wordColumn, word32OfColumn?_wordColumn] at h'
  exact Option.some.inj h'

theorem readNumber_wordColumn (n : UInt32) : readNumber (wordColumn n) = .ok n := by
  rw [readNumber, word32OfColumn?_wordColumn]

theorem boolColumn_isUser_inj {k k' : IdKind} (h : boolColumn k.isUser = boolColumn k'.isUser) :
    k = k' := by
  cases k <;> cases k' <;> first | rfl | exact absurd h (by decide)

theorem ephemeralMin_le_iff {n : UInt32} :
    (ephemeralMin.toNat : Int) ≤ (n.toNat : Int) ↔ isEphemeral n = true := by
  rw [Int.ofNat_le, ← UInt32.le_iff_toNat_le]
  simp [isEphemeral]

theorem isEphemeral_iff {n : UInt32} : isEphemeral n = true ↔ 0x80000000 ≤ n.toNat := by
  rw [isEphemeral, decide_eq_true_iff, UInt32.le_iff_toNat_le]
  exact Iff.rfl

theorem isEphemeral_eq_false_iff {n : UInt32} :
    isEphemeral n = false ↔ n.toNat < 0x80000000 := by
  rw [← Bool.not_eq_true, isEphemeral_iff, Nat.not_le]

theorem sameKey_some {α : Type} [DecidableEq α] {a : Option α} {b : α} :
    Table.sameKey a (some b) = true ↔ a = some b := by
  rw [Table.sameKey_iff]
  simp

/-- A flag that is not set collides with nothing. -/
theorem sameKey_flagColumn {flag : Option Int} {set : Bool} :
    Table.sameKey flag (flagColumn set) = true ↔ flag = some 1 ∧ set = true := by
  cases set with
  | true => simp [flagColumn, sameKey_some]
  | false => simp [flagColumn, Table.sameKey_iff]

theorem isSet_of_flagColumn {set : Bool} (h : flagColumn set = some 1) : set = true := by
  cases set with
  | true => rfl
  | false => cases h

/-! ### The SID and the unix id of a row -/

namespace IdRow

/-- The row is about this SID and this unix id. -/
structure Ties (row : IdRow) (sid : Sid) (id : UnixId) : Prop where
  base : row.base = some sid.base
  rid : row.rid = wordColumn sid.rid
  number : row.number = wordColumn id.number
  isUser : row.isUser = boolColumn id.kind.isUser

theorem isAbout_iff {row : IdRow} {sid : Sid} :
    row.isAbout sid = true ↔ row.base = some sid.base ∧ row.rid = wordColumn sid.rid := by
  simp [isAbout]

namespace Ties

variable {row : IdRow} {sid sid' : Sid} {id id' : UnixId}

theorem isAbout (h : row.Ties sid id) : row.isAbout sid = true :=
  isAbout_iff.mpr ⟨h.base, h.rid⟩

theorem eq_sid (h : row.Ties sid id) (h' : row.isAbout sid' = true) : sid' = sid := by
  obtain ⟨hbase, hrid⟩ := isAbout_iff.mp h'
  rw [h.base] at hbase
  rw [h.rid] at hrid
  cases sid
  cases sid'
  rw [Sid.mk.injEq]
  exact ⟨(Option.some.inj hbase).symm, (wordColumn_inj hrid).symm⟩

theorem eq_id (h : row.Ties sid id) (hnumber : row.number = wordColumn id'.number)
    (hkind : row.isUser = boolColumn id'.kind.isUser) : id' = id := by
  rw [h.number] at hnumber
  rw [h.isUser] at hkind
  exact UnixId.eq_of_number (boolColumn_isUser_inj hkind).symm (wordColumn_inj hnumber).symm

theorem isMinted (h : row.Ties sid id) : row.isMinted = isEphemeral id.number := by
  simp only [IdRow.isMinted, h.number, wordColumn]
  rw [Bool.eq_iff_iff, decide_eq_true_iff]
  exact ephemeralMin_le_iff

/-- Taking a direction away does not change what the row is about. -/
theorem clearToUnix (h : row.Ties sid id) : ({ row with toUnix := none } : IdRow).Ties sid id :=
  ⟨h.base, h.rid, h.number, h.isUser⟩

/-- What a lookup by SID makes of the row. -/
theorem cachedId_eq (h : row.Ties sid id) (now : Int) :
    row.cachedId now = .ok
      { id, direction := if flagIsSet row.toWindows then .both else .toUnix
        unixName := row.unixName, expired := isExpired id.number row.expiration now } := by
  have hkind :
      IdKind.ofIsUser ((if id.kind.isUser = true then (1 : Int) else 0) != 0) = id.kind := by
    cases id.kind <;> rfl
  simp only [cachedId, readNumber, h.number, word32OfColumn?_wordColumn, h.isUser, boolColumn]
  show Except.ok _ = Except.ok _
  simp only [hkind]

/-- What a lookup by unix id makes of the row. -/
theorem cachedSid_eq (h : row.Ties sid id) :
    row.cachedSid = .ok
      { sid, direction := if flagIsSet row.toUnix then .both else .toWindows
        windowsName := row.windowsName, windowsDomain := row.windowsDomain } := by
  simp only [cachedSid, readSid, h.base, h.rid, word32OfColumn?_wordColumn]
  rfl

end Ties

/-- The row reads as a mapping, and its flags are set in no other way than by 1. -/
structure WellFormed (row : IdRow) : Prop where
  ties : ∃ sid id, row.Ties sid id
  toUnix : flagIsSet row.toUnix = true → row.toUnix = some 1
  toWindows : flagIsSet row.toWindows = true → row.toWindows = some 1

theorem WellFormed.clearToUnix {row : IdRow} (h : row.WellFormed) :
    ({ row with toUnix := none } : IdRow).WellFormed := by
  obtain ⟨⟨sid, id, hties⟩, -, hwindows⟩ := h
  exact ⟨⟨sid, id, hties.clearToUnix⟩, fun hset => (by cases hset), hwindows⟩

/-- A row that leads from a SID to a unix id is about that SID. -/
theorem answersSid_iff {row : IdRow} {sid : Sid} {now : Int} :
    row.answersSid sid now = true ↔
      row.toUnix = some 1 ∧ row.isAbout sid = true ∧ row.isUsable now = true := by
  simp [answersSid, and_assoc]

/-- A row that leads from a unix id to a SID is about that id. -/
theorem answersId_iff {row : IdRow} {id : UnixId} {now : Int} :
    row.answersId id now = true ↔
      row.toWindows = some 1 ∧ row.number = wordColumn id.number ∧
        row.isUser = boolColumn id.kind.isUser ∧ row.isUsable now = true := by
  simp [answersId, and_assoc]

end IdRow

/-! ### The row of a mapping -/

theorem IdMapping.row_ties (m : IdMapping) : m.row.Ties m.sid m.id :=
  ⟨rfl, rfl, rfl, rfl⟩

theorem flagColumn_of_isSet {set : Bool} (h : flagIsSet (flagColumn set) = true) :
    flagColumn set = some 1 := by
  rw [flagIsSet_flagColumn] at h
  rw [h]
  rfl

theorem IdMapping.wellFormed_row (m : IdMapping) : m.row.WellFormed :=
  ⟨⟨m.sid, m.id, m.row_ties⟩, flagColumn_of_isSet, flagColumn_of_isSet⟩

/-- A mapping's row removes an old one that leads from the same SID to a unix id. -/
theorem IdRow.sameSidKey_row {old : IdRow} {m : IdMapping} :
    old.sameSidKey m.row = true ↔
      old.isAbout m.sid = true ∧ old.toUnix = some 1 ∧ m.direction.isToUnix = true := by
  simp only [sameSidKey, Bool.and_eq_true, IdMapping.row, isAbout_iff, sameKey_flagColumn,
    sameKey_some, wordColumn]

/-- A mapping's row removes an old one that leads from the same unix id to a SID. -/
theorem IdRow.sameIdKey_row {old : IdRow} {m : IdMapping} :
    old.sameIdKey m.row = true ↔
      (old.number = wordColumn m.id.number ∧ old.isUser = boolColumn m.id.kind.isUser) ∧
        old.toWindows = some 1 ∧ m.direction.isToWindows = true := by
  simp only [sameIdKey, Bool.and_eq_true, IdMapping.row, sameKey_flagColumn, sameKey_some,
    wordColumn, boolColumn]

/-! ### What the lookups find -/

namespace Cache

variable {cache : Cache} {sid : Sid} {id : UnixId} {now : Int}

/-- What a lookup by SID gives is in the row that it finds, and is of the kind asked for unless
it is an expired minted id. -/
theorem idRow?_of_ok {wanted : Wanted} {hit : CachedId}
    (h : cache.idOf sid wanted now = .ok hit) :
    ∃ row, cache.idRow? sid now = some row ∧ row.cachedId now = .ok hit ∧
      (hit.expired = true ∨ hit.check wanted = .ok ()) := by
  unfold idOf at h
  cases hrow : cache.idRow? sid now with
  | none => rw [hrow] at h; cases h
  | some row =>
      rw [hrow] at h
      refine ⟨row, rfl, ?_⟩
      cases hcached : row.cachedId now with
      | error e => simp only [hcached] at h; cases h
      | ok found =>
          simp only [hcached] at h
          change (if found.expired then _ else _) = _ at h
          by_cases hexpired : found.expired = true
          · rw [if_pos hexpired] at h
            cases h
            exact ⟨rfl, Or.inl hexpired⟩
          · rw [if_neg hexpired] at h
            cases hcheck : found.check wanted with
            | error e => simp only [hcheck] at h; cases h
            | ok u =>
                simp only [hcheck] at h
                cases h
                exact ⟨rfl, Or.inr hcheck⟩

/-- A unix id comes from a row that leads to it, and is of the kind asked for unless it is
an expired minted one. -/
theorem idOf_ok {wanted : Wanted} {hit : CachedId} (h : cache.idOf sid wanted now = .ok hit) :
    ∃ row ∈ cache.ids, row.answersSid sid now = true ∧ row.cachedId now = .ok hit ∧
      (hit.expired = true ∨ hit.check wanted = .ok ()) := by
  obtain ⟨row, hrow, hcached, hcheck⟩ := idRow?_of_ok h
  unfold idRow? at hrow
  have hanswers : row.answersSid sid now = true := by simpa using List.find?_some hrow
  exact ⟨row, List.mem_of_find?_eq_some hrow, hanswers, hcached, hcheck⟩

/-- No unix id is found only if no row leads to one. -/
theorem idRow?_eq_none_iff :
    cache.idRow? sid now = none ↔ ∀ row ∈ cache.ids, row.answersSid sid now ≠ true := by
  simp [idRow?]

/-- Reading a row fails for what the row lacks. -/
theorem cachedId_ne_notFound (row : IdRow) (now : Int) : row.cachedId now ≠ .error .notFound := by
  intro h
  unfold IdRow.cachedId at h
  cases hnumber : readNumber row.number with
  | error failure =>
      simp only [hnumber] at h
      unfold readNumber at hnumber
      split at hnumber
      · cases hnumber
      · cases hnumber
        cases h
  | ok number =>
      simp only [hnumber] at h
      cases hkind : row.isUser with
      | none => simp only [hkind] at h; cases h
      | some n => simp only [hkind] at h; cases h

theorem check_ne_notFound (hit : CachedId) (wanted : Wanted) :
    hit.check wanted ≠ .error .notFound := by
  unfold CachedId.check
  intro h
  cases wanted <;> cases hkind : hit.id.kind <;> rw [hkind] at h <;> cases h

/-- A lookup that finds nothing finds no row. -/
theorem idRow?_of_notFound {wanted : Wanted} (h : cache.idOf sid wanted now = .error .notFound) :
    cache.idRow? sid now = none := by
  unfold idOf at h
  cases hrow : cache.idRow? sid now with
  | none => rfl
  | some row =>
      rw [hrow] at h
      exfalso
      cases hcached : row.cachedId now with
      | error failure =>
          simp only [hcached] at h
          cases h
          exact cachedId_ne_notFound row now hcached
      | ok hit =>
          simp only [hcached] at h
          change (if hit.expired then _ else _) = _ at h
          by_cases hexpired : hit.expired = true
          · rw [if_pos hexpired] at h
            cases h
          · rw [if_neg hexpired] at h
            cases hcheck : hit.check wanted with
            | error failure =>
                simp only [hcheck] at h
                cases h
                exact check_ne_notFound hit wanted hcheck
            | ok u =>
                simp only [hcheck] at h
                cases h

/-- What the row that leads from a SID reads as is found, if it is of a kind that is asked for or
an expired minted id. -/
theorem idOf_of_idRow? {wanted : Wanted} {hit : CachedId} {row : IdRow}
    (hrow : cache.idRow? sid now = some row) (hread : row.cachedId now = .ok hit)
    (h : hit.expired = true ∨ hit.check wanted = .ok ()) : cache.idOf sid wanted now = .ok hit := by
  rw [idOf, hrow]
  simp only [hread]
  change (if hit.expired = true then Except.ok hit else (hit.check wanted).bind _) = _
  rcases h with hexpired | hcheck
  · rw [if_pos hexpired]
  · rw [hcheck]
    split <;> rfl

theorem idOf_of_none (h : cache.idRow? sid now = none) (wanted : Wanted) :
    cache.idOf sid wanted now = .error .notFound := by
  rw [idOf, h]

/-- A lookup by SID depends on the row that it finds. -/
theorem idOf_congr {cache' : Cache} (h : cache'.idRow? sid now = cache.idRow? sid now)
    (wanted : Wanted) : cache'.idOf sid wanted now = cache.idOf sid wanted now := by
  rw [idOf, idOf, h]

/-- Only the id table is looked at. -/
theorem idOf_congr_ids {cache' : Cache} (h : cache'.ids = cache.ids) (wanted : Wanted) :
    cache'.idOf sid wanted now = cache.idOf sid wanted now :=
  idOf_congr (by rw [idRow?, idRow?, h]) wanted

/-- No SID is found only if no row leads to one. -/
theorem sidRow?_eq_none_iff :
    cache.sidRow? id now = none ↔ ∀ row ∈ cache.ids, row.answersId id now ≠ true := by
  simp [sidRow?]

theorem sidOf_of_none (h : cache.sidRow? id now = none) :
    cache.sidOf id now = .error .notFound := by
  rw [sidOf, h]

/-- A lookup by unix id depends on the row that it finds. -/
theorem sidOf_congr {cache' : Cache} (h : cache'.sidRow? id now = cache.sidRow? id now) :
    cache'.sidOf id now = cache.sidOf id now := by
  rw [sidOf, sidOf, h]

/-- Only the id table is looked at. -/
theorem sidOf_congr_ids {cache' : Cache} (h : cache'.ids = cache.ids) :
    cache'.sidOf id now = cache.sidOf id now :=
  sidOf_congr (by rw [sidRow?, sidRow?, h])

/-- A SID comes from a row that leads to it. -/
theorem sidOf_ok {hit : CachedSid} (h : cache.sidOf id now = .ok hit) :
    ∃ row ∈ cache.ids, row.answersId id now = true ∧ row.cachedSid = .ok hit := by
  unfold sidOf at h
  cases hrow : cache.sidRow? id now with
  | none => rw [hrow] at h; cases h
  | some row =>
      rw [hrow] at h
      unfold sidRow? at hrow
      exact ⟨row, List.mem_of_find?_eq_some hrow, by simpa using List.find?_some hrow, h⟩

end Cache

/-! ### What a write leaves -/

namespace Cache

variable {cache : Cache} {row : IdRow}

theorem mem_putId {m : IdMapping} :
    row ∈ (cache.putId m).ids ↔
      row = m.row ∨ (row ∈ cache.ids ∧ IdRow.collides row m.row = false) :=
  Table.mem_put

theorem mem_supersede {sid : Sid} {kind : IdKind} :
    row ∈ (cache.supersede sid kind).ids ↔
      ∃ old ∈ cache.ids,
        (if supersedes sid kind old then { old with toUnix := none } else old) = row := by
  simp [supersede]

/-- A purge keeps every row with a minted id. -/
theorem mem_purge_of_isMinted {now : Int} (h : row ∈ cache.ids) (hminted : row.isMinted = true) :
    row ∈ (cache.purge now).ids := by
  refine List.mem_filter.mpr ⟨h, ?_⟩
  cases hnumber : row.number with
  | none => simp [IdRow.isMinted, hnumber] at hminted
  | some n =>
      have hle : (ephemeralMin.toNat : Int) ≤ n := by simpa [IdRow.isMinted, hnumber] using hminted
      have hlt : ¬ n < (ephemeralMin.toNat : Int) := Int.not_lt.mpr hle
      simp [isPurgedId, hnumber, hlt]

theorem mem_of_mem_purge {now : Int} (h : row ∈ (cache.purge now).ids) : row ∈ cache.ids :=
  (List.mem_filter.mp h).1

/-- What the id table is after a mapping was written.  Rows about the mapping's SID may have
lost a direction on the way. -/
structure Wrote (cache : Cache) (m : IdMapping) (cache' : Cache) : Prop where
  written : m.row ∈ cache'.ids
  origin : ∀ row ∈ cache'.ids, row = m.row ∨ row ∈ cache.ids ∨
    ∃ old ∈ cache.ids, old.isAbout m.sid = true ∧ row = { old with toUnix := none }
  /-- A row about another SID stays, unless it leads from the same unix id. -/
  kept : ∀ row ∈ cache.ids, row.isAbout m.sid = false → IdRow.sameIdKey row m.row = false →
    row ∈ cache'.ids
  /-- No other row leads from the SID to a unix id, if the new one does. -/
  onlySid : m.direction.isToUnix = true → ∀ row ∈ cache'.ids, row.isAbout m.sid = true →
    row.toUnix = some 1 → row = m.row
  /-- No other row leads from the unix id to a SID, if the new one does. -/
  onlyId : m.direction.isToWindows = true → ∀ row ∈ cache'.ids,
    row.number = wordColumn m.id.number → row.isUser = boolColumn m.id.kind.isUser →
    row.toWindows = some 1 → row = m.row

theorem wrote_putId (cache : Cache) (m : IdMapping) : cache.Wrote m (cache.putId m) where
  written := mem_putId.mpr (Or.inl rfl)
  origin row hrow := by
    rcases mem_putId.mp hrow with h | ⟨h, -⟩
    · exact Or.inl h
    · exact Or.inr (Or.inl h)
  kept row hrow hsid hid := by
    refine mem_putId.mpr (Or.inr ⟨hrow, ?_⟩)
    have hkey : IdRow.sameSidKey row m.row = false := by
      rw [Bool.eq_false_iff]
      intro hkey
      rw [(IdRow.sameSidKey_row.mp hkey).1] at hsid
      cases hsid
    rw [IdRow.collides, hkey, hid]
    rfl
  onlySid hdirection row hrow habout hunix := by
    rcases mem_putId.mp hrow with h | ⟨-, hcollides⟩
    · exact h
    · have hkey := IdRow.sameSidKey_row.mpr ⟨habout, hunix, hdirection⟩
      rw [IdRow.collides, hkey] at hcollides
      cases hcollides
  onlyId hdirection row hrow hnumber hkind hwindows := by
    rcases mem_putId.mp hrow with h | ⟨-, hcollides⟩
    · exact h
    · have hkey := IdRow.sameIdKey_row.mpr ⟨⟨hnumber, hkind⟩, hwindows, hdirection⟩
      rw [IdRow.collides, hkey, Bool.or_true] at hcollides
      cases hcollides

/-- A direction may be taken from rows about the SID before its mapping is written. -/
theorem wrote_supersede (cache : Cache) (kind : IdKind) (m : IdMapping) :
    cache.Wrote m ((cache.supersede m.sid kind).putId m) where
  written := (wrote_putId _ m).written
  origin row hrow := by
    rcases (wrote_putId _ m).origin row hrow with h | h | ⟨mid, hmid, habout, rfl⟩
    · exact Or.inl h
    · obtain ⟨old, hold, rfl⟩ := mem_supersede.mp h
      by_cases hs : supersedes m.sid kind old = true
      · rw [if_pos hs]
        exact Or.inr (Or.inr ⟨old, hold, by simp [supersedes] at hs; exact hs.1.1.1, rfl⟩)
      · rw [if_neg hs]
        exact Or.inr (Or.inl hold)
    · obtain ⟨old, hold, rfl⟩ := mem_supersede.mp hmid
      refine Or.inr (Or.inr ⟨old, hold, ?_, ?_⟩)
      · split at habout <;> exact habout
      · split <;> rfl
  kept row hrow hsid hid := by
    refine (wrote_putId _ m).kept row (mem_supersede.mpr ⟨row, hrow, ?_⟩) hsid hid
    rw [if_neg]
    simp [supersedes, hsid]
  onlySid := (wrote_putId _ m).onlySid
  onlyId := (wrote_putId _ m).onlyId

/-- Only the id table is looked at. -/
theorem Wrote.congr {m : IdMapping} {cache' cache'' : Cache} (h : cache.Wrote m cache')
    (hids : cache''.ids = cache'.ids) : cache.Wrote m cache'' := by
  obtain ⟨hwritten, horigin, hkept, hsid, hid⟩ := h
  rw [← hids] at hwritten horigin hkept hsid hid
  exact ⟨hwritten, horigin, hkept, hsid, hid⟩

/-- Every row of the cache ties a SID to a unix id, and no flag is odd. -/
def WellFormed (cache : Cache) : Prop :=
  ∀ row ∈ cache.ids, row.WellFormed

/-- The cache leads from the SID to no other unix ids than these. -/
def LeadsTo (cache : Cache) (sid : Sid) (ids : UnixId → Prop) : Prop :=
  ∀ row ∈ cache.ids, row.isAbout sid = true → row.toUnix = some 1 → ∃ id, ids id ∧ row.Ties sid id

/-- The cache leads from the unix id to no other SIDs than these. -/
def LeadsBack (cache : Cache) (id : UnixId) (sids : Sid → Prop) : Prop :=
  ∀ row ∈ cache.ids, row.number = wordColumn id.number → row.isUser = boolColumn id.kind.isUser →
    row.toWindows = some 1 → ∃ sid, sids sid ∧ row.Ties sid id

section Wrote

variable {m : IdMapping} {cache' : Cache} {sid : Sid} {id : UnixId}

theorem WellFormed.wrote (h : cache.WellFormed) (hwrote : cache.Wrote m cache') :
    cache'.WellFormed := by
  intro row hrow
  rcases hwrote.origin row hrow with rfl | hold | ⟨old, hold, -, rfl⟩
  · exact m.wellFormed_row
  · exact h row hold
  · exact (h old hold).clearToUnix

/-- The unix id that a lookup gives is the one that some row ties to the SID. -/
theorem WellFormed.row_of_idOf (h : cache.WellFormed) {wanted : Wanted} {hit : CachedId}
    {now : Int} (hhit : cache.idOf sid wanted now = .ok hit) :
    ∃ row ∈ cache.ids, row.Ties sid hit.id ∧ row.answersSid sid now = true ∧
      hit.direction = if flagIsSet row.toWindows then .both else .toUnix := by
  obtain ⟨row, hrow, hanswers, hcached, -⟩ := idOf_ok hhit
  obtain ⟨sid', id', hties⟩ := (h row hrow).ties
  obtain rfl := hties.eq_sid (IdRow.answersSid_iff.mp hanswers).2.1
  rw [hties.cachedId_eq] at hcached
  cases hcached
  exact ⟨row, hrow, hties, hanswers, rfl⟩

/-- The SID that a lookup gives is the one that some row ties to the unix id. -/
theorem WellFormed.row_of_sidOf (h : cache.WellFormed) {hit : CachedSid} {now : Int}
    (hhit : cache.sidOf id now = .ok hit) :
    ∃ row ∈ cache.ids, row.Ties hit.sid id ∧ row.answersId id now = true ∧
      hit.direction = if flagIsSet row.toUnix then .both else .toWindows := by
  obtain ⟨row, hrow, hanswers, hcached⟩ := sidOf_ok hhit
  obtain ⟨sid', id', hties⟩ := (h row hrow).ties
  obtain ⟨-, hnumber, hkind, -⟩ := IdRow.answersId_iff.mp hanswers
  obtain rfl := hties.eq_id hnumber hkind
  rw [hties.cachedSid_eq] at hcached
  cases hcached
  exact ⟨row, hrow, hties, hanswers, rfl⟩

/-- If the unix id that a lookup gives is said to hold back, a row leads both ways. -/
theorem WellFormed.answersId_of_idOf (h : cache.WellFormed) {wanted : Wanted} {hit : CachedId}
    {now : Int} (hhit : cache.idOf sid wanted now = .ok hit)
    (hback : hit.direction.isToWindows = true) :
    ∃ row ∈ cache.ids, row.Ties sid hit.id ∧ row.answersSid sid now = true ∧
      row.answersId hit.id now = true := by
  obtain ⟨row, hrow, hties, hanswers, hdirection⟩ := h.row_of_idOf hhit
  have hset : flagIsSet row.toWindows = true := by
    refine Decidable.byContradiction fun hclear => ?_
    rw [hdirection, if_neg hclear] at hback
    cases hback
  exact ⟨row, hrow, hties, hanswers, IdRow.answersId_iff.mpr ⟨(h row hrow).toWindows hset,
    hties.number, hties.isUser, (IdRow.answersSid_iff.mp hanswers).2.2⟩⟩

/-- If the SID that a lookup gives is said to hold back, a row leads both ways. -/
theorem WellFormed.answersSid_of_sidOf (h : cache.WellFormed) {hit : CachedSid} {now : Int}
    (hhit : cache.sidOf id now = .ok hit) (hback : hit.direction.isToUnix = true) :
    ∃ row ∈ cache.ids, row.Ties hit.sid id ∧ row.answersId id now = true ∧
      row.answersSid hit.sid now = true := by
  obtain ⟨row, hrow, hties, hanswers, hdirection⟩ := h.row_of_sidOf hhit
  have hset : flagIsSet row.toUnix = true := by
    refine Decidable.byContradiction fun hclear => ?_
    rw [hdirection, if_neg hclear] at hback
    cases hback
  exact ⟨row, hrow, hties, hanswers, IdRow.answersSid_iff.mpr ⟨(h row hrow).toUnix hset,
    hties.isAbout, (IdRow.answersId_iff.mp hanswers).2.2.2⟩⟩

theorem LeadsTo.mono {ids ids' : UnixId → Prop} (h : cache.LeadsTo sid ids)
    (hle : ∀ id, ids id → ids' id) : cache.LeadsTo sid ids' := by
  intro row hrow habout hunix
  obtain ⟨id, hid, hties⟩ := h row hrow habout hunix
  exact ⟨id, hle id hid, hties⟩

theorem LeadsTo.wrote {ids : UnixId → Prop} (h : cache.LeadsTo sid ids)
    (hwrote : cache.Wrote m cache')
    (hm : m.sid = sid → m.direction.isToUnix = true → ids m.id) : cache'.LeadsTo sid ids := by
  intro row hrow habout hunix
  rcases hwrote.origin row hrow with rfl | hold | ⟨old, -, -, rfl⟩
  · obtain rfl := m.row_ties.eq_sid habout
    exact ⟨m.id, hm rfl (isSet_of_flagColumn hunix), m.row_ties⟩
  · exact h row hold habout hunix
  · cases hunix

theorem LeadsBack.mono {sids sids' : Sid → Prop} (h : cache.LeadsBack id sids)
    (hle : ∀ sid, sids sid → sids' sid) : cache.LeadsBack id sids' := by
  intro row hrow hnumber hkind hwindows
  obtain ⟨sid, hsid, hties⟩ := h row hrow hnumber hkind hwindows
  exact ⟨sid, hle sid hsid, hties⟩

theorem LeadsBack.wrote {sids : Sid → Prop} (h : cache.LeadsBack id sids)
    (hwrote : cache.Wrote m cache')
    (hm : m.id = id → m.direction.isToWindows = true → sids m.sid) :
    cache'.LeadsBack id sids := by
  intro row hrow hnumber hkind hwindows
  rcases hwrote.origin row hrow with rfl | hold | ⟨old, hold, -, rfl⟩
  · obtain rfl := m.row_ties.eq_id hnumber hkind
    exact ⟨m.sid, hm rfl (isSet_of_flagColumn hwindows), m.row_ties⟩
  · exact h row hold hnumber hkind hwindows
  · obtain ⟨sid, hsid, hties⟩ := h old hold hnumber hkind hwindows
    exact ⟨sid, hsid, hties.clearToUnix⟩

end Wrote
end Cache

/-! ### The highest minted number -/

namespace Cache

variable {cache : Cache} {kind : IdKind}

theorem mem_mintedNumbers {n : Int} :
    n ∈ cache.mintedNumbers kind ↔ ∃ row ∈ cache.ids, row.isMinted = true ∧
      row.isUser = boolColumn kind.isUser ∧ row.number = some n := by
  simp only [mintedNumbers, List.mem_filterMap, List.mem_filter, Bool.and_eq_true, beq_iff_eq,
    and_assoc]

/-- The minted numbers of a cache are those of the ids that its rows are about. -/
theorem mem_mintedNumbers_of_ties {row : IdRow} {sid : Sid} {id : UnixId} (hrow : row ∈ cache.ids)
    (hties : row.Ties sid id) (heph : isEphemeral id.number = true) :
    (id.number.toNat : Int) ∈ cache.mintedNumbers id.kind :=
  mem_mintedNumbers.mpr ⟨row, hrow, hties.isMinted.trans heph, hties.isUser, hties.number⟩

/-- The highest minted number can be read, and no other minted number is above it. -/
theorem maxMinted_cases (h : ∀ row ∈ cache.ids, ∃ sid id, row.Ties sid id)
    (kind : IdKind) :
    (cache.maxMinted kind = .ok none ∧ ∀ n, n ∉ cache.mintedNumbers kind) ∨
      ∃ top : UInt32, cache.maxMinted kind = .ok (some top) ∧
        (top.toNat : Int) ∈ cache.mintedNumbers kind ∧
        ∀ n ∈ cache.mintedNumbers kind, n ≤ (top.toNat : Int) := by
  unfold maxMinted
  cases hmax : (cache.mintedNumbers kind).max? with
  | none =>
      refine Or.inl ⟨rfl, ?_⟩
      intro n hn
      rw [List.max?_eq_none_iff.mp hmax] at hn
      cases hn
  | some n =>
      obtain ⟨hmem, htop⟩ := List.max?_eq_some_iff.mp hmax
      obtain ⟨row, hrow, -, -, hnumber⟩ := mem_mintedNumbers.mp hmem
      obtain ⟨sid, id, hties⟩ := h row hrow
      obtain rfl : n = (id.number.toNat : Int) := by
        rw [hties.number] at hnumber
        exact (Option.some.inj hnumber).symm
      refine Or.inr ⟨id.number, ?_, hmem, htop⟩
      have hread : readNumber (some (id.number.toNat : Int)) = .ok id.number :=
        readNumber_wordColumn id.number
      simp only [hread]
      rfl

end Cache

/-! ### The rows of a resolved item -/

/-- The mapping that is written for a resolved item. -/
def Resolution.mapping (resolution : Resolution) (sid : Sid) (id : UnixId)
    (unixName : Option String) (direction : Direction) : IdMapping :=
  { sid, id, unixName, direction
    windowsDomain := resolution.windowsName.map (·.domain)
    windowsName := resolution.windowsName.map (·.name)
    expiry := resolution.expiry }

/-- The name that is written for a SID. -/
def nameMapping (settings : Settings) (now : Int) (sid : Sid) (name : WindowsName) : NameMapping :=
  { sid, name := name.name, domain := some name.domain, type := name.type
    expiry := settings.nameExpiry now }

/-- What is written for a resolved item: its mapping, and its Windows name if the directory
gave it. -/
theorem ids_cacheResolution (settings : Settings) (now : Int) (resolution : Resolution)
    (sid : Sid) (id : UnixId) (unixName : Option String) (direction : Direction) (cache : Cache) :
    (cacheResolution settings now resolution sid id unixName direction cache).ids
      = (cache.putId (resolution.mapping sid id unixName direction)).ids := by
  unfold cacheResolution
  simp only
  split
  · rfl
  · rfl

/-- A name that is in the cache after an item was written was there before, or is the name
that the directory gave the item. -/
theorem mem_names_cacheResolution {settings : Settings} {now : Int} {resolution : Resolution}
    {sid : Sid} {id : UnixId} {unixName : Option String} {direction : Direction} {cache : Cache}
    {row : NameRow}
    (h : row ∈ (cacheResolution settings now resolution sid id unixName direction cache).names) :
    row ∈ cache.names ∨ ∃ name, resolution.source = .directory ∧
      resolution.windowsName = some name ∧
      row = (nameMapping settings now sid name).row := by
  unfold cacheResolution at h
  simp only at h
  split at h
  · next name hsource hname =>
      rcases Table.mem_put.mp h with hrow | ⟨hrow, -⟩
      · exact Or.inr ⟨name, hsource, hname, hrow⟩
      · exact Or.inl hrow
  · exact Or.inl h

end IdentityMap
