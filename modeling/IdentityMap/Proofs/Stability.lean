/-
A minted id stays with its SID.

As long as there are no rules, and a SID is neither reserved nor one of this host's own, it
can only get an id by minting.  `Pinned` says what is true of such a SID at any time: if it
has an id, a row leads from the SID to it, and no row leads to another one.  A row of the
SID can be evicted only by a row about the same SID or about the same id, and the ledger
rules the second out.  An expired row is kept by a purge, is found again after a restart,
and is the fallback that minting prefers, so the id never changes.

This needs ids that count as minted, from 2^31 upwards.  Lower ones expire like the ids of
ordinary accounts, and then the SID gets another one.
-/
import IdentityMap.Proofs.Restart

namespace IdentityMap

/-! ### Without rules -/

theorem Rule.mapToUnix_empty (names : NameService) (mappingDomain : Option String) (name : String)
    (domain : Option String) (kind : IdKind) :
    mapToUnix {} names mappingDomain name domain kind = .error .notFound := by
  simp [mapToUnix, RuleTable.unixCandidates, RuleTable.rulesForWindows, RuleTable.byOrder, tryUnix]

theorem Rule.mapToWindows_empty {σ : Type} (mappingDomain : Option String) (name : String)
    (kind : IdKind) (resolve : String → String → σ → Except Failure NamedAccount × σ) (s : σ) :
    mapToWindows {} mappingDomain name kind resolve s = (.error .notFound, s) := by
  simp [mapToWindows, RuleTable.windowsCandidates, RuleTable.rulesForUnix, RuleTable.byOrder,
    tryWindows]

theorem RuleTable.mapsLocally_empty (names : NameService) : ({} : RuleTable).MapsLocally names := by
  intro mappingDomain name domain kind found h
  rw [Rule.mapToUnix_empty] at h
  cases h

/-! ### A SID and its id -/

/-- The row leads from the SID to the unix id. -/
structure IdRow.Leads (row : IdRow) (sid : Sid) (id : UnixId) : Prop where
  ties : row.Ties sid id
  toUnix : row.toUnix = some 1

/-- The ids of one kind that a SID was given so far. -/
abbrev Numbers := UInt32 → Prop

/-- The id is one of them. -/
def Numbers.Has (known : Numbers) (kind : IdKind) (id : UnixId) : Prop :=
  ∃ n, known n ∧ id = { kind, number := n }

theorem Numbers.Has.mono {known known' : Numbers} {kind : IdKind} {id : UnixId}
    (hle : known ≤ known') (h : known.Has kind id) : known'.Has kind id := by
  obtain ⟨n, hn, hid⟩ := h
  exact ⟨n, hle n hn, hid⟩

/-- There is at most one such id, it was minted, and it is the one that the cache leads to. -/
structure Pinned (sid : Sid) (kind : IdKind) (known : Numbers) (cache : Cache) : Prop where
  single : ∀ {n n'}, known n → known n' → n = n'
  minted : ∀ {n}, known n → isEphemeral n = true
  held : ∀ {n}, known n → ∃ row ∈ cache.ids, row.Leads sid { kind, number := n }
  only : cache.LeadsTo sid (known.Has kind)

/-- What an item about the SID is answered: an id that is known by then, which the cache
led to or which is written to it in both directions. -/
def Settles (sid : Sid) (kind : IdKind) (cache : Cache) (known : Numbers) (request : Request)
    (item : Item) : Prop :=
  request.id = .sid sid → item.answer.isSuccess = true →
    ∃ n, known n ∧ item.answer.id = some (.unix { kind, number := n }) ∧
      ((item.state = .cacheHit ∧ ∃ row ∈ cache.ids, row.Leads sid { kind, number := n }) ∨
        ((∃ resolution, item.state = .resolved resolution) ∧ item.answer.direction = .both))

/-- The invariant of a batch.  An id that is known comes from the cache or was noted in the
history, and what the history notes is known. -/
structure PinnedBatch (sid : Sid) (kind : IdKind) (cache : Cache) (known : Numbers)
    (m : Mint SequentialIds) : Prop where
  single : ∀ {n n'}, known n → known n' → n = n'
  minted : ∀ {n}, known n → isEphemeral n = true
  noted : ∀ {n}, m.history.get? sid kind = some n → known n
  source : ∀ {n}, known n → (∃ row ∈ cache.ids, row.Leads sid { kind, number := n }) ∨
    m.history.get? sid kind = some n

/-- Minting begins where ids count as minted, for the one kind that matters. -/
def mintedFloor (kind other : IdKind) : Nat :=
  if other = kind then ephemeralMin.toNat else 0

section Item

variable {δ : Type} {e : Engine δ SequentialIds} {sid : Sid} {kind : IdKind} {known : Numbers}
  {cache : Cache} {now : Int} {found : SidToId.Found} {request : Request} {item : Item}
  {m m' : Mint SequentialIds} {book : Book}

/-- A cached id of the SID is the known one, and a row leads to it. -/
theorem Pinned.idOf (h : Pinned sid kind known cache) {wanted : Wanted} {hit : CachedId}
    (hhit : cache.idOf sid wanted now = .ok hit) :
    ∃ n, known n ∧ hit.id = { kind, number := n } ∧
      ∃ row ∈ cache.ids, row.Leads sid { kind, number := n } := by
  obtain ⟨row, hrow, hanswers, hcached, -⟩ := Cache.idOf_ok hhit
  obtain ⟨hunix, habout, -⟩ := IdRow.answersSid_iff.mp hanswers
  obtain ⟨_, ⟨n, hknown, rfl⟩, hties⟩ := h.only row hrow habout hunix
  rw [hties.cachedId_eq] at hcached
  cases hcached
  exact ⟨n, hknown, rfl, row, hrow, hties, hunix⟩

/-- A lookup finds every minted id that a row leads to. -/
theorem not_leads_of_notFound {wanted : Wanted}
    (hmiss : cache.idOf sid wanted now = .error .notFound) {row : IdRow} (hrow : row ∈ cache.ids)
    {n : UInt32} (hminted : isEphemeral n = true) : ¬ row.Leads sid { kind, number := n } := by
  rintro ⟨hties, hunix⟩
  refine Cache.idRow?_eq_none_iff.mp (Cache.idRow?_of_notFound hmiss) row hrow ?_
  refine IdRow.answersSid_iff.mpr ⟨hunix, hties.isAbout, ?_⟩
  rw [IdRow.isUsable, hties.isMinted, hminted]
  rfl

/-- A request for one kind of id is settled with that kind. -/
theorem eq_of_verify {type : AccountType} {kind' : IdKind}
    (h : type.verify kind.wanted = .ok kind') : kind' = kind := by
  cases type <;> cases kind <;> cases h <;> rfl

theorem kind_of_unruled {rules : RuleTable} {kind' : IdKind} {name : Option WindowsName}
    {source : NameSource} (hwanted : request.wanted = kind.wanted)
    (h : SidToId.Unruled e rules cache now found request sid kind' name source) : kind' = kind := by
  cases h with
  | named _ hkind _ =>
      rw [hwanted] at hkind
      exact eq_of_verify hkind
  | nameless _ _ =>
      rw [hwanted]
      cases kind <;> rfl

/-- Noting the known id once more changes nothing. -/
theorem PinnedBatch.reuse (h : PinnedBatch sid kind cache known m) {id : UnixId}
    (hkind : id.kind = kind) (hknown : known id.number) :
    PinnedBatch sid kind cache known (m.reuse sid id) := by
  refine ⟨h.single, h.minted, ?_, ?_⟩
  · intro n hn
    simp only [Mint.reuse, SidHistory.get?_insert] at hn
    split at hn
    · cases hn
      exact hknown
    · exact h.noted hn
  · intro n hn
    refine Or.inr ?_
    rw [h.single hn hknown]
    simp only [Mint.reuse, SidHistory.get?_insert, hkind, and_self, if_true]

/-- A minted id that is noted first is the one that is known. -/
theorem PinnedBatch.first {number : UInt32} (hminted : isEphemeral number = true)
    (a : Allocator SequentialIds) :
    PinnedBatch sid kind cache (fun n => n = number)
      { history := m.history.insert sid kind number, allocator := a } := by
  refine ⟨?_, ?_, ?_, ?_⟩
  · rintro n n' rfl rfl
    rfl
  · rintro n rfl
    exact hminted
  · intro n hn
    simp only [SidHistory.get?_insert, and_self, if_true] at hn
    exact (Option.some.inj hn).symm
  · rintro n rfl
    exact Or.inr (by simp only [SidHistory.get?_insert, and_self, if_true])

/-- Nothing is known of a SID that no row leads from and that the history has no id of. -/
theorem PinnedBatch.unknown (h : PinnedBatch sid kind cache known m) {wanted : Wanted}
    (hmiss : cache.idOf sid wanted now = .error .notFound)
    (hget : m.history.get? sid kind = none) (n : UInt32) : ¬ known n := by
  intro hn
  rcases h.source hn with ⟨row, hrow, hleads⟩ | hnoted
  · exact not_leads_of_notFound hmiss hrow (h.minted hn) hleads
  · rw [hget] at hnoted
    cases hnoted

/-- Ids that are handed out count as minted. -/
theorem isEphemeral_of_allocate (he : e.authority = SequentialIds.authority)
    (hcovers : book.Covers (mintedFloor kind) m) {number : UInt32} {a : Allocator SequentialIds}
    (hallocate : m.allocator.allocate e.authority e.blockSize kind = (.ok number, a)) :
    isEphemeral number = true := by
  rw [he] at hallocate
  rcases Allocator.allocate_cases hcovers.kept.contiguous e.blockSize kind with
    ⟨number', a', hok, hout⟩ | ⟨failure, herror, -⟩
  · rw [hok] at hallocate
    cases hallocate
    have hfloor := hcovers.kept.floor_le kind
    rw [mintedFloor, if_pos rfl] at hfloor
    rw [isEphemeral_iff, hout.number_eq]
    exact hfloor
  · rw [herror] at hallocate
    cases hallocate

/-- Obtaining an id for the SID itself: it is the known one, or there was none. -/
theorem PinnedBatch.obtain (he : e.authority = SequentialIds.authority)
    (hpinned : Pinned sid kind known cache) {known' : Numbers} (hle : known ≤ known')
    (h : PinnedBatch sid kind cache known' m) (hcovers : book.Covers (mintedFloor kind) m)
    {fallback : Fallback} (hspare : SidToId.Spare cache now request sid fallback)
    {number : UInt32} (hobtain : SidToId.obtainId e sid kind fallback m = (.ok number, m')) :
    ∃ known'', known' ≤ known'' ∧ PinnedBatch sid kind cache known'' m' ∧ known'' number := by
  rcases SidToId.obtainId_ok hobtain with ⟨id, hid, hkind, rfl, rfl⟩ |
    ⟨hother, (⟨hget, rfl⟩ | ⟨hget, a, hallocate, rfl⟩)⟩
  · -- The fallback is the id of an expired row, which is the known one.
    have hknown : known' id.number := by
      cases hspare with
      | nothing => cases hid
      | expired hhit =>
          cases hid
          obtain ⟨n, hn, hsame, -⟩ := hpinned.idOf hhit
          rw [hsame]
          exact hle n hn
    exact ⟨known', le_refl known', h.reuse hkind hknown, hknown⟩
  · exact ⟨known', le_refl known', h, h.noted hget⟩
  · have hmiss : cache.idOf sid request.wanted now = .error .notFound := by
      cases hspare with
      | nothing hmiss => exact hmiss
      | expired hhit =>
          obtain ⟨n, -, hsame, -⟩ := hpinned.idOf hhit
          exact absurd (by rw [hsame]) (hother _ rfl)
    exact ⟨fun n => n = number, fun n hn => absurd hn (h.unknown hmiss hget n),
      .first (isEphemeral_of_allocate he hcovers hallocate) a, rfl⟩

/-- Items about other SIDs change nothing that the batch knows of the SID. -/
theorem PinnedBatch.congr (h : PinnedBatch sid kind cache known m)
    (hget : m'.history.get? sid kind = m.history.get? sid kind) :
    PinnedBatch sid kind cache known m' := by
  refine ⟨h.single, h.minted, ?_, ?_⟩
  · intro n hn
    rw [hget] at hn
    exact h.noted hn
  · intro n hn
    rw [hget]
    exact h.source hn

theorem settles_of_failed (h : item.answer.isSuccess = false) :
    Settles sid kind cache known request item := by
  intro _ hok
  rw [h] at hok
  cases hok

theorem settles_of_ne {other : Sid} (hsid : request.id = .sid other) (hne : other ≠ sid) :
    Settles sid kind cache known request item := by
  intro hasked
  rw [hsid] at hasked
  exact absurd (Identity.sid.inj hasked) hne

/-- One item of a batch: what it makes known of the SID, and what it is answered. -/
theorem PinnedBatch.outcome (he : e.authority = SequentialIds.authority)
    (hordinary : WellKnown.ofSid sid = none) (hforeign : ¬ e.settings.IsOwn sid)
    (hpinned : Pinned sid kind known cache) {known' : Numbers} (hle : known ≤ known')
    (h : PinnedBatch sid kind cache known' m) (hcovers : book.Covers (mintedFloor kind) m)
    (hwanted : request.id = .sid sid → request.wanted = kind.wanted)
    (houtcome : SidToId.Outcome e {} cache now found request m item m') :
    ∃ known'', known' ≤ known'' ∧ PinnedBatch sid kind cache known'' m' ∧
      Settles sid kind cache known'' request item := by
  cases houtcome with
  | failed hfailed => exact ⟨known', le_refl known', h, settles_of_failed hfailed⟩
  | exhausted hfailed hobtain =>
      refine ⟨known', le_refl known', h.congr ?_, settles_of_failed hfailed⟩
      rw [(SidToId.obtainId_error hobtain).1]
  | @reserved other id direction hsid hreserved =>
      refine ⟨known', le_refl known', h, settles_of_ne hsid ?_⟩
      rintro rfl
      obtain ⟨entry, hentry, hfor, -⟩ := WellKnown.maps_of_idOf hreserved
      exact List.find?_eq_none.mp hordinary entry hentry hfor
  | @cached other hit hsid hhit _ =>
      refine ⟨known', le_refl known', h, ?_⟩
      intro hasked _
      obtain rfl : other = sid := Identity.sid.inj (hsid.symm.trans hasked)
      obtain ⟨n, hn, hsame, hrow⟩ := hpinned.idOf hhit
      refine ⟨n, hle n hn, ?_, Or.inl ⟨rfl, hrow⟩⟩
      rw [SidToId.cachedAnswer, hsame]
  | ruled _ _ _ _ hmapped =>
      rw [Rule.mapToUnix_empty] at hmapped
      cases hmapped
  | @localAccount other id reason hsid _ hmachine hdecode =>
      refine ⟨known', le_refl known', h, settles_of_ne hsid ?_⟩
      rintro rfl
      exact hforeign (LocalAccount.isOwn_of_decode hmachine hdecode)
  | @minted other kind' name source fallback number domain m' hsid hunruled hspare hobtain =>
      by_cases hsame : other = sid
      · subst hsame
        obtain rfl : kind' = kind := kind_of_unruled (hwanted hsid) hunruled
        obtain ⟨known'', hle', hbatch, hnumber⟩ := h.obtain he hpinned hle hcovers hspare hobtain
        refine ⟨known'', hle', hbatch, fun _ _ => ⟨number, hnumber, rfl, Or.inr ⟨⟨_, rfl⟩, rfl⟩⟩⟩
      · refine ⟨known', le_refl known', h.congr ?_, settles_of_ne hsid hsame⟩
        exact SidToId.history_of_obtainId_ok hobtain (Ne.symm hsame)

theorem Settles.mono {known' : Numbers} (hle : known ≤ known')
    (h : Settles sid kind cache known request item) :
    Settles sid kind cache known' request item := by
  intro hasked hok
  obtain ⟨n, hn, hrest⟩ := h hasked hok
  exact ⟨n, hle n hn, hrest⟩

/-- The items of a batch agree on the SID. -/
theorem Pinned.settled (he : e.authority = SequentialIds.authority)
    (hordinary : WellKnown.ofSid sid = none) (hforeign : ¬ e.settings.IsOwn sid)
    (now : Int) (found : SidToId.Found) {requests : List Request}
    (h : Pinned sid kind known cache) (hrows : book.HoldsRows cache)
    {a : Allocator SequentialIds} (hcovers : book.Covers (mintedFloor kind) { allocator := a })
    (hwanted : ∀ request ∈ requests, request.id = .sid sid → request.wanted = kind.wanted) :
    ∃ known' : Numbers, known ≤ known' ∧ (∀ {n n'}, known' n → known' n' → n = n') ∧
      (∀ {n}, known' n → isEphemeral n = true) ∧
      ∀ p ∈ requests.zip (IdentityMap.settled e {} cache now found requests { allocator := a }).1,
        Settles sid kind cache known' p.1 p.2 := by
  have hbatch : PinnedBatch sid kind cache known { allocator := a } :=
    ⟨h.single, h.minted, fun hn => (by cases hn), fun hn => Or.inl (h.held hn)⟩
  obtain ⟨known', hle, ⟨hbatch', -⟩, hitems⟩ :=
    settled_grow (fun (known' : Numbers) m => PinnedBatch sid kind cache known' m ∧
        known ≤ known' ∧ ∃ book, Book.Covers (mintedFloor kind) book m ∧ book.HoldsRows cache)
      (Settles sid kind cache) Settles.mono
      (by
        rintro known' m request item m' hmem ⟨hbatch, hle, book, hcovers, hrows⟩ houtcome
        obtain ⟨known'', hle', hbatch', hitem⟩ :=
          hbatch.outcome he hordinary hforeign h hle hcovers (hwanted request hmem) houtcome
        obtain ⟨book', hgrows, hcovers', -⟩ :=
          Ledger.outcome he (RuleTable.mapsLocally_empty e.names) hrows hcovers houtcome
        exact ⟨known'', hle', ⟨hbatch', le_trans hle hle', book', hcovers', hrows.mono hgrows⟩,
          hitem⟩)
      ⟨hbatch, le_refl known, book, hcovers, hrows⟩
  exact ⟨known', hle, hbatch'.single, hbatch'.minted, hitems⟩

end Item

/-! ### What writes leave of a SID -/

section Write

variable {sid : Sid} {kind : IdKind} {known : Numbers} {cache cache' : Cache} {book : Book}
  {m : IdMapping}

/-- Writing another SID's mapping keeps the row: no other SID has the minted id. -/
theorem IdRow.Leads.kept {row : IdRow} {id : UnixId} (h : row.Leads sid id)
    (hrow : row ∈ cache.ids) (hwrote : cache.Wrote m cache') (hrows : book.HoldsRows cache)
    (hsingle : ∀ {sid sid' id}, book sid id → book sid' id → sid = sid')
    (hminted : isEphemeral id.number = true) (hne : m.sid ≠ sid)
    (hm : isEphemeral m.id.number = true → book m.sid m.id) : row ∈ cache'.ids := by
  refine hwrote.kept row hrow ?_ ?_
  · rw [Bool.eq_false_iff]
    exact fun habout => hne (h.ties.eq_sid habout)
  · rw [Bool.eq_false_iff]
    intro hkey
    obtain ⟨hnumber, hkind⟩ := (IdRow.sameIdKey_row.mp hkey).1
    obtain rfl : m.id = id := h.ties.eq_id hnumber hkind
    obtain ⟨sid', id', hties, hbook⟩ := hrows row hrow
    obtain rfl : sid = sid' := hties.eq_sid h.ties.isAbout
    obtain rfl : m.id = id' := hties.eq_id hnumber hkind
    exact hne (hsingle (hm hminted) (hbook hminted))

/-- A write for another SID leaves the SID where it was. -/
theorem Pinned.wrote (h : Pinned sid kind known cache) (hwrote : cache.Wrote m cache')
    (hrows : book.HoldsRows cache)
    (hsingle : ∀ {sid sid' id}, book sid id → book sid' id → sid = sid') (hne : m.sid ≠ sid)
    (hm : isEphemeral m.id.number = true → book m.sid m.id) : Pinned sid kind known cache' := by
  refine ⟨h.single, h.minted, ?_, h.only.wrote hwrote fun heq _ => absurd heq hne⟩
  intro n hn
  obtain ⟨row, hrow, hleads⟩ := h.held hn
  exact ⟨row, hleads.kept hrow hwrote hrows hsingle (h.minted hn) hne hm, hleads⟩

/-- A purge takes no row of a minted id. -/
theorem Pinned.purge (h : Pinned sid kind known cache) (now : Int) :
    Pinned sid kind known (cache.purge now) := by
  refine ⟨h.single, h.minted, ?_, fun row hrow => h.only row (Cache.mem_of_mem_purge hrow)⟩
  intro n hn
  obtain ⟨row, hrow, hleads⟩ := h.held hn
  exact ⟨row, Cache.mem_purge_of_isMinted hrow (hleads.ties.isMinted.trans (h.minted hn)), hleads⟩

/-- What is written for the SID in a batch is a known id, in both directions. -/
theorem Settles.written {request : Request} {item : Item}
    (h : Settles sid kind cache known request item)
    (hm : SidToId.written? request item = some m) (hsid : m.sid = sid) :
    ∃ n, known n ∧ item.answer.id = some (.unix { kind, number := n }) ∧
      m.id = { kind, number := n } ∧ m.direction = .both := by
  obtain ⟨resolution, hstate, hasked, hid, hok, heq⟩ := SidToId.written?_eq_some hm
  rw [hsid] at hasked
  obtain ⟨n, hn, hid', ⟨hhit, -⟩ | ⟨-, hboth⟩⟩ := h hasked hok
  · rw [hstate] at hhit
    cases hhit
  · refine ⟨n, hn, hid', Identity.unix.inj (Option.some.inj (hid.symm.trans hid')), ?_⟩
    rw [heq]
    exact hboth

/-- The row of a mapping in both directions leads from its SID to its unix id. -/
theorem IdMapping.leads_row {n : UInt32} (hsid : m.sid = sid) (hid : m.id = { kind, number := n })
    (hboth : m.direction = .both) : m.row.Leads sid { kind, number := n } := by
  refine ⟨?_, ?_⟩
  · rw [← hid, ← hsid]
    exact m.row_ties
  · rw [IdMapping.row, hboth]
    rfl

end Write

/-! ### Writing a batch -/

/-- The ids that the SID is answered in a batch, and those that it had before. -/
def Numbers.answered (known : Numbers) (sid : Sid) (kind : IdKind)
    (items : List (Request × Item)) : Numbers :=
  fun n => known n ∨ ∃ p ∈ items, p.1.id = .sid sid ∧ p.2.answer.isSuccess = true ∧
    p.2.answer.id = some (.unix { kind, number := n })

theorem Numbers.le_answered (known : Numbers) {sid : Sid} {kind : IdKind}
    {items : List (Request × Item)} : known ≤ known.answered sid kind items :=
  fun _ hn => Or.inl hn

/-- The items of a batch agree on the SID, and with the book on the minted ids.  The cache
is the one that the batch began with. -/
structure Agreed (sid : Sid) (kind : IdKind) (cache : Cache) (known : Numbers) (book : Book)
    (items : List (Request × Item)) : Prop where
  single : ∀ {n n'}, known n → known n' → n = n'
  minted : ∀ {n}, known n → isEphemeral n = true
  oneSid : ∀ {sid sid' id}, book sid id → book sid' id → sid = sid'
  accounts : ∀ {p}, p ∈ items → book.Accounts p.1 p.2
  settles : ∀ {p}, p ∈ items → Settles sid kind cache known p.1 p.2

/-- What every write of a batch keeps. -/
structure Recording (sid : Sid) (kind : IdKind) (known : Numbers) (book : Book)
    (cache : Cache) : Prop where
  rows : book.HoldsRows cache
  only : cache.LeadsTo sid (known.Has kind)

namespace Agreed

variable {sid : Sid} {kind : IdKind} {before known : Numbers} {start cache : Cache} {book : Book}
  {items : List (Request × Item)} {settings : Settings} {now : Int} {p : Request × Item}

/-- The answers are among the known ids. -/
theorem answered_le (h : Agreed sid kind start known book items) (hle : before ≤ known) :
    before.answered sid kind items ≤ known := by
  rintro n (hn | ⟨p, hp, hasked, hok, hid⟩)
  · exact hle n hn
  · obtain ⟨n', hn', hid', -⟩ := h.settles hp hasked hok
    cases hid.symm.trans hid'
    exact hn'

theorem record (h : Agreed sid kind start known book items) (hp : p ∈ items)
    (hcache : Recording sid kind (before.answered sid kind items) book cache) :
    Recording sid kind (before.answered sid kind items) book
      (SidToId.record settings now p.1 p.2 cache) := by
  refine ⟨hcache.rows.recordSid (h.accounts hp), ?_⟩
  rcases SidToId.record_cases settings now p.1 p.2 cache with ⟨-, hsame⟩ | ⟨m, hm, hwrote⟩
  · rw [hsame]
    exact hcache.only
  · refine hcache.only.wrote hwrote fun hsid _ => ?_
    obtain ⟨n, -, hid, hwritten, -⟩ := (h.settles hp).written hm hsid
    obtain ⟨-, -, hasked, -, hok, -⟩ := SidToId.written?_eq_some hm
    rw [hsid] at hasked
    exact ⟨n, Or.inr ⟨p, hp, hasked, hok, hid⟩, hwritten⟩

/-- A write leads the SID to the same id again, or leaves the row alone. -/
theorem held_record (h : Agreed sid kind start known book items) (hp : p ∈ items)
    (hrows : book.HoldsRows cache) {n : UInt32} (hn : known n)
    (hheld : ∃ row ∈ cache.ids, row.Leads sid { kind, number := n }) :
    ∃ row ∈ (SidToId.record settings now p.1 p.2 cache).ids,
      row.Leads sid { kind, number := n } := by
  obtain ⟨row, hrow, hleads⟩ := hheld
  rcases SidToId.record_cases settings now p.1 p.2 cache with ⟨-, hsame⟩ | ⟨m, hm, hwrote⟩
  · rw [hsame]
    exact ⟨row, hrow, hleads⟩
  · by_cases hsid : m.sid = sid
    · obtain ⟨n', hn', -, hid, hboth⟩ := (h.settles hp).written hm hsid
      obtain rfl : n = n' := h.single hn hn'
      exact ⟨m.row, hwrote.written, IdMapping.leads_row hsid hid hboth⟩
    · have hkept : row ∈ (SidToId.record settings now p.1 p.2 cache).ids :=
        hleads.kept hrow hwrote hrows h.oneSid (h.minted hn) hsid ((h.accounts hp).written hm)
      exact ⟨row, hkept, hleads⟩

/-- An id that the SID was answered is written, unless a row led to it already. -/
theorem held_of_answered (settings : Settings) (now : Int)
    (h : Agreed sid kind start known book items) (hp : p ∈ items) {n : UInt32}
    (hasked : p.1.id = .sid sid) (hok : p.2.answer.isSuccess = true)
    (hid : p.2.answer.id = some (.unix { kind, number := n })) :
    (∃ row ∈ start.ids, row.Leads sid { kind, number := n }) ∨
      ∀ cache, ∃ row ∈ (SidToId.record settings now p.1 p.2 cache).ids,
        row.Leads sid { kind, number := n } := by
  obtain ⟨n', -, hid', hfrom⟩ := h.settles hp hasked hok
  cases hid.symm.trans hid'
  rcases hfrom with ⟨-, hrow⟩ | ⟨⟨resolution, hstate⟩, hboth⟩
  · exact Or.inl hrow
  · refine Or.inr fun cache => ?_
    have hwritten := SidToId.written?_of_resolved hstate hasked hid hok
    rcases SidToId.record_cases settings now p.1 p.2 cache with ⟨hnone, -⟩ | ⟨m, hm, hwrote⟩
    · rw [hwritten] at hnone
      cases hnone
    · rw [hwritten] at hm
      cases hm
      exact ⟨_, hwrote.written, IdMapping.leads_row rfl rfl hboth⟩

end Agreed

/-- After a batch is written, the cache leads from the SID to what it was answered. -/
theorem Pinned.recordAll {sid : Sid} {kind : IdKind} {known known' : Numbers} {cache : Cache}
    {book : Book} {items : List (Request × Item)} {settings : Settings} {now : Int}
    (h : Pinned sid kind known cache) (hrows : book.HoldsRows cache) (hle : known ≤ known')
    (hagreed : Agreed sid kind cache known' book items) :
    Pinned sid kind (known.answered sid kind items)
      (SidToId.recordAll settings now items cache) := by
  have hknown := hagreed.answered_le hle
  have hstart : Recording sid kind (known.answered sid kind items) book cache :=
    ⟨hrows, h.only.mono fun _ => Numbers.Has.mono known.le_answered⟩
  refine ⟨fun hn hn' => hagreed.single (hknown _ hn) (hknown _ hn'),
    fun hn => hagreed.minted (hknown _ hn), ?_,
    (recordAll_inv _ (fun hp hcache => hagreed.record hp hcache) hstart).only⟩
  intro n hn
  refine recordAll_reaches (Recording sid kind (known.answered sid kind items) book)
    (fun c => ∃ row ∈ c.ids, row.Leads sid { kind, number := n })
    (fun hp hcache => hagreed.record hp hcache)
    (fun hp hcache hheld => hagreed.held_record hp hcache.rows (hknown _ hn) hheld) hstart ?_
  rcases hn with hn | ⟨p, hp, hasked, hok, hid⟩
  · exact Or.inl (h.held hn)
  · rcases hagreed.held_of_answered settings now hp hasked hok hid with hheld | hheld
    · exact Or.inl hheld
    · exact Or.inr ⟨p, hp, fun c _ => hheld c⟩

/-! ### Calls -/

/-- The state of an engine without rules, for a SID that may have an id already. -/
structure Stable {δ : Type} (sid : Sid) (kind : IdKind) (known : Numbers)
    (s : EngineState δ SequentialIds) : Prop where
  unruled : s.rules = {}
  pinned : Pinned sid kind known s.cache
  ledger : ∃ book, Ledger (mintedFloor kind) book s

/-- The SID was given a known id, if it was given one at all. -/
def GivesKnown (sid : Sid) (kind : IdKind) (known : Numbers) (reply : Reply) : Prop :=
  reply.asked = .sid sid → reply.answer.isSuccess = true →
    ∃ n, known n ∧ reply.answer.id = some (.unix { kind, number := n })

theorem GivesKnown.mono {sid : Sid} {kind : IdKind} {known known' : Numbers} {reply : Reply}
    (hle : known ≤ known') (h : GivesKnown sid kind known reply) :
    GivesKnown sid kind known' reply := by
  intro hasked hok
  obtain ⟨n, hn, hid⟩ := h hasked hok
  exact ⟨n, hle n hn, hid⟩

/-- Without rules, a lookup of a unix id writes SIDs of this host only. -/
theorem isOwn_of_written {δ : Type} {e : Engine δ SequentialIds} {cache : Cache} {now : Int}
    {request : Request} {d : δ} {item : Item} {m : IdMapping}
    (houtcome : IdToSid.Outcome e cache {} now request d item)
    (hm : IdToSid.written? e.names request item = some m) :
    e.settings.IsOwn m.sid ∧ isEphemeral m.id.number = false := by
  obtain ⟨resolution, hstate, hid, hsid, hok, -⟩ := IdToSid.written?_eq_some hm
  cases houtcome with
  | failed hfailed =>
      rw [hfailed] at hok
      cases hok
  | reserved _ _ => cases hstate
  | cached _ _ _ => cases hstate
  | ruled _ _ _ _ hmapped =>
      rw [Rule.mapToWindows_empty] at hmapped
      cases hmapped
  | localAccount hid' _ hminted _ hlocal =>
      cases hid'.symm.trans hid
      cases hsid
      exact ⟨LocalAccount.isOwn_of_localSid hlocal, hminted⟩

namespace Stable

variable {δ : Type} {e : Engine δ SequentialIds} {sid : Sid} {kind : IdKind} {known : Numbers}
  {s : EngineState δ SequentialIds} {now : Int}

/-- A batch of SIDs gives the SID the id that it has, or its first one. -/
theorem mapSids (he : e.authority = SequentialIds.authority)
    (hordinary : WellKnown.ofSid sid = none) (hforeign : ¬ e.settings.IsOwn sid)
    (h : Stable sid kind known s) {requests : List Request}
    (hwanted : ∀ request ∈ requests, request.id = .sid sid → request.wanted = kind.wanted) :
    ∃ known' : Numbers, known ≤ known' ∧ Stable sid kind known' (e.mapSids now requests s).2 ∧
      ∀ reply ∈ replies requests (e.mapSids now requests s).1,
        GivesKnown sid kind known' reply := by
  obtain ⟨hunruled, hpinned, book, hledger⟩ := h
  obtain ⟨book', hgrows, hledger', haccounts⟩ :=
    hledger.batch he (hunruled ▸ RuleTable.mapsLocally_empty e.names) now requests
  obtain ⟨known', hle, hsingle, hminted, hsettles⟩ := hpinned.settled he hordinary hforeign now
    (batchFound e now requests s).1 hledger.rows ⟨hledger.kept, fun hget => by cases hget⟩ hwanted
  rw [hunruled] at haccounts
  have hagreed : Agreed sid kind s.cache known' book' _ :=
    ⟨hsingle, hminted, hledger'.kept.single, fun hp => haccounts _ hp, fun hp => hsettles _ hp⟩
  refine ⟨known.answered sid kind (requests.zip (settled e {} s.cache now
    (batchFound e now requests s).1 requests { allocator := s.allocator }).1),
    known.le_answered, ⟨?_, ?_, book', hledger'⟩, ?_⟩
  all_goals rw [mapSids_eq]
  · exact hunruled
  · rw [hunruled]
    exact hpinned.recordAll (hledger.rows.mono hgrows) hle hagreed
  · rw [hunruled]
    intro reply hreply hasked hok
    obtain ⟨p, hp, rfl⟩ := mem_replies_map hreply
    obtain ⟨n, -, hid, -⟩ := hagreed.settles hp hasked hok
    exact ⟨n, Or.inr ⟨p, hp, hasked, hok, hid⟩, hid⟩

/-- A lookup of a unix id leaves the SID where it was. -/
theorem mapId (hforeign : ¬ e.settings.IsOwn sid) (h : Stable sid kind known s) (now : Int)
    (request : Request) :
    Stable sid kind known (e.mapId now request s).2 ∧
      GivesKnown sid kind known { asked := request.id, answer := (e.mapId now request s).1 } := by
  obtain ⟨hunruled, hpinned, book, hledger⟩ := h
  refine ⟨⟨hunruled, ?_, book, (hledger.mapId e now request).1⟩, ?_⟩
  · simp only [Engine.mapId]
    have houtcome := IdToSid.outcome e s.cache {} now request s.directory
    rw [← hunruled] at houtcome
    rcases IdToSid.record_cases e.settings e.names now request
      (IdToSid.resolve e s.cache s.rules now request s.directory).1 s.cache with
      ⟨-, hsame⟩ | ⟨m, hm, hwrote⟩
    · rw [hsame]
      exact hpinned
    · rw [hunruled] at houtcome hm
      obtain ⟨hown, hminted⟩ := isOwn_of_written houtcome hm
      refine hpinned.wrote hwrote hledger.rows hledger.kept.single ?_ fun heph => ?_
      · rintro rfl
        exact hforeign hown
      · rw [hminted] at heph
        cases heph
  · intro hasked hok
    obtain ⟨id, -, hunix, -⟩ := Ledger.idOutcome hledger.rows
      (IdToSid.outcome e s.cache s.rules now request s.directory) hok
    rw [hunix] at hasked
    cases hasked

theorem mapIds (hforeign : ¬ e.settings.IsOwn sid) (h : Stable sid kind known s) (now : Int)
    (requests : List Request) :
    Stable sid kind known (e.mapIds now requests s).2 ∧
      ∀ reply ∈ replies requests (e.mapIds now requests s).1, GivesKnown sid kind known reply := by
  induction requests generalizing s with
  | nil => exact ⟨h, by simp [replies]⟩
  | cons request rest ih =>
      obtain ⟨hstable, hfirst⟩ := h.mapId hforeign now request
      obtain ⟨hstable', hrest⟩ := ih hstable
      refine ⟨hstable', ?_⟩
      intro reply hreply
      rcases List.mem_cons.mp hreply with rfl | hreply
      · exact hfirst
      · exact hrest reply hreply

theorem purge (h : Stable sid kind known s) (now : Int) :
    Stable sid kind known { s with cache := s.cache.purge now } := by
  obtain ⟨hunruled, hpinned, book, hledger⟩ := h
  exact ⟨hunruled, hpinned.purge now, book, hledger.kept, hledger.rows.purge⟩

/-- A restart keeps the cache, and goes on minting above it. -/
theorem reopened (h : Stable sid kind known s) {ids : SequentialIds}
    (habove : SequentialIds.above s.cache = .ok ids) (directory : δ) :
    Stable sid kind known (s.reopened directory ids) := by
  obtain ⟨hunruled, hpinned, book, hledger⟩ := h
  obtain ⟨ids', habove', hfirst⟩ := above_ok hledger.rows
  rw [habove] at habove'
  cases habove'
  have hfloor : ∀ other, mintedFloor kind other ≤ WellKnown.firstFree other := by
    intro other
    unfold mintedFloor
    split
    · cases other <;> decide
    · exact Nat.zero_le _
  exact ⟨hunruled, hpinned, _, ledger_reopened hledger hfloor hfirst
    (fun reply (hreply : reply ∈ []) => by cases hreply) directory⟩

/-- An engine that was just started knows nothing of the SID. -/
theorem start (directory : δ) {ids : SequentialIds}
    (h : ephemeralMin.toNat ≤ ids.next kind) :
    Stable sid kind (fun _ => False) (EngineState.fresh {} directory ids) := by
  refine ⟨rfl, ⟨fun hn => hn.elim, fun hn => hn.elim, fun hn => hn.elim, ?_⟩, _,
    Ledger.start (mintedFloor kind) {} directory fun other => ?_⟩
  · intro row hrow
    cases hrow
  · unfold mintedFloor
    split
    · next hsame =>
        rw [hsame]
        exact h
    · exact Nat.zero_le _

end Stable

/-! ### Restarts -/

/-- What happens to an engine: it is called, or it is closed and another one is opened on
its stores. -/
inductive Event (δ : Type) where
  | call (now : Int) (call : Call)
  | restart (engine : Engine δ SequentialIds) (directory : δ)

variable {δ : Type}

/-- What is answered from one event to the next.  Nothing is after a restart that fails. -/
def history : Engine δ SequentialIds → List (Event δ) → EngineState δ SequentialIds → List Reply
  | _, [], _ => []
  | e, .call now call :: rest, s =>
    let (first, s) := call.run e now s
    first ++ history e rest s
  | _, .restart engine directory :: rest, s =>
    match SequentialIds.above s.cache with
    | .ok ids => history engine rest (s.reopened directory ids)
    | .error _ => []

/-- The events under which the SID keeps its id: no rules, no other kind of id for the SID,
and the same host after a restart. -/
inductive Event.Plain (machineSid : Option String) (sid : Sid) (kind : IdKind) : Event δ → Prop
  | mapSids {now : Int} {requests : List Request}
      (h : ∀ request ∈ requests, request.id = .sid sid → request.wanted = kind.wanted) :
      Event.Plain machineSid sid kind (.call now (.mapSids requests))
  | mapIds {now : Int} {requests : List Request} :
      Event.Plain machineSid sid kind (.call now (.mapIds requests))
  | purge {now : Int} : Event.Plain machineSid sid kind (.call now .purge)
  | restart {engine : Engine δ SequentialIds} {directory : δ}
      (hauthority : engine.authority = SequentialIds.authority)
      (hmachine : engine.settings.machineSid = machineSid) :
      Event.Plain machineSid sid kind (.restart engine directory)

/-- One event after another, the SID keeps its id. -/
theorem Stable.history {e : Engine δ SequentialIds} {sid : Sid} {kind : IdKind} {known : Numbers}
    {s : EngineState δ SequentialIds} {events : List (Event δ)}
    (he : e.authority = SequentialIds.authority) (hordinary : WellKnown.ofSid sid = none)
    (hforeign : ¬ e.settings.IsOwn sid)
    (hplain : ∀ event ∈ events, event.Plain e.settings.machineSid sid kind)
    (h : Stable sid kind known s) :
    ∃ known' : Numbers, known ≤ known' ∧ (∀ {n n'}, known' n → known' n' → n = n') ∧
      ∀ reply ∈ IdentityMap.history e events s, GivesKnown sid kind known' reply := by
  induction events generalizing e known s with
  | nil => exact ⟨known, le_refl known, h.pinned.single, by simp [IdentityMap.history]⟩
  | cons event rest ih =>
      have hrest : ∀ event ∈ rest, event.Plain e.settings.machineSid sid kind :=
        fun event hevent => hplain event (List.mem_cons_of_mem _ hevent)
      -- After a call the rest is a history of the same engine.
      have hcall : ∀ {now call}, event = .call now call → (∃ known₁ : Numbers, known ≤ known₁ ∧
          Stable sid kind known₁ (call.run e now s).2 ∧
          ∀ reply ∈ (call.run e now s).1, GivesKnown sid kind known₁ reply) →
          ∃ known' : Numbers, known ≤ known' ∧ (∀ {n n'}, known' n → known' n' → n = n') ∧
            ∀ reply ∈ IdentityMap.history e (event :: rest) s,
              GivesKnown sid kind known' reply := by
        rintro now call rfl ⟨known₁, hle₁, hstable, hfirst⟩
        obtain ⟨known₂, hle₂, hsingle, hlater⟩ := ih he hforeign hrest hstable
        refine ⟨known₂, le_trans hle₁ hle₂, hsingle, ?_⟩
        intro reply hreply
        rcases List.mem_append.mp hreply with hreply | hreply
        · exact (hfirst reply hreply).mono hle₂
        · exact hlater reply hreply
      cases hplain event (List.mem_cons_self ..) with
      | mapSids hwanted => exact hcall rfl (h.mapSids he hordinary hforeign hwanted)
      | @mapIds now requests =>
          obtain ⟨hstable, hreplies⟩ := h.mapIds hforeign now requests
          exact hcall rfl ⟨known, le_refl known, hstable, hreplies⟩
      | @purge now =>
          exact hcall rfl ⟨known, le_refl known, h.purge now, fun reply hreply => by cases hreply⟩
      | @restart engine directory hauthority hmachine =>
          simp only [IdentityMap.history]
          cases habove : SequentialIds.above s.cache with
          | error failure => exact ⟨known, le_refl known, h.pinned.single, by simp⟩
          | ok ids =>
              refine ih hauthority ?_ ?_ (h.reopened habove directory)
              · rw [Settings.isOwn_congr hmachine]
                exact hforeign
              · rw [hmachine]
                exact hrest

/--
**A minted id stays with its SID.**

Whatever else is asked, and however often the ids expire, the cache is purged or the engine
is opened again, all successful answers for the SID carry one id.
-/
theorem exists_id_across_restarts (e : Engine δ SequentialIds)
    (he : e.authority = SequentialIds.authority) (directory : δ) (ids : SequentialIds) (sid : Sid)
    (kind : IdKind) (hordinary : WellKnown.ofSid sid = none) (hforeign : ¬ e.settings.IsOwn sid)
    (hfirst : ephemeralMin.toNat ≤ ids.next kind) (events : List (Event δ))
    (hplain : ∀ event ∈ events, event.Plain e.settings.machineSid sid kind) :
    ∃ id : UnixId, id.kind = kind ∧
      ∀ reply ∈ history e events (.fresh {} directory ids), reply.asked = .sid sid →
        reply.answer.isSuccess = true → reply.GivesId sid id := by
  obtain ⟨known, -, hsingle, hreplies⟩ :=
    (Stable.start directory hfirst).history he hordinary hforeign hplain
  by_cases hknown : ∃ n, known n
  · obtain ⟨n, hn⟩ := hknown
    refine ⟨{ kind, number := n }, rfl, ?_⟩
    intro reply hreply hasked hok
    obtain ⟨n', hn', hid⟩ := hreplies reply hreply hasked hok
    obtain rfl : n = n' := hsingle hn hn'
    exact ⟨hasked, hok, hid⟩
  · refine ⟨.nobody kind, rfl, ?_⟩
    intro reply hreply hasked hok
    obtain ⟨n, hn, -⟩ := hreplies reply hreply hasked hok
    exact absurd ⟨n, hn⟩ hknown

/-- A SID keeps its uid although the row expires, the cache is purged, and the engine is
opened again before the SID is asked for once more. -/
theorem one_id_after_expiry_and_restart :
    let sid : Sid := { base := "S-1-5-21-7", rid := 1104 }
    let events : List (Event Unit) :=
      [.call 0 (.mapSids [plainRequest sid .uid]), .call 10000 .purge, .restart Engine.bare (),
       .call 20000 (.mapSids [plainRequest sid .uid])]
    ∃ id, ∃ first second : Reply,
      history Engine.bare events (.fresh {} () .aboveReserved) = [first, second] ∧
        first.GivesId sid id ∧ second.GivesId sid id := by
  intro sid events
  let reply : Reply :=
    { asked := .sid sid
      answer := { id := some (.unix { kind := .uid, number := 0x80000001 }), failure := none } }
  have hreplies : history Engine.bare events (.fresh {} () .aboveReserved) = [reply, reply] := by
    decide +kernel
  have hplain : ∀ event ∈ events,
      event.Plain (Engine.bare : Engine Unit SequentialIds).settings.machineSid sid .uid := by
    simp only [events, List.forall_mem_cons, List.not_mem_nil, false_imp_iff, implies_true,
      and_true]
    refine ⟨.mapSids ?_, .purge, .restart rfl rfl, .mapSids ?_⟩
    all_goals
      intro request hrequest _
      obtain rfl := List.mem_singleton.mp hrequest
      rfl
  obtain ⟨id, -, hid⟩ := exists_id_across_restarts Engine.bare rfl () .aboveReserved sid .uid
    (by decide) (by rintro ⟨hown, -⟩; cases hown) (by decide) events hplain
  rw [hreplies] at hid
  have hgives : reply.GivesId sid id := hid reply (List.mem_cons_self ..) rfl rfl
  exact ⟨id, reply, reply, hreplies, hgives, hgives⟩

/-- Minting from 1000 on, a SID gets another uid when its row expires. -/
theorem another_id_after_expiry :
    let sid : Sid := { base := "S-1-5-21-7", rid := 1104 }
    let events : List (Event Unit) :=
      [.call 0 (.mapSids [plainRequest sid .uid]), .call 1000 (.mapSids [plainRequest sid .uid])]
    let e : Engine Unit SequentialIds := Engine.bare
    WellKnown.ofSid sid = none ∧ ¬ e.settings.IsOwn sid ∧
      (∀ event ∈ events, event.Plain e.settings.machineSid sid .uid) ∧
      ¬ ∃ id, ∀ reply ∈ history e events (.fresh {} () { uid := 1000, gid := 1000 }),
        reply.asked = .sid sid → reply.answer.isSuccess = true → reply.GivesId sid id := by
  intro sid events e
  let given (number : UInt32) : Reply :=
    { asked := .sid sid
      answer := { id := some (.unix { kind := .uid, number }), failure := none } }
  have hreplies : history e events (.fresh {} () { uid := 1000, gid := 1000 })
      = [given 1000, given 1001] := by
    decide +kernel
  refine ⟨by decide, (by rintro ⟨hown, -⟩; cases hown), ?_, ?_⟩
  · simp only [events, List.forall_mem_cons, List.not_mem_nil, false_imp_iff, implies_true,
      and_true]
    refine ⟨.mapSids ?_, .mapSids ?_⟩
    all_goals
      intro request hrequest _
      obtain rfl := List.mem_singleton.mp hrequest
      rfl
  · rintro ⟨id, hid⟩
    rw [hreplies] at hid
    have hfirst : (given 1000).GivesId sid id := hid _ (List.mem_cons_self ..) rfl rfl
    have hsecond : (given 1001).GivesId sid id :=
      hid _ (List.mem_cons_of_mem _ (List.mem_cons_self ..)) rfl rfl
    exact absurd (hfirst.2.2.trans hsecond.2.2.symm) (by decide)

end IdentityMap
