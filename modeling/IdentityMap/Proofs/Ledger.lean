/-
A minted id stands for one SID.

The book of minted ids is carried along a whole run.  `Ledger` is the invariant: the book
is one that the allocator can have filled, and every row of the cache whose id was minted
stands in it.  Each call keeps the ledger, and every answer with a minted id can be found
in the book or in the table of reserved identities.  Since an id has one SID in the book,
and the book lies above the reserved ids, two answers with one minted id agree.

Rows come and go: a write may evict the row of another id of the same SID, and the whole
cache may be cleared.  The book forgets nothing, and the frontier only moves up.
-/
import IdentityMap.Proofs.Ephemeral.Minting
import IdentityMap.Proofs.LocalAccount
import IdentityMap.Proofs.Mapping.Run
import IdentityMap.Proofs.WellKnown

namespace IdentityMap

/-! ### Reserved SIDs -/

/-- The same SID, or a reserved SID in two spellings. -/
def Sid.SameAs (sid sid' : Sid) : Prop :=
  sid = sid' ∨
    ((WellKnown.ofSid sid).isSome = true ∧ sid.rid = sid'.rid ∧
      sameFolded sid.base sid'.base = true)

theorem WellKnown.Maps.sameAs {sid sid' : Sid} {id : UnixId} (h : Maps sid id)
    (h' : Maps sid' id) : sid.SameAs sid' := by
  obtain ⟨entry, hmem, hfor, hkind, hnumber⟩ := h
  obtain ⟨other, hmem', hfor', hkind', hnumber'⟩ := h'
  obtain rfl : entry = other := by
    refine eq_of_number_eq entry hmem other hmem' ?_ (hkind.trans hkind'.symm)
      (hnumber.trans hnumber'.symm)
    rw [hnumber]
    rfl
  have hsome : (WellKnown.ofSid sid).isSome = true := by
    rw [WellKnown.ofSid, List.find?_isSome]
    exact ⟨entry, hmem, hfor⟩
  simp only [isFor, Bool.and_eq_true, beq_iff_eq, Sid.hasBase] at hfor hfor'
  refine Or.inr ⟨hsome, hfor.1.symm.trans hfor'.1, ?_⟩
  refine sameFolded_trans hfor.2 ?_
  rw [sameFolded_comm]
  exact hfor'.2

/-! ### Ids that are not minted -/

/-- The rules lead to no minted id. -/
def RuleTable.MapsLocally (rules : RuleTable) (names : NameService) : Prop :=
  ∀ {mappingDomain name domain kind found},
    Rule.mapToUnix rules names mappingDomain name domain kind = .ok found →
      isEphemeral found.id.number = false

/-- A name service of local accounts leads to no minted id, whatever the rules are. -/
theorem RuleTable.mapsLocally {names : NameService} (hlocal : names.IsLocal) (rules : RuleTable) :
    rules.MapsLocally names :=
  fun h => hlocal _ _ _ (Rule.idOf_of_mapToUnix h)

/-! ### The ledger -/

/-- Every row of the cache ties a SID to a unix id, and a minted id to its SID in the book. -/
def Book.HoldsRows (book : Book) (cache : Cache) : Prop :=
  ∀ row ∈ cache.ids, ∃ sid id, row.Ties sid id ∧ (isEphemeral id.number = true → book sid id)

/-- The allocator and the cache agree with the book. -/
structure Ledger {δ : Type} (floor : IdKind → Nat) (book : Book)
    (s : EngineState δ SequentialIds) : Prop where
  kept : book.Kept floor s.allocator
  rows : book.HoldsRows s.cache

/-- A successful item pairs a SID with a unix id.  A minted id stands in the book, or in the
table of reserved identities if the item was settled at once. -/
def Book.Accounts (book : Book) (request : Request) (item : Item) : Prop :=
  item.answer.isSuccess = true →
    ∃ sid id, request.id = .sid sid ∧ item.answer.id = some (.unix id) ∧
      (isEphemeral id.number = true →
        book sid id ∨ (WellKnown.Maps sid id ∧ item.state = .cacheHit))

/-- A reply that pairs a SID with a minted id agrees with the book. -/
def Book.Explains (book : Book) (reply : Reply) : Prop :=
  ∀ sid id, (reply.GivesId sid id ∨ reply.GivesSid id sid) → isEphemeral id.number = true →
    book sid id ∨ WellKnown.Maps sid id

namespace Book

variable {floor : IdKind → Nat} {book book' : Book} {cache cache' : Cache} {request : Request}
  {item : Item} {sid : Sid} {id : UnixId} {now : Int}

theorem HoldsRows.mono (h : book.HoldsRows cache) (hle : book ≤ book') :
    book'.HoldsRows cache := by
  intro row hrow
  obtain ⟨sid, id, hties, hbook⟩ := h row hrow
  exact ⟨sid, id, hties, fun heph => hle sid id (hbook heph)⟩

theorem Accounts.mono (hle : book ≤ book') (h : book.Accounts request item) :
    book'.Accounts request item := by
  intro hok
  obtain ⟨sid, id, hsid, hid, hentry⟩ := h hok
  exact ⟨sid, id, hsid, hid, fun heph => (hentry heph).imp_left (hle sid id)⟩

theorem Explains.mono {reply : Reply} (hle : book ≤ book') (h : book.Explains reply) :
    book'.Explains reply := by
  intro sid id hgives heph
  exact (h sid id hgives heph).imp_left (hle sid id)

theorem accounts_of_failed (h : item.answer.isSuccess = false) : book.Accounts request item := by
  intro hok
  rw [h] at hok
  cases hok

/-- An item that answers with an id is accounted for if the book has it. -/
theorem accounts_of_book (hsid : request.id = .sid sid)
    (hid : item.answer.id = some (.unix id)) (h : isEphemeral id.number = true → book sid id) :
    book.Accounts request item :=
  fun _ => ⟨sid, id, hsid, hid, fun heph => Or.inl (h heph)⟩

/-- A minted id that is written for an item stands in the book. -/
theorem Accounts.written {m : IdMapping} (h : book.Accounts request item)
    (hm : SidToId.written? request item = some m) (heph : isEphemeral m.id.number = true) :
    book m.sid m.id := by
  obtain ⟨resolution, hstate, hsid, hid, hok, -⟩ := SidToId.written?_eq_some hm
  obtain ⟨sid, id, hsid', hid', hentry⟩ := h hok
  obtain rfl : sid = m.sid := Identity.sid.inj (hsid'.symm.trans hsid)
  obtain rfl : id = m.id := Identity.unix.inj (Option.some.inj (hid'.symm.trans hid))
  rcases hentry heph with hbook | ⟨-, hhit⟩
  · exact hbook
  · rw [hstate] at hhit
    cases hhit

/-- A minted id that a SID was answered stands in the book, unless it is a reserved one. -/
theorem Accounts.book_of_ordinary (h : book.Accounts request item) (hsid : request.id = .sid sid)
    (hok : item.answer.isSuccess = true) (hid : item.answer.id = some (.unix id))
    (heph : isEphemeral id.number = true) (hordinary : WellKnown.ofId id = none) :
    book sid id := by
  obtain ⟨sid', id', hsid', hid', hentry⟩ := h hok
  obtain rfl := Identity.sid.inj (hsid.symm.trans hsid')
  obtain rfl := Identity.unix.inj (Option.some.inj (hid.symm.trans hid'))
  rcases hentry heph with hbook | ⟨hmaps, -⟩
  · exact hbook
  · exact absurd hordinary hmaps.ofId_ne_none

/-! ### What the cache answers -/

namespace HoldsRows

variable (h : book.HoldsRows cache)
include h

theorem idOf {wanted : Wanted} {hit : CachedId} (hhit : cache.idOf sid wanted now = .ok hit)
    (heph : isEphemeral hit.id.number = true) : book sid hit.id := by
  obtain ⟨row, hrow, hanswers, hcached, -⟩ := Cache.idOf_ok hhit
  obtain ⟨sid', id', hties, hbook⟩ := h row hrow
  have hsid : sid = sid' := hties.eq_sid (IdRow.answersSid_iff.mp hanswers).2.1
  rw [hties.cachedId_eq] at hcached
  cases hcached
  rw [hsid]
  exact hbook heph

theorem sidOf {hit : CachedSid} (hhit : cache.sidOf id now = .ok hit)
    (heph : isEphemeral id.number = true) : book hit.sid id := by
  obtain ⟨row, hrow, hanswers, hcached⟩ := Cache.sidOf_ok hhit
  obtain ⟨sid', id', hties, hbook⟩ := h row hrow
  obtain ⟨-, hnumber, hkind, -⟩ := IdRow.answersId_iff.mp hanswers
  have hid : id = id' := hties.eq_id hnumber hkind
  rw [hties.cachedSid_eq] at hcached
  cases hcached
  rw [hid] at heph ⊢
  exact hbook heph

theorem spare {fallback : Fallback} (hspare : SidToId.Spare cache now request sid fallback) :
    ∀ id, fallback = some id → isEphemeral id.number = true → book sid id := by
  intro id hfallback heph
  cases hspare with
  | nothing => cases hfallback
  | expired hhit =>
      cases hfallback
      exact h.idOf hhit heph

/-! ### What writes and purges leave -/

theorem wrote {m : IdMapping} (hwrote : cache.Wrote m cache')
    (hm : isEphemeral m.id.number = true → book m.sid m.id) : book.HoldsRows cache' := by
  intro row hrow
  rcases hwrote.origin row hrow with rfl | hold | ⟨old, hold, -, rfl⟩
  · exact ⟨m.sid, m.id, m.row_ties, hm⟩
  · exact h row hold
  · obtain ⟨sid, id, hties, hbook⟩ := h old hold
    exact ⟨sid, id, hties.clearToUnix, hbook⟩

theorem purge : book.HoldsRows (cache.purge now) :=
  fun row hrow => h row (Cache.mem_of_mem_purge hrow)

theorem recordSid {settings : Settings} (haccounts : book.Accounts request item) :
    book.HoldsRows (SidToId.record settings now request item cache) := by
  rcases SidToId.record_cases settings now request item cache with ⟨-, hsame⟩ | ⟨m, hm, hwrote⟩
  · rw [hsame]
    exact h
  · exact h.wrote hwrote (haccounts.written hm)

end HoldsRows
end Book

/-! ### One item of a batch of SIDs -/

namespace Ledger

variable {δ : Type} {e : Engine δ SequentialIds} {floor : IdKind → Nat} {book : Book}
  {s : EngineState δ SequentialIds} {m m' : Mint SequentialIds} {now : Int}

/-- Obtaining an id: the book grows to hold it, or nothing changes. -/
theorem obtainId_cases (he : e.authority = SequentialIds.authority) {sid : Sid} {kind : IdKind}
    {fallback : Fallback} (h : book.Covers floor m)
    (hspare : ∀ id, fallback = some id → isEphemeral id.number = true → book sid id) :
    (∃ number m', SidToId.obtainId e sid kind fallback m = (.ok number, m') ∧
      ∃ book', book ≤ book' ∧ book'.Covers floor m' ∧
        (isEphemeral number = true → book' sid { kind, number })) ∨
    (∃ failure, SidToId.obtainId e sid kind fallback m = (.error failure, m)) := by
  rcases SidToId.obtainId_cases e sid kind fallback m with ⟨id, hid, hkind, heq⟩ | ⟨-, heq⟩
  · rw [heq]
    refine Or.inl ⟨_, _, rfl, book, le_refl book, h.reuse (hspare id hid), ?_⟩
    intro heph
    rw [← hkind]
    exact hspare id hid heph
  · rw [heq, he]
    exact h.obtain_cases _ sid kind

/-- Failing to obtain an id changes nothing. -/
theorem eq_of_obtainId_error (he : e.authority = SequentialIds.authority) {sid : Sid}
    {kind : IdKind} {fallback : Fallback} {failure : Failure} (h : book.Covers floor m)
    (herror : SidToId.obtainId e sid kind fallback m = (.error failure, m')) : m' = m := by
  rcases SidToId.obtainId_cases e sid kind fallback m with ⟨id, -, -, heq⟩ | ⟨-, heq⟩
  · rw [heq] at herror
    cases herror
  · rw [heq, he] at herror
    rcases h.obtain_cases e.blockSize sid kind with ⟨number, m₁, hok, -⟩ | ⟨failure₁, hfailed⟩
    · rw [hok] at herror
      cases herror
    · rw [hfailed] at herror
      cases herror
      rfl

/-- What becomes of an item is accounted for. -/
theorem outcome (he : e.authority = SequentialIds.authority) {rules : RuleTable} {cache : Cache}
    {found : SidToId.Found} {request : Request} {item : Item} (hlocal : rules.MapsLocally e.names)
    (hrows : book.HoldsRows cache) (h : book.Covers floor m)
    (houtcome : SidToId.Outcome e rules cache now found request m item m') :
    ∃ book', book ≤ book' ∧ book'.Covers floor m' ∧ book'.Accounts request item := by
  cases houtcome with
  | failed hfailed => exact ⟨book, le_refl book, h, Book.accounts_of_failed hfailed⟩
  | exhausted hfailed hobtain =>
      rw [eq_of_obtainId_error he h hobtain]
      exact ⟨book, le_refl book, h, Book.accounts_of_failed hfailed⟩
  | reserved hsid hreserved =>
      refine ⟨book, le_refl book, h, fun _ => ⟨_, _, hsid, rfl, fun _ => ?_⟩⟩
      exact Or.inr ⟨WellKnown.maps_of_idOf hreserved, rfl⟩
  | cached hsid hhit _ =>
      exact ⟨book, le_refl book, h, Book.accounts_of_book hsid rfl (hrows.idOf hhit)⟩
  | ruled hsid _ _ _ hmapped =>
      refine ⟨book, le_refl book, h, Book.accounts_of_book hsid rfl fun heph => ?_⟩
      rw [hlocal hmapped] at heph
      cases heph
  | localAccount hsid _ _ hdecode =>
      refine ⟨book, le_refl book, h, Book.accounts_of_book hsid rfl fun heph => ?_⟩
      rw [LocalAccount.isEphemeral_of_ofRid? (LocalAccount.ofRid?_of_decode hdecode)] at heph
      cases heph
  | minted hsid _ hspare hobtain =>
      rcases obtainId_cases he h (hrows.spare hspare) with
        ⟨number, m₁, hok, book', hle, hcovers, hbook⟩ | ⟨failure, herror⟩
      · rw [hok] at hobtain
        cases hobtain
        exact ⟨book', hle, hcovers, Book.accounts_of_book hsid rfl hbook⟩
      · rw [herror] at hobtain
        cases hobtain

/-! ### Calls -/

/-- The items of a batch are accounted for in one book, which covers the batch's mints. -/
theorem settled (requests : List Request) (he : e.authority = SequentialIds.authority)
    {rules : RuleTable} {cache : Cache} {found : SidToId.Found} (hlocal : rules.MapsLocally e.names)
    (hrows : book.HoldsRows cache) (h : book.Covers floor m) :
    ∃ book', book ≤ book' ∧
      book'.Covers floor (IdentityMap.settled e rules cache now found requests m).2 ∧
      ∀ p ∈ requests.zip (IdentityMap.settled e rules cache now found requests m).1,
        book'.Accounts p.1 p.2 := by
  obtain ⟨book', hle, ⟨hcovers, -⟩, hitems⟩ :=
    settled_grow (fun (book : Book) m => book.Covers floor m ∧ book.HoldsRows cache)
      Book.Accounts Book.Accounts.mono
      (by
        rintro book m request item m' - ⟨h, hrows⟩ houtcome
        obtain ⟨book', hle, hcovers, hitem⟩ := outcome he hlocal hrows h houtcome
        exact ⟨book', hle, ⟨hcovers, hrows.mono hle⟩, hitem⟩)
      ⟨h, hrows⟩
  exact ⟨book', hle, hcovers, hitems⟩

/-- The book that accounts for the items of a batch is the ledger's after the batch. -/
theorem batch (he : e.authority = SequentialIds.authority)
    (hlocal : s.rules.MapsLocally e.names) (h : Ledger floor book s) (now : Int)
    (requests : List Request) :
    ∃ book', book ≤ book' ∧ Ledger floor book' (e.mapSids now requests s).2 ∧
      ∀ p ∈ requests.zip (IdentityMap.settled e s.rules s.cache now
        (batchFound e now requests s).1 requests { allocator := s.allocator }).1,
        book'.Accounts p.1 p.2 := by
  have hcovers : book.Covers floor { allocator := s.allocator } :=
    ⟨h.kept, fun hget => by cases hget⟩
  obtain ⟨book', hle, hcovers', hitems⟩ := settled requests he hlocal h.rows hcovers
  refine ⟨book', hle, ?_, hitems⟩
  rw [mapSids_eq]
  refine ⟨hcovers'.kept, ?_⟩
  exact recordAll_inv _ (fun hp hrows => hrows.recordSid (hitems _ hp)) (h.rows.mono hle)

/-- A batch of SIDs keeps the ledger, and the book explains its replies. -/
theorem mapSids (he : e.authority = SequentialIds.authority)
    (hlocal : s.rules.MapsLocally e.names) (h : Ledger floor book s) (requests : List Request) :
    ∃ book', book ≤ book' ∧ Ledger floor book' (e.mapSids now requests s).2 ∧
      ∀ reply ∈ replies requests (e.mapSids now requests s).1, book'.Explains reply := by
  obtain ⟨book', hle, hledger, hitems⟩ := h.batch he hlocal now requests
  refine ⟨book', hle, hledger, ?_⟩
  rw [mapSids_eq]
  intro reply hreply
  obtain ⟨p, hp, rfl⟩ := mem_replies_map hreply
  intro sid id hgives heph
  have hok : p.2.answer.isSuccess = true := by
    rcases hgives with ⟨-, hok, -⟩ | ⟨-, hok, -⟩ <;> exact hok
  obtain ⟨sid', id', hsid', hid', hentry⟩ := hitems p hp hok
  rcases hgives with ⟨hsid, -, hid⟩ | ⟨hunix, -, -⟩
  · obtain rfl : sid' = sid := Identity.sid.inj (hsid'.symm.trans hsid)
    obtain rfl : id' = id := Identity.unix.inj (Option.some.inj (hid'.symm.trans hid))
    exact (hentry heph).imp_right And.left
  · rw [hsid'] at hunix
    cases hunix

/-- What becomes of a unix id: a minted one is only ever answered from what is there. -/
theorem idOutcome {cache : Cache} {rules : RuleTable} {request : Request} {d : δ} {item : Item}
    (hrows : book.HoldsRows cache) (h : IdToSid.Outcome e cache rules now request d item)
    (hok : item.answer.isSuccess = true) :
    ∃ id sid, request.id = .unix id ∧ item.answer.id = some (.sid sid) ∧
      (isEphemeral id.number = true →
        item.state = .cacheHit ∧ (book sid id ∨ WellKnown.Maps sid id)) := by
  cases h with
  | failed hfailed =>
      rw [hfailed] at hok
      cases hok
  | reserved hid hentry =>
      exact ⟨_, _, hid, rfl, fun _ => ⟨rfl, Or.inr (WellKnown.maps_of_ofId hentry)⟩⟩
  | cached hid _ hhit =>
      exact ⟨_, _, hid, rfl, fun heph => ⟨rfl, Or.inl (hrows.sidOf hhit heph)⟩⟩
  | ruled hid _ hminted =>
      refine ⟨_, _, hid, rfl, fun heph => ?_⟩
      rw [hminted] at heph
      cases heph
  | localAccount hid _ hminted =>
      refine ⟨_, _, hid, rfl, fun heph => ?_⟩
      rw [hminted] at heph
      cases heph

/-- A lookup of a unix id keeps the ledger, and the book explains its reply. -/
theorem mapId (h : Ledger floor book s) (e : Engine δ SequentialIds) (now : Int)
    (request : Request) :
    Ledger floor book (e.mapId now request s).2 ∧
      book.Explains { asked := request.id, answer := (e.mapId now request s).1 } := by
  have hitem := idOutcome h.rows (IdToSid.outcome e s.cache s.rules now request s.directory)
  simp only [Engine.mapId]
  generalize (IdToSid.resolve e s.cache s.rules now request s.directory).1 = item at hitem ⊢
  refine ⟨⟨h.kept, ?_⟩, ?_⟩
  · rcases IdToSid.record_cases e.settings e.names now request item s.cache with
      ⟨-, hsame⟩ | ⟨m, hm, hwrote⟩
    · simp only [hsame]
      exact h.rows
    · obtain ⟨resolution, hstate, hunix, -, hok, -⟩ := IdToSid.written?_eq_some hm
      refine h.rows.wrote hwrote fun heph => ?_
      obtain ⟨id, sid, hid, -, hentry⟩ := hitem hok
      obtain rfl : id = m.id := Identity.unix.inj (hid.symm.trans hunix)
      obtain ⟨hhit, -⟩ := hentry heph
      rw [hstate] at hhit
      cases hhit
  · rintro sid id (⟨hsid, hok, -⟩ | ⟨hunix, hok, hsid⟩) heph
    · obtain ⟨id', sid', hid', -, -⟩ := hitem hok
      rw [hid'] at hsid
      cases hsid
    · obtain ⟨id', sid', hid', hsid', hentry⟩ := hitem hok
      obtain rfl : id' = id := Identity.unix.inj (hid'.symm.trans hunix)
      obtain rfl : sid' = sid := Identity.sid.inj (Option.some.inj (hsid'.symm.trans hsid))
      exact (hentry heph).2

/-- A batch of unix ids keeps the ledger, and the book explains its replies. -/
theorem mapIds (h : Ledger floor book s) (requests : List Request) :
    Ledger floor book (e.mapIds now requests s).2 ∧
      ∀ reply ∈ replies requests (e.mapIds now requests s).1, book.Explains reply := by
  induction requests generalizing s with
  | nil => exact ⟨h, by simp [replies]⟩
  | cons request rest ih =>
      obtain ⟨hledger, hfirst⟩ := h.mapId e now request
      obtain ⟨hledger', hrest⟩ := ih hledger
      refine ⟨hledger', ?_⟩
      intro reply hreply
      rcases List.mem_cons.mp hreply with rfl | hreply
      · exact hfirst
      · exact hrest reply hreply

/-- The ledger only looks at the allocator and at the mappings in the cache. -/
theorem congr {s' : EngineState δ SequentialIds} (h : Ledger floor book s)
    (hsame : SameMappings s s') : Ledger floor book s' := by
  refine ⟨?_, ?_⟩
  · rw [hsame.allocator]
    exact h.kept
  · intro row hrow
    rw [hsame.ids] at hrow
    exact h.rows row hrow

/-- **Every call keeps the ledger, and the book explains its replies.** -/
theorem call (he : e.authority = SequentialIds.authority) (hlocal : e.names.IsLocal)
    (h : Ledger floor book s) (call : Call) :
    ∃ book', book ≤ book' ∧ Ledger floor book' (call.run e now s).2 ∧
      ∀ reply ∈ (call.run e now s).1, book'.Explains reply := by
  cases call with
  | mapSids requests => exact h.mapSids he (RuleTable.mapsLocally hlocal _) requests
  | mapIds requests => exact ⟨book, le_refl book, h.mapIds requests⟩
  | mapName name domain wanted =>
      obtain ⟨s', hsame, -, hrun | ⟨request, hrun⟩⟩ :=
        run_mapName e now s name domain wanted
      · rw [hrun]
        exact ⟨book, le_refl book, h.congr hsame, by simp⟩
      · rw [hrun]
        exact (h.congr hsame).mapSids he (RuleTable.mapsLocally hlocal _) [request]
  | nameId id =>
      obtain ⟨answer, s', hsame, -, hrun, hid, hfailure⟩ := run_nameId e now s id
      obtain ⟨hledger, hexplains⟩ := h.mapId e now { id := .unix id, wanted := .sid }
      rw [hrun]
      refine ⟨book, le_refl book, hledger.congr hsame, ?_⟩
      intro reply hreply
      obtain rfl := List.mem_singleton.mp hreply
      intro sid id' hgives heph
      refine hexplains sid id' ?_ heph
      simpa only [Reply.GivesId, Reply.GivesSid, Answer.isSuccess, hid, hfailure] using hgives
  | addRule rule =>
      obtain ⟨s', hsame, hrun⟩ := run_addRule e now s rule
      rw [hrun]
      exact ⟨book, le_refl book, h.congr hsame, by simp⟩
  | removeRules filter => exact ⟨book, le_refl book, h.congr ⟨rfl, rfl⟩, by simp [Call.run]⟩
  | flushRules isUser => exact ⟨book, le_refl book, h.congr ⟨rfl, rfl⟩, by simp [Call.run]⟩
  | purge => exact ⟨book, le_refl book, ⟨h.kept, h.rows.purge⟩, by simp [Call.run]⟩
  | clear =>
      refine ⟨book, le_refl book, ⟨h.kept, ?_⟩, by simp [Call.run]⟩
      intro row hrow
      cases hrow

/-- A whole run keeps the ledger, and one book explains all of its replies. -/
theorem run (he : e.authority = SequentialIds.authority) (hlocal : e.names.IsLocal)
    (h : Ledger floor book s) (calls : List (Int × Call)) :
    ∃ book', book ≤ book' ∧ Ledger floor book' (e.run calls s).2 ∧
      ∀ reply ∈ (e.run calls s).1, book'.Explains reply :=
  run_grow (fun book s => Ledger floor book s) Book.Explains Book.Explains.mono
    (fun _ h => h.call he hlocal _) h

/-- The ledger of an engine that was just started. -/
theorem start (floor : IdKind → Nat) (rules : RuleTable) (directory : δ) {ids : SequentialIds}
    (h : ∀ kind, floor kind ≤ ids.next kind) :
    Ledger floor (fun _ _ => False) (EngineState.fresh rules directory ids) :=
  ⟨Book.kept_fresh h, fun row hrow => by cases hrow⟩

end Ledger

/-! ### One id, one SID -/

/-- The first ids above the reserved ones. -/
def WellKnown.firstFree (kind : IdKind) : Nat :=
  (maxNumber kind).toNat + 1

/-- Replies that one book explains agree on every minted id, if the book lies above the
reserved ids. -/
theorem Book.Explains.sameAs {book : Book} {a : Allocator SequentialIds}
    (hkept : book.Kept WellKnown.firstFree a) {first second : Reply}
    (hfirst : book.Explains first) (hsecond : book.Explains second) {id : UnixId} {sid sid' : Sid}
    (heph : isEphemeral id.number = true) (h : first.GivesId sid id ∨ first.GivesSid id sid)
    (h' : second.GivesId sid' id ∨ second.GivesSid id sid') : sid.SameAs sid' := by
  -- The book begins where the table of reserved identities ends.
  have hdisjoint : ∀ {s t}, book s id → ¬ WellKnown.Maps t id := by
    intro s t hbook hmaps
    have habove := hkept.above hbook
    have hle := UInt32.le_iff_toNat_le.mp hmaps.le
    exact absurd (Nat.lt_of_lt_of_le (Nat.lt_succ_self _) habove) (Nat.not_lt.mpr hle)
  rcases hfirst sid id h heph with hbook | hmaps
  · rcases hsecond sid' id h' heph with hbook' | hmaps'
    · exact Or.inl (hkept.single hbook hbook')
    · exact absurd hmaps' (hdisjoint hbook)
  · rcases hsecond sid' id h' heph with hbook' | hmaps'
    · exact absurd hmaps (hdisjoint hbook')
    · exact hmaps.sameAs hmaps'

variable {δ : Type}

/--
**A minted id identifies its SID.**

Whatever an engine is asked after it was started with an empty cache, two answers with
one minted id are about one SID, and the id maps back to no other.
-/
theorem sameAs_of_minted_id (e : Engine δ SequentialIds)
    (he : e.authority = SequentialIds.authority) (hlocal : e.names.IsLocal) (rules : RuleTable)
    (directory : δ) (ids : SequentialIds)
    (habove : ∀ kind, (WellKnown.maxNumber kind).toNat < ids.next kind)
    (calls : List (Int × Call)) (first second : Reply) (id : UnixId) (sid sid' : Sid)
    (hfirst : first ∈ (e.run calls (.fresh rules directory ids)).1)
    (hsecond : second ∈ (e.run calls (.fresh rules directory ids)).1)
    (heph : isEphemeral id.number = true) (hgives : first.GivesId sid id)
    (hagain : second.GivesId sid' id ∨ second.GivesSid id sid') : sid.SameAs sid' := by
  obtain ⟨book, -, hledger, hexplains⟩ :=
    (Ledger.start WellKnown.firstFree rules directory habove).run he hlocal calls
  exact (hexplains first hfirst).sameAs hledger.kept (hexplains second hsecond) heph
    (Or.inl hgives) hagain

/-- A SID is given a minted id, and the id leads back to it. -/
theorem sameAs_of_minted_id_there_and_back :
    let sid : Sid := { base := "S-1-5-21-7", rid := 1104 }
    let id : UnixId := { kind := .uid, number := 0x80000001 }
    let calls : List (Int × Call) :=
      [(0, .mapSids [{ id := .sid sid, wanted := .uid }]),
       (1, .mapIds [{ id := .unix id, wanted := .sid }])]
    let replies := (Engine.bare.run calls (.fresh {} () .aboveReserved)).1
    ∃ first ∈ replies, ∃ second ∈ replies,
      first.GivesId sid id ∧ second.GivesSid id sid ∧ sid.SameAs sid := by
  intro sid id calls replies
  let there : Reply := { asked := .sid sid, answer := { id := some (.unix id), failure := none } }
  let back : Reply := { asked := .unix id, answer := { id := some (.sid sid), failure := none } }
  have hreplies : replies = [there, back] := by decide +kernel
  have hthere : there ∈ replies := by rw [hreplies]; exact List.mem_cons_self ..
  have hback : back ∈ replies := by
    rw [hreplies]
    exact List.mem_cons_of_mem _ (List.mem_cons_self ..)
  have hgives : there.GivesId sid id := ⟨rfl, rfl, rfl⟩
  have hagain : back.GivesSid id sid := ⟨rfl, rfl, rfl⟩
  refine ⟨there, hthere, back, hback, hgives, hagain, ?_⟩
  exact sameAs_of_minted_id Engine.bare rfl Engine.bare_isLocal {} () .aboveReserved
    (fun kind => by cases kind <;> exact Nat.lt_succ_self _) calls there back id sid sid hthere
    hback rfl hgives (Or.inr hagain)

end IdentityMap
