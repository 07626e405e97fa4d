/-
Minted ids across a restart.

An engine that is opened again mints above the highest minted id in its cache, so what
matters is whether the cache still remembers how far minting got.  It need not: a write
evicts the row of another id of the same SID, and with it the number in that row.

The main theorem says exactly when a restart is safe.  No engine on the old cache can give
a SID the minted id of another one, if and only if for every minted id that was given out
some row holds an id of its kind that is at least as high.  For the direction that needs a
run, an engine is asked for SIDs that nobody knows until it reaches the forgotten id.
-/
import IdentityMap.Proofs.Ledger
import IdentityMap.Service.Startup

namespace IdentityMap

/-! ### Where minting goes on -/

/-- What `firstFree` finds: a number above the reserved ids and above every minted one that
is not the sentinel, and the least such number. -/
structure IsFirstFree (cache : Cache) (kind : IdKind) (first : Nat) : Prop where
  reserved : (WellKnown.maxNumber kind).toNat < first
  minted : ∀ n ∈ cache.mintedNumbers kind, ∀ m : Nat, (m : Int) ≤ n → m < sentinelId.toNat →
    m < first
  least : ∀ m : Nat, (WellKnown.maxNumber kind).toNat < m →
    (∀ n ∈ cache.mintedNumbers kind, n < (m : Int)) → first ≤ m

theorem Book.HoldsRows.ties {book : Book} {cache : Cache} (h : book.HoldsRows cache) :
    ∀ row ∈ cache.ids, ∃ sid id, row.Ties sid id := by
  intro row hrow
  obtain ⟨sid, id, hties, -⟩ := h row hrow
  exact ⟨sid, id, hties⟩

theorem firstFree_ok {book : Book} {cache : Cache} (h : book.HoldsRows cache) (kind : IdKind) :
    ∃ first, firstFree cache kind = .ok first ∧ IsFirstFree cache kind first := by
  have hreserved : (WellKnown.maxNumber kind).toNat < sentinelId.toNat := by
    cases kind <;> decide
  unfold firstFree
  rcases Cache.maxMinted_cases h.ties kind with ⟨hmax, hnone⟩ | ⟨top, hmax, htop, hle⟩
  · rw [hmax]
    refine ⟨_, rfl, ?_, ?_, ?_⟩
    · simp only [Option.map_none, Option.getD_none]
      omega
    · intro n hn
      exact absurd hn (hnone n)
    · intro m hm _
      simp only [Option.map_none, Option.getD_none]
      omega
  · rw [hmax]
    refine ⟨_, rfl, ?_, ?_, ?_⟩
    · simp only [Option.map_some, Option.getD_some]
      omega
    · intro n hn m hm hsentinel
      have := hle n hn
      simp only [Option.map_some, Option.getD_some]
      omega
    · intro m hm hbelow
      have := hbelow _ htop
      simp only [Option.map_some, Option.getD_some]
      omega

/-- Minting can always go on, above the ids that the cache holds. -/
theorem above_ok {book : Book} {cache : Cache} (h : book.HoldsRows cache) :
    ∃ ids, SequentialIds.above cache = .ok ids ∧
      ∀ kind, IsFirstFree cache kind (ids.next kind) := by
  obtain ⟨uid, huid, hfirstUid⟩ := firstFree_ok h .uid
  obtain ⟨gid, hgid, hfirstGid⟩ := firstFree_ok h .gid
  refine ⟨{ uid, gid }, ?_, ?_⟩
  · simp only [SequentialIds.above, huid, hgid]
    rfl
  · intro kind
    cases kind with
    | uid => exact hfirstUid
    | gid => exact hfirstGid

/-- What is left of an engine when it is opened again on its stores: the cache and the
rules.  Minting goes on above the cache. -/
def EngineState.reopened {δ : Type} (s : EngineState δ SequentialIds) (directory : δ)
    (ids : SequentialIds) : EngineState δ SequentialIds :=
  { cache := s.cache, rules := s.rules, directory, allocator := { authority := ids } }

/-- A service that is started mints above the cache that it opens. -/
theorem Service.allocator_of_start {α : Type} {authority : IdAuthority α}
    {first : SequentialIds → α} {c : Config} {disk disk' : Disk}
    {service : Service Directory.Source α}
    (h : Service.start authority first c disk = (.ok service, disk')) :
    ∃ opened cache ids, disk.createDirectories c.dataDir = (.ok (), opened) ∧
      opened.openCache (cacheFile c.dataDir) = (.ok cache, disk') ∧
      SequentialIds.above cache = .ok ids ∧ service.allocator = { authority := first ids } := by
  unfold Service.start at h
  split at h
  · cases h
  · next opened hcreate =>
      split at h
      · cases h
      · next cache reopened hopen =>
          split at h
          · cases h
          · next ids hids =>
              cases h
              exact ⟨opened, cache, ids, hcreate, hopen, hids, rfl⟩

/-! ### SIDs that nobody knows -/

/-- The cache has never heard of the SID. -/
structure Cache.Unaware (cache : Cache) (sid : Sid) : Prop where
  ids : ∀ row ∈ cache.ids, row.isAbout sid = false
  names : ∀ row ∈ cache.names, row.isAbout sid = false

namespace Cache.Unaware

variable {cache : Cache} {sid : Sid} {wanted : Wanted} {now : Int}

theorem idOf (h : cache.Unaware sid) : cache.idOf sid wanted now = .error .notFound := by
  have hrow : cache.idRow? sid now = none := by
    rw [idRow?_eq_none_iff]
    intro row hrow hanswers
    have habout := (IdRow.answersSid_iff.mp hanswers).2.1
    rw [h.ids row hrow] at habout
    cases habout
  rw [Cache.idOf, hrow]

theorem nameOf (h : cache.Unaware sid) : cache.nameOf sid now = .error .notFound := by
  have hrow : cache.nameRow? sid now = none := by
    rw [nameRow?, List.find?_eq_none]
    intro row hrow hanswers
    rw [NameRow.answersSid, h.names row hrow] at hanswers
    cases hanswers
  rw [Cache.nameOf, hrow]

/-- What is written about another SID does not make the cache hear of this one. -/
theorem record {settings : Settings} {request : Request} {item : Item} {other : Sid}
    (h : cache.Unaware sid) (hother : sid ≠ other) (hasked : request.id = .sid other)
    (hnames : ∀ row ∈ (SidToId.record settings now request item cache).names, row ∈ cache.names) :
    (SidToId.record settings now request item cache).Unaware sid := by
  refine ⟨fun row hrow => ?_, fun row hrow => h.names row (hnames row hrow)⟩
  rcases SidToId.record_cases settings now request item cache with ⟨-, hsame⟩ | ⟨m, hm, hwrote⟩
  · rw [hsame] at hrow
    exact h.ids row hrow
  · obtain ⟨-, -, hwritten, -⟩ := SidToId.written?_eq_some hm
    obtain rfl : other = m.sid := Identity.sid.inj (hasked.symm.trans hwritten)
    rcases hwrote.origin row hrow with rfl | hold | ⟨old, hold, -, rfl⟩
    · rw [Bool.eq_false_iff]
      exact fun habout => hother (m.row_ties.eq_sid habout)
    · exact h.ids row hold
    · exact h.ids old hold

end Cache.Unaware

/-- A text that is not among the given ones, and longer than the base of any reserved SID. -/
theorem exists_fresh_base (known : List String) :
    ∃ base : String, 8 < base.length ∧ base ∉ known := by
  have hne : 0 :: known.map String.length ≠ [] := List.cons_ne_nil _ _
  refine ⟨String.ofList (List.replicate ((0 :: known.map String.length).max hne + 9) '1'), ?_, ?_⟩
  · simp
  · intro hmem
    have hlength := List.mem_map_of_mem (f := String.length) hmem
    have hle := List.le_max_of_mem (List.mem_cons_of_mem 0 hlength)
    simp only [String.length_ofList, List.length_replicate] at hle
    omega

variable {δ : Type}

/-- A request for an id of a SID, and nothing else. -/
def plainRequest (sid : Sid) (kind : IdKind) : Request :=
  { id := .sid sid, wanted := kind.wanted }

theorem firstPass_fresh {cache : Cache} {sid : Sid} {kind : IdKind} {now : Int}
    (hsid : WellKnown.ofSid sid = none) (h : cache.Unaware sid) :
    SidToId.firstPass cache now (plainRequest sid kind) = { state := .awaitsDirectory none } := by
  have hreserved := WellKnown.idOf_of_ordinary hsid kind.wanted
  have hwanted : kind.wanted ≠ .sid := by cases kind <;> decide
  simp only [SidToId.firstPass, plainRequest, if_neg hwanted, hreserved, SidToId.searchCache,
    h.idOf, SidToId.findName, hsid, h.nameOf]
  cases kind <;> rfl

/-- The item of a fresh SID. -/
def freshItem (now : Int) (id : UnixId) : Item :=
  SidToId.mintedItem (Engine.bare : Engine δ SequentialIds) now id none .machine none

theorem secondPass_fresh {rules : RuleTable} {now : Int} {sid : Sid} {kind : IdKind}
    {a a' : Allocator SequentialIds} {number : UInt32}
    (h : a.allocate SequentialIds.authority 1 kind = (.ok number, a')) :
    SidToId.secondPass (Engine.bare : Engine δ SequentialIds) rules now (plainRequest sid kind)
        { state := .awaitsDirectory none } (some (.error .notFound)) { allocator := a }
      = (freshItem (δ := δ) now { kind, number },
          { history := ({} : SidHistory).insert sid kind number, allocator := a' }) := by
  have hobtain : Mint.obtain SequentialIds.authority 1 sid kind { allocator := a }
      = (.ok number, { history := ({} : SidHistory).insert sid kind number, allocator := a' }) := by
    simp only [Mint.obtain, SidHistory.get?_empty, h]
  have hmint : SidToId.obtainId (Engine.bare : Engine δ SequentialIds) sid kind none
      { allocator := a }
      = (.ok number, { history := ({} : SidHistory).insert sid kind number, allocator := a' }) :=
    hobtain
  have hkind : kind.wanted.defaultKind = kind := by cases kind <;> rfl
  have hunknown : SidToId.secondPass (Engine.bare : Engine δ SequentialIds) rules now
      (plainRequest sid kind) { state := .awaitsDirectory none } (some (.error .notFound))
      { allocator := a }
      = SidToId.mintItem Engine.bare now sid kind.wanted.defaultKind .machine none none
          (.nobody kind.wanted.defaultKind .notFound) { allocator := a } := rfl
  rw [hunknown, hkind, SidToId.mintItem, hmint]
  rfl

/-- A batch of one fresh SID, which gets the id that the allocator hands out. -/
theorem mapSids_fresh {sid : Sid} {s : EngineState δ SequentialIds} {kind : IdKind} {now : Int}
    {number : UInt32} {a' : Allocator SequentialIds}
    (hsid : WellKnown.ofSid sid = none) (hcache : s.cache.Unaware sid)
    (hallocate : s.allocator.allocate SequentialIds.authority 1 kind = (.ok number, a')) :
    (Engine.bare : Engine δ SequentialIds).mapSids now [plainRequest sid kind] s
      = ([(freshItem (δ := δ) now { kind, number }).answer],
        { cache := SidToId.record (Engine.bare : Engine δ SequentialIds).settings now
            (plainRequest sid kind) (freshItem (δ := δ) now { kind, number }) s.cache
          rules := s.rules
          directory := s.directory
          allocator := a' }) := by
  have hround : SidToId.directoryRound (Engine.bare : Engine δ SequentialIds).directory
      [plainRequest sid kind] [{ state := .awaitsDirectory none }] s.directory
        = ([(sid, .error .notFound)], s.directory) := rfl
  have hanswer : SidToId.answerFor [(sid, .error .notFound)] (plainRequest sid kind)
      = some (.error .notFound) := by
    simp [SidToId.answerFor, plainRequest, Identity.sid?]
  rw [mapSids_eq]
  simp only [batchFound, List.map_cons, List.map_nil, firstPass_fresh hsid hcache, hround,
    settled, SidToId.secondPasses, hanswer, secondPass_fresh hallocate]
  rfl

/-- What a run of one call for a fresh SID does: the SID gets the id at the frontier, and
only rows about it are written. -/
structure MintsFresh (sid : Sid) (kind : IdKind) (s : EngineState δ SequentialIds)
    (result : List Reply × EngineState δ SequentialIds) : Prop where
  reply : ∃ reply ∈ result.1, ∃ number, number.toNat = s.allocator.frontier kind ∧
    reply.GivesId sid { kind, number }
  next : result.2.allocator.frontier kind = s.allocator.frontier kind + 1
  contiguous : result.2.allocator.Contiguous
  unaware : ∀ other, other ≠ sid → s.cache.Unaware other → result.2.cache.Unaware other

theorem run_fresh {sid : Sid} {s : EngineState δ SequentialIds} (kind : IdKind) (now : Int)
    (hsid : WellKnown.ofSid sid = none) (hcache : s.cache.Unaware sid)
    (hcontiguous : s.allocator.Contiguous) (hfree : s.allocator.frontier kind < sentinelId.toNat) :
    MintsFresh sid kind s ((Call.mapSids [plainRequest sid kind]).run Engine.bare now s) := by
  obtain ⟨number, a', hallocate, hout⟩ := Allocator.allocate_ok hcontiguous 1 hfree
  simp only [Call.run, mapSids_fresh hsid hcache hallocate]
  refine ⟨⟨_, List.mem_singleton_self _, number, hout.number_eq, rfl, rfl, rfl⟩, hout.next,
    hout.contiguous, fun other hother hunaware => ?_⟩
  have hasked : (plainRequest sid kind).id = .sid sid := rfl
  dsimp only
  refine hunaware.record hother hasked fun row hrow => ?_
  rcases SidToId.mem_names_record hrow with hold | ⟨resolution, _, _, hstate, -, -, hsource, -⟩
  · exact hold
  · cases hstate
    cases hsource

/-- The SIDs of one base, by number. -/
def numbered (base : String) (i : Nat) : Sid :=
  { base, rid := UInt32.ofNat i }

theorem numbered_ne {base : String} {i j : Nat} (hi : i < j) (hj : j < 0x100000000) :
    numbered base j ≠ numbered base i := by
  intro h
  have hrid := congrArg (fun sid : Sid => sid.rid.toNat) h
  simp only [numbered, UInt32.toNat_ofNat'] at hrid
  omega

/-- An engine that is asked for enough fresh SIDs reaches every id above its frontier. -/
theorem exists_run_to {base : String} (hbase : 8 < base.length) (kind : IdKind) (steps : Nat) :
    ∀ (i : Nat) (s : EngineState δ SequentialIds), i + steps < 0x100000000 →
      (∀ j, i ≤ j → j ≤ i + steps → s.cache.Unaware (numbered base j)) →
      s.allocator.Contiguous → s.allocator.frontier kind + steps < sentinelId.toNat →
      ∃ calls, ∃ reply ∈ (Engine.bare.run calls s).1, ∃ number,
        number.toNat = s.allocator.frontier kind + steps ∧
        reply.GivesId (numbered base (i + steps)) { kind, number } := by
  induction steps with
  | zero =>
      intro i s hi hunaware hcontiguous hfree
      have hfresh := run_fresh kind 0 (WellKnown.ofSid_of_long hbase)
        (hunaware i (Nat.le_refl i) (Nat.le_refl i)) hcontiguous hfree
      obtain ⟨reply, hreply, number, hnumber, hgives⟩ := hfresh.reply
      refine ⟨[(0, .mapSids [plainRequest (numbered base i) kind])], reply, ?_, number, hnumber,
        hgives⟩
      simp only [Engine.run]
      exact List.mem_append_left _ hreply
  | succ steps ih =>
      intro i s hi hunaware hcontiguous hfree
      have hfresh := run_fresh kind 0 (WellKnown.ofSid_of_long hbase)
        (hunaware i (Nat.le_refl i) (Nat.le_add_right i _)) hcontiguous (by omega)
      obtain ⟨calls, reply, hreply, number, hnumber, hgives⟩ := ih (i + 1) _ (by omega)
        (fun j hij hj => hfresh.unaware _ (numbered_ne (by omega) (by omega))
          (hunaware j (by omega) (by omega))) hfresh.contiguous (by rw [hfresh.next]; omega)
      refine ⟨(0, .mapSids [plainRequest (numbered base i) kind]) :: calls, reply, ?_, number, ?_,
        ?_⟩
      · simp only [Engine.run]
        exact List.mem_append_right _ hreply
      · rw [hnumber, hfresh.next]
        omega
      · rw [show i + (steps + 1) = i + 1 + steps by omega]
        exact hgives

/-! ### When a restart is safe -/

/-- The id lies above the reserved ids of its kind, where minting begins. -/
def UnixId.IsMinted (id : UnixId) : Prop :=
  (WellKnown.maxNumber id.kind).toNat < id.number.toNat

instance (id : UnixId) : Decidable id.IsMinted :=
  inferInstanceAs (Decidable (_ < _))

/-- Some row holds a minted id of the same kind that is at least as high. -/
def Cache.Reaches (cache : Cache) (id : UnixId) : Prop :=
  ∃ n ∈ cache.mintedNumbers id.kind, (id.number.toNat : Int) ≤ n

/-- Whatever an engine does on stores that are opened again, no SID gets a minted id that
another one was given before. -/
def FreshAfter (before : List Reply) (s : EngineState δ SequentialIds) (ids : SequentialIds) :
    Prop :=
  ∀ (e : Engine δ SequentialIds) (directory : δ) (calls : List (Int × Call)),
    e.authority = SequentialIds.authority → e.names.IsLocal →
    ∀ old ∈ before, ∀ new ∈ (e.run calls (s.reopened directory ids)).1, ∀ sid sid' id,
      id.IsMinted → old.GivesId sid id → new.GivesId sid' id → sid = sid'

theorem UnixId.IsMinted.isEphemeral {id : UnixId} (h : id.IsMinted) :
    IdentityMap.isEphemeral id.number = true := by
  rw [isEphemeral_iff]
  have hmax : 0x80000000 ≤ (WellKnown.maxNumber id.kind).toNat := by
    cases id.kind <;> decide
  exact Nat.le_of_lt (Nat.lt_of_le_of_lt hmax h)

/-- A minted id is not reserved, so the book has it. -/
theorem Book.Explains.book {book : Book} {reply : Reply} (h : book.Explains reply) {sid : Sid}
    {id : UnixId} (hminted : id.IsMinted) (hgives : reply.GivesId sid id) : book sid id := by
  rcases h sid id (Or.inl hgives) hminted.isEphemeral with hbook | hmaps
  · exact hbook
  · exact absurd (UInt32.le_iff_toNat_le.mp hmaps.le) (Nat.not_le.mpr hminted)

section Reopen

variable {book : Book} {s : EngineState δ SequentialIds} {before : List Reply}
  {ids : SequentialIds}

/-- What the book says of the minted ids that matter after a restart: those in the cache,
and those that were given out. -/
def Book.remembered (book : Book) (cache : Cache) (before : List Reply) : Book :=
  fun sid id => book sid id ∧ isEphemeral id.number = true ∧
    ((∃ row ∈ cache.ids, row.Ties sid id) ∨ ∃ reply ∈ before, reply.GivesId sid id)

/-- If the cache reaches every minted id that was given out, the ledger goes on after a
restart. -/
theorem ledger_reopened {floor : IdKind → Nat} (h : Ledger floor book s)
    (hfloor : ∀ kind, floor kind ≤ WellKnown.firstFree kind)
    (hfirst : ∀ kind, IsFirstFree s.cache kind (ids.next kind))
    (hreaches : ∀ reply ∈ before, ∀ sid id, book sid id → isEphemeral id.number = true →
      reply.GivesId sid id → s.cache.Reaches id) (directory : δ) :
    Ledger floor (book.remembered s.cache before) (s.reopened directory ids) := by
  refine ⟨⟨?_, ?_, ?_, ?_, ?_, Allocator.contiguous_fresh ids⟩, ?_⟩
  · intro sid sid' id hbook hbook'
    exact h.kept.single hbook.1 hbook'.1
  · intro sid id hbook
    exact h.kept.above hbook.1
  · rintro sid id ⟨hbook, heph, hknown⟩
    simp only [EngineState.reopened, Allocator.frontier_fresh]
    obtain ⟨n, hn, hle⟩ : s.cache.Reaches id := by
      rcases hknown with ⟨row, hrow, hties⟩ | ⟨reply, hreply, hgives⟩
      · exact ⟨_, Cache.mem_mintedNumbers_of_ties hrow hties heph, Int.le_refl _⟩
      · exact hreaches reply hreply sid id hbook heph hgives
    exact (hfirst id.kind).minted n hn _ hle (h.kept.ordinary hbook)
  · intro sid id hbook
    exact h.kept.ordinary hbook.1
  · intro kind
    simp only [EngineState.reopened, Allocator.frontier_fresh]
    exact Nat.le_trans (hfloor kind) (hfirst kind).reserved
  · intro row hrow
    obtain ⟨sid, id, hties, hbook⟩ := h.rows row hrow
    exact ⟨sid, id, hties, fun heph => ⟨hbook heph, heph, Or.inl ⟨row, hrow, hties⟩⟩⟩

/-- An id that the cache does not reach can be minted again. -/
theorem exists_run_again (h : Ledger WellKnown.firstFree book s)
    (hfirst : ∀ kind, IsFirstFree s.cache kind (ids.next kind)) {sid : Sid} {id : UnixId}
    (hbook : book sid id) (hminted : id.IsMinted) (hforgotten : ¬ s.cache.Reaches id)
    (directory : δ) :
    ∃ calls, ∃ reply ∈ (Engine.bare.run calls (s.reopened directory ids)).1, ∃ other,
      other ≠ sid ∧ reply.GivesId other id := by
  have hbelow : ∀ n ∈ s.cache.mintedNumbers id.kind, n < (id.number.toNat : Int) := by
    intro n hn
    exact Int.not_le.mp fun hle => hforgotten ⟨n, hn, hle⟩
  have hle : ids.next id.kind ≤ id.number.toNat := (hfirst id.kind).least _ hminted hbelow
  obtain ⟨base, hlong, hnew⟩ := exists_fresh_base
    (sid.base :: s.cache.ids.filterMap (·.base) ++ s.cache.names.filterMap (·.base))
  simp only [List.cons_append, List.mem_cons, List.mem_append, not_or, List.mem_filterMap,
    not_exists, not_and] at hnew
  have hunaware : ∀ j, s.cache.Unaware (numbered base j) := by
    refine fun j => ⟨fun row hrow => ?_, fun row hrow => ?_⟩
    · rw [Bool.eq_false_iff]
      exact fun habout => hnew.2.1 row hrow (IdRow.isAbout_iff.mp habout).1
    · rw [Bool.eq_false_iff]
      intro habout
      simp only [NameRow.isAbout, Bool.and_eq_true, beq_iff_eq] at habout
      exact hnew.2.2 row hrow habout.1
  have hfrontier : (s.reopened directory ids).allocator.frontier id.kind = ids.next id.kind :=
    Allocator.frontier_fresh ids id.kind
  have hsentinel : sentinelId.toNat < 0x100000000 := sentinelId.toNat_lt
  have hordinary := h.kept.ordinary hbook
  obtain ⟨calls, reply, hreply, number, hnumber, hgives⟩ :=
    exists_run_to hlong id.kind (id.number.toNat - ids.next id.kind) 0 (s.reopened directory ids)
      (by omega) (fun j _ _ => hunaware j) (Allocator.contiguous_fresh ids)
      (by rw [hfrontier]; omega)
  have hsame : number = id.number := by
    rw [hfrontier] at hnumber
    exact UInt32.toNat_inj.mp (by omega)
  subst hsame
  refine ⟨calls, reply, hreply, _, ?_, hgives⟩
  intro heq
  exact hnew.1 (congrArg Sid.base heq)

end Reopen

/--
**A restart is safe exactly if the cache reaches every minted id that was given out.**

The run may be any run from an empty cache.  What comes after the restart may be any run
too, of any engine on the same stores.
-/
theorem freshAfter_iff_reaches (e : Engine δ SequentialIds)
    (he : e.authority = SequentialIds.authority) (hlocal : e.names.IsLocal) (rules : RuleTable)
    (directory : δ) (ids : SequentialIds)
    (habove : ∀ kind, (WellKnown.maxNumber kind).toNat < ids.next kind)
    (calls : List (Int × Call)) :
    ∃ ids', SequentialIds.above (e.run calls (.fresh rules directory ids)).2.cache = .ok ids' ∧
      (FreshAfter (e.run calls (.fresh rules directory ids)).1
          (e.run calls (.fresh rules directory ids)).2 ids' ↔
        ∀ reply ∈ (e.run calls (.fresh rules directory ids)).1, ∀ sid id, id.IsMinted →
          reply.GivesId sid id →
            (e.run calls (.fresh rules directory ids)).2.cache.Reaches id) := by
  obtain ⟨book, -, hledger, hexplains⟩ :=
    (Ledger.start WellKnown.firstFree rules directory habove).run he hlocal calls
  obtain ⟨ids', habove', hfirst⟩ := above_ok hledger.rows
  refine ⟨ids', habove', ?_, ?_⟩
  · intro hfresh reply hreply sid id hminted hgives
    by_contra hforgotten
    obtain ⟨again, new, hnew, other, hother, hgives'⟩ := exists_run_again hledger hfirst
      ((hexplains reply hreply).book hminted hgives) hminted hforgotten directory
    exact hother (hfresh Engine.bare directory again rfl Engine.bare_isLocal reply hreply new hnew
      sid other id hminted hgives hgives').symm
  · intro hreaches e' directory' calls' he' hlocal' old hold new hnew sid sid' id hminted hgives
      hgives'
    have hreopened := ledger_reopened hledger (fun _ => Nat.le_refl _) hfirst
      (fun reply hreply sid id hbook _ => hreaches reply hreply sid id (hledger.kept.above hbook))
      directory'
    obtain ⟨book', hle, hledger', hexplains'⟩ := hreopened.run he' hlocal' calls'
    have hsid : book' sid id := hle sid id
      ⟨(hexplains old hold).book hminted hgives, hminted.isEphemeral, Or.inr ⟨old, hold, hgives⟩⟩
    exact hledger'.kept.single hsid ((hexplains' new hnew).book hminted hgives')

/-- The cache of a host that minted one id reaches it, so a restart is safe. -/
theorem freshAfter_of_one_mint :
    ∃ ids,
      SequentialIds.above (Engine.bare.run [(0, .mapSids [plainRequest ⟨"S-1-5-21-7", 1104⟩ .uid])]
        (.fresh {} () .aboveReserved)).2.cache = .ok ids ∧
      FreshAfter
        (Engine.bare.run [(0, .mapSids [plainRequest ⟨"S-1-5-21-7", 1104⟩ .uid])]
          (.fresh {} () .aboveReserved)).1
        (Engine.bare.run [(0, .mapSids [plainRequest ⟨"S-1-5-21-7", 1104⟩ .uid])]
          (.fresh {} () .aboveReserved)).2 ids := by
  obtain ⟨ids, hids, hiff⟩ := freshAfter_iff_reaches Engine.bare rfl Engine.bare_isLocal {} ()
    .aboveReserved (fun kind => by cases kind <;> exact Nat.lt_succ_self _)
    [(0, .mapSids [plainRequest ⟨"S-1-5-21-7", 1104⟩ .uid])]
  refine ⟨ids, hids, hiff.mpr ?_⟩
  have hreplies : (Engine.bare.run [(0, .mapSids [plainRequest ⟨"S-1-5-21-7", 1104⟩ .uid])]
      (.fresh {} () .aboveReserved)).1
        = [{ asked := .sid ⟨"S-1-5-21-7", 1104⟩
             answer := { id := some (.unix ⟨.uid, 0x80000001⟩), failure := none } }] := by
    decide +kernel
  have hminted : (0x80000001 : Int) ∈ (Engine.bare.run
      [(0, .mapSids [plainRequest ⟨"S-1-5-21-7", 1104⟩ .uid])]
      (.fresh {} () .aboveReserved)).2.cache.mintedNumbers .uid := by
    decide +kernel
  intro reply hreply _ id _ hgives
  rw [hreplies] at hreply
  obtain rfl := List.mem_singleton.mp hreply
  obtain ⟨-, -, hid⟩ := hgives
  cases hid
  exact ⟨_, hminted, by decide⟩

/-- A SID that gets a uid and then a gid loses the row of the uid.  After a restart the uid
goes to another SID. -/
theorem minted_again_after_both_kinds :
    let asked : Sid := { base := "S-1-5-21-7", rid := 1104 }
    let other : Sid := { base := "S-1-5-21-7", rid := 2001 }
    let id : UnixId := { kind := .uid, number := 0x80000001 }
    let before := Engine.bare.run
      [(0, .mapSids [plainRequest asked .uid, plainRequest asked .gid])]
      (.fresh {} () .aboveReserved)
    ∃ ids, SequentialIds.above before.2.cache = .ok ids ∧
      (∃ reply ∈ before.1, reply.GivesId asked id) ∧
      (∃ reply ∈ (Engine.bare.run [(1, .mapSids [plainRequest other .uid])]
        (before.2.reopened () ids)).1, reply.GivesId other id) ∧
      ¬ FreshAfter before.1 before.2 ids := by
  intro asked other id before
  let first : SequentialIds := { uid := 0x80000001, gid := 0x80000003 }
  let old : Reply := { asked := .sid asked, answer := { id := some (.unix id), failure := none } }
  let new : Reply := { asked := .sid other, answer := { id := some (.unix id), failure := none } }
  have habove : SequentialIds.above before.2.cache = .ok first := by decide +kernel
  have hold : old ∈ before.1 := by decide +kernel
  have hnew : new ∈ (Engine.bare.run [(1, .mapSids [plainRequest other .uid])]
      (before.2.reopened () first)).1 := by
    decide +kernel
  have hgives : old.GivesId asked id := ⟨rfl, rfl, rfl⟩
  have hgives' : new.GivesId other id := ⟨rfl, rfl, rfl⟩
  refine ⟨first, habove, ⟨old, hold, hgives⟩, ⟨new, hnew, hgives'⟩, ?_⟩
  intro hfresh
  have hsame : asked = other := hfresh Engine.bare () _ rfl Engine.bare_isLocal old hold new hnew
    asked other id (by decide) hgives hgives'
  exact absurd hsame (by decide)

end IdentityMap
