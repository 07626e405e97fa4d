/-
One id for one SID in a batch.

All items of a batch see the cache as it was before, since it is written when the batch is
over.  So the row of a SID gives its id to every item that may have an id of that kind.  Of
the other kind, and for a SID without a row, the first item that needs an id takes one from
the allocator and notes it in the history of the batch, where the others find it.

That makes the items of a SID agree.  It also means that for each SID and kind an id is taken
once, by an item that succeeds, and that nothing is taken for anyone else.  `Draw` says what
one item does to the history and the allocator, and the rest is carried from item to item.

Nothing is asked of the authority, which may fail or repeat itself, nor of the cache.
-/
import IdentityMap.Proofs.Ephemeral.Watched
import IdentityMap.Proofs.Mapping.Conclusion
import IdentityMap.Proofs.LocalAccount
import IdentityMap.Proofs.Ledger

namespace IdentityMap

variable {δ α : Type}

/-! ### Ids that a SID had before -/

namespace Cache

/-- The number of this kind that the cache has for a SID now, stale or not. -/
def heldNumber (cache : Cache) (now : Int) (sid : Sid) (kind : IdKind) : Option UInt32 :=
  match cache.idRow? sid now with
  | none => none
  | some row =>
    match row.cachedId now with
    | .error _ => none
    | .ok hit => if hit.id.kind = kind then some hit.id.number else none

variable {cache : Cache} {now : Int} {sid : Sid} {wanted : Wanted}

theorem heldNumber_of_ok {hit : CachedId} (h : cache.idOf sid wanted now = .ok hit)
    (kind : IdKind) :
    cache.heldNumber now sid kind = if hit.id.kind = kind then some hit.id.number else none := by
  obtain ⟨row, hrow, hcached, -⟩ := idRow?_of_ok h
  simp only [heldNumber, hrow, hcached]

theorem heldNumber_of_notFound (h : cache.idOf sid wanted now = .error .notFound)
    (kind : IdKind) : cache.heldNumber now sid kind = none := by
  simp only [heldNumber, idRow?_of_notFound h]

end Cache

/-! ### Ids that are new -/

theorem Answer.id_of_unix? {answer : Answer} {id : UnixId} (h : answer.unix? = some id) :
    answer.id = some (.unix id) := by
  obtain ⟨identity, hid, hunix⟩ := Option.bind_eq_some_iff.mp h
  cases identity with
  | sid sid => cases hunix
  | unix unix =>
      cases hunix
      exact hid

/-- The item has an id of its own: no row gave it one, nor a rule, nor the machine SID. -/
def Item.isMinted (item : Item) : Bool :=
  match item.state with
  | .resolved resolution =>
    item.answer.isSuccess && item.answer.name.isNone && resolution.expiry != .never
  | _ => false

namespace SidToId

/-- The SID and the id of an item whose id was minted in this batch: it has an id of its own,
and the SID had none of that kind before. -/
def fresh? (cache : Cache) (now : Int) (p : Request × Item) : Option (Sid × UnixId) :=
  match p.1.id, p.2.answer.unix? with
  | .sid sid, some id =>
    if p.2.isMinted && (cache.heldNumber now sid id.kind).isNone then some (sid, id) else none
  | _, _ => none

/-- The SIDs that got new ids in a batch, with the ids, once for each item. -/
def fresh (cache : Cache) (now : Int) (items : List (Request × Item)) : List (Sid × UnixId) :=
  items.filterMap (fresh? cache now)

/-- The SIDs that got new ids, and of which kind. -/
def freshKinds (cache : Cache) (now : Int) (items : List (Request × Item)) :
    List (Sid × IdKind) :=
  (fresh cache now items).map fun p => (p.1, p.2.kind)

variable {e : Engine δ α} {rules : RuleTable} {cache : Cache} {now : Int} {found : Found}
  {request : Request} {item : Item} {p : Request × Item} {items : List (Request × Item)}
  {m m' : Mint α} {sid : Sid} {id : UnixId} {kind : IdKind}

theorem fresh?_of_not_minted (h : item.isMinted = false) :
    fresh? cache now (request, item) = none := by
  unfold fresh?
  simp only [h, Bool.false_and, Bool.false_eq_true, if_false]
  split <;> rfl

theorem isMinted_of_failed (h : item.answer.isSuccess = false) : item.isMinted = false := by
  unfold Item.isMinted
  split
  · rw [h, Bool.false_and, Bool.false_and]
  · rfl

/-- A minted item has a new id unless its SID had one of that kind. -/
theorem fresh?_mintedItem (hsid : request.id = .sid sid) (name : Option WindowsName)
    (source : NameSource) (domain : Option String) :
    fresh? cache now (request, mintedItem e now id name source domain)
      = if cache.heldNumber now sid id.kind = none then some (sid, id) else none := by
  have hminted : (mintedItem e now id name source domain).isMinted = true := rfl
  have hid : (mintedItem e now id name source domain).answer.unix? = some id := rfl
  simp [fresh?, hsid, hid, hminted]

theorem fresh?_eq_some (h : fresh? cache now p = some (sid, id)) :
    p.1.id = .sid sid ∧ p.2.answer.unix? = some id ∧ p.2.isMinted = true ∧
      cache.heldNumber now sid id.kind = none := by
  unfold fresh? at h
  split at h
  · next sid' id' hsid hid =>
      split at h
      · next hnew =>
          cases h
          simp only [Bool.and_eq_true, Option.isNone_iff_eq_none] at hnew
          exact ⟨hsid, hid, hnew⟩
      · cases h
  · cases h

/-! ### One item -/

/-- What an item does to the history and to the allocator.  New ids are the only ones that it
takes and notes, and notes of a SID and kind that the cache has an id for do not matter. -/
inductive Draw (e : Engine δ α) (cache : Cache) (now : Int) :
    Request × Item → Mint α → Mint α → Prop
  | nothing {p : Request × Item} {m m' : Mint α} (hnew : fresh? cache now p = none)
      (hallocator : m'.allocator = m.allocator)
      (hhistory : ∀ sid kind, cache.heldNumber now sid kind = none →
        m'.history.get? sid kind = m.history.get? sid kind) : Draw e cache now p m m'
  | refused {p : Request × Item} {m m' : Mint α} {kind : IdKind} {failure : Failure}
      (hnew : fresh? cache now p = none) (hhistory : m'.history = m.history)
      (hallocate : m.allocator.allocate e.authority e.blockSize kind
        = (.error failure, m'.allocator)) : Draw e cache now p m m'
  | again {p : Request × Item} {m : Mint α} {sid : Sid} {id : UnixId}
      (hnew : fresh? cache now p = some (sid, id))
      (hget : m.history.get? sid id.kind = some id.number) : Draw e cache now p m m
  | first {p : Request × Item} {m : Mint α} {sid : Sid} {id : UnixId} {a : Allocator α}
      (hnew : fresh? cache now p = some (sid, id)) (hget : m.history.get? sid id.kind = none)
      (hallocate : m.allocator.allocate e.authority e.blockSize id.kind = (.ok id.number, a)) :
      Draw e cache now p m
        { history := m.history.insert sid id.kind id.number, allocator := a }

/-- The spare id of an item is what the cache has for its SID. -/
theorem Spare.heldNumber {fallback : Fallback} (h : Spare cache now request sid fallback)
    (kind : IdKind) :
    cache.heldNumber now sid kind
      = fallback.bind fun id => if id.kind = kind then some id.number else none := by
  cases h with
  | nothing hmiss => exact Cache.heldNumber_of_notFound hmiss kind
  | expired hhit _ => exact Cache.heldNumber_of_ok hhit kind

/-- An item obtains the number that the cache has for its SID.  If the cache has none of the
kind it obtains the one noted in this batch, or a new one. -/
theorem Spare.obtained {fallback : Fallback} {number : UInt32}
    (hspare : Spare cache now request sid fallback)
    (hobtain : obtainId e sid kind fallback m = (.ok number, m')) :
    (cache.heldNumber now sid kind = some number ∧ m' = m.reuse sid { kind, number }) ∨
    (cache.heldNumber now sid kind = none ∧
      ((m.history.get? sid kind = some number ∧ m' = m) ∨
      (m.history.get? sid kind = none ∧ ∃ a,
        m.allocator.allocate e.authority e.blockSize kind = (.ok number, a) ∧
        m' = { history := m.history.insert sid kind number, allocator := a }))) := by
  have hheld := hspare.heldNumber kind
  rcases obtainId_ok hobtain with ⟨id, rfl, rfl, rfl, rfl⟩ | ⟨hother, hrest⟩
  · rw [Option.bind_some, if_pos rfl] at hheld
    exact Or.inl ⟨hheld, rfl⟩
  · refine Or.inr ⟨?_, hrest⟩
    rw [hheld]
    cases fallback with
    | none => rfl
    | some id => rw [Option.bind_some, if_neg (hother id rfl)]

/-- **An item takes an id if it is the first to need it, and else none.** -/
theorem Outcome.draw (h : Outcome e rules cache now found request m item m') :
    Draw e cache now (request, item) m m' := by
  cases h with
  | failed hfailed =>
      exact .nothing (fresh?_of_not_minted (isMinted_of_failed hfailed)) rfl fun _ _ _ => rfl
  | exhausted hfailed hobtain =>
      exact .refused (fresh?_of_not_minted (isMinted_of_failed hfailed))
        (obtainId_error hobtain).1 (obtainId_error hobtain).2
  | reserved _ _ => exact .nothing (fresh?_of_not_minted rfl) rfl fun _ _ _ => rfl
  | cached _ _ _ => exact .nothing (fresh?_of_not_minted rfl) rfl fun _ _ _ => rfl
  | ruled _ _ _ _ _ => exact .nothing (fresh?_of_not_minted rfl) rfl fun _ _ _ => rfl
  | localAccount _ _ _ _ => exact .nothing (fresh?_of_not_minted rfl) rfl fun _ _ _ => rfl
  | @minted sid kind name source fallback number domain _ hsid _ hspare hobtain =>
      rcases hspare.obtained hobtain with ⟨hsome, rfl⟩ | ⟨hnone, hrest⟩
      · refine .nothing ?_ rfl ?_
        · rw [fresh?_mintedItem hsid, if_neg (by rw [hsome]; exact Option.some_ne_none _)]
        · intro sid' kind' hnone
          rw [Mint.reuse, SidHistory.get?_insert, if_neg]
          rintro ⟨rfl, rfl⟩
          rw [hnone] at hsome
          cases hsome
      · have hnew : fresh? cache now
            (request, mintedItem e now { kind, number } name source domain)
              = some (sid, { kind, number }) := by
          rw [fresh?_mintedItem hsid, if_pos hnone]
        rcases hrest with ⟨hget, rfl⟩ | ⟨hget, a, hallocate, rfl⟩
        · exact .again hnew hget
        · exact .first hnew hget hallocate

/-! ### The items so far -/

/-- The history has the new ids of the items so far, and no other ids of a SID and kind that
the cache has none for. -/
def Noted (cache : Cache) (now : Int) (done : List (Request × Item)) (m : Mint α) : Prop :=
  ∀ sid (id : UnixId), cache.heldNumber now sid id.kind = none →
    (m.history.get? sid id.kind = some id.number ↔ (sid, id) ∈ fresh cache now done)

theorem fresh_append_none (h : fresh? cache now p = none) :
    fresh cache now (items ++ [p]) = fresh cache now items := by
  simp [fresh, h]

theorem fresh_append_some (h : fresh? cache now p = some (sid, id)) :
    fresh cache now (items ++ [p]) = fresh cache now items ++ [(sid, id)] := by
  simp [fresh, h]

/-- An id is new to the items so far if it was before, or if the last one has it. -/
theorem mem_fresh_append_some (h : fresh? cache now p = some (sid, id)) {other : Sid × UnixId} :
    other ∈ fresh cache now (items ++ [p]) ↔ other ∈ fresh cache now items ∨ other = (sid, id) := by
  rw [fresh_append_some h, List.mem_append, List.mem_singleton]

/-- An item that has the new id of an item before adds none. -/
theorem mem_fresh_append_again (h : fresh? cache now p = some (sid, id))
    (hmem : (sid, id) ∈ fresh cache now items) {other : Sid × UnixId} :
    other ∈ fresh cache now (items ++ [p]) ↔ other ∈ fresh cache now items := by
  rw [mem_fresh_append_some h]
  refine or_iff_left_of_imp fun hother => ?_
  rw [hother]
  exact hmem

theorem mem_freshKinds_of_mem (h : (sid, id) ∈ fresh cache now items) :
    (sid, id.kind) ∈ freshKinds cache now items :=
  List.mem_map.mpr ⟨_, h, rfl⟩

/-- A new id that the history has was new to an item before. -/
theorem Noted.mem_fresh (h : Noted cache now items m) (hnew : fresh? cache now p = some (sid, id))
    (hget : m.history.get? sid id.kind = some id.number) : (sid, id) ∈ fresh cache now items :=
  (h sid id (fresh?_eq_some hnew).2.2.2).mp hget

/-- A SID and kind that the history has no id of got no new one so far. -/
theorem Noted.not_mem_freshKinds (h : Noted cache now items m)
    (hnew : fresh? cache now p = some (sid, id)) (hget : m.history.get? sid id.kind = none) :
    (sid, id.kind) ∉ freshKinds cache now items := by
  intro hmem
  obtain ⟨⟨sid', id'⟩, hfresh, hsame⟩ := List.mem_map.mp hmem
  obtain ⟨rfl, hkind⟩ := Prod.mk.inj hsame
  change id'.kind = id.kind at hkind
  have hheld := (fresh?_eq_some hnew).2.2.2
  rw [← hkind] at hheld hget
  rw [(h sid' id' hheld).mpr hfresh] at hget
  cases hget

theorem Draw.noted (h : Draw e cache now p m m') (hnoted : Noted cache now items m) :
    Noted cache now (items ++ [p]) m' := by
  intro sid' id' hheld
  cases h with
  | nothing hnew _ hhistory =>
      rw [fresh_append_none hnew, hhistory sid' id'.kind hheld]
      exact hnoted sid' id' hheld
  | refused hnew hhistory _ =>
      rw [fresh_append_none hnew, hhistory]
      exact hnoted sid' id' hheld
  | again hnew hget =>
      rw [mem_fresh_append_again hnew (hnoted.mem_fresh hnew hget)]
      exact hnoted sid' id' hheld
  | @first sid id _ hnew hget _ =>
      rw [mem_fresh_append_some hnew, SidHistory.get?_insert]
      by_cases hsame : sid' = sid ∧ id'.kind = id.kind
      · obtain ⟨rfl, hkind⟩ := hsame
        have habsent : (sid', id') ∉ fresh cache now items := by
          intro hmem
          have hkinds := mem_freshKinds_of_mem hmem
          rw [hkind] at hkinds
          exact hnoted.not_mem_freshKinds hnew hget hkinds
        rw [if_pos ⟨rfl, hkind⟩, or_iff_right habsent]
        constructor
        · intro hnumber
          rw [UnixId.eq_of_number hkind (Option.some.inj hnumber).symm]
        · intro hnow
          rw [(Prod.mk.inj hnow).2]
      · have hother : (sid', id') ≠ (sid, id) := by
          rintro hnow
          obtain ⟨rfl, rfl⟩ := Prod.mk.inj hnow
          exact hsame ⟨rfl, rfl⟩
        rw [if_neg hsame, or_iff_left hother]
        exact hnoted sid' id' hheld

end SidToId

/-- **What every draw keeps, a batch keeps.** -/
theorem settled_inv {e : Engine δ α} {rules : RuleTable} {cache : Cache} {now : Int}
    {found : SidToId.Found} (Inv : List (Request × Item) → Mint α → Prop)
    (step : ∀ {done p m m'}, SidToId.Draw e cache now p m m' → Inv done m → Inv (done ++ [p]) m')
    (requests : List Request) {done : List (Request × Item)} {m : Mint α} (h : Inv done m) :
    Inv (done ++ requests.zip (settled e rules cache now found requests m).1)
      (settled e rules cache now found requests m).2 := by
  induction requests generalizing done m with
  | nil =>
      rw [List.zip_nil_left, List.append_nil]
      exact h
  | cons request rest ih =>
      have hfirst := step (SidToId.outcome e rules cache now found request m).draw h
      have hrest := ih hfirst
      rw [List.append_assoc] at hrest
      exact hrest

/-! ### The items of a SID agree -/

section Agree

variable {e : Engine δ α} {rules : RuleTable} {cache : Cache} {now : Int}
  {found : SidToId.Found} {requests : List Request} {m : Mint α} {p q : Request × Item} {sid : Sid}
  {id id' : UnixId}

/-- At the end of a batch the history has the new ids of all its items. -/
theorem noted_settled (e : Engine δ α) (rules : RuleTable) (cache : Cache) (now : Int)
    (found : SidToId.Found) (requests : List Request) (a : Allocator α) :
    SidToId.Noted cache now
      (requests.zip (settled e rules cache now found requests { allocator := a }).1)
      (settled e rules cache now found requests { allocator := a }).2 := by
  have hstart : SidToId.Noted cache now [] ({ allocator := a } : Mint α) := by
    intro sid id _
    simp [SidToId.fresh]
  exact settled_inv (SidToId.Noted cache now) (fun hdraw hnoted => hdraw.noted hnoted) requests
    hstart

/-- An item is what the second pass makes of what the first has made of it. -/
theorem exists_secondPass (hp : p ∈ requests.zip (settled e rules cache now found requests m).1) :
    ∃ m', p.2 = (SidToId.secondPass e rules now p.1 (SidToId.firstPass cache now p.1)
      (SidToId.answerFor found p.1) m').1 := by
  induction requests generalizing m with
  | nil => cases hp
  | cons request rest ih =>
      rcases List.mem_cons.mp hp with rfl | hp
      · exact ⟨m, rfl⟩
      · exact ih hp

/-- An item about a reserved SID is answered from the table. -/
theorem unix?_of_reserved (hp : p ∈ requests.zip (settled e rules cache now found requests m).1)
    (hsid : p.1.id = .sid sid) {direction : Direction}
    (hreserved : WellKnown.idOf sid p.1.wanted = some (.mapped id direction)) :
    p.2.answer.id = some (.unix id) := by
  have hadmits := WellKnown.admits_of_idOf hreserved
  have hwanted : p.1.wanted ≠ .sid := by
    intro hcontra
    rw [hcontra] at hadmits
    cases hadmits
  have hfirst : SidToId.firstPass cache now p.1
      = { answer := { id := some (.unix id), direction, failure := none }
          state := .cacheHit } := by
    simp only [SidToId.firstPass, hsid, if_neg hwanted, hreserved]
  obtain ⟨m', hitem⟩ := exists_secondPass hp
  rw [hitem, hfirst, SidToId.secondPass_of_isFinal rfl]

/-- Where the ephemeral id of an item comes from: the table of reserved identities, the row of
its SID, or this batch. -/
theorem SidToId.Outcome.source {request : Request} {item : Item} {m' : Mint α}
    (h : SidToId.Outcome e rules cache now found request m item m') (hlocal : e.names.IsLocal)
    (hsid : request.id = .sid sid) (hok : item.answer.isSuccess = true)
    (hid : item.answer.id = some (.unix id)) (heph : isEphemeral id.number = true) :
    (∃ direction, WellKnown.idOf sid request.wanted = some (.mapped id direction)) ∨
      cache.heldNumber now sid id.kind = some id.number ∨
      fresh? cache now (request, item) = some (sid, id) := by
  cases h with
  | failed hfailed =>
      rw [hfailed] at hok
      cases hok
  | exhausted hfailed _ =>
      rw [hfailed] at hok
      cases hok
  | reserved hsid' hreserved =>
      obtain rfl := Identity.sid.inj (hsid.symm.trans hsid')
      cases hid
      exact Or.inl ⟨_, hreserved⟩
  | cached hsid' hhit _ =>
      obtain rfl := Identity.sid.inj (hsid.symm.trans hsid')
      cases hid
      refine Or.inr (Or.inl ?_)
      rw [Cache.heldNumber_of_ok hhit, if_pos rfl]
  | ruled _ _ _ _ hmapped =>
      cases hid
      rw [RuleTable.mapsLocally hlocal rules hmapped] at heph
      cases heph
  | localAccount _ _ _ hdecode =>
      cases hid
      rw [LocalAccount.isEphemeral_of_ofRid? (LocalAccount.ofRid?_of_decode hdecode)] at heph
      cases heph
  | @minted _ kind name source fallback number domain _ hsid' _ hspare hobtain =>
      obtain rfl := Identity.sid.inj (hsid.symm.trans hsid')
      cases hid
      right
      rcases hspare.obtained hobtain with ⟨hheld, -⟩ | ⟨hnone, -⟩
      · exact Or.inl hheld
      · exact Or.inr (by rw [fresh?_mintedItem hsid, if_pos hnone])

/-- What the table has for one item of a SID, every item of the SID is answered that is
answered the same kind. -/
theorem eq_of_reserved {wanted : Wanted} {direction : Direction}
    (hreserved : WellKnown.idOf sid wanted = some (.mapped id direction))
    (hp : p ∈ requests.zip (settled e rules cache now found requests m).1)
    (hsid : p.1.id = .sid sid) (hok : p.2.answer.isSuccess = true)
    (hid : p.2.answer.id = some (.unix id')) (hkind : id.kind = id'.kind) : id = id' := by
  have hconclusion := (List.forall₂_iff_zip.mp
    (conclusion_settled e rules cache now found requests m)).2 hp
  obtain ⟨id'', hid'', hadmits⟩ := hconclusion.success hok
  obtain rfl := Identity.unix.inj (Option.some.inj (hid.symm.trans hid''))
  rw [← hkind] at hadmits
  have hanswer := unix?_of_reserved hp hsid (WellKnown.idOf_of_admits hreserved hadmits)
  exact Identity.unix.inj (Option.some.inj (hanswer.symm.trans hid))

/-- Two items of a batch that succeed for one SID with ephemeral ids of one kind have the same
id. -/
theorem eq_of_settled (hlocal : e.names.IsLocal) {a : Allocator α}
    (hp : p ∈ requests.zip (settled e rules cache now found requests { allocator := a }).1)
    (hq : q ∈ requests.zip (settled e rules cache now found requests { allocator := a }).1)
    (hsid : p.1.id = .sid sid) (hsid' : q.1.id = .sid sid)
    (hok : p.2.answer.isSuccess = true) (hok' : q.2.answer.isSuccess = true)
    (hid : p.2.answer.id = some (.unix id)) (hid' : q.2.answer.id = some (.unix id'))
    (heph : isEphemeral id.number = true) (heph' : isEphemeral id'.number = true)
    (hkind : id.kind = id'.kind) : id = id' := by
  have hnoted := noted_settled e rules cache now found requests a
  have hsame : some id.number = some id'.number → id = id' :=
    fun hnumber => UnixId.eq_of_number hkind (Option.some.inj hnumber)
  obtain ⟨_, _, houtcome⟩ := exists_outcome hp
  obtain ⟨_, _, houtcome'⟩ := exists_outcome hq
  rcases houtcome.source hlocal hsid hok hid heph with ⟨direction, hentry⟩ | hsource
  · exact eq_of_reserved hentry hq hsid' hok' hid' hkind
  rcases houtcome'.source hlocal hsid' hok' hid' heph' with ⟨direction, hentry⟩ | hsource'
  · exact (eq_of_reserved hentry hp hsid hok hid hkind.symm).symm
  rcases hsource with hheld | hnew
  · rcases hsource' with hheld' | hnew'
    · rw [hkind] at hheld
      exact hsame (hheld.symm.trans hheld')
    · have hnone := (SidToId.fresh?_eq_some hnew').2.2.2
      rw [← hkind, hheld] at hnone
      cases hnone
  · have hnone := (SidToId.fresh?_eq_some hnew).2.2.2
    rcases hsource' with hheld' | hnew'
    · rw [hkind, hheld'] at hnone
      cases hnone
    · have hget := (hnoted sid id hnone).mpr (List.mem_filterMap.mpr ⟨p, hp, hnew⟩)
      have hget' := (hnoted sid id' (by rw [← hkind]; exact hnone)).mpr
        (List.mem_filterMap.mpr ⟨q, hq, hnew'⟩)
      rw [hkind] at hget
      exact hsame (hget.symm.trans hget')

end Agree

/-! ### What is taken from the allocator -/

section Once

variable {β : Type} [BEq β] [LawfulBEq β] {l : List β} {x : β}

theorem eraseDups_concat_of_mem (h : x ∈ l) : (l ++ [x]).eraseDups = l.eraseDups := by
  rw [List.eraseDups_append]
  simp [List.removeAll, h]

theorem eraseDups_concat_of_not_mem (h : x ∉ l) :
    (l ++ [x]).eraseDups = l.eraseDups ++ [x] := by
  rw [List.eraseDups_append]
  simp [List.removeAll, h, List.eraseDups_cons]

end Once

/-- As many ids were taken as there are SIDs and kinds that got new ones, and they are the new
ids. -/
structure Counted (cache : Cache) (now : Int) (done : List (Request × Item))
    (w : Mint (Watched α)) : Prop where
  noted : SidToId.Noted cache now done w
  closed : w.allocator.Closed
  length : w.allocator.authority.taken.length
    = (SidToId.freshKinds cache now done).eraseDups.length
  given : ∀ id, id ∈ w.allocator.authority.taken ↔
    ∃ sid, (sid, id) ∈ SidToId.fresh cache now done

section Count

variable {e : Engine δ α} {cache : Cache} {now : Int} {done : List (Request × Item)}
  {p : Request × Item} {w w' : Mint (Watched α)} {sid : Sid} {id : UnixId}

theorem SidToId.freshKinds_append_none (h : SidToId.fresh? cache now p = none) :
    freshKinds cache now (done ++ [p]) = freshKinds cache now done := by
  rw [freshKinds, fresh_append_none h, freshKinds]

theorem SidToId.freshKinds_append_some (h : SidToId.fresh? cache now p = some (sid, id)) :
    freshKinds cache now (done ++ [p]) = freshKinds cache now done ++ [(sid, id.kind)] := by
  rw [freshKinds, fresh_append_some h, List.map_append, freshKinds]
  rfl

/-- An item that takes nothing and has no further new id. -/
theorem Counted.keep (h : Counted cache now done w)
    (hnoted : SidToId.Noted cache now (done ++ [p]) w') (hclosed : w'.allocator.Closed)
    (htaken : w'.allocator.authority.taken = w.allocator.authority.taken)
    (hkinds : (SidToId.freshKinds cache now (done ++ [p])).eraseDups
      = (SidToId.freshKinds cache now done).eraseDups)
    (hfresh : ∀ other, other ∈ SidToId.fresh cache now (done ++ [p]) ↔
      other ∈ SidToId.fresh cache now done) : Counted cache now (done ++ [p]) w' := by
  refine ⟨hnoted, hclosed, ?_, fun id => ?_⟩
  · rw [htaken, hkinds]
    exact h.length
  · simp only [htaken, hfresh]
    exact h.given id

theorem Counted.draw (hdraw : SidToId.Draw e.watched cache now p w w')
    (h : Counted cache now done w) : Counted cache now (done ++ [p]) w' := by
  have hnoted := hdraw.noted h.noted
  cases hdraw with
  | nothing hnew hallocator _ =>
      refine h.keep hnoted ?_ ?_ ?_ fun other => by rw [SidToId.fresh_append_none hnew]
      · rw [hallocator]
        exact h.closed
      · rw [hallocator]
      · rw [SidToId.freshKinds_append_none hnew]
  | refused hnew _ hallocate =>
      obtain ⟨-, hclosed, htaken⟩ := Allocator.allocate_watched h.closed hallocate
      rw [List.append_nil] at htaken
      refine h.keep hnoted hclosed htaken ?_ fun other => by rw [SidToId.fresh_append_none hnew]
      rw [SidToId.freshKinds_append_none hnew]
  | again hnew hget =>
      have hmem := h.noted.mem_fresh hnew hget
      refine h.keep hnoted h.closed rfl ?_ fun other => SidToId.mem_fresh_append_again hnew hmem
      rw [SidToId.freshKinds_append_some hnew,
        eraseDups_concat_of_mem (SidToId.mem_freshKinds_of_mem hmem)]
  | @first sid id a hnew hget hallocate =>
      obtain ⟨-, hclosed, htaken⟩ := Allocator.allocate_watched h.closed hallocate
      have habsent := h.noted.not_mem_freshKinds hnew hget
      refine ⟨hnoted, hclosed, ?_, fun other => ?_⟩
      · change a.authority.taken.length = _
        rw [htaken, List.length_append, h.length, SidToId.freshKinds_append_some hnew,
          eraseDups_concat_of_not_mem habsent, List.length_append]
        rfl
      · change other ∈ a.authority.taken ↔ _
        rw [htaken, List.mem_append, List.mem_singleton, h.given]
        simp only [SidToId.mem_fresh_append_some hnew, exists_or, Prod.mk.injEq, exists_eq_left]

/-- The ids that a batch takes are counted by its items, and they are the new ids of the
items. -/
theorem counted_taken (e : Engine δ α) (now : Int) (requests : List Request)
    (s : EngineState δ α) :
    (taken e now requests s).length
        = (SidToId.freshKinds s.cache now
            (requests.zip (sidItems e now requests s))).eraseDups.length ∧
      ∀ id, id ∈ taken e now requests s ↔ ∃ sid,
        (sid, id) ∈ SidToId.fresh s.cache now (requests.zip (sidItems e now requests s)) := by
  have hstart : Counted s.cache now [] { allocator := s.watched.allocator } := by
    refine ⟨?_, Allocator.closed_fresh _, rfl, ?_⟩
    · intro sid id _
      simp [SidToId.fresh]
    · intro id
      simp [SidToId.fresh, EngineState.watched]
  have hcounted : Counted s.cache now
      ([] ++ requests.zip (settled e.watched s.rules s.cache now (batchFound e now requests s).1
        requests { allocator := s.watched.allocator }).1)
      (settled e.watched s.rules s.cache now (batchFound e now requests s).1 requests
        { allocator := s.watched.allocator }).2 :=
    settled_inv (Counted s.cache now) (fun hdraw hcounted => hcounted.draw hdraw) requests hstart
  have hitems := (settled_watched e now requests s).1
  have htaken : taken e now requests s
      = (settled e.watched s.rules s.cache now (batchFound e now requests s).1 requests
          { allocator := s.watched.allocator }).2.allocator.authority.taken := by
    rw [taken, mapSids_eq]
    rfl
  rw [List.nil_append, hitems] at hcounted
  rw [htaken]
  exact ⟨hcounted.length, hcounted.given⟩

/-- Who got a new id was answered it. -/
theorem exists_reply_of_fresh {requests : List Request} {items : List Item}
    (h : (sid, id) ∈ SidToId.fresh cache now (requests.zip items)) :
    ∃ reply ∈ replies requests (items.map (·.answer)), reply.GivesId sid id := by
  obtain ⟨p, hp, hnew⟩ := List.mem_filterMap.mp h
  obtain ⟨hsid, hid, hminted, -⟩ := SidToId.fresh?_eq_some hnew
  have hok : p.2.answer.isSuccess = true := by
    by_contra hfailed
    rw [Bool.not_eq_true] at hfailed
    rw [SidToId.isMinted_of_failed hfailed] at hminted
    cases hminted
  exact ⟨_, mem_replies_of_mem hp, hsid, hok, Answer.id_of_unix? hid⟩

end Count

/--
**A batch gives a SID one id of each kind, and takes no other from the allocator.**

Items that succeed for one SID with ephemeral ids of one kind have the same id.  The ids that
the batch takes are the new ids of its items, and there are as many as there are SIDs and
kinds that got one; so none is taken that is not answered.  They are read off the watched
engine, which answers the same and leaves the same allocator.
-/
theorem one_id_for_each_sid_and_kind (e : Engine δ α) (hlocal : e.names.IsLocal) (now : Int)
    (requests : List Request) (s : EngineState δ α) :
    (∀ first ∈ replies requests (e.mapSids now requests s).1,
      ∀ second ∈ replies requests (e.mapSids now requests s).1, ∀ sid id id',
      first.GivesId sid id → second.GivesId sid id' → isEphemeral id.number = true →
      isEphemeral id'.number = true → id.kind = id'.kind → id = id') ∧
    ((e.watched.mapSids now requests s.watched).1 = (e.mapSids now requests s).1 ∧
      (e.watched.mapSids now requests s.watched).2.allocator.authority.allocator
        = (e.mapSids now requests s).2.allocator) ∧
    (taken e now requests s).length
      = (SidToId.freshKinds s.cache now
          (requests.zip (sidItems e now requests s))).eraseDups.length ∧
    (∀ id, id ∈ taken e now requests s ↔ ∃ sid,
      (sid, id) ∈ SidToId.fresh s.cache now (requests.zip (sidItems e now requests s))) ∧
    ∀ sid id, (sid, id) ∈ SidToId.fresh s.cache now (requests.zip (sidItems e now requests s)) →
      ∃ reply ∈ replies requests (e.mapSids now requests s).1, reply.GivesId sid id := by
  obtain ⟨hanswers, -, -, hallocator⟩ := mapSids_watched e now requests s
  obtain ⟨hlength, hgiven⟩ := counted_taken e now requests s
  refine ⟨?_, ⟨hanswers, hallocator⟩, hlength, hgiven, ?_⟩
  · rw [answers_mapSids]
    intro first hfirst second hsecond sid id id' hgives hgives' heph heph' hkind
    obtain ⟨p, hp, rfl⟩ := mem_replies_map hfirst
    obtain ⟨q, hq, rfl⟩ := mem_replies_map hsecond
    obtain ⟨hsid, hok, hid⟩ := hgives
    obtain ⟨hsid', hok', hid'⟩ := hgives'
    exact eq_of_settled hlocal hp hq hsid hsid' hok hok' hid hid' heph heph' hkind
  · rw [answers_mapSids]
    intro sid id hfresh
    exact exists_reply_of_fresh hfresh

/-- Two SIDs are asked for in four items, one of them for both kinds: three ids are taken, and
every uid that it is answered is the first of them. -/
theorem three_ids_for_four_items :
    let e : Engine Unit SequentialIds := Engine.bare
    let s : EngineState Unit SequentialIds := .fresh {} () .aboveReserved
    let sid : Sid := { base := "S-1-5-21-7", rid := 1104 }
    let id : UnixId := { kind := .uid, number := 0x80000001 }
    let there : Request := { id := .sid sid, wanted := .uid }
    let requests : List Request :=
      [there, { there with wanted := .gid }, { there with id := .sid { sid with rid := 1105 } },
        there]
    e.names.IsLocal ∧ (taken e 0 requests s).length = 3 ∧
      ∀ reply ∈ replies requests (e.mapSids 0 requests s).1, ∀ id', reply.GivesId sid id' →
        isEphemeral id'.number = true → id'.kind = .uid → id' = id := by
  intro e s sid id there requests
  have hlocal : e.names.IsLocal := Engine.bare_isLocal
  have hfirst : { asked := .sid sid, answer := { id := some (.unix id), failure := none } }
      ∈ replies requests (e.mapSids 0 requests s).1 := by
    decide +kernel
  obtain ⟨hsame, -, hlength, -⟩ := one_id_for_each_sid_and_kind e hlocal 0 requests s
  refine ⟨hlocal, hlength.trans (by decide +kernel), ?_⟩
  intro reply hreply id' hgives heph hkind
  exact hsame reply hreply _ hfirst sid id' id hgives ⟨rfl, rfl, rfl⟩ heph rfl hkind

end IdentityMap
