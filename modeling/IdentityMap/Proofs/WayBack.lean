/-
The way back from a minted id.

The cache is written item by item when a whole batch is resolved, and a SID has only one row
that leads to a unix id.  So an item may take the row of an id that another item of the same
batch was answered, and then the id has no SID any more.  It is not lost if it was expired and
the rules have come to map its SID otherwise: then only the direction to unix is taken from
its row.

What becomes of an id depends on the writes for its SID that follow its own last one, and of
these on the first: that one takes the row or spares it, and nothing changes after that.
`displaced` reads this off the items of the batch.
-/
import Mathlib.Data.List.Induction
import IdentityMap.Proofs.Mapping.Conclusion
import IdentityMap.Proofs.Mapping.Single
import IdentityMap.Proofs.Mapping.Writes

namespace IdentityMap

/-! ### What a batch writes for a SID -/

namespace SidToId

/-- A unix id that is written for a SID, and the kind of the minted id that keeps its way back
then. -/
structure Write where
  id : UnixId
  spared : Option IdKind
deriving DecidableEq, Repr

/-- What an item writes for this SID. -/
def write? (sid : Sid) (p : Request × Item) : Option Write :=
  (written? p.1 p.2).bind fun m =>
    if m.sid = sid then some { id := m.id, spared := spared? p.2 m } else none

/-- What the items write for this SID, in order. -/
def writes (sid : Sid) (items : List (Request × Item)) : List Write :=
  items.filterMap (write? sid)

theorem writes_concat (sid : Sid) (items : List (Request × Item)) (p : Request × Item) :
    writes sid (items ++ [p]) = writes sid items ++ (write? sid p).toList := by
  cases hw : write? sid p <;> simp [writes, hw]

/-- What is written after this id was written for the last time. -/
def since (id : UnixId) (writes : List Write) : List Write :=
  (writes.reverse.takeWhile (·.id != id)).reverse

/-- The row of the id is taken by the first write that follows the id's own. -/
def displaced (sid : Sid) (id : UnixId) (items : List (Request × Item)) : Bool :=
  (since id (writes sid items)).head?.any fun w => w.spared != some id.kind

theorem since_append (id : UnixId) (ws : List Write) (w : Write) :
    since id (ws ++ [w]) = if w.id = id then [] else since id ws ++ [w] := by
  by_cases h : w.id = id
  · simp [since, h]
  · simp [since, h]

end SidToId

/-! ### Where a minted id stands -/

/-- What the cache has of a SID and a unix id. -/
inductive Standing where
  /-- A row that leads from the SID to the id. -/
  | leading
  /-- A row, but it does not lead from the SID any more. -/
  | backOnly
  /-- No row. -/
  | lost
deriving DecidableEq

namespace Cache

/-- The cache has this of the SID and the unix id. -/
def Stands (cache : Cache) (sid : Sid) (id : UnixId) : Standing → Prop
  | .leading => ∃ row ∈ cache.ids, row.Ties sid id ∧ row.toUnix = some 1
  | .backOnly => ∃ row ∈ cache.ids, row.Ties sid id ∧ row.toUnix ≠ some 1
  | .lost => ∀ row ∈ cache.ids, ¬ row.Ties sid id

/-- Every row with a minted id leads back from it. -/
def WaysBack (cache : Cache) : Prop :=
  ∀ row ∈ cache.ids, row.isMinted = true → row.toWindows = some 1

theorem WaysBack.lasting :
    Lasting (fun m => isEphemeral m.id.number = true → m.direction = .both) WaysBack where
  empty row hrow := by cases hrow
  putId := by
    intro cache m h hm row hrow hminted
    rcases mem_putId.mp hrow with rfl | ⟨hold, -⟩
    · rw [m.row_ties.isMinted] at hminted
      rw [IdMapping.row, hm hminted]
      rfl
    · exact h row hold hminted
  putName h := h
  supersede := by
    intro cache sid kind h row hrow hminted
    obtain ⟨old, hold, rfl⟩ := mem_supersede.mp hrow
    by_cases hs : supersedes sid kind old = true
    · rw [if_pos hs] at hminted ⊢
      exact h old hold hminted
    · rw [if_neg hs] at hminted ⊢
      exact h old hold hminted
  purge h row hrow := h row (mem_of_mem_purge hrow)

variable {cache cache' : Cache} {m : IdMapping} {sid : Sid} {id : UnixId} {st : Standing}

/-- A row with a minted id answers for it at any time. -/
theorem WaysBack.answersId (h : cache.WaysBack) (heph : isEphemeral id.number = true)
    {row : IdRow} (hrow : row ∈ cache.ids) (hties : row.Ties sid id) (now : Int) :
    row.answersId id now = true := by
  have hminted : row.isMinted = true := by rw [hties.isMinted, heph]
  have husable : row.isUsable now = true := by rw [IdRow.isUsable, hminted, Bool.true_or]
  exact IdRow.answersId_iff.mpr ⟨h row hrow hminted, hties.number, hties.isUser, husable⟩

/-- A minted id has no two rows. -/
theorem Keyed.eq_of_ties (h : cache.Keyed) (hways : cache.WaysBack)
    (heph : isEphemeral id.number = true) {a b : IdRow} (ha : a ∈ cache.ids) (hb : b ∈ cache.ids)
    (hties : a.Ties sid id) (hties' : b.Ties sid id) : a = b :=
  h.eq_of_collides ha hb (IdRow.collides_of_answersId (hways.answersId heph ha hties 0)
    (hways.answersId heph hb hties' 0))

/-! ### What a write does to it -/

/-- A row that is not there is not brought back by other writes. -/
theorem Stands.lost_wrote (h : cache.Stands sid id .lost) (hwrote : cache.Wrote m cache')
    (hother : ¬ (m.sid = sid ∧ m.id = id)) : cache'.Stands sid id .lost := by
  intro row hrow hties
  rcases hwrote.origin row hrow with rfl | hold | ⟨old, hold, -, rfl⟩
  · have hsid := m.row_ties.eq_sid hties.isAbout
    have hid := m.row_ties.eq_id hties.number hties.isUser
    exact hother ⟨hsid.symm, hid.symm⟩
  · exact h row hold hties
  · exact h old hold ⟨hties.base, hties.rid, hties.number, hties.isUser⟩

/-- A write for another SID and another unix id leaves the row alone. -/
theorem Stands.wrote_of_ne (h : cache.Stands sid id st) (hwrote : cache.Wrote m cache')
    (hsid : m.sid ≠ sid) (hid : m.id ≠ id) : cache'.Stands sid id st := by
  have hkept : ∀ {row}, row ∈ cache.ids → row.Ties sid id → row ∈ cache'.ids := by
    intro row hrow hties
    have habout : row.isAbout m.sid = false := by
      rw [Bool.eq_false_iff]
      exact fun hcontra => hsid (hties.eq_sid hcontra)
    have hkey : IdRow.sameIdKey row m.row = false := by
      rw [Bool.eq_false_iff]
      intro hcontra
      obtain ⟨⟨hnumber, hkind⟩, -⟩ := IdRow.sameIdKey_row.mp hcontra
      exact hid (hties.eq_id hnumber hkind)
    exact hwrote.kept row hrow habout hkey
  cases st with
  | leading =>
      obtain ⟨row, hrow, hties, hunix⟩ := h
      exact ⟨row, hkept hrow hties, hties, hunix⟩
  | backOnly =>
      obtain ⟨row, hrow, hties, hunix⟩ := h
      exact ⟨row, hkept hrow hties, hties, hunix⟩
  | lost => exact h.lost_wrote hwrote fun hcontra => hsid hcontra.1

/-- Writing the id for the SID makes its row lead to it. -/
theorem stands_wrote_self (hwrote : cache.Wrote m cache') (hunix : m.direction.isToUnix = true) :
    cache'.Stands m.sid m.id .leading := by
  refine ⟨m.row, hwrote.written, m.row_ties, ?_⟩
  rw [IdMapping.row, hunix]
  rfl

/-- A row that does not lead from the SID is in nobody's way there. -/
theorem mem_putId_of_ties {row : IdRow} (hrow : row ∈ cache.ids) (hties : row.Ties sid id)
    (hunix : row.toUnix ≠ some 1) (hid : m.id ≠ id) : row ∈ (cache.putId m).ids := by
  refine mem_putId.mpr (Or.inr ⟨hrow, ?_⟩)
  rw [IdRow.collides, Bool.or_eq_false_iff, Bool.eq_false_iff, Bool.eq_false_iff]
  constructor
  · intro hcontra
    exact hunix (IdRow.sameSidKey_row.mp hcontra).2.1
  · intro hcontra
    obtain ⟨⟨hnumber, hkind⟩, -⟩ := IdRow.sameIdKey_row.mp hcontra
    exact hid (hties.eq_id hnumber hkind)

theorem Stands.backOnly_putId (h : cache.Stands sid id .backOnly) (hid : m.id ≠ id) :
    (cache.putId m).Stands sid id .backOnly := by
  obtain ⟨row, hrow, hties, hunix⟩ := h
  exact ⟨row, mem_putId_of_ties hrow hties hunix hid, hties, hunix⟩

theorem Stands.backOnly_supersede (h : cache.Stands sid id .backOnly) (sid' : Sid)
    (kind : IdKind) : (cache.supersede sid' kind).Stands sid id .backOnly := by
  obtain ⟨row, hrow, hties, hunix⟩ := h
  refine ⟨row, mem_supersede.mpr ⟨row, hrow, ?_⟩, hties, hunix⟩
  rw [if_neg]
  simp [supersedes, hunix]

/-- The direction is taken from a minted id of this kind and no other. -/
theorem supersedes_iff {row : IdRow} {kind : IdKind} (hties : row.Ties sid id)
    (hunix : row.toUnix = some 1) (heph : isEphemeral id.number = true) :
    supersedes sid kind row = true ↔ kind = id.kind := by
  have hminted : row.isMinted = true := by rw [hties.isMinted, heph]
  simp only [supersedes, hties.isAbout, hunix, hminted, hties.isUser, beq_self_eq_true,
    Bool.true_and, beq_iff_eq]
  constructor
  · intro hkind
    exact (boolColumn_isUser_inj hkind).symm
  · rintro rfl
    rfl

theorem Stands.leading_supersede (h : cache.Stands sid id .leading)
    (heph : isEphemeral id.number = true) :
    (cache.supersede sid id.kind).Stands sid id .backOnly := by
  obtain ⟨row, hrow, hties, hunix⟩ := h
  refine ⟨{ row with toUnix := none }, mem_supersede.mpr ⟨row, hrow, ?_⟩, hties.clearToUnix, ?_⟩
  · rw [if_pos ((supersedes_iff hties hunix heph).mpr rfl)]
  · intro hcontra
    cases hcontra

theorem Stands.leading_supersede_of_ne (h : cache.Stands sid id .leading) {kind : IdKind}
    (heph : isEphemeral id.number = true) (hkind : kind ≠ id.kind) :
    (cache.supersede sid kind).Stands sid id .leading := by
  obtain ⟨row, hrow, hties, hunix⟩ := h
  refine ⟨row, mem_supersede.mpr ⟨row, hrow, ?_⟩, hties, hunix⟩
  rw [if_neg]
  exact fun hcontra => hkind ((supersedes_iff hties hunix heph).mp hcontra)

/-- Another id that is written for the SID takes the row that led to the minted one, which has
no other. -/
theorem Stands.leading_putId (h : cache.Stands m.sid id .leading) (hkeyed : cache.Keyed)
    (hways : cache.WaysBack) (heph : isEphemeral id.number = true) (hid : m.id ≠ id)
    (hdirection : m.direction.isToUnix = true) : (cache.putId m).Stands m.sid id .lost := by
  obtain ⟨row, hrow, hties, hunix⟩ := h
  intro other hother hties'
  rcases mem_putId.mp hother with rfl | ⟨hold, hclear⟩
  · exact hid (m.row_ties.eq_id hties'.number hties'.isUser).symm
  · obtain rfl := hkeyed.eq_of_ties hways heph hold hrow hties' hties
    have hkey := IdRow.sameSidKey_row.mpr ⟨hties.isAbout, hunix, hdirection⟩
    rw [IdRow.collides, hkey, Bool.true_or] at hclear
    cases hclear

/-- Only the id table is looked at. -/
theorem Stands.congr (h : cache.Stands sid id st) (hids : cache'.ids = cache.ids) :
    cache'.Stands sid id st := by
  cases st with
  | leading => simpa only [Stands, hids] using h
  | backOnly => simpa only [Stands, hids] using h
  | lost => simpa only [Stands, hids] using h

end Cache

/-! ### What a batch does to it -/

/-- Where the id stands after something else was written for its SID. -/
def Standing.after (id : UnixId) (w : SidToId.Write) : Standing → Standing
  | .leading => if w.spared = some id.kind then .backOnly else .lost
  | st => st

namespace SidToId

/-- Where the id stands after these writes, if it led to the SID before or is among them. -/
def standing (id : UnixId) (ws : List Write) : Standing :=
  match (since id ws).head? with
  | none => .leading
  | some w => Standing.leading.after id w

theorem standing_append_self {id : UnixId} {ws : List Write} {w : Write} (h : w.id = id) :
    standing id (ws ++ [w]) = .leading := by
  simp [standing, since_append, h]

/-- Only the first write that follows the id's own matters. -/
theorem standing_append {id : UnixId} {ws : List Write} {w : Write} (h : w.id ≠ id) :
    standing id (ws ++ [w]) = (standing id ws).after id w := by
  unfold standing
  rw [since_append, if_neg h]
  cases since id ws with
  | nil => rfl
  | cons first rest =>
      by_cases hspared : first.spared = some id.kind <;> simp [Standing.after, hspared]

theorem standing_eq_lost_iff {sid : Sid} {id : UnixId} {items : List (Request × Item)} :
    standing id (writes sid items) = .lost ↔ displaced sid id items = true := by
  unfold standing displaced
  cases (since id (writes sid items)).head? with
  | none => simp
  | some w => by_cases hspared : w.spared = some id.kind <;> simp [Standing.after, hspared]

theorem write?_eq_some {sid : Sid} {p : Request × Item} {w : Write} (h : write? sid p = some w) :
    ∃ m, written? p.1 p.2 = some m ∧ m.sid = sid ∧ w = { id := m.id, spared := spared? p.2 m } := by
  obtain ⟨m, hm, hw⟩ := Option.bind_eq_some_iff.mp h
  by_cases hsid : m.sid = sid
  · rw [if_pos hsid] at hw
    exact ⟨m, hm, hsid, (Option.some.inj hw).symm⟩
  · rw [if_neg hsid] at hw
    cases hw

theorem write?_of_written? {p : Request × Item} {m : IdMapping}
    (hm : written? p.1 p.2 = some m) :
    write? m.sid p = some { id := m.id, spared := spared? p.2 m } := by
  rw [write?, hm, Option.bind_some, if_pos rfl]

theorem write?_eq_none {sid : Sid} {p : Request × Item} {m : IdMapping}
    (h : write? sid p = none) (hm : written? p.1 p.2 = some m) : m.sid ≠ sid := by
  intro hsid
  rw [write?, hm, Option.bind_some, if_pos hsid] at h
  cases h

/-- What is known of an item that is written: its ids stand in the book, and it is written in
the direction to unix, and in both for a minted id. -/
structure Sound (book : Book) (p : Request × Item) : Prop where
  accounts : book.Accounts p.1 p.2
  toUnix : ∀ m, written? p.1 p.2 = some m → m.direction.isToUnix = true
  both : ∀ m, written? p.1 p.2 = some m → isEphemeral m.id.number = true → m.direction = .both

section Record

variable {book : Book} {settings : Settings} {now : Int} {cache : Cache} {p : Request × Item}
  {w : Write} {sid : Sid} {id : UnixId} {st : Standing}

theorem Sound.keeps (h : Sound book p) (hkeyed : cache.Keyed) (hways : cache.WaysBack) :
    (record settings now p.1 p.2 cache).Keyed ∧ (record settings now p.1 p.2 cache).WaysBack :=
  ⟨Cache.Keyed.lasting.recordSid (fun _ _ => trivial) hkeyed,
    Cache.WaysBack.lasting.recordSid h.both hways⟩

/-- An item that writes nothing for the SID leaves its ids alone: no other SID has them. -/
theorem Sound.stands_of_none (hp : Sound book p) (hsingle : ∀ sid', book sid' id → sid' = sid)
    (heph : isEphemeral id.number = true) (hw : write? sid p = none)
    (h : cache.Stands sid id st) : (record settings now p.1 p.2 cache).Stands sid id st := by
  rcases record_cases settings now p.1 p.2 cache with ⟨-, hsame⟩ | ⟨m, hm, hwrote⟩
  · rw [hsame]
    exact h
  · have hsid : m.sid ≠ sid := write?_eq_none hw hm
    have hid : m.id ≠ id := by
      rintro rfl
      exact hsid (hsingle m.sid (hp.accounts.written hm heph))
    exact h.wrote_of_ne hwrote hsid hid

/-- An item that writes the id makes it lead to its SID. -/
theorem Sound.stands_of_self (hp : Sound book p) (hw : write? sid p = some w) (hid : w.id = id) :
    (record settings now p.1 p.2 cache).Stands sid id .leading := by
  obtain ⟨m, hm, rfl, rfl⟩ := write?_eq_some hw
  obtain rfl := hid
  exact Cache.stands_wrote_self (wrote_record settings now cache hm) (hp.toUnix m hm)

/-- An item that writes another id for the SID spares the row or takes it. -/
theorem Sound.stands_of_other (hp : Sound book p) (hkeyed : cache.Keyed) (hways : cache.WaysBack)
    (heph : isEphemeral id.number = true) (hw : write? sid p = some w) (hid : w.id ≠ id)
    (h : cache.Stands sid id st) :
    (record settings now p.1 p.2 cache).Stands sid id (st.after id w) := by
  obtain ⟨m, hm, rfl, rfl⟩ := write?_eq_some hw
  have hunix := hp.toUnix m hm
  have hids : (record settings now p.1 p.2 cache).ids = ((makeRoom p.2 m cache).putId m).ids :=
    ids_record cache hm
  cases st with
  | lost =>
      exact h.lost_wrote (wrote_record settings now cache hm) fun hcontra => hid hcontra.2
  | backOnly =>
      refine Cache.Stands.congr (Cache.Stands.backOnly_putId ?_ hid) hids
      unfold makeRoom
      split
      · exact h.backOnly_supersede _ _
      · exact h
  | leading =>
      suffices hstands : ((makeRoom p.2 m cache).putId m).Stands m.sid id
          (Standing.leading.after id { id := m.id, spared := spared? p.2 m }) from
        hstands.congr hids
      unfold makeRoom Standing.after
      cases hspared : spared? p.2 m with
      | none => exact h.leading_putId hkeyed hways heph hid hunix
      | some kind =>
          by_cases hkind : kind = id.kind
          · subst hkind
            simp only [if_pos]
            exact (h.leading_supersede heph).backOnly_putId hid
          · have hne : ¬ some kind = some id.kind := fun hcontra => hkind (Option.some.inj hcontra)
            simp only [if_neg hne]
            exact (h.leading_supersede_of_ne heph hkind).leading_putId (hkeyed.supersede _ _)
              (Cache.WaysBack.lasting.supersede hways) heph hid hunix

end Record

/-- **Where an id stands after a batch.** -/
theorem stands_recordAll {book : Book} {settings : Settings} {now : Int} {cache : Cache}
    {sid : Sid} {id : UnixId} {items : List (Request × Item)}
    (hitems : ∀ p ∈ items, Sound book p) (hsingle : ∀ sid', book sid' id → sid' = sid)
    (hkeyed : cache.Keyed) (hways : cache.WaysBack) (heph : isEphemeral id.number = true)
    (hstart : cache.Stands sid id .leading ∨ ∃ w ∈ writes sid items, w.id = id) :
    (recordAll settings now items cache).Stands sid id (standing id (writes sid items)) := by
  induction items using List.reverseRecOn with
  | nil =>
      rcases hstart with hleads | ⟨w, hw, -⟩
      · exact hleads
      · cases hw
  | append_singleton items p ih =>
      have hp : Sound book p := hitems p (by simp)
      have hitems' : ∀ q ∈ items, Sound book q :=
        fun q hq => hitems q (List.mem_append_left _ hq)
      have hkept : (recordAll settings now items cache).Keyed ∧
          (recordAll settings now items cache).WaysBack :=
        recordAll_inv (fun c => c.Keyed ∧ c.WaysBack)
          (fun hq hc => (hitems' _ hq).keeps hc.1 hc.2) ⟨hkeyed, hways⟩
      rw [writes_concat] at hstart ⊢
      rw [recordAll_concat]
      cases hw : write? sid p with
      | none =>
          simp only [hw, Option.toList_none, List.append_nil] at hstart ⊢
          exact hp.stands_of_none hsingle heph hw (ih hitems' hstart)
      | some w =>
          simp only [hw, Option.toList_some] at hstart ⊢
          by_cases hid : w.id = id
          · rw [standing_append_self hid]
            exact hp.stands_of_self hw hid
          · rw [standing_append hid]
            have hbefore : cache.Stands sid id .leading ∨ ∃ w ∈ writes sid items, w.id = id := by
              refine hstart.imp_right ?_
              rintro ⟨w', hw', hid'⟩
              rcases List.mem_append.mp hw' with hmem | hlast
              · exact ⟨w', hmem, hid'⟩
              · obtain rfl := List.mem_singleton.mp hlast
                exact absurd hid' hid
            exact hp.stands_of_other hkept.1 hkept.2 heph hw hid (ih hitems' hbefore)

/-- An item is answered a minted id that leads to its SID already, or that is written for it. -/
theorem Outcome.leads_or_writes {δ α : Type} {e : Engine δ α} {rules : RuleTable}
    {cache : Cache} {now : Int} {found : Found} {p : Request × Item} {m m' : Mint α} {sid : Sid}
    {id : UnixId} (h : Outcome e rules cache now found p.1 m p.2 m') (hlocal : e.names.IsLocal)
    (hrows : cache.WellFormed) (hsid : p.1.id = .sid sid) (hok : p.2.answer.isSuccess = true)
    (hid : p.2.answer.id = some (.unix id)) (heph : isEphemeral id.number = true)
    (hordinary : WellKnown.ofId id = none) :
    cache.Stands sid id .leading ∨ ∃ w, write? sid p = some w ∧ w.id = id := by
  obtain ⟨request, item⟩ := p
  cases h with
  | failed hfailed =>
      rw [hfailed] at hok
      cases hok
  | exhausted hfailed _ =>
      rw [hfailed] at hok
      cases hok
  | reserved _ hreserved =>
      cases hid
      exact absurd hordinary (WellKnown.maps_of_idOf hreserved).ofId_ne_none
  | cached hsid' hhit _ =>
      obtain rfl := Identity.sid.inj (hsid.symm.trans hsid')
      cases hid
      obtain ⟨row, hrow, hties, hanswers, -⟩ := hrows.row_of_idOf hhit
      exact Or.inl ⟨row, hrow, hties, (IdRow.answersSid_iff.mp hanswers).1⟩
  | ruled _ _ _ _ hmapped =>
      cases hid
      rw [RuleTable.mapsLocally hlocal rules hmapped] at heph
      cases heph
  | localAccount _ _ _ hdecode =>
      cases hid
      rw [LocalAccount.isEphemeral_of_ofRid? (LocalAccount.ofRid?_of_decode hdecode)] at heph
      cases heph
  | minted _ _ _ _ =>
      have hwrites := write?_of_written? (written?_of_resolved rfl hsid hid hok)
      exact Or.inr ⟨_, hwrites, rfl⟩

end SidToId

section Batch

variable {δ : Type} {e : Engine δ SequentialIds} {s : EngineState δ SequentialIds} {now : Int}
  {requests : List Request} {reply : Reply} {floor : IdKind → Nat} {book : Book} {sid : Sid}
  {id : UnixId}

/-- The items of a batch that keeps its accounts are sound. -/
theorem SidToId.sound_of_accounts (hlocal : e.names.IsLocal)
    (haccounts : ∀ p ∈ requests.zip (sidItems e now requests s), book.Accounts p.1 p.2) :
    ∀ p ∈ requests.zip (sidItems e now requests s), Sound book p := by
  intro p hp
  obtain ⟨_, _, houtcome⟩ := exists_outcome hp
  exact
    { accounts := haccounts p hp
      toUnix := fun m hm => (direction_of_written hlocal houtcome hm).1
      both := fun m hm => (direction_of_written hlocal houtcome hm).2 }

/-- **Where an id that a batch answers stands when the batch is over.** -/
theorem stands_mapSids (he : e.authority = SequentialIds.authority) (hlocal : e.names.IsLocal)
    (hledger : Ledger floor book s) (hkeyed : s.cache.Keyed) (hways : s.cache.WaysBack)
    (hreply : reply ∈ replies requests (e.mapSids now requests s).1)
    (hgives : reply.GivesId sid id) (heph : isEphemeral id.number = true)
    (hordinary : WellKnown.ofId id = none) :
    (e.mapSids now requests s).2.cache.Stands sid id
      (SidToId.standing id (SidToId.writes sid (requests.zip (sidItems e now requests s)))) := by
  obtain ⟨book', -, hledger', haccounts⟩ :=
    hledger.batch he (RuleTable.mapsLocally hlocal _) now requests
  rw [answers_mapSids] at hreply
  obtain ⟨p, hp, rfl⟩ := mem_replies_map hreply
  obtain ⟨hsid, hok, hid⟩ := hgives
  obtain ⟨_, _, houtcome⟩ := exists_outcome hp
  have hstart : s.cache.Stands sid id .leading ∨
      ∃ w ∈ SidToId.writes sid (requests.zip (sidItems e now requests s)), w.id = id := by
    rcases houtcome.leads_or_writes hlocal hkeyed.wellFormed hsid hok hid heph hordinary with
      hleads | ⟨w, hw, hwid⟩
    · exact Or.inl hleads
    · exact Or.inr ⟨w, List.mem_filterMap.mpr ⟨p, hp, hw⟩, hwid⟩
  -- The book has the id for this SID and no other.
  have hsingle : ∀ sid', book' sid' id → sid' = sid := fun _ hentry =>
    hledger'.kept.single hentry
      ((haccounts p hp).book_of_ordinary hsid hok hid heph hordinary)
  rw [mapSids_eq]
  exact SidToId.stands_recordAll (SidToId.sound_of_accounts hlocal haccounts) hsingle hkeyed hways
    heph hstart

end Batch

/-! ### Asking for the SID -/

section Back

variable {δ α : Type} {e : Engine δ α} {s : EngineState δ α} {now : Int} {request : Request}
  {sid : Sid} {id : UnixId} {st : Standing}

/-- A row with the minted id answers for it. -/
theorem Cache.Keyed.gives_of_ties (h : s.cache.Keyed) (hways : s.cache.WaysBack)
    (heph : isEphemeral id.number = true) (hordinary : WellKnown.ofId id = none) {row : IdRow}
    (hrow : row ∈ s.cache.ids) (hties : row.Ties sid id) (hid : request.id = .unix id)
    (hwanted : request.wanted = .sid) :
    ∃ reply ∈ replies [request] (e.mapIds now [request] s).1, reply.GivesSid id sid := by
  have hanswers := hways.answersId heph hrow hties now
  have hanswer := answer_of_sidOf e hordinary (h.sidOf_eq hrow hties hanswers) hid hwanted
  refine ⟨_, List.mem_singleton_self _, hid, ?_, ?_⟩
  · change (e.mapId now request s).1.isSuccess = true
    rw [hanswer]
    rfl
  · change (e.mapId now request s).1.id = _
    rw [hanswer]

/-- Nothing but a row answers for a minted id that is not reserved. -/
theorem IdToSid.Outcome.exists_row {cache : Cache} {rules : RuleTable} {d : δ} {item : Item}
    (h : Outcome e cache rules now request d item) (hrows : cache.WellFormed)
    (heph : isEphemeral id.number = true) (hordinary : WellKnown.ofId id = none)
    (hid : request.id = .unix id) (hok : item.answer.isSuccess = true)
    (hsid : item.answer.id = some (.sid sid)) : ∃ row ∈ cache.ids, row.Ties sid id := by
  cases h with
  | failed hfailed =>
      rw [hfailed] at hok
      cases hok
  | reserved hid' hentry =>
      obtain rfl := Identity.unix.inj (hid.symm.trans hid')
      rw [hordinary] at hentry
      cases hentry
  | cached hid' _ hhit =>
      obtain rfl := Identity.unix.inj (hid.symm.trans hid')
      obtain ⟨row, hrow, hties, -, -⟩ := hrows.row_of_sidOf hhit
      cases hsid
      exact ⟨row, hrow, hties⟩
  | ruled hid' _ hminted _ _ =>
      obtain rfl := Identity.unix.inj (hid.symm.trans hid')
      rw [heph] at hminted
      cases hminted
  | localAccount hid' _ hminted _ _ =>
      obtain rfl := Identity.unix.inj (hid.symm.trans hid')
      rw [heph] at hminted
      cases hminted

/-- A minted id is answered its SID if it has a row, and only then. -/
theorem Cache.Stands.gives_iff (h : s.cache.Stands sid id st) (hkeyed : s.cache.Keyed)
    (hways : s.cache.WaysBack) (heph : isEphemeral id.number = true)
    (hordinary : WellKnown.ofId id = none) (hid : request.id = .unix id)
    (hwanted : request.wanted = .sid) :
    (∃ reply ∈ replies [request] (e.mapIds now [request] s).1, reply.GivesSid id sid) ↔
      st ≠ .lost := by
  cases st with
  | leading =>
      obtain ⟨row, hrow, hties, -⟩ := h
      exact iff_of_true (hkeyed.gives_of_ties hways heph hordinary hrow hties hid hwanted)
        (by decide)
  | backOnly =>
      obtain ⟨row, hrow, hties, -⟩ := h
      exact iff_of_true (hkeyed.gives_of_ties hways heph hordinary hrow hties hid hwanted)
        (by decide)
  | lost =>
      refine iff_of_false ?_ (by decide)
      rintro ⟨reply, hreply, -, hok, hsid⟩
      obtain rfl := List.mem_singleton.mp hreply
      have houtcome := IdToSid.outcome e s.cache s.rules now request s.directory
      obtain ⟨row, hrow, hties⟩ :=
        houtcome.exists_row hkeyed.wellFormed heph hordinary hid hok hsid
      exact h row hrow hties

end Back

/--
**A minted id maps back unless the same batch took its row.**

Whatever was asked before, and whenever the SID is asked for afterwards: an id that a batch
answers leads back to its SID if and only if, of the other ids that the batch wrote for the
SID after it, the first one spared its row.
-/
theorem maps_back_iff_not_displaced {δ : Type} (e : Engine δ SequentialIds)
    (he : e.authority = SequentialIds.authority) (hlocal : e.names.IsLocal) (rules : RuleTable)
    (directory : δ) (ids : SequentialIds)
    (habove : ∀ kind, (WellKnown.maxNumber kind).toNat < ids.next kind)
    (calls : List (Int × Call)) (s : EngineState δ SequentialIds)
    (hs : (e.run calls (.fresh rules directory ids)).2 = s) (now : Int) (requests : List Request)
    (reply : Reply) (hreply : reply ∈ replies requests (e.mapSids now requests s).1) (sid : Sid)
    (id : UnixId) (hgives : reply.GivesId sid id) (heph : isEphemeral id.number = true)
    (hordinary : WellKnown.ofId id = none) (later : Int) (back : Request)
    (hback : back.id = .unix id) (hwanted : back.wanted = .sid) :
    (∃ reply' ∈ replies [back] (e.mapIds later [back] (e.mapSids now requests s).2).1,
      reply'.GivesSid id sid) ↔
    SidToId.displaced sid id (requests.zip (sidItems e now requests s)) = false := by
  subst hs
  obtain ⟨book, -, hledger, -⟩ :=
    (Ledger.start WellKnown.firstFree rules directory habove).run he hlocal calls
  have hkeyed : (e.run calls (.fresh rules directory ids)).2.cache.Keyed :=
    Cache.Keyed.lasting.run e.writes_anything .empty calls
  have hways : (e.run calls (.fresh rules directory ids)).2.cache.WaysBack :=
    Cache.WaysBack.lasting.run (Engine.writes_both hlocal) Cache.WaysBack.lasting.empty calls
  generalize (e.run calls (.fresh rules directory ids)).2 = s at hledger hkeyed hways hreply ⊢
  have hstands := stands_mapSids he hlocal hledger hkeyed hways hreply hgives heph hordinary
  have hkeyed' : (e.mapSids now requests s).2.cache.Keyed :=
    Cache.Keyed.lasting.mapSids e.writes_anything hkeyed requests
  have hways' : (e.mapSids now requests s).2.cache.WaysBack :=
    Cache.WaysBack.lasting.mapSids (Engine.writes_both hlocal) hways requests
  rw [hstands.gives_iff hkeyed' hways' heph hordinary hback hwanted, ne_eq,
    SidToId.standing_eq_lost_iff, Bool.not_eq_true]

/-- A SID that is asked for twice, with another one in between, is what its id maps back to. -/
theorem maps_back_among_siblings :
    let sid : Sid := { base := "S-1-5-21-7", rid := 1104 }
    let id : UnixId := { kind := .uid, number := 0x80000001 }
    let there : Request := { id := .sid sid, wanted := .uid }
    let sibling : Request := { id := .sid { sid with rid := 513 }, wanted := .gid }
    let back : Request := { id := .unix id, wanted := .sid }
    let s : EngineState Unit SequentialIds := .fresh {} () .aboveReserved
    let batch := Engine.bare.mapSids 0 [there, sibling, there] s
    ∃ reply ∈ replies [back] (Engine.bare.mapIds 1 [back] batch.2).1, reply.GivesSid id sid := by
  intro sid id there sibling back s batch
  let gid : UnixId := { kind := .gid, number := 0x80000002 }
  let first : Reply := { asked := .sid sid, answer := { id := some (.unix id), failure := none } }
  let second : Reply :=
    { asked := sibling.id, answer := { id := some (.unix gid), failure := none } }
  have hreplies : replies [there, sibling, there] batch.1 = [first, second, first] := by
    decide +kernel
  have hfirst : first ∈ replies [there, sibling, there] batch.1 := by
    rw [hreplies]
    exact List.mem_cons_self ..
  exact (maps_back_iff_not_displaced Engine.bare rfl Engine.bare_isLocal {} () .aboveReserved
    (fun kind => by cases kind <;> exact Nat.lt_succ_self _) [] s rfl 0 [there, sibling, there]
    first hfirst sid id ⟨rfl, rfl, rfl⟩ rfl (by decide +kernel) 1 back rfl rfl).mpr
    (by decide +kernel)

/-- A SID that is asked for as a user and as a group in one batch has only one way back: the
row of the gid took the place of the uid's. -/
theorem no_way_back_after_both_kinds :
    let sid : Sid := { base := "S-1-5-21-7", rid := 1104 }
    let id : UnixId := { kind := .uid, number := 0x80000001 }
    let requests : List Request :=
      [{ id := .sid sid, wanted := .uid }, { id := .sid sid, wanted := .gid }]
    let back : Request := { id := .unix id, wanted := .sid }
    let s : EngineState Unit SequentialIds := .fresh {} () .aboveReserved
    let batch := Engine.bare.mapSids 0 requests s
    (∃ reply ∈ replies requests batch.1, reply.GivesId sid id) ∧
      isEphemeral id.number = true ∧ WellKnown.ofId id = none ∧
      ¬ ∃ reply ∈ replies [back] (Engine.bare.mapIds 0 [back] batch.2).1,
        reply.GivesSid id sid := by
  intro sid id requests back s batch
  let gid : UnixId := { kind := .gid, number := 0x80000002 }
  have hreplies : replies requests batch.1 =
      [{ asked := .sid sid, answer := { id := some (.unix id), failure := none } },
       { asked := .sid sid, answer := { id := some (.unix gid), failure := none } }] := by
    decide +kernel
  have hback : replies [back] (Engine.bare.mapIds 0 [back] batch.2).1 =
      [{ asked := .unix id, answer := .failed .denied }] := by
    decide +kernel
  refine ⟨?_, rfl, by decide +kernel, ?_⟩
  · rw [hreplies]
    exact ⟨_, List.mem_cons_self .., rfl, rfl, rfl⟩
  · rw [hback]
    rintro ⟨reply, hreply, -, hok, -⟩
    obtain rfl := List.mem_singleton.mp hreply
    cases hok

end IdentityMap
