/-
When a deny rule is honoured.

A rule that holds in both directions is cached in both when it is applied in one, although
in the other direction a deny may come first.  From then on the cache answers before the
deny is looked at.

The main theorem lists every way around a deny, and says that there is no other.  For a
SID these are: a unix id that is mapped to it by a rule of both directions; a name in the
cache that is spelled so that a `*` before the deny maps it; and, for a SID of this host,
a directory that cannot be reached, for then the SID is taken for a local account.  For a
unix id they are: a SID that is mapped to it in both directions, and a `*` before the deny
that finds an account after all, since the cache knows names that the directory does not.

So a deny that comes first is safe in a store in which no rule applies in both directions,
unless it is for a SID of this host.
-/
import IdentityMap.Proofs.Mapping.Names
import IdentityMap.Proofs.Mapping.Single
import IdentityMap.Proofs.Rule.Deny

namespace IdentityMap

open Directory (Fixed)

/-! ### Denied SIDs -/

/-- The rules map the SID under the name that the cache has for it. -/
def Engine.MapsCachedName {δ α : Type} (e : Engine δ α) (sid : Sid) (s : EngineState δ α) : Prop :=
  ∃ now hit found, s.cache.nameOf sid now = .ok hit ∧
    Rule.mapToUnix s.rules e.names e.settings.domain? hit.name hit.domain hit.type.kind = .ok found

section Sids

variable {α : Type} {e : Engine Fixed.State α} {fixed : Fixed} {rules : RuleTable} {sid : Sid}
  {before : List Reply} {s : EngineState Fixed.State α} {now : Int} {requests : List Request}
  {request : Request} {item : Item}

/-- The unix id was mapped to the SID, and the answer holds from Windows to unix, too. -/
def Reply.AlsoToUnix (reply : Reply) (sid : Sid) (id : UnixId) : Prop :=
  reply.GivesSid id sid ∧ reply.answer.direction.isToUnix = true

/-- Some reply so far did that. -/
def SaidToUnix (before : List Reply) (sid : Sid) (id : UnixId) : Prop :=
  ∃ reply ∈ before, reply.AlsoToUnix sid id

theorem SaidToUnix.append {id : UnixId} (h : SaidToUnix before sid id) (later : List Reply) :
    SaidToUnix (before ++ later) sid id := by
  obtain ⟨reply, hreply, hcross⟩ := h
  exact ⟨reply, List.mem_append_left _ hreply, hcross⟩

/-- The directory knows the SID, and the rule that decides about its name is a deny. -/
structure DeniedSid (e : Engine Fixed.State α) (fixed : Fixed) (rules : RuleTable) (sid : Sid) :
    Prop where
  ordinary : WellKnown.ofSid sid = none
  listed : ∃ entry ∈ fixed.entries, entry.sid = sid
  denied : ∀ entry ∈ fixed.entries, entry.sid = sid →
    Rule.DeniesUnix e.names entry.type.kind entry.name
      (rules.unixCandidates entry.type.kind.isUser entry.name entry.domain
        (Rule.isDefaultDomain e.settings.domain? entry.domain))

/-- The invariant of a run: only what unix ids were answered leads from the SID. -/
structure SidGuard (sid : Sid) (before : List Reply) (s : EngineState Fixed.State α) : Prop where
  rows : s.cache.LeadsTo sid (SaidToUnix before sid)
  answers : ∀ reply ∈ before, reply.asked = .sid sid → reply.answer.isSuccess = true →
    ∃ id, SaidToUnix before sid id

/-- Whatever name an item about the SID has, the rules answer for it. -/
theorem DeniedSid.of_named (hdirectory : e.directory = fixed.client)
    (h : DeniedSid e fixed s.rules sid) (hmaps : ¬ e.MapsCachedName sid s)
    (hnames : s.cache.NamesFrom fixed sid) (hname : request.givenName? = none)
    (hsid : request.id = .sid sid) {name : WindowsName} {source : NameSource} {kind : IdKind}
    (hnamed : SidToId.Named s.cache now (batchFound e now requests s).1 request sid name source)
    (hkind : name.type.verify request.wanted = .ok kind) :
    ∃ failure, failure ≠ .notFound ∧
      Rule.mapToUnix s.rules e.names e.settings.domain? name.name (some name.domain) kind
        = .error failure := by
  obtain ⟨rfl, -⟩ := AccountType.verify_ok hkind
  cases hnamed with
  | known hknown =>
      cases hknown with
      | given hgiven _ =>
          rw [hname] at hgiven
          cases hgiven
      | reserved hreserved =>
          rw [h.ordinary] at hreserved
          cases hreserved
      | cached hhit =>
          obtain ⟨entry, hentry, hsid, name, domain, hspelled, rfl⟩ := hnames.nameOf hhit
          rw [Fixed.isNamed, Bool.and_eq_true] at hspelled
          have hdenied := h.denied entry hentry hsid
          rw [Rule.isDefaultDomain_congr hspelled.2,
            Rule.unixCandidates_congr hspelled.1 hspelled.2] at hdenied
          cases hrules : Rule.mapToUnix s.rules e.names e.settings.domain? name (some domain)
              entry.type.kind with
          | ok found => exact absurd ⟨now, _, found, hhit, hrules⟩ hmaps
          | error failure =>
              refine ⟨failure, ?_, hrules⟩
              rintro rfl
              exact hdenied.tryUnix_ne name hrules
  | @directory entry hanswer =>
      rw [batchFound, hdirectory] at hanswer
      have hresolve := Fixed.entry_of_answerAt (SidToId.answerFor_round hsid hanswer).symm
      obtain ⟨hentry, hsid⟩ := Fixed.entry_of_sid hresolve
      exact ⟨.denied, (by decide), (h.denied entry hentry hsid).tryUnix_eq⟩

/-- An item about the SID only succeeds if the cache leads from the SID. -/
theorem DeniedSid.outcome (hdirectory : e.directory = fixed.client)
    (h : DeniedSid e fixed s.rules sid) (hmaps : ¬ e.MapsCachedName sid s)
    (hreach : e.settings.IsOwn sid → fixed.CanReach s.directory.outages sid)
    (hnames : s.cache.NamesFrom fixed sid) (hguard : SidGuard sid before s)
    (hmem : request ∈ requests) (hname : request.givenName? = none) (hsid : request.id = .sid sid)
    {m m' : Mint α} (houtcome : SidToId.Outcome e s.rules s.cache now
      (batchFound e now requests s).1 request m item m') (hok : item.answer.isSuccess = true) :
    item.state = .cacheHit ∧ ∃ id, SaidToUnix before sid id := by
  have hawaited : ∀ {reason},
      SidToId.Nameless s.cache now (batchFound e now requests s).1 request sid reason →
      fixed.answerAt s.directory.outages (.ofSid sid) = .error reason := by
    rintro reason ⟨hawaits, hunknown⟩
    rw [batchFound, hdirectory, SidToId.answerFor_awaited hmem hsid hawaits] at hunknown
    rcases hunknown with hanswer | ⟨hanswer, -⟩
    · exact Option.some.inj hanswer
    · cases hanswer
  cases houtcome with
  | failed hfailed | exhausted hfailed _ =>
      rw [hfailed] at hok
      cases hok
  | reserved hsid' hreserved =>
      cases hsid'.symm.trans hsid
      rw [WellKnown.idOf_of_ordinary h.ordinary] at hreserved
      cases hreserved
  | cached hsid' hhit _ =>
      cases hsid'.symm.trans hsid
      obtain ⟨row, hrow, hanswers, -, -⟩ := Cache.idOf_ok hhit
      obtain ⟨hunix, habout, -⟩ := IdRow.answersSid_iff.mp hanswers
      obtain ⟨id, hreply, -⟩ := hguard.rows row hrow habout hunix
      exact ⟨rfl, id, hreply⟩
  | ruled hsid' hnamed _ hkind hmapped =>
      cases hsid'.symm.trans hsid
      obtain ⟨failure, -, hrules⟩ :=
        h.of_named hdirectory hmaps hnames hname hsid hnamed hkind
      rw [hmapped] at hrules
      cases hrules
  | localAccount hsid' hnameless hmachine hdecode =>
      cases hsid'.symm.trans hsid
      exact absurd (hawaited hnameless) (Fixed.answerAt_ne_error h.listed
        (hreach (LocalAccount.isOwn_of_decode hmachine hdecode)))
  | minted hsid' hunruled _ _ =>
      cases hsid'.symm.trans hsid
      cases hunruled with
      | named hnamed hkind hrules =>
          obtain ⟨failure, hne, hfailed⟩ :=
            h.of_named hdirectory hmaps hnames hname hsid hnamed hkind
          rw [hrules] at hfailed
          exact absurd (Except.error.inj hfailed).symm hne
      | nameless hnameless _ =>
          exact absurd (hawaited hnameless) (Fixed.answerAt_ne_notFound h.listed _)

/-- A batch of SIDs writes nothing about the SID. -/
theorem SidGuard.mapSids (hdirectory : e.directory = fixed.client)
    (h : DeniedSid e fixed s.rules sid) (hmaps : ¬ e.MapsCachedName sid s)
    (hreach : e.settings.IsOwn sid → fixed.CanReach s.directory.outages sid)
    (hnames : s.cache.NamesFrom fixed sid) (hguard : SidGuard sid before s) (now : Int)
    (hnone : ∀ request ∈ requests, request.givenName? = none) :
    SidGuard sid (before ++ replies requests (e.mapSids now requests s).1)
      (e.mapSids now requests s).2 := by
  have hitems : ∀ p ∈ requests.zip (settled e s.rules s.cache now
      (batchFound e now requests s).1 requests { allocator := s.allocator }).1,
      p.1.id = .sid sid → p.2.answer.isSuccess = true →
        p.2.state = .cacheHit ∧ ∃ id, SaidToUnix before sid id :=
    settled_forall
      (fun request item => request.id = .sid sid → item.answer.isSuccess = true →
        item.state = .cacheHit ∧ ∃ id, SaidToUnix before sid id)
      (fun hmem houtcome hsid hok =>
        h.outcome hdirectory hmaps hreach hnames hguard hmem (hnone _ hmem) hsid houtcome hok)
      { allocator := s.allocator }
  refine ⟨?_, ?_⟩
  · have hrows := hguard.rows.mono fun id hsaid =>
      hsaid.append (replies requests (e.mapSids now requests s).1)
    rw [mapSids_eq] at hrows ⊢
    refine recordAll_inv (fun c => c.LeadsTo sid (SaidToUnix _ sid)) (fun {c p} hp hc => ?_) hrows
    rcases SidToId.record_cases e.settings now p.1 p.2 c with ⟨-, hsame⟩ | ⟨m, hm, hwrote⟩
    · rw [hsame]
      exact hc
    · refine hc.wrote hwrote fun hsid _ => ?_
      obtain ⟨resolution, hstate, hasked, -, hok, -⟩ := SidToId.written?_eq_some hm
      rw [hsid] at hasked
      obtain ⟨hhit, -⟩ := hitems p hp hasked hok
      cases hstate.symm.trans hhit
  · intro reply hreply hasked hok
    have hbefore : ∃ id, SaidToUnix before sid id := by
      rcases List.mem_append.mp hreply with hreply | hreply
      · exact hguard.answers reply hreply hasked hok
      · rw [mapSids_eq] at hreply
        obtain ⟨p, hp, rfl⟩ := mem_replies_map hreply
        exact (hitems p hp hasked hok).2
    obtain ⟨id, hsaid⟩ := hbefore
    exact ⟨id, hsaid.append _⟩

/-- A unix id that is mapped to the SID is the only thing that leads from it. -/
theorem SidGuard.mapId (e : Engine Fixed.State α) (hguard : SidGuard sid before s) (now : Int)
    (request : Request) :
    SidGuard sid (before ++ [{ asked := request.id, answer := (e.mapId now request s).1 }])
      (e.mapId now request s).2 := by
  have houtcome := IdToSid.outcome e s.cache s.rules now request s.directory
  simp only [Engine.mapId]
  generalize (IdToSid.resolve e s.cache s.rules now request s.directory).1 = item at houtcome ⊢
  refine ⟨?_, ?_⟩
  · have hrows := hguard.rows.mono fun id hsaid =>
      hsaid.append [{ asked := request.id, answer := item.answer }]
    rcases IdToSid.record_cases e.settings e.names now request item s.cache with
      ⟨-, hsame⟩ | ⟨m, hm, hwrote⟩
    · rw [hsame]
      exact hrows
    · refine hrows.wrote hwrote fun hsid hunix => ?_
      obtain ⟨resolution, -, hasked, hid, hok, heq⟩ := IdToSid.written?_eq_some hm
      refine ⟨_, List.mem_append_right _ (List.mem_singleton_self _), ⟨hasked, hok, ?_⟩, ?_⟩
      · rw [← hsid]
        exact hid
      · rw [heq] at hunix
        exact hunix
  · intro reply hreply hasked hok
    rcases List.mem_append.mp hreply with hreply | hreply
    · obtain ⟨id, hsaid⟩ := hguard.answers reply hreply hasked hok
      exact ⟨id, hsaid.append _⟩
    · obtain rfl := List.mem_singleton.mp hreply
      obtain ⟨id, -, hid, -⟩ := houtcome.asked hok
      cases hid.symm.trans hasked

/-- In every run, a SID that is denied only succeeds after a unix id was mapped to it, unless
the rules map it under another spelling or the directory cannot be asked. -/
theorem DeniedSid.guard (hdirectory : e.directory = fixed.client) {directory : Fixed.State} {a : α}
    (h : DeniedSid e fixed rules sid)
    (hmaps : e.NeverIn (.fresh rules directory a) (e.MapsCachedName sid))
    (hreach : e.settings.IsOwn sid → fixed.CanReach directory.outages sid)
    (htrace : Trace e (.fresh rules directory a) before s) : SidGuard sid before s := by
  induction htrace with
  | start =>
      refine ⟨?_, ?_⟩
      · intro row hrow
        cases hrow
      · intro reply hreply
        cases hreply
  | @mapSids _ s htrace now _ hnames ih =>
      have hsame : DeniedSid e fixed s.rules sid := by
        rw [htrace.rules]
        exact h
      exact ih.mapSids hdirectory hsame (Engine.neverIn_iff.mp hmaps _ _ htrace)
        (fun hown => (hreach hown).mono (htrace.outages_le hdirectory))
        (htrace.namesFrom hdirectory sid) now hnames
  | mapId _ now _ ih => exact ih.mapId e now _

end Sids

/-! ### Ways around a denied SID -/

section Sids

variable {δ α : Type} {e : Engine δ α} {start s : EngineState δ α} {before : List Reply} {sid : Sid}
  {id : UnixId} {now : Int}

/-- A unix id that is mapped to the SID in both directions leaves a row that leads from it. -/
theorem exists_row_of_alsoToUnix (h : s.cache.WellFormed) (hordinary : WellKnown.ofSid sid = none)
    {request : Request}
    (hcross : ({ asked := request.id, answer := (e.mapId now request s).1 } : Reply).AlsoToUnix sid
      id) :
    ∃ row ∈ (e.mapId now request s).2.cache.ids, ∃ t, row.answersSid sid t = true := by
  obtain ⟨⟨hasked, hok, hid⟩, hunix⟩ := hcross
  have houtcome := IdToSid.outcome e s.cache s.rules now request s.directory
  simp only [Engine.mapId] at hasked hok hid hunix ⊢
  generalize (IdToSid.resolve e s.cache s.rules now request s.directory).1 = item at *
  have hresolved : ∀ {resolution}, item.state = .resolved resolution →
      ∃ row ∈ (IdToSid.record e.settings e.names now request item s.cache).ids,
        ∃ t, row.answersSid sid t = true := by
    intro resolution hstate
    have hm : IdToSid.written? e.names request item = _ :=
      IdToSid.written?_of_resolved hstate hasked hid hok
    rcases IdToSid.record_cases e.settings e.names now request item s.cache with
      ⟨hnone, -⟩ | ⟨m, hm', hwrote⟩
    · rw [hm] at hnone
      cases hnone
    · rw [hm] at hm'
      cases hm'
      exact ⟨_, hwrote.written, _, IdMapping.answersSid_row _ hunix⟩
  cases houtcome with
  | failed hfailed =>
      rw [hfailed] at hok
      cases hok
  | @reserved _ entry _ hentry =>
      cases hid
      exact absurd hordinary (WellKnown.ofSid_ne_none hentry)
  | cached _ _ hhit =>
      cases hid
      obtain ⟨row, hrow, -, -, hanswers⟩ := h.answersSid_of_sidOf hhit hunix
      exact ⟨row, hrow, now, hanswers⟩
  | ruled _ _ _ _ _ => exact hresolved rfl
  | localAccount _ _ _ _ _ => exact hresolved rfl

/-- Some run of batches without names answers for the identity. -/
def Engine.CanAnswer (e : Engine δ α) (start : EngineState δ α) (asked : Identity) : Prop :=
  ∃ before s, Trace e start before s ∧
    ∃ reply ∈ before, reply.asked = asked ∧ reply.answer.isSuccess = true

theorem Engine.not_canAnswer_iff {asked : Identity} :
    ¬ e.CanAnswer start asked ↔
      e.Never start fun reply => reply.asked = asked ∧ reply.answer.isSuccess = true := by
  rw [Engine.never_iff]
  constructor
  · intro hunanswered before s htrace reply hreply hsuccess
    exact hunanswered ⟨before, s, htrace, reply, hreply, hsuccess⟩
  · rintro hnever ⟨before, s, htrace, reply, hreply, hsuccess⟩
    exact hnever before s htrace reply hreply hsuccess

theorem Trace.canAnswer_sid (htrace : Trace e start before s) {request : Request}
    (hname : request.givenName? = none) (hsid : request.id = .sid sid) {answer : Answer}
    (hanswer : (e.mapSids now [request] s).1 = [answer]) (hok : answer.isSuccess = true) :
    e.CanAnswer start (.sid sid) := by
  have hnames : ∀ other ∈ [request], other.givenName? = none := by
    intro other hother
    obtain rfl := List.mem_singleton.mp hother
    exact hname
  refine ⟨_, _, htrace.mapSids now hnames, { asked := request.id, answer }, ?_, hsid, hok⟩
  rw [hanswer]
  exact List.mem_append_right _ (List.mem_singleton_self _)

/-- After a unix id was mapped to the SID in both directions, a request for the SID can
succeed. -/
theorem SaidToUnix.canAnswer (hsaid : SaidToUnix before sid id) (htrace : Trace e start before s)
    (hstart : start.cache.WellFormed) (hordinary : WellKnown.ofSid sid = none) :
    e.CanAnswer start (.sid sid) := by
  obtain ⟨reply, hreply, hcross⟩ := hsaid
  obtain ⟨before, s, htrace, ⟨now, requests, -, hreply⟩ | ⟨now, request, hname, rfl⟩⟩ :=
    htrace.exists_step hreply
  · obtain ⟨⟨hasked, hok, -⟩, -⟩ := hcross
    obtain ⟨sid, hsid⟩ := exists_sid_of_mapSids hreply hok
    cases hsid.symm.trans hasked
  · have hafter := htrace.mapId now hname
    obtain ⟨row, hrow, t, hanswers⟩ :=
      exists_row_of_alsoToUnix (htrace.wellFormed hstart) hordinary hcross
    obtain ⟨answer, hanswer, hok⟩ :=
      mapSids_of_answersSid e (hafter.wellFormed hstart) hordinary hrow hanswers
    exact hafter.canAnswer_sid rfl rfl hanswer hok

end Sids

section Sids

variable {α : Type} {e : Engine Fixed.State α} {fixed : Fixed} {rules : RuleTable} {sid : Sid}

/-- No run finds a way around a deny of the SID. -/
structure SidKept (e : Engine Fixed.State α) (fixed : Fixed) (start : EngineState Fixed.State α)
    (sid : Sid) : Prop where
  notCrossed : e.Never start fun reply => ∃ id, reply.AlsoToUnix sid id
  notRespelled : e.NeverIn start (e.MapsCachedName sid)
  reachable : e.settings.IsOwn sid → fixed.CanReach start.directory.outages sid

/-- A SID that is denied never succeeds exactly if there is no way around the deny. -/
theorem DeniedSid.never_iff (h : DeniedSid e fixed rules sid)
    (hdirectory : e.directory = fixed.client) (directory : Fixed.State) (a : α) :
    e.Never (.fresh rules directory a) (fun reply =>
        reply.asked = .sid sid ∧ reply.answer.isSuccess = true) ↔
      SidKept e fixed (.fresh rules directory a) sid := by
  have hstart := Trace.wellFormed_fresh rules directory a
  rw [← Engine.not_canAnswer_iff]
  constructor
  · intro hunanswered
    refine ⟨?_, ?_, ?_⟩
    · rw [Engine.never_iff]
      rintro before s htrace reply hreply ⟨id, hcross⟩
      exact hunanswered (SaidToUnix.canAnswer ⟨reply, hreply, hcross⟩ htrace hstart h.ordinary)
    · rw [Engine.neverIn_iff]
      rintro before s htrace ⟨now, hit, found, hname, hrules⟩
      obtain ⟨answer, hanswer, hok⟩ :=
        mapSids_of_cachedName e (htrace.wellFormed hstart) h.ordinary hname hrules
      exact hunanswered (htrace.canAnswer_sid rfl rfl hanswer hok)
    · intro hown
      by_contra hreach
      obtain ⟨answer, hanswer, hok⟩ :=
        mapSids_of_isOwn hdirectory rules directory a 0 h.ordinary hown hreach
      exact hunanswered (Trace.start.canAnswer_sid rfl rfl hanswer hok)
  · rintro ⟨hcrossed, hmaps, hreach⟩ ⟨before, s, htrace, reply, hreply, hasked, hok⟩
    rw [Engine.never_iff] at hcrossed
    obtain ⟨id, earlier, hearlier, hcross⟩ :=
      (h.guard hdirectory hmaps hreach htrace).answers reply hreply hasked hok
    exact hcrossed before s htrace earlier hearlier ⟨id, hcross⟩

end Sids

/-! ### Denied unix ids -/

section Ids

variable {δ α : Type} {e : Engine δ α} {fixed : Fixed} {start s : EngineState δ α}
  {before : List Reply} {id : UnixId} {sid : Sid} {now : Int} {request : Request}

/-- The SID was mapped to the unix id, and the answer holds from unix to Windows, too. -/
def Reply.AlsoToWindows (reply : Reply) (id : UnixId) (sid : Sid) : Prop :=
  reply.GivesId sid id ∧ reply.answer.direction.isToWindows = true

/-- Some reply so far did that. -/
def SaidToWindows (before : List Reply) (id : UnixId) (sid : Sid) : Prop :=
  ∃ reply ∈ before, reply.AlsoToWindows id sid

theorem SaidToWindows.append (h : SaidToWindows before id sid) (later : List Reply) :
    SaidToWindows (before ++ later) id sid := by
  obtain ⟨reply, hreply, hcross⟩ := h
  exact ⟨reply, List.mem_append_left _ hreply, hcross⟩

/-- The rules map the name of the unix id. -/
def Engine.MapsUnixName (e : Engine δ α) (id : UnixId) (s : EngineState δ α) : Prop :=
  ∃ now name found, e.names.nameOf id.kind id.number = .ok name ∧
    (Rule.mapToWindows s.rules e.settings.domain? name id.kind
      (IdToSid.resolveName e.directory s.cache now) s.directory).1 = .ok found

/-- The account of a Windows name, when nothing is cached and nothing fails. -/
def Directory.Fixed.accountOf (fixed : Fixed) (name domain : String) :
    Except Failure NamedAccount :=
  (IdToSid.resolveName fixed.client {} 0 name domain {}).1

/-- The unix id has a name, and the rule that decides about it is a deny. -/
structure DeniedId (e : Engine δ α) (fixed : Fixed) (rules : RuleTable) (id : UnixId) : Prop where
  ordinary : WellKnown.ofId id = none
  small : isEphemeral id.number = false
  denied : ∃ name, e.names.nameOf id.kind id.number = .ok name ∧
    Rule.DeniesWindows e.settings.domain? name id.kind fixed.accountOf
      (rules.windowsCandidates id.kind.isUser name)

/-- The invariant of a run: only what SIDs were answered leads back from the unix id. -/
structure IdGuard (id : UnixId) (before : List Reply) (s : EngineState δ α) : Prop where
  rows : s.cache.LeadsBack id (SaidToWindows before id)
  answers : ∀ reply ∈ before, reply.asked = .unix id → reply.answer.isSuccess = true →
    ∃ sid, SaidToWindows before id sid

/-- A lookup of the unix id only succeeds if the cache leads back from it. -/
theorem DeniedId.outcome (h : DeniedId e fixed s.rules id) (hmaps : ¬ e.MapsUnixName id s)
    (hguard : IdGuard id before s) (hname : request.givenName? = none)
    (hid : request.id = .unix id) {item : Item}
    (houtcome : IdToSid.Outcome e s.cache s.rules now request s.directory item)
    (hok : item.answer.isSuccess = true) :
    item.state = .cacheHit ∧ ∃ sid, SaidToWindows before id sid := by
  obtain ⟨name, hnamed, hdenied⟩ := h.denied
  have hsame : ∀ {other}, IdToSid.UnixNamed e.names request id other → other = name := by
    intro other hother
    cases hother with
    | given hgiven =>
        rw [hname] at hgiven
        cases hgiven
    | account _ haccount => exact Except.ok.inj (haccount.symm.trans hnamed)
  cases houtcome with
  | failed hfailed =>
      rw [hfailed] at hok
      cases hok
  | reserved hid' hentry =>
      cases hid'.symm.trans hid
      rw [h.ordinary] at hentry
      cases hentry
  | cached hid' _ hhit =>
      cases hid'.symm.trans hid
      obtain ⟨row, hrow, hanswers, -⟩ := Cache.sidOf_ok hhit
      obtain ⟨hwindows, hnumber, hkind, -⟩ := IdRow.answersId_iff.mp hanswers
      obtain ⟨sid, hsaid, -⟩ := hguard.rows row hrow hnumber hkind hwindows
      exact ⟨rfl, sid, hsaid⟩
  | ruled hid' _ _ hother hmapped =>
      cases hid'.symm.trans hid
      cases hsame hother
      exact absurd ⟨now, name, _, hnamed, congrArg Prod.fst hmapped⟩ hmaps
  | localAccount hid' _ _ hunruled _ =>
      cases hid'.symm.trans hid
      cases hunruled with
      | nameless _ hmissing =>
          rw [hnamed] at hmissing
          cases hmissing
      | named hother hmissing =>
          cases hsame hother
          exact absurd (congrArg Prod.fst hmissing) (hdenied.tryWindows_ne _ _)

/-- A SID that is mapped to the unix id is the only thing that leads back from it. -/
theorem IdGuard.mapSids (hguard : IdGuard id before s) (e : Engine δ α) (now : Int)
    (requests : List Request) :
    IdGuard id (before ++ replies requests (e.mapSids now requests s).1)
      (e.mapSids now requests s).2 := by
  refine ⟨?_, ?_⟩
  · have hrows := hguard.rows.mono fun sid hsaid =>
      hsaid.append (replies requests (e.mapSids now requests s).1)
    rw [mapSids_eq] at hrows ⊢
    refine recordAll_inv (fun c => c.LeadsBack id (SaidToWindows _ id)) (fun {c p} hp hc => ?_)
      hrows
    rcases SidToId.record_cases e.settings now p.1 p.2 c with ⟨-, hsame⟩ | ⟨m, hm, hwrote⟩
    · rw [hsame]
      exact hc
    · refine hc.wrote hwrote fun hid hwindows => ?_
      obtain ⟨resolution, -, hasked, hanswer, hok, heq⟩ := SidToId.written?_eq_some hm
      refine ⟨_, List.mem_append_right _ (mem_replies_of_mem hp), ⟨hasked, hok, ?_⟩, ?_⟩
      · rw [← hid]
        exact hanswer
      · rw [heq] at hwindows
        exact hwindows
  · intro reply hreply hasked hok
    rcases List.mem_append.mp hreply with hreply | hreply
    · obtain ⟨sid, hsaid⟩ := hguard.answers reply hreply hasked hok
      exact ⟨sid, hsaid.append _⟩
    · obtain ⟨sid, hsid⟩ := exists_sid_of_mapSids hreply hok
      cases hsid.symm.trans hasked

/-- A lookup of a unix id writes nothing about the one that is denied. -/
theorem IdGuard.mapId (h : DeniedId e fixed s.rules id) (hmaps : ¬ e.MapsUnixName id s)
    (hguard : IdGuard id before s) (now : Int) (hname : request.givenName? = none) :
    IdGuard id (before ++ [{ asked := request.id, answer := (e.mapId now request s).1 }])
      (e.mapId now request s).2 := by
  have houtcome := IdToSid.outcome e s.cache s.rules now request s.directory
  simp only [Engine.mapId]
  generalize (IdToSid.resolve e s.cache s.rules now request s.directory).1 = item at houtcome ⊢
  have hitem : request.id = .unix id → item.answer.isSuccess = true →
      item.state = .cacheHit ∧ ∃ sid, SaidToWindows before id sid :=
    fun hid hok => h.outcome hmaps hguard hname hid houtcome hok
  refine ⟨?_, ?_⟩
  · have hrows := hguard.rows.mono fun sid hsaid =>
      hsaid.append [{ asked := request.id, answer := item.answer }]
    rcases IdToSid.record_cases e.settings e.names now request item s.cache with
      ⟨-, hsame⟩ | ⟨m, hm, hwrote⟩
    · rw [hsame]
      exact hrows
    · refine hrows.wrote hwrote fun hid _ => ?_
      obtain ⟨resolution, hstate, hasked, -, hok, -⟩ := IdToSid.written?_eq_some hm
      rw [hid] at hasked
      obtain ⟨hhit, -⟩ := hitem hasked hok
      cases hstate.symm.trans hhit
  · intro reply hreply hasked hok
    have hbefore : ∃ sid, SaidToWindows before id sid := by
      rcases List.mem_append.mp hreply with hreply | hreply
      · exact hguard.answers reply hreply hasked hok
      · obtain rfl := List.mem_singleton.mp hreply
        exact (hitem hasked hok).2
    obtain ⟨sid, hsaid⟩ := hbefore
    exact ⟨sid, hsaid.append _⟩

/-- In every run, a unix id that is denied only succeeds after a SID was mapped to it, unless
the rules map its name. -/
theorem DeniedId.guard (h : DeniedId e fixed start.rules id)
    (hmaps : e.NeverIn start (e.MapsUnixName id)) (hstart : start.cache.ids = [])
    (htrace : Trace e start before s) : IdGuard id before s := by
  induction htrace with
  | start =>
      refine ⟨?_, ?_⟩
      · intro row hrow
        rw [hstart] at hrow
        cases hrow
      · intro reply hreply
        cases hreply
  | mapSids _ now _ ih => exact ih.mapSids e now _
  | @mapId _ s htrace now _ hname ih =>
      have hsame : DeniedId e fixed s.rules id := by
        rw [htrace.rules]
        exact h
      exact ih.mapId hsame (Engine.neverIn_iff.mp hmaps _ _ htrace) now hname

end Ids

/-! ### Ways around a denied unix id -/

section Ids

variable {α : Type} {e : Engine Fixed.State α} {fixed : Fixed} {start s : EngineState Fixed.State α}
  {before : List Reply} {id : UnixId} {sid : Sid}

theorem Trace.canAnswer_unix (htrace : Trace e start before s) (now : Int)
    (hok : (e.mapId now (sidRequest id) s).1.isSuccess = true) : e.CanAnswer start (.unix id) :=
  ⟨_, _, htrace.mapId now (show (sidRequest id).givenName? = none from rfl), _,
    List.mem_append_right _ (List.mem_singleton_self _), rfl, hok⟩

/-- What is written for a SID in both directions lets a request for the unix id succeed. -/
theorem Trace.canAnswer_of_resolved (htrace : Trace e start before s)
    (hdirectory : e.directory = fixed.client) (hstart : start.cache.WellFormed)
    (hordinary : WellKnown.ofId id = none) {now : Int} {requests : List Request}
    (hnames : ∀ request ∈ requests, request.givenName? = none) {p : Request × Item}
    (hp : p ∈ requests.zip (settled e s.rules s.cache now (batchFound e now requests s).1 requests
      { allocator := s.allocator }).1)
    {resolution : Resolution} (hstate : p.2.state = .resolved resolution)
    (hasked : p.1.id = .sid sid) (hid : p.2.answer.id = some (.unix id))
    (hok : p.2.answer.isSuccess = true) (hwindows : p.2.answer.direction.isToWindows = true) :
    e.CanAnswer start (.unix id) := by
  -- Let the batch end with this item, so that nothing is written after it.
  obtain ⟨first, hfirst, hlast, cache, hcache⟩ := mapSids_upto hdirectory hp
  have hnames' : ∀ request ∈ first ++ [p.1], request.givenName? = none := by
    intro request hrequest
    rcases List.mem_append.mp hrequest with hrequest | hrequest
    · exact hnames request (hfirst request hrequest)
    · obtain rfl := List.mem_singleton.mp hrequest
      exact hnames p.1 hlast
  have hm := SidToId.written?_of_resolved hstate hasked hid hok
  rcases SidToId.record_cases e.settings now p.1 p.2 cache with ⟨hnone, -⟩ | ⟨m, hm', hwrote⟩
  · rw [hm] at hnone
    cases hnone
  · rw [hm] at hm'
    cases hm'
    rw [← hcache] at hwrote
    have hafter := htrace.mapSids now hnames'
    exact hafter.canAnswer_unix _ (mapId_of_answersId e (hafter.wellFormed hstart) hordinary
      hwrote.written (IdMapping.answersId_row _ hwindows))

/-- After a SID was mapped to the unix id in both directions, a request for the unix id can
succeed. -/
theorem SaidToWindows.canAnswer (hsaid : SaidToWindows before id sid)
    (hdirectory : e.directory = fixed.client) (htrace : Trace e start before s)
    (hstart : start.cache.WellFormed) (hordinary : WellKnown.ofId id = none) :
    e.CanAnswer start (.unix id) := by
  obtain ⟨reply, hreply, ⟨hasked, hok, hid⟩, hwindows⟩ := hsaid
  obtain ⟨before, s, htrace, ⟨now, requests, hnames, hreply⟩ | ⟨now, request, hname, rfl⟩⟩ :=
    htrace.exists_step hreply
  · rw [mapSids_eq] at hreply
    obtain ⟨p, hp, rfl⟩ := mem_replies_map hreply
    have hresolved : ∀ {resolution}, p.2.state = .resolved resolution →
        e.CanAnswer start (.unix id) := fun hstate =>
      htrace.canAnswer_of_resolved hdirectory hstart hordinary hnames hp hstate hasked hid hok
        hwindows
    obtain ⟨m, m', houtcome⟩ := exists_outcome hp
    generalize p.2 = item at *
    cases houtcome with
    | failed hfailed | exhausted hfailed _ =>
        rw [hfailed] at hok
        cases hok
    | reserved _ hreserved =>
        cases hid
        exact absurd hordinary (WellKnown.ofId_ne_none hreserved hwindows)
    | cached _ hhit _ =>
        cases hid
        have hrows := htrace.wellFormed hstart
        obtain ⟨row, hrow, -, -, hanswers⟩ := hrows.answersId_of_idOf hhit hwindows
        exact htrace.canAnswer_unix now (mapId_of_answersId e hrows hordinary hrow hanswers)
    | ruled _ _ _ _ _ => exact hresolved rfl
    | localAccount _ _ _ _ => exact hresolved rfl
    | minted _ _ _ _ => exact hresolved rfl
  · -- A lookup of a unix id does not answer for SIDs.
    obtain ⟨id', -, hunix, -⟩ :=
      (IdToSid.outcome e s.cache s.rules now request s.directory).asked hok
    cases hunix.symm.trans hasked

/-- No run finds a way around a deny of the unix id. -/
structure IdKept (e : Engine Fixed.State α) (start : EngineState Fixed.State α) (id : UnixId) :
    Prop where
  notCrossed : e.Never start fun reply => ∃ sid, reply.AlsoToWindows id sid
  notMapped : e.NeverIn start (e.MapsUnixName id)

/-- A unix id that is denied never succeeds exactly if there is no way around the deny. -/
theorem DeniedId.never_iff {rules : RuleTable} (h : DeniedId e fixed rules id)
    (hdirectory : e.directory = fixed.client) (directory : Fixed.State) (a : α) :
    e.Never (.fresh rules directory a) (fun reply =>
        reply.asked = .unix id ∧ reply.answer.isSuccess = true) ↔
      IdKept e (.fresh rules directory a) id := by
  have hstart := Trace.wellFormed_fresh rules directory a
  rw [← Engine.not_canAnswer_iff]
  constructor
  · intro hunanswered
    refine ⟨?_, ?_⟩
    · rw [Engine.never_iff]
      rintro before s htrace reply hreply ⟨sid, hcross⟩
      exact hunanswered
        (SaidToWindows.canAnswer ⟨reply, hreply, hcross⟩ hdirectory htrace hstart h.ordinary)
    · rw [Engine.neverIn_iff]
      rintro before s htrace ⟨now, name, found, hname, hrules⟩
      exact hunanswered (htrace.canAnswer_unix now
        (mapId_of_unixName e (htrace.wellFormed hstart) h.ordinary h.small hname hrules))
  · rintro ⟨hcrossed, hmaps⟩ ⟨before, s, htrace, reply, hreply, hasked, hok⟩
    rw [Engine.never_iff] at hcrossed
    obtain ⟨sid, earlier, hearlier, hcross⟩ :=
      (DeniedId.guard h hmaps rfl htrace).answers reply hreply hasked hok
    exact hcrossed before s htrace earlier hearlier ⟨sid, hcross⟩

end Ids

/-! ### Stores without rules of both directions -/

section OneWay

variable {α : Type} {e : Engine Fixed.State α} {fixed : Fixed} {rules : RuleTable} {sid : Sid}
  {before : List Reply} {s : EngineState Fixed.State α}

/-- No rule applies in both directions. -/
def RuleTable.IsOneWay (table : RuleTable) : Prop :=
  ∀ rule ∈ table.rules, applies rule.toWindowsOrder = true → applies rule.toUnixOrder = false

/-- A deny comes before all other rules for the SID. -/
def DeniedFirst (e : Engine Fixed.State α) (fixed : Fixed) (rules : RuleTable) (sid : Sid) :
    Prop :=
  ∀ entry ∈ fixed.entries, entry.sid = sid → ∃ deny rest,
    rules.unixCandidates entry.type.kind.isUser entry.name entry.domain
        (Rule.isDefaultDomain e.settings.domain? entry.domain) = deny :: rest ∧
      isEmptyName deny.unixName = true

theorem DeniedFirst.denied (h : DeniedFirst e fixed rules sid)
    (hordinary : WellKnown.ofSid sid = none)
    (hlisted : ∃ entry ∈ fixed.entries, entry.sid = sid) : DeniedSid e fixed rules sid := by
  refine ⟨hordinary, hlisted, fun entry hentry hsid => ?_⟩
  obtain ⟨deny, rest, hfirst, hdeny⟩ := h entry hentry hsid
  rw [hfirst]
  exact .deny hdeny

/-- A deny that comes first is met under every spelling of the name. -/
theorem DeniedFirst.not_mapsCachedName (h : DeniedFirst e fixed s.rules sid)
    (hnames : s.cache.NamesFrom fixed sid) : ¬ e.MapsCachedName sid s := by
  rintro ⟨now, hit, found, hhit, hrules⟩
  obtain ⟨entry, hentry, hsid, name, domain, hspelled, rfl⟩ := hnames.nameOf hhit
  rw [Fixed.isNamed, Bool.and_eq_true] at hspelled
  obtain ⟨deny, rest, hfirst, hdeny⟩ := h entry hentry hsid
  rw [Rule.isDefaultDomain_congr hspelled.2,
    Rule.unixCandidates_congr hspelled.1 hspelled.2] at hfirst
  rw [Rule.mapToUnix, Option.getD_some, hfirst, Rule.tryUnix] at hrules
  simp only [if_pos hdeny] at hrules
  cases hrules

/-- Without rules of both directions, nothing that holds from Windows to unix is said of a
SID that is not one of this host. -/
theorem SidGuard.not_alsoToUnix (hguard : SidGuard sid before s) (h : s.cache.WellFormed)
    (hordinary : WellKnown.ofSid sid = none) (hforeign : ¬ e.settings.IsOwn sid)
    (hone : s.rules.IsOneWay) (hbefore : ∀ id, ¬ SaidToUnix before sid id) (now : Int)
    (request : Request) (id : UnixId) :
    ¬ ({ asked := request.id, answer := (e.mapId now request s).1 } : Reply).AlsoToUnix sid id := by
  rintro ⟨⟨hasked, hok, hid⟩, hunix⟩
  have houtcome := IdToSid.outcome e s.cache s.rules now request s.directory
  simp only [Engine.mapId] at hasked hok hid hunix
  generalize (IdToSid.resolve e s.cache s.rules now request s.directory).1 = item at *
  cases houtcome with
  | failed hfailed =>
      rw [hfailed] at hok
      cases hok
  | reserved _ hentry =>
      cases hid
      exact WellKnown.ofSid_ne_none hentry hordinary
  | cached _ _ hhit =>
      cases hid
      obtain ⟨row, hrow, -, -, hanswers⟩ := h.answersSid_of_sidOf hhit hunix
      obtain ⟨hset, habout, -⟩ := IdRow.answersSid_iff.mp hanswers
      obtain ⟨id, hsaid, -⟩ := hguard.rows row hrow habout hset
      exact hbefore id hsaid
  | @ruled _ _ found _ _ _ _ _ hmapped =>
      obtain ⟨⟨rule, hrule, hwindows, hdirection⟩, -⟩ := Rule.mapToWindows_ok hmapped
      rw [hone rule hrule hwindows] at hdirection
      change found.direction.isToUnix = true at hunix
      rw [hdirection] at hunix
      cases hunix
  | localAccount _ _ _ _ hlocal =>
      cases hid
      exact hforeign (LocalAccount.isOwn_of_localSid hlocal)

/-- **Without rules of both directions, a deny that comes first is honoured.** -/
theorem DeniedFirst.kept (h : DeniedFirst e fixed rules sid)
    (hdirectory : e.directory = fixed.client) (hordinary : WellKnown.ofSid sid = none)
    (hlisted : ∃ entry ∈ fixed.entries, entry.sid = sid) (hforeign : ¬ e.settings.IsOwn sid)
    (hone : rules.IsOneWay) (directory : Fixed.State) (a : α) :
    SidKept e fixed (.fresh rules directory a) sid := by
  have hmaps : e.NeverIn (.fresh rules directory a) (e.MapsCachedName sid) := by
    rw [Engine.neverIn_iff]
    intro before s htrace
    have hfirst : DeniedFirst e fixed s.rules sid := by
      rw [htrace.rules]
      exact h
    exact hfirst.not_mapsCachedName (htrace.namesFrom hdirectory sid)
  have hreach : e.settings.IsOwn sid → fixed.CanReach directory.outages sid :=
    fun hown => absurd hown hforeign
  have hdenied := h.denied hordinary hlisted
  have hsaid : ∀ before s, Trace e (.fresh rules directory a) before s →
      ∀ id, ¬ SaidToUnix before sid id := by
    intro before s htrace
    induction htrace with
    | start =>
        rintro id ⟨reply, hreply, -⟩
        cases hreply
    | mapSids _ now _ ih =>
        rintro id ⟨reply, hreply, hcross⟩
        rcases List.mem_append.mp hreply with hreply | hreply
        · exact ih id ⟨reply, hreply, hcross⟩
        · obtain ⟨sid, hsid⟩ := exists_sid_of_mapSids hreply hcross.1.2.1
          cases hsid.symm.trans hcross.1.1
    | @mapId before s htrace now request _ ih =>
        rintro id ⟨reply, hreply, hcross⟩
        rcases List.mem_append.mp hreply with hreply | hreply
        · exact ih id ⟨reply, hreply, hcross⟩
        · obtain rfl := List.mem_singleton.mp hreply
          have hone' : s.rules.IsOneWay := by
            rw [htrace.rules]
            exact hone
          exact (hdenied.guard hdirectory hmaps hreach htrace).not_alsoToUnix
            (htrace.wellFormed (Trace.wellFormed_fresh rules directory a)) hordinary hforeign hone'
            ih now request id hcross
  refine ⟨?_, hmaps, hreach⟩
  rw [Engine.never_iff]
  rintro before s htrace reply hreply ⟨id, hcross⟩
  exact hsaid before s htrace id ⟨reply, hreply, hcross⟩

end OneWay

/-! ### A host of CORP -/

namespace Corp

/-- A user that the directory knows. -/
def alice : Directory.Entry where
  sid := { base := "S-1-5-21-7", rid := 1104 }
  name := "alice"
  domain := "CORP"
  type := .user

/-- A user of the host. -/
def bob : UnixId where
  kind := .uid
  number := 1001

def fixed : Fixed where
  entries := [alice]
  timeouts := []

def engine : Engine Fixed.State SequentialIds where
  settings := { mappingDomain := some "CORP" }
  names := .ofTables { entries := [("bob", 1001)] } {}
  directory := fixed.client
  authority := SequentialIds.authority
  blockSize := 1

/-- A rule for users of CORP. -/
def rule (windowsName unixName : String) (toUnixOrder toWindowsOrder : Option Nat) :
    StoredRule where
  isUser := true
  windowsDomain := some "CORP"
  windowsName
  unixName
  isNt4 := false
  toUnixOrder
  toWindowsOrder

/-- Alice is denied, and stands for bob in both directions. -/
def denyAlice : RuleTable where
  rules := [rule "alice" "" (some 1) none, rule "alice" "bob" (some 2) (some 2)]

/-- Alice is denied, and bob stands for her. -/
def denyAliceOneWay : RuleTable where
  rules := [rule "alice" "" (some 1) none, rule "alice" "bob" none (some 2)]

/-- Bob is denied, and stands for alice in both directions. -/
def denyBob : RuleTable where
  rules := [rule "" "bob" none (some 1), rule "alice" "bob" (some 2) (some 2)]

theorem denied_alice : DeniedSid engine fixed denyAlice alice.sid := by
  have hmatching : denyAlice.rules.filter (RuleTable.matchesWindows true "alice" "CORP" true)
      = denyAlice.rules := by
    decide +kernel
  have hfirst : DeniedFirst engine fixed denyAlice alice.sid := by
    intro entry hentry _
    obtain rfl := List.mem_singleton.mp hentry
    refine ⟨{ unixName := "", toWindowsOrder := none },
      [{ unixName := "bob", toWindowsOrder := some 2 }], ?_, rfl⟩
    change (RuleTable.byOrder _ (denyAlice.rules.filter
      (RuleTable.matchesWindows true "alice" "CORP" true))).map _ = _
    rw [hmatching, RuleTable.byOrder, List.mergeSort_of_pairwise (by decide)]
    rfl
  exact hfirst.denied (by decide) ⟨alice, List.mem_singleton_self _, rfl⟩

theorem denied_bob : DeniedId engine fixed denyBob bob := by
  have hmatching : denyBob.rules.filter (RuleTable.matchesUnix true "bob") = denyBob.rules := by
    decide +kernel
  refine ⟨by decide, by decide, "bob", rfl, ?_⟩
  change Rule.DeniesWindows _ _ _ _ ((RuleTable.byOrder _ (denyBob.rules.filter
    (RuleTable.matchesUnix true "bob"))).map _)
  rw [hmatching, RuleTable.byOrder, List.mergeSort_of_pairwise (by decide)]
  exact .deny rfl

end Corp

/-! ### When a deny is honoured -/

/--
**A deny is honoured exactly if no run finds a way around it.**

A SID whose deciding rule is a deny is never mapped, in any run, if and only if no run maps
a unix id to it in a way that holds from Windows to unix, too; no run brings its name into
the cache in a spelling that the rules map; and the directory can be asked for it, if it is
one of this host.

A unix id whose deciding rule is a deny is never mapped, in any run, if and only if no run
maps a SID to it in a way that holds from unix to Windows, too, and no run comes to a state
in which the rules map its name.
-/
theorem deny_honoured_iff {α : Type} (e : Engine Fixed.State α) (fixed : Fixed)
    (hdirectory : e.directory = fixed.client) (rules : RuleTable) (directory : Fixed.State)
    (a : α) :
    (∀ sid, DeniedSid e fixed rules sid →
      (e.Never (.fresh rules directory a) (fun reply =>
          reply.asked = .sid sid ∧ reply.answer.isSuccess = true) ↔
        SidKept e fixed (.fresh rules directory a) sid)) ∧
    (∀ id, DeniedId e fixed rules id →
      (e.Never (.fresh rules directory a) (fun reply =>
          reply.asked = .unix id ∧ reply.answer.isSuccess = true) ↔
        IdKept e (.fresh rules directory a) id)) := by
  constructor
  · intro sid hdenied
    exact hdenied.never_iff hdirectory directory a
  · intro id hdenied
    exact hdenied.never_iff hdirectory directory a

/-- Alice is never mapped, although bob is mapped to her. -/
theorem denied_alice_never_mapped :
    Corp.engine.Never (.fresh Corp.denyAliceOneWay {} .aboveReserved) fun reply =>
      reply.asked = .sid Corp.alice.sid ∧ reply.answer.isSuccess = true := by
  have hordinary : WellKnown.ofSid Corp.alice.sid = none := by decide
  have hlisted : ∃ entry ∈ Corp.fixed.entries, entry.sid = Corp.alice.sid :=
    ⟨Corp.alice, List.mem_singleton_self _, rfl⟩
  have hfirst : DeniedFirst Corp.engine Corp.fixed Corp.denyAliceOneWay Corp.alice.sid := by
    intro entry hentry _
    obtain rfl := List.mem_singleton.mp hentry
    exact ⟨{ unixName := "", toWindowsOrder := none }, [], (by decide +kernel), rfl⟩
  have hkept := hfirst.kept rfl hordinary hlisted (by rintro ⟨hown, -⟩; cases hown) (by
    unfold RuleTable.IsOneWay
    decide) {} SequentialIds.aboveReserved
  exact ((deny_honoured_iff Corp.engine Corp.fixed rfl Corp.denyAliceOneWay {} .aboveReserved).1
    Corp.alice.sid (hfirst.denied hordinary hlisted)).mpr hkept

/-- Alice is mapped once bob was, and bob once alice was, although they are denied. -/
theorem denied_and_mapped :
    (DeniedSid Corp.engine Corp.fixed Corp.denyAlice Corp.alice.sid ∧
      ¬ Corp.engine.Never (.fresh Corp.denyAlice {} .aboveReserved) fun reply =>
        reply.asked = .sid Corp.alice.sid ∧ reply.answer.isSuccess = true) ∧
    (DeniedId Corp.engine Corp.fixed Corp.denyBob Corp.bob ∧
      ¬ Corp.engine.Never (.fresh Corp.denyBob {} .aboveReserved) fun reply =>
        reply.asked = .unix Corp.bob ∧ reply.answer.isSuccess = true) := by
  let toUnix (domain : Option String) : Reply :=
    { asked := .sid Corp.alice.sid
      answer := { id := some (.unix Corp.bob), failure := none, name := some "bob", domain } }
  let toWindows : Reply :=
    { asked := .unix Corp.bob
      answer :=
        { id := some (.sid Corp.alice.sid), failure := none, name := some "alice"
          domain := some "CORP" } }
  let askAlice : Call := .mapSids [posixRequest Corp.alice.sid]
  let askBob : Call := .mapIds [sidRequest Corp.bob]
  have halice : askAlice.IsAnonymous := by
    intro request hrequest
    obtain rfl := List.mem_singleton.mp hrequest
    rfl
  have hbob : askBob.IsAnonymous := by
    intro request hrequest
    obtain rfl := List.mem_singleton.mp hrequest
    rfl
  refine ⟨⟨Corp.denied_alice, ?_⟩, Corp.denied_bob, ?_⟩
  · intro hnever
    have hreplies : (Corp.engine.run [(0, askBob), (1, askAlice)]
        (.fresh Corp.denyAlice {} .aboveReserved)).1 = [toWindows, toUnix none] := by
      decide +kernel
    have hmem := List.mem_cons_of_mem toWindows (List.mem_singleton_self (toUnix none))
    rw [← hreplies] at hmem
    exact hnever _ (by simp [halice, hbob]) _ hmem ⟨rfl, rfl⟩
  · intro hnever
    have hreplies : (Corp.engine.run [(0, askAlice), (1, askBob)]
        (.fresh Corp.denyBob {} .aboveReserved)).1 = [toUnix (some "CORP"), toWindows] := by
      decide +kernel
    have hmem := List.mem_cons_of_mem (toUnix (some "CORP")) (List.mem_singleton_self toWindows)
    rw [← hreplies] at hmem
    exact hnever _ (by simp [halice, hbob]) _ hmem ⟨rfl, rfl⟩

end IdentityMap
