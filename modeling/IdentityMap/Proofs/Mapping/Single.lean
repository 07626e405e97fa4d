/-
Requests for one identity.

What an engine knows can be read off such requests: they succeed if a row of the cache
leads from the identity, if the rules map its name, or if it is a SID of this host and the
directory cannot be asked.  The other way round this says what has to be ruled out for an
identity that must not be answered.
-/
import IdentityMap.Proofs.LocalAccount
import IdentityMap.Proofs.Mapping.Batches
import IdentityMap.Proofs.WellKnown

namespace IdentityMap

open Directory (Fixed)

/-! ### Rows that are written -/

/-- A second before its time a row is live. -/
theorem IdMapping.isUsable_row (m : IdMapping) : m.row.isUsable (m.expiry.column - 1) = true := by
  have hlt : m.expiry.column - 1 < m.expiry.column := by omega
  simp [IdRow.isUsable, IdMapping.row, isLive, hlt]

theorem IdMapping.answersSid_row (m : IdMapping) (h : m.direction.isToUnix = true) :
    m.row.answersSid m.sid (m.expiry.column - 1) = true := by
  refine IdRow.answersSid_iff.mpr ⟨?_, m.row_ties.isAbout, m.isUsable_row⟩
  rw [IdMapping.row, h]
  rfl

theorem IdMapping.answersId_row (m : IdMapping) (h : m.direction.isToWindows = true) :
    m.row.answersId m.id (m.expiry.column - 1) = true := by
  refine IdRow.answersId_iff.mpr ⟨?_, m.row_ties.number, m.row_ties.isUser, m.isUsable_row⟩
  rw [IdMapping.row, h]
  rfl

section Answer

variable {δ α : Type} {s : EngineState δ α} {sid : Sid} {id : UnixId} {now : Int} {row : IdRow}

/-- A request that nothing but the cache may answer. -/
def cacheRequest (sid : Sid) : Request :=
  { id := .sid sid, wanted := .posix, noNewId := true }

/-- A request for whatever kind of account it is. -/
def posixRequest (sid : Sid) : Request :=
  { id := .sid sid, wanted := .posix }

/-- A cache whose rows read as mappings has an id for the SID, or no row that leads from it. -/
theorem idOf_cases {cache : Cache} (h : cache.WellFormed) (sid : Sid) (now : Int) :
    (cache.idRow? sid now = none ∧ cache.idOf sid .posix now = .error .notFound) ∨
      ∃ hit, cache.idOf sid .posix now = .ok hit := by
  unfold Cache.idOf
  cases hfound : cache.idRow? sid now with
  | none => exact Or.inl ⟨rfl, rfl⟩
  | some row =>
      unfold Cache.idRow? at hfound
      obtain ⟨sid', id, hties⟩ := (h row (List.mem_of_find?_eq_some hfound)).ties
      simp only [hties.cachedId_eq]
      right
      change ∃ hit, (if IdRow.isExpired id.number row.expiration now = true then _ else _)
        = Except.ok hit
      split <;> exact ⟨_, rfl⟩

theorem exists_idOf_ok {cache : Cache} (h : cache.WellFormed) (hrow : row ∈ cache.ids)
    (hanswers : row.answersSid sid now = true) : ∃ hit, cache.idOf sid .posix now = .ok hit := by
  rcases idOf_cases h sid now with ⟨hmissing, -⟩ | hfound
  · exact absurd hanswers (Cache.idRow?_eq_none_iff.mp hmissing row hrow)
  · exact hfound

/-- The only answer of a batch of one. -/
theorem mapSids_singleton (e : Engine δ α) (now : Int) (request : Request)
    (s : EngineState δ α) :
    (e.mapSids now [request] s).1
      = [(SidToId.secondPass e s.rules now request (SidToId.firstPass s.cache now request)
          (SidToId.answerFor (batchFound e now [request] s).1 request)
          { allocator := s.allocator }).1.answer] := by
  rw [mapSids_eq]
  rfl

/-- An id that the cache has, and that is of a kind that is asked for, is the answer, unless it is
out of date and more may be tried. -/
theorem SidToId.firstPass_of_hit {cache : Cache} {request : Request} {hit : CachedId}
    (hsid : request.id = .sid sid) (hordinary : WellKnown.idOf sid request.wanted = none)
    (hhit : cache.idOf sid request.wanted now = .ok hit)
    (hdecides : (!hit.expired || request.cacheOnly) = true)
    (hcheck : hit.check request.wanted = .ok ()) :
    firstPass cache now request = { answer := cachedAnswer hit, state := .cacheHit } := by
  have hasked : request.wanted ≠ .sid := by
    intro hcontra
    rw [hcontra] at hcheck
    cases hcheck
  simp only [firstPass, hsid, if_neg hasked, hordinary, searchCache, hhit, if_pos hdecides,
    cacheAnswer, hcheck]
  rfl

/-- A row that leads from the SID makes a request for it succeed. -/
theorem mapSids_of_answersSid (e : Engine δ α) (h : s.cache.WellFormed)
    (hordinary : WellKnown.ofSid sid = none) (hrow : row ∈ s.cache.ids)
    (hanswers : row.answersSid sid now = true) :
    ∃ answer, (e.mapSids now [cacheRequest sid] s).1 = [answer] ∧ answer.isSuccess = true := by
  obtain ⟨hit, hhit⟩ := exists_idOf_ok h hrow hanswers
  have hfirst : SidToId.firstPass s.cache now (cacheRequest sid)
      = { answer := SidToId.cachedAnswer hit, state := .cacheHit } :=
    SidToId.firstPass_of_hit rfl (WellKnown.idOf_of_ordinary hordinary _) hhit (Bool.or_true _) rfl
  rw [mapSids_singleton, hfirst, SidToId.secondPass_of_isFinal rfl]
  exact ⟨_, rfl, rfl⟩

/-- An item that the cache does not answer succeeds when the rules map it under the name that
the cache has for it. -/
theorem secondPass_of_cachedName (e : Engine δ α) (hordinary : WellKnown.ofSid sid = none)
    {hit : CachedName} {found : UnixMatch} (hname : s.cache.nameOf sid now = .ok hit)
    (hrules : Rule.mapToUnix s.rules e.names e.settings.domain? hit.name hit.domain hit.type.kind
      = .ok found) (fallback : Fallback) (answer : Option (Except Failure Directory.Entry))
    (m : Mint α) :
    (SidToId.secondPass e s.rules now (posixRequest sid)
      (SidToId.findName s.cache now (posixRequest sid) sid fallback) answer m).1.answer.isSuccess
      = true := by
  have hnamed : SidToId.findName s.cache now (posixRequest sid) sid fallback
      = { state := .awaitsRules
            { name := hit.name, domain := hit.domain.getD "", type := hit.type } .cached
            fallback } := by
    simp [SidToId.findName, posixRequest, Request.givenName?, hordinary, hname]
  have hverify : hit.type.verify .posix = .ok hit.type.kind := rfl
  have hrules' : Rule.mapToUnix s.rules e.names e.settings.domain? hit.name
      (some (hit.domain.getD "")) hit.type.kind = .ok found := hrules
  rw [hnamed]
  simp only [SidToId.secondPass, posixRequest, SidToId.applyRules, hverify, hrules']
  rfl

/-- A SID succeeds when the rules map it under the name that the cache has for it. -/
theorem mapSids_of_cachedName (e : Engine δ α) (h : s.cache.WellFormed)
    (hordinary : WellKnown.ofSid sid = none) {hit : CachedName} {found : UnixMatch}
    (hname : s.cache.nameOf sid now = .ok hit)
    (hrules : Rule.mapToUnix s.rules e.names e.settings.domain? hit.name hit.domain hit.type.kind
      = .ok found) :
    ∃ answer, (e.mapSids now [posixRequest sid] s).1 = [answer] ∧ answer.isSuccess = true := by
  rw [mapSids_singleton]
  refine ⟨_, rfl, ?_⟩
  have hreserved : WellKnown.idOf sid .posix = none := WellKnown.idOf_of_ordinary hordinary _
  rcases idOf_cases h sid now with ⟨-, hmissing⟩ | ⟨hit', hhit⟩
  · have hfirst : SidToId.firstPass s.cache now (posixRequest sid)
        = SidToId.findName s.cache now (posixRequest sid) sid none := by
      simp [SidToId.firstPass, posixRequest, hreserved, SidToId.searchCache, hmissing,
        Request.cacheOnly]
    rw [hfirst]
    exact secondPass_of_cachedName e hordinary hname hrules none _ _
  · cases hexpired : hit'.expired with
    | true =>
        have hfirst : SidToId.firstPass s.cache now (posixRequest sid)
            = SidToId.findName s.cache now (posixRequest sid) sid (some hit'.id) := by
          simp [SidToId.firstPass, posixRequest, hreserved, SidToId.searchCache, hhit, hexpired,
            Request.cacheOnly]
        rw [hfirst]
        exact secondPass_of_cachedName e hordinary hname hrules _ _ _
    | false =>
        have hfirst : SidToId.firstPass s.cache now (posixRequest sid)
            = { answer := SidToId.cachedAnswer hit', state := .cacheHit } :=
          SidToId.firstPass_of_hit rfl hreserved hhit (by rw [hexpired]; rfl) rfl
        rw [hfirst, SidToId.secondPass_of_isFinal rfl]
        rfl

/-- A SID of this host succeeds while the directory cannot be asked for it. -/
theorem mapSids_of_isOwn {e : Engine Fixed.State α} {fixed : Fixed}
    (hdirectory : e.directory = fixed.client) (rules : RuleTable) (directory : Fixed.State) (a : α)
    (now : Int) (hordinary : WellKnown.ofSid sid = none) (hown : e.settings.IsOwn sid)
    (hreach : ¬ fixed.CanReach directory.outages sid) :
    ∃ answer, (e.mapSids now [posixRequest sid] (.fresh rules directory a)).1 = [answer] ∧
      answer.isSuccess = true := by
  obtain ⟨reason, hreason⟩ := Fixed.exists_answerAt_error hreach
  obtain ⟨id, hdecode⟩ := LocalAccount.exists_decode_posix hown
  have hfirst : SidToId.firstPass (EngineState.fresh rules directory a).cache now (posixRequest sid)
      = { state := .awaitsDirectory none } := by
    have hreserved : WellKnown.idOf sid .posix = none := WellKnown.idOf_of_ordinary hordinary _
    have hmissing : Cache.idOf {} sid .posix now = .error .notFound := rfl
    have hnameless : Cache.nameOf {} sid now = .error .notFound := rfl
    simp [SidToId.firstPass, posixRequest, EngineState.fresh, hreserved, SidToId.searchCache,
      hmissing, Request.cacheOnly, SidToId.findName, Request.givenName?, hordinary, hnameless]
  have hfound : SidToId.answerFor
      (batchFound e now [posixRequest sid] (.fresh rules directory a)).1 (posixRequest sid)
        = some (.error reason) := by
    rw [batchFound, hdirectory, SidToId.answerFor_awaited (List.mem_singleton_self _) rfl
      (by rw [hfirst]; rfl)]
    exact congrArg some hreason
  rw [mapSids_singleton, hfirst, hfound]
  refine ⟨_, rfl, ?_⟩
  simp only [SidToId.secondPass, posixRequest, SidToId.settleUnknown, if_pos hown.1, hdecode]
  rfl

/-- A request for the SID of a unix id. -/
def sidRequest (id : UnixId) : Request :=
  { id := .unix id, wanted := .sid }

/-- A cache whose rows read as mappings has a SID for the unix id, or no row that leads back
from it. -/
theorem sidOf_cases {cache : Cache} (h : cache.WellFormed) (id : UnixId) (now : Int) :
    (cache.sidRow? id now = none ∧ cache.sidOf id now = .error .notFound) ∨
      ∃ hit, cache.sidOf id now = .ok hit := by
  unfold Cache.sidOf
  cases hfound : cache.sidRow? id now with
  | none => exact Or.inl ⟨rfl, rfl⟩
  | some row =>
      unfold Cache.sidRow? at hfound
      obtain ⟨sid, id', hties⟩ := (h row (List.mem_of_find?_eq_some hfound)).ties
      exact Or.inr ⟨_, hties.cachedSid_eq⟩

/-- A SID that the cache has for a unix id is what a request for the id is answered. -/
theorem answer_of_sidOf (e : Engine δ α) (hordinary : WellKnown.ofId id = none) {hit : CachedSid}
    (hhit : s.cache.sidOf id now = .ok hit) {request : Request} (hid : request.id = .unix id)
    (hwanted : request.wanted = .sid) :
    (e.mapId now request s).1 =
      { id := some (.sid hit.sid), direction := hit.direction, failure := none,
        name := hit.windowsName, domain := hit.windowsDomain } := by
  simp [Engine.mapId, IdToSid.resolve, hid, hwanted, hordinary, hhit]

theorem mapId_of_sidOf (e : Engine δ α) (hordinary : WellKnown.ofId id = none) {hit : CachedSid}
    (hhit : s.cache.sidOf id now = .ok hit) :
    (e.mapId now (sidRequest id) s).1.isSuccess = true := by
  simp [Engine.mapId, IdToSid.resolve, sidRequest, hordinary, hhit, Answer.isSuccess]

/-- A row that leads back from the unix id makes a request for it succeed. -/
theorem mapId_of_answersId (e : Engine δ α) (h : s.cache.WellFormed)
    (hordinary : WellKnown.ofId id = none) (hrow : row ∈ s.cache.ids)
    (hanswers : row.answersId id now = true) :
    (e.mapId now (sidRequest id) s).1.isSuccess = true := by
  rcases sidOf_cases h id now with ⟨hmissing, -⟩ | ⟨hit, hhit⟩
  · exact absurd hanswers (by simpa using List.find?_eq_none.mp hmissing row hrow)
  · exact mapId_of_sidOf e hordinary hhit

/-- A unix id succeeds when the rules map its name. -/
theorem mapId_of_unixName (e : Engine δ α) (h : s.cache.WellFormed)
    (hordinary : WellKnown.ofId id = none) (hsmall : isEphemeral id.number = false) {name : String}
    {found : WindowsMatch} (hname : e.names.nameOf id.kind id.number = .ok name)
    (hrules : (Rule.mapToWindows s.rules e.settings.domain? name id.kind
      (IdToSid.resolveName e.directory s.cache now) s.directory).1 = .ok found) :
    (e.mapId now (sidRequest id) s).1.isSuccess = true := by
  rcases sidOf_cases h id now with ⟨-, hmissing⟩ | ⟨hit, hhit⟩
  · obtain ⟨d, hmapped⟩ : ∃ d, Rule.mapToWindows s.rules e.settings.domain? name id.kind
        (IdToSid.resolveName e.directory s.cache now) s.directory = (.ok found, d) :=
      ⟨_, Prod.ext hrules rfl⟩
    simp [Engine.mapId, IdToSid.resolve, sidRequest, hordinary, hmissing, IdToSid.settleUncached,
      hsmall, Request.cacheOnly, Request.givenName?, hname, IdToSid.applyRules, hmapped,
      Answer.isSuccess]
  · exact mapId_of_sidOf e hordinary hhit

end Answer

end IdentityMap
