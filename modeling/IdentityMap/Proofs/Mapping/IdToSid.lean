/-
What can become of a unix id.

`Outcome` lists it, as for SIDs: the item fails, or it is answered from the reserved
identities, the cache, a rule, or with the SID of a local account.  The last two only
happen to ids that were not minted, so nothing but such an id is ever written down here.
-/
import IdentityMap.Proofs.Cache.Rows
import IdentityMap.Mapping.IdToSid

namespace IdentityMap

/-! ### What the rules look up -/

namespace Rule

variable {σ : Type} {mappingDomain : Option String} {unixName : String} {kind : IdKind}
  {resolve : String → String → σ → Except Failure NamedAccount × σ}

theorem account_of_checkKind {answer : Except Failure NamedAccount} {account : NamedAccount}
    (h : answer.bind (checkKind kind) = .ok account) : answer = .ok account := by
  cases answer with
  | error failure => cases h
  | ok found =>
      change checkKind kind found = .ok account at h
      unfold checkKind at h
      split at h <;> cases h
      rfl

theorem tryWindows_ok {candidates : List WindowsCandidate} {s s' : σ} {found : WindowsMatch}
    (h : tryWindows mappingDomain unixName kind resolve candidates s = (.ok found, s')) :
    (∃ candidate ∈ candidates,
        found.direction = if applies candidate.toUnixOrder then .both else .toWindows) ∧
      ∃ s₁ s₂, resolve found.windowsName found.windowsDomain s₁ = (.ok found.account, s₂) := by
  induction candidates generalizing s with
  | nil => cases h
  | cons candidate rest ih =>
      unfold tryWindows at h
      split at h
      · cases h
      simp only at h
      split at h
      · cases h
      · split at h
        · next account haccount =>
            cases h
            exact ⟨⟨candidate, List.mem_cons_self .., rfl⟩, s, _,
              Prod.ext (account_of_checkKind haccount) rfl⟩
        · split at h
          · obtain ⟨⟨decider, hmem, hdirection⟩, hresolve⟩ := ih h
            exact ⟨⟨decider, List.mem_cons_of_mem _ hmem, hdirection⟩, hresolve⟩
          · cases h

/-- The account that the rules lead to was looked up under the name that they give it, and a
rule that applies from unix to Windows says in which directions that holds. -/
theorem mapToWindows_ok {table : RuleTable} {s s' : σ} {found : WindowsMatch}
    (h : mapToWindows table mappingDomain unixName kind resolve s = (.ok found, s')) :
    (∃ rule ∈ table.rules, applies rule.toWindowsOrder = true ∧
        found.direction = if applies rule.toUnixOrder then .both else .toWindows) ∧
      ∃ s₁ s₂, resolve found.windowsName found.windowsDomain s₁ = (.ok found.account, s₂) := by
  obtain ⟨⟨candidate, hcandidate, hdirection⟩, hresolve⟩ := tryWindows_ok h
  refine ⟨?_, hresolve⟩
  obtain ⟨rule, hrule, rfl⟩ := List.mem_map.mp hcandidate
  obtain ⟨hmem, hmatches⟩ := List.mem_filter.mp (List.mem_mergeSort.mp hrule)
  simp only [RuleTable.matchesUnix, Bool.and_eq_true] at hmatches
  exact ⟨rule, hmem, hmatches.1.1, hdirection⟩

/-- What every lookup keeps, the rules keep. -/
theorem mapToWindows_inv {table : RuleTable} (Inv : σ → Prop)
    (hresolve : ∀ {name domain s}, Inv s → Inv (resolve name domain s).2) {s : σ} (h : Inv s) :
    Inv (mapToWindows table mappingDomain unixName kind resolve s).2 := by
  unfold mapToWindows
  induction table.windowsCandidates kind.isUser unixName generalizing s with
  | nil => exact h
  | cons candidate rest ih =>
      unfold tryWindows
      split
      · exact h
      simp only
      split
      · exact h
      · split
        · exact hresolve h
        · split
          · exact ih (hresolve h)
          · exact hresolve h

end Rule

namespace IdToSid

variable {δ α : Type}

/-! ### Outcomes -/

/-- The unix name that the rules are applied to. -/
inductive UnixNamed (names : NameService) (request : Request) (id : UnixId) : String → Prop
  | given {name : String} (h : request.givenName? = some name) : UnixNamed names request id name
  | account {name : String} (hname : request.givenName? = none)
      (h : names.nameOf id.kind id.number = .ok name) : UnixNamed names request id name

/-- Why an id gets its local SID: it has no name, or the rules say nothing about it. -/
inductive Unruled (e : Engine δ α) (cache : Cache) (rules : RuleTable) (now : Int)
    (request : Request) (id : UnixId) (s : δ) : Prop
  | nameless (hname : request.givenName? = none)
      (h : e.names.nameOf id.kind id.number = .error .notFound)
  | named {name : String} {s' : δ} (hname : UnixNamed e.names request id name)
      (h : Rule.mapToWindows rules e.settings.domain? name id.kind
        (resolveName e.directory cache now) s = (.error .notFound, s'))

/-- An item that a rule maps. -/
def ruledItem (e : Engine δ α) (now : Int) (found : WindowsMatch) : Item :=
  { answer :=
      { id := some (.sid found.account.sid), direction := found.direction, failure := none,
        name := some found.windowsName, domain := some found.windowsDomain }
    state := .resolved
      { source := if found.account.source = .directory then .directory else .cached
        windowsName := some
          { name := found.windowsName, domain := found.windowsDomain, type := found.account.type }
        superseded := none
        expiry := e.settings.idExpiry now } }

/-- An item with the SID of a local account. -/
def localItem (sid : Sid) : Item :=
  { answer := { id := some (.sid sid), direction := .both, failure := none }
    state := .resolved
      { source := .machine, windowsName := none, superseded := none, expiry := .never } }

/-- What a lookup makes of a request. -/
inductive Outcome (e : Engine δ α) (cache : Cache) (rules : RuleTable) (now : Int)
    (request : Request) (s : δ) : Item → Prop
  | failed {item : Item} (h : item.answer.isSuccess = false) :
      Outcome e cache rules now request s item
  | reserved {id : UnixId} {entry : WellKnown} (hid : request.id = .unix id)
      (h : WellKnown.ofId id = some entry) :
      Outcome e cache rules now request s
        { answer :=
            { id := some (.sid entry.sid), direction := entry.direction, failure := none,
              name := some entry.name }
          state := .cacheHit }
  | cached {id : UnixId} {hit : CachedSid} (hid : request.id = .unix id)
      (hordinary : WellKnown.ofId id = none) (h : cache.sidOf id now = .ok hit) :
      Outcome e cache rules now request s
        { answer :=
            { id := some (.sid hit.sid), direction := hit.direction, failure := none,
              name := hit.windowsName, domain := hit.windowsDomain }
          state := .cacheHit }
  | ruled {id : UnixId} {name : String} {found : WindowsMatch} {s' : δ}
      (hid : request.id = .unix id) (hordinary : WellKnown.ofId id = none)
      (hminted : isEphemeral id.number = false) (hname : UnixNamed e.names request id name)
      (h : Rule.mapToWindows rules e.settings.domain? name id.kind
        (resolveName e.directory cache now) s = (.ok found, s')) :
      Outcome e cache rules now request s (ruledItem e now found)
  | localAccount {id : UnixId} {sid : Sid} (hid : request.id = .unix id)
      (hordinary : WellKnown.ofId id = none) (hminted : isEphemeral id.number = false)
      (hunruled : Unruled e cache rules now request id s)
      (h : localSid e.settings id = .ok sid) :
      Outcome e cache rules now request s (localItem sid)

variable {e : Engine δ α} {cache : Cache} {rules : RuleTable} {now : Int} {request : Request}
  {id : UnixId} {s : δ}

/-! ### The lookup, case by case -/

theorem outcome_settleLocal (hid : request.id = .unix id) (hordinary : WellKnown.ofId id = none)
    (hminted : isEphemeral id.number = false) (hunruled : Unruled e cache rules now request id s) :
    Outcome e cache rules now request s (settleLocal e.settings id) := by
  unfold settleLocal
  cases hlocal : localSid e.settings id with
  | ok sid => exact .localAccount hid hordinary hminted hunruled hlocal
  | error failure => exact .failed rfl

theorem outcome_applyRules {name : String} (hid : request.id = .unix id)
    (hordinary : WellKnown.ofId id = none) (hminted : isEphemeral id.number = false)
    (hname : UnixNamed e.names request id name) :
    Outcome e cache rules now request s (applyRules e cache rules now id name s).1 := by
  unfold applyRules
  split
  · next found s' hfound => exact .ruled hid hordinary hminted hname hfound
  · next s' hmissing =>
      exact outcome_settleLocal hid hordinary hminted (.named hname hmissing)
  · exact .failed rfl

theorem outcome_settleUncached (hid : request.id = .unix id)
    (hordinary : WellKnown.ofId id = none) :
    Outcome e cache rules now request s (settleUncached e cache rules now request id s).1 := by
  unfold settleUncached
  by_cases hdenied : (isEphemeral id.number || request.cacheOnly) = true
  · rw [if_pos hdenied]
    exact .failed rfl
  rw [if_neg hdenied]
  have hminted : isEphemeral id.number = false := by
    simp only [Bool.or_eq_true, not_or] at hdenied
    simpa using hdenied.1
  split
  · next name hname => exact outcome_applyRules hid hordinary hminted (.given hname)
  · next hname =>
      split
      · next name hnamed =>
          exact outcome_applyRules hid hordinary hminted (.account hname hnamed)
      · next hmissing =>
          exact outcome_settleLocal hid hordinary hminted (.nameless hname hmissing)
      · exact .failed rfl

/-- **Every unix id comes to one of the outcomes.** -/
theorem outcome (e : Engine δ α) (cache : Cache) (rules : RuleTable) (now : Int)
    (request : Request) (s : δ) :
    Outcome e cache rules now request s (resolve e cache rules now request s).1 := by
  unfold resolve
  cases hid : request.id with
  | sid sid => exact .failed rfl
  | unix id =>
      simp only
      by_cases hwanted : request.wanted ≠ .sid
      · rw [if_pos hwanted]
        exact .failed rfl
      rw [if_neg hwanted]
      cases hordinary : WellKnown.ofId id with
      | some entry => exact .reserved hid hordinary
      | none =>
          simp only
          split
          · next hit hhit => exact .cached hid hordinary hhit
          · exact outcome_settleUncached hid hordinary
          · exact .failed rfl

theorem Outcome.asked {item : Item} (h : Outcome e cache rules now request s item)
    (hok : item.answer.isSuccess = true) :
    ∃ id sid, request.id = .unix id ∧ item.answer.id = some (.sid sid) := by
  cases h with
  | failed hfailed =>
      rw [hfailed] at hok
      cases hok
  | reserved hid _ => exact ⟨_, _, hid, rfl⟩
  | cached hid _ _ => exact ⟨_, _, hid, rfl⟩
  | ruled hid _ _ _ _ => exact ⟨_, _, hid, rfl⟩
  | localAccount hid _ _ _ _ => exact ⟨_, _, hid, rfl⟩

/-- What every lookup in the directory keeps, the whole lookup keeps. -/
theorem resolve_inv (e : Engine δ α) (cache : Cache) (rules : RuleTable) (now : Int)
    (request : Request) (Inv : δ → Prop)
    (hlookup : ∀ {query s}, Inv s → Inv (Directory.lookupOne e.directory query s).2)
    (h : Inv s) : Inv (resolve e cache rules now request s).2 := by
  have hresolve : ∀ {name domain s}, Inv s →
      Inv (resolveName e.directory cache now name domain s).2 := by
    intro name domain s h
    unfold resolveName
    split
    · exact h
    · split
      · exact h
      · exact hlookup h
      · exact h
  have hrules : ∀ {id name}, Inv (applyRules e cache rules now id name s).2 := by
    intro id name
    unfold applyRules
    have hmap : Inv (Rule.mapToWindows rules e.settings.domain? name id.kind
        (resolveName e.directory cache now) s).2 := Rule.mapToWindows_inv Inv hresolve h
    split
    · next hfound => rw [hfound] at hmap; exact hmap
    · next hmissing => rw [hmissing] at hmap; exact hmap
    · next hfailed => rw [hfailed] at hmap; exact hmap
  unfold resolve settleUncached
  repeat' split
  all_goals first | exact h | exact hrules

/-! ### Writing back -/

/-- The mapping that is written for an item, if one is. -/
def written? (names : NameService) (request : Request) (item : Item) : Option IdMapping :=
  match item.state, request.id, item.answer.sid? with
  | .resolved resolution, .unix id, some sid =>
    if item.answer.isSuccess then
      some (resolution.mapping sid id (recordedName names request id) item.answer.direction)
    else none
  | _, _, _ => none

variable {names : NameService} {item : Item} {settings : Settings}

/-- The mapping that is written repeats the answer. -/
theorem written?_eq_some {m : IdMapping} (h : written? names request item = some m) :
    ∃ resolution, item.state = .resolved resolution ∧ request.id = .unix m.id ∧
      item.answer.id = some (.sid m.sid) ∧ item.answer.isSuccess = true ∧
      m = resolution.mapping m.sid m.id (recordedName names request m.id)
        item.answer.direction := by
  unfold written? at h
  split at h
  · next resolution id sid hstate hid hsid =>
      split at h
      · next hok =>
          cases h
          refine ⟨resolution, hstate, hid, ?_, hok, rfl⟩
          unfold Answer.sid? at hsid
          cases hanswer : item.answer.id with
          | none => rw [hanswer] at hsid; cases hsid
          | some identity =>
              rw [hanswer] at hsid
              cases identity with
              | sid s => cases hsid; rfl
              | unix u => cases hsid
      · cases h
  · cases h

/-- Whatever is worked out for an item that succeeds is written. -/
theorem written?_of_resolved {resolution : Resolution} {id : UnixId} {sid : Sid}
    (hstate : item.state = .resolved resolution) (hid : request.id = .unix id)
    (hsid : item.answer.id = some (.sid sid)) (hok : item.answer.isSuccess = true) :
    written? names request item
      = some (resolution.mapping sid id (recordedName names request id)
          item.answer.direction) := by
  simp only [written?, hstate, hid, Answer.sid?, hsid, Option.bind_some, Identity.sid?,
    if_pos hok]

/-- An item either changes nothing, or its mapping is written. -/
theorem record_cases (settings : Settings) (names : NameService) (now : Int) (request : Request)
    (item : Item) (cache : Cache) :
    (written? names request item = none ∧
      record settings names now request item cache = cache) ∨
    ∃ m, written? names request item = some m ∧
      cache.Wrote m (record settings names now request item cache) := by
  unfold written?
  split
  · next resolution id sid hstate hid hsid =>
      unfold record
      simp only [hstate, hid, hsid]
      by_cases hok : item.answer.isSuccess = true
      · simp only [if_pos hok]
        exact Or.inr ⟨_, rfl, (Cache.wrote_putId cache _).congr (ids_cacheResolution ..)⟩
      · simp only [if_neg hok]
        exact Or.inl ⟨trivial, trivial⟩
  · next hother =>
      refine Or.inl ⟨rfl, ?_⟩
      unfold record
      split
      · next resolution id sid hstate hid hsid => exact (hother _ _ _ hstate hid hsid).elim
      · rfl

theorem wrote_record {m : IdMapping} (settings : Settings) (names : NameService) (now : Int)
    (cache : Cache) (hm : written? names request item = some m) :
    cache.Wrote m (record settings names now request item cache) := by
  rcases record_cases settings names now request item cache with ⟨hnone, -⟩ | ⟨m', hm', hwrote⟩
  · rw [hm] at hnone
    cases hnone
  · rw [hm] at hm'
    cases hm'
    exact hwrote

/-- A name that is in the cache after an item was written was there before, or is the name
that the directory gave for the item. -/
theorem mem_names_record {row : NameRow}
    (h : row ∈ (record settings names now request item cache).names) :
    row ∈ cache.names ∨ ∃ resolution sid name, item.state = .resolved resolution ∧
      item.answer.id = some (.sid sid) ∧ item.answer.isSuccess = true ∧
      resolution.source = .directory ∧ resolution.windowsName = some name ∧
      row = (nameMapping settings now sid name).row := by
  cases hwritten : written? names request item with
  | none =>
      rcases record_cases settings names now request item cache with ⟨-, hsame⟩ | ⟨m, hm, -⟩
      · rw [hsame] at h
        exact Or.inl h
      · rw [hwritten] at hm
        cases hm
  | some m =>
      obtain ⟨resolution, hstate, hid, hsid, hok, -⟩ := written?_eq_some hwritten
      have hanswer : item.answer.sid? = some m.sid := by rw [Answer.sid?, hsid]; rfl
      unfold record at h
      simp only [hstate, hid, hanswer, if_pos hok] at h
      rcases mem_names_cacheResolution h with hrow | ⟨name, hsource, hname, hrow⟩
      · exact Or.inl hrow
      · exact Or.inr ⟨resolution, m.sid, name, hstate, hsid, hok, hsource, hname, hrow⟩

end IdToSid
end IdentityMap
