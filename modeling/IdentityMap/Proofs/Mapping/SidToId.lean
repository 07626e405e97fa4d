/-
What can become of a SID in a batch.

`Outcome` lists it: an item fails, or it is answered from the reserved identities, the
cache, a rule, the host's own accounts, or with an id of its own.  Each case says where
the answer comes from, so that a proof about batches is one case analysis and the passes
are opened here and nowhere else.  `Recorded` does the same for what is written back.
-/
import IdentityMap.Proofs.Cache.Rows
import IdentityMap.Proofs.Ephemeral.Minting
import IdentityMap.Mapping.SidToId

namespace IdentityMap

/-! ### What the rules lead to -/

namespace Rule

variable {table : RuleTable} {names : NameService} {kind : IdKind} {name : String}
  {found : UnixMatch}

theorem tryUnix_ok {candidates : List UnixCandidate}
    (h : tryUnix names kind name candidates = .ok found) :
    (∃ candidate ∈ candidates,
        found.direction = if applies candidate.toWindowsOrder then .both else .toUnix) ∧
      found.id.kind = kind ∧ names.idOf kind found.unixName = .ok found.id.number := by
  induction candidates with
  | nil => cases h
  | cons candidate rest ih =>
      unfold tryUnix at h
      simp only at h
      split at h
      · cases h
      split at h
      · split at h
        · next number hnumber =>
            cases h
            exact ⟨⟨candidate, List.mem_cons_self .., rfl⟩, rfl, hnumber⟩
        · obtain ⟨⟨decider, hmem, hdirection⟩, hid⟩ := ih h
          exact ⟨⟨decider, List.mem_cons_of_mem _ hmem, hdirection⟩, hid⟩
        · cases h
      · split at h
        · next number hnumber =>
            cases h
            exact ⟨⟨candidate, List.mem_cons_self .., rfl⟩, rfl, hnumber⟩
        · cases h
        · cases h

variable {mappingDomain domain : Option String}

/-- The rules lead from Windows to unix, whatever else they do. -/
theorem isToUnix_of_mapToUnix
    (h : mapToUnix table names mappingDomain name domain kind = .ok found) :
    found.direction.isToUnix = true := by
  obtain ⟨⟨candidate, -, hdirection⟩, -⟩ := tryUnix_ok h
  rw [hdirection]
  cases applies candidate.toWindowsOrder <;> rfl

/-- A rule for accounts of one kind maps to an id of that kind. -/
theorem kind_of_mapToUnix
    (h : mapToUnix table names mappingDomain name domain kind = .ok found) :
    found.id.kind = kind :=
  (tryUnix_ok h).2.1

/-- The number is the one that the name service has for the unix name. -/
theorem idOf_of_mapToUnix
    (h : mapToUnix table names mappingDomain name domain kind = .ok found) :
    names.idOf kind found.unixName = .ok found.id.number :=
  (tryUnix_ok h).2.2

end Rule

namespace SidToId

/-! ### The Windows name of an item -/

/-- The names that are known of a SID without the directory. -/
inductive KnownName (cache : Cache) (now : Int) (request : Request) (sid : Sid) :
    WindowsName → Prop
  | given {name : String} {type : AccountType} (hname : request.givenName? = some name)
      (htype : request.wanted.accountType? = some type) :
      KnownName cache now request sid { name, domain := request.domain.getD "", type }
  | reserved {entry : WellKnown} (h : WellKnown.ofSid sid = some entry) :
      KnownName cache now request sid { name := entry.name, domain := "", type := entry.type }
  | cached {hit : CachedName} (h : cache.nameOf sid now = .ok hit) :
      KnownName cache now request sid
        { name := hit.name, domain := hit.domain.getD "", type := hit.type }

/-- The names that an item can have when the rules are applied to it. -/
inductive Named (cache : Cache) (now : Int) (found : Found) (request : Request) (sid : Sid) :
    WindowsName → NameSource → Prop
  | known {name : WindowsName} (h : KnownName cache now request sid name) :
      Named cache now found request sid name .cached
  | directory {entry : Directory.Entry} (h : answerFor found request = some (.ok entry)) :
      Named cache now found request sid
        { name := entry.name, domain := entry.domain, type := entry.type } .directory

/-- Why an item has no name: it waits for the directory, which said so, or said nothing. -/
structure Nameless (cache : Cache) (now : Int) (found : Found) (request : Request) (sid : Sid)
    (reason : Failure) : Prop where
  awaits : awaitedSid? request (firstPass cache now request) = some sid
  unknown : answerFor found request = some (.error reason) ∨
    (answerFor found request = none ∧ reason = .notFound)

/-- The expired minted id, if any, that the cache holds for a SID it does not answer. -/
inductive Spare (cache : Cache) (now : Int) (request : Request) (sid : Sid) : Fallback → Prop
  | nothing (h : cache.idOf sid request.wanted now = .error .notFound) :
      Spare cache now request sid none
  | expired {hit : CachedId} (h : cache.idOf sid request.wanted now = .ok hit)
      (hexpired : hit.expired = true) : Spare cache now request sid (some hit.id)

/-! ### Outcomes -/

section Outcome

variable {δ α : Type}

/-- The answer that the cache gives. -/
def cachedAnswer (hit : CachedId) : Answer :=
  { id := some (.unix hit.id), direction := hit.direction, failure := none, name := hit.unixName }

/-- An item that a rule maps. -/
def ruledItem (e : Engine δ α) (now : Int) (name : WindowsName) (source : NameSource)
    (fallback : Fallback) (found : UnixMatch) : Item :=
  { answer :=
      { id := some (.unix found.id), direction := found.direction, failure := none,
        name := some found.unixName, domain := some name.domain }
    state := .resolved
      { source, windowsName := some name, superseded := fallback,
        expiry := e.settings.idExpiry now } }

/-- An item that stands for a local account. -/
def localItem (id : UnixId) : Item :=
  { answer := { id := some (.unix id), direction := .both, failure := none }
    state := .resolved
      { source := .machine, windowsName := none, superseded := none, expiry := .never } }

/-- An item with an id of its own. -/
def mintedItem (e : Engine δ α) (now : Int) (id : UnixId) (name : Option WindowsName)
    (source : NameSource) (domain : Option String) : Item :=
  { answer := { id := some (.unix id), direction := .both, failure := none, domain }
    state := .resolved
      { source, windowsName := name, superseded := none, expiry := e.settings.idExpiry now } }

/-- Why an item gets an id of its own: the rules say nothing about its name, or it has
none and the settings allow it. -/
inductive Unruled (e : Engine δ α) (rules : RuleTable) (cache : Cache) (now : Int)
    (found : Found) (request : Request) (sid : Sid) :
    IdKind → Option WindowsName → NameSource → Prop
  | named {name : WindowsName} {source : NameSource} {kind : IdKind}
      (hname : Named cache now found request sid name source)
      (hkind : name.type.verify request.wanted = .ok kind)
      (hrules : Rule.mapToUnix rules e.names e.settings.domain? name.name (some name.domain) kind
        = .error .notFound) :
      Unruled e rules cache now found request sid kind (some name) source
  | nameless (hname : Nameless cache now found request sid .notFound)
      (hmint : e.settings.mintUnknown = true) :
      Unruled e rules cache now found request sid request.wanted.defaultKind none .machine

/-- What the two passes make of a request, and what is minted meanwhile. -/
inductive Outcome (e : Engine δ α) (rules : RuleTable) (cache : Cache) (now : Int)
    (found : Found) (request : Request) (m : Mint α) : Item → Mint α → Prop
  | failed {item : Item} (h : item.answer.isSuccess = false) :
      Outcome e rules cache now found request m item m
  | exhausted {item : Item} {sid : Sid} {kind : IdKind} {fallback : Fallback}
      {failure : Failure} {m' : Mint α} (h : item.answer.isSuccess = false)
      (hobtain : obtainId e sid kind fallback m = (.error failure, m')) :
      Outcome e rules cache now found request m item m'
  | reserved {sid : Sid} {id : UnixId} {direction : Direction} (hsid : request.id = .sid sid)
      (h : WellKnown.idOf sid request.wanted = some (.mapped id direction)) :
      Outcome e rules cache now found request m
        { answer := { id := some (.unix id), direction, failure := none }, state := .cacheHit } m
  | cached {sid : Sid} {hit : CachedId} (hsid : request.id = .sid sid)
      (h : cache.idOf sid request.wanted now = .ok hit)
      (hcheck : hit.check request.wanted = .ok ()) :
      Outcome e rules cache now found request m
        { answer := cachedAnswer hit, state := .cacheHit } m
  | ruled {sid : Sid} {name : WindowsName} {source : NameSource} {fallback : Fallback}
      {kind : IdKind} {mapped : UnixMatch} (hsid : request.id = .sid sid)
      (hname : Named cache now found request sid name source)
      (hspare : Spare cache now request sid fallback)
      (hkind : name.type.verify request.wanted = .ok kind)
      (h : Rule.mapToUnix rules e.names e.settings.domain? name.name (some name.domain) kind
        = .ok mapped) :
      Outcome e rules cache now found request m (ruledItem e now name source fallback mapped) m
  | localAccount {sid : Sid} {id : UnixId} {reason : Failure} (hsid : request.id = .sid sid)
      (hname : Nameless cache now found request sid reason)
      (hmachine : e.settings.machine?.any sid.hasBase = true)
      (h : LocalAccount.decode sid request.wanted = .ok id) :
      Outcome e rules cache now found request m (localItem id) m
  | minted {sid : Sid} {kind : IdKind} {name : Option WindowsName} {source : NameSource}
      {fallback : Fallback} {number : UInt32} {domain : Option String} {m' : Mint α}
      (hsid : request.id = .sid sid)
      (hunruled : Unruled e rules cache now found request sid kind name source)
      (hspare : Spare cache now request sid fallback)
      (h : obtainId e sid kind fallback m = (.ok number, m')) :
      Outcome e rules cache now found request m
        (mintedItem e now { kind, number } name source domain) m'

variable {e : Engine δ α} {rules : RuleTable} {cache : Cache} {now : Int} {found : Found}
  {request : Request} {sid : Sid} {m : Mint α}

/-- An item obtains the id of its fallback if that is of the right kind, and else the batch's or
a new one. -/
theorem obtainId_cases (e : Engine δ α) (sid : Sid) (kind : IdKind) (fallback : Fallback)
    (m : Mint α) :
    (∃ id, fallback = some id ∧ id.kind = kind ∧
      obtainId e sid kind fallback m = (.ok id.number, m.reuse sid id)) ∨
    ((∀ id, fallback = some id → id.kind ≠ kind) ∧
      obtainId e sid kind fallback m = m.obtain e.authority e.blockSize sid kind) := by
  cases fallback with
  | none => exact Or.inr ⟨fun id hid => (by cases hid), rfl⟩
  | some id =>
      by_cases hkind : id.kind = kind
      · exact Or.inl ⟨id, rfl, hkind, if_pos hkind⟩
      · refine Or.inr ⟨?_, if_neg hkind⟩
        intro id' hid
        cases hid
        exact hkind

/-- Where the id comes from that an item obtains: from its fallback, from the batch, or from
the allocator. -/
theorem obtainId_ok {kind : IdKind} {fallback : Fallback} {number : UInt32} {m' : Mint α}
    (h : obtainId e sid kind fallback m = (.ok number, m')) :
    (∃ id, fallback = some id ∧ id.kind = kind ∧ id.number = number ∧ m' = m.reuse sid id) ∨
    ((∀ id, fallback = some id → id.kind ≠ kind) ∧
      ((m.history.get? sid kind = some number ∧ m' = m) ∨
      (m.history.get? sid kind = none ∧ ∃ a,
        m.allocator.allocate e.authority e.blockSize kind = (.ok number, a) ∧
        m' = { history := m.history.insert sid kind number, allocator := a }))) := by
  rcases obtainId_cases e sid kind fallback m with ⟨id, hid, hkind, heq⟩ | ⟨hother, heq⟩
  · rw [heq] at h
    cases h
    exact Or.inl ⟨id, hid, hkind, rfl, rfl⟩
  · refine Or.inr ⟨hother, ?_⟩
    rw [heq, Mint.obtain] at h
    cases hget : m.history.get? sid kind with
    | some noted =>
        simp only [hget] at h
        cases h
        exact Or.inl ⟨rfl, rfl⟩
    | none =>
        simp only [hget] at h
        split at h
        · next granted a hallocate =>
            cases h
            exact Or.inr ⟨rfl, a, hallocate, rfl⟩
        · cases h

/-- What fails to give an id is the allocator, and nothing is noted. -/
theorem obtainId_error {kind : IdKind} {fallback : Fallback} {failure : Failure} {m' : Mint α}
    (h : obtainId e sid kind fallback m = (.error failure, m')) :
    m'.history = m.history ∧
      m.allocator.allocate e.authority e.blockSize kind = (.error failure, m'.allocator) := by
  rcases obtainId_cases e sid kind fallback m with ⟨id, -, -, heq⟩ | ⟨-, heq⟩
  · rw [heq] at h
    cases h
  · rw [heq, Mint.obtain] at h
    split at h
    · cases h
    · split at h
      · cases h
      · next hallocate =>
          cases h
          exact ⟨rfl, hallocate⟩

/-- Obtaining an id for one SID notes nothing about another. -/
theorem history_of_obtainId_ok {kind kind' : IdKind} {fallback : Fallback} {number : UInt32}
    {m' : Mint α} {other : Sid} (h : obtainId e sid kind fallback m = (.ok number, m'))
    (hne : other ≠ sid) : m'.history.get? other kind' = m.history.get? other kind' := by
  rcases obtainId_ok h with ⟨id, -, -, -, rfl⟩ | ⟨-, (⟨-, rfl⟩ | ⟨-, a, -, rfl⟩)⟩
  · simp only [Mint.reuse, SidHistory.get?_insert, hne, false_and, if_false]
  · rfl
  · simp only [SidHistory.get?_insert, hne, false_and, if_false]

/-! ### The passes, case by case -/

theorem outcome_mintItem {kind : IdKind} {source : NameSource} {name : Option WindowsName}
    {fallback : Fallback} {answer : Answer} (hsid : request.id = .sid sid)
    (hunruled : Unruled e rules cache now found request sid kind name source)
    (hspare : Spare cache now request sid fallback) :
    Outcome e rules cache now found request m
      (mintItem e now sid kind source name fallback answer m).1
      (mintItem e now sid kind source name fallback answer m).2 := by
  unfold mintItem
  rcases hobtain : obtainId e sid kind fallback m with ⟨failure | number, m'⟩
  · exact .exhausted rfl hobtain
  · exact .minted hsid hunruled hspare hobtain

theorem outcome_applyRules {name : WindowsName} {source : NameSource} {fallback : Fallback}
    (hsid : request.id = .sid sid) (hname : Named cache now found request sid name source)
    (hspare : Spare cache now request sid fallback) :
    Outcome e rules cache now found request m
      (applyRules e rules now request sid name source fallback m).1
      (applyRules e rules now request sid name source fallback m).2 := by
  unfold applyRules
  cases hkind : name.type.verify request.wanted with
  | error failure => exact .failed rfl
  | ok kind =>
      simp only
      split
      · next found' hfound => exact .ruled hsid hname hspare hkind hfound
      · next hfound => exact outcome_mintItem hsid (.named hname hkind hfound) hspare
      · exact .failed rfl

theorem outcome_settleUnknown {reason : Failure} {fallback : Fallback}
    (hsid : request.id = .sid sid) (hname : Nameless cache now found request sid reason)
    (hspare : Spare cache now request sid fallback) :
    Outcome e rules cache now found request m
      (settleUnknown e now request sid reason fallback m).1
      (settleUnknown e now request sid reason fallback m).2 := by
  have hunknown : Outcome e rules cache now found request m
      (if reason ≠ .notFound ∨ !e.settings.mintUnknown then
        (Item.nobody request.wanted.defaultKind reason, m)
      else mintItem e now sid request.wanted.defaultKind .machine none fallback
        (.nobody request.wanted.defaultKind .notFound) m).1
      (if reason ≠ .notFound ∨ !e.settings.mintUnknown then
        (Item.nobody request.wanted.defaultKind reason, m)
      else mintItem e now sid request.wanted.defaultKind .machine none fallback
        (.nobody request.wanted.defaultKind .notFound) m).2 := by
    split
    · exact .failed rfl
    · next hmint =>
        obtain ⟨hreason, hmint⟩ := not_or.mp hmint
        obtain rfl : reason = .notFound := Decidable.of_not_not hreason
        exact outcome_mintItem hsid (.nameless hname (by simpa using hmint)) hspare
  unfold settleUnknown
  simp only
  split
  · next hmachine =>
      split
      · next id hdecode => exact .localAccount hsid hname hmachine hdecode
      · exact hunknown
      · exact .failed rfl
  · exact hunknown

/-- What the first pass leaves to the second: an item that is settled already, or one
with a name, or one that waits for the directory. -/
inductive Awaiting (cache : Cache) (now : Int) (request : Request) (sid : Sid) : Item → Prop
  | named {name : WindowsName} {fallback : Fallback} {answer : Answer}
      (hname : KnownName cache now request sid name)
      (hspare : Spare cache now request sid fallback) :
      Awaiting cache now request sid { answer, state := .awaitsRules name .cached fallback }
  | unnamed {fallback : Fallback} {answer : Answer}
      (hcache : cache.nameOf sid now = .error .notFound)
      (hspare : Spare cache now request sid fallback) :
      Awaiting cache now request sid { answer, state := .awaitsDirectory fallback }
  | refused {failure : Failure} : Awaiting cache now request sid (.failed failure)

theorem awaiting_findName {fallback : Fallback} (hspare : Spare cache now request sid fallback) :
    Awaiting cache now request sid (findName cache now request sid fallback) := by
  unfold findName
  split
  · next name type hname htype => exact .named (.given hname htype) hspare
  · split
    · next entry hentry => exact .named (.reserved hentry) hspare
    · split
      · next hit hhit => exact .named (.cached hhit) hspare
      · next hmissing => exact .unnamed hmissing hspare
      · exact .refused

theorem outcome_awaiting {item : Item} (hsid : request.id = .sid sid)
    (hitem : firstPass cache now request = item) (h : Awaiting cache now request sid item) :
    Outcome e rules cache now found request m
      (secondPass e rules now request item (answerFor found request) m).1
      (secondPass e rules now request item (answerFor found request) m).2 := by
  unfold secondPass
  rw [hsid]
  cases h with
  | named hname hspare => exact outcome_applyRules hsid (.known hname) hspare
  | unnamed hcache hspare =>
      have hawaits : awaitedSid? request (firstPass cache now request) = some sid := by
        rw [hitem, awaitedSid?, hsid]
      simp only
      cases hanswer : answerFor found request with
      | none => exact outcome_settleUnknown hsid ⟨hawaits, Or.inr ⟨hanswer, rfl⟩⟩ hspare
      | some answer =>
          cases answer with
          | error reason => exact outcome_settleUnknown hsid ⟨hawaits, Or.inl hanswer⟩ hspare
          | ok entry => exact outcome_applyRules hsid (.directory hanswer) hspare
  | refused => exact .failed rfl

/-- The second pass leaves an item that is settled as it stands. -/
theorem secondPass_of_isFinal {item : Item} {answer : Option (Except Failure Directory.Entry)}
    (h : item.state.isFinal = true) : secondPass e rules now request item answer m = (item, m) := by
  unfold secondPass
  cases request.id with
  | unix id => rfl
  | sid sid =>
      simp only
      split
      · next hstate => rw [hstate] at h; cases h
      · next hstate => rw [hstate] at h; cases h
      · rfl

theorem id_of_awaitedSid? {item : Item} (h : awaitedSid? request item = some sid) :
    request.id = .sid sid := by
  unfold awaitedSid? at h
  split at h
  · next hid =>
      cases h
      exact hid
  · cases h

/-- The second pass only looks at what was found for an item that waits. -/
theorem secondPass_congr {item : Item} {answer answer' : Option (Except Failure Directory.Entry)}
    (h : ∀ sid, awaitedSid? request item = some sid → answer = answer') :
    secondPass e rules now request item answer m
      = secondPass e rules now request item answer' m := by
  unfold secondPass
  cases hid : request.id with
  | unix id => rfl
  | sid sid =>
      simp only
      cases hstate : item.state with
      | awaitsDirectory fallback =>
          have hawaits : awaitedSid? request item = some sid := by
            rw [awaitedSid?, hstate, hid]
          rw [h sid hawaits]
      | start => rfl
      | cacheHit => rfl
      | awaitsRules _ _ _ => rfl
      | resolved _ => rfl
      | failed _ => rfl

theorem outcome_cacheAnswer {hit : CachedId} (hsid : request.id = .sid sid)
    (h : cache.idOf sid request.wanted now = .ok hit) :
    Outcome e rules cache now found request m (cacheAnswer request hit) m ∧
      (cacheAnswer request hit).state.isFinal = true := by
  unfold cacheAnswer
  cases hcheck : hit.check request.wanted with
  | error failure => exact ⟨.failed rfl, rfl⟩
  | ok u => exact ⟨.cached hsid h hcheck, rfl⟩

/-- The first pass settles an item, or leaves it to the second. -/
theorem firstPass_cases (hsid : request.id = .sid sid) :
    (Outcome e rules cache now found request m (firstPass cache now request) m ∧
      (firstPass cache now request).state.isFinal = true) ∨
      Awaiting cache now request sid (firstPass cache now request) := by
  unfold firstPass
  rw [hsid]
  simp only
  by_cases hwanted : request.wanted = .sid
  · rw [if_pos hwanted]
    exact Or.inl ⟨.failed rfl, rfl⟩
  rw [if_neg hwanted]
  split
  · next id direction hreserved => exact Or.inl ⟨.reserved hsid hreserved, rfl⟩
  · exact Or.inl ⟨.failed rfl, rfl⟩
  · unfold searchCache
    split
    · next hit hhit =>
        by_cases hkeep : (!hit.expired || request.cacheOnly) = true
        · rw [if_pos hkeep]
          exact Or.inl (outcome_cacheAnswer hsid hhit)
        · rw [if_neg hkeep]
          have hexpired : hit.expired = true := by
            simp only [Bool.or_eq_true, Bool.not_eq_true', not_or] at hkeep
            simpa using hkeep.1
          exact Or.inr (awaiting_findName (.expired hhit hexpired))
    · next hmiss =>
        by_cases honly : request.cacheOnly = true
        · rw [if_pos honly]
          exact Or.inl ⟨.failed rfl, rfl⟩
        · rw [if_neg honly]
          exact Or.inr (awaiting_findName (.nothing hmiss))
    · exact Or.inl ⟨.failed rfl, rfl⟩

/-- **Every item of a batch comes to one of the outcomes.** -/
theorem outcome (e : Engine δ α) (rules : RuleTable) (cache : Cache) (now : Int) (found : Found)
    (request : Request) (m : Mint α) :
    Outcome e rules cache now found request m
      (secondPass e rules now request (firstPass cache now request) (answerFor found request) m).1
      (secondPass e rules now request (firstPass cache now request) (answerFor found request) m).2
    := by
  cases hid : request.id with
  | unix id =>
      have hfirst : firstPass cache now request = .failed (.badSid id.text) := by
        rw [firstPass, hid]
      rw [hfirst, secondPass_of_isFinal rfl]
      exact .failed rfl
  | sid sid =>
      rcases firstPass_cases hid with ⟨hitem, hfinal⟩ | hawaiting
      · rw [secondPass_of_isFinal hfinal]
        exact hitem
      · exact outcome_awaiting hid rfl hawaiting

theorem Outcome.asked {item : Item} {m' : Mint α}
    (h : Outcome e rules cache now found request m item m') (hok : item.answer.isSuccess = true) :
    ∃ sid id, request.id = .sid sid ∧ item.answer.id = some (.unix id) := by
  cases h with
  | failed hfailed | exhausted hfailed _ =>
      rw [hfailed] at hok
      cases hok
  | reserved hsid _ => exact ⟨_, _, hsid, rfl⟩
  | cached hsid _ _ => exact ⟨_, _, hsid, rfl⟩
  | ruled hsid _ _ _ _ => exact ⟨_, _, hsid, rfl⟩
  | localAccount hsid _ _ _ => exact ⟨_, _, hsid, rfl⟩
  | minted hsid _ _ _ => exact ⟨_, _, hsid, rfl⟩

end Outcome

/-! ### Writing back -/

/-- The mapping that is written for an item, if one is. -/
def written? (request : Request) (item : Item) : Option IdMapping :=
  match item.state, request.id, item.answer.unix? with
  | .resolved resolution, .sid sid, some id =>
    if item.answer.isSuccess then
      some (resolution.mapping sid id item.answer.name item.answer.direction)
    else none
  | _, _, _ => none

variable {settings : Settings} {now : Int} {request : Request} {item : Item} {cache : Cache}

/-- The mapping that is written repeats the answer. -/
theorem written?_eq_some {m : IdMapping} (h : written? request item = some m) :
    ∃ resolution, item.state = .resolved resolution ∧ request.id = .sid m.sid ∧
      item.answer.id = some (.unix m.id) ∧ item.answer.isSuccess = true ∧
      m = resolution.mapping m.sid m.id item.answer.name item.answer.direction := by
  unfold written? at h
  split at h
  · next resolution sid id hstate hsid hid =>
      split at h
      · next hok =>
          cases h
          refine ⟨resolution, hstate, hsid, ?_, hok, rfl⟩
          unfold Answer.unix? at hid
          cases hanswer : item.answer.id with
          | none => rw [hanswer] at hid; cases hid
          | some identity =>
              rw [hanswer] at hid
              cases identity with
              | sid s => cases hid
              | unix u => cases hid; rfl
      · cases h
  · cases h

/-- Whatever is worked out for an item that succeeds is written. -/
theorem written?_of_resolved {resolution : Resolution} {sid : Sid} {id : UnixId}
    (hstate : item.state = .resolved resolution) (hsid : request.id = .sid sid)
    (hid : item.answer.id = some (.unix id)) (hok : item.answer.isSuccess = true) :
    written? request item
      = some (resolution.mapping sid id item.answer.name item.answer.direction) := by
  simp only [written?, hstate, hsid, Answer.unix?, hid, Option.bind_some, Identity.unix?,
    if_pos hok]

/-- An item either changes nothing, or its mapping is written. -/
theorem record_cases (settings : Settings) (now : Int) (request : Request) (item : Item)
    (cache : Cache) :
    (written? request item = none ∧ record settings now request item cache = cache) ∨
      ∃ m, written? request item = some m ∧
        cache.Wrote m (record settings now request item cache) := by
  unfold written?
  split
  · next resolution sid id hstate hsid hid =>
      unfold record
      simp only [hstate, hsid, hid]
      by_cases hok : item.answer.isSuccess = true
      · simp only [if_pos hok]
        refine Or.inr ⟨_, rfl, Cache.Wrote.congr ?_ (ids_cacheResolution ..)⟩
        cases resolution.superseded with
        | none => exact Cache.wrote_putId cache _
        | some old =>
            by_cases heph : isEphemeral id.number = true
            · simp only [if_pos heph]
              exact Cache.wrote_putId cache _
            · simp only [if_neg heph]
              exact Cache.wrote_supersede cache old.kind _
      · simp only [if_neg hok]
        exact Or.inl ⟨trivial, trivial⟩
  · next hother =>
      refine Or.inl ⟨rfl, ?_⟩
      unfold record
      split
      · next resolution sid id hstate hsid hid => exact (hother _ _ _ hstate hsid hid).elim
      · rfl

theorem wrote_record {m : IdMapping} (settings : Settings) (now : Int) (cache : Cache)
    (hm : written? request item = some m) :
    cache.Wrote m (record settings now request item cache) := by
  rcases record_cases settings now request item cache with ⟨hnone, -⟩ | ⟨m', hm', hwrote⟩
  · rw [hm] at hnone
    cases hnone
  · rw [hm] at hm'
    cases hm'
    exact hwrote

/-- A name that is in the cache after an item was written was there before, or is the name
that the directory gave for the item. -/
theorem mem_names_record {row : NameRow}
    (h : row ∈ (record settings now request item cache).names) :
    row ∈ cache.names ∨ ∃ resolution sid name, item.state = .resolved resolution ∧
      request.id = .sid sid ∧ item.answer.isSuccess = true ∧ resolution.source = .directory ∧
      resolution.windowsName = some name ∧ row = (nameMapping settings now sid name).row := by
  unfold record at h
  split at h
  · next resolution sid id hstate hsid hid =>
      by_cases hok : item.answer.isSuccess = true
      · rw [if_pos hok] at h
        rcases mem_names_cacheResolution h with hrow | ⟨name, hsource, hname, hrow⟩
        · refine Or.inl ?_
          split at hrow
          · split at hrow <;> exact hrow
          · exact hrow
        · exact Or.inr ⟨resolution, sid, name, hstate, hsid, hok, hsource, hname, hrow⟩
      · rw [if_neg hok] at h
        exact Or.inl h
  · exact Or.inl h

end SidToId

end IdentityMap
