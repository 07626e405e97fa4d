/-
An account mapped by its name, and by its SID.

By name the account is looked up first, and its SID is then mapped under the name that the
caller gave.  By SID it is mapped under the name in the directory.  The two names are spellings
of one name, so the same rules apply to them in the same order; and nothing but a `*` that takes
the name over passes the spelling on to the host, whose names are compared exactly.

Only a `*` that comes first can do that.  A rule with any other destination decides, and if the
first `*` is told the same of both spellings, so is the next.
-/
import Mathlib.Data.List.Nodup
import IdentityMap.Proofs.Denial
import IdentityMap.Proofs.Mapping.Conclusion
import IdentityMap.Proofs.OneRound

namespace IdentityMap

open Directory (Fixed)

/-! ### What the rules say, but for the unix name -/

namespace Rule

/-- The unix id and the direction that the rules give, or why they give none. -/
def verdict (answer : Except Failure UnixMatch) : Except Failure (UnixId × Direction) :=
  answer.map fun found => (found.id, found.direction)

/-- The first rule gives the account its own name. -/
def keepsName (candidates : List UnixCandidate) : Bool :=
  candidates.head?.any fun candidate => isWildcard candidate.unixName

/-- The rules say the same of two names between which the host makes no difference, and of any
two if the first rule does not keep the name. -/
theorem verdict_tryUnix_congr {names : NameService} {kind : IdKind} {name name' : String}
    {candidates : List UnixCandidate}
    (h : keepsName candidates = true → names.idOf kind name = names.idOf kind name') :
    verdict (tryUnix names kind name candidates) = verdict (tryUnix names kind name' candidates) := by
  induction candidates with
  | nil => rfl
  | cons candidate rest ih =>
      unfold tryUnix
      by_cases hdeny : isEmptyName candidate.unixName = true
      · simp only [if_pos hdeny]
      by_cases hself : isWildcard candidate.unixName = true
      · have hsame := h hself
        simp only [if_neg hdeny, if_pos hself, hsame]
        split
        · rfl
        · exact ih fun _ => hsame
        · rfl
      · simp only [if_neg hdeny, if_neg hself]

end Rule

/-! ### Items under two names -/

/-- The two answers give the same identity in the same direction, or fail alike. -/
structure Answer.SameMapping (a b : Answer) : Prop where
  id : a.id = b.id
  direction : a.direction = b.direction
  failure : a.failure = b.failure

namespace SidToId

variable {δ α : Type} {e : Engine δ α} {rules : RuleTable} {now : Int} {request request' : Request}
  {sid : Sid} {kind : IdKind} {name name' : WindowsName} {source source' : NameSource}
  {fallback : Fallback} {m : Mint α}

/-- What an item is called has no part in the id that it gets. -/
theorem sameMapping_mintItem {names names' : Option WindowsName} {answer answer' : Answer}
    (h : answer.SameMapping answer') :
    (mintItem e now sid kind source names fallback answer m).1.answer.SameMapping
      (mintItem e now sid kind source' names' fallback answer' m).1.answer := by
  unfold mintItem
  split
  · exact ⟨h.id, h.direction, rfl⟩
  · exact ⟨rfl, rfl, rfl⟩

/-- Two names of which the rules say the same lead to the same id. -/
theorem sameMapping_applyRules (hkind : name.type.verify request.wanted = .ok kind)
    (hkind' : name'.type.verify request'.wanted = .ok kind)
    (h : Rule.verdict (Rule.mapToUnix rules e.names e.settings.domain? name.name
        (some name.domain) kind)
      = Rule.verdict (Rule.mapToUnix rules e.names e.settings.domain? name'.name
        (some name'.domain) kind)) :
    (applyRules e rules now request sid name source fallback m).1.answer.SameMapping
      (applyRules e rules now request' sid name' source' fallback m).1.answer := by
  unfold applyRules
  simp only [hkind, hkind']
  cases hmapped : Rule.mapToUnix rules e.names e.settings.domain? name.name (some name.domain)
      kind with
  | ok found =>
      cases hmapped' : Rule.mapToUnix rules e.names e.settings.domain? name'.name
          (some name'.domain) kind with
      | ok found' =>
          rw [hmapped, hmapped'] at h
          obtain ⟨hid, hdirection⟩ := Prod.mk.inj (Except.ok.inj h)
          exact ⟨congrArg (fun id => some (Identity.unix id)) hid, hdirection, rfl⟩
      | error failure' =>
          rw [hmapped, hmapped'] at h
          cases h
  | error failure =>
      cases hmapped' : Rule.mapToUnix rules e.names e.settings.domain? name'.name
          (some name'.domain) kind with
      | ok found' =>
          rw [hmapped, hmapped'] at h
          cases h
      | error failure' =>
          rw [hmapped, hmapped'] at h
          cases h
          cases failure with
          | notFound => exact sameMapping_mintItem ⟨rfl, rfl, rfl⟩
          | _ => exact ⟨rfl, rfl, rfl⟩

end SidToId

/-! ### Both ways to an account -/

section Account

variable {α : Type} {e : Engine Fixed.State α} {fixed : Fixed} {now : Int} {name domain : String}
  {wanted : Wanted} {s : EngineState Fixed.State α} {sid : Sid} {entry : Directory.Entry}
  {kind : IdKind}

/-- A reserved name stands for a reserved SID. -/
theorem WellKnown.ofSid_ne_none_of_ofName {entry : WellKnown} (h : ofName name = some entry) :
    ofSid entry.sid ≠ none := by
  intro hnone
  refine List.find?_eq_none.mp hnone entry (List.mem_of_find?_eq_some h) ?_
  simp [isFor, WellKnown.sid, Sid.hasBase, sameFolded_refl]

/-- With an empty cache, the account of an ordinary SID comes from the directory. -/
theorem source_of_resolveName {δ : Type} {client : Directory.Client δ} {d d' : δ}
    {account : NamedAccount}
    (h : IdToSid.resolveName client {} now name domain d = (.ok account, d'))
    (hordinary : WellKnown.ofSid account.sid = none) : account.source = .directory := by
  unfold IdToSid.resolveName at h
  have hmissing : Cache.accountNamed {} name (if domain.isEmpty then none else some domain) now
      = .error .notFound := rfl
  cases hreserved : WellKnown.ofName name with
  | some entry =>
      rw [hreserved] at h
      cases h
      exact absurd hordinary (WellKnown.ofSid_ne_none_of_ofName hreserved)
  | none =>
      simp only [hreserved, hmissing] at h
      cases hlookup : (Directory.lookupOne client (.ofName name domain) d).1 with
      | error failure =>
          rw [hlookup] at h
          cases h
      | ok entry =>
          rw [hlookup] at h
          cases h
          rfl

/-- The only entry with a SID is what the directory has for it. -/
theorem Directory.Fixed.resolve_of_mem (hsids : (fixed.entries.map (·.sid)).Nodup)
    (htimeouts : fixed.timeouts = []) (hentry : entry ∈ fixed.entries) :
    fixed.resolve (.ofSid entry.sid) = .ok entry := by
  have hreachable : fixed.timeouts.contains entry.sid = false := by
    rw [htimeouts]
    rfl
  simp only [resolve, hreachable, Bool.false_eq_true, if_false]
  cases hfound : fixed.entries.find? (·.sid == entry.sid) with
  | none => exact absurd (beq_self_eq_true entry.sid) (List.find?_eq_none.mp hfound entry hentry)
  | some found =>
      have hsid : found.sid = entry.sid := by simpa using List.find?_some hfound
      rw [List.inj_on_of_nodup_map hsids (List.mem_of_find?_eq_some hfound) hentry hsid]

/-- By SID the account is mapped under its name in the directory. -/
theorem mapSids_of_entry (hdirectory : e.directory = fixed.client)
    (hsids : (fixed.entries.map (·.sid)).Nodup) (htimeouts : fixed.timeouts = [])
    (hcalm : s.directory.outages = 0) (hcache : s.cache = {}) (hentry : entry ∈ fixed.entries)
    (hordinary : WellKnown.ofSid entry.sid = none) (hwanted : wanted ≠ .sid) :
    (e.mapSids now [{ id := .sid entry.sid, wanted }] s).1
      = [(SidToId.applyRules e s.rules now { id := .sid entry.sid, wanted } entry.sid
          { name := entry.name, domain := entry.domain, type := entry.type } .directory none
          { allocator := s.allocator }).1.answer] := by
  have hneeds : SidToId.NeedsName s.cache now { id := .sid entry.sid, wanted } entry.sid := by
    rw [hcache]
    exact ⟨rfl, hwanted, ⟨rfl, rfl⟩, ⟨WellKnown.idOf_of_ordinary hordinary wanted, hordinary⟩,
      ⟨none, .nothing rfl⟩, Or.inl rfl, rfl⟩
  have hfirst : SidToId.firstPass s.cache now { id := .sid entry.sid, wanted }
      = { state := .awaitsDirectory none } := by
    obtain ⟨fallback, hspare, hitem⟩ := SidToId.firstPass_of_needsName hneeds
    rw [hcache] at hspare
    cases hspare with
    | nothing _ => exact hitem
    | expired hhit _ => cases hhit
  have hfound : SidToId.answerFor
      (batchFound e now [{ id := .sid entry.sid, wanted }] s).1 { id := .sid entry.sid, wanted }
        = some (.ok entry) := by
    rw [batchFound, hdirectory, SidToId.answerFor_awaited (List.mem_singleton_self _) rfl
      (SidToId.awaitedSid?_firstPass_iff.mpr hneeds), hcalm, Fixed.answerAt, if_pos (by decide),
      Fixed.resolve_of_mem hsids htimeouts hentry]
    rfl
  rw [mapSids_singleton, hfirst, hfound]
  rfl

theorem AccountType.accountType?_wanted (type : AccountType) :
    type.kind.wanted.accountType? = some type := by
  cases type <;> rfl

/-- A request that brings a name and says what kind of account it is goes to the rules, if the
cache has no id for its SID. -/
theorem SidToId.firstPass_of_given {cache : Cache} {request : Request} {type : AccountType}
    (hids : cache.ids = []) (hordinary : WellKnown.ofSid sid = none) (hsid : request.id = .sid sid)
    (hfree : request.cacheOnly = false) (hname : request.givenName? = some name)
    (htype : request.wanted.accountType? = some type) :
    firstPass cache now request
      = { state := .awaitsRules { name, domain := request.domain.getD "", type } .cached none } := by
  have hmissing : cache.idOf sid request.wanted now = .error .notFound := by
    simp [Cache.idOf, Cache.idRow?, hids]
  have hwanted : request.wanted ≠ .sid := by
    intro hcontra
    rw [hcontra] at htype
    cases htype
  simp only [firstPass, hsid, if_neg hwanted, WellKnown.idOf_of_ordinary hordinary, searchCache,
    hmissing, hfree, Bool.false_eq_true, if_false, findName, hname, htype]

/-- By name it is mapped under the name that the caller gave. -/
theorem mapName_of_ordinary {domain : Option String} (hdirectory : e.directory = fixed.client)
    (hcache : s.cache = {}) {answer : Answer}
    (h : (e.mapName now name domain wanted s).1 = .ok (sid, answer))
    (hordinary : WellKnown.ofSid sid = none) :
    ∃ entry ∈ fixed.entries, entry.sid = sid ∧
      Fixed.isNamed name (e.domainFor domain) entry = true ∧
      entry.type.verify wanted = .ok entry.type.kind ∧
      answer = (SidToId.applyRules e s.rules now
        { id := .sid sid, wanted := entry.type.kind.wanted, name := some name,
          domain := some (e.domainFor domain) } sid
        { name, domain := e.domainFor domain, type := entry.type } .cached none
        { allocator := s.allocator }).1.answer := by
  unfold Engine.mapName at h
  by_cases hempty : name.isEmpty = true
  · rw [if_pos hempty] at h
    cases h
  simp only [if_neg hempty, hcache, hdirectory] at h
  rcases hresolve : IdToSid.resolveName fixed.client {} now name (e.domainFor domain) s.directory
    with ⟨failure | account, d⟩
  · rw [hresolve] at h
    cases h
  rw [hresolve] at h
  simp only at h
  cases hkind : account.type.verify wanted with
  | error failure =>
      rw [hkind] at h
      cases h
  | ok kind =>
      obtain ⟨rfl, -⟩ := AccountType.verify_ok hkind
      rw [hkind] at h
      obtain ⟨rfl, hanswer⟩ := Prod.mk.inj (Except.ok.inj h)
      obtain ⟨entry, hentry, hsid, htype, hnamed⟩ :=
        entry_of_resolveName hresolve (source_of_resolveName hresolve hordinary)
      rw [← htype] at hkind hanswer
      refine ⟨entry, hentry, hsid, hnamed, hkind, ?_⟩
      have hgiven : Request.givenName?
          { id := .sid account.sid, wanted := entry.type.kind.wanted, name := some name,
            domain := some (e.domainFor domain) } = some name := by
        simp [Request.givenName?, Option.filter, hempty]
      rw [mapSids_singleton, SidToId.firstPass_of_given ?_ hordinary rfl rfl hgiven
        entry.type.accountType?_wanted] at hanswer
      · exact hanswer.symm
      · split <;> rfl

end Account

/--
**By name and by SID an account is mapped alike, unless a `*` keeps its name and the host makes a
difference between the two spellings.**

The directory has no failures and no SID twice, and nothing is cached.  Then whatever a name is
mapped to, its SID is mapped to by itself: the same unix id in the same direction, or the same
failure.  The one exception needs that the first rule for the account keeps its name, and that
the host's own names tell the caller's spelling from that in the directory.
-/
theorem mapName_agrees_with_mapSids {α : Type} (e : Engine Fixed.State α) (fixed : Fixed)
    (hdirectory : e.directory = fixed.client) (hsids : (fixed.entries.map (·.sid)).Nodup)
    (htimeouts : fixed.timeouts = []) (s : EngineState Fixed.State α)
    (hcalm : s.directory.outages = 0) (hcache : s.cache = {}) (now : Int) (name : String)
    (domain : Option String) (wanted : Wanted) (sid : Sid) (answer : Answer)
    (h : (e.mapName now name domain wanted s).1 = .ok (sid, answer))
    (hordinary : WellKnown.ofSid sid = none)
    (hspelling : ∀ entry ∈ fixed.entries, entry.sid = sid →
      Rule.keepsName (s.rules.unixCandidates entry.type.kind.isUser entry.name entry.domain
        (Rule.isDefaultDomain e.settings.domain? entry.domain)) = true →
      e.names.idOf entry.type.kind name = e.names.idOf entry.type.kind entry.name) :
    ∃ bySid, (e.mapSids now [{ id := .sid sid, wanted }] s).1 = [bySid] ∧
      answer.SameMapping bySid := by
  obtain ⟨entry, hentry, rfl, hnamed, hkind, rfl⟩ :=
    mapName_of_ordinary hdirectory hcache h hordinary
  have hwanted : wanted ≠ .sid := by
    rintro rfl
    cases hkind
  obtain ⟨hname, hdomain⟩ := Bool.and_eq_true_iff.mp hnamed
  have hverdict := Rule.verdict_tryUnix_congr (hspelling entry hentry rfl)
  have hmapped : Rule.verdict (Rule.mapToUnix s.rules e.names e.settings.domain? name
        (some (e.domainFor domain)) entry.type.kind)
      = Rule.verdict (Rule.mapToUnix s.rules e.names e.settings.domain? entry.name
        (some entry.domain) entry.type.kind) := by
    simp only [Rule.mapToUnix, Option.getD_some, ← Rule.isDefaultDomain_congr hdomain,
      ← Rule.unixCandidates_congr hname hdomain]
    exact hverdict
  exact ⟨_, mapSids_of_entry hdirectory hsids htimeouts hcalm hcache hentry hordinary hwanted,
    SidToId.sameMapping_applyRules entry.type.verify_kind hkind hmapped⟩

/-- Under a rule for her name, ALICE is mapped to bob as alice is. -/
theorem mapName_agrees_under_literal_rule :
    let s : EngineState Fixed.State SequentialIds :=
      .fresh { rules := [Corp.rule "alice" "bob" (some 2) (some 2)] } {} .aboveReserved
    let byName : Answer :=
      { id := some (.unix Corp.bob), failure := none, name := some "bob", domain := some "CORP" }
    (Corp.engine.mapName 0 "ALICE" none .posix s).1 = .ok (Corp.alice.sid, byName) ∧
      ∃ bySid, (Corp.engine.mapSids 0 [posixRequest Corp.alice.sid] s).1 = [bySid] ∧
        byName.SameMapping bySid := by
  intro s byName
  have hname : (Corp.engine.mapName 0 "ALICE" none .posix s).1 = .ok (Corp.alice.sid, byName) := by
    decide +kernel
  refine ⟨hname, mapName_agrees_with_mapSids Corp.engine Corp.fixed rfl (by decide) rfl s rfl rfl 0
    "ALICE" none .posix Corp.alice.sid byName hname (by decide) ?_⟩
  intro entry hentry _ hkeeps
  obtain rfl := List.mem_singleton.mp hentry
  exact absurd hkeeps (by decide +kernel)

/-- Under a rule that keeps every name, alice is a user of this host and ALICE is none: by name
she is given a minted id, and by SID the id of the user. -/
theorem mapName_differs_for_other_spelling :
    let e : Engine Fixed.State SequentialIds :=
      { Corp.engine with names := .ofTables { entries := [("alice", 1001)] } {} }
    let s : EngineState Fixed.State SequentialIds :=
      .fresh { rules := [Corp.rule "*" "*" (some 5) none] } {} .aboveReserved
    e.directory = Corp.fixed.client ∧ Corp.fixed.timeouts = [] ∧ s.directory.outages = 0 ∧
      (Corp.fixed.entries.map (·.sid)).Nodup ∧
      Corp.fixed.entries.Pairwise (fun a b => Fixed.isNamed a.name a.domain b = false) ∧
      s.cache = {} ∧ WellKnown.ofSid Corp.alice.sid = none ∧
      ∃ byName bySid, (e.mapName 0 "ALICE" none .uid s).1 = .ok (Corp.alice.sid, byName) ∧
        (e.mapSids 0 [{ id := .sid Corp.alice.sid, wanted := .uid }] s).1 = [bySid] ∧
        byName.id = some (.unix { kind := .uid, number := 0x80000001 }) ∧
        bySid.id = some (.unix { kind := .uid, number := 1001 }) ∧ ¬ byName.SameMapping bySid := by
  intro e s
  let byName : Answer :=
    { id := some (.unix { kind := .uid, number := 0x80000001 }), failure := none
      domain := some "CORP" }
  let bySid : Answer :=
    { id := some (.unix { kind := .uid, number := 1001 }), direction := .toUnix, failure := none
      name := some "alice", domain := some "CORP" }
  have hname : (e.mapName 0 "ALICE" none .uid s).1 = .ok (Corp.alice.sid, byName) := by
    decide +kernel
  have hsid : (e.mapSids 0 [{ id := .sid Corp.alice.sid, wanted := .uid }] s).1 = [bySid] := by
    decide +kernel
  refine ⟨rfl, rfl, rfl, by decide, by decide, rfl, by decide, byName, bySid, hname, hsid, rfl, rfl,
    fun hsame => ?_⟩
  exact absurd hsame.direction (by decide)

end IdentityMap
