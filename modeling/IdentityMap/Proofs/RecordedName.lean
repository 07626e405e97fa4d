/-
The unix name in the cache.

When a rule maps a unix id, the name of the account is worked out twice: before the rules are
applied, and again when the row is written.  The two agree unless the request comes with an empty
name.  The rules take that for no name at all and are applied to the account's own; but it is the
empty name that is written, and that everyone is told from then on who asks for the SID.
-/
import IdentityMap.Directory.Fixed
import IdentityMap.Proofs.Cache.Overwriting

namespace IdentityMap

variable {δ α : Type}

/-! ### The name that is written -/

/-- What was worked out for an item is its answer. -/
theorem Item.Concluded.isSuccess_of_resolved {item : Item} (h : item.Concluded)
    {resolution : Resolution} (hstate : item.state = .resolved resolution) :
    item.answer.isSuccess = true := by
  cases hfailure : item.answer.failure with
  | none => rw [Answer.isSuccess, hfailure]; rfl
  | some failure =>
      have hfailed := (h.failed_iff failure).mpr hfailure
      rw [hstate] at hfailed
      cases hfailed

namespace IdToSid

/-- A rule maps the unix id that is asked for: the account's name is `name`, and the rules lead
from it to `found`. -/
structure RuledBy (e : Engine δ α) (now : Int) (request : Request) (s : EngineState δ α)
    (id : UnixId) (name : String) (found : WindowsMatch) : Prop
    extends LeftOpen s.cache now request id where
  named : UnixNamed e.names request id name
  matched : (Rule.mapToWindows s.rules e.settings.domain? name id.kind
    (resolveName e.directory s.cache now) s.directory).1 = .ok found

/-- The mapping that is written for a unix id that a rule maps. -/
def ruledMapping (e : Engine δ α) (now : Int) (request : Request) (id : UnixId)
    (found : WindowsMatch) : IdMapping where
  sid := found.account.sid
  windowsDomain := some found.windowsDomain
  windowsName := some found.windowsName
  id
  unixName := recordedName e.names request id
  direction := found.direction
  expiry := e.settings.idExpiry now

variable {e : Engine δ α} {now : Int} {request : Request} {s : EngineState δ α} {id : UnixId}
  {name : String} {found : WindowsMatch}

/-- What is written is the name that the rules were applied to, unless an empty one was given. -/
theorem UnixNamed.recordedName_eq {names : NameService} (h : UnixNamed names request id name) :
    recordedName names request id = some (if request.name = some "" then "" else name) := by
  unfold recordedName
  cases h with
  | given hgiven =>
      obtain ⟨hname, hnonempty⟩ := Option.filter_eq_some_iff.mp hgiven
      have hne : request.name ≠ some "" := by
        intro hempty
        rw [hname] at hempty
        cases hempty
        cases hnonempty
      rw [if_neg hne, hname, Option.some_or]
  | account hgiven hnamed =>
      cases hname : request.name with
      | none => rw [Option.none_or, hnamed, if_neg (by simp)]; rfl
      | some given =>
          have hempty : given = "" := by
            rw [Request.givenName?, hname] at hgiven
            simpa using hgiven
          rw [Option.some_or, hempty, if_pos rfl]

theorem LeftOpen.settleUncached_eq (h : LeftOpen s.cache now request id)
    (hname : UnixNamed e.names request id name) :
    settleUncached e s.cache s.rules now request id s.directory
      = applyRules e s.cache s.rules now id name s.directory := by
  rw [settleUncached, h.notMinted, h.unflagged, if_neg (by decide)]
  cases hname with
  | given hgiven => rw [hgiven]
  | account hgiven hnamed => rw [hgiven]; simp only [hnamed]

theorem RuledBy.resolve_eq (h : RuledBy e now request s id name found) :
    (resolve e s.cache s.rules now request s.directory).1 = ruledItem e now found := by
  have hsettled : resolve e s.cache s.rules now request s.directory
      = applyRules e s.cache s.rules now id name s.directory := by
    rw [← h.toLeftOpen.settleUncached_eq h.named]
    simp only [resolve, h.asked, h.wanted, h.notReserved, h.uncached, ne_eq, not_true_eq_false,
      if_false]
  have hmatched : Rule.mapToWindows s.rules e.settings.domain? name id.kind
      (resolveName e.directory s.cache now) s.directory
      = (.ok found, (Rule.mapToWindows s.rules e.settings.domain? name id.kind
        (resolveName e.directory s.cache now) s.directory).2) := Prod.ext h.matched rfl
  rw [hsettled, applyRules, hmatched]
  rfl

/-- This leaves no item out: a rule maps just those that are worked out and have a Windows name. -/
theorem exists_ruledBy_iff :
    (∃ id name found, RuledBy e now request s id name found) ↔
      ∃ resolution, (resolve e s.cache s.rules now request s.directory).1.state
          = .resolved resolution ∧ resolution.windowsName.isSome = true := by
  constructor
  · rintro ⟨id, name, found, h⟩
    exact ⟨_, by rw [h.resolve_eq]; rfl, rfl⟩
  · rintro ⟨resolution, hstate, hnamed⟩
    rcases decided_or_leftOpen s.cache now request with ⟨item, hdecided⟩ | ⟨id, hopen⟩
    · have hidle := hdecided.idle
      rw [hdecided.resolve] at hstate
      rw [hstate] at hidle
      cases hidle
    · have houtcome := outcome e s.cache s.rules now request s.directory
      have hconcluded := (conclusion e s.cache s.rules now request s.directory).toConcluded
      generalize (resolve e s.cache s.rules now request s.directory).1 = item
        at hstate houtcome hconcluded
      cases houtcome with
      | failed hfailed =>
          rw [hconcluded.isSuccess_of_resolved hstate] at hfailed
          cases hfailed
      | reserved _ _ | cached _ _ _ => cases hstate
      | ruled hid _ _ hname hmatched =>
          obtain rfl := Identity.unix.inj (hopen.asked.symm.trans hid)
          exact ⟨id, _, _, hopen, hname, congrArg Prod.fst hmatched⟩
      | localAccount _ _ _ _ _ =>
          cases hstate
          cases hnamed

/-- The mapping of an item that a rule maps takes its place in the cache. -/
theorem RuledBy.ids_mapId (h : RuledBy e now request s id name found) :
    (e.mapId now request s).2.cache.ids
      = (s.cache.putId (ruledMapping e now request id found)).ids := by
  show (record e.settings e.names now request
    (resolve e s.cache s.rules now request s.directory).1 s.cache).ids = _
  rw [h.resolve_eq]
  simp only [record, ruledItem, h.asked, Answer.sid?, Option.bind_some, Identity.sid?,
    Answer.isSuccess, Option.isNone_none, if_true]
  exact ids_cacheResolution ..

end IdToSid

/-! ### The name that is told -/

namespace SidToId

/-- A request for the SID of a mapping that is answered by its row. -/
structure HitBy (m : IdMapping) (cache : Cache) (now : Int) (request : Request) : Prop where
  asked : request.id = .sid m.sid
  notReserved : WellKnown.idOf m.sid request.wanted = none
  found : cache.idRow? m.sid now = some m.row
  admitted : request.wanted.admits m.id.kind = true

/-- The row of an id that was not minted answers with what it says. -/
theorem HitBy.firstPass_eq {m : IdMapping} {cache : Cache} {now : Int} {request : Request}
    (h : HitBy m cache now request) (hfixed : isEphemeral m.id.number = false) :
    firstPass cache now request = { answer := m.unixAnswer, state := .cacheHit } := by
  have hanswers : m.row.answersSid m.sid now = true := by
    have hfound := h.found
    unfold Cache.idRow? at hfound
    simpa using List.find?_some hfound
  have hfresh : IdRow.isExpired m.id.number m.row.expiration now = false := by
    rw [IdRow.isExpired, hfixed, Bool.false_and, Bool.false_and]
  exact firstPass_of_row h.found h.asked h.notReserved
    (IdMapping.answersSid_row_iff.mp hanswers).1 h.admitted hfresh

end SidToId

/--
**A row bears the name that the rules were applied to, unless an empty one was given.**

Whatever rule maps a unix id, its mapping is written, and whoever asks for the SID and is answered
by that row is told the name in it, by any engine on this cache and at any time.  For a request with
an empty name that is the empty name, and the account's own, to which the rules were applied, is
lost; for all others it is the name to which they were applied.
-/
theorem recorded_name_is_used_name_iff (e : Engine δ α) (now : Int) (s : EngineState δ α)
    {request : Request} {id : UnixId} {name : String} {found : WindowsMatch}
    (h : IdToSid.RuledBy e now request s id name found) :
    let m := IdToSid.ruledMapping e now request id found
    (e.mapId now request s).1.id = some (.sid m.sid) ∧
      (e.mapId now request s).2.cache.ids = (s.cache.putId m).ids ∧
      (m.unixName = some name ↔ (request.name = some "" → name = "")) ∧
      (request.name = some "" → m.unixName = some "") ∧
      ∀ {δ' α' : Type} (e' : Engine δ' α') (s' : EngineState δ' α') (t : Int)
        (requests : List Request) (i : Nat) (later : Request), requests[i]? = some later →
        SidToId.HitBy m s'.cache t later →
        (e'.mapSids t requests s').1[i]? = some
          { id := some (.unix id), direction := found.direction, failure := none
            name := m.unixName } := by
  intro m
  have hname : m.unixName = some (if request.name = some "" then "" else name) :=
    h.named.recordedName_eq
  refine ⟨congrArg (·.answer.id) h.resolve_eq, h.ids_mapId, ?_, ?_, ?_⟩
  · rw [hname, Option.some.injEq]
    constructor
    · intro hsame hempty
      rw [if_pos hempty] at hsame
      exact hsame.symm
    · intro hnameless
      split
      · next hempty => exact (hnameless hempty).symm
      · rfl
  · intro hempty
    rw [hname, if_pos hempty]
  · intro δ' α' e' s' t requests i later hi hhit
    have hfirst := hhit.firstPass_eq h.notMinted
    have hidle : (SidToId.firstPass s'.cache t later).state.isIdle = true := by
      rw [hfirst]
      rfl
    rw [(mapSids_eraseIdx e' s' hidle hi).1, hfirst]
    rfl

namespace Lab

/-- A user that the directory knows. -/
def alice : Directory.Entry where
  sid := { base := "S-1-5-21-7", rid := 1104 }
  name := "alice"
  domain := "LAB"
  type := .user

/-- A user of the host. -/
def bob : UnixId where
  kind := .uid
  number := 1001

/-- The engine of a host with one user. -/
def engine : Engine Directory.Fixed.State SequentialIds where
  settings := {}
  names := .ofTables { entries := [("bob", 1001)] } {}
  directory := Directory.Fixed.client { entries := [alice], timeouts := [] }
  authority := SequentialIds.authority
  blockSize := 1

/-- Bob stands for alice, and alice for bob. -/
def start : EngineState Directory.Fixed.State SequentialIds :=
  .fresh
    { rules :=
        [{ isUser := true, windowsDomain := some "LAB", windowsName := "alice", unixName := "bob"
           isNt4 := false, toUnixOrder := some 2, toWindowsOrder := some 2 }] }
    {} .aboveReserved

/-- What the rule makes of bob. -/
def found : WindowsMatch where
  account := { sid := alice.sid, type := .user, source := .directory }
  windowsName := "alice"
  windowsDomain := "LAB"
  direction := .both

/-- A request for bob's SID that does not name him is mapped under his own name. -/
theorem ruledBy (request : Request) (hid : request.id = .unix bob)
    (hwanted : request.wanted = .sid) (hname : request.givenName? = none)
    (hfree : request.cacheOnly = false) :
    IdToSid.RuledBy engine 0 request start bob "bob" found where
  asked := hid
  wanted := hwanted
  notReserved := by decide
  uncached := rfl
  notMinted := rfl
  unflagged := hfree
  named := .account hname rfl
  matched := by decide +kernel

end Lab

/-- Bob is written under his name, and alice is told that she is bob. -/
theorem recorded_name_is_used_name_iff_bob :
    let request : Request := { id := .unix Lab.bob, wanted := .sid }
    let later : Request := { id := .sid Lab.alice.sid, wanted := .posix }
    (IdToSid.ruledMapping Lab.engine 0 request Lab.bob Lab.found).unixName = some "bob" ∧
      (Lab.engine.mapSids 1 [later] (Lab.engine.mapId 0 request Lab.start).2).1[0]? = some
        { id := some (.unix Lab.bob), direction := .both, failure := none
          name := some "bob" } := by
  intro request later
  obtain ⟨-, -, hsame, -, htold⟩ := recorded_name_is_used_name_iff Lab.engine 0 Lab.start
    (Lab.ruledBy request rfl rfl rfl rfl)
  have hname := hsame.mpr (fun hempty => by cases hempty)
  refine ⟨hname, ?_⟩
  rw [htold Lab.engine (Lab.engine.mapId 0 request Lab.start).2 1 [later] 0 later rfl
    ⟨rfl, by decide, by decide +kernel, rfl⟩, hname]
  rfl

/-- With an empty name bob is mapped under his own, but the row has none for him, and alice is told
none. -/
theorem recorded_without_name_bob :
    let request : Request := { id := .unix Lab.bob, wanted := .sid, name := some "" }
    let later : Request := { id := .sid Lab.alice.sid, wanted := .posix }
    IdToSid.RuledBy Lab.engine 0 request Lab.start Lab.bob "bob" Lab.found ∧
      (Lab.engine.mapId 0 request Lab.start).2.cache.ids.map (·.unixName) = [some ""] ∧
      (Lab.engine.mapSids 1 [later] (Lab.engine.mapId 0 request Lab.start).2).1 =
        [{ id := some (.unix Lab.bob), direction := .both, failure := none, name := some "" }] := by
  intro request later
  exact ⟨Lab.ruledBy request rfl rfl (by decide) rfl, by decide +kernel, by decide +kernel⟩

end IdentityMap
