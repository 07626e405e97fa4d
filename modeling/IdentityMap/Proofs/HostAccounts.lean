/-
The accounts of this host and their SIDs, there and back.

The two kinds share out the rids from 1000 on between them.  So a SID under the machine SID says
by itself whose it is, and no row of the cache is needed to find that out.

An engine comes to that only when nothing else has a name for the SID.  Then it is the one way
out that takes no id, whatever the directory's reason was and whether ids may be minted or not.
-/
import IdentityMap.Proofs.Mapping.Conclusion
import IdentityMap.Proofs.Mapping.Single
import IdentityMap.Proofs.OneRound

namespace IdentityMap

/-! ### Accounts and SIDs -/

namespace LocalAccount

variable {machine : String} {sid : Sid} {id : UnixId}

/-- A SID is read as the account that has it, if the request allows for its kind, and else the
kind is what is wrong. -/
theorem decode_of_encode (h : encode machine id = .ok sid) (wanted : Wanted) :
    decode sid wanted = (wanted.check id.kind "SID requested as unix id").map fun _ => id := by
  rw [decode, (encode_ok_iff_ofRid?.mp h).2]

/-- The accounts that have SIDs under a machine SID, and the rids from 1000 on, are one to
one. -/
structure OneToOne (machine : String) : Prop where
  encodes (id : UnixId) :
    (∃ sid, encode machine id = .ok sid) ↔ id.number.toNat < room id.kind
  denies (id : UnixId) (h : room id.kind ≤ id.number.toNat) :
    encode machine id = .error .denied
  /-- The rid is a sum, and the sum does not wrap. -/
  rid {id : UnixId} {sid : Sid} (h : encode machine id = .ok sid) :
    sid.base = machine ∧ sid.rid.toNat = id.number.toNat + (base id.kind).toNat
  decodes {id : UnixId} {sid : Sid} (h : encode machine id = .ok sid) {wanted : Wanted}
    (hwanted : wanted.admits id.kind = true) : decode sid wanted = .ok id
  notGroup {id : UnixId} {sid : Sid} (h : encode machine id = .ok sid) (hkind : id.kind = .uid) :
    decode sid .gid = .error .notGroup
  notUser {id : UnixId} {sid : Sid} (h : encode machine id = .ok sid) (hkind : id.kind = .gid) :
    decode sid .uid = .error .notUser
  onto (rid : UInt32) (h : 1000 ≤ rid.toNat) :
    ∃! id, encode machine id = .ok { base := machine, rid }

theorem oneToOne (machine : String) : OneToOne machine where
  encodes id := by
    constructor
    · intro ⟨_, h⟩
      exact (encode_ok_iff.mp h).1
    · intro hroom
      exact ⟨_, encode_of_lt hroom⟩
  denies _ h := encode_of_le h
  rid h := by
    obtain ⟨hroom, rfl⟩ := encode_ok_iff.mp h
    exact ⟨rfl, toNat_rid hroom⟩
  decodes h wanted hwanted := by
    rw [decode_of_encode h, Wanted.check_of_admits hwanted]
    rfl
  notGroup h hkind := by
    rw [decode_of_encode h, hkind]
    rfl
  notUser h hkind := by
    rw [decode_of_encode h, hkind]
    rfl
  onto rid h := by
    obtain ⟨id, hid⟩ := exists_ofRid? (UInt32.le_iff_toNat_le.mpr h)
    refine ⟨id, encode_ok_iff_ofRid?.mpr ⟨rfl, hid⟩, ?_⟩
    intro other hother
    exact Option.some.inj ((encode_ok_iff_ofRid?.mp hother).2.symm.trans hid)

end LocalAccount

/-! ### SIDs that nothing else has a name for -/

variable {δ α : Type} {e : Engine δ α} {s : EngineState δ α} {now : Int} {machine : String}
  {request : Request} {sid spelled : Sid} {id : UnixId} {reason : Failure}

namespace SidToId

/-- The machine SID comes before the settings are looked at, and before the reason. -/
theorem settleUnknown_of_decode (hmachine : e.settings.machine?.any sid.hasBase = true)
    (hdecode : LocalAccount.decode sid request.wanted = .ok id) (now : Int) (reason : Failure)
    (fallback : Fallback) (m : Mint α) :
    settleUnknown e now request sid reason fallback m = (localItem id, m) := by
  simp only [settleUnknown, if_pos hmachine, hdecode]
  rfl

/-- A SID of this host that nothing names stands for its account, and no id is taken for it. -/
theorem secondPass_of_nameless {rules : RuleTable} {cache : Cache} {found : Found}
    (hname : Nameless cache now found request sid reason)
    (hmachine : e.settings.machine?.any sid.hasBase = true)
    (hdecode : LocalAccount.decode sid request.wanted = .ok id) (m : Mint α) :
    secondPass e rules now request (firstPass cache now request) (answerFor found request) m
      = (localItem id, m) := by
  have hneeds := needsName_of_awaited hname.awaits
  obtain ⟨fallback, -, hitem⟩ := firstPass_of_needsName hneeds
  rw [hitem]
  rcases hname.unknown with hanswer | ⟨hanswer, rfl⟩
  · simp only [secondPass, hneeds.asked, hanswer]
    exact settleUnknown_of_decode hmachine hdecode now reason fallback m
  · simp only [secondPass, hneeds.asked, hanswer]
    exact settleUnknown_of_decode hmachine hdecode now .notFound fallback m

/-- In a batch of one the directory is asked for the one SID. -/
theorem nameless_of_lookupOne (hneeds : NeedsName s.cache now request sid)
    (hunknown : (Directory.lookupOne e.directory (.ofSid sid) s.directory).1 = .error reason) :
    Nameless s.cache now (batchFound e now [request] s).1 request sid reason := by
  have hawaits := awaitedSid?_firstPass_iff.mpr hneeds
  have hsids : awaitedSids [request] [firstPass s.cache now request] = [sid] := by
    simp [awaitedSids, hawaits]
  refine ⟨hawaits, ?_⟩
  simp only [batchFound, List.map_cons, List.map_nil, directoryRound, hsids, List.isEmpty_cons,
    Bool.false_eq_true, if_false, Directory.lookupSids]
  unfold Directory.lookupOne at hunknown
  generalize Directory.lookup e.directory [.ofSid sid] s.directory = told at hunknown ⊢
  obtain ⟨answers, directory⟩ := told
  cases answers with
  | nil =>
      right
      cases hunknown
      simp [answerFor, hneeds.asked]
  | cons answer answers =>
      left
      cases hunknown
      simp [answerFor, hneeds.asked, Identity.sid?]

end SidToId

/-- Only the machine SID is left to say whose SID this is.  The request may spell it in any ASCII
case; it carries no name and no switch, the SID is not reserved, and what the directory told of
it in this spelling was no entry. -/
structure LeftToMachine (told : Except Failure Directory.Entry) (sid spelled : Sid)
    (request : Request) : Prop where
  asked : request.id = .sid spelled
  base : sameFolded spelled.base sid.base = true
  rid : spelled.rid = sid.rid
  unflagged : request.noNewId = false ∧ request.noDirectory = false
  unnamed : request.givenName? = none
  notReserved : WellKnown.ofSid sid = none
  unknown : ∃ reason, told = .error reason

variable {told : Except Failure Directory.Entry}

/-- With an empty cache such a SID needs the directory. -/
theorem LeftToMachine.needsName (h : LeftToMachine told sid spelled request)
    (hwanted : request.wanted.admits id.kind = true) (now : Int) :
    SidToId.NeedsName {} now request spelled where
  asked := h.asked
  wanted := by
    intro hcontra
    rw [hcontra] at hwanted
    cases hwanted
  unflagged := h.unflagged
  notReserved := by
    have hordinary : WellKnown.ofSid spelled = none :=
      (WellKnown.ofSid_congr h.base h.rid).trans h.notReserved
    exact ⟨WellKnown.idOf_of_ordinary hordinary _, hordinary⟩
  uncached := ⟨none, .nothing rfl⟩
  untrusted := Or.inl h.unnamed
  unnamed := rfl

/-- The spelling of a SID does not matter to the machine SID. -/
theorem LeftToMachine.decode (h : LeftToMachine told sid spelled request)
    (hmachine : e.settings.machine? = some machine)
    (hsid : LocalAccount.encode machine id = .ok sid)
    (hwanted : request.wanted.admits id.kind = true) :
    e.settings.machine?.any spelled.hasBase = true ∧
      LocalAccount.decode spelled request.wanted = .ok id := by
  obtain ⟨hbase, hrid⟩ := LocalAccount.encode_ok_iff_ofRid?.mp hsid
  constructor
  · rw [hmachine, ← hbase]
    exact h.base
  · rw [LocalAccount.decode, h.rid]
    exact (LocalAccount.oneToOne machine).decodes hsid hwanted

/-- The mapping that is written for a local account: it never expires. -/
def LocalAccount.mapping (sid : Sid) (id : UnixId) : IdMapping :=
  { sid, id, windowsDomain := none, windowsName := none, unixName := none, direction := .both
    expiry := .never }

theorem SidToId.record_localItem (hsid : request.id = .sid sid) (settings : Settings)
    (now : Int) (cache : Cache) :
    record settings now request (localItem id) cache
      = cache.putId (LocalAccount.mapping sid id) := by
  simp only [record, localItem, hsid]
  rfl

/-- In a batch, such a SID is answered with its account, whatever the other items are. -/
theorem getElem?_mapSids_of_leftToMachine (hmachine : e.settings.machine? = some machine)
    (hcache : s.cache = {}) (hsid : LocalAccount.encode machine id = .ok sid)
    (hwanted : request.wanted.admits id.kind = true) {first rest : List Request}
    (htold : SidToId.answerFor (batchFound e now (first ++ request :: rest) s).1 request
      = some told)
    (hleft : LeftToMachine told sid spelled request) :
    (e.mapSids now (first ++ request :: rest) s).1[first.length]?
      = some { id := some (.unix id), direction := .both, failure := none } := by
  have hneeds : SidToId.NeedsName s.cache now request spelled := by
    rw [hcache]
    exact hleft.needsName hwanted now
  obtain ⟨hown, hdecode⟩ := hleft.decode hmachine hsid hwanted
  obtain ⟨reason, rfl⟩ := hleft.unknown
  have hname : SidToId.Nameless s.cache now (batchFound e now (first ++ request :: rest) s).1
      request spelled reason :=
    ⟨SidToId.awaitedSid?_firstPass_iff.mpr hneeds, Or.inl htold⟩
  rw [mapSids_eq]
  show ((settled e s.rules s.cache now _ (first ++ request :: rest) _).1.map
    (·.answer))[first.length]? = _
  rw [List.getElem?_map, SidToId.getElem?_settled,
    SidToId.secondPass_of_nameless hname hown hdecode]
  rfl

/-- Alone in a batch, it leaves its mapping behind and nothing else, and no id is taken. -/
theorem mapSids_of_leftToMachine (hmachine : e.settings.machine? = some machine)
    (hcache : s.cache = {}) (hsid : LocalAccount.encode machine id = .ok sid)
    (hwanted : request.wanted.admits id.kind = true)
    (hleft : LeftToMachine (Directory.lookupOne e.directory (.ofSid spelled) s.directory).1
      sid spelled request) (now : Int) :
    ∃ directory, e.mapSids now [request] s =
      ([{ id := some (.unix id), direction := .both, failure := none }],
        { s with cache := ({} : Cache).putId (LocalAccount.mapping spelled id), directory }) := by
  have hneeds : SidToId.NeedsName s.cache now request spelled := by
    rw [hcache]
    exact hleft.needsName hwanted now
  obtain ⟨hown, hdecode⟩ := hleft.decode hmachine hsid hwanted
  obtain ⟨reason, hreason⟩ := hleft.unknown
  have hitem : SidToId.secondPass e s.rules now request (SidToId.firstPass s.cache now request)
      (SidToId.answerFor (batchFound e now [request] s).1 request) { allocator := s.allocator }
        = (SidToId.localItem id, { allocator := s.allocator }) :=
    SidToId.secondPass_of_nameless (SidToId.nameless_of_lookupOne hneeds hreason) hown hdecode _
  have hsettled : settled e s.rules s.cache now (batchFound e now [request] s).1 [request]
      { allocator := s.allocator } = ([SidToId.localItem id], { allocator := s.allocator }) := by
    simp only [settled, List.map_cons, List.map_nil, SidToId.secondPasses, hitem]
  refine ⟨(batchFound e now [request] s).2, ?_⟩
  rw [mapSids_eq, hsettled]
  simp only [SidToId.recordAll, List.zip_cons_cons, List.zip_nil_left, List.foldl_cons,
    List.foldl_nil, SidToId.record_localItem hleft.asked, hcache]
  rfl

/-! ### There and back -/

/-- An item is answered with a local SID because that is the SID of the account. -/
theorem IdToSid.encode_of_localItem {cache : Cache} {rules : RuleTable} {d : δ}
    (hmachine : e.settings.machine? = some machine)
    (hitem : (resolve e cache rules now request d).1 = localItem sid) :
    ∃ id, request.id = .unix id ∧ LocalAccount.encode machine id = .ok sid := by
  have houtcome := outcome e cache rules now request d
  rw [hitem] at houtcome
  generalize hlocal : localItem sid = item at houtcome
  have hstate := congrArg Item.state hlocal
  cases houtcome with
  | failed hfailed =>
      rw [← hlocal] at hfailed
      cases hfailed
  | reserved _ _ => cases hstate
  | cached _ _ _ => cases hstate
  | ruled _ _ _ _ _ =>
      -- A rule leads to a name, and a local account has none.
      have hname := congrArg Resolution.windowsName (ItemState.resolved.inj hstate)
      cases hname
  | @localAccount id sid' hid _ _ _ hsid =>
      cases hlocal
      rw [localSid, hmachine] at hsid
      exact ⟨id, hid, hsid⟩

/--
**A local account and its SID lead to each other without a cache.**

Under a machine SID that is not empty, the uids below 2^31 - 1000 and the gids below 2^31 have
a SID each, every rid from 1000 on belongs to one of them, and a SID is read as the account
that has it, or the other kind is refused.

An engine with this machine SID and an empty cache says so too, of every SID that neither the
table of reserved identities nor the directory knows: in any ASCII case, alone or among others,
with the rules as they may be, whether ids may be minted or not, and without taking one.  What
it writes down never expires.  So if an account was answered with its local SID, and then the
cache is cleared, the SID still leads back to the account.
-/
theorem local_accounts_there_and_back (e : Engine δ α) {machine : String}
    (hmachine : e.settings.machineSid = some machine) (hsome : machine.isEmpty = false) :
    LocalAccount.OneToOne machine ∧
    (∀ (s : EngineState δ α) (now : Int) (id : UnixId) (sid spelled : Sid) (request : Request),
      s.cache = {} → LocalAccount.encode machine id = .ok sid →
      request.wanted.admits id.kind = true →
      (LeftToMachine (Directory.lookupOne e.directory (.ofSid spelled) s.directory).1
          sid spelled request →
        ∃ directory, e.mapSids now [request] s =
          ([{ id := some (.unix id), direction := .both, failure := none }],
            { s with cache := ({} : Cache).putId (LocalAccount.mapping spelled id), directory })) ∧
      ∀ (first rest : List Request) (told : Except Failure Directory.Entry),
        SidToId.answerFor (batchFound e now (first ++ request :: rest) s).1 request = some told →
        LeftToMachine told sid spelled request →
        (e.mapSids now (first ++ request :: rest) s).1[first.length]?
          = some { id := some (.unix id), direction := .both, failure := none }) ∧
    (∀ (s : EngineState δ α) (now : Int) (request : Request) (sid : Sid),
      (IdToSid.resolve e s.cache s.rules now request s.directory).1 = IdToSid.localItem sid →
      ∃ id, request.id = .unix id ∧ LocalAccount.encode machine id = .ok sid ∧
        (e.mapId now request s).1
          = { id := some (.sid sid), direction := .both, failure := none } ∧
        ∀ (later : Int) (spelled : Sid) (back : Request),
          let cleared := (Call.clear.run e later (e.mapId now request s).2).2
          back.wanted.admits id.kind = true →
          LeftToMachine (Directory.lookupOne e.directory (.ofSid spelled) cleared.directory).1
            sid spelled back →
          (e.mapSids later [back] cleared).1
            = [{ id := some (.unix id), direction := .both, failure := none }]) := by
  have hmachine' : e.settings.machine? = some machine := by
    rw [Settings.machine?, hmachine]
    simp [hsome]
  refine ⟨LocalAccount.oneToOne machine, ?_, ?_⟩
  · intro s now id sid spelled request hcache hsid hwanted
    constructor
    · intro hleft
      exact mapSids_of_leftToMachine hmachine' hcache hsid hwanted hleft now
    · intro first rest told htold hleft
      exact getElem?_mapSids_of_leftToMachine hmachine' hcache hsid hwanted htold hleft
  · intro s now request sid hitem
    obtain ⟨id, hid, hsid⟩ := IdToSid.encode_of_localItem hmachine' hitem
    refine ⟨id, hid, hsid, ?_, ?_⟩
    · show (IdToSid.resolve e s.cache s.rules now request s.directory).1.answer = _
      rw [hitem]
      rfl
    · intro later spelled back cleared hwanted hleft
      obtain ⟨directory, hback⟩ :=
        mapSids_of_leftToMachine hmachine' (s := cleared) rfl hsid hwanted hleft later
      rw [hback]

/-- On a host with a machine SID and nothing else, uid 1001 has a SID, and the SID in small
letters leads back to it, after the cache was cleared and without an id. -/
theorem local_accounts_there_and_back_1001 :
    let e : Engine Unit SequentialIds :=
      { Engine.bare with settings := { machineSid := some "S-1-5-21-7" } }
    let s : EngineState Unit SequentialIds := .fresh {} () .aboveReserved
    let account : UnixId := { kind := .uid, number := 1001 }
    let small : Sid := { base := "s-1-5-21-7", rid := 2001 }
    let cleared := (Call.clear.run e 1 (e.mapId 0 (sidRequest account) s).2).2
    (∃ directory, e.mapSids 0 [posixRequest small] s =
      ([{ id := some (.unix account), direction := .both, failure := none }],
        { s with cache := ({} : Cache).putId (LocalAccount.mapping small account), directory })) ∧
    (e.mapSids 1 [posixRequest small] cleared).1
      = [{ id := some (.unix account), direction := .both, failure := none }] := by
  intro e s account small cleared
  let sid : Sid := { base := "S-1-5-21-7", rid := 2001 }
  have hleft : LeftToMachine (.error .notFound) sid small (posixRequest small) :=
    ⟨rfl, by decide +kernel, rfl, ⟨rfl, rfl⟩, rfl, by decide +kernel, .notFound, rfl⟩
  obtain ⟨-, hmaps, hback⟩ := local_accounts_there_and_back e
    (rfl : e.settings.machineSid = some "S-1-5-21-7") (by decide)
  constructor
  · exact (hmaps s 0 account sid small (posixRequest small) rfl rfl rfl).1 hleft
  · obtain ⟨id, hid, -, -, hcleared⟩ := hback s 0 (sidRequest account) sid (by decide +kernel)
    cases hid
    exact hcleared 1 small (posixRequest small) rfl hleft

end IdentityMap
