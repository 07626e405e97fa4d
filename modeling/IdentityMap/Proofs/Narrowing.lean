/-
Asking for any unix id is asking for the right kind.

A caller that takes a uid or a gid, whichever there is, gets what a caller gets who knew the
kind beforehand.  The kind that is asked for is looked at in many places: in the table of
reserved identities, at a row of the cache, at the type of an account, at the rid of a local
account, and where an unknown SID is taken for a user.  In each of them the general request
comes to an id of some kind, and the request for that kind comes to the same id.

A request that brings a name is left out.  Such a name is trusted only if the request says what
kind of account it is, so the two requests may be resolved under different names.
-/
import IdentityMap.Proofs.Mapping.Conclusion
import IdentityMap.Proofs.Mapping.Single

namespace IdentityMap

/-- The request for ids of one kind only. -/
def Request.narrow (request : Request) (kind : IdKind) : Request :=
  { request with wanted := kind.wanted }

/-- The item has succeeded with a unix id of this kind. -/
structure Item.EndsIn (item : Item) (kind : IdKind) : Prop where
  success : item.answer.isSuccess = true
  kind_eq : ∀ id, item.answer.id = some (.unix id) → id.kind = kind

/-! ### Where the kind is looked at -/

/-- A SID without a reserved id of either kind has none of the one kind. -/
theorem WellKnown.idOf_narrow {sid : Sid} (h : idOf sid .posix = none) (kind : IdKind) :
    idOf sid kind.wanted = none := by
  unfold idOf at h ⊢
  rw [List.findSome?_eq_none_iff] at h ⊢
  intro entry hentry
  specialize h entry hentry
  cases hnumber : entry.number with
  | none =>
      simp only [hnumber] at h
      cases h
  | some number =>
      simp only [hnumber, Wanted.admits, Bool.and_true] at h ⊢
      cases hunix : entry.direction.isToUnix with
      | true =>
          rw [hunix] at h
          cases h
      | false => rfl

namespace LocalAccount

variable {sid : Sid} {id : UnixId}

theorem decode_narrow (h : decode sid .posix = .ok id) : decode sid id.kind.wanted = .ok id := by
  rw [decode, ofRid?_of_decode h]
  simp only [Wanted.check_of_admits id.kind.admits_wanted]
  rfl

theorem decode_narrow_error {failure : Failure} (h : decode sid .posix = .error failure)
    (kind : IdKind) : decode sid kind.wanted = .error failure := by
  unfold decode at h ⊢
  cases hrid : ofRid? sid.rid with
  | none => simpa only [hrid] using h
  | some id =>
      simp only [hrid] at h
      cases h

end LocalAccount

namespace SidToId

variable {δ α : Type} {e : Engine δ α} {rules : RuleTable} {cache : Cache} {now : Int}
  {request : Request} {sid : Sid} {kind : IdKind} {m : Mint α}

/-! ### The first pass -/

theorem findName_narrow (hname : request.givenName? = none) (fallback : Fallback) :
    findName cache now (request.narrow kind) sid fallback
      = findName cache now request sid fallback := by
  have hnarrow : (request.narrow kind).givenName? = none := hname
  simp only [findName, hnarrow, hname]

theorem cacheAnswer_of_check {hit : CachedId} (hcheck : hit.check request.wanted = .ok ()) :
    cacheAnswer request hit = { answer := cachedAnswer hit, state := .cacheHit } := by
  rw [cacheAnswer, hcheck]
  rfl

/-- The cache narrows down: an item that it settles is of the kind, and one that it leaves open
is left open in the same way. -/
theorem searchCache_narrow (hposix : request.wanted = .posix) (hname : request.givenName? = none)
    (h : (searchCache cache now request sid).state.isFinal = true →
      (searchCache cache now request sid).EndsIn kind) :
    searchCache cache now (request.narrow kind) sid = searchCache cache now request sid := by
  have honly : (request.narrow kind).cacheOnly = request.cacheOnly := rfl
  have hwanted : (request.narrow kind).wanted = kind.wanted := rfl
  unfold searchCache at h ⊢
  rw [hposix] at h ⊢
  rw [hwanted, honly]
  split at h
  · next hit hfound =>
      obtain ⟨row, hrow, hread, -⟩ := Cache.idRow?_of_ok hfound
      by_cases hkeep : (!hit.expired || request.cacheOnly) = true
      · have hany : hit.check request.wanted = .ok () := by
          rw [hposix]
          rfl
        rw [if_pos hkeep, cacheAnswer_of_check hany] at h
        have hkind : hit.id.kind = kind := (h rfl).kind_eq hit.id rfl
        have hcheck : hit.check kind.wanted = .ok () := by
          rw [← hkind]
          exact Wanted.check_of_admits hit.id.kind.admits_wanted _
        have hnarrow : hit.check (request.narrow kind).wanted = .ok () := hcheck
        rw [Cache.idOf_of_idRow? hrow hread (Or.inr hcheck)]
        simp only [if_pos hkeep, cacheAnswer_of_check hany, cacheAnswer_of_check hnarrow]
      · -- An expired id is found whatever kind is asked for, and set aside.
        have hexpired : hit.expired = true := by
          simp only [Bool.or_eq_true, Bool.not_eq_true', not_or] at hkeep
          simpa using hkeep.1
        rw [Cache.idOf_of_idRow? hrow hread (Or.inl hexpired)]
        simp only [if_neg hkeep, findName_narrow hname]
  · next hfound =>
      rw [Cache.idOf_of_none (Cache.idRow?_of_notFound hfound)]
      by_cases hcacheOnly : request.cacheOnly = true
      · rw [if_pos hcacheOnly] at h
        cases (h rfl).success
      · simp only [if_neg hcacheOnly, findName_narrow hname]
  · cases (h rfl).success

theorem firstPass_narrow (hposix : request.wanted = .posix) (hname : request.givenName? = none)
    (h : (firstPass cache now request).state.isFinal = true →
      (firstPass cache now request).EndsIn kind) :
    firstPass cache now (request.narrow kind) = firstPass cache now request := by
  have hnot : kind.wanted ≠ .sid := by cases kind <;> decide
  have hid : (request.narrow kind).id = request.id := rfl
  have hwanted : (request.narrow kind).wanted = kind.wanted := rfl
  unfold firstPass at h ⊢
  rw [hid, hwanted, hposix]
  rw [hposix] at h
  cases hasked : request.id with
  | unix id => rfl
  | sid sid =>
      simp only [hasked, if_neg hnot] at h ⊢
      cases hreserved : WellKnown.idOf sid .posix with
      | none =>
          simp only [hreserved] at h
          rw [WellKnown.idOf_narrow hreserved]
          exact searchCache_narrow hposix hname h
      | some reserved =>
          simp only [hreserved] at h
          cases reserved with
          | unmapped => cases (h rfl).success
          | mapped id direction =>
              have hkind : id.kind = kind := (h rfl).kind_eq id rfl
              rw [WellKnown.idOf_of_admits hreserved (by rw [hkind]; exact kind.admits_wanted)]
              rfl

/-! ### The second pass -/

theorem kind_of_mintItem {kind' : IdKind} {source : NameSource} {name : Option WindowsName}
    {fallback : Fallback} {answer : Answer}
    (h : (mintItem e now sid kind' source name fallback answer m).1.EndsIn kind) :
    kind' = kind := by
  unfold mintItem at h
  split at h
  · cases h.success
  · exact h.kind_eq _ rfl

theorem applyRules_narrow {name : WindowsName} {source : NameSource} {fallback : Fallback}
    (hposix : request.wanted = .posix)
    (h : (applyRules e rules now request sid name source fallback m).1.EndsIn kind) :
    applyRules e rules now (request.narrow kind) sid name source fallback m
      = applyRules e rules now request sid name source fallback m := by
  have hverify : name.type.verify .posix = .ok name.type.kind := by cases name.type <;> rfl
  have hkind : name.type.kind = kind := by
    unfold applyRules at h
    simp only [hposix, hverify] at h
    split at h
    · next found hfound =>
        rw [← Rule.kind_of_mapToUnix hfound]
        exact h.kind_eq _ rfl
    · exact kind_of_mintItem h
    · cases h.success
  have hnarrow : name.type.verify (request.narrow kind).wanted = .ok name.type.kind := by
    rw [← hkind]
    exact name.type.verify_kind
  unfold applyRules
  rw [hnarrow, hposix, hverify]

/-- An unknown SID is taken for a user, so it is no group's id that it gets. -/
theorem settleUnknown_narrow {reason : Failure} {fallback : Fallback}
    (hposix : request.wanted = .posix)
    (h : (settleUnknown e now request sid reason fallback m).1.EndsIn kind) :
    settleUnknown e now (request.narrow kind) sid reason fallback m
      = settleUnknown e now request sid reason fallback m := by
  have hunknown : (if reason ≠ .notFound ∨ !e.settings.mintUnknown then
        (Item.nobody .uid reason, m)
      else mintItem e now sid .uid .machine none fallback (.nobody .uid .notFound) m).1.EndsIn kind
      → kind = .uid := by
    intro hends
    split at hends
    · cases hends.success
    · exact (kind_of_mintItem hends).symm
  have hwanted : (request.narrow kind).wanted = kind.wanted := rfl
  unfold settleUnknown at h ⊢
  simp only [hposix] at h ⊢
  rw [hwanted]
  by_cases hmachine : e.settings.machine?.any sid.hasBase = true
  · simp only [if_pos hmachine] at h ⊢
    split at h
    · next id hdecode =>
        obtain rfl := h.kind_eq id rfl
        rw [LocalAccount.decode_narrow hdecode]
    · next hdecode =>
        obtain rfl := hunknown h
        rw [LocalAccount.decode_narrow_error hdecode]
        rfl
    · cases h.success
  · simp only [if_neg hmachine] at h ⊢
    obtain rfl := hunknown h
    rfl

theorem secondPass_narrow {item : Item} {found : Option (Except Failure Directory.Entry)}
    (hposix : request.wanted = .posix)
    (h : (secondPass e rules now request item found m).1.EndsIn kind) :
    secondPass e rules now (request.narrow kind) item found m
      = secondPass e rules now request item found m := by
  have hid : (request.narrow kind).id = request.id := rfl
  unfold secondPass at h ⊢
  rw [hid]
  cases hasked : request.id with
  | unix id => rfl
  | sid sid =>
      simp only [hasked] at h ⊢
      cases hstate : item.state with
      | awaitsRules name source fallback =>
          simp only [hstate] at h
          exact applyRules_narrow hposix h
      | awaitsDirectory fallback =>
          simp only [hstate] at h
          match found with
          | some (.ok entry) => exact applyRules_narrow hposix h
          | some (.error reason) => exact settleUnknown_narrow hposix h
          | none => exact settleUnknown_narrow hposix h
      | start | cacheHit | resolved _ | failed _ => rfl

end SidToId

/-! ### Whole calls -/

variable {δ α : Type}

/--
**Asking for any unix id is asking for the right kind.**

If a request for a SID that brings no name and takes a uid or a gid succeeds with an id of some
kind, the request for that kind alone, made in the same state, gives the same answer and leads
to the same state: the same rows are written, the same ids are minted, and the directory is
asked the same.  It does not matter which switches the request sets.
-/
theorem mapSids_narrow (e : Engine δ α) (now : Int) (s : EngineState δ α) (request : Request)
    (hposix : request.wanted = .posix) (hname : request.givenName? = none) {answer : Answer}
    (hanswer : (e.mapSids now [request] s).1 = [answer]) (hok : answer.isSuccess = true)
    {id : UnixId} (hid : answer.id = some (.unix id)) :
    e.mapSids now [request.narrow id.kind] s = e.mapSids now [request] s := by
  let first : Item := SidToId.firstPass s.cache now request
  let said : Option (Except Failure Directory.Entry) :=
    SidToId.answerFor (batchFound e now [request] s).1 request
  have hends : (SidToId.secondPass e s.rules now request first said
      { allocator := s.allocator }).1.EndsIn id.kind := by
    rw [mapSids_singleton] at hanswer
    obtain rfl := (List.cons.inj hanswer).1
    refine ⟨hok, fun id' hid' => ?_⟩
    obtain rfl := Identity.unix.inj (Option.some.inj (hid.symm.trans hid'))
    rfl
  have hfirst : SidToId.firstPass s.cache now (request.narrow id.kind) = first := by
    refine SidToId.firstPass_narrow hposix hname fun hfinal => ?_
    rw [SidToId.secondPass_of_isFinal hfinal] at hends
    exact hends
  have hround : batchFound e now [request.narrow id.kind] s = batchFound e now [request] s := by
    simp only [batchFound, List.map_cons, List.map_nil, hfirst]
    rfl
  have hsecond := SidToId.secondPass_narrow hposix hends
  have hsettled : settled e s.rules s.cache now (batchFound e now [request] s).1
        [request.narrow id.kind] { allocator := s.allocator }
      = settled e s.rules s.cache now (batchFound e now [request] s).1 [request]
        { allocator := s.allocator } := by
    simp only [settled, List.map_cons, List.map_nil, SidToId.secondPasses, hfirst]
    exact congrArg (fun last : Item × Mint α => ([last.1], last.2)) hsecond
  rw [mapSids_eq, mapSids_eq, hround, hsettled]
  rfl

/-- A foreign SID is taken for a user; so is one that is asked for as a user. -/
theorem mapSids_narrow_minted :
    let s : EngineState Unit SequentialIds := .fresh {} () .aboveReserved
    let request : Request := posixRequest { base := "S-1-5-21-9", rid := 1104 }
    let minted : Answer :=
      { id := some (.unix { kind := .uid, number := 0x80000001 }), failure := none }
    (Engine.bare.mapSids 0 [request] s).1 = [minted] ∧
      Engine.bare.mapSids 0 [request.narrow .uid] s
        = Engine.bare.mapSids 0 [request] s := by
  intro s request minted
  have hminted : (Engine.bare.mapSids 0 [request] s).1 = [minted] := by decide +kernel
  have hid : minted.id = some (.unix { kind := .uid, number := 0x80000001 }) := rfl
  have hnarrow := mapSids_narrow Engine.bare 0 s request rfl rfl hminted rfl hid
  exact ⟨hminted, hnarrow⟩

end IdentityMap
