/-
Reserved SIDs that have no unix id, and never get one.

The table of reserved identities is asked before anything else.  What it says of such a SID is
final, so that a row of the cache, a name that came with the request, a rule for the name or an
id that might be minted is not even looked at.  The item is idle from there on, and a batch does
not notice whether it has it.

Entries that have an id are not final in this way: when they are of the wrong kind, the search
goes on as for any other SID.
-/
import IdentityMap.Proofs.CacheOnly
import IdentityMap.Proofs.WellKnown

namespace IdentityMap

/-! ### SIDs that the table keeps from being mapped -/

namespace WellKnown

/-- The SID stands in the table without a unix id.  Its base may be in any ASCII case. -/
def IsUnmapped (sid : Sid) : Prop :=
  ∃ entry ∈ table, entry.number = none ∧ sid.rid = entry.rid ∧
    sameFolded sid.base entry.base = true

instance (sid : Sid) : Decidable (IsUnmapped sid) :=
  inferInstanceAs (Decidable (∃ entry ∈ table, _))

variable {sid : Sid}

theorem IsUnmapped.exists_entry (h : IsUnmapped sid) :
    ∃ entry ∈ table, entry.number = none ∧ entry.isFor sid = true := by
  obtain ⟨entry, hmem, hnumber, hrid, hbase⟩ := h
  refine ⟨entry, hmem, hnumber, ?_⟩
  rw [isFor, Bool.and_eq_true, beq_iff_eq]
  exact ⟨hrid.symm, hbase⟩

theorem IsUnmapped.idOf_eq (h : IsUnmapped sid) (wanted : Wanted) :
    idOf sid wanted = some .unmapped := by
  obtain ⟨entry, hmem, hnumber, hfor⟩ := h.exists_entry
  exact idOf_of_unmapped hmem hnumber hfor wanted

end WellKnown

/-! ### In a batch -/

variable {δ α : Type} {e : Engine δ α} {s : EngineState δ α} {now : Int} {sid : Sid}
  {request : Request} {requests : List Request} {reply : Reply}

namespace SidToId

/-- The first pass is also the last one, whatever the cache holds and the request carries. -/
theorem firstPass_of_isUnmapped (h : WellKnown.IsUnmapped sid) (hsid : request.id = .sid sid)
    (hwanted : request.wanted ≠ .sid) (cache : Cache) (now : Int) :
    firstPass cache now request = .failed .notFound := by
  simp only [firstPass, hsid, if_neg hwanted, h.idOf_eq]

/-- Also where a SID is asked for, the item fails at once. -/
theorem fails_of_isUnmapped (h : WellKnown.IsUnmapped sid) (hsid : request.id = .sid sid)
    (cache : Cache) (now : Int) :
    (firstPass cache now request).state.isIdle = true ∧
      (firstPass cache now request).answer.isSuccess = false := by
  by_cases hwanted : request.wanted = .sid
  · simp only [firstPass, hsid, if_pos hwanted]
    exact ⟨rfl, rfl⟩
  · rw [firstPass_of_isUnmapped h hsid hwanted]
    exact ⟨rfl, rfl⟩

/-- The directory is never asked about such a SID. -/
theorem not_mem_lookedUp_of_isUnmapped (h : WellKnown.IsUnmapped sid) (cache : Cache) (now : Int)
    (requests : List Request) : sid ∉ lookedUp cache now requests := by
  intro hmem
  obtain ⟨request, -, hneeds⟩ := mem_lookedUp.mp hmem
  have hnone := hneeds.notReserved.1
  rw [h.idOf_eq] at hnone
  cases hnone

end SidToId

/-! ### In a run -/

theorem not_isSuccess_of_mapSids (h : WellKnown.IsUnmapped sid) (hasked : reply.asked = .sid sid)
    (hreply : reply ∈ replies requests (e.mapSids now requests s).1) :
    reply.answer.isSuccess = false := by
  obtain ⟨⟨request, answer⟩, hmem, rfl⟩ := List.mem_map.mp hreply
  obtain ⟨i, hi⟩ := List.mem_iff_getElem?.mp hmem
  obtain ⟨hrequest, hanswer⟩ := List.getElem?_zip_eq_some.mp hi
  obtain ⟨hidle, hfails⟩ := SidToId.fails_of_isUnmapped h hasked s.cache now
  have hat := (mapSids_eraseIdx e s hidle hrequest).1
  rw [hat] at hanswer
  cases hanswer
  exact hfails

/-- A batch of unix ids answers for no SID. -/
theorem not_isSuccess_of_mapIds (hasked : reply.asked = .sid sid)
    (hreply : reply ∈ replies requests (e.mapIds now requests s).1) :
    reply.answer.isSuccess = false := by
  induction requests generalizing s with
  | nil => cases hreply
  | cons request rest ih =>
      rcases List.mem_cons.mp hreply with rfl | hrest
      · rw [← Bool.not_eq_true]
        intro hok
        obtain ⟨id, -, hid, -⟩ :=
          (IdToSid.outcome e s.cache s.rules now request s.directory).asked hok
        cases hid.symm.trans hasked
      · exact ih hrest

/-- No call maps such a SID. -/
theorem Call.not_isSuccess_of_isUnmapped (h : WellKnown.IsUnmapped sid) (call : Call)
    (hasked : reply.asked = .sid sid) (hreply : reply ∈ (call.run e now s).1) :
    reply.answer.isSuccess = false := by
  cases call with
  | mapSids requests => exact not_isSuccess_of_mapSids h hasked hreply
  | mapIds requests => exact not_isSuccess_of_mapIds hasked hreply
  | mapName name domain wanted =>
      obtain ⟨s', -, -, hnone | ⟨request, hbatch⟩⟩ := run_mapName e now s name domain wanted
      · rw [hnone] at hreply
        cases hreply
      · rw [hbatch] at hreply
        exact not_isSuccess_of_mapSids h hasked hreply
  | nameId id =>
      obtain ⟨answer, s', -, -, hnamed, -⟩ := run_nameId e now s id
      rw [hnamed] at hreply
      cases List.mem_singleton.mp hreply
      cases hasked
  | addRule rule =>
      obtain ⟨s', -, hadded⟩ := run_addRule e now s rule
      rw [hadded] at hreply
      cases hreply
  | removeRules filter => cases hreply
  | flushRules isUser => cases hreply
  | purge => cases hreply
  | clear => cases hreply

/-- No run maps such a SID, whatever is done in between. -/
theorem Engine.not_isSuccess_of_isUnmapped (h : WellKnown.IsUnmapped sid)
    (calls : List (Int × Call)) (hasked : reply.asked = .sid sid)
    (hreply : reply ∈ (e.run calls s).1) : reply.answer.isSuccess = false := by
  induction calls generalizing s with
  | nil => cases hreply
  | cons timed rest ih =>
      obtain ⟨now, call⟩ := timed
      rcases List.mem_append.mp hreply with hfirst | hlater
      · exact call.not_isSuccess_of_isUnmapped h hasked hfirst
      · exact ih hlater

/--
**A reserved SID without a unix id is never mapped, and no batch notices it.**

Whatever state an engine is in and whatever comes with the request, the answer is that nothing
was found, without any id.  The SID is not looked up.  Without the item the batch gives the other
answers and ends in the same state, with the same rows, the same ids left and the same record of
what passed between it and the directory.  And no run of calls, in whatever order, ever maps the
SID.
-/
theorem unmapped_reserved_never_mapped (e : Engine δ α) {sid : Sid}
    (h : WellKnown.IsUnmapped sid) :
    (∀ (s : EngineState δ α) (now : Int) (requests : List Request) (i : Nat) (request : Request),
      requests[i]? = some request → request.id = .sid sid → request.wanted ≠ .sid →
      (e.mapSids now requests s).1[i]? = some (.failed .notFound) ∧
      sid ∉ SidToId.lookedUp s.cache now requests ∧
      e.mapSids now (requests.eraseIdx i) s
        = ((e.mapSids now requests s).1.eraseIdx i, (e.mapSids now requests s).2) ∧
      ∀ log, e.recorded.mapSids now (requests.eraseIdx i) (s.recorded log)
        = ((e.recorded.mapSids now requests (s.recorded log)).1.eraseIdx i,
          (e.recorded.mapSids now requests (s.recorded log)).2)) ∧
    ∀ (s : EngineState δ α) (calls : List (Int × Call)), ∀ reply ∈ (e.run calls s).1,
      reply.asked = .sid sid → reply.answer.isSuccess = false := by
  constructor
  · intro s now requests i request hi hsid hwanted
    have hitem := SidToId.firstPass_of_isUnmapped h hsid hwanted s.cache now
    have hidle : (SidToId.firstPass s.cache now request).state.isIdle = true := by
      rw [hitem]
      rfl
    obtain ⟨hat, herased⟩ := mapSids_eraseIdx e s hidle hi
    rw [hitem] at hat
    refine ⟨hat, SidToId.not_mem_lookedUp_of_isUnmapped h s.cache now requests, herased, ?_⟩
    intro log
    exact (mapSids_eraseIdx e.recorded (s.recorded log) hidle hi).2
  · intro s calls reply hreply hasked
    exact Engine.not_isSuccess_of_isUnmapped h calls hasked hreply

/-- Everyone, with a name that a rule may know and with a stale row, among SIDs that need ids. -/
theorem unmapped_reserved_never_mapped_everyone :
    let sid : Sid := { base := "s-1-1", rid := 0 }
    let stale : IdMapping :=
      { sid, id := { kind := .gid, number := 0x80000002 }, windowsDomain := none
        windowsName := none, unixName := none, direction := .both, expiry := .at 600 }
    let e : Engine Unit SequentialIds := Engine.bare
    let s : EngineState Unit SequentialIds :=
      { EngineState.fresh {} () .aboveReserved with cache := ({} : Cache).putId stale }
    let everyone : Request := { id := .sid sid, wanted := .gid, name := some "Everyone" }
    let other : Request := { id := .sid { base := "S-1-5-21-7", rid := 1104 }, wanted := .uid }
    WellKnown.IsUnmapped sid ∧
      (e.mapSids 1000 [other, everyone, other] s).1[1]? = some (.failed .notFound) ∧
      (e.mapSids 1000 [other, everyone, other] s).2 = (e.mapSids 1000 [other, other] s).2 := by
  intro sid stale e s everyone other
  have hunmapped : WellKnown.IsUnmapped sid := by decide +kernel
  obtain ⟨hat, -, hothers, -⟩ := (unmapped_reserved_never_mapped e hunmapped).1 s 1000
    [other, everyone, other] 1 everyone rfl rfl (by decide)
  exact ⟨hunmapped, hat, (congrArg Prod.snd hothers).symm⟩

end IdentityMap
