/-
Failed items leave no trace.

An item can fail at every stage: before the directory is asked, on what it says, on a deny,
on the type of the account, and when no id is left for it.  Up to the last of these it has
taken nothing, and an authority of consecutive blocks that refuses an id stays as it is.
Nor is anything written for an item that failed.

So a batch from which the failed items are left out goes through the same states.  What it
hears from the directory is the same too, as long as the directory says the same of a SID
whatever else it is asked.
-/
import IdentityMap.Proofs.Directory.Steady
import IdentityMap.Proofs.Ephemeral.Upcoming
import IdentityMap.Proofs.OneBatch

namespace IdentityMap

variable {δ α : Type}

/-- The requests whose answers are no failures. -/
def succeeded (requests : List Request) (answers : List Answer) : List Request :=
  ((requests.zip answers).filter (·.2.isSuccess)).map (·.1)

section Succeeded

variable {request : Request} {requests : List Request} {answer : Answer} {answers : List Answer}

theorem succeeded_cons_of_success (h : answer.isSuccess = true) :
    succeeded (request :: requests) (answer :: answers)
      = request :: succeeded requests answers := by
  simp [succeeded, h]

theorem succeeded_cons_of_failed (h : answer.isSuccess = false) :
    succeeded (request :: requests) (answer :: answers) = succeeded requests answers := by
  simp [succeeded, h]

theorem succeeded_subset : succeeded requests answers ⊆ requests := by
  intro request hmem
  obtain ⟨⟨request, answer⟩, hpair, rfl⟩ := List.mem_map.mp hmem
  exact (List.of_mem_zip (List.mem_filter.mp hpair).1).1

end Succeeded

/-! ### Batches of SIDs -/

namespace SidToId

variable {e : Engine δ SequentialIds} {rules : RuleTable} {cache : Cache} {now : Int}
  {found : Found} {requests : List Request} {request : Request} {item : Item}
  {m m' : Mint SequentialIds}

/-- An item that fails has taken no id and noted none. -/
theorem Outcome.mint_of_failed (hids : e.authority = SequentialIds.authority)
    (h : Outcome e rules cache now found request m item m')
    (hfailed : item.answer.isSuccess = false) : m' = m := by
  cases h with
  | failed _ => rfl
  | @exhausted _ sid kind fallback failure _ _ hobtain =>
      obtain ⟨hhistory, hallocate⟩ := obtainId_error hobtain
      rw [hids] at hallocate
      have hallocator := (Allocator.refuses_of_error hallocate).1
      cases m
      cases m'
      cases hhistory
      cases hallocator
      rfl
  | reserved _ _ => cases hfailed
  | cached _ _ _ => cases hfailed
  | ruled _ _ _ _ _ => cases hfailed
  | localAccount _ _ _ _ => cases hfailed
  | minted _ _ _ _ => cases hfailed

/-- Nothing is written for an item that failed. -/
theorem record_of_failed {settings : Settings} (h : item.answer.isSuccess = false) :
    record settings now request item cache = cache := by
  unfold record
  split
  · rw [h]
    exact if_neg Bool.false_ne_true
  · rfl

/-- The requests that succeed are settled alike without the others. -/
theorem settled_succeeded (hids : e.authority = SequentialIds.authority)
    (requests : List Request) (m : Mint SequentialIds) :
    settled e rules cache now found
        (succeeded requests ((settled e rules cache now found requests m).1.map (·.answer))) m
      = ((settled e rules cache now found requests m).1.filter (·.answer.isSuccess),
          (settled e rules cache now found requests m).2) := by
  induction requests generalizing m with
  | nil => rfl
  | cons request rest ih =>
      have houtcome := outcome e rules cache now found request m
      obtain ⟨p, hp⟩ : ∃ p, secondPass e rules now request (firstPass cache now request)
        (answerFor found request) m = p := ⟨_, rfl⟩
      have hcons : ∀ others, settled e rules cache now found (request :: others) m
          = (p.1 :: (settled e rules cache now found others p.2).1,
              (settled e rules cache now found others p.2).2) := by
        intro others
        rw [← hp]
        rfl
      rw [hp] at houtcome
      rw [hcons, List.map_cons]
      cases hok : p.1.answer.isSuccess with
      | false =>
          have hmint := houtcome.mint_of_failed hids hok
          simp only [succeeded_cons_of_failed hok, List.filter_cons, hok, Bool.false_eq_true,
            if_false, hmint]
          exact ih m
      | true =>
          simp only [succeeded_cons_of_success hok, List.filter_cons, hok, if_true, hcons, ih p.2]

/-- The items that succeed are all that is written. -/
theorem recordAll_succeeded (settings : Settings) (requests : List Request) (items : List Item)
    (cache : Cache) :
    recordAll settings now
        ((succeeded requests (items.map (·.answer))).zip (items.filter (·.answer.isSuccess))) cache
      = recordAll settings now (requests.zip items) cache := by
  induction requests generalizing items cache with
  | nil => rfl
  | cons request rest ih =>
      cases items with
      | nil => rfl
      | cons item items =>
          rw [List.map_cons]
          cases hok : item.answer.isSuccess with
          | false =>
              simp only [succeeded_cons_of_failed hok, List.filter_cons, hok, Bool.false_eq_true,
                if_false, List.zip_cons_cons, recordAll, List.foldl_cons, record_of_failed hok]
              exact ih items cache
          | true =>
              simp only [succeeded_cons_of_success hok, List.filter_cons, hok, if_true,
                List.zip_cons_cons]
              exact ih items _

end SidToId

/-- A batch of SIDs without the items that fail. -/
theorem mapSids_succeeded {e : Engine δ SequentialIds}
    (hids : e.authority = SequentialIds.authority) {s : EngineState δ SequentialIds}
    (hquiet : Directory.Quiet e.directory s.directory) (now : Int) (requests : List Request) :
    (e.mapSids now (succeeded requests (e.mapSids now requests s).1) s).1
        = (e.mapSids now requests s).1.filter (·.isSuccess) ∧
      (e.mapSids now (succeeded requests (e.mapSids now requests s).1) s).2.cache
        = (e.mapSids now requests s).2.cache ∧
      (e.mapSids now (succeeded requests (e.mapSids now requests s).1) s).2.allocator
        = (e.mapSids now requests s).2.allocator := by
  obtain ⟨answer, calm, hsteady, hcalm⟩ := hquiet.steady
  have hanswers := answers_mapSids e now requests s
  rw [mapSids_eq e now (succeeded requests (e.mapSids now requests s).1) s,
    settled_batchFound hsteady hcalm succeeded_subset, hanswers, mapSids_eq e now requests s,
    sidItems, SidToId.settled_succeeded hids]
  refine ⟨?_, ?_, rfl⟩
  · show List.map _ (List.filter _ _) = List.filter _ (List.map _ _)
    rw [List.filter_map]
    rfl
  · exact SidToId.recordAll_succeeded e.settings requests _ s.cache

/-! ### Batches of unix ids -/

/-- The two states hold the same but for their directories, which are both calm. -/
structure SameButDirectory (calm : δ → Prop) (s t : EngineState δ α) : Prop where
  cache : s.cache = t.cache
  rules : s.rules = t.rules
  allocator : s.allocator = t.allocator
  left : calm s.directory
  right : calm t.directory

section Ids

variable {e : Engine δ α} {answer : Directory.Query → Except Failure Directory.Entry}
  {calm : δ → Prop} {now : Int} {request : Request} {s t : EngineState δ α}

theorem IdToSid.record_of_failed {settings : Settings} {names : NameService} {item : Item}
    {cache : Cache} (h : item.answer.isSuccess = false) :
    record settings names now request item cache = cache := by
  unfold record
  split
  · rw [h]
    exact if_neg Bool.false_ne_true
  · rfl

/-- A unix id is mapped alike in both states. -/
theorem SameButDirectory.mapId (h : SameButDirectory calm s t)
    (hsteady : Directory.Steady e.directory answer calm) (now : Int) (request : Request) :
    (e.mapId now request s).1 = (e.mapId now request t).1 ∧
      SameButDirectory calm (e.mapId now request s).2 (e.mapId now request t).2 := by
  obtain ⟨hcache, hrules, hallocator, hs, ht⟩ := h
  have hitem : (IdToSid.resolve e s.cache s.rules now request s.directory).1
      = (IdToSid.resolve e t.cache t.rules now request t.directory).1 := by
    rw [← hcache, ← hrules]
    exact IdToSid.resolve_congr hsteady hs ht
  have hwritten := congrArg₂ (IdToSid.record e.settings e.names now request) hitem hcache
  exact ⟨congrArg (·.answer) hitem, hwritten, hrules, hallocator,
    IdToSid.calm_resolve hsteady hs, IdToSid.calm_resolve hsteady ht⟩

/-- A unix id that is not mapped changes nothing but the directory. -/
theorem SameButDirectory.mapId_of_failed (h : SameButDirectory calm s t)
    (hsteady : Directory.Steady e.directory answer calm)
    (hfailed : (e.mapId now request s).1.isSuccess = false) :
    SameButDirectory calm (e.mapId now request s).2 t :=
  ⟨(IdToSid.record_of_failed hfailed).trans h.cache, h.rules, h.allocator,
    IdToSid.calm_resolve hsteady h.left, h.right⟩

/-- A batch of unix ids is mapped alike without the items that fail. -/
theorem SameButDirectory.mapIds_succeeded (h : SameButDirectory calm s t)
    (hsteady : Directory.Steady e.directory answer calm) (now : Int) (requests : List Request) :
    (e.mapIds now (succeeded requests (e.mapIds now requests s).1) t).1
        = (e.mapIds now requests s).1.filter (·.isSuccess) ∧
      SameButDirectory calm (e.mapIds now requests s).2
        (e.mapIds now (succeeded requests (e.mapIds now requests s).1) t).2 := by
  induction requests generalizing s t with
  | nil => exact ⟨rfl, h⟩
  | cons request rest ih =>
      have hcons : ∀ others (s : EngineState δ α), e.mapIds now (request :: others) s
          = ((e.mapId now request s).1 :: (e.mapIds now others (e.mapId now request s).2).1,
              (e.mapIds now others (e.mapId now request s).2).2) := fun _ _ => rfl
      rw [hcons rest s]
      cases hok : (e.mapId now request s).1.isSuccess with
      | false =>
          simp only [succeeded_cons_of_failed hok, List.filter_cons, hok, Bool.false_eq_true,
            if_false]
          exact ih (h.mapId_of_failed hsteady hok)
      | true =>
          obtain ⟨hanswer, hnext⟩ := h.mapId hsteady now request
          obtain ⟨hanswers, hlast⟩ := ih hnext
          simp only [succeeded_cons_of_success hok, List.filter_cons, hok, if_true, hcons]
          exact ⟨by rw [hanswer, hanswers], hlast⟩

end Ids

/--
**Failed items are invisible.**

Leave out of a batch the requests that fail.  Then the others get the answers that they got
in the whole batch, minted ids included, and the cache and the allocator come to the same.
This holds of SIDs, whether or not ids run out, and of unix ids.
-/
theorem without_failed_items {e : Engine δ SequentialIds}
    (hids : e.authority = SequentialIds.authority) {s : EngineState δ SequentialIds}
    (hquiet : Directory.Quiet e.directory s.directory) (now : Int) (requests : List Request) :
    ((e.mapSids now (succeeded requests (e.mapSids now requests s).1) s).1
        = (e.mapSids now requests s).1.filter (·.isSuccess) ∧
      (e.mapSids now (succeeded requests (e.mapSids now requests s).1) s).2.cache
        = (e.mapSids now requests s).2.cache ∧
      (e.mapSids now (succeeded requests (e.mapSids now requests s).1) s).2.allocator
        = (e.mapSids now requests s).2.allocator) ∧
    ((e.mapIds now (succeeded requests (e.mapIds now requests s).1) s).1
        = (e.mapIds now requests s).1.filter (·.isSuccess) ∧
      (e.mapIds now (succeeded requests (e.mapIds now requests s).1) s).2.cache
        = (e.mapIds now requests s).2.cache ∧
      (e.mapIds now (succeeded requests (e.mapIds now requests s).1) s).2.allocator
        = (e.mapIds now requests s).2.allocator) := by
  refine ⟨mapSids_succeeded hids hquiet now requests, ?_⟩
  obtain ⟨answer, calm, hsteady, hcalm⟩ := hquiet.steady
  have hsame : SameButDirectory calm s s := ⟨rfl, rfl, rfl, hcalm, hcalm⟩
  obtain ⟨hanswers, hlast⟩ := hsame.mapIds_succeeded hsteady now requests
  exact ⟨hanswers, hlast.cache.symm, hlast.allocator.symm⟩

/-- One uid is left and no gid, and the lookup of one SID times out.  Only the SID that gets the
uid is mapped, and the others might as well not have been asked for. -/
theorem without_failed_items_last_uid :
    let sid : Sid := { base := "S-1-5-21-7", rid := 1104 }
    let silent : Sid := { sid with rid := 1106 }
    let fixed : Directory.Fixed := { entries := [], timeouts := [silent] }
    let e : Engine Directory.Fixed.State SequentialIds :=
      { (Engine.bare : Engine Directory.Fixed.State SequentialIds) with directory := fixed.client }
    let s : EngineState Directory.Fixed.State SequentialIds :=
      .fresh {} {} { uid := 0xFFFFFFFE, gid := 0xFFFFFFFF }
    let there : Request := { id := .sid sid, wanted := .uid }
    let requests : List Request :=
      [there, { there with id := .sid { sid with rid := 1105 } }, { there with wanted := .gid },
        { there with id := .sid silent }, there]
    succeeded requests (e.mapSids 0 requests s).1 = [there, there] ∧
      (e.mapSids 0 [there, there] s).1 = (e.mapSids 0 requests s).1.filter (·.isSuccess) ∧
      (e.mapSids 0 [there, there] s).2.cache = (e.mapSids 0 requests s).2.cache ∧
      (e.mapSids 0 [there, there] s).2.allocator = (e.mapSids 0 requests s).2.allocator := by
  intro sid silent fixed e s there requests
  have hkept : succeeded requests (e.mapSids 0 requests s).1 = [there, there] := by
    decide +kernel
  have hsame := (without_failed_items (e := e) rfl (s := s) (.fixed fixed rfl) 0 requests).1
  rw [hkept] at hsame
  exact ⟨hkept, hsame⟩

end IdentityMap
