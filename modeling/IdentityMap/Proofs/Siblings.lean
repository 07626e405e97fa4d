/-
What the items of a batch have to do with each other.

They share a directory round, the history of minted ids and the allocator, and nothing
else: the cache is read as it was before the batch, and the directory says the same of a SID
whatever else it is asked.  So what is left to do for a request after the first pass does not
depend on the requests beside it.  Either it is settled, or it obtains an id; and there the
other items come in only through the number.

The numbers are those that the allocator hands out next.  Each SID gets one of each kind,
when it first needs it.
-/
import IdentityMap.Proofs.Directory.Steady
import IdentityMap.Proofs.Ephemeral.Upcoming
import IdentityMap.Proofs.OneBatch

namespace IdentityMap

variable {δ α : Type}

/-! ### One request in two batches -/

/-- The two items for a request are answered alike, but for ids that are new in both. -/
structure AnsweredAlike (cache : Cache) (now : Int) (request : Request) (item item' : Item) :
    Prop where
  failure : item.answer.failure = item'.answer.failure
  direction : item.answer.direction = item'.answer.direction
  name : item.answer.name = item'.answer.name
  domain : item.answer.domain = item'.answer.domain
  kind : item.answer.unix?.map (·.kind) = item'.answer.unix?.map (·.kind)
  id : item.answer.id = item'.answer.id ∨
    ((SidToId.fresh? cache now (request, item)).isSome = true ∧
      (SidToId.fresh? cache now (request, item')).isSome = true)

theorem AnsweredAlike.refl (cache : Cache) (now : Int) (request : Request) (item : Item) :
    AnsweredAlike cache now request item item :=
  ⟨rfl, rfl, rfl, rfl, rfl, Or.inl rfl⟩

/-- No answer of the batch is the refusal of an authority that has run out of ids. -/
def Unrefused (e : Engine δ SequentialIds) (now : Int) (requests : List Request)
    (s : EngineState δ SequentialIds) : Prop :=
  ∀ answer ∈ (e.mapSids now requests s).1, ∀ kind failure, answer.failure = some failure →
    ¬ (e.mapSids now requests s).2.allocator.Refuses e.blockSize kind failure

namespace SidToId

section Item

variable {e : Engine δ α} {rules : RuleTable} {cache : Cache} {now : Int} {found : Found}
  {requests : List Request} {request : Request} {item : Item} {m m' : Mint α}
  {p : Request × Item}

/-- Where the number of a minted item comes from: it is the one that the cache has for the SID,
or it is new. -/
theorem Outcome.held_or_fresh (h : Outcome e rules cache now found request m item m')
    (hminted : item.isMinted = true) :
    ∃ sid id, request.id = .sid sid ∧ item.answer.unix? = some id ∧
      (cache.heldNumber now sid id.kind = some id.number ∨
        fresh? cache now (request, item) = some (sid, id)) := by
  cases h with
  | failed hfailed | exhausted hfailed _ =>
      rw [isMinted_of_failed hfailed] at hminted
      cases hminted
  | reserved _ _ => cases hminted
  | cached _ _ _ => cases hminted
  | ruled _ _ _ _ _ => cases hminted
  | localAccount _ _ _ _ => cases hminted
  | @minted sid kind name source fallback number domain _ hsid _ hspare hobtain =>
      refine ⟨sid, { kind, number }, hsid, rfl, ?_⟩
      rcases hspare.obtained hobtain with ⟨hheld, -⟩ | ⟨hnone, -⟩
      · exact Or.inl hheld
      · exact Or.inr (by rw [fresh?_mintedItem hsid, if_pos hnone])

/-- An item is settled on what the items before it left, and what it leaves and the items behind
it keep holds in the end. -/
theorem exists_settled_at (hp : p ∈ requests.zip (settled e rules cache now found requests m).1) :
    ∃ m₁, p.2 = (secondPass e rules now p.1 (firstPass cache now p.1) (answerFor found p.1) m₁).1 ∧
      ∀ Inv : Mint α → Prop, (∀ {p m m'}, Draw e cache now p m m' → Inv m → Inv m') →
        Inv (secondPass e rules now p.1 (firstPass cache now p.1) (answerFor found p.1) m₁).2 →
        Inv (settled e rules cache now found requests m).2 := by
  induction requests generalizing m with
  | nil => cases hp
  | cons request rest ih =>
      rcases List.mem_cons.mp hp with rfl | hp
      · refine ⟨m, rfl, fun Inv step hinv => ?_⟩
        exact @settled_inv _ _ e rules cache now found (fun _ => Inv) (fun hdraw => step hdraw)
          rest [] _ hinv
      · exact ih hp

end Item

/-! ### What is left to do for a request -/

section Plan

variable {e : Engine δ SequentialIds} {cache : Cache} {now : Int}

/-- The two items differ in the number that they were given, if at all. -/
inductive SameUpToNumber (e : Engine δ α) (now : Int) : Item → Item → Prop
  | same (item : Item) : SameUpToNumber e now item item
  | minted (kind : IdKind) (number number' : UInt32) (name : Option WindowsName)
      (source : NameSource) (domain : Option String) :
      SameUpToNumber e now (mintedItem e now { kind, number } name source domain)
        (mintedItem e now { kind, number := number' } name source domain)

/-- The item failed since the allocator has no id for it. -/
def IsRefused (e : Engine δ SequentialIds) (item : Item) (m : Mint SequentialIds) : Prop :=
  ∃ kind failure, item.answer.failure = some failure ∧
    m.allocator.Refuses e.blockSize kind failure

theorem isRefused_of_obtainId {sid : Sid} {kind : IdKind} {fallback : Fallback} {failure : Failure}
    {m m' : Mint SequentialIds} (hids : e.authority = SequentialIds.authority) (answer : Answer)
    (h : obtainId e sid kind fallback m = (.error failure, m')) :
    IsRefused e (.fail answer failure) m' := by
  obtain ⟨-, hallocate⟩ := obtainId_error h
  rw [hids] at hallocate
  obtain ⟨hsame, hrefuses⟩ := Allocator.refuses_of_error hallocate
  refine ⟨kind, failure, rfl, ?_⟩
  rw [hsame]
  exact hrefuses

/-- The allocator decides about the number, and about whether there is one. -/
theorem Plan.run_cases (hids : e.authority = SequentialIds.authority) (plan : Plan)
    (m₁ m₂ : Mint SequentialIds) :
    SameUpToNumber e now (plan.run e now m₁).1 (plan.run e now m₂).1 ∨
      IsRefused e (plan.run e now m₁).1 (plan.run e now m₁).2 ∨
      IsRefused e (plan.run e now m₂).1 (plan.run e now m₂).2 := by
  cases plan with
  | settle item => exact Or.inl (.same item)
  | mint sid kind source name fallback answer =>
      simp only [run, mintItem]
      rcases hfirst : obtainId e sid kind fallback m₁ with ⟨failure | number, m₁'⟩
      · exact Or.inr (Or.inl (isRefused_of_obtainId hids answer hfirst))
      rcases hsecond : obtainId e sid kind fallback m₂ with ⟨failure | number', m₂'⟩
      · exact Or.inr (Or.inr (isRefused_of_obtainId hids answer hsecond))
      exact Or.inl (.minted kind number number' name source answer.domain)

/-- A refusal is for good. -/
theorem Draw.refuses (hids : e.authority = SequentialIds.authority) {p : Request × Item}
    {m m' : Mint SequentialIds} {kind : IdKind} {failure : Failure}
    (h : Draw e cache now p m m') (hrefuses : m.allocator.Refuses e.blockSize kind failure) :
    m'.allocator.Refuses e.blockSize kind failure := by
  cases h with
  | nothing _ hallocator _ =>
      rw [hallocator]
      exact hrefuses
  | refused _ _ hallocate =>
      rw [hids] at hallocate
      rw [(Allocator.refuses_of_error hallocate).1]
      exact hrefuses
  | again _ _ => exact hrefuses
  | first _ _ hallocate =>
      rw [hids] at hallocate
      exact hrefuses.allocate hallocate

end Plan

end SidToId

open SidToId

section Alike

variable {e : Engine δ SequentialIds} {s : EngineState δ SequentialIds} {now : Int}
  {requests requests' : List Request} {request : Request} {item item' : Item}

/-- Minted items whose numbers both come from the cache have the same number. -/
theorem answeredAlike_of_sameUpToNumber {found found' : Found} {rules : RuleTable} {cache : Cache}
    {m₁ m₁' m₂ m₂' : Mint SequentialIds}
    (h : Outcome e rules cache now found request m₁ item m₁')
    (h' : Outcome e rules cache now found' request m₂ item' m₂')
    (hsame : SameUpToNumber e now item item') : AnsweredAlike cache now request item item' := by
  cases hsame with
  | same item => exact .refl cache now request item
  | minted kind number number' name source domain =>
      refine ⟨rfl, rfl, rfl, rfl, rfl, ?_⟩
      obtain ⟨sid, id, hsid, hid, hsource⟩ := h.held_or_fresh rfl
      obtain ⟨sid', id', hsid', hid', hsource'⟩ := h'.held_or_fresh rfl
      obtain rfl := Identity.sid.inj (hsid.symm.trans hsid')
      cases hid
      cases hid'
      rcases hsource with hheld | hnew
      · rcases hsource' with hheld' | hnew'
        · have hnumber : number = number' := Option.some.inj (hheld.symm.trans hheld')
          rw [hnumber]
          exact Or.inl rfl
        · have hnone := (fresh?_eq_some hnew').2.2.2
          exact absurd (hheld.symm.trans hnone) (Option.some_ne_none _)
      · rcases hsource' with hheld' | hnew'
        · have hnone := (fresh?_eq_some hnew).2.2.2
          exact absurd (hheld'.symm.trans hnone) (Option.some_ne_none _)
        · exact Or.inr ⟨by rw [hnew]; rfl, by rw [hnew']; rfl⟩

/-- An item that is refused an id says so to the end of the batch. -/
theorem not_isRefused {p : Request × Item} (hids : e.authority = SequentialIds.authority)
    (hp : p ∈ requests.zip (sidItems e now requests s)) (hroom : Unrefused e now requests s)
    {m₁ : Mint SequentialIds}
    (hkeep : ∀ Inv : Mint SequentialIds → Prop,
      (∀ {p m m'}, Draw e s.cache now p m m' → Inv m → Inv m') → Inv m₁ →
      Inv (settled e s.rules s.cache now (batchFound e now requests s).1 requests
        { allocator := s.allocator }).2) : ¬ IsRefused e p.2 m₁ := by
  rintro ⟨kind, failure, hfailure, hrefuses⟩
  have hlast := hkeep (fun m => m.allocator.Refuses e.blockSize kind failure)
    (fun hdraw hrefuses => hdraw.refuses hids hrefuses) hrefuses
  have hanswer : p.2.answer ∈ (e.mapSids now requests s).1 := by
    rw [answers_mapSids]
    exact List.mem_map.mpr ⟨p.2, (List.of_mem_zip hp).2, rfl⟩
  refine hroom p.2.answer hanswer kind failure hfailure ?_
  rw [mapSids_eq]
  exact hlast

/-- **A request is answered alike in any two batches from one state.** -/
theorem answeredAlike_of_mem (hids : e.authority = SequentialIds.authority)
    (hquiet : Directory.Quiet e.directory s.directory)
    (hroom : Unrefused e now requests s) (hroom' : Unrefused e now requests' s)
    (hitem : (request, item) ∈ requests.zip (sidItems e now requests s))
    (hitem' : (request, item') ∈ requests'.zip (sidItems e now requests' s)) :
    AnsweredAlike s.cache now request item item' := by
  obtain ⟨answer, calm, hsteady, hcalm⟩ := hquiet.steady
  obtain ⟨_, _, houtcome⟩ := exists_outcome hitem
  obtain ⟨_, _, houtcome'⟩ := exists_outcome hitem'
  refine answeredAlike_of_sameUpToNumber houtcome houtcome' ?_
  obtain ⟨m₁, hfirst, hkeep⟩ := exists_settled_at hitem
  obtain ⟨m₂, hsecond, hkeep'⟩ := exists_settled_at hitem'
  simp only at hfirst hsecond hkeep hkeep'
  -- What is found is the same in both batches, so the same is left to do.
  have hfound : ∀ m, secondPass e s.rules now request (firstPass s.cache now request)
        (answerFor (batchFound e now requests' s).1 request) m
      = secondPass e s.rules now request (firstPass s.cache now request)
        (answerFor (batchFound e now requests s).1 request) m := by
    refine fun m => secondPass_congr fun sid hawaits => ?_
    rw [answerFor_batchFound hsteady hcalm (List.of_mem_zip hitem).1 hawaits,
      answerFor_batchFound hsteady hcalm (List.of_mem_zip hitem').1 hawaits]
  obtain ⟨plan, hplan⟩ := exists_plan e.settings e.names s.rules now request
    (firstPass s.cache now request) (answerFor (batchFound e now requests s).1 request)
  rw [hplan e m₁ rfl rfl] at hfirst hkeep
  rw [hfound, hplan e m₂ rfl rfl] at hsecond hkeep'
  have hnot := not_isRefused hids hitem hroom hkeep
  have hnot' := not_isRefused hids hitem' hroom' hkeep'
  rw [hfirst] at hnot ⊢
  rw [hsecond] at hnot' ⊢
  rcases plan.run_cases hids m₁ m₂ with hsame | hrefused | hrefused
  · exact hsame
  · exact absurd hrefused hnot
  · exact absurd hrefused hnot'

end Alike

/-! ### The numbers of a batch -/

namespace SidToId

/-- The SIDs that got new ids of this kind, with the ids, each where it first did. -/
def newIds (cache : Cache) (now : Int) (kind : IdKind) (items : List (Request × Item)) :
    List (Sid × UnixId) :=
  ((fresh cache now items).filter (·.2.kind == kind)).eraseDups

/-- The new ids of the items so far are the numbers that the allocator was about to hand out,
and each SID has one of each kind. -/
structure Numbered (a : Allocator SequentialIds) (cache : Cache) (now : Int)
    (done : List (Request × Item)) (m : Mint SequentialIds) : Prop where
  noted : Noted cache now done m
  sids : ∀ kind, (newIds cache now kind done).map (·.1)
    = (((fresh cache now done).filter (·.2.kind == kind)).map (·.1)).eraseDups
  numbers : ∀ kind, (newIds cache now kind done).map (·.2.number)
    = (List.range (newIds cache now kind done).length).map fun i =>
        UInt32.ofNat (a.upcoming kind i)
  left : ∀ kind i, m.allocator.upcoming kind i
    = a.upcoming kind ((newIds cache now kind done).length + i)

section Number

variable {e : Engine δ SequentialIds} {a : Allocator SequentialIds} {cache : Cache} {now : Int}
  {done : List (Request × Item)} {p : Request × Item} {m m' : Mint SequentialIds} {sid : Sid}
  {id : UnixId} {kind : IdKind}

theorem newIds_append_none (h : fresh? cache now p = none) :
    newIds cache now kind (done ++ [p]) = newIds cache now kind done := by
  rw [newIds, fresh_append_none h, newIds]

theorem filter_fresh_append_of_ne (h : fresh? cache now p = some (sid, id))
    (hkind : id.kind ≠ kind) :
    (fresh cache now (done ++ [p])).filter (·.2.kind == kind)
      = (fresh cache now done).filter (·.2.kind == kind) := by
  rw [fresh_append_some h, List.filter_append, List.filter_cons_of_neg (by simpa using hkind)]
  simp

theorem filter_fresh_append_self (h : fresh? cache now p = some (sid, id)) :
    (fresh cache now (done ++ [p])).filter (·.2.kind == id.kind)
      = (fresh cache now done).filter (·.2.kind == id.kind) ++ [(sid, id)] := by
  rw [fresh_append_some h, List.filter_append, List.filter_cons_of_pos (by simp)]
  simp

theorem newIds_append_of_ne (h : fresh? cache now p = some (sid, id)) (hkind : id.kind ≠ kind) :
    newIds cache now kind (done ++ [p]) = newIds cache now kind done := by
  rw [newIds, filter_fresh_append_of_ne h hkind, newIds]

/-- An item that changes neither the new ids of any kind nor the allocator. -/
theorem Numbered.keep (h : Numbered a cache now done m) (hnoted : Noted cache now (done ++ [p]) m')
    (hallocator : m'.allocator = m.allocator)
    (hnew : ∀ kind, newIds cache now kind (done ++ [p]) = newIds cache now kind done)
    (hsids : ∀ kind, (((fresh cache now (done ++ [p])).filter (·.2.kind == kind)).map
        (·.1)).eraseDups
      = (((fresh cache now done).filter (·.2.kind == kind)).map (·.1)).eraseDups) :
    Numbered a cache now (done ++ [p]) m' := by
  refine ⟨hnoted, fun kind => ?_, fun kind => ?_, fun kind i => ?_⟩
  · rw [hnew, hsids]
    exact h.sids kind
  · rw [hnew]
    exact h.numbers kind
  · rw [hallocator, hnew]
    exact h.left kind i

/-- An item that has the new id of an item before. -/
theorem Numbered.again (h : Numbered a cache now done m) (hnoted : Noted cache now (done ++ [p]) m)
    (hnew : fresh? cache now p = some (sid, id)) (hmem : (sid, id) ∈ fresh cache now done) :
    Numbered a cache now (done ++ [p]) m := by
  have hfresh : (sid, id) ∈ (fresh cache now done).filter (·.2.kind == id.kind) :=
    List.mem_filter.mpr ⟨hmem, beq_self_eq_true _⟩
  refine h.keep hnoted rfl (fun kind => ?_) fun kind => ?_
  · by_cases hkind : id.kind = kind
    · subst hkind
      rw [newIds, filter_fresh_append_self hnew, eraseDups_concat_of_mem hfresh, newIds]
    · exact newIds_append_of_ne hnew hkind
  · by_cases hkind : id.kind = kind
    · subst hkind
      rw [filter_fresh_append_self hnew, List.map_append, List.map_singleton,
        eraseDups_concat_of_mem (List.mem_map.mpr ⟨_, hfresh, rfl⟩)]
    · rw [filter_fresh_append_of_ne hnew hkind]

/-- An item that is the first to have a new id of this SID and kind, which is the number that the
allocator was to hand out next. -/
theorem Numbered.first (h : Numbered a cache now done m) (hnoted : Noted cache now (done ++ [p]) m')
    (hnew : fresh? cache now p = some (sid, id))
    (habsent : (sid, id.kind) ∉ freshKinds cache now done)
    (hnumber : id.number = UInt32.ofNat (m.allocator.upcoming id.kind 0))
    (hnext : ∀ i, m'.allocator.upcoming id.kind i = m.allocator.upcoming id.kind (i + 1))
    (hothers : ∀ other, other ≠ id.kind → ∀ i,
      m'.allocator.upcoming other i = m.allocator.upcoming other i) :
    Numbered a cache now (done ++ [p]) m' := by
  have hsid : sid ∉ ((fresh cache now done).filter (·.2.kind == id.kind)).map (·.1) := by
    intro hmem
    obtain ⟨⟨sid', id'⟩, hfresh, hsid⟩ := List.mem_map.mp hmem
    obtain ⟨hfresh, hkind⟩ := List.mem_filter.mp hfresh
    exact habsent (List.mem_map.mpr ⟨(sid', id'), hfresh, Prod.ext hsid (by simpa using hkind)⟩)
  have hself : newIds cache now id.kind (done ++ [p])
      = newIds cache now id.kind done ++ [(sid, id)] := by
    rw [newIds, filter_fresh_append_self hnew, newIds]
    exact eraseDups_concat_of_not_mem fun hmem =>
      hsid (List.mem_map.mpr ⟨(sid, id), hmem, rfl⟩)
  refine ⟨hnoted, fun kind => ?_, fun kind => ?_, fun kind i => ?_⟩
  all_goals by_cases hkind : id.kind = kind
  · subst hkind
    rw [hself, filter_fresh_append_self hnew, List.map_append, List.map_append, h.sids,
      List.map_singleton, eraseDups_concat_of_not_mem hsid]
  · rw [newIds_append_of_ne hnew hkind, filter_fresh_append_of_ne hnew hkind]
    exact h.sids kind
  · subst hkind
    have hlast := h.left id.kind 0
    rw [hself, List.map_append, h.numbers, List.length_append, List.length_singleton,
      List.range_succ, List.map_append, List.map_singleton, List.map_singleton, hnumber,
      hlast, Nat.add_zero]
  · rw [newIds_append_of_ne hnew hkind]
    exact h.numbers kind
  · subst hkind
    rw [hnext, h.left, hself, List.length_append, List.length_singleton, Nat.add_assoc,
      Nat.add_comm 1 i]
  · rw [hothers kind (Ne.symm hkind), h.left, newIds_append_of_ne hnew hkind]

theorem Numbered.draw (hids : e.authority = SequentialIds.authority)
    (hdraw : Draw e cache now p m m') (h : Numbered a cache now done m) :
    Numbered a cache now (done ++ [p]) m' := by
  have hnoted := hdraw.noted h.noted
  cases hdraw with
  | nothing hnew hallocator _ =>
      refine h.keep hnoted hallocator (fun kind => newIds_append_none hnew) fun kind => ?_
      rw [fresh_append_none hnew]
  | refused hnew _ hallocate =>
      rw [hids] at hallocate
      refine h.keep hnoted (Allocator.refuses_of_error hallocate).1
        (fun kind => newIds_append_none hnew) fun kind => ?_
      rw [fresh_append_none hnew]
  | again hnew hget => exact h.again hnoted hnew (h.noted.mem_fresh hnew hget)
  | first hnew hget hallocate =>
      rw [hids] at hallocate
      obtain ⟨hnumber, hnext, hothers⟩ := Allocator.upcoming_allocate hallocate
      exact h.first hnoted hnew (h.noted.not_mem_freshKinds hnew hget) hnumber hnext hothers

end Number
end SidToId

/-- At the end of a batch its new ids are the numbers that were next before it. -/
theorem numbered_sidItems {e : Engine δ SequentialIds}
    (hids : e.authority = SequentialIds.authority) (now : Int) (requests : List Request)
    (s : EngineState δ SequentialIds) :
    Numbered s.allocator s.cache now (requests.zip (sidItems e now requests s))
      (settled e s.rules s.cache now (batchFound e now requests s).1 requests
        { allocator := s.allocator }).2 := by
  have hstart : Numbered s.allocator s.cache now [] { allocator := s.allocator } := by
    refine ⟨?_, fun kind => rfl, fun kind => rfl, fun kind i => ?_⟩
    · intro sid id _
      simp [fresh]
    · exact congrArg _ (Nat.zero_add i).symm
  exact settled_inv (Numbered s.allocator s.cache now) (fun hdraw hdone => hdone.draw hids hdraw)
    requests hstart

/--
**The items of a batch are independent but for the numbers of new ids.**

Take two batches from one state that both ask the same, among whatever else.  As long as no ids
run out the answers have the same status, direction, name, domain and kind, and the same id
unless it is new in both.

In a batch the new ids of a kind are those that the allocator was to hand out next, in the
order in which the SIDs first got one, one for each SID, and no others are handed out.  If
nobody else took blocks meanwhile they are consecutive.
-/
theorem siblings_are_independent {e : Engine δ SequentialIds}
    (hids : e.authority = SequentialIds.authority) {s : EngineState δ SequentialIds}
    (hquiet : Directory.Quiet e.directory s.directory) (now : Int) :
    (∀ requests requests', Unrefused e now requests s → Unrefused e now requests' s →
      ∀ request item item', (request, item) ∈ requests.zip (sidItems e now requests s) →
        (request, item') ∈ requests'.zip (sidItems e now requests' s) →
        AnsweredAlike s.cache now request item item') ∧
    ∀ requests kind,
      let items := requests.zip (sidItems e now requests s)
      let new := newIds s.cache now kind items
      (e.mapSids now requests s).1 = (sidItems e now requests s).map (·.answer) ∧
      new.map (·.1) = (((fresh s.cache now items).filter (·.2.kind == kind)).map (·.1)).eraseDups ∧
      new.map (·.2.number)
        = (List.range new.length).map (fun i => UInt32.ofNat (s.allocator.upcoming kind i)) ∧
      (∀ i, (e.mapSids now requests s).2.allocator.upcoming kind i
        = s.allocator.upcoming kind (new.length + i)) ∧
      (s.allocator.Contiguous → new.map (·.2.number)
        = (List.range new.length).map fun i => UInt32.ofNat (s.allocator.frontier kind + i)) := by
  constructor
  · intro requests requests' hroom hroom' request item item' hitem hitem'
    exact answeredAlike_of_mem hids hquiet hroom hroom' hitem hitem'
  · intro requests kind items new
    obtain ⟨-, hsids, hnumbers, hleft⟩ := numbered_sidItems hids now requests s
    refine ⟨answers_mapSids e now requests s, hsids kind, hnumbers kind, ?_, fun hc => ?_⟩
    · rw [mapSids_eq]
      exact hleft kind
    · have hconsecutive := hnumbers kind
      simp only [Allocator.upcoming_eq hc] at hconsecutive
      exact hconsecutive

/-- A batch in which nobody fails is refused nothing. -/
theorem unrefused_of_success {e : Engine δ SequentialIds} {now : Int} {requests : List Request}
    {s : EngineState δ SequentialIds}
    (h : (e.mapSids now requests s).1.all (·.isSuccess) = true) : Unrefused e now requests s := by
  intro answer hanswer kind failure hfailure
  have hok := List.all_eq_true.mp h answer hanswer
  rw [Answer.isSuccess, hfailure] at hok
  cases hok

/-- A SID is asked for behind another one, and alone.  Both ids are new, and the first is the
number behind the other's. -/
theorem siblings_are_independent_two_uids :
    let sid : Sid := { base := "S-1-5-21-7", rid := 1104 }
    let e : Engine Unit SequentialIds :=
      { (Engine.bare : Engine Unit SequentialIds) with directory := Directory.absent }
    let s : EngineState Unit SequentialIds := .fresh {} () .aboveReserved
    let there : Request := { id := .sid sid, wanted := .uid }
    let requests : List Request := [{ there with id := .sid { sid with rid := 1105 } }, there]
    let minted (number : UInt32) : Item :=
      mintedItem e 0 { kind := .uid, number } none .machine none
    AnsweredAlike s.cache 0 there (minted 0x80000002) (minted 0x80000001) ∧
      (newIds s.cache 0 .uid (requests.zip (sidItems e 0 requests s))).map (·.2.number)
        = [0x80000001, 0x80000002] := by
  intro sid e s there requests minted
  have hboth := siblings_are_independent (e := e) rfl (s := s) .absent 0
  refine ⟨?_, ?_⟩
  · exact hboth.1 requests [there] (unrefused_of_success (by decide +kernel))
      (unrefused_of_success (by decide +kernel)) there (minted 0x80000002) (minted 0x80000001)
      (by decide +kernel) (by decide +kernel)
  · obtain ⟨-, -, hnumbers, -⟩ := hboth.2 requests .uid
    rw [hnumbers]
    decide +kernel

end IdentityMap
