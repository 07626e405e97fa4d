/-
What every item comes to.

However an item ends, its state is final, and its state and its answer agree on whether it
failed and why.  An answer that succeeds carries an identity of the kind that was asked for.
One that fails carries nothing, or a stand-in: the id of nobody for a SID, and for a unix id
the SID under which this host would know the account.

The passes put an answer together part by part and leave in many places.  There is one lemma
here for each way to leave, and each function is then the list of its exits.
-/
import Mathlib.Data.List.Forall2
import IdentityMap.Proofs.Mapping.Run

namespace IdentityMap

/-! ### Kinds that answer a request -/

theorem Wanted.admits_of_check {wanted : Wanted} {kind : IdKind} {what : String}
    (h : wanted.check kind what = .ok ()) : wanted.admits kind = true := by
  cases wanted <;> cases kind <;> first | rfl | cases h

theorem Wanted.check_of_admits {wanted : Wanted} {kind : IdKind}
    (h : wanted.admits kind = true) (what : String) : wanted.check kind what = .ok () := by
  cases wanted <;> cases kind <;> first | rfl | cases h

/-- Anything but a SID may be answered with nobody. -/
theorem Wanted.admits_defaultKind {wanted : Wanted} (h : wanted ≠ .sid) :
    wanted.admits wanted.defaultKind = true := by
  cases wanted with
  | uid => rfl
  | gid => rfl
  | posix => rfl
  | sid => exact absurd rfl h

theorem AccountType.admits_of_verify {type : AccountType} {wanted : Wanted} {kind : IdKind}
    (h : type.verify wanted = .ok kind) : wanted.admits kind = true := by
  obtain ⟨rfl, hcheck⟩ := verify_ok h
  exact Wanted.admits_of_check hcheck

theorem AccountType.verify_kind (type : AccountType) :
    type.verify type.kind.wanted = .ok type.kind := by
  cases type <;> rfl

theorem IdKind.admits_wanted (kind : IdKind) : kind.wanted.admits kind = true := by
  cases kind <;> rfl

theorem WellKnown.admits_of_idOf {sid : Sid} {wanted : Wanted} {id : UnixId}
    {direction : Direction} (h : idOf sid wanted = some (.mapped id direction)) :
    wanted.admits id.kind = true := by
  obtain ⟨entry, -, hfound⟩ := List.exists_of_findSome?_eq_some h
  split at hfound
  · cases hfound
  · split at hfound
    · next hanswers =>
        cases hfound
        exact (Bool.and_eq_true_iff.mp hanswers).2
    · cases hfound

theorem LocalAccount.admits_of_decode {sid : Sid} {wanted : Wanted} {id : UnixId}
    (h : decode sid wanted = .ok id) : wanted.admits id.kind = true := by
  unfold decode at h
  split at h
  · cases h
  · next found _ =>
      cases hcheck : wanted.check found.kind "SID requested as unix id" with
      | error failure =>
          rw [hcheck] at h
          cases h
      | ok u =>
          rw [hcheck] at h
          cases h
          exact Wanted.admits_of_check hcheck

/-! ### Final items -/

/-- The item is done, and its state and its answer agree on how it failed. -/
structure Item.Concluded (item : Item) : Prop where
  final : item.state.isFinal = true
  failed_iff : ∀ e, item.state = .failed e ↔ item.answer.failure = some e

namespace Item.Concluded

theorem fail (answer : Answer) (e : Failure) : (Item.fail answer e).Concluded := by
  refine ⟨rfl, fun e' => ?_⟩
  simp [Item.fail]

theorem cacheHit {answer : Answer} (h : answer.failure = none) :
    Item.Concluded { answer, state := .cacheHit } := by
  refine ⟨rfl, fun e => ?_⟩
  simp [h]

theorem resolved {answer : Answer} (h : answer.failure = none) (resolution : Resolution) :
    Item.Concluded { answer, state := .resolved resolution } := by
  refine ⟨rfl, fun e => ?_⟩
  simp [h]

end Item.Concluded

/-! ### From a SID -/

namespace SidToId

/-- How an item about a SID may end. -/
structure Conclusion (request : Request) (item : Item) : Prop extends item.Concluded where
  success : item.answer.isSuccess = true →
    ∃ id, item.answer.id = some (.unix id) ∧ request.wanted.admits id.kind = true
  failure : item.answer.isSuccess = false → ∀ identity, item.answer.id = some identity →
    ∃ kind, request.wanted.admits kind = true ∧ identity = .unix (.nobody kind)

/-- A stand-in that the request admits. -/
def IsNobody (request : Request) (answer : Answer) : Prop :=
  ∀ identity, answer.id = some identity →
    ∃ kind, request.wanted.admits kind = true ∧ identity = .unix (.nobody kind)

variable {δ α : Type} {e : Engine δ α} {rules : RuleTable} {cache : Cache} {now : Int}
  {request : Request} {sid : Sid} {m : Mint α}

theorem isNobody_of_none {answer : Answer} (h : answer.id = none) : IsNobody request answer := by
  intro identity hid
  rw [h] at hid
  cases hid

theorem isNobody_nobody {kind : IdKind} (h : request.wanted.admits kind = true) (e : Failure) :
    IsNobody request (.nobody kind e) := by
  intro identity hid
  cases hid
  exact ⟨kind, h, rfl⟩

namespace Conclusion

theorem fail {answer : Answer} (h : IsNobody request answer) (e : Failure) :
    Conclusion request (.fail answer e) where
  toConcluded := .fail answer e
  success hok := by cases hok
  failure _ := h

theorem failed (e : Failure) : Conclusion request (.failed e) :=
  fail (isNobody_of_none rfl) e

theorem nobody {kind : IdKind} (h : request.wanted.admits kind = true) (e : Failure) :
    Conclusion request (.nobody kind e) :=
  fail (isNobody_nobody h e) e

theorem cacheHit {answer : Answer} {id : UnixId} (hok : answer.failure = none)
    (hid : answer.id = some (.unix id)) (h : request.wanted.admits id.kind = true) :
    Conclusion request { answer, state := .cacheHit } where
  toConcluded := .cacheHit hok
  success _ := ⟨id, hid, h⟩
  failure hfailed := by simp [Answer.isSuccess, hok] at hfailed

theorem resolved {answer : Answer} {id : UnixId} (hok : answer.failure = none)
    (hid : answer.id = some (.unix id)) (h : request.wanted.admits id.kind = true)
    (resolution : Resolution) : Conclusion request { answer, state := .resolved resolution } where
  toConcluded := .resolved hok resolution
  success _ := ⟨id, hid, h⟩
  failure hfailed := by simp [Answer.isSuccess, hok] at hfailed

theorem cacheAnswer (request : Request) (hit : CachedId) :
    Conclusion request (cacheAnswer request hit) := by
  unfold SidToId.cacheAnswer
  cases hcheck : hit.check request.wanted with
  | error failure => exact failed failure
  | ok u => exact cacheHit rfl rfl (Wanted.admits_of_check hcheck)

theorem mintItem {kind : IdKind} {answer : Answer} (hkind : request.wanted.admits kind = true)
    (hanswer : IsNobody request answer) (source : NameSource) (name : Option WindowsName)
    (fallback : Fallback) :
    Conclusion request (mintItem e now sid kind source name fallback answer m).1 := by
  unfold SidToId.mintItem
  split
  · exact fail hanswer _
  · exact resolved rfl rfl hkind _

theorem settleUnknown (hwanted : request.wanted ≠ .sid) (reason : Failure) (fallback : Fallback) :
    Conclusion request (settleUnknown e now request sid reason fallback m).1 := by
  have hkind := Wanted.admits_defaultKind hwanted
  have hunknown : Conclusion request
      (if reason ≠ .notFound ∨ !e.settings.mintUnknown then
        (Item.nobody request.wanted.defaultKind reason, m)
      else SidToId.mintItem e now sid request.wanted.defaultKind .machine none fallback
        (.nobody request.wanted.defaultKind .notFound) m).1 := by
    split
    · exact nobody hkind reason
    · exact mintItem hkind (isNobody_nobody hkind _) _ _ _
  unfold SidToId.settleUnknown
  simp only
  split
  · split
    · next hdecode => exact resolved rfl rfl (LocalAccount.admits_of_decode hdecode) _
    · exact hunknown
    · exact nobody hkind _
  · exact hunknown

theorem applyRules (hwanted : request.wanted ≠ .sid) (name : WindowsName) (source : NameSource)
    (fallback : Fallback) :
    Conclusion request (applyRules e rules now request sid name source fallback m).1 := by
  unfold SidToId.applyRules
  cases hverify : name.type.verify request.wanted with
  | error failure => exact nobody (Wanted.admits_defaultKind hwanted) failure
  | ok kind =>
      have hkind := AccountType.admits_of_verify hverify
      simp only
      split
      · next found hfound =>
          refine resolved rfl rfl ?_ _
          rw [Rule.kind_of_mapToUnix hfound]
          exact hkind
      · exact mintItem hkind (isNobody_of_none rfl) _ _ _
      · exact nobody hkind _

end Conclusion

/-- What the first pass leaves behind: an item that has ended, or one that waits. -/
inductive Pending : Item → Prop
  | directory {answer : Answer} {fallback : Fallback} :
      Pending { answer, state := .awaitsDirectory fallback }
  | rules {answer : Answer} {name : WindowsName} {source : NameSource} {fallback : Fallback} :
      Pending { answer, state := .awaitsRules name source fallback }

theorem conclusion_or_pending_findName (fallback : Fallback) :
    Conclusion request (findName cache now request sid fallback) ∨
      Pending (findName cache now request sid fallback) := by
  unfold findName
  split
  · exact Or.inr .rules
  · split
    · exact Or.inr .rules
    · split
      · exact Or.inr .rules
      · exact Or.inr .directory
      · exact Or.inl (.failed _)

/-- An item only waits if a unix id was asked for. -/
theorem conclusion_or_pending_firstPass (cache : Cache) (now : Int) (request : Request) :
    Conclusion request (firstPass cache now request) ∨
      (request.wanted ≠ .sid ∧ Pending (firstPass cache now request)) := by
  unfold firstPass
  split
  · exact Or.inl (.failed _)
  · by_cases hwanted : request.wanted = .sid
    · rw [if_pos hwanted]
      exact Or.inl (.failed _)
    rw [if_neg hwanted]
    split
    · next hreserved => exact Or.inl (.cacheHit rfl rfl (WellKnown.admits_of_idOf hreserved))
    · exact Or.inl (.failed _)
    · unfold searchCache
      split
      · split
        · exact Or.inl (.cacheAnswer request _)
        · exact (conclusion_or_pending_findName _).imp_right fun h => ⟨hwanted, h⟩
      · split
        · exact Or.inl (.nobody (Wanted.admits_defaultKind hwanted) _)
        · exact (conclusion_or_pending_findName _).imp_right fun h => ⟨hwanted, h⟩
      · exact Or.inl (.failed _)

/-- An item that waits ends in the second pass. -/
theorem Conclusion.secondPass {item : Item} (hsid : request.id = .sid sid)
    (hwanted : request.wanted ≠ .sid) (h : Pending item)
    (found : Option (Except Failure Directory.Entry)) :
    Conclusion request (secondPass e rules now request item found m).1 := by
  unfold SidToId.secondPass
  rw [hsid]
  cases h with
  | directory =>
      simp only
      split
      · exact applyRules hwanted _ _ _
      · exact settleUnknown hwanted _ _
      · exact settleUnknown hwanted _ _
  | rules => exact applyRules hwanted _ _ _

/-- **Every item about a SID ends well formed.** -/
theorem conclusion (e : Engine δ α) (rules : RuleTable) (cache : Cache) (now : Int)
    (request : Request) (found : Option (Except Failure Directory.Entry)) (m : Mint α) :
    Conclusion request
      (secondPass e rules now request (firstPass cache now request) found m).1 := by
  rcases conclusion_or_pending_firstPass cache now request with hdone | ⟨hwanted, hpending⟩
  · rw [secondPass_of_isFinal hdone.final]
    exact hdone
  · cases hid : request.id with
    | sid sid => exact .secondPass hid hwanted hpending found
    | unix id =>
        have hfirst : firstPass cache now request = .failed (.badSid id.text) := by
          rw [firstPass, hid]
        rw [hfirst] at hpending
        cases hpending

end SidToId

/-! ### From a unix id -/

namespace IdToSid

/-- How an item about a unix id may end. -/
structure Conclusion (settings : Settings) (request : Request) (item : Item) : Prop
    extends item.Concluded where
  success : item.answer.isSuccess = true → ∃ sid, item.answer.id = some (.sid sid)
  failure : item.answer.isSuccess = false → ∀ identity, item.answer.id = some identity →
    ∃ machine id sid, settings.machine? = some machine ∧ request.id = .unix id ∧
      LocalAccount.encode machine id = .ok sid ∧ identity = .sid sid

namespace Conclusion

variable {δ α : Type} {e : Engine δ α} {settings : Settings} {request : Request} {id : UnixId}

theorem failed (e : Failure) : Conclusion settings request (.failed e) where
  toConcluded := .fail {} e
  success hok := by cases hok
  failure _ identity hid := by cases hid

theorem cacheHit {answer : Answer} {sid : Sid} (hok : answer.failure = none)
    (hid : answer.id = some (.sid sid)) :
    Conclusion settings request { answer, state := .cacheHit } where
  toConcluded := .cacheHit hok
  success _ := ⟨sid, hid⟩
  failure hfailed := by simp [Answer.isSuccess, hok] at hfailed

theorem resolved {answer : Answer} {sid : Sid} (hok : answer.failure = none)
    (hid : answer.id = some (.sid sid)) (resolution : Resolution) :
    Conclusion settings request { answer, state := .resolved resolution } where
  toConcluded := .resolved hok resolution
  success _ := ⟨sid, hid⟩
  failure hfailed := by simp [Answer.isSuccess, hok] at hfailed

theorem failWithLocal (hid : request.id = .unix id) (e : Failure) :
    Conclusion settings request (failWithLocal settings id e) where
  toConcluded := .fail _ e
  success hok := by cases hok
  failure _ identity hidentity := by
    simp only [IdToSid.failWithLocal, Item.fail, Option.map_eq_some_iff] at hidentity
    obtain ⟨sid, hlocal, rfl⟩ := hidentity
    unfold localSid at hlocal
    cases hmachine : settings.machine? with
    | none =>
        rw [hmachine] at hlocal
        cases hlocal
    | some machine =>
        simp only [hmachine] at hlocal
        cases hencode : LocalAccount.encode machine id with
        | error failure =>
            rw [hencode] at hlocal
            cases hlocal
        | ok sid' =>
            rw [hencode] at hlocal
            cases hlocal
            exact ⟨machine, id, sid, rfl, hid, hencode, rfl⟩

theorem settleLocal (settings : Settings) (request : Request) (id : UnixId) :
    Conclusion settings request (settleLocal settings id) := by
  unfold IdToSid.settleLocal
  split
  · exact resolved rfl rfl _
  · exact failed _

variable {cache : Cache} {rules : RuleTable} {now : Int} {s : δ}

theorem applyRules (hid : request.id = .unix id) (name : String) :
    Conclusion e.settings request (applyRules e cache rules now id name s).1 := by
  unfold IdToSid.applyRules
  split
  · exact resolved rfl rfl _
  · exact settleLocal _ _ _
  · exact failWithLocal hid _

theorem settleUncached (hid : request.id = .unix id) :
    Conclusion e.settings request (settleUncached e cache rules now request id s).1 := by
  unfold IdToSid.settleUncached
  split
  · exact failed _
  · split
    · exact applyRules hid _
    · split
      · exact applyRules hid _
      · exact settleLocal _ _ _
      · exact failWithLocal hid _

end Conclusion

variable {δ α : Type}

/-- **Every item about a unix id ends well formed.** -/
theorem conclusion (e : Engine δ α) (cache : Cache) (rules : RuleTable) (now : Int)
    (request : Request) (s : δ) :
    Conclusion e.settings request (resolve e cache rules now request s).1 := by
  unfold resolve
  cases hid : request.id with
  | sid sid => exact .failed _
  | unix id =>
      simp only
      split
      · exact .failed _
      · split
        · exact .cacheHit rfl rfl
        · split
          · exact .cacheHit rfl rfl
          · exact .settleUncached hid
          · exact .failed _

end IdToSid

/-! ### Batches -/

variable {δ α : Type}

/-- The items of a batch of SIDs, both passes through. -/
def sidItems (e : Engine δ α) (now : Int) (requests : List Request) (s : EngineState δ α) :
    List Item :=
  (settled e s.rules s.cache now (batchFound e now requests s).1 requests
    { allocator := s.allocator }).1

/-- The items of a batch of unix ids.  Each is settled on what the ones before it left. -/
def idItems (e : Engine δ α) (now : Int) : List Request → EngineState δ α → List Item
  | [], _ => []
  | request :: rest, s =>
    (IdToSid.resolve e s.cache s.rules now request s.directory).1 ::
      idItems e now rest (e.mapId now request s).2

theorem answers_mapSids (e : Engine δ α) (now : Int) (requests : List Request)
    (s : EngineState δ α) :
    (e.mapSids now requests s).1 = (sidItems e now requests s).map (·.answer) := by
  rw [mapSids_eq]
  rfl

theorem answers_mapIds (e : Engine δ α) (now : Int) (requests : List Request)
    (s : EngineState δ α) :
    (e.mapIds now requests s).1 = (idItems e now requests s).map (·.answer) := by
  induction requests generalizing s with
  | nil => rfl
  | cons request rest ih =>
      simp only [Engine.mapIds, idItems, List.map_cons, ih]
      rfl

theorem conclusion_settled (e : Engine δ α) (rules : RuleTable) (cache : Cache) (now : Int)
    (found : SidToId.Found) (requests : List Request) (m : Mint α) :
    List.Forall₂ SidToId.Conclusion requests
      (settled e rules cache now found requests m).1 := by
  induction requests generalizing m with
  | nil => exact .nil
  | cons request rest ih => exact .cons (SidToId.conclusion e rules cache now request _ m) (ih _)

theorem conclusion_idItems (e : Engine δ α) (now : Int) (requests : List Request)
    (s : EngineState δ α) :
    List.Forall₂ (IdToSid.Conclusion e.settings) requests (idItems e now requests s) := by
  induction requests generalizing s with
  | nil => exact .nil
  | cons request rest ih =>
      exact .cons (IdToSid.conclusion e s.cache s.rules now request s.directory) (ih _)

/--
**Every request gets one answer, in order, and every answer is well formed.**

The answers of a batch are those of its items, one for each request, and each item has come
to a conclusion: about its own request, whatever the others are.
-/
theorem conclusion_for_each_request (e : Engine δ α) (now : Int) (requests : List Request)
    (s : EngineState δ α) :
    ((e.mapSids now requests s).1 = (sidItems e now requests s).map (·.answer) ∧
      List.Forall₂ SidToId.Conclusion requests (sidItems e now requests s)) ∧
    ((e.mapIds now requests s).1 = (idItems e now requests s).map (·.answer) ∧
      List.Forall₂ (IdToSid.Conclusion e.settings) requests (idItems e now requests s)) :=
  ⟨⟨answers_mapSids e now requests s, conclusion_settled e s.rules s.cache now _ requests _⟩,
    answers_mapIds e now requests s, conclusion_idItems e now requests s⟩

end IdentityMap
