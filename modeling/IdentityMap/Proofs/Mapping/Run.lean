/-
Runs: any calls, in any order, at any times.

A run is a list of calls with the time of each, and its replies say who was asked for and
what the answer was.  Times need not ascend.

What a proof says of a run is usually a fact that only ever grows (an id was handed out, a
SID has this id from now on) together with an invariant of the state that mentions it.  The
theorems here carry such a pair through a batch and through a run, so that the proof itself
only has to look at one item or one call.
-/
import Mathlib.Order.Basic
import IdentityMap.Account.Table
import IdentityMap.Mapping.ByName
import IdentityMap.Proofs.Mapping.IdToSid
import IdentityMap.Proofs.Mapping.SidToId

namespace IdentityMap

/-- A call to the engine. -/
inductive Call where
  | mapSids (requests : List Request)
  | mapIds (requests : List Request)
  | mapName (name : String) (domain : Option String) (wanted : Wanted)
  | nameId (id : UnixId)
  | addRule (rule : Rule)
  | removeRules (filter : RuleFilter)
  | flushRules (isUser : Bool)
  | purge
  | clear

/-- Who was asked for, and what the answer was. -/
structure Reply where
  asked : Identity
  answer : Answer
deriving DecidableEq

namespace Reply

/-- The SID was successfully mapped to the unix id. -/
def GivesId (reply : Reply) (sid : Sid) (id : UnixId) : Prop :=
  reply.asked = .sid sid ∧ reply.answer.isSuccess = true ∧ reply.answer.id = some (.unix id)

/-- The unix id was successfully mapped to the SID. -/
def GivesSid (reply : Reply) (id : UnixId) (sid : Sid) : Prop :=
  reply.asked = .unix id ∧ reply.answer.isSuccess = true ∧ reply.answer.id = some (.sid sid)

end Reply

/-- The replies to a batch. -/
def replies (requests : List Request) (answers : List Answer) : List Reply :=
  (requests.zip answers).map fun (request, answer) => { asked := request.id, answer }

variable {δ α : Type}

/-- What a call answers and does. -/
def Call.run (e : Engine δ α) (now : Int) (s : EngineState δ α) :
    Call → List Reply × EngineState δ α
  | .mapSids requests =>
    let (answers, s) := e.mapSids now requests s
    (replies requests answers, s)
  | .mapIds requests =>
    let (answers, s) := e.mapIds now requests s
    (replies requests answers, s)
  | .mapName name domain wanted =>
    match e.mapName now name domain wanted s with
    | (.ok (sid, answer), s) => ([{ asked := .sid sid, answer }], s)
    | (.error _, s) => ([], s)
  | .nameId id =>
    let (answer, s) := e.nameId now id s
    ([{ asked := .unix id, answer }], s)
  | .addRule rule =>
    match e.addRule rule s with
    | .ok s => ([], s)
    | .error _ => ([], s)
  | .removeRules filter => ([], { s with rules := s.rules.remove filter })
  | .flushRules isUser => ([], { s with rules := s.rules.flush isUser })
  | .purge => ([], { s with cache := s.cache.purge now })
  | .clear => ([], { s with cache := {} })

/-- The calls one after another, each at its time. -/
def Engine.run (e : Engine δ α) :
    List (Int × Call) → EngineState δ α → List Reply × EngineState δ α
  | [], s => ([], s)
  | (now, call) :: rest, s =>
    let (first, s) := call.run e now s
    let (later, s) := e.run rest s
    (first ++ later, s)

/-- The state of an engine that has just been started with an empty cache. -/
def EngineState.fresh (rules : RuleTable) (directory : δ) (state : α) : EngineState δ α :=
  { cache := {}, rules, directory, allocator := { authority := state } }

/-! ### Batches of SIDs -/

section Batch

open SidToId

variable {e : Engine δ α} {rules : RuleTable} {cache : Cache} {now : Int} {found : Found}
  {requests : List Request}

/-- The items of a batch when both passes are through. -/
def settled (e : Engine δ α) (rules : RuleTable) (cache : Cache) (now : Int) (found : Found)
    (requests : List Request) (m : Mint α) : List Item × Mint α :=
  secondPasses e rules now found
    (requests.map fun request => (request, firstPass cache now request)) m

/-- What the directory says in a batch. -/
def batchFound (e : Engine δ α) (now : Int) (requests : List Request) (s : EngineState δ α) :
    Found × δ :=
  directoryRound e.directory requests (requests.map (firstPass s.cache now)) s.directory

theorem mapSids_eq (e : Engine δ α) (now : Int) (requests : List Request) (s : EngineState δ α) :
    e.mapSids now requests s =
      let (items, m) := settled e s.rules s.cache now (batchFound e now requests s).1 requests
        { allocator := s.allocator }
      (items.map (·.answer),
        { cache := recordAll e.settings now (requests.zip items) s.cache
          rules := s.rules
          directory := (batchFound e now requests s).2
          allocator := m.allocator }) := by
  have hzip : requests.zip (requests.map (firstPass s.cache now))
      = requests.map fun request => (request, firstPass s.cache now request) := by
    rw [List.map_prod_left_eq_zip]
  simp only [Engine.mapSids, settled, ← hzip]
  rfl

/-- A fact that grows from item to item, and what it makes of each item. -/
theorem settled_grow {κ : Type} [Preorder κ] (Inv : κ → Mint α → Prop)
    (Post : κ → Request → Item → Prop)
    (mono : ∀ {k k' request item}, k ≤ k' → Post k request item → Post k' request item)
    (step : ∀ {k m request item m'}, request ∈ requests → Inv k m →
      Outcome e rules cache now found request m item m' →
      ∃ k', k ≤ k' ∧ Inv k' m' ∧ Post k' request item) {k : κ} {m : Mint α} (h : Inv k m) :
    ∃ k', k ≤ k' ∧ Inv k' (settled e rules cache now found requests m).2 ∧
      ∀ p ∈ requests.zip (settled e rules cache now found requests m).1, Post k' p.1 p.2 := by
  induction requests generalizing k m with
  | nil => exact ⟨k, le_refl k, h, by simp⟩
  | cons request rest ih =>
      obtain ⟨k₁, hle₁, hinv₁, hpost₁⟩ := step (List.mem_cons_self ..) h
        (outcome e rules cache now found request m)
      obtain ⟨k₂, hle₂, hinv₂, hpost₂⟩ := ih
        (fun hmem => step (List.mem_cons_of_mem _ hmem)) hinv₁
      refine ⟨k₂, le_trans hle₁ hle₂, hinv₂, ?_⟩
      intro p hp
      rcases List.mem_cons.mp hp with rfl | hp
      · exact mono hle₂ hpost₁
      · exact hpost₂ p hp

/-- What holds of every outcome holds of every item. -/
theorem settled_forall (Post : Request → Item → Prop)
    (step : ∀ {m request item m'}, request ∈ requests →
      Outcome e rules cache now found request m item m' → Post request item) (m : Mint α) :
    ∀ p ∈ requests.zip (settled e rules cache now found requests m).1, Post p.1 p.2 := by
  obtain ⟨-, -, -, hitems⟩ :=
    settled_grow (fun (_ : Unit) _ => True) (fun _ => Post) (fun _ hpost => hpost)
      (fun hmem _ houtcome => ⟨(), le_refl (), trivial, step hmem houtcome⟩) (k := ()) (m := m)
      trivial
  exact hitems

theorem exists_outcome {m : Mint α} {p : Request × Item}
    (hp : p ∈ requests.zip (settled e rules cache now found requests m).1) :
    ∃ m m', Outcome e rules cache now found p.1 m p.2 m' :=
  settled_forall (fun request item => ∃ m m', Outcome e rules cache now found request m item m')
    (fun _ houtcome => ⟨_, _, houtcome⟩) m p hp

/-- Items only look at what was found for those that wait. -/
theorem settled_congr {found' : Found} (h : ∀ request ∈ requests, ∀ sid,
      awaitedSid? request (firstPass cache now request) = some sid →
      answerFor found request = answerFor found' request) {m : Mint α} :
    settled e rules cache now found requests m = settled e rules cache now found' requests m := by
  induction requests generalizing m with
  | nil => rfl
  | cons request rest ih =>
      have hitem : secondPass e rules now request (firstPass cache now request)
          (answerFor found request) m
          = secondPass e rules now request (firstPass cache now request)
            (answerFor found' request) m :=
        secondPass_congr fun sid => h request (List.mem_cons_self ..) sid
      have hrest : ∀ {m : Mint α}, settled e rules cache now found rest m
          = settled e rules cache now found' rest m :=
        ih fun other hother => h other (List.mem_cons_of_mem _ hother)
      simp only [settled, List.map_cons, secondPasses, hitem] at hrest ⊢
      rw [hrest]

/-- An item is the last one of a batch that begins in the same way. -/
theorem mem_zip_settled {m : Mint α} {p : Request × Item}
    (h : p ∈ requests.zip (settled e rules cache now found requests m).1) :
    ∃ first rest items, requests = first ++ p.1 :: rest ∧
      (settled e rules cache now found (first ++ [p.1]) m).1 = items ++ [p.2] ∧
      items.length = first.length := by
  induction requests generalizing m with
  | nil => cases h
  | cons request requests ih =>
      rcases List.mem_cons.mp h with rfl | h
      · exact ⟨[], requests, [], rfl, rfl, rfl⟩
      · obtain ⟨first, rest, items, rfl, hitems, hlength⟩ := ih h
        exact ⟨request :: first, rest, _ :: items, rfl, congrArg _ hitems,
          congrArg Nat.succ hlength⟩

/-- The last item is recorded after all others. -/
theorem recordAll_concat (settings : Settings) (now : Int) (items : List (Request × Item))
    (p : Request × Item) (cache : Cache) :
    recordAll settings now (items ++ [p]) cache
      = record settings now p.1 p.2 (recordAll settings now items cache) := by
  rw [recordAll, List.foldl_append]
  rfl

/-- An invariant of the cache that each item keeps. -/
theorem recordAll_inv (Inv : Cache → Prop) {settings : Settings}
    {items : List (Request × Item)}
    (step : ∀ {c p}, p ∈ items → Inv c → Inv (record settings now p.1 p.2 c)) (h : Inv cache) :
    Inv (recordAll settings now items cache) :=
  List.foldlRecOn items _ h fun _ hc _ hp => step hp hc

/-- What one item of a batch brings about, and the others keep, holds in the end. -/
theorem recordAll_reaches (Inv P : Cache → Prop) {settings : Settings}
    {items : List (Request × Item)}
    (step : ∀ {c p}, p ∈ items → Inv c → Inv (record settings now p.1 p.2 c))
    (keep : ∀ {c p}, p ∈ items → Inv c → P c → P (record settings now p.1 p.2 c))
    (h : Inv cache)
    (hreach : P cache ∨ ∃ p ∈ items, ∀ c, Inv c → P (record settings now p.1 p.2 c)) :
    P (recordAll settings now items cache) := by
  induction items generalizing cache with
  | nil =>
      rcases hreach with hcache | ⟨p, hp, -⟩
      · exact hcache
      · cases hp
  | cons first rest ih =>
      refine ih (fun hp => step (List.mem_cons_of_mem _ hp))
        (fun hp => keep (List.mem_cons_of_mem _ hp)) (step (List.mem_cons_self ..) h) ?_
      rcases hreach with hcache | ⟨p, hp, hmakes⟩
      · exact Or.inl (keep (List.mem_cons_self ..) h hcache)
      · rcases List.mem_cons.mp hp with rfl | hp
        · exact Or.inl (hmakes cache h)
        · exact Or.inr ⟨p, hp, hmakes⟩

theorem mem_replies_map {items : List Item} {reply : Reply}
    (h : reply ∈ replies requests (items.map (·.answer))) :
    ∃ p ∈ requests.zip items, reply = { asked := p.1.id, answer := p.2.answer } := by
  obtain ⟨⟨request, answer⟩, hmem, rfl⟩ := List.mem_map.mp h
  rw [List.zip_map_right] at hmem
  obtain ⟨p, hp, hpair⟩ := List.mem_map.mp hmem
  obtain ⟨rfl, rfl⟩ := Prod.mk.inj hpair
  exact ⟨p, hp, rfl⟩

/-- Every item of a batch gives a reply. -/
theorem mem_replies_of_mem {items : List Item} {p : Request × Item} (h : p ∈ requests.zip items) :
    ({ asked := p.1.id, answer := p.2.answer } : Reply) ∈
      replies requests (items.map (·.answer)) := by
  refine List.mem_map.mpr ⟨(p.1, p.2.answer), ?_, rfl⟩
  rw [List.zip_map_right]
  exact List.mem_map.mpr ⟨p, h, rfl⟩

end Batch

/-! ### Calls by name, and calls about rules -/

section Call

variable {e : Engine δ α} {now : Int} {s : EngineState δ α}

/-- The two states mint the same ids and hold the same mappings. -/
structure SameMappings (s s' : EngineState δ α) : Prop where
  ids : s'.cache.ids = s.cache.ids
  allocator : s'.allocator = s.allocator

theorem SameMappings.refl (s : EngineState δ α) : SameMappings s s :=
  ⟨rfl, rfl⟩

theorem length_settled {rules : RuleTable} {cache : Cache} {found : SidToId.Found}
    {requests : List Request} {m : Mint α} :
    (settled e rules cache now found requests m).1.length = requests.length := by
  induction requests generalizing m with
  | nil => rfl
  | cons request rest ih => exact congrArg Nat.succ ih

/-- Every request gets an answer. -/
theorem length_mapSids {requests : List Request} :
    (e.mapSids now requests s).1.length = requests.length := by
  rw [mapSids_eq]
  exact (List.length_map _).trans length_settled

/-- A call by name fails, or it is a batch of one SID after the name was looked up. -/
theorem run_mapName (e : Engine δ α) (now : Int) (s : EngineState δ α) (name : String)
    (domain : Option String) (wanted : Wanted) :
    ∃ s', SameMappings s s' ∧ s'.rules = s.rules ∧
      ((Call.mapName name domain wanted).run e now s = ([], s') ∨
        ∃ request, (Call.mapName name domain wanted).run e now s
          = (Call.mapSids [request]).run e now s') := by
  simp only [Call.run, Engine.mapName]
  by_cases hempty : name.isEmpty = true
  · rw [if_pos hempty]
    exact ⟨s, .refl s, rfl, Or.inl rfl⟩
  rw [if_neg hempty]
  rcases hresolve : IdToSid.resolveName e.directory s.cache now name (e.domainFor domain)
    s.directory with ⟨failure | account, directory⟩
  · exact ⟨{ s with directory }, ⟨rfl, rfl⟩, rfl, Or.inl rfl⟩
  simp only
  generalize hcache : (if account.source = .directory then
    cacheName e.settings now account.sid name (e.domainFor domain) account.type s.cache
    else s.cache) = cache
  have hids : cache.ids = s.cache.ids := by
    rw [← hcache]
    split <;> rfl
  refine ⟨{ s with cache, directory }, ⟨hids, rfl⟩, rfl, ?_⟩
  cases hkind : account.type.verify wanted with
  | error failure => exact Or.inl rfl
  | ok kind =>
      let request : Request :=
        { id := .sid account.sid, wanted := kind.wanted, name := some name
          domain := some (e.domainFor domain) }
      obtain ⟨answer, hanswer⟩ : ∃ answer,
          (e.mapSids now [request] { s with cache, directory }).1 = [answer] :=
        List.length_eq_one_iff.mp length_mapSids
      refine Or.inr ⟨request, ?_⟩
      simp only [request] at hanswer ⊢
      simp only [hanswer]
      rfl

/-- Naming a SID changes nothing but names. -/
theorem nameSid_same (now : Int) (sid : Sid) (answer : Answer) (s : EngineState δ α) :
    SameMappings s (e.nameSid now sid answer s).2 ∧ (e.nameSid now sid answer s).2.rules = s.rules ∧
      (e.nameSid now sid answer s).1.id = answer.id ∧
      (e.nameSid now sid answer s).1.failure = answer.failure := by
  unfold Engine.nameSid
  split
  · exact ⟨.refl s, rfl, rfl, rfl⟩
  · split
    · exact ⟨.refl s, rfl, rfl, rfl⟩
    · split
      · exact ⟨.refl s, rfl, rfl, rfl⟩
      · split <;> exact ⟨⟨rfl, rfl⟩, rfl, rfl, rfl⟩
    · exact ⟨.refl s, rfl, rfl, rfl⟩

/-- A call that names the SID of a unix id maps the id and then changes names only. -/
theorem run_nameId (e : Engine δ α) (now : Int) (s : EngineState δ α) (id : UnixId) :
    ∃ answer s', SameMappings (e.mapId now { id := .unix id, wanted := .sid } s).2 s' ∧
      s'.rules = s.rules ∧
      (Call.nameId id).run e now s = ([{ asked := .unix id, answer }], s') ∧
      answer.id = (e.mapId now { id := .unix id, wanted := .sid } s).1.id ∧
      answer.failure = (e.mapId now { id := .unix id, wanted := .sid } s).1.failure := by
  simp only [Call.run, Engine.nameId]
  split
  · next sid hok hname hsid =>
      obtain ⟨hsame, hrules, hid, hfailure⟩ := nameSid_same (e := e) now sid
        (e.mapId now { id := .unix id, wanted := .sid } s).1
        (e.mapId now { id := .unix id, wanted := .sid } s).2
      exact ⟨_, _, hsame, hrules, rfl, hid, hfailure⟩
  · exact ⟨_, _, .refl _, rfl, rfl, rfl, rfl⟩

/-- A rule that is added changes the rules only. -/
theorem run_addRule (e : Engine δ α) (now : Int) (s : EngineState δ α) (rule : Rule) :
    ∃ s', SameMappings s s' ∧ (Call.addRule rule).run e now s = ([], s') := by
  simp only [Call.run, Engine.addRule]
  cases s.rules.add rule e.settings.domain? with
  | error failure => exact ⟨s, .refl s, rfl⟩
  | ok rules => exact ⟨{ s with rules }, ⟨rfl, rfl⟩, rfl⟩

end Call

/-! ### Batches of unix ids, and runs -/

section Run

variable {e : Engine δ α} {κ : Type} [Preorder κ] (Inv : κ → EngineState δ α → Prop)
  (Post : κ → Reply → Prop)

/-- **A fact that grows from call to call holds of a whole run.** -/
theorem run_grow {calls : List (Int × Call)}
    (mono : ∀ {k k' reply}, k ≤ k' → Post k reply → Post k' reply)
    (step : ∀ {k s now call}, (now, call) ∈ calls → Inv k s →
      ∃ k', k ≤ k' ∧ Inv k' (call.run e now s).2 ∧ ∀ reply ∈ (call.run e now s).1, Post k' reply)
    {k : κ} {s : EngineState δ α} (h : Inv k s) :
    ∃ k', k ≤ k' ∧ Inv k' (e.run calls s).2 ∧ ∀ reply ∈ (e.run calls s).1, Post k' reply := by
  induction calls generalizing k s with
  | nil => exact ⟨k, le_refl k, h, by simp [Engine.run]⟩
  | cons timed rest ih =>
      obtain ⟨now, call⟩ := timed
      obtain ⟨k₁, hle₁, hinv₁, hpost₁⟩ := step (List.mem_cons_self ..) h
      obtain ⟨k₂, hle₂, hinv₂, hpost₂⟩ := ih
        (fun hmem => step (List.mem_cons_of_mem _ hmem)) hinv₁
      refine ⟨k₂, le_trans hle₁ hle₂, hinv₂, ?_⟩
      intro reply hreply
      rcases List.mem_append.mp hreply with hreply | hreply
      · exact mono hle₂ (hpost₁ reply hreply)
      · exact hpost₂ reply hreply

end Run

/-- The calls of two runs after each other are one run. -/
theorem Engine.run_append (e : Engine δ α) (first later : List (Int × Call))
    (s : EngineState δ α) :
    e.run (first ++ later) s =
      ((e.run first s).1 ++ (e.run later (e.run first s).2).1,
        (e.run later (e.run first s).2).2) := by
  induction first generalizing s with
  | nil => rfl
  | cons timed rest ih =>
      obtain ⟨now, call⟩ := timed
      simp only [List.cons_append, Engine.run, ih, List.append_assoc]

/-! ### An engine on its own -/

/-- A directory that knows nothing. -/
def Directory.silent : Directory.Client δ where
  start _ s := (.ok (), s)
  enqueue _ _ s := (.ok (), s)
  finish sent s := (.ok (sent.map fun _ => .error .notFound), s)

/-- An engine on a host without accounts, without a machine SID and without a directory.
Every SID that it is asked for gets an id of its own. -/
def Engine.bare : Engine δ SequentialIds where
  settings := {}
  names := .ofTables {} {}
  directory := Directory.silent
  authority := SequentialIds.authority
  blockSize := 1

theorem Engine.bare_isLocal : (Engine.bare : Engine δ SequentialIds).names.IsLocal := by
  intro kind name id h
  cases kind <;> cases h

end IdentityMap
