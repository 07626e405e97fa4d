/-
What a batch takes from its allocator.

A batch looks at nothing of its allocator but the answers.  So an allocator that does the
same and writes down what it hands out can be put in its place, and nothing else changes.
The watched engine has such a one: it is granted one id at a time, and each is taken from the
allocator of the engine that it stands for.  Then its record says what the batch took,
whatever the authority does, and whether or not it fails.

The two engines agree because an item does one of two things in the second pass, and which
one does not depend on the allocator: it is settled without an id of its own, or it obtains
one.
-/
import IdentityMap.Proofs.Mapping.Run

namespace IdentityMap

variable {δ α : Type}

/-! ### What the second pass does with an item -/

namespace SidToId

/-- What there is left to do for an item. -/
inductive Plan where
  | settle (item : Item)
  | mint (sid : Sid) (kind : IdKind) (source : NameSource) (name : Option WindowsName)
      (fallback : Fallback) (answer : Answer)

/-- Does it. -/
def Plan.run (e : Engine δ α) (now : Int) (m : Mint α) : Plan → Item × Mint α
  | .settle item => (item, m)
  | .mint sid kind source name fallback answer =>
    mintItem e now sid kind source name fallback answer m

/-- One plan says what is done, for every engine with these settings and names. -/
def Planned (settings : Settings) (names : NameService) (now : Int)
    (act : ∀ δ α : Type, Engine δ α → Mint α → Item × Mint α) : Prop :=
  ∃ plan : Plan, ∀ {δ α : Type} (e : Engine δ α) (m : Mint α), e.settings = settings →
    e.names = names → act δ α e m = plan.run e now m

section Planned

variable {settings : Settings} {names : NameService} {now : Int}
  {act act' : ∀ δ α : Type, Engine δ α → Mint α → Item × Mint α}

/-- What an engine does as another that is planned. -/
theorem Planned.congr (h : Planned settings names now act')
    (hsame : ∀ {δ α : Type} (e : Engine δ α) (m : Mint α), e.settings = settings →
      e.names = names → act δ α e m = act' δ α e m) : Planned settings names now act := by
  obtain ⟨plan, hplan⟩ := h
  refine ⟨plan, fun e m hsettings hnames => ?_⟩
  rw [hsame e m hsettings hnames]
  exact hplan e m hsettings hnames

theorem planned_settle (item : Item) : Planned settings names now fun _ _ _ m => (item, m) :=
  ⟨.settle item, fun _ _ _ _ => rfl⟩

theorem planned_mint (sid : Sid) (kind : IdKind) (source : NameSource)
    (name : Option WindowsName) (fallback : Fallback) (answer : Answer) :
    Planned settings names now fun _ _ e m =>
      mintItem e now sid kind source name fallback answer m :=
  ⟨.mint sid kind source name fallback answer, fun _ _ _ _ => rfl⟩

theorem planned_settleUnknown (request : Request) (sid : Sid) (reason : Failure)
    (fallback : Fallback) :
    Planned settings names now fun _ _ e m => settleUnknown e now request sid reason fallback m := by
  -- An account that the machine has no id of its own for.
  have hunknown : Planned settings names now fun _ _ e m =>
      if reason ≠ .notFound ∨ !e.settings.mintUnknown then
        (.nobody request.wanted.defaultKind reason, m)
      else mintItem e now sid request.wanted.defaultKind .machine none fallback
        (.nobody request.wanted.defaultKind .notFound) m := by
    by_cases hmint : reason ≠ .notFound ∨ (!settings.mintUnknown) = true
    · refine (planned_settle (.nobody request.wanted.defaultKind reason)).congr ?_
      rintro δ α e m rfl -
      exact if_pos hmint
    · refine (planned_mint sid request.wanted.defaultKind .machine none fallback
        (.nobody request.wanted.defaultKind .notFound)).congr ?_
      rintro δ α e m rfl -
      exact if_neg hmint
  by_cases hmachine : settings.machine?.any sid.hasBase = true
  · cases hdecode : LocalAccount.decode sid request.wanted with
    | ok id =>
        refine (planned_settle (localItem id)).congr ?_
        rintro δ α e m rfl -
        simp only [settleUnknown, if_pos hmachine, hdecode]
        rfl
    | error failure =>
        by_cases hmissing : failure = .notFound
        · subst hmissing
          refine hunknown.congr ?_
          rintro δ α e m rfl -
          simp only [settleUnknown, if_pos hmachine, hdecode]
        · refine (planned_settle (.nobody request.wanted.defaultKind failure)).congr ?_
          rintro δ α e m rfl -
          simp only [settleUnknown, if_pos hmachine, hdecode]
  · refine hunknown.congr ?_
    rintro δ α e m rfl -
    simp only [settleUnknown, if_neg hmachine]

theorem planned_applyRules (rules : RuleTable) (request : Request) (sid : Sid)
    (name : WindowsName) (source : NameSource) (fallback : Fallback) :
    Planned settings names now fun _ _ e m =>
      applyRules e rules now request sid name source fallback m := by
  cases hkind : name.type.verify request.wanted with
  | error failure =>
      refine (planned_settle (.nobody request.wanted.defaultKind failure)).congr ?_
      intro δ α e m _ _
      simp only [applyRules, hkind]
  | ok kind =>
      cases hmapped :
          Rule.mapToUnix rules names settings.domain? name.name (some name.domain) kind with
      | ok found =>
          refine (planned_settle
            { answer :=
                { id := some (.unix found.id), direction := found.direction, failure := none,
                  name := some found.unixName, domain := some name.domain }
              state := .resolved
                { source, windowsName := some name, superseded := fallback,
                  expiry := settings.idExpiry now } }).congr ?_
          rintro δ α e m rfl rfl
          simp only [applyRules, hkind, hmapped]
      | error failure =>
          by_cases hmissing : failure = .notFound
          · subst hmissing
            refine (planned_mint sid kind source (some name) fallback
              { domain := some name.domain }).congr ?_
            rintro δ α e m rfl rfl
            simp only [applyRules, hkind, hmapped]
          · refine (planned_settle (.nobody kind failure)).congr ?_
            rintro δ α e m rfl rfl
            simp only [applyRules, hkind, hmapped]

end Planned

/-- **The second pass settles an item or obtains an id for it, whatever the allocator is.** -/
theorem exists_plan (settings : Settings) (names : NameService) (rules : RuleTable) (now : Int)
    (request : Request) (item : Item) (found : Option (Except Failure Directory.Entry)) :
    ∃ plan : Plan, ∀ {δ α : Type} (e : Engine δ α) (m : Mint α), e.settings = settings →
      e.names = names → secondPass e rules now request item found m = plan.run e now m := by
  change Planned settings names now fun _ _ e m => secondPass e rules now request item found m
  cases hid : request.id with
  | unix id =>
      refine (planned_settle item).congr fun e m _ _ => ?_
      simp only [secondPass, hid]
  | sid sid =>
      cases hstate : item.state with
      | awaitsRules name source fallback =>
          refine (planned_applyRules rules request sid name source fallback).congr fun e m _ _ => ?_
          simp only [secondPass, hid, hstate]
      | awaitsDirectory fallback =>
          cases found with
          | none =>
              refine (planned_settleUnknown request sid .notFound fallback).congr fun e m _ _ => ?_
              simp only [secondPass, hid, hstate]
          | some answer =>
              cases answer with
              | error reason =>
                  refine (planned_settleUnknown request sid reason fallback).congr fun e m _ _ => ?_
                  simp only [secondPass, hid, hstate]
              | ok entry =>
                  refine (planned_applyRules rules request sid
                    { name := entry.name, domain := entry.domain, type := entry.type }
                    .directory fallback).congr fun e m _ _ => ?_
                  simp only [secondPass, hid, hstate]
      | start | cacheHit | resolved _ | failed _ =>
          refine (planned_settle item).congr fun e m _ _ => ?_
          simp only [secondPass, hid, hstate]

end SidToId

/-! ### The watched engine -/

/-- An allocator, and the ids that were taken from it, in order. -/
structure Watched (α : Type) where
  allocator : Allocator α
  taken : List UnixId := []

/-- Grants the ids of an allocator one by one, and writes them down. -/
def IdAuthority.watched (authority : IdAuthority α) (blockSize : Nat) :
    IdAuthority (Watched α) where
  grant kind _ s :=
    match s.allocator.allocate authority blockSize kind with
    | (.ok number, allocator) => (.ok number, { allocator, taken := s.taken ++ [{ kind, number }] })
    | (.error failure, allocator) => (.error failure, { s with allocator })

/-- The engine with a record of the ids that it takes. -/
def Engine.watched (e : Engine δ α) : Engine δ (Watched α) where
  settings := e.settings
  names := e.names
  directory := e.directory
  authority := e.authority.watched e.blockSize
  blockSize := 1

/-- The state with a record in which nothing stands yet. -/
def EngineState.watched (s : EngineState δ α) : EngineState δ (Watched α) where
  cache := s.cache
  rules := s.rules
  directory := s.directory
  allocator := { authority := { allocator := s.allocator } }

/-- The ids that a batch takes from the allocator, in order. -/
def taken (e : Engine δ α) (now : Int) (requests : List Request) (s : EngineState δ α) :
    List UnixId :=
  (e.watched.mapSids now requests s.watched).2.allocator.authority.taken

/-! ### It does what the engine does -/

/-- No block is open, so the authority is asked every time. -/
def Allocator.Closed (a : Allocator α) : Prop :=
  ∀ kind, ¬ (a.window kind).next < (a.window kind).limit

/-- The one mint watches the other. -/
structure Mint.Watches (w : Mint (Watched α)) (m : Mint α) : Prop where
  history : w.history = m.history
  allocator : w.allocator.authority.allocator = m.allocator
  closed : w.allocator.Closed

theorem Allocator.closed_fresh (state : α) : ({ authority := state } : Allocator α).Closed := by
  intro kind h
  cases kind <;> exact Nat.lt_irrefl 0 h

/-- A block of one id is used up at once. -/
theorem Allocator.Closed.withWindow {a : Allocator α} (h : a.Closed) {w : IdWindow}
    (hw : ¬ w.next < w.limit) (kind : IdKind) : (a.withWindow w kind).Closed := by
  intro other
  by_cases hsame : other = kind
  · subst hsame
    rw [window_withWindow_self]
    exact hw
  · rw [window_withWindow_of_ne hsame]
    exact h other

/-- What the watched allocator hands out is what the allocator does, and it writes it down. -/
theorem Allocator.allocate_watched {authority : IdAuthority α} {blockSize : Nat} {kind : IdKind}
    {w w' : Allocator (Watched α)} {answer : Except Failure UInt32} (h : w.Closed)
    (hallocate : w.allocate (authority.watched blockSize) 1 kind = (answer, w')) :
    w.authority.allocator.allocate authority blockSize kind = (answer, w'.authority.allocator) ∧
      w'.Closed ∧
      w'.authority.taken = w.authority.taken ++
        match answer with
        | .ok number => [{ kind, number }]
        | .error _ => [] := by
  have hone : ∀ {n : Nat}, ¬ n + 1 < n + max 1 1 := by omega
  unfold allocate at hallocate
  simp only [if_neg (h kind), IdAuthority.watched] at hallocate
  rcases hinner : w.authority.allocator.allocate authority blockSize kind with ⟨number | failure, a⟩
  · simp only [hinner] at hallocate
    cases hallocate
    exact ⟨rfl, h, (List.append_nil _).symm⟩
  · simp only [hinner] at hallocate
    cases hallocate
    refine ⟨?_, ?_, ?_⟩
    · rw [authority_withWindow]
    · refine Closed.withWindow ?_ hone kind
      intro other
      rw [window_setAuthority]
      exact h other
    · rw [authority_withWindow]

namespace SidToId

variable {w : Mint (Watched α)} {m : Mint α}

theorem obtainId_watched (e : Engine δ α) (h : w.Watches m) (sid : Sid) (kind : IdKind)
    (fallback : Fallback) :
    (obtainId e.watched sid kind fallback w).1 = (obtainId e sid kind fallback m).1 ∧
      (obtainId e.watched sid kind fallback w).2.Watches (obtainId e sid kind fallback m).2 := by
  obtain ⟨hhistory, hallocator, hclosed⟩ := h
  have hobtain : (w.obtain e.watched.authority e.watched.blockSize sid kind).1
        = (m.obtain e.authority e.blockSize sid kind).1 ∧
      (w.obtain e.watched.authority e.watched.blockSize sid kind).2.Watches
        (m.obtain e.authority e.blockSize sid kind).2 := by
    unfold Mint.obtain
    rw [hhistory]
    cases hget : m.history.get? sid kind with
    | some number => exact ⟨rfl, hhistory, hallocator, hclosed⟩
    | none =>
        simp only
        rcases houter : w.allocator.allocate e.watched.authority e.watched.blockSize kind with
          ⟨failure | number, a⟩
        · obtain ⟨hinner, hclosed', -⟩ := Allocator.allocate_watched hclosed houter
          rw [hallocator] at hinner
          simp only [hinner]
          exact ⟨trivial, rfl, rfl, hclosed'⟩
        · obtain ⟨hinner, hclosed', -⟩ := Allocator.allocate_watched hclosed houter
          rw [hallocator] at hinner
          simp only [hinner]
          exact ⟨trivial, rfl, rfl, hclosed'⟩
  rcases obtainId_cases e sid kind fallback m with ⟨id, hid, hkind, -⟩ | ⟨hother, heq⟩
  · subst hid
    simp only [obtainId, if_pos hkind]
    exact ⟨trivial, by simp only [Mint.reuse, hhistory], hallocator, hclosed⟩
  · rcases obtainId_cases e.watched sid kind fallback w with ⟨id, hid, hkind, -⟩ | ⟨-, heq'⟩
    · exact absurd hkind (hother id hid)
    · rw [heq, heq']
      exact hobtain

theorem Plan.run_watched (e : Engine δ α) (now : Int) (h : w.Watches m) (plan : Plan) :
    (plan.run e.watched now w).1 = (plan.run e now m).1 ∧
      (plan.run e.watched now w).2.Watches (plan.run e now m).2 := by
  cases plan with
  | settle item => exact ⟨rfl, h⟩
  | mint sid kind source name fallback answer =>
      obtain ⟨hanswer, hwatches⟩ := obtainId_watched e h sid kind fallback
      simp only [run, mintItem]
      generalize obtainId e.watched sid kind fallback w = outer at hanswer hwatches
      generalize obtainId e sid kind fallback m = inner at hanswer hwatches
      obtain ⟨answer', w'⟩ := outer
      obtain ⟨answer, m'⟩ := inner
      obtain rfl : answer' = answer := hanswer
      cases answer' with
      | error failure => exact ⟨rfl, hwatches⟩
      | ok number => exact ⟨rfl, hwatches⟩

theorem secondPasses_watched (e : Engine δ α) (rules : RuleTable) (now : Int) (found : Found)
    (items : List (Request × Item)) (h : w.Watches m) :
    (secondPasses e.watched rules now found items w).1 = (secondPasses e rules now found items m).1
      ∧ (secondPasses e.watched rules now found items w).2.Watches
        (secondPasses e rules now found items m).2 := by
  induction items generalizing w m with
  | nil => exact ⟨rfl, h⟩
  | cons p rest ih =>
      obtain ⟨request, item⟩ := p
      obtain ⟨plan, hplan⟩ :=
        exists_plan e.settings e.names rules now request item (answerFor found request)
      obtain ⟨hitem, hwatches⟩ := plan.run_watched e now h
      obtain ⟨hrest, hwatches'⟩ := ih hwatches
      simp only [secondPasses, hplan e m rfl rfl, hplan e.watched w rfl rfl]
      exact ⟨by rw [hitem, hrest], hwatches'⟩

end SidToId

/-- The watched engine settles a batch as the engine does. -/
theorem settled_watched (e : Engine δ α) (now : Int) (requests : List Request)
    (s : EngineState δ α) :
    (settled e.watched s.rules s.cache now (batchFound e now requests s).1 requests
        { allocator := s.watched.allocator }).1
      = (settled e s.rules s.cache now (batchFound e now requests s).1 requests
        { allocator := s.allocator }).1 ∧
    (settled e.watched s.rules s.cache now (batchFound e now requests s).1 requests
        { allocator := s.watched.allocator }).2.Watches
      (settled e s.rules s.cache now (batchFound e now requests s).1 requests
        { allocator := s.allocator }).2 :=
  SidToId.secondPasses_watched e s.rules now _ _ ⟨rfl, rfl, Allocator.closed_fresh _⟩

/-- **Watching changes nothing.**  The answers, the cache, the directory and the allocator are
what they would be. -/
theorem mapSids_watched (e : Engine δ α) (now : Int) (requests : List Request)
    (s : EngineState δ α) :
    (e.watched.mapSids now requests s.watched).1 = (e.mapSids now requests s).1 ∧
      (e.watched.mapSids now requests s.watched).2.cache = (e.mapSids now requests s).2.cache ∧
      (e.watched.mapSids now requests s.watched).2.directory
        = (e.mapSids now requests s).2.directory ∧
      (e.watched.mapSids now requests s.watched).2.allocator.authority.allocator
        = (e.mapSids now requests s).2.allocator := by
  obtain ⟨hitems, hwatches⟩ := settled_watched e now requests s
  rw [mapSids_eq, mapSids_eq]
  change (List.map _ (settled e.watched s.rules s.cache now (batchFound e now requests s).1
    requests { allocator := s.watched.allocator }).1 = _) ∧ _
  refine ⟨?_, ?_, rfl, hwatches.allocator⟩
  · rw [hitems]
  · change SidToId.recordAll e.settings now (requests.zip (settled e.watched s.rules s.cache now
      (batchFound e now requests s).1 requests { allocator := s.watched.allocator }).1) s.cache = _
    rw [hitems]

end IdentityMap
