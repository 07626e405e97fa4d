/-
The ids and the blocks that requests to one allocator take.

However requests for uids and for gids are mixed, each kind is counted up by itself, from where
its authority begins, and there are as many ids as fit below the sentinel in whole blocks.  So
what a request is answered depends on how many of its kind came before, and on nothing else.

Two counters have to agree for this, the one of the window and the one of the authority, and
either may be ahead.  `Progress` ties both to the number of ids that are out: the window ends
where the authority goes on, and less than a block is left in it.

What the authority is asked is read off a record of it.  The record also says how often one
request asks: an allocator that searches its window, asks for a block if there is nothing in it,
and searches again, never asks twice.
-/
import Mathlib.Algebra.Order.Floor.Div
import IdentityMap.Proofs.Ephemeral.Upcoming

namespace IdentityMap

variable {α : Type}

/-! ### The record of an authority -/

/-- A block that an authority was asked for, and what it said. -/
structure BlockRequest where
  kind : IdKind
  count : Nat
  answer : Except Failure UInt32

/-- How many blocks of a kind were granted. -/
def blocksGranted (kind : IdKind) (log : List BlockRequest) : Nat :=
  log.countP fun request => request.kind == kind && request.answer.isOk

theorem blocksGranted_granted (kind other : IdKind) (count : Nat) (start : UInt32)
    (log : List BlockRequest) :
    blocksGranted other (log ++ [{ kind, count, answer := .ok start }])
      = blocksGranted other log + if kind = other then 1 else 0 := by
  simp [blocksGranted, List.countP_append, List.countP_singleton, Except.isOk, Except.toBool]

theorem blocksGranted_refused (kind other : IdKind) (count : Nat) (failure : Failure)
    (log : List BlockRequest) :
    blocksGranted other (log ++ [{ kind, count, answer := .error failure }])
      = blocksGranted other log := by
  simp [blocksGranted, List.countP_append, Except.isOk, Except.toBool]

/-- The state of an authority, and the requests so far, in order. -/
structure IdAuthority.Recorded (α : Type) where
  state : α
  log : List BlockRequest := []

/-- The authority with a record of what it is asked. -/
def IdAuthority.recorded (authority : IdAuthority α) : IdAuthority (Recorded α) where
  grant kind count w :=
    let (answer, state) := authority.grant kind count w.state
    (answer, { state, log := w.log ++ [{ kind, count, answer }] })

namespace Allocator

/-- The allocator with a record of its authority. -/
def recorded (a : Allocator α) (log : List BlockRequest) : Allocator (IdAuthority.Recorded α) where
  uids := a.uids
  gids := a.gids
  authority := { state := a.authority, log }

/-- What the next id of a kind makes the allocator ask for: nothing, or one block. -/
def asks (authority : IdAuthority α) (blockSize : Nat) (kind : IdKind) (a : Allocator α) :
    List BlockRequest :=
  if (a.window kind).next < (a.window kind).limit then []
  else
    [{ kind, count := max 1 blockSize
       answer := (authority.grant kind (max 1 blockSize) a.authority).1 }]

/-- The record changes nothing but itself. -/
theorem allocate_recorded (authority : IdAuthority α) (blockSize : Nat) (kind : IdKind)
    (a : Allocator α) (log : List BlockRequest) :
    allocate authority.recorded blockSize kind (a.recorded log)
      = ((allocate authority blockSize kind a).1,
        (allocate authority blockSize kind a).2.recorded
          (log ++ a.asks authority blockSize kind)) := by
  have hwindow : (a.recorded log).window kind = a.window kind := by cases kind <;> rfl
  unfold allocate asks
  simp only [hwindow]
  by_cases hw : (a.window kind).next < (a.window kind).limit
  · simp only [if_pos hw, List.append_nil]
    cases kind <;> rfl
  · rcases hgrant : authority.grant kind (max 1 blockSize) a.authority with
      ⟨failure | start, state⟩
    · simp only [if_neg hw, recorded, IdAuthority.recorded, hgrant]
    · simp only [if_neg hw, recorded, IdAuthority.recorded, hgrant]
      cases kind <;> rfl

/-! ### The search for an id -/

/-- The search for an id, with the number of requests that it makes: an id is taken from the
window, or a block is asked for, put into the window, and the search begins anew. -/
inductive Searches (authority : IdAuthority α) (blockSize : Nat) (kind : IdKind) :
    Allocator α → Nat → Except Failure UInt32 → Allocator α → Prop
  | found {a : Allocator α} (hw : (a.window kind).next < (a.window kind).limit) :
      Searches authority blockSize kind a 0 (.ok (UInt32.ofNat (a.window kind).next))
        (a.withWindow { (a.window kind) with next := (a.window kind).next + 1 } kind)
  | refused {a : Allocator α} {failure : Failure} {state : α}
      (hw : ¬(a.window kind).next < (a.window kind).limit)
      (hgrant : authority.grant kind (max 1 blockSize) a.authority = (.error failure, state)) :
      Searches authority blockSize kind a 1 (.error failure) { a with authority := state }
  | refilled {a a' : Allocator α} {start : UInt32} {state : α} {requests : Nat}
      {answer : Except Failure UInt32}
      (hw : ¬(a.window kind).next < (a.window kind).limit)
      (hgrant : authority.grant kind (max 1 blockSize) a.authority = (.ok start, state))
      (hagain : Searches authority blockSize kind
        (({ a with authority := state } : Allocator α).withWindow
          { next := start.toNat, limit := start.toNat + max 1 blockSize } kind)
        requests answer a') :
      Searches authority blockSize kind a (requests + 1) answer a'

theorem withWindow_withWindow (a : Allocator α) (w w' : IdWindow) (kind : IdKind) :
    (a.withWindow w kind).withWindow w' kind = a.withWindow w' kind := by
  cases kind <;> rfl

section Searches

variable {authority : IdAuthority α} {blockSize : Nat} {kind : IdKind} {a a' : Allocator α}
  {requests : Nat} {answer : Except Failure UInt32} {state : α}

/-- An id that is in the window is found at once. -/
theorem searches_of_window_iff (hw : (a.window kind).next < (a.window kind).limit) :
    Searches authority blockSize kind a requests answer a' ↔
      requests = 0 ∧ answer = .ok (UInt32.ofNat (a.window kind).next) ∧
        a' = a.withWindow { (a.window kind) with next := (a.window kind).next + 1 } kind := by
  constructor
  · intro h
    cases h with
    | found _ => exact ⟨rfl, rfl, rfl⟩
    | refused hempty _ => exact absurd hw hempty
    | refilled hempty _ _ => exact absurd hw hempty
  · rintro ⟨rfl, rfl, rfl⟩
    exact .found hw

/-- The search ends with a refusal. -/
theorem searches_of_refusal_iff {failure : Failure}
    (hw : ¬(a.window kind).next < (a.window kind).limit)
    (hgrant : authority.grant kind (max 1 blockSize) a.authority = (.error failure, state)) :
    Searches authority blockSize kind a requests answer a' ↔
      requests = 1 ∧ answer = .error failure ∧ a' = { a with authority := state } := by
  constructor
  · intro h
    cases h with
    | found hsome => exact absurd hsome hw
    | refused _ hrefused =>
        rw [hgrant] at hrefused
        cases hrefused
        exact ⟨rfl, rfl, rfl⟩
    | refilled _ hgranted _ =>
        rw [hgrant] at hgranted
        cases hgranted
  · rintro ⟨rfl, rfl, rfl⟩
    exact .refused hw hgrant

/-- A window that was just refilled has an id in it, so the search does not go round again. -/
theorem searches_of_grant_iff {start : UInt32}
    (hw : ¬(a.window kind).next < (a.window kind).limit)
    (hgrant : authority.grant kind (max 1 blockSize) a.authority = (.ok start, state)) :
    Searches authority blockSize kind a requests answer a' ↔
      requests = 1 ∧ answer = .ok start ∧
        a' = ({ a with authority := state } : Allocator α).withWindow
          { next := start.toNat + 1, limit := start.toNat + max 1 blockSize } kind := by
  have hsome : start.toNat < start.toNat + max 1 blockSize := by omega
  have hagain : ∀ {n : Nat}, Searches authority blockSize kind
      (({ a with authority := state } : Allocator α).withWindow
        { next := start.toNat, limit := start.toNat + max 1 blockSize } kind) n answer a' ↔
      n = 0 ∧ answer = .ok start ∧ a' = ({ a with authority := state } : Allocator α).withWindow
        { next := start.toNat + 1, limit := start.toNat + max 1 blockSize } kind := by
    intro n
    rw [searches_of_window_iff (by rwa [window_withWindow_self]), window_withWindow_self,
      withWindow_withWindow, UInt32.ofNat_toNat]
  constructor
  · intro h
    cases h with
    | found hother => exact absurd hother hw
    | refused _ hrefused =>
        rw [hgrant] at hrefused
        cases hrefused
    | refilled _ hgranted hrest =>
        rw [hgrant] at hgranted
        cases hgranted
        obtain ⟨rfl, hanswer, heq⟩ := hagain.mp hrest
        exact ⟨rfl, hanswer, heq⟩
  · rintro ⟨rfl, hanswer, heq⟩
    exact .refilled hw hgrant (hagain.mpr ⟨rfl, hanswer, heq⟩)

end Searches

/-- **The search ends with what `allocate` answers, after one request at most.** -/
theorem searches_iff (authority : IdAuthority α) (blockSize : Nat) (kind : IdKind)
    (a : Allocator α) (requests : Nat) (answer : Except Failure UInt32) (a' : Allocator α) :
    Searches authority blockSize kind a requests answer a' ↔
      allocate authority blockSize kind a = (answer, a') ∧
        requests = (a.asks authority blockSize kind).length := by
  unfold allocate asks
  rw [Prod.ext_iff, and_comm, eq_comm (b := answer), eq_comm (b := a')]
  by_cases hw : (a.window kind).next < (a.window kind).limit
  · simp only [if_pos hw, List.length_nil]
    exact searches_of_window_iff hw
  · rcases hgrant : authority.grant kind (max 1 blockSize) a.authority with
      ⟨failure | start, state⟩
    · simp only [if_neg hw, List.length_singleton]
      exact searches_of_refusal_iff hw hgrant
    · simp only [if_neg hw, List.length_singleton]
      exact searches_of_grant_iff hw hgrant

/-! ### What is out, what was granted, and what is left -/

/-- So many ids of a kind can be handed out: the whole blocks that fit below the sentinel. -/
def capacity (ids : SequentialIds) (blockSize : Nat) (kind : IdKind) : Nat :=
  (sentinelId.toNat - ids.next kind) / max 1 blockSize * max 1 blockSize

/-- Whole blocks fit if they end below the sentinel. -/
theorem mul_le_capacity {ids : SequentialIds} {blockSize count : Nat} {kind : IdKind}
    (h : ids.next kind + count * max 1 blockSize ≤ sentinelId.toNat) :
    count * max 1 blockSize ≤ capacity ids blockSize kind := by
  have hblocks : count ≤ (sentinelId.toNat - ids.next kind) / max 1 blockSize := by
    rw [Nat.le_div_iff_mul_le (by omega)]
    omega
  exact Nat.mul_le_mul_right _ hblocks

/-- Nothing fits behind blocks of which the next one would not end below the sentinel. -/
theorem capacity_le_mul {ids : SequentialIds} {blockSize count : Nat} {kind : IdKind}
    (h : sentinelId.toNat < ids.next kind + count * max 1 blockSize + max 1 blockSize) :
    capacity ids blockSize kind ≤ count * max 1 blockSize := by
  have hblocks : (sentinelId.toNat - ids.next kind) / max 1 blockSize < count + 1 := by
    rw [Nat.div_lt_iff_lt_mul (by omega), Nat.succ_mul]
    omega
  exact Nat.mul_le_mul_right _ (Nat.le_of_lt_succ hblocks)

/-- How far an allocator is that began with the ids of an authority: `out` ids of each kind were
handed out, and the authority was asked as `log` says. -/
structure Progress (ids : SequentialIds) (blockSize : Nat) (out : IdKind → Nat)
    (a : Allocator SequentialIds) (log : List BlockRequest) : Prop where
  contiguous : a.Contiguous
  frontier : ∀ kind, a.frontier kind = ids.next kind + out kind
  /-- The authority counts whole blocks. -/
  counted : ∀ kind,
    a.authority.next kind = ids.next kind + blocksGranted kind log * max 1 blockSize
  /-- One id of a block is gone as soon as the block is there. -/
  left : ∀ kind, (a.window kind).limit - (a.window kind).next < max 1 blockSize
  fits : ∀ kind, blocksGranted kind log * max 1 blockSize ≤ capacity ids blockSize kind

theorem progress_fresh (ids : SequentialIds) (blockSize : Nat) :
    Progress ids blockSize (fun _ => 0) { authority := ids } [] where
  contiguous := contiguous_fresh ids
  frontier := frontier_fresh ids
  counted kind := by simp [blocksGranted]
  left kind := by cases kind <;> exact Nat.lt_of_lt_of_le Nat.one_pos (Nat.le_max_left ..)
  fits kind := by simp [blocksGranted]

namespace Progress

variable {ids : SequentialIds} {blockSize : Nat} {out : IdKind → Nat}
  {a : Allocator SequentialIds} {log : List BlockRequest}

/-- The blocks that were granted hold all ids that are out, and one block less would not.  They
hold no other just when the window is empty. -/
theorem blocks (h : Progress ids blockSize out a log) (kind : IdKind) :
    out kind ≤ blocksGranted kind log * max 1 blockSize ∧
      blocksGranted kind log * max 1 blockSize < out kind + max 1 blockSize ∧
      ((a.window kind).next < (a.window kind).limit ↔
        out kind < blocksGranted kind log * max 1 blockSize) := by
  have hfrontier := h.frontier kind
  have hcounted := h.counted kind
  have hleft := h.left kind
  unfold Allocator.frontier at hfrontier
  by_cases hw : (a.window kind).next < (a.window kind).limit
  · have hlimit := (h.contiguous kind hw).1
    rw [if_pos hw] at hfrontier
    exact ⟨by omega, by omega, by omega⟩
  · rw [if_neg hw] at hfrontier
    exact ⟨by omega, by omega, by omega⟩

/-- The number of blocks is the number of ids, rounded up. -/
theorem blocksGranted_eq (h : Progress ids blockSize out a log) (kind : IdKind) :
    blocksGranted kind log = out kind ⌈/⌉ max 1 blockSize := by
  obtain ⟨hle, hlt, -⟩ := h.blocks kind
  have hpos : 0 < max 1 blockSize := by omega
  rw [Nat.ceilDiv_eq_add_pred_div]
  symm
  rw [Nat.div_eq_iff hpos]
  omega

theorem out_le (h : Progress ids blockSize out a log) (kind : IdKind) :
    out kind ≤ capacity ids blockSize kind :=
  Nat.le_trans (h.blocks kind).1 (h.fits kind)

/-- An id is handed out from the window. -/
theorem allocate_window (h : Progress ids blockSize out a log) {kind : IdKind}
    (hw : (a.window kind).next < (a.window kind).limit) :
    Progress ids blockSize (Function.update out kind (out kind + 1))
      (a.withWindow { (a.window kind) with next := (a.window kind).next + 1 } kind) log := by
  have hout := handsOut_window h.contiguous hw
  refine ⟨hout.contiguous, fun other => ?_, fun other => ?_, fun other => ?_, h.fits⟩
  · by_cases hsame : other = kind
    · subst hsame
      rw [hout.next, h.frontier, Function.update_self, Nat.add_assoc]
    · rw [hout.frame other hsame, h.frontier, Function.update_of_ne hsame]
  · rw [authority_withWindow, h.counted]
  · by_cases hsame : other = kind
    · subst hsame
      have hleft := h.left other
      rw [window_withWindow_self]
      show (a.window other).limit - ((a.window other).next + 1) < max 1 blockSize
      omega
    · rw [window_withWindow_of_ne hsame]
      exact h.left other

/-- The first id of a block is handed out, which the authority has just granted. -/
theorem allocate_block (h : Progress ids blockSize out a log) {kind : IdKind}
    (hw : ¬(a.window kind).next < (a.window kind).limit)
    (hgrant : a.authority.next kind + max 1 blockSize ≤ sentinelId.toNat) :
    Progress ids blockSize (Function.update out kind (out kind + 1))
      (({ a with
          authority := a.authority.withNext (a.authority.next kind + max 1 blockSize) kind } :
        Allocator SequentialIds).withWindow
          { next := (UInt32.ofNat (a.authority.next kind)).toNat + 1
            limit := (UInt32.ofNat (a.authority.next kind)).toNat + max 1 blockSize } kind)
      (log ++ [{ kind, count := max 1 blockSize
                 answer := .ok (UInt32.ofNat (a.authority.next kind)) }]) := by
  have hout := handsOut_block h.contiguous hw (by omega) hgrant
  refine ⟨hout.contiguous, fun other => ?_, fun other => ?_, fun other => ?_, fun other => ?_⟩
  · by_cases hsame : other = kind
    · subst hsame
      rw [hout.next, h.frontier, Function.update_self, Nat.add_assoc]
    · rw [hout.frame other hsame, h.frontier, Function.update_of_ne hsame]
  · rw [blocksGranted_granted, authority_withWindow]
    by_cases hsame : other = kind
    · subst hsame
      rw [if_pos rfl, SequentialIds.next_withNext_self, h.counted, Nat.succ_mul, Nat.add_assoc]
    · rw [if_neg (Ne.symm hsame), SequentialIds.next_withNext_of_ne hsame, h.counted,
        Nat.add_zero]
  · by_cases hsame : other = kind
    · subst hsame
      rw [window_withWindow_self]
      show (UInt32.ofNat (a.authority.next other)).toNat + max 1 blockSize
        - ((UInt32.ofNat (a.authority.next other)).toNat + 1) < max 1 blockSize
      omega
    · rw [window_withWindow_of_ne hsame, window_setAuthority]
      exact h.left other
  · rw [blocksGranted_granted]
    by_cases hsame : other = kind
    · subst hsame
      rw [h.counted] at hgrant
      rw [if_pos rfl]
      refine mul_le_capacity ?_
      rw [Nat.succ_mul]
      omega
    · rw [if_neg (Ne.symm hsame)]
      exact h.fits other

/-- A block that is refused leaves everything as it was. -/
theorem refused (h : Progress ids blockSize out a log) (kind : IdKind) (count : Nat)
    (failure : Failure) :
    Progress ids blockSize out a (log ++ [{ kind, count, answer := .error failure }]) := by
  refine ⟨h.contiguous, h.frontier, fun other => ?_, h.left, fun other => ?_⟩
  · rw [blocksGranted_refused, h.counted]
  · rw [blocksGranted_refused]
    exact h.fits other

/-- **One request gets the next number of its kind, or all that fit are out.** -/
theorem allocate (h : Progress ids blockSize out a log) (kind : IdKind) :
    (out kind < capacity ids blockSize kind ∧
      ∃ number a', allocate SequentialIds.authority blockSize kind a = (.ok number, a') ∧
        number.toNat = ids.next kind + out kind ∧ number.toNat < sentinelId.toNat ∧
        Progress ids blockSize (Function.update out kind (out kind + 1)) a'
          (log ++ a.asks SequentialIds.authority blockSize kind)) ∨
    (capacity ids blockSize kind ≤ out kind ∧
      ∃ failure, allocate SequentialIds.authority blockSize kind a = (.error failure, a) ∧
        Progress ids blockSize out a
          (log ++ a.asks SequentialIds.authority blockSize kind)) := by
  obtain ⟨-, -, hwindow⟩ := h.blocks kind
  by_cases hw : (a.window kind).next < (a.window kind).limit
  · left
    have hout := handsOut_window h.contiguous hw
    rw [asks, if_pos hw, List.append_nil]
    unfold Allocator.allocate
    simp only [if_pos hw]
    refine ⟨Nat.lt_of_lt_of_le (hwindow.mp hw) (h.fits kind), _, _, rfl, ?_, hout.number_lt,
      h.allocate_window hw⟩
    rw [hout.number_eq, h.frontier]
  · have hempty : out kind = blocksGranted kind log * max 1 blockSize :=
      Nat.le_antisymm (h.blocks kind).1 (Nat.not_lt.mp (mt hwindow.mpr hw))
    rw [asks, if_neg hw]
    unfold Allocator.allocate
    simp only [if_neg hw, SequentialIds.authority, SequentialIds.grant]
    by_cases hgrant : a.authority.next kind + max 1 blockSize ≤ sentinelId.toNat
    · left
      have hout := handsOut_block h.contiguous hw (by omega) hgrant
      simp only [if_pos hgrant]
      refine ⟨?_, _, _, rfl, ?_, hout.number_lt, h.allocate_block hw hgrant⟩
      · have hmore := (h.allocate_block hw hgrant).out_le kind
        rw [Function.update_self] at hmore
        exact hmore
      · rw [hout.number_eq, h.frontier]
    · right
      simp only [if_neg hgrant]
      refine ⟨?_, _, rfl, h.refused kind _ _⟩
      rw [hempty]
      refine capacity_le_mul ?_
      rw [← h.counted]
      omega

end Progress

/-! ### Requests one after the other -/

/-- What requests for ids of these kinds are answered, one after the other. -/
def allocateEach (authority : IdAuthority α) (blockSize : Nat) :
    List IdKind → Allocator α → List (Except Failure UInt32) × Allocator α
  | [], a => ([], a)
  | kind :: rest, a =>
    let (answer, a) := allocate authority blockSize kind a
    let (answers, a) := allocateEach authority blockSize rest a
    (answer :: answers, a)

/-- The ids of a kind that were handed out, in order. -/
def handedOut (kind : IdKind) (calls : List IdKind) (answers : List (Except Failure UInt32)) :
    List UInt32 :=
  (calls.zip answers).filterMap fun (call, answer) =>
    if call = kind then answer.toOption else none

theorem handedOut_cons_of_ne {kind call : IdKind} (h : call ≠ kind) (calls : List IdKind)
    (answer : Except Failure UInt32) (answers : List (Except Failure UInt32)) :
    handedOut kind (call :: calls) (answer :: answers) = handedOut kind calls answers := by
  simp [handedOut, h]

theorem handedOut_cons_ok (kind : IdKind) (calls : List IdKind) (number : UInt32)
    (answers : List (Except Failure UInt32)) :
    handedOut kind (kind :: calls) (.ok number :: answers)
      = number :: handedOut kind calls answers := by
  simp [handedOut, Except.toOption]

theorem handedOut_cons_error (kind call : IdKind) (calls : List IdKind) (failure : Failure)
    (answers : List (Except Failure UInt32)) :
    handedOut kind (call :: calls) (.error failure :: answers)
      = handedOut kind calls answers := by
  simp [handedOut, Except.toOption]

/-- What requests do that are made one after the other.  `out` ids of each kind were handed out
before. -/
structure Serves (ids : SequentialIds) (blockSize : Nat) (calls : List IdKind)
    (answers : List (Except Failure UInt32)) (out out' : IdKind → Nat) (kind : IdKind) :
    Prop where
  howMany : out' kind = min (out kind + calls.count kind) (capacity ids blockSize kind)
  numbers : (handedOut kind calls answers).map UInt32.toNat
    = List.range' (ids.next kind + out kind) (out' kind - out kind)
  below : ∀ number ∈ handedOut kind calls answers, number.toNat < sentinelId.toNat

namespace Serves

variable {ids : SequentialIds} {blockSize : Nat} {call kind : IdKind} {calls : List IdKind}
  {answers : List (Except Failure UInt32)} {out out' : IdKind → Nat}

theorem nil (h : out kind ≤ capacity ids blockSize kind) :
    Serves ids blockSize [] [] out out kind where
  howMany := by rw [List.count_nil, Nat.add_zero, Nat.min_eq_left h]
  numbers := by simp [handedOut]
  below := by simp [handedOut]

/-- A request that gets the next number of its kind comes first. -/
theorem granted {number : UInt32}
    (h : Serves ids blockSize calls answers (Function.update out call (out call + 1)) out' kind)
    (hlt : out call < capacity ids blockSize call)
    (hnumber : number.toNat = ids.next call + out call)
    (hbelow : number.toNat < sentinelId.toNat) :
    Serves ids blockSize (call :: calls) (.ok number :: answers) out out' kind := by
  obtain ⟨hcount, hnumbers, hordinary⟩ := h
  by_cases hsame : call = kind
  · subst hsame
    rw [Function.update_self] at hcount hnumbers
    have hgrows : out' call - out call = out' call - (out call + 1) + 1 := by omega
    refine ⟨by rw [hcount, List.count_cons_self]; omega, ?_, ?_⟩
    · rw [handedOut_cons_ok, List.map_cons, hnumbers, hnumber, hgrows, List.range'_succ]
      rfl
    · rw [handedOut_cons_ok]
      intro other hother
      rcases List.mem_cons.mp hother with rfl | hlater
      · exact hbelow
      · exact hordinary other hlater
  · rw [Function.update_of_ne (Ne.symm hsame)] at hcount hnumbers
    exact ⟨by rw [hcount, List.count_cons_of_ne hsame],
      by rw [handedOut_cons_of_ne hsame, hnumbers], by rwa [handedOut_cons_of_ne hsame]⟩

/-- A request that is refused, since all numbers of its kind are out, comes first. -/
theorem refused {failure : Failure} (h : Serves ids blockSize calls answers out out' kind)
    (hfull : capacity ids blockSize call ≤ out call) :
    Serves ids blockSize (call :: calls) (.error failure :: answers) out out' kind := by
  obtain ⟨hcount, hnumbers, hordinary⟩ := h
  refine ⟨?_, by rw [handedOut_cons_error, hnumbers], by rwa [handedOut_cons_error]⟩
  by_cases hsame : call = kind
  · subst hsame
    rw [hcount, List.count_cons_self]
    omega
  · rw [hcount, List.count_cons_of_ne hsame]

end Serves

/-- **The ids of each kind are counted up, whatever the requests for the other kind are.** -/
theorem Progress.run {ids : SequentialIds} {blockSize : Nat} {out : IdKind → Nat}
    {a : Allocator SequentialIds} {log : List BlockRequest}
    (h : Progress ids blockSize out a log) (calls : List IdKind) :
    ∃ answers a' log' out',
      allocateEach SequentialIds.authority blockSize calls a = (answers, a') ∧
      allocateEach SequentialIds.authority.recorded blockSize calls (a.recorded log)
        = (answers, a'.recorded log') ∧
      Progress ids blockSize out' a' log' ∧
      ∀ kind, Serves ids blockSize calls answers out out' kind := by
  induction calls generalizing out a log with
  | nil => exact ⟨[], a, log, out, rfl, rfl, h, fun kind => .nil (h.out_le kind)⟩
  | cons call rest ih =>
      have hrecorded := allocate_recorded SequentialIds.authority blockSize call a log
      rcases h.allocate call with ⟨hlt, number, a₁, hcall, hnumber, hbelow, hnext⟩ |
        ⟨hfull, failure, hcall, hnext⟩
      · obtain ⟨answers, a', log', out', hrun, hlogged, hprogress, hserves⟩ := ih hnext
        rw [hcall] at hrecorded
        refine ⟨.ok number :: answers, a', log', out', ?_, ?_, hprogress,
          fun kind => (hserves kind).granted hlt hnumber hbelow⟩
        · simp only [allocateEach, hcall, hrun]
        · simp only [allocateEach, hrecorded, hlogged]
      · obtain ⟨answers, a', log', out', hrun, hlogged, hprogress, hserves⟩ := ih hnext
        rw [hcall] at hrecorded
        refine ⟨.error failure :: answers, a', log', out', ?_, ?_, hprogress,
          fun kind => (hserves kind).refused hfull⟩
        · simp only [allocateEach, hcall, hrun]
        · simp only [allocateEach, hrecorded, hlogged]

/-- Whoever is refused once is refused ever after. -/
theorem Refuses.everAfter {a : Allocator SequentialIds} {blockSize : Nat} {kind : IdKind}
    {failure : Failure} (h : a.Refuses blockSize kind failure) {later : List IdKind} {i : Nat}
    (hi : later[i]? = some kind) :
    (allocateEach SequentialIds.authority blockSize later a).1[i]? = some (.error failure) := by
  induction later generalizing a i with
  | nil => cases hi
  | cons call rest ih =>
      rcases hcall : Allocator.allocate SequentialIds.authority blockSize call a with ⟨answer, a'⟩
      have hstays : a'.Refuses blockSize kind failure := by
        cases answer with
        | ok number => exact h.allocate hcall
        | error other =>
            rw [(refuses_of_error hcall).1]
            exact h
      simp only [allocateEach, hcall]
      cases i with
      | zero =>
          cases hi
          rw [h] at hcall
          cases hcall
          rfl
      | succ i => exact ih hstays hi

/-! ### Any interleaving -/

/-- What a kind has got when `answers` were given to `calls`, `a` is left, and the authority was
asked as `log` says. -/
structure CountedUp (ids : SequentialIds) (blockSize : Nat) (calls : List IdKind)
    (answers : List (Except Failure UInt32)) (a : Allocator SequentialIds)
    (log : List BlockRequest) (kind : IdKind) : Prop where
  /-- The n-th id is the n-th number, from where the authority began. -/
  consecutive : (handedOut kind calls answers).map UInt32.toNat
    = List.range' (ids.next kind) (handedOut kind calls answers).length
  below : ∀ number ∈ handedOut kind calls answers, number.toNat < sentinelId.toNat
  /-- How many there are depends on the requests of this kind alone. -/
  howMany : (handedOut kind calls answers).length
    = min (calls.count kind) (capacity ids blockSize kind)
  blocks : blocksGranted kind log = (handedOut kind calls answers).length ⌈/⌉ max 1 blockSize
  /-- The authority goes on behind these blocks. -/
  behind : a.authority.next kind = ids.next kind + blocksGranted kind log * max 1 blockSize

/-- What one more request for an id of a kind comes to. -/
structure NextRequest (blockSize : Nat) (kind : IdKind) (a : Allocator SequentialIds) : Prop where
  fails_iff : (∃ failure a',
      allocate SequentialIds.authority blockSize kind a = (.error failure, a')) ↔
    ¬(a.window kind).next < (a.window kind).limit ∧
      sentinelId.toNat < a.authority.next kind + max 1 blockSize
  /-- A failure changes nothing, and the kind fails from then on. -/
  fails_for_good : ∀ failure a',
    allocate SequentialIds.authority blockSize kind a = (.error failure, a') →
    a' = a ∧ ∀ (later : List IdKind) (i : Nat), later[i]? = some kind →
      (allocateEach SequentialIds.authority blockSize later a).1[i]? = some (.error failure)
  /-- The search ends, and it asks the authority once if the window is empty, else not at all. -/
  searches : ∀ requests answer a',
    Searches SequentialIds.authority blockSize kind a requests answer a' ↔
      allocate SequentialIds.authority blockSize kind a = (answer, a') ∧
        requests = if (a.window kind).next < (a.window kind).limit then 0 else 1

theorem CountedUp.of_serves {ids : SequentialIds} {blockSize : Nat} {calls : List IdKind}
    {answers : List (Except Failure UInt32)} {out : IdKind → Nat} {kind : IdKind}
    {a : Allocator SequentialIds} {log : List BlockRequest}
    (hserves : Serves ids blockSize calls answers (fun _ => 0) out kind)
    (hprogress : Progress ids blockSize out a log) :
    CountedUp ids blockSize calls answers a log kind := by
  obtain ⟨hcount, hnumbers, hbelow⟩ := hserves
  rw [Nat.add_zero, Nat.sub_zero] at hnumbers
  have hlength : (handedOut kind calls answers).length = out kind := by
    rw [← List.length_map UInt32.toNat, hnumbers, List.length_range']
  refine ⟨by rw [hlength, hnumbers], hbelow, ?_, ?_, hprogress.counted kind⟩
  · rw [hlength, hcount, Nat.zero_add]
  · rw [hlength, hprogress.blocksGranted_eq]

theorem nextRequest (blockSize : Nat) (kind : IdKind) (a : Allocator SequentialIds) :
    NextRequest blockSize kind a where
  fails_iff := by
    constructor
    · rintro ⟨failure, a', hcall⟩
      obtain ⟨hw, hgrant, -⟩ := refuses_iff.mp (refuses_of_error hcall).2
      exact ⟨hw, Nat.not_le.mp hgrant⟩
    · rintro ⟨hw, hgrant⟩
      exact ⟨_, a, refuses_iff.mpr ⟨hw, Nat.not_le.mpr hgrant, rfl⟩⟩
  fails_for_good failure a' hcall := by
    obtain ⟨rfl, hrefuses⟩ := refuses_of_error hcall
    exact ⟨rfl, fun later i hi => hrefuses.everAfter hi⟩
  searches requests answer a' := by
    rw [searches_iff, asks]
    split <;> rfl

end Allocator

/--
**Requests for uids and gids, in any order, count up each kind by itself.**

The ids of a kind are consecutive, from the first one that its authority has, and they take as
many blocks as they need.  When the next block would reach beyond the sentinel, the kind is
through: a request fails, changes nothing, and so does every later one.  The authority is asked
at most once in a request, so the search for an id ends.

The blocks are counted in the record of the authority; without it the answers are the same.
-/
theorem counted_up_in_any_order (ids : SequentialIds) (blockSize : Nat) (calls : List IdKind) :
    ∃ answers a log,
      Allocator.allocateEach SequentialIds.authority blockSize calls { authority := ids }
        = (answers, a) ∧
      Allocator.allocateEach SequentialIds.authority.recorded blockSize calls
          { authority := { state := ids } }
        = (answers, a.recorded log) ∧
      ∀ kind, Allocator.CountedUp ids blockSize calls answers a log kind ∧
        Allocator.NextRequest blockSize kind a := by
  obtain ⟨answers, a, log, out, hrun, hrecorded, hprogress, hserves⟩ :=
    (Allocator.progress_fresh ids blockSize).run calls
  exact ⟨answers, a, log, hrun, hrecorded, fun kind =>
    ⟨.of_serves (hserves kind) hprogress, Allocator.nextRequest blockSize kind a⟩⟩

/-- Five numbers are left below the sentinel, and blocks of two: the fifth uid is refused. -/
example :
    (Allocator.allocateEach SequentialIds.authority 2 [.uid, .uid, .gid, .uid, .uid, .uid, .gid]
      { authority := { uid := 0xFFFFFFFA, gid := 7 } }).1
      = [.ok 0xFFFFFFFA, .ok 0xFFFFFFFB, .ok 7, .ok 0xFFFFFFFC, .ok 0xFFFFFFFD,
        .error (.noFreeId "uid space exhausted"), .ok 8] := by
  decide +kernel

end IdentityMap
