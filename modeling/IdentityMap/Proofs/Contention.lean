/-
How a call waits for a busy store.

A call ends with the first outcome that is not busy.  Up to there all outcomes are alike, so that
how a call waits depends on their number alone, and on the policy.

The warnings are counted against the time waited.  Each busy outcome leads to one warning at most,
so they keep up with the clock only if no pause is longer than the time between two of them.  Then
there is a warning for every multiple of that time which has gone by, and no other.

A warning shows 64 bits of the time, and times are measured up to a bound.  Both limits are far
away, but a policy with long pauses gets there.
-/
import IdentityMap.Contention
import Mathlib.Data.Set.Card
import Mathlib.Order.Interval.Finset.Nat

namespace IdentityMap

variable {β : Type} {policy : BusyPolicy} {w : Waiting} {pauses : List Pause} {outcome : β}
  {outcomes later : List (Attempt β)}

/-- The length of pauses together, in milliseconds. -/
def Pause.time (pauses : List Pause) : Nat :=
  (pauses.map (·.length)).sum

/-- What was reported right before pauses, or between them. -/
def Pause.warnings (pauses : List Pause) : List Nat :=
  pauses.filterMap (·.warning)

theorem nanoseconds_add (a b : Nat) : nanoseconds (a + b) = nanoseconds a + nanoseconds b :=
  Nat.add_mul a b 1000000

theorem nanoseconds_mono {a b : Nat} (h : a ≤ b) : nanoseconds a ≤ nanoseconds b :=
  Nat.mul_le_mul_right 1000000 h

namespace BusyPolicy

/-- Warnings are on, and no pause is longer than the time between two of them. -/
structure IsPaced (policy : BusyPolicy) : Prop where
  warns : policy.warnTime ≠ 0
  delays : ∀ delay ∈ policy.delays, nanoseconds delay ≤ policy.warnTime
  /-- Without a schedule a pause takes a tenth of a second. -/
  unscheduled : policy.delays = [] → nanoseconds 100 ≤ policy.warnTime

/-- How many multiples of the time between two warnings lie before a time, which is in
milliseconds. -/
noncomputable def passed (policy : BusyPolicy) (time : Nat) : Nat :=
  {n : ℕ | 0 < n ∧ n * policy.warnTime < nanoseconds time}.ncard

/-- The length of the first pauses together. -/
def wait (policy : BusyPolicy) (n : Nat) : Nat :=
  ((List.range n).map policy.delay).sum

/-- So many pauses can be made.  Each time, the time waited and the next multiple of the time
between two warnings that a warning waits for can be measured. -/
def Measures (policy : BusyPolicy) (n : Nat) : Prop :=
  ∀ i < n, nanoseconds (policy.wait (i + 1)) ≤ longestTime ∧
    policy.warnTime * (policy.passed (policy.wait i) + 1) ≤ longestTime

/-- Pauses as the policy wants them. -/
structure Schedules (policy : BusyPolicy) (pauses : List Pause) : Prop where
  /-- The delays are taken one after another. -/
  length : ∀ (i : Nat) (pause : Pause) (delay : Nat), pauses[i]? = some pause →
    policy.delays[i]? = some delay → pause.length = delay
  /-- Once they are used up the last one is taken again and again. -/
  length_last : ∀ (i : Nat) (pause : Pause) (last : Nat), pauses[i]? = some pause →
    policy.delays.length ≤ i → policy.delays.getLast? = some last → pause.length = last
  length_unscheduled : policy.delays = [] → ∀ pause ∈ pauses, pause.length = 100
  /-- Right before a pause, there was one warning for each multiple of the time between two
  warnings that lies before the time waited. -/
  warnings : ∀ i < pauses.length, (Pause.warnings (pauses.take (i + 1))).length =
    policy.passed (Pause.time (pauses.take i))
  /-- A warning shows the time waited, as far as 64 bits hold it. -/
  shown : ∀ (i : Nat) (pause : Pause) (time : Nat), pauses[i]? = some pause →
    pause.warning = some time → time = Pause.time (pauses.take i) % 2 ^ 64

/-! ### Delays -/

theorem delay_of_getElem? {i delay : Nat} (h : policy.delays[i]? = some delay) :
    policy.delay i = delay := by
  rw [BusyPolicy.delay, h, Option.getD_some]

theorem delay_of_length_le {i last : Nat} (h : policy.delays.length ≤ i)
    (hlast : policy.delays.getLast? = some last) : policy.delay i = last := by
  rw [BusyPolicy.delay, List.getElem?_eq_none h, hlast, Option.getD_none, Option.getD_some]

theorem delay_of_nil (h : policy.delays = []) (i : Nat) : policy.delay i = 100 := by
  rw [BusyPolicy.delay, h]
  rfl

theorem IsPaced.delay_le (h : policy.IsPaced) (i : Nat) :
    nanoseconds (policy.delay i) ≤ policy.warnTime := by
  by_cases hnil : policy.delays = []
  · rw [delay_of_nil hnil]
    exact h.unscheduled hnil
  rcases Nat.lt_or_ge i policy.delays.length with hlt | hle
  · have hdelay := List.getElem?_eq_getElem hlt
    rw [delay_of_getElem? hdelay]
    exact h.delays _ (List.getElem_mem hlt)
  · have hlast := List.getLast?_eq_getLast_of_ne_nil hnil
    rw [delay_of_length_le hle hlast]
    exact h.delays _ (List.getLast_mem hnil)

theorem wait_succ (policy : BusyPolicy) (n : Nat) :
    policy.wait (n + 1) = policy.wait n + policy.delay n := by
  simp [wait, List.range_succ]

theorem wait_of_singleton {delay : Nat} (h : policy.delays = [delay]) (n : Nat) :
    policy.wait n = n * delay := by
  have hdelay (i : Nat) : policy.delay i = delay := by
    cases i with
    | zero => exact delay_of_getElem? (by rw [h]; rfl)
    | succ i => exact delay_of_length_le (by simp [h]) (by rw [h]; rfl)
  induction n with
  | zero => simp [wait]
  | succ n ih => rw [wait_succ, ih, hdelay, Nat.add_one_mul]

theorem wait_le_succ (policy : BusyPolicy) (n : Nat) : policy.wait n ≤ policy.wait (n + 1) := by
  rw [wait_succ]
  exact Nat.le_add_right _ _

/-! ### Multiples gone by -/

theorem passed_eq (h : policy.warnTime ≠ 0) (time : Nat) :
    policy.passed time = (nanoseconds time - 1) / policy.warnTime := by
  have hpos : 0 < policy.warnTime := Nat.pos_of_ne_zero h
  have hset : {n : ℕ | 0 < n ∧ n * policy.warnTime < nanoseconds time}
      = (Finset.Ioc 0 ((nanoseconds time - 1) / policy.warnTime) : Finset ℕ) := by
    ext n
    rw [Set.mem_ofPred_eq, Finset.mem_coe, Finset.mem_Ioc, Nat.le_div_iff_mul_le hpos]
    refine and_congr_right fun hn => ?_
    have := Nat.mul_pos hn hpos
    omega
  rw [passed, hset, Set.ncard_coe_finset, Nat.card_Ioc, Nat.sub_zero]

theorem passed_zero (policy : BusyPolicy) : policy.passed 0 = 0 := by
  simp [passed, nanoseconds]

/-- In no more time than there is between two warnings, one multiple goes by at most. -/
theorem passed_of_le (h : policy.warnTime ≠ 0) {a b : Nat} (hle : a ≤ b)
    (hstep : nanoseconds b ≤ nanoseconds a + policy.warnTime) :
    policy.passed b = if policy.warnTime * (policy.passed a + 1) < nanoseconds b
      then policy.passed a + 1 else policy.passed a := by
  have hpos : 0 < policy.warnTime := Nat.pos_of_ne_zero h
  have hmono := nanoseconds_mono hle
  rw [passed_eq h, passed_eq h]
  generalize nanoseconds a = x at *
  generalize nanoseconds b = y at *
  have hlow := Nat.div_mul_le_self (x - 1) policy.warnTime
  have hhigh := Nat.lt_div_mul_add hpos (a := x - 1)
  generalize (x - 1) / policy.warnTime = c at *
  rw [Nat.mul_comm policy.warnTime, Nat.add_one_mul]
  split
  · refine Nat.div_eq_of_lt_le ?_ ?_
    · rw [Nat.add_one_mul]
      omega
    · rw [Nat.add_one_mul, Nat.add_one_mul]
      omega
  · refine Nat.div_eq_of_lt_le ?_ ?_
    · omega
    · rw [Nat.add_one_mul]
      omega

/-- It is enough that the whole time can be measured, and once more the time between two
warnings. -/
theorem measures_of_le (h : policy.warnTime ≠ 0) {n : Nat}
    (hle : nanoseconds (policy.wait n) + policy.warnTime ≤ longestTime) : policy.Measures n := by
  intro i hi
  have hwait {j : Nat} (hj : j ≤ n) : nanoseconds (policy.wait j) ≤ nanoseconds (policy.wait n) :=
    nanoseconds_mono (monotone_nat_of_le_succ policy.wait_le_succ hj)
  have hmultiple : policy.warnTime * policy.passed (policy.wait i) ≤
      nanoseconds (policy.wait i) := by
    rw [passed_eq h]
    exact (Nat.mul_div_le _ _).trans (Nat.sub_le _ _)
  refine ⟨(hwait hi).trans ((Nat.le_add_right _ _).trans hle), ?_⟩
  rw [Nat.mul_add_one]
  exact (Nat.add_le_add_right (hmultiple.trans (hwait (Nat.le_of_lt hi))) _).trans hle

theorem isPaced_forCache {warnAfter : Nat} (h : 100 ≤ warnAfter) :
    (forCache warnAfter).IsPaced := by
  have hle {delay : Nat} (hdelay : delay ≤ 100) :
      nanoseconds delay ≤ (forCache warnAfter).warnTime :=
    (nanoseconds_mono (hdelay.trans h)).trans (Nat.le_add_right _ _)
  have hdelays : ∀ delay ∈ cacheDelays, delay ≤ 100 := by decide
  have hpos : 0 < nanoseconds 100 := by decide
  refine ⟨Nat.ne_of_gt (hpos.trans_le (hle (Nat.le_refl 100))), ?_, nofun⟩
  intro delay hdelay
  exact hle (hdelays delay hdelay)

end BusyPolicy

/-! ### Pause after pause -/

namespace Waiting

/-- The waiting with so many more pauses. -/
def after (policy : BusyPolicy) : Nat → Waiting → Waiting
  | 0, w => w
  | n + 1, w => after policy n (w.step policy)

/-- So many pauses more. -/
def pausesFrom (policy : BusyPolicy) : Nat → Waiting → List Pause
  | 0, _ => []
  | n + 1, w => w.pause policy :: pausesFrom policy n (w.step policy)

theorem after_succ (policy : BusyPolicy) (n : Nat) (w : Waiting) :
    w.after policy (n + 1) = (w.after policy n).step policy := by
  induction n generalizing w with
  | zero => rfl
  | succ n ih => exact ih (w.step policy)

theorem pauses_after (n : Nat) : (w.after policy n).pauses = w.pauses + n := by
  induction n with
  | zero => rfl
  | succ n ih =>
      rw [after_succ]
      show (w.after policy n).pauses + 1 = w.pauses + (n + 1)
      omega

theorem length_pausesFrom (n : Nat) : (w.pausesFrom policy n).length = n := by
  induction n generalizing w with
  | zero => rfl
  | succ n ih => rw [pausesFrom, List.length_cons, ih]

theorem getElem?_pausesFrom {n i : Nat} (h : i < n) :
    (w.pausesFrom policy n)[i]? = some ((w.after policy i).pause policy) := by
  induction n generalizing w i with
  | zero => omega
  | succ n ih =>
      cases i with
      | zero => rfl
      | succ i => exact ih (by omega)

theorem take_pausesFrom {n i : Nat} (h : i ≤ n) :
    (w.pausesFrom policy n).take i = w.pausesFrom policy i := by
  induction n generalizing w i with
  | zero =>
      obtain rfl : i = 0 := by omega
      rfl
  | succ n ih =>
      cases i with
      | zero => rfl
      | succ i => rw [pausesFrom, List.take_succ_cons, ih (by omega), pausesFrom]

theorem time_pausesFrom (n : Nat) :
    w.total + Pause.time (w.pausesFrom policy n) = (w.after policy n).total := by
  induction n generalizing w with
  | zero => rfl
  | succ n ih =>
      show w.total + (policy.delay w.pauses + Pause.time ((w.step policy).pausesFrom policy n)) = _
      rw [after, ← ih, ← Nat.add_assoc]
      rfl

theorem length_warnings_pausesFrom (n : Nat) :
    w.warnings + (Pause.warnings (w.pausesFrom policy n)).length
      = (w.after policy n).warnings := by
  induction n generalizing w with
  | zero => rfl
  | succ n ih =>
      rw [after, ← ih]
      by_cases hdue : w.isOverdue policy = true
      · have hpause : (w.pause policy).warning = some (shown w.total) := if_pos hdue
        have hstep : (w.step policy).warnings = w.warnings + 1 := if_pos hdue
        rw [pausesFrom, Pause.warnings, List.filterMap_cons_some hpause, List.length_cons, hstep,
          Nat.add_assoc, Nat.add_comm 1]
        rfl
      · have hpause : (w.pause policy).warning = none := if_neg hdue
        have hstep : (w.step policy).warnings = w.warnings := if_neg hdue
        rw [pausesFrom, Pause.warnings, List.filterMap_cons_none hpause, hstep]
        rfl

theorem isOverdue_iff (h : policy.warnTime ≠ 0) :
    w.isOverdue policy = true ↔
      policy.warnTime * (w.warnings + 1) < nanoseconds w.total := by
  rw [isOverdue, Bool.and_eq_true, bne_iff_ne, decide_eq_true_eq, threshold]
  exact and_iff_right h

/-! ### From the first call on -/

theorem total_after_start (n : Nat) : (after policy n {}).total = policy.wait n := by
  induction n with
  | zero => rfl
  | succ n ih =>
      rw [after_succ, BusyPolicy.wait_succ, ← ih]
      show (after policy n {}).total + policy.delay (after policy n {}).pauses = _
      rw [pauses_after, Nat.zero_add]

/-- The warnings are those that the time before the last pause asks for, because each pause lets
one multiple at most go by. -/
theorem warnings_after_start (h : policy.IsPaced) (n : Nat) :
    (after policy (n + 1) {}).warnings = policy.passed (policy.wait n) := by
  induction n with
  | zero =>
      have hdue : ¬isOverdue policy {} = true := by
        rw [isOverdue_iff h.warns]
        exact Nat.not_lt_zero _
      show (if isOverdue policy {} = true then 0 + 1 else 0) = policy.passed 0
      rw [if_neg hdue, BusyPolicy.passed_zero]
  | succ n ih =>
      have hstep : nanoseconds (policy.wait (n + 1)) ≤
          nanoseconds (policy.wait n) + policy.warnTime := by
        rw [BusyPolicy.wait_succ, nanoseconds_add]
        exact Nat.add_le_add_left (h.delay_le n) _
      rw [BusyPolicy.passed_of_le h.warns (policy.wait_le_succ n) hstep, ← ih, ← total_after_start,
        after_succ]
      simp only [← isOverdue_iff h.warns]
      rfl

theorem isMeasured_after_start (h : policy.IsPaced) (n : Nat) :
    (after policy (n + 1) {}).isMeasured policy = true ↔
      nanoseconds (policy.wait (n + 1)) ≤ longestTime ∧
        policy.warnTime * (policy.passed (policy.wait n) + 1) ≤ longestTime := by
  rw [isMeasured, threshold, total_after_start, warnings_after_start h, Bool.and_eq_true,
    decide_eq_true_eq, decide_eq_true_eq]

/-- **Pauses from the first call on are those that the policy wants.** -/
theorem schedules_pausesFrom_start (h : policy.IsPaced) (n : Nat) :
    policy.Schedules (pausesFrom policy n {}) := by
  have hpause {i : Nat} {pause : Pause} (hi : (pausesFrom policy n {})[i]? = some pause) :
      i < n ∧ pause = (after policy i {}).pause policy := by
    have hlt : i < n := by
      have := (List.getElem?_eq_some_iff.mp hi).1
      rwa [length_pausesFrom] at this
    rw [getElem?_pausesFrom hlt] at hi
    exact ⟨hlt, (Option.some.inj hi).symm⟩
  have hlength {i : Nat} {pause : Pause} (hi : (pausesFrom policy n {})[i]? = some pause) :
      pause.length = policy.delay i := by
    obtain ⟨-, rfl⟩ := hpause hi
    show policy.delay (after policy i {}).pauses = policy.delay i
    rw [pauses_after, Nat.zero_add]
  have htime {i : Nat} (hi : i ≤ n) :
      Pause.time ((pausesFrom policy n {}).take i) = (after policy i {}).total := by
    rw [take_pausesFrom hi, ← time_pausesFrom, Nat.zero_add]
  constructor
  · intro i pause delay hi hdelay
    rw [hlength hi, BusyPolicy.delay_of_getElem? hdelay]
  · intro i pause last hi hle hlast
    rw [hlength hi, BusyPolicy.delay_of_length_le hle hlast]
  · intro hnil pause hmem
    obtain ⟨i, hi⟩ := List.mem_iff_getElem?.mp hmem
    rw [hlength hi, BusyPolicy.delay_of_nil hnil]
  · intro i hi
    rw [length_pausesFrom] at hi
    have hwarnings : ({} : Waiting).warnings +
        (Pause.warnings (pausesFrom policy (i + 1) {})).length
          = (after policy (i + 1) {}).warnings := length_warnings_pausesFrom (i + 1)
    rw [take_pausesFrom hi, htime (Nat.le_of_lt hi), total_after_start, ← warnings_after_start h,
      ← hwarnings, Nat.zero_add]
  · intro i pause time hi hwarning
    obtain ⟨hlt, rfl⟩ := hpause hi
    rw [pause] at hwarning
    dsimp only at hwarning
    split at hwarning
    · rw [htime (Nat.le_of_lt hlt), ← Option.some.inj hwarning]
      rfl
    · cases hwarning

end Waiting

/-! ### Call after call -/

/-- What comes after the first outcome that is not busy does not matter. -/
theorem retryBusy_busy (n : Nat) :
    retryBusy policy (List.replicate n Attempt.busy ++ Attempt.done outcome :: later) w =
      if ∀ i < n, (w.after policy (i + 1)).isMeasured policy = true
      then some (outcome, w.pausesFrom policy n) else none := by
  induction n generalizing w with
  | zero => rfl
  | succ n ih =>
      rw [List.replicate_succ, List.cons_append, retryBusy, ih]
      simp only [Nat.forall_lt_succ_left]
      show _ = if (w.step policy).isMeasured policy = true ∧
        ∀ i < n, ((w.step policy).after policy (i + 1)).isMeasured policy = true then _ else _
      by_cases hfirst : (w.step policy).isMeasured policy = true
      · rw [if_pos hfirst]
        by_cases hrest : ∀ i < n, ((w.step policy).after policy (i + 1)).isMeasured policy = true
        · rw [if_pos hrest, if_pos ⟨hfirst, hrest⟩]
          rfl
        · rw [if_neg hrest, if_neg fun h => hrest h.2]
          rfl
      · rw [if_neg hfirst, if_neg fun h => hfirst h.1]

/-- Outcomes that are not all busy have a first one that is not. -/
theorem exists_first_done (h : ∃ outcome, Attempt.done outcome ∈ outcomes) :
    ∃ n outcome rest, outcomes = List.replicate n Attempt.busy ++ Attempt.done outcome :: rest := by
  induction outcomes with
  | nil =>
      obtain ⟨_, hmem⟩ := h
      cases hmem
  | cons first rest ih =>
      cases first with
      | done outcome => exact ⟨0, outcome, rest, rfl⟩
      | busy =>
          have hrest : ∃ outcome, .done outcome ∈ rest := by
            obtain ⟨outcome, hmem⟩ := h
            exact ⟨outcome, (List.mem_cons.mp hmem).resolve_left nofun⟩
          obtain ⟨n, outcome, later, rfl⟩ := ih hrest
          exact ⟨n + 1, outcome, later, rfl⟩

/--
**A call waits by its schedule until the store is free.**

It ends with the first outcome that is not busy, and makes no call beyond that.  Before each pause
it has logged one warning for each multiple of the time between two warnings that lies before the
time waited so far.  It is given up only when a time can no longer be measured.
-/
theorem retryBusy_follows_schedule (hpaced : policy.IsPaced)
    (hdone : ∃ outcome, Attempt.done outcome ∈ outcomes) :
    ∃ n outcome rest, outcomes = List.replicate n Attempt.busy ++ Attempt.done outcome :: rest ∧
      (∀ later, retryBusy policy
          (List.replicate n Attempt.busy ++ Attempt.done outcome :: later) {} =
        retryBusy policy outcomes {}) ∧
      (policy.Measures n → ∃ pauses, retryBusy policy outcomes {} = some (outcome, pauses) ∧
        pauses.length = n ∧ policy.Schedules pauses) ∧
      (¬policy.Measures n → retryBusy policy outcomes {} = none) := by
  obtain ⟨n, outcome, rest, rfl⟩ := exists_first_done hdone
  have hmeasures : (∀ i < n, (Waiting.after policy (i + 1) {}).isMeasured policy = true) ↔
      policy.Measures n :=
    forall₂_congr fun i _ => Waiting.isMeasured_after_start hpaced i
  refine ⟨n, outcome, rest, rfl, ?_, ?_, ?_⟩
  · intro later
    rw [retryBusy_busy, retryBusy_busy]
  · intro hn
    refine ⟨Waiting.pausesFrom policy n {}, ?_, Waiting.length_pausesFrom n,
      Waiting.schedules_pausesFrom_start hpaced n⟩
    rw [retryBusy_busy, if_pos (hmeasures.mpr hn)]
  · intro hn
    rw [retryBusy_busy, if_neg (mt hmeasures.mp hn)]

/-- The cache is busy sixty times, for almost five seconds, and two of these multiples of two
seconds go by before the last pause. -/
theorem retryBusy_follows_schedule_sixty_times :
    let policy := BusyPolicy.forCache 2000
    let outcomes := List.replicate 60 Attempt.busy ++
      [Attempt.done "written", Attempt.done "not reached"]
    policy.IsPaced ∧ (∃ outcome, Attempt.done outcome ∈ outcomes) ∧
      ∃ pauses, retryBusy policy outcomes {} = some ("written", pauses) ∧
        policy.Schedules pauses ∧ Pause.warnings pauses = [2083, 4083] := by
  intro policy outcomes
  have hpaced : policy.IsPaced := BusyPolicy.isPaced_forCache (by decide)
  have hdone : ∃ outcome, Attempt.done outcome ∈ outcomes := ⟨"written", by decide⟩
  have hrun : (retryBusy policy outcomes {}).map (fun found => (found.1, Pause.warnings found.2))
      = some ("written", [2083, 4083]) := by
    decide +kernel
  refine ⟨hpaced, hdone, ?_⟩
  obtain ⟨n, outcome, rest, -, -, hsome, hnone⟩ := retryBusy_follows_schedule hpaced hdone
  by_cases hn : policy.Measures n
  · obtain ⟨pauses, hpauses, -, hschedules⟩ := hsome hn
    rw [hpauses] at hrun
    obtain ⟨rfl, hwarnings⟩ := Prod.mk.inj (Option.some.inj hrun)
    exact ⟨pauses, hpauses, hschedules, hwarnings⟩
  · rw [hnone hn] at hrun
    cases hrun

/-- With pauses of almost 2^64 milliseconds, a warning shows four milliseconds after more than
2^64, and the call is given up when it is busy for the 1001st time. -/
theorem long_waits_misreported_and_given_up :
    let policy : BusyPolicy := { delays := [2 ^ 64 - 1, 5], warnAfter := 2 ^ 64 - 1 }
    let steady : BusyPolicy := { delays := [2 ^ 64 - 1], warnAfter := 2 ^ 64 - 1 }
    (policy.IsPaced ∧
      ∃ pauses, retryBusy policy [.busy, .busy, .busy, .done "written"] {} =
          some ("written", pauses) ∧
        (pauses[2]?).bind (·.warning) = some 4 ∧ Pause.time (pauses.take 2) = 2 ^ 64 + 4) ∧
    (steady.IsPaced ∧
      retryBusy steady (List.replicate 1001 Attempt.busy ++ [Attempt.done "written"]) {} = none) := by
  intro policy steady
  refine ⟨⟨⟨by decide, by decide, nofun⟩, ?_⟩, ?_⟩
  · exact ⟨[{ length := 2 ^ 64 - 1 }, { length := 5 }, { length := 5, warning := some 4 }],
      by decide +kernel, rfl, by decide⟩
  · have hpaced : steady.IsPaced := ⟨by decide, by decide, nofun⟩
    refine ⟨hpaced, ?_⟩
    rw [retryBusy_busy]
    refine if_neg fun hmeasured => ?_
    -- The pauses before the last one take more than 2^64 seconds together.
    have hlast := (Waiting.isMeasured_after_start hpaced 1000).mp (hmeasured 1000 (by decide))
    rw [BusyPolicy.wait_of_singleton rfl] at hlast
    exact absurd hlast.1 (by decide)

end IdentityMap
