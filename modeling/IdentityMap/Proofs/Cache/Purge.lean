/-
Purging is not noticed.

A purge drops the rows that are past their time and hold no minted id.  A lookup from then
on passes over just those rows, superseding and the search for the highest number look at
minted ids only, and a write takes the place of a row whether or not the row is still there.
So two caches that a purge makes equal are equally good, and stay so, whatever is done with
them.  Listing is another matter: it shows stale rows too.
-/
import IdentityMap.Proofs.Cache.Rows

namespace IdentityMap

/-! ### Rows that a purge drops -/

/-- What is valid at some time was not past its time before. -/
theorem isPast_of_isLive {expiration : Option Int} {earlier now : Int}
    (h : isLive expiration now = true) (hle : earlier ≤ now) :
    isPast expiration earlier = false := by
  cases expiration with
  | none => rfl
  | some time =>
      simp only [isLive, isPast, Bool.or_eq_true, beq_iff_eq, decide_eq_true_eq,
        Bool.and_eq_false_iff, bne_eq_false_iff_eq, decide_eq_false_iff_not] at h ⊢
      omega

namespace Cache

variable {row : IdRow} {t now : Int}

theorem isPurgedId_of_isMinted (h : row.isMinted = true) : isPurgedId t row = false := by
  refine Bool.and_eq_false_iff.mpr (Or.inr ?_)
  unfold IdRow.isMinted at h
  cases hcolumn : row.number with
  | none => rfl
  | some n =>
      simp only [hcolumn, decide_eq_true_eq] at h
      exact decide_eq_false (by omega)

/-- A row that is found later is kept, ... -/
theorem isPurgedId_of_isUsable (h : row.isUsable now = true) (hnow : t ≤ now) :
    isPurgedId t row = false := by
  rcases Bool.or_eq_true_iff.mp h with hminted | hlive
  · exact isPurgedId_of_isMinted hminted
  · rw [isPurgedId, isPast_of_isLive hlive hnow]
    rfl

/-- ... and so is a name. -/
theorem isPurgedName_of_isLive {row : NameRow} (h : isLive row.expiration now = true)
    (hnow : t ≤ now) : isPurgedName t row = false :=
  isPast_of_isLive h hnow

/-! ### Uses -/

/-- A way to use the cache. -/
inductive Use where
  | putId (m : IdMapping)
  | putName (m : NameMapping)
  | supersede (sid : Sid) (kind : IdKind)
  | idOf (sid : Sid) (wanted : Wanted) (now : Int)
  | sidOf (id : UnixId) (now : Int)
  | nameOf (sid : Sid) (now : Int)
  | accountNamed (name : String) (domain : Option String) (now : Int)
  | maxMinted (kind : IdKind)

namespace Use

/-- What is heard back. -/
inductive Result where
  | written
  | superseded (rows : Nat)
  | id (found : Except Failure CachedId)
  | sid (found : Except Failure CachedSid)
  | name (found : Except Failure CachedName)
  | account (found : Except Failure (Sid × AccountType))
  | highest (found : Except Failure (Option UInt32))

/-- The time at which a row is looked for. -/
def time? : Use → Option Int
  | idOf _ _ now | sidOf _ now | nameOf _ now | accountNamed _ _ now => some now
  | putId _ | putName _ | supersede _ _ | maxMinted _ => none

/-- What a use makes of the cache. -/
def apply : Use → Cache → Cache
  | putId m, cache => cache.putId m
  | putName m, cache => cache.putName m
  | supersede sid kind, cache => cache.supersede sid kind
  | idOf .., cache | sidOf .., cache | nameOf .., cache | accountNamed .., cache
  | maxMinted _, cache => cache

/-- What the cache answers. -/
def answer : Use → Cache → Result
  | putId _, _ | putName _, _ => .written
  | supersede sid kind, cache => .superseded (cache.supersededRows sid kind)
  | idOf sid wanted now, cache => .id (cache.idOf sid wanted now)
  | sidOf id now, cache => .sid (cache.sidOf id now)
  | nameOf sid now, cache => .name (cache.nameOf sid now)
  | accountNamed name domain now, cache => .account (cache.accountNamed name domain now)
  | maxMinted kind, cache => .highest (cache.maxMinted kind)

end Use

/-- What the cache answers to uses, one after another. -/
def answers : List Use → Cache → List Use.Result
  | [], _ => []
  | use :: rest, cache => use.answer cache :: answers rest (use.apply cache)

/-! ### What does not see the purged rows -/

theorem filter_of_kept {ρ : Type} {p drops : ρ → Bool} {rows : List ρ}
    (h : ∀ row, p row = true → drops row = false) :
    (rows.filter fun row => !drops row).filter p = rows.filter p := by
  rw [List.filter_filter]
  refine List.filter_congr fun row _ => ?_
  cases hp : p row with
  | false => rfl
  | true => rw [h row hp]; rfl

theorem find?_of_kept {ρ : Type} {p drops : ρ → Bool} {rows : List ρ}
    (h : ∀ row, p row = true → drops row = false) :
    (rows.filter fun row => !drops row).find? p = rows.find? p := by
  rw [← List.head?_filter, ← List.head?_filter, filter_of_kept h]

variable (cache : Cache)

theorem idOf_purge (sid : Sid) (wanted : Wanted) (hnow : t ≤ now) :
    (cache.purge t).idOf sid wanted now = cache.idOf sid wanted now := by
  have hrow : (cache.purge t).idRow? sid now = cache.idRow? sid now :=
    find?_of_kept fun _ hanswers =>
      isPurgedId_of_isUsable (IdRow.answersSid_iff.mp hanswers).2.2 hnow
  rw [idOf, idOf, hrow]

theorem sidOf_purge (id : UnixId) (hnow : t ≤ now) :
    (cache.purge t).sidOf id now = cache.sidOf id now := by
  have hrow : (cache.purge t).sidRow? id now = cache.sidRow? id now :=
    find?_of_kept fun _ hanswers =>
      isPurgedId_of_isUsable (IdRow.answersId_iff.mp hanswers).2.2.2 hnow
  rw [sidOf, sidOf, hrow]

theorem nameOf_purge (sid : Sid) (hnow : t ≤ now) :
    (cache.purge t).nameOf sid now = cache.nameOf sid now := by
  have hrow : (cache.purge t).nameRow? sid now = cache.nameRow? sid now :=
    find?_of_kept fun _ hanswers =>
      isPurgedName_of_isLive (Bool.and_eq_true_iff.mp hanswers).2 hnow
  rw [nameOf, nameOf, hrow]

/-- Several rows may hold the name.  The first of those that are kept is the first of all. -/
theorem accountNamed_purge (name : String) (domain : Option String) (hnow : t ≤ now) :
    (cache.purge t).accountNamed name domain now = cache.accountNamed name domain now := by
  have hrow : (cache.purge t).accountRow? name domain now = cache.accountRow? name domain now :=
    find?_of_kept fun _ hanswers =>
      isPurgedName_of_isLive (Bool.and_eq_true_iff.mp hanswers).2 hnow
  rw [accountNamed, accountNamed, hrow]

theorem supersededRows_purge (sid : Sid) (kind : IdKind) :
    (cache.purge t).supersededRows sid kind = cache.supersededRows sid kind := by
  have hrows : (cache.purge t).ids.filter (supersedes sid kind)
      = cache.ids.filter (supersedes sid kind) := by
    refine filter_of_kept fun row hsupersedes => isPurgedId_of_isMinted ?_
    simp only [supersedes, Bool.and_eq_true] at hsupersedes
    exact hsupersedes.1.2
  rw [supersededRows, supersededRows, List.countP_eq_length_filter, hrows,
    List.countP_eq_length_filter]

theorem maxMinted_purge (kind : IdKind) :
    (cache.purge t).maxMinted kind = cache.maxMinted kind := by
  have hnumbers : (cache.purge t).mintedNumbers kind = cache.mintedNumbers kind := by
    rw [mintedNumbers, mintedNumbers]
    refine congrArg _ (filter_of_kept fun row hminted => ?_)
    exact isPurgedId_of_isMinted (Bool.and_eq_true_iff.mp hminted).1
  rw [maxMinted, maxMinted, hnumbers]

/-- A purge changes no later answer. -/
theorem answer_purge {use : Use} (htime : ∀ now ∈ use.time?, t ≤ now) :
    use.answer (cache.purge t) = use.answer cache := by
  cases use with
  | putId m => rfl
  | putName m => rfl
  | supersede sid kind => exact congrArg Use.Result.superseded (cache.supersededRows_purge sid kind)
  | idOf sid wanted now =>
      exact congrArg Use.Result.id (cache.idOf_purge sid wanted (htime now rfl))
  | sidOf id now => exact congrArg Use.Result.sid (cache.sidOf_purge id (htime now rfl))
  | nameOf sid now => exact congrArg Use.Result.name (cache.nameOf_purge sid (htime now rfl))
  | accountNamed name domain now =>
      exact congrArg Use.Result.account (cache.accountNamed_purge name domain (htime now rfl))
  | maxMinted kind => exact congrArg Use.Result.highest (cache.maxMinted_purge kind)

/-! ### Purging before and after a change -/

theorem purge_purge : (cache.purge t).purge t = cache.purge t := by
  simp only [purge, List.filter_filter, Bool.and_self]

/-- What is written may collide with a purged row or not: both are gone in the end. -/
theorem filter_put_filter {ρ : Type} (collides : ρ → ρ → Bool) (keeps : ρ → Bool) (row : ρ)
    (rows : List ρ) :
    (Table.put collides row (rows.filter keeps)).filter keeps
      = (Table.put collides row rows).filter keeps := by
  simp only [Table.put, List.filter_append, List.filter_filter]
  congr 1
  refine List.filter_congr fun old _ => ?_
  cases keeps old <;> simp

/-- Losing a direction does not make a row purged. -/
theorem isPurgedId_clearToUnix (row : IdRow) :
    isPurgedId t { row with toUnix := none } = isPurgedId t row :=
  rfl

theorem purge_supersede_purge (sid : Sid) (kind : IdKind) :
    ((cache.purge t).supersede sid kind).purge t = (cache.supersede sid kind).purge t := by
  have hkept : ∀ row : IdRow,
      (!isPurgedId t (if supersedes sid kind row then { row with toUnix := none } else row))
        = !isPurgedId t row := by
    intro row
    split
    · rw [isPurgedId_clearToUnix]
    · rfl
  have hcomp : ((fun row => !isPurgedId t row) ∘ fun row : IdRow =>
      if supersedes sid kind row then { row with toUnix := none } else row)
        = fun row => !isPurgedId t row := funext hkept
  simp only [purge, supersede, List.filter_map, hcomp, List.filter_filter, Bool.and_self]

/-- After a use it does not matter whether there was a purge before it as well. -/
theorem purge_apply_purge (use : Use) :
    (use.apply (cache.purge t)).purge t = (use.apply cache).purge t := by
  cases use with
  | putId m =>
      have hids := filter_put_filter IdRow.collides (fun row => !isPurgedId t row) m.row cache.ids
      simp only [Use.apply, purge, putId, hids, List.filter_filter, Bool.and_self]
  | putName m =>
      have hnames :=
        filter_put_filter NameRow.collides (fun row => !isPurgedName t row) m.row cache.names
      simp only [Use.apply, purge, putName, hnames, List.filter_filter, Bool.and_self]
  | supersede sid kind => exact cache.purge_supersede_purge sid kind
  | idOf sid wanted now => exact cache.purge_purge
  | sidOf id now => exact cache.purge_purge
  | nameOf sid now => exact cache.purge_purge
  | accountNamed name domain now => exact cache.purge_purge
  | maxMinted kind => exact cache.purge_purge

/-! ### Caches that a purge makes equal -/

/-- One use keeps caches equal but for purged rows. -/
theorem apply_congr {cache cache' : Cache} (h : cache.purge t = cache'.purge t) (use : Use) :
    (use.apply cache).purge t = (use.apply cache').purge t := by
  rw [← purge_apply_purge cache, h, purge_apply_purge cache']

/-- Such caches answer alike from then on, by induction on the uses. -/
theorem answers_congr {uses : List Use} :
    ∀ {cache cache' : Cache}, cache.purge t = cache'.purge t →
      (∀ use ∈ uses, ∀ now ∈ use.time?, t ≤ now) → answers uses cache = answers uses cache' := by
  induction uses with
  | nil =>
      intro cache cache' _ _
      rfl
  | cons use rest ih =>
      intro cache cache' h htimes
      have htime := htimes use (List.mem_cons_self ..)
      have hanswer : use.answer cache = use.answer cache' := by
        rw [← answer_purge cache htime, h, answer_purge cache' htime]
      have hrest : answers rest (use.apply cache) = answers rest (use.apply cache') :=
        ih (apply_congr h use) fun other hother => htimes other (List.mem_cons_of_mem _ hother)
      rw [answers, answers, hanswer, hrest]

/-! ### Rows that stay -/

/-- The time in the column is that of a row that never expires, or later than `t`. -/
def Outlasts (expiration : Option Int) (t : Int) : Prop :=
  expiration = some Expiry.never.column ∨ ∃ time, expiration = some time ∧ t < time

theorem isPast_of_outlasts {expiration : Option Int} (h : Outlasts expiration t)
    (ht : t < maxTime) : isPast expiration t = false := by
  have hlate : ∃ time, expiration = some time ∧ t < time := by
    rcases h with rfl | hlate
    · exact ⟨maxTime, rfl, ht⟩
    · exact hlate
  obtain ⟨time, rfl, hlt⟩ := hlate
  simp only [isPast, Bool.and_eq_false_iff, decide_eq_false_iff_not]
  exact Or.inr (by omega)

theorem count_ids_purge (h : row.isMinted = true ∨ Outlasts row.expiration t) (ht : t < maxTime) :
    (cache.purge t).ids.count row = cache.ids.count row := by
  refine List.count_filter ?_
  rw [Bool.not_eq_true']
  rcases h with hminted | houtlasts
  · exact isPurgedId_of_isMinted hminted
  · rw [isPurgedId, isPast_of_outlasts houtlasts ht]
    rfl

theorem count_names_purge {row : NameRow} (h : Outlasts row.expiration t) (ht : t < maxTime) :
    (cache.purge t).names.count row = cache.names.count row := by
  refine List.count_filter ?_
  rw [isPurgedName, isPast_of_outlasts h ht]
  rfl

end Cache

/--
**A purge changes no answer from then on, and drops no row that is still good.**

The cache may hold anything.  Of every row that holds a minted id, that never expires, or
whose time is still to come, a purge leaves as many as there were.
-/
theorem purge_unnoticed (cache : Cache) (t : Int) (uses : List Cache.Use)
    (htimes : ∀ use ∈ uses, ∀ now ∈ use.time?, t ≤ now) :
    Cache.answers uses (cache.purge t) = Cache.answers uses cache ∧
      (t < maxTime →
        (∀ row : IdRow, row.isMinted = true ∨ Cache.Outlasts row.expiration t →
          (cache.purge t).ids.count row = cache.ids.count row) ∧
        ∀ row : NameRow, Cache.Outlasts row.expiration t →
          (cache.purge t).names.count row = cache.names.count row) := by
  refine ⟨Cache.answers_congr cache.purge_purge htimes, fun ht => ⟨?_, ?_⟩⟩
  · exact fun row hrow => cache.count_ids_purge hrow ht
  · exact fun row hrow => cache.count_names_purge hrow ht

/-- A stale uid is dropped and a stale minted one is not, and neither is noticed. -/
theorem purge_unnoticed_of_two_uids :
    let sid : Sid := { base := "S-1-5-21-7", rid := 1104 }
    let other : Sid := { base := "S-1-5-21-7", rid := 1105 }
    let mapping (sid : Sid) (number : UInt32) : IdMapping :=
      { sid, windowsDomain := none, windowsName := none, id := { kind := .uid, number }
        unixName := none, direction := .both, expiry := .at 50 }
    let minted := mapping other 0x80000001
    let cache := (({} : Cache).putId (mapping sid 1000)).putId minted
    let uses : List Cache.Use :=
      [.idOf sid .uid 100, .sidOf { kind := .uid, number := 1000 } 200, .supersede other .uid,
        .maxMinted .uid]
    (cache.purge 100).ids = [minted.row] ∧ (cache.purge 100).ids ≠ cache.ids ∧
      Cache.answers uses (cache.purge 100) = Cache.answers uses cache ∧
      (cache.purge 100).ids.count minted.row = cache.ids.count minted.row := by
  intro sid other mapping minted cache uses
  have htimes : ∀ use ∈ uses, ∀ now ∈ use.time?, 100 ≤ now := by decide
  obtain ⟨hanswers, hstay⟩ := purge_unnoticed cache 100 uses htimes
  exact ⟨by decide, by decide, hanswers, (hstay (by decide)).1 minted.row (Or.inl (by decide))⟩

end IdentityMap
