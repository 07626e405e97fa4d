/-
What the cache can hold.

Whatever is written, superseded, purged or cleared, in any order and with any arguments,
two facts stay.  Every row has the columns that a lookup reads, and no two rows of a table
share a key.  The first is why no lookup ever calls the cache corrupt, the second why no
lookup that is given a key has a choice.

An engine touches the cache in these ways only, so its runs lead nowhere else.
-/
import IdentityMap.Proofs.Mapping.Writes

namespace IdentityMap

/-! ### Complete rows -/

/-- A flag that is written is 1 or empty. -/
def IsFlag (column : Option Int) : Prop :=
  column = none ∨ column = some 1

theorem isFlag_flagColumn (set : Bool) : IsFlag (flagColumn set) := by
  cases set with
  | true => exact Or.inr rfl
  | false => exact Or.inl rfl

theorem IsFlag.eq_of_isSet {column : Option Int} (h : IsFlag column)
    (hset : flagIsSet column = true) : column = some 1 := by
  rcases h with rfl | rfl
  · cases hset
  · rfl

/-- The row has all it needs: a SID, a unix id, proper flags, and a time. -/
structure IdRow.Complete (row : IdRow) : Prop where
  ties : ∃ sid id, row.Ties sid id
  toUnix : IsFlag row.toUnix
  toWindows : IsFlag row.toWindows
  expiration : ∃ time, row.expiration = some time

/-- The row gives this SID this name, and says what kind of account it is. -/
structure NameRow.Names (row : NameRow) (sid : Sid) (name : String) (type : AccountType) :
    Prop where
  base : row.base = some sid.base
  rid : row.rid = wordColumn sid.rid
  name : row.name = some name
  type : row.type = some type.column

/-- The row has all it needs: a SID, a name, the type of an account, and a time. -/
structure NameRow.Complete (row : NameRow) : Prop where
  names : ∃ sid name type, row.Names sid name type
  expiration : ∃ time, row.expiration = some time

namespace NameRow.Names

variable {row : NameRow} {sid sid' : Sid} {name : String} {type : AccountType}

theorem readType_eq (h : row.Names sid name type) : readType row.type = .ok type := by
  rw [h.type]
  cases type <;> rfl

/-- What a lookup by SID makes of the row. -/
theorem cachedName_eq (h : row.Names sid name type) :
    row.cachedName = .ok { name, domain := row.domain, type } := by
  simp only [cachedName, h.name, h.readType_eq]
  rfl

/-- What a lookup by name makes of the row. -/
theorem cachedAccount_eq (h : row.Names sid name type) : row.cachedAccount = .ok (sid, type) := by
  simp only [cachedAccount, readSid, h.base, h.rid, word32OfColumn?_wordColumn, h.readType_eq]
  rfl

end NameRow.Names

/-- How a complete row is shown. -/
theorem IdRow.Ties.listed_eq {row : IdRow} {sid : Sid} {id : UnixId} (h : row.Ties sid id) :
    ∃ shown, Cache.listed row = .ok shown := by
  simp only [Cache.listed, readSid, h.base, h.rid, word32OfColumn?_wordColumn, h.number,
    readNumber_wordColumn]
  exact ⟨_, rfl⟩

theorem IdMapping.complete_row (m : IdMapping) : m.row.Complete where
  ties := ⟨m.sid, m.id, m.row_ties⟩
  toUnix := isFlag_flagColumn _
  toWindows := isFlag_flagColumn _
  expiration := ⟨_, rfl⟩

theorem NameMapping.complete_row (m : NameMapping) : m.row.Complete where
  names := ⟨m.sid, m.name, m.type, rfl, rfl, rfl, rfl⟩
  expiration := ⟨_, rfl⟩

theorem IdRow.Complete.clearToUnix {row : IdRow} (h : row.Complete) :
    ({ row with toUnix := none } : IdRow).Complete where
  ties := by
    obtain ⟨sid, id, hties⟩ := h.ties
    exact ⟨sid, id, hties.clearToUnix⟩
  toUnix := Or.inl rfl
  toWindows := h.toWindows
  expiration := h.expiration

namespace NameRow

theorem isAbout_iff {row : NameRow} {sid : Sid} :
    row.isAbout sid = true ↔ row.base = some sid.base ∧ row.rid = wordColumn sid.rid := by
  simp [isAbout]

theorem collides_of_isAbout {a b : NameRow} {sid : Sid} (ha : a.isAbout sid = true)
    (hb : b.isAbout sid = true) : a.collides b = true := by
  obtain ⟨hbase, hrid⟩ := isAbout_iff.mp ha
  obtain ⟨hbase', hrid'⟩ := isAbout_iff.mp hb
  simp [collides, Table.sameKey, hbase, hrid, hbase', hrid', wordColumn]

end NameRow

/-! ### Changes -/

namespace Cache

/-- A way to change the cache. -/
inductive Change where
  | putId (m : IdMapping)
  | putName (m : NameMapping)
  | supersede (sid : Sid) (kind : IdKind)
  | purge (now : Int)
  | clear

/-- What it makes of the cache. -/
def Change.apply : Change → Cache → Cache
  | putId m, cache => cache.putId m
  | putName m, cache => cache.putName m
  | supersede sid kind, cache => cache.supersede sid kind
  | purge now, cache => cache.purge now
  | clear, _ => {}

/-- What the changes, one after another, make of an empty cache. -/
def after (changes : List Change) : Cache :=
  changes.foldl (fun cache change => change.apply cache) {}

theorem after_concat (changes : List Change) (change : Change) :
    after (changes ++ [change]) = change.apply (after changes) := by
  simp [after]

/-- Every row is complete, and no two rows of a table share a key. -/
structure Tidy (cache : Cache) : Prop where
  keyed : cache.Keyed
  ids : ∀ row ∈ cache.ids, row.Complete
  names : ∀ row ∈ cache.names, row.Complete
  apart : cache.names.Pairwise fun a b => a.collides b = false

namespace Tidy

variable {cache : Cache}

theorem empty : Tidy {} where
  keyed := .empty
  ids row hrow := by cases hrow
  names row hrow := by cases hrow
  apart := List.Pairwise.nil

theorem putId (h : cache.Tidy) (m : IdMapping) : (cache.putId m).Tidy where
  keyed := h.keyed.putId m
  ids row hrow := by
    rcases mem_putId.mp hrow with rfl | ⟨hold, -⟩
    · exact m.complete_row
    · exact h.ids row hold
  names := h.names
  apart := h.apart

theorem putName (h : cache.Tidy) (m : NameMapping) : (cache.putName m).Tidy where
  keyed := h.keyed.congr rfl
  ids := h.ids
  names row hrow := by
    rcases Table.mem_put.mp hrow with rfl | ⟨hold, -⟩
    · exact m.complete_row
    · exact h.names row hold
  apart := Table.pairwise_put h.apart

theorem supersede (h : cache.Tidy) (sid : Sid) (kind : IdKind) :
    (cache.supersede sid kind).Tidy where
  keyed := h.keyed.supersede sid kind
  ids row hrow := by
    obtain ⟨old, hold, rfl⟩ := mem_supersede.mp hrow
    split
    · exact (h.ids old hold).clearToUnix
    · exact h.ids old hold
  names := h.names
  apart := h.apart

theorem purge (h : cache.Tidy) (now : Int) : (cache.purge now).Tidy where
  keyed := h.keyed.purge now
  ids row hrow := h.ids row (List.mem_filter.mp hrow).1
  names row hrow := h.names row (List.mem_filter.mp hrow).1
  apart := h.apart.filter _

/-- One change keeps a cache tidy. -/
theorem apply (h : cache.Tidy) (change : Change) : (change.apply cache).Tidy := by
  cases change with
  | putId m => exact h.putId m
  | putName m => exact h.putName m
  | supersede sid kind => exact h.supersede sid kind
  | purge now => exact h.purge now
  | clear => exact .empty

/-- So do any changes, from the empty cache on. -/
theorem after (changes : List Change) : (after changes).Tidy :=
  List.foldlRecOn changes _ .empty fun _ h change _ => h.apply change

end Tidy

/-! ### One row for each key -/

/-- Of rows that keep apart, at most one is of a sort of which no two do. -/
theorem countP_le_one {ρ : Type} {Apart : ρ → ρ → Prop} {p : ρ → Bool} {rows : List ρ}
    (h : rows.Pairwise Apart) (hp : ∀ a b, p a = true → p b = true → ¬ Apart a b) :
    rows.countP p ≤ 1 := by
  induction h with
  | nil => exact Nat.zero_le 1
  | @cons first rest hfirst _ ih =>
      rw [List.countP_cons]
      by_cases hmatch : p first = true
      · have hnone : rest.countP p = 0 := by
          rw [List.countP_eq_zero]
          intro row hrow hother
          exact hp first row hmatch hother (hfirst row hrow)
        exact Nat.le_of_eq (by rw [hnone, if_pos hmatch])
      · rw [if_neg hmatch]
        exact ih

/-- The rows are complete, and each key has at most one: a SID has one row that leads to a
unix id, a unix id one that leads to a SID, and a SID has one name. -/
structure Intact (cache : Cache) : Prop where
  ids : ∀ row ∈ cache.ids, row.Complete
  names : ∀ row ∈ cache.names, row.Complete
  toUnix : ∀ sid, cache.ids.countP (fun row => row.isAbout sid && flagIsSet row.toUnix) ≤ 1
  toWindows : ∀ id, cache.ids.countP (fun row => row.isOf id && flagIsSet row.toWindows) ≤ 1
  named : ∀ sid, cache.names.countP (·.isAbout sid) ≤ 1

variable {cache : Cache}

/-- The keys of rows are told apart by flags that are 1, which is what a complete row has. -/
theorem Tidy.complete_apart (h : cache.Tidy) :
    cache.ids.Pairwise fun a b => a.Complete ∧ b.Complete ∧ a.collides b = false :=
  h.keyed.distinct.imp_of_mem fun ha hb hab => ⟨h.ids _ ha, h.ids _ hb, hab⟩

theorem Tidy.intact (h : cache.Tidy) : cache.Intact where
  ids := h.ids
  names := h.names
  toUnix sid := by
    refine countP_le_one h.complete_apart ?_
    rintro a b ha hb ⟨hcomplete, hcomplete', hab⟩
    obtain ⟨habout, hset⟩ := Bool.and_eq_true_iff.mp ha
    obtain ⟨habout', hset'⟩ := Bool.and_eq_true_iff.mp hb
    rw [IdRow.collides_of_isAbout habout habout' (hcomplete.toUnix.eq_of_isSet hset)
      (hcomplete'.toUnix.eq_of_isSet hset')] at hab
    cases hab
  toWindows id := by
    refine countP_le_one h.complete_apart ?_
    rintro a b ha hb ⟨hcomplete, hcomplete', hab⟩
    obtain ⟨hof, hset⟩ := Bool.and_eq_true_iff.mp ha
    obtain ⟨hof', hset'⟩ := Bool.and_eq_true_iff.mp hb
    rw [IdRow.collides_of_isOf hof hof' (hcomplete.toWindows.eq_of_isSet hset)
      (hcomplete'.toWindows.eq_of_isSet hset')] at hab
    cases hab
  named sid := by
    refine countP_le_one h.apart fun a b ha hb hab => ?_
    rw [NameRow.collides_of_isAbout ha hb] at hab
    cases hab

/-! ### Lookups -/

/-- What does not fail for lack of a column. -/
def NotCorrupt {β : Type} (answer : Except Failure β) : Prop :=
  ∀ column, answer ≠ .error (.cacheCorrupt column)

theorem notCorrupt_ok {β : Type} (b : β) : NotCorrupt (.ok b) := by
  intro column h
  cases h

theorem notCorrupt_notFound {β : Type} : NotCorrupt (.error .notFound : Except Failure β) := by
  intro column h
  cases h

theorem notCorrupt_check (hit : CachedId) (wanted : Wanted) : NotCorrupt (hit.check wanted) := by
  intro column
  unfold CachedId.check Wanted.check
  split <;> simp

theorem NotCorrupt.bind {β γ : Type} {answer : Except Failure β} {next : β → Except Failure γ}
    (h : NotCorrupt answer) (hnext : ∀ b, answer = .ok b → NotCorrupt (next b)) :
    NotCorrupt (answer >>= next) := by
  cases answer with
  | ok b => exact hnext b rfl
  | error failure =>
      intro column hcorrupt
      cases hcorrupt
      exact h column rfl

/-- Lookups that are given a key match one row at most, and whatever is read, it is never said
that the cache is corrupt. -/
structure Readable (cache : Cache) : Prop where
  oneId : ∀ sid now, cache.ids.countP (·.answersSid sid now) ≤ 1
  oneSid : ∀ id now, cache.ids.countP (·.answersId id now) ≤ 1
  oneName : ∀ sid now, cache.names.countP (·.answersSid sid now) ≤ 1
  idOf : ∀ sid wanted now, NotCorrupt (cache.idOf sid wanted now)
  sidOf : ∀ id now, NotCorrupt (cache.sidOf id now)
  nameOf : ∀ sid now, NotCorrupt (cache.nameOf sid now)
  accountNamed : ∀ name domain now, NotCorrupt (cache.accountNamed name domain now)
  list : ∀ limit, ∃ rows, cache.list limit = .ok rows
  maxMinted : ∀ kind, ∃ number, cache.maxMinted kind = .ok number

theorem isSet_of_answersSid {row : IdRow} {sid : Sid} {now : Int}
    (h : row.answersSid sid now = true) : (row.isAbout sid && flagIsSet row.toUnix) = true := by
  obtain ⟨hunix, habout, -⟩ := IdRow.answersSid_iff.mp h
  rw [habout, hunix]
  rfl

theorem isSet_of_answersId {row : IdRow} {id : UnixId} {now : Int}
    (h : row.answersId id now = true) : (row.isOf id && flagIsSet row.toWindows) = true := by
  obtain ⟨hwindows, hnumber, hkind, -⟩ := IdRow.answersId_iff.mp h
  rw [IdRow.isOf_iff.mpr ⟨hnumber, hkind⟩, hwindows]
  rfl

namespace Intact

variable (h : cache.Intact)
include h

theorem idOf (sid : Sid) (wanted : Wanted) (now : Int) :
    NotCorrupt (cache.idOf sid wanted now) := by
  unfold Cache.idOf
  cases hrow : cache.idRow? sid now with
  | none => exact notCorrupt_notFound
  | some row =>
      unfold idRow? at hrow
      obtain ⟨sid', id, hties⟩ := (h.ids row (List.mem_of_find?_eq_some hrow)).ties
      simp only [hties.cachedId_eq]
      refine (notCorrupt_ok _).bind fun hit _ => ?_
      split
      · exact notCorrupt_ok _
      · exact (notCorrupt_check hit wanted).bind fun _ _ => notCorrupt_ok hit

theorem sidOf (id : UnixId) (now : Int) : NotCorrupt (cache.sidOf id now) := by
  unfold Cache.sidOf
  cases hrow : cache.sidRow? id now with
  | none => exact notCorrupt_notFound
  | some row =>
      unfold sidRow? at hrow
      obtain ⟨sid, id', hties⟩ := (h.ids row (List.mem_of_find?_eq_some hrow)).ties
      simp only [hties.cachedSid_eq]
      exact notCorrupt_ok _

theorem nameOf (sid : Sid) (now : Int) : NotCorrupt (cache.nameOf sid now) := by
  unfold Cache.nameOf
  cases hrow : cache.nameRow? sid now with
  | none => exact notCorrupt_notFound
  | some row =>
      unfold nameRow? at hrow
      obtain ⟨sid', name, type, hnames⟩ := (h.names row (List.mem_of_find?_eq_some hrow)).names
      simp only [hnames.cachedName_eq]
      exact notCorrupt_ok _

theorem accountNamed (name : String) (domain : Option String) (now : Int) :
    NotCorrupt (cache.accountNamed name domain now) := by
  unfold Cache.accountNamed
  cases hrow : cache.accountRow? name domain now with
  | none => exact notCorrupt_notFound
  | some row =>
      unfold accountRow? at hrow
      obtain ⟨sid, name', type, hnames⟩ := (h.names row (List.mem_of_find?_eq_some hrow)).names
      simp only [hnames.cachedAccount_eq]
      exact notCorrupt_ok _

theorem list (limit : Nat) : ∃ rows, cache.list limit = .ok rows := by
  have hshown : ∀ row ∈ cache.ids.reverse.take limit, ∃ shown, listed row = .ok shown := by
    intro row hrow
    have hmem : row ∈ cache.ids := List.mem_reverse.mp (List.mem_of_mem_take hrow)
    obtain ⟨sid, id, hties⟩ := (h.ids row hmem).ties
    exact hties.listed_eq
  unfold Cache.list
  generalize cache.ids.reverse.take limit = rows at hshown
  induction rows with
  | nil => exact ⟨[], rfl⟩
  | cons row rest ih =>
      obtain ⟨shown, hrow⟩ := hshown row (List.mem_cons_self ..)
      obtain ⟨others, hrest⟩ := ih fun other hother => hshown other (List.mem_cons_of_mem _ hother)
      rw [List.mapM_cons, hrow, hrest]
      exact ⟨shown :: others, rfl⟩

theorem maxMinted (kind : IdKind) : ∃ number, cache.maxMinted kind = .ok number := by
  rcases maxMinted_cases (fun row hrow => (h.ids row hrow).ties) kind with
    ⟨hnone, -⟩ | ⟨top, htop, -⟩
  · exact ⟨none, hnone⟩
  · exact ⟨some top, htop⟩

/-- **An intact cache can be read.** -/
theorem readable : cache.Readable where
  oneId sid _ := Nat.le_trans (List.countP_mono_left fun _ _ => isSet_of_answersSid) (h.toUnix sid)
  oneSid id _ :=
    Nat.le_trans (List.countP_mono_left fun _ _ => isSet_of_answersId) (h.toWindows id)
  oneName sid _ := by
    refine Nat.le_trans (List.countP_mono_left fun row _ hanswers => ?_) (h.named sid)
    exact (Bool.and_eq_true_iff.mp hanswers).1
  idOf := h.idOf
  sidOf := h.sidOf
  nameOf := h.nameOf
  accountNamed := h.accountNamed
  list := h.list
  maxMinted := h.maxMinted

end Intact

/-! ### Engines -/

/-- What changes lead to, calls lead to with more of them. -/
theorem lasting_after (before : List Change) :
    Lasting (fun _ => True) fun cache => ∃ more, cache = after (before ++ more) where
  empty := ⟨[.clear], by rw [after_concat]; rfl⟩
  putId := by
    rintro cache m ⟨more, rfl⟩ -
    exact ⟨more ++ [.putId m], by rw [← List.append_assoc, after_concat]; rfl⟩
  putName := by
    rintro cache m ⟨more, rfl⟩
    exact ⟨more ++ [.putName m], by rw [← List.append_assoc, after_concat]; rfl⟩
  supersede := by
    rintro cache sid kind ⟨more, rfl⟩
    exact ⟨more ++ [.supersede sid kind], by rw [← List.append_assoc, after_concat]; rfl⟩
  purge := by
    rintro cache now ⟨more, rfl⟩
    exact ⟨more ++ [.purge now], by rw [← List.append_assoc, after_concat]; rfl⟩

end Cache

/--
**Whatever happens to a cache, its rows are complete, each key has at most one, and no lookup
calls it corrupt.**

The changes are any, with any arguments.  What an engine makes of a cache in a run, however
long, other changes could have made of it too.
-/
theorem intact_and_readable {δ α : Type} (e : Engine δ α) (calls : List (Int × Call))
    (s : EngineState δ α) (changes : List Cache.Change) :
    (Cache.after changes).Intact ∧ (Cache.after changes).Readable ∧
      ∃ more, (e.run calls { s with cache := Cache.after changes }).2.cache
        = Cache.after (changes ++ more) := by
  have hintact : (Cache.after changes).Intact := (Cache.Tidy.after changes).intact
  refine ⟨hintact, hintact.readable, ?_⟩
  exact (Cache.lasting_after changes).run e.writes_anything ⟨[], by rw [List.append_nil]⟩ calls

end IdentityMap
