/-
What is known of the queries while a lookup goes on.

It is kept by their places in the list, for one query may stand there twice.  A place is open
as long as nothing was said of it, or last a transient fault.  A batch holds what is open, and
gives one outcome to each open place, in order, or one fault to all of them; nothing else
changes what is known.

The items of a lookup hold just that, which is what the last part shows.
-/
import IdentityMap.Proofs.Directory.Rounds

namespace IdentityMap.Directory

/-! ### What is known -/

/-- The latest outcome of the query in each place, if there was one. -/
abbrev Known := Nat → Option Outcome

namespace Known

/-- Nothing was said of the place, or last a transient fault. -/
def isOpen (known : Known) (k : Nat) : Bool :=
  match known k with
  | none => true
  | some (.ok _) => false
  | some (.error fault) => fault.isTransient

/-- What is known after a batch with the open places: it gives an outcome to each of them, in
order, or one fault to all. -/
def hear (known : Known) (verdict : Except Fault (List Outcome)) : Known := fun k =>
  if known.isOpen k then
    match verdict with
    | .ok outcomes => outcomes[(List.range k).countP known.isOpen]?
    | .error fault => some (.error fault)
  else known k

/-- The queries in the open places. -/
def openQueries (known : Known) (queries : List Query) : List Query :=
  (queries.zipIdx.filter fun p => known.isOpen p.2).map (·.1)

variable {known : Known} {k : Nat}

theorem isOpen_of_none (h : known k = none) : known.isOpen k = true := by
  rw [isOpen, h]

theorem exists_of_not_isOpen (h : known.isOpen k = false) : ∃ outcome, known k = some outcome := by
  cases hk : known k with
  | none => rw [isOpen_of_none hk] at h; cases h
  | some outcome => exact ⟨outcome, rfl⟩

/-- What is settled is not heard again. -/
theorem hear_of_not_isOpen (h : known.isOpen k = false) (verdict : Except Fault (List Outcome)) :
    known.hear verdict k = known k :=
  if_neg (Bool.eq_false_iff.mp h)

theorem hear_error (h : known.isOpen k = true) (fault : Fault) :
    known.hear (.error fault) k = some (.error fault) :=
  if_pos h

theorem hear_ok (h : known.isOpen k = true) (outcomes : List Outcome) :
    known.hear (.ok outcomes) k = outcomes[(List.range k).countP known.isOpen]? :=
  if_pos h

/-- There are as many open queries as open places. -/
theorem length_openQueries (queries : List Query) :
    (known.openQueries queries).length = (List.range queries.length).countP known.isOpen := by
  have hplaces : queries.zipIdx.map (·.2) = List.range queries.length := by
    rw [List.zipIdx_map_snd, List.range_eq_range']
  rw [openQueries, List.length_map, ← List.countP_eq_length_filter, ← hplaces, List.countP_map]
  rfl

/-- An open place comes before the end of the batch. -/
theorem countP_lt_length {queries : List Query} (hk : k < queries.length)
    (hopen : known.isOpen k = true) :
    (List.range k).countP known.isOpen < (known.openQueries queries).length := by
  have hsub : (List.range (k + 1)).Sublist (List.range queries.length) :=
    List.range_sublist.mpr hk
  have hnext : (List.range (k + 1)).countP known.isOpen
      = (List.range k).countP known.isOpen + 1 := by
    rw [List.range_succ, List.countP_append, List.countP_cons_of_pos hopen, List.countP_nil]
  have hle := hsub.countP_le (p := known.isOpen)
  rw [length_openQueries]
  omega

/-- If nothing is open, every place is settled. -/
theorem not_isOpen_of_openQueries_eq_nil {queries : List Query}
    (h : known.openQueries queries = []) (hk : k < queries.length) : known.isOpen k = false := by
  cases hopen : known.isOpen k with
  | false => rfl
  | true =>
      have hlt := countP_lt_length hk hopen
      rw [h] at hlt
      exact absurd hlt (Nat.not_lt_zero _)

theorem openQueries_eq_nil {queries : List Query}
    (h : ∀ k < queries.length, known.isOpen k = false) : known.openQueries queries = [] := by
  rw [openQueries, List.map_eq_nil_iff, List.filter_eq_nil_iff]
  intro p hp
  rw [h p.2 (List.snd_lt_of_mem_zipIdx hp)]
  exact Bool.false_ne_true

theorem openQueries_sublist (known : Known) (queries : List Query) :
    (known.openQueries queries).Sublist queries := by
  have hsub := (List.filter_sublist (p := fun p => known.isOpen p.2) (l := queries.zipIdx)).map
    (·.1)
  rwa [List.zipIdx_map_fst] at hsub

/-- A batch leaves no place without an outcome. -/
theorem exists_hear {queries : List Query} {verdict : Except Fault (List Outcome)}
    (hcount : ∀ outcomes, verdict = .ok outcomes →
      outcomes.length = (known.openQueries queries).length)
    (hk : k < queries.length) : ∃ outcome, known.hear verdict k = some outcome := by
  cases hopen : known.isOpen k with
  | false =>
      rw [hear_of_not_isOpen hopen]
      exact exists_of_not_isOpen hopen
  | true =>
      cases verdict with
      | error fault => exact ⟨_, hear_error hopen fault⟩
      | ok outcomes =>
          have hlt := countP_lt_length hk hopen
          rw [← hcount outcomes rfl] at hlt
          exact ⟨_, by rw [hear_ok hopen, List.getElem?_eq_getElem hlt]⟩

/-! ### The items of a lookup -/

/-- The queries with what is known of them. -/
def items (known : Known) (queries : List Query) : List Item :=
  queries.zipIdx.map fun p => { query := p.1, outcome := known p.2 }

theorem isPending_item (known : Known) (query : Query) (k : Nat) :
    ({ query, outcome := known k } : Item).isPending = known.isOpen k :=
  rfl

theorem pending_items (known : Known) (queries : List Query) :
    pending (known.items queries) = known.openQueries queries := by
  rw [pending, items, List.filter_map, List.map_map]
  rfl

theorem failPending_items (known : Known) (queries : List Query) (fault : Fault) :
    failPending fault (known.items queries) = (known.hear (.error fault)).items queries := by
  rw [failPending, items, items, List.map_map]
  refine List.map_congr_left fun p _ => ?_
  by_cases hopen : known.isOpen p.2 = true
  · rw [hear_error hopen]
    exact if_pos hopen
  · rw [hear_of_not_isOpen (Bool.eq_false_iff.mpr hopen)]
    exact if_neg hopen

theorem settle_nil (items : List Item) : settle [] items = items := by
  cases items <;> rfl

theorem settle_of_not_isPending {item : Item} (h : item.isPending = false)
    (outcomes : List Outcome) (items : List Item) :
    settle outcomes (item :: items) = item :: settle outcomes items := by
  cases outcomes with
  | nil => rw [settle_nil, settle_nil]
  | cons outcome outcomes => rw [settle, h]; rfl

/-- The outcomes go to the open places in order, by induction on the list: so many are used up
as there are open places before. -/
theorem settle_items_from (known : Known) (outcomes : List Outcome) (queries : List Query)
    (k : Nat)
    (hcount : (List.range (k + queries.length)).countP known.isOpen ≤ outcomes.length) :
    settle (outcomes.drop ((List.range k).countP known.isOpen))
        ((queries.zipIdx k).map fun p => { query := p.1, outcome := known p.2 })
      = (queries.zipIdx k).map fun p =>
          { query := p.1, outcome := known.hear (.ok outcomes) p.2 } := by
  induction queries generalizing k with
  | nil => exact settle.eq_1 _
  | cons query rest ih =>
      have hnext : (List.range (k + 1)).countP known.isOpen
          = (List.range k).countP known.isOpen + if known.isOpen k then 1 else 0 := by
        rw [List.range_succ, List.countP_append, List.countP_singleton]
      have hrest := ih (k + 1) <| by
        rwa [List.length_cons, ← Nat.add_assoc, Nat.add_right_comm] at hcount
      rw [List.zipIdx_cons, List.map_cons, List.map_cons]
      cases hopen : known.isOpen k with
      | false =>
          rw [hnext, hopen] at hrest
          have hitem : ({ query, outcome := known k } : Item).isPending = false := hopen
          rw [settle_of_not_isPending hitem, hear_of_not_isOpen hopen]
          exact congrArg _ hrest
      | true =>
          rw [hnext, hopen, if_pos rfl] at hrest
          have hsub : (List.range (k + 1)).Sublist (List.range (k + (query :: rest).length)) :=
            List.range_sublist.mpr (by rw [List.length_cons]; omega)
          have hlt : (List.range k).countP known.isOpen < outcomes.length := by
            have hle := hsub.countP_le (p := known.isOpen)
            rw [hnext, hopen, if_pos rfl] at hle
            omega
          rw [List.drop_eq_getElem_cons hlt, settle, isPending_item, hopen, if_pos rfl, hrest,
            hear_ok hopen, List.getElem?_eq_getElem hlt]

theorem settle_items (known : Known) {queries : List Query} {outcomes : List Outcome}
    (hcount : outcomes.length = (known.openQueries queries).length) :
    settle outcomes (known.items queries) = (known.hear (.ok outcomes)).items queries := by
  refine settle_items_from known outcomes queries 0 (Nat.le_of_eq ?_)
  rw [Nat.zero_add, hcount, length_openQueries]

end Known

end IdentityMap.Directory
