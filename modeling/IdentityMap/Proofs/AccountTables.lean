/-
What an account file says about a name and about a number.

Each line is read by itself, and those that stand for no account are passed over.  What is left is
names with numbers, of which neither has to be unique.  Of the names of a number the first one
counts, and of the numbers of a name the last one.

So a number need not be that of its own name.  It is not if a later line gives the name another
number, and none gives this one back.
-/
import IdentityMap.Account.Table
import IdentityMap.Proofs.Numerals
import IdentityMap.Proofs.Text.Parts

namespace IdentityMap.AccountTable

variable {text name : String} {id number : UInt32} {line : List Char}

/-! ### Lines -/

/-- A line, apart from blanks around it, is a name, a password, a number, and whatever may follow
behind another colon.  It is no comment and does not refer elsewhere. -/
structure Lists (line : List Char) (name : String) (id : UInt32) : Prop where
  isAccount : ∀ c ∈ ['#', '+', '-'], (trimChars line).head? ≠ some c
  name_ne_nil : name.toList ≠ []
  name_colon : ':' ∉ name.toList
  fields : ∃ password numeral rest, trimChars line =
      name.toList ++ ':' :: (password ++ ':' :: (numeral ++ rest)) ∧
    ':' ∉ password ∧ Numeral.Writes numeral id.toNat ∧ (rest = [] ∨ rest.head? = some ':')

theorem isSkipped_eq_false_iff (hne : line ≠ []) :
    isSkipped line = false ↔ ∀ c ∈ ['#', '+', '-'], line.head? ≠ some c := by
  cases line with
  | nil => exact absurd rfl hne
  | cons first rest =>
      simp [isSkipped, and_assoc]

/-- The third of some parts ends with the text, or before a colon. -/
theorem splitOn_eq_third_iff {first second third : List Char} :
    (∃ more, line.splitOn ':' = first :: second :: third :: more) ↔
      ':' ∉ first ∧ ':' ∉ second ∧ ':' ∉ third ∧
        ∃ rest, line = first ++ ':' :: (second ++ ':' :: (third ++ rest)) ∧
          (rest = [] ∨ rest.head? = some ':') := by
  constructor
  · rintro ⟨more, h⟩
    obtain ⟨hfirst, ⟨-, hnil⟩ | ⟨behind, rfl, h'⟩⟩ := splitOn_eq_cons_iff.mp h
    · cases hnil
    obtain ⟨hsecond, ⟨-, hnil⟩ | ⟨behind, rfl, h''⟩⟩ := splitOn_eq_cons_iff.mp h'
    · cases hnil
    obtain ⟨hthird, ⟨rfl, -⟩ | ⟨tail, rfl, -⟩⟩ := splitOn_eq_cons_iff.mp h''
    · exact ⟨hfirst, hsecond, hthird, [], by simp, .inl rfl⟩
    · exact ⟨hfirst, hsecond, hthird, ':' :: tail, rfl, .inr rfl⟩
  · rintro ⟨hfirst, hsecond, hthird, rest, rfl, hrest⟩
    have hlast : ∃ more, (third ++ rest).splitOn ':' = third :: more := by
      rcases hrest with rfl | hrest
      · exact ⟨[], splitOn_eq_cons_iff.mpr ⟨hthird, .inl ⟨by simp, rfl⟩⟩⟩
      · obtain ⟨tail, rfl⟩ := List.head?_eq_some_iff.mp hrest
        exact ⟨_, splitOn_eq_cons_iff.mpr ⟨hthird, .inr ⟨tail, rfl, rfl⟩⟩⟩
    obtain ⟨more, hmore⟩ := hlast
    exact ⟨more, splitOn_eq_cons_iff.mpr ⟨hfirst, .inr ⟨_, rfl,
      splitOn_eq_cons_iff.mpr ⟨hsecond, .inr ⟨_, rfl, hmore⟩⟩⟩⟩⟩

/-- What is read off a line that has no blanks around it. -/
theorem ofLine?_eq_some_iff :
    ofLine? line = some (name, id) ↔ (∀ c ∈ ['#', '+', '-'], line.head? ≠ some c) ∧
      name.toList ≠ [] ∧ ∃ password numeral, Numeral.Writes numeral id.toNat ∧
        ∃ more, line.splitOn ':' = name.toList :: password :: numeral :: more := by
  constructor
  · intro h
    unfold ofLine? at h
    split at h
    · cases h
    · next hskipped =>
      split at h
      · next first second third more hsplit =>
        split at h
        · cases h
        · next hempty =>
          obtain ⟨number, hnumber, heq⟩ := Option.map_eq_some_iff.mp h
          obtain ⟨rfl, rfl⟩ := Prod.mk.inj heq
          rw [String.toList_ofList]
          have hne : line ≠ [] := by
            rintro rfl
            exact hskipped rfl
          exact ⟨(isSkipped_eq_false_iff hne).mp (Bool.eq_false_iff.mpr hskipped),
            fun hnil => hempty (List.isEmpty_iff.mpr hnil), second, third,
            Numeral.word32?_eq_some_iff.mp hnumber, more, hsplit⟩
      · cases h
  · rintro ⟨haccount, hne, password, numeral, hwrites, more, hsplit⟩
    have hline : line ≠ [] := by
      rintro rfl
      rw [List.splitOn_nil] at hsplit
      exact hne (List.cons.inj hsplit).1.symm
    rw [ofLine?, (isSkipped_eq_false_iff hline).mpr haccount, hsplit]
    simp [hne, Numeral.word32?_eq_some_iff.mpr hwrites]

/-- The account on a line is the one that the line lists. -/
theorem ofLine?_trimChars_iff :
    ofLine? (trimChars line) = some (name, id) ↔ Lists line name id := by
  rw [ofLine?_eq_some_iff]
  simp only [splitOn_eq_third_iff]
  constructor
  · rintro ⟨haccount, hne, password, numeral, hwrites, hcolon, hpassword, -, rest, hchars, hrest⟩
    exact ⟨haccount, hne, hcolon, password, numeral, rest, hchars, hpassword, hwrites, hrest⟩
  · rintro ⟨haccount, hne, hcolon, password, numeral, rest, hchars, hpassword, hwrites, hrest⟩
    exact ⟨haccount, hne, password, numeral, hwrites, hcolon, hpassword,
      hwrites.not_mem (by decide) (by decide), rest, hchars, hrest⟩

/-! ### Files -/

/-- The lines of a file. -/
def lines (text : String) : List (List Char) :=
  text.toList.splitOn '\n'

/-- The first account of some kind is that of the first line with an account of that kind. -/
theorem find?_accounts_iff {all : List (List Char)} {p : String × UInt32 → Bool} :
    (all.filterMap fun line => ofLine? (trimChars line)).find? p = some (name, id) ↔
      p (name, id) = true ∧ ∃ before line after, all = before ++ line :: after ∧
        Lists line name id ∧
        ∀ other ∈ before, ∀ name' id', Lists other name' id' → p (name', id') = false := by
  rw [List.find?_filterMap, Option.bind_eq_some_iff]
  constructor
  · rintro ⟨line, hfind, hline⟩
    obtain ⟨hp, before, after, hall, hbefore⟩ := List.find?_eq_some_iff_append.mp hfind
    rw [hline] at hp
    refine ⟨hp, before, line, after, hall, ofLine?_trimChars_iff.mp hline, ?_⟩
    intro other hother name' id' hlists
    have hnot := hbefore other hother
    rw [ofLine?_trimChars_iff.mpr hlists] at hnot
    simpa using hnot
  · rintro ⟨hp, before, line, after, hall, hlists, hbefore⟩
    have hline := ofLine?_trimChars_iff.mpr hlists
    refine ⟨line, List.find?_eq_some_iff_append.mpr ⟨?_, before, after, hall, ?_⟩, hline⟩
    · rw [hline]
      exact hp
    · intro other hother
      cases haccount : ofLine? (trimChars other) with
      | none => rfl
      | some account =>
          have hnot := hbefore other hother _ _ (ofLine?_trimChars_iff.mp haccount)
          simpa using hnot

/-- An entry that is looked for is found by what it says, if nothing else is found that way. -/
theorem ok_of_find?_iff {α : Type} {all : List (String × UInt32)} {p : String × UInt32 → Bool}
    {f : String × UInt32 → α} {a : α} {entry : String × UInt32}
    (h : ∀ e, p e = true → (f e = a ↔ e = entry)) :
    (match all.find? p with
      | some e => Except.ok (f e)
      | none => .error Failure.notFound) = .ok a ↔ all.find? p = some entry := by
  cases hfind : all.find? p with
  | none => simp
  | some e => simp [h e (List.find?_some hfind)]

theorem nameOf_eq_ok_iff {table : AccountTable} :
    table.nameOf id = .ok name ↔ table.entries.find? (·.2 == id) = some (name, id) := by
  refine ok_of_find?_iff fun e he => ?_
  simp [Prod.ext_iff, eq_of_beq he]

theorem idOf_eq_ok_iff {table : AccountTable} :
    table.idOf name = .ok id ↔ table.entries.reverse.find? (·.1 == name) = some (name, id) := by
  refine ok_of_find?_iff fun e he => ?_
  simp [Prod.ext_iff, eq_of_beq he]

/-- A number has the name that the first line with this number gives it. -/
theorem nameOf_ofText_iff :
    (ofText text).nameOf id = .ok name ↔
      ∃ before line after, lines text = before ++ line :: after ∧ Lists line name id ∧
        ∀ other ∈ before, ∀ name', ¬Lists other name' id := by
  rw [nameOf_eq_ok_iff]
  refine find?_accounts_iff.trans ?_
  simp only [beq_self_eq_true, true_and, beq_eq_false_iff_ne]
  have hnever (before : List (List Char)) :
      (∀ other ∈ before, ∀ name' id', Lists other name' id' → id' ≠ id) ↔
        ∀ other ∈ before, ∀ name', ¬Lists other name' id := by
    refine forall₃_congr fun other _ name' => ?_
    exact ⟨fun h hlists => h _ hlists rfl, fun h id' hlists heq => h (heq ▸ hlists)⟩
  simp only [hnever]
  rfl

/-- A name has the number that the last line with this name gives it. -/
theorem idOf_ofText_iff :
    (ofText text).idOf name = .ok id ↔
      ∃ before line after, lines text = before ++ line :: after ∧ Lists line name id ∧
        ∀ other ∈ after, ∀ id', ¬Lists other name id' := by
  rw [idOf_eq_ok_iff, ofText, ← List.filterMap_reverse]
  refine find?_accounts_iff.trans ?_
  simp only [beq_self_eq_true, true_and, beq_eq_false_iff_ne]
  constructor
  · rintro ⟨after, line, before, hall, hlists, hafter⟩
    refine ⟨before.reverse, line, after.reverse, ?_, hlists, ?_⟩
    · rw [lines, ← List.reverse_reverse (text.toList.splitOn '\n'), hall]
      simp
    · intro other hother id' hother'
      exact hafter other (List.mem_reverse.mp hother) name id' hother' rfl
  · rintro ⟨before, line, after, hall, hlists, hafter⟩
    refine ⟨after.reverse, line, before.reverse, ?_, hlists, ?_⟩
    · rw [lines] at hall
      simp [hall]
    · rintro other hother name' id' hother' rfl
      exact hafter other (List.mem_reverse.mp hother) id' hother'

/-- A name that some line gives a number has a number. -/
theorem exists_idOf_ofText (hline : line ∈ lines text) (hlists : Lists line name id) :
    ∃ number, (ofText text).idOf name = .ok number := by
  rw [← ofLine?_trimChars_iff] at hlists
  have hentry : (name, id) ∈ (ofText text).entries :=
    List.mem_filterMap.mpr ⟨line, hline, hlists⟩
  have hsome : ((ofText text).entries.reverse.find? (·.1 == name)).isSome := by
    rw [List.find?_isSome]
    exact ⟨_, List.mem_reverse.mpr hentry, beq_self_eq_true name⟩
  obtain ⟨⟨name', number⟩, hfind⟩ := Option.isSome_iff_exists.mp hsome
  have hname := List.find?_some hfind
  obtain rfl : name' = name := eq_of_beq hname
  refine ⟨number, ?_⟩
  rw [idOf_eq_ok_iff]
  exact hfind

/-- A line lists one account at most. -/
theorem Lists.unique {name' : String} {id' : UInt32} (h : Lists line name id)
    (h' : Lists line name' id') : name = name' ∧ id = id' := by
  rw [← ofLine?_trimChars_iff] at h h'
  exact Prod.mk.inj (Option.some.inj (h.symm.trans h'))

/-! ### Numbers of names -/

/-- Some line gives the name another number, and no later one gives it this number. -/
def IsMoved (text name : String) (id : UInt32) : Prop :=
  ∃ before line after, lines text = before ++ line :: after ∧
    (∃ other, other ≠ id ∧ Lists line name other) ∧ ∀ later ∈ after, ¬Lists later name id

theorem isMoved_of_idOf {number : UInt32} (h : (ofText text).idOf name = .ok number)
    (hne : number ≠ id) : IsMoved text name id := by
  rw [idOf_ofText_iff] at h
  obtain ⟨before, line, after, hall, hlists, hafter⟩ := h
  exact ⟨before, line, after, hall, ⟨number, hne, hlists⟩,
    fun later hlater => hafter later hlater id⟩

/-- Of two places in a list one comes first. -/
theorem mem_after_or_eq {α : Type} {before before' after after' : List α} {x y : α}
    (h : before ++ x :: after = before' ++ y :: after') : x ∈ after' ∨ x = y ∨ y ∈ after := by
  rcases List.append_eq_append_iff.mp h with ⟨between, -, heq⟩ | ⟨between, -, heq⟩
  all_goals
    cases between with
    | nil => simp_all
    | cons head between => simp_all

/-- The last line with the name gives it the number, wherever it was moved before. -/
theorem not_isMoved_of_idOf (h : (ofText text).idOf name = .ok id) : ¬IsMoved text name id := by
  rw [idOf_ofText_iff] at h
  obtain ⟨before, line, after, hall, hlists, hafter⟩ := h
  rintro ⟨before', moving, after', hall', ⟨other, hne, hmoving⟩, hnever⟩
  rcases mem_after_or_eq (hall.symm.trans hall') with hlater | rfl | hearlier
  · exact hnever line hlater hlists
  · exact hne (hmoving.unique hlists).2
  · exact hafter moving hearlier other hmoving

/-- The name of a number has a number. -/
theorem exists_idOf_of_nameOf (h : (ofText text).nameOf id = .ok name) :
    ∃ number, (ofText text).idOf name = .ok number := by
  rw [nameOf_ofText_iff] at h
  obtain ⟨before, line, after, hall, hlists, -⟩ := h
  exact exists_idOf_ofText (hall ▸ List.mem_append_cons_self) hlists

/-- Two names of one number do no harm by themselves. -/
theorem idOf_of_nameOf (h : (ofText text).nameOf id = .ok name)
    (hone : ∀ line ∈ lines text, ∀ other, Lists line name other → other = id) :
    (ofText text).idOf name = .ok id := by
  obtain ⟨number, hnumber⟩ := exists_idOf_of_nameOf h
  have hlast := hnumber
  rw [idOf_ofText_iff] at hlast
  obtain ⟨before, line, after, hall, hlists, -⟩ := hlast
  rw [hnumber, hone line (hall ▸ List.mem_append_cons_self) number hlists]

/-- **A number that has a name is the number of this name, unless a later line moves the
name.**  The name has some number in either case. -/
theorem number_of_own_name_iff (h : (ofText text).nameOf id = .ok name) :
    (∃ number, (ofText text).idOf name = .ok number) ∧
      ((ofText text).idOf name = .ok id ↔ ¬IsMoved text name id) := by
  obtain ⟨number, hnumber⟩ := exists_idOf_of_nameOf h
  refine ⟨⟨number, hnumber⟩, not_isMoved_of_idOf, ?_⟩
  intro hmoved
  by_cases heq : number = id
  · rw [hnumber, heq]
  · exact absurd (isMoved_of_idOf hnumber heq) hmoved

/-- The name of the superuser has its number, although another name has the number as well. -/
theorem number_of_own_name_iff_root :
    (ofText "root:x:0:0::/root:/bin/sh\n+nis\ntoor:x:0:0::/:/bin/sh\n").nameOf 0 = .ok "root" ∧
      ¬IsMoved "root:x:0:0::/root:/bin/sh\n+nis\ntoor:x:0:0::/:/bin/sh\n" "root" 0 := by
  have hentries : (ofText "root:x:0:0::/root:/bin/sh\n+nis\ntoor:x:0:0::/:/bin/sh\n").entries
      = [("root", 0), ("toor", 0)] := by
    decide +kernel
  have hname : (ofText "root:x:0:0::/root:/bin/sh\n+nis\ntoor:x:0:0::/:/bin/sh\n").nameOf 0
      = .ok "root" := by
    rw [nameOf, hentries]
    rfl
  refine ⟨hname, (number_of_own_name_iff hname).2.mp ?_⟩
  rw [idOf, hentries]
  rfl

/-- A number that is given up on a later line keeps the name, which has the other number. -/
theorem number_of_other_account :
    (ofText "bob:x:1001:100::/home/bob:/bin/sh\nbob:x:1002:100::/home/bob:/bin/sh\n").nameOf 1001
        = .ok "bob" ∧
      (ofText "bob:x:1001:100::/home/bob:/bin/sh\nbob:x:1002:100::/home/bob:/bin/sh\n").idOf "bob"
        = .ok 1002 := by
  have hentries : (ofText
      "bob:x:1001:100::/home/bob:/bin/sh\nbob:x:1002:100::/home/bob:/bin/sh\n").entries
        = [("bob", 1001), ("bob", 1002)] := by
    decide +kernel
  rw [nameOf, idOf, hentries]
  exact ⟨rfl, rfl⟩

end IdentityMap.AccountTable
