/-
Which texts are read as SIDs.

Reading takes a text apart at its dashes, while the base of the SID is the text up to the last
one.  The two agree, because the rid is a numeral and no numeral holds a dash.

What is read is spelled the same again, but for the letter and the rid.  Both are then in the form
that printing gives, so that a SID is read back from its own text.
-/
import IdentityMap.Proofs.Sid.Spelling

namespace IdentityMap.Sid

/-- The numerals of a spelling, in the order in which they stand. -/
def Spelling.parts (p : Spelling) : List (List Char) :=
  p.revision :: p.authority :: (p.subs ++ [p.rid])

/-- The spelling of what is read: the letter is a capital one, and the rid is printed. -/
def Spelling.normal (p : Spelling) (rid : UInt32) : Spelling :=
  { p with letter := 'S', rid := Nat.toDigits 10 rid.toNat }

/-- The SID that is read from a spelling.  Of the rid only the value is kept. -/
def Spelling.sid (p : Spelling) (rid : UInt32) : Sid where
  base := String.ofList (p.normal rid).base
  rid := rid

/-- `text` spells the numbers of a SID that has a text: the revision is one, and the authority
fits 64 bits. -/
structure Spelling.Spells (p : Spelling) (n : Numbers) (text : String) : Prop where
  chars : text.toList = p.chars
  letter : p.letter = 'S' ∨ p.letter = 's'
  revision : p.revision = ['1']
  authority : n.authority < 2 ^ 64
  writes : p.Writes n

variable {p : Spelling} {n : Numbers} {parts : List (List Char)} {text : String} {sid : Sid}

/-! ### Reading the parts -/

theorem chars_eq_dashed (p : Spelling) : p.chars = p.letter :: dashed p.parts := by
  show p.letter :: dashed (p.revision :: p.authority :: p.subs) ++ '-' :: p.rid
    = p.letter :: dashed (p.revision :: p.authority :: p.subs ++ [p.rid])
  rw [dashed_concat, List.cons_append]

theorem base_sid (p : Spelling) (rid : UInt32) :
    p.sid rid = { base := String.ofList ('S' :: '-' ::
      ['-'].intercalate (p.revision :: p.authority :: p.subs)), rid } := by
  rw [intercalate_eq_dashed]
  rfl

/-- The last part becomes the rid, and all others the base. -/
theorem ofParts?_parts (p : Spelling) :
    ofParts? p.parts =
      if p.revision = ['1'] ∧ (Numeral.unsigned? 0x10000000000000000 p.authority).isSome ∧
          (p.subs ++ [p.rid]).all (fun part => (Numeral.word32? part).isSome) then
        (Numeral.word32? p.rid).map p.sid
      else none := by
  have hsid : p.sid = fun rid => { base := String.ofList ('S' :: '-' ::
      ['-'].intercalate (p.revision :: p.authority :: p.subs)), rid } :=
    funext (base_sid p)
  rw [hsid]
  obtain ⟨_, revision, authority, subs, rid⟩ := p
  cases subs with
  | nil => rfl
  | cons sub subs => simp [Spelling.parts, ofParts?, List.dropLast_cons_of_ne_nil]

/-- Fewer than three parts are no SID. -/
theorem exists_parts_of_ofParts? (h : ofParts? parts = some sid) (letter : Char) :
    ∃ p : Spelling, p.letter = letter ∧ parts = p.parts := by
  match parts, h with
  | revision :: authority :: sub :: rest, _ =>
      obtain ⟨subs, rid, heq⟩ := (List.eq_nil_or_concat' (sub :: rest)).resolve_left (by simp)
      exact ⟨{ letter, revision, authority, subs, rid }, rfl, by rw [heq]; rfl⟩

theorem isSome_word32?_iff {part : List Char} :
    (Numeral.word32? part).isSome = true ↔ ∃ sub : UInt32, Numeral.Writes part sub.toNat := by
  rw [Option.isSome_iff_exists]
  exact exists_congr fun _ => Numeral.word32?_eq_some_iff

theorem writes_one : Numeral.Writes ['1'] 1 :=
  .plain (Numeral.digits_toDigits 1)

/-- Every part has to be a numeral, and the rid has the value of the last one. -/
theorem ofParts?_eq_some_iff (hletter : p.letter ≠ '-') :
    ofParts? p.parts = some sid ↔
      p.revision = ['1'] ∧ ∃ n : Numbers, n.authority < 2 ^ 64 ∧ p.Writes n ∧
        sid = p.sid n.rid := by
  rw [ofParts?_parts]
  constructor
  · intro h
    split at h
    · next hparts =>
      obtain ⟨hrevision, hauthority, hall⟩ := hparts
      obtain ⟨authority, hauthority⟩ := Option.isSome_iff_exists.mp hauthority
      obtain ⟨hwrites, hlt⟩ := Numeral.unsigned?_eq_some_iff.mp hauthority
      obtain ⟨rid, hrid, hsid⟩ := Option.map_eq_some_iff.mp h
      have hsubs : ∀ part ∈ p.subs, ∃ sub : UInt32, Numeral.Writes part sub.toNat := by
        intro part hpart
        exact isSome_word32?_iff.mp (List.all_eq_true.mp hall part (by simp [hpart]))
      obtain ⟨subs, hsubs⟩ := exists_words_iff.mpr hsubs
      refine ⟨hrevision, { revision := 1, authority, subs, rid }, hlt, ?_, hsid.symm⟩
      exact ⟨hletter, hrevision ▸ writes_one, hwrites, hsubs, Numeral.word32?_eq_some_iff.mp hrid⟩
    · cases h
  · intro ⟨hrevision, n, hlt, h, hsid⟩
    have hauthority : Numeral.unsigned? 0x10000000000000000 p.authority = some n.authority :=
      Numeral.unsigned?_eq_some_iff.mpr ⟨h.authority, hlt⟩
    have hrid : Numeral.word32? p.rid = some n.rid := Numeral.word32?_eq_some_iff.mpr h.rid
    have hall : (p.subs ++ [p.rid]).all (fun part => (Numeral.word32? part).isSome) = true := by
      refine List.all_eq_true.mpr fun part hpart => isSome_word32?_iff.mpr ?_
      rcases List.mem_append.mp hpart with hpart | hpart
      · exact exists_words_iff.mp ⟨_, h.subs⟩ part hpart
      · rw [List.mem_singleton.mp hpart]
        exact ⟨n.rid, h.rid⟩
    rw [if_pos ⟨hrevision, by rw [hauthority]; rfl, hall⟩, hrid, Option.map_some, hsid]

/-! ### Reading a text -/

theorem splitOn_parts (h : p.Writes n) : (dashed p.parts).tail.splitOn '-' = p.parts := by
  have hrid := not_mem_of_writes h.rid
  show (p.revision ++ dashed (p.authority :: (p.subs ++ [p.rid]))).splitOn '-' = p.parts
  refine splitOn_dashed (not_mem_of_writes h.revision) fun part hpart => ?_
  rcases List.mem_cons.mp hpart with rfl | hpart
  · exact not_mem_of_writes h.authority
  rcases List.mem_append.mp hpart with hpart | hpart
  · exact h.not_mem_of_mem (by simp [hpart])
  · rw [List.mem_singleton.mp hpart]
    exact hrid

theorem parse_eq_ok_iff : parse text = .ok sid ↔ ofChars? text.toList = some sid := by
  rw [parse]
  cases ofChars? text.toList <;> simp

/-- A text that is read as a SID spells one. -/
theorem exists_spells_of_parse (h : parse text = .ok sid) :
    ∃ p n, Spelling.Spells p n text ∧ sid = p.sid n.rid := by
  have hchars := parse_eq_ok_iff.mp h
  generalize htext : text.toList = cs at hchars
  unfold ofChars? at hchars
  split at hchars
  · next letter rest =>
    split at hchars
    · next hletter =>
      obtain ⟨p, rfl, hparts⟩ := exists_parts_of_ofParts? hchars letter
      have hdash : p.letter ≠ '-' := by
        rcases hletter with hletter | hletter <;> rw [hletter] <;> decide
      rw [hparts] at hchars
      obtain ⟨hrevision, n, hlt, hwrites, hsid⟩ := (ofParts?_eq_some_iff hdash).mp hchars
      have hjoined : ['-'].intercalate p.parts = rest := by
        rw [← hparts, List.intercalate_splitOn]
      have hrest : '-' :: rest = dashed p.parts := by
        rw [← hjoined, Spelling.parts, intercalate_eq_dashed]
        rfl
      have hcs : text.toList = p.chars := by rw [htext, chars_eq_dashed, hrest]
      exact ⟨p, n, ⟨hcs, hletter, hrevision, hlt, hwrites⟩, hsid⟩
    · cases hchars
  · cases hchars

/-- A text that spells a SID is read as that one. -/
theorem parse_of_spells (h : p.Spells n text) : parse text = .ok (p.sid n.rid) := by
  have hcons : dashed p.parts = '-' :: (dashed p.parts).tail := rfl
  rw [parse_eq_ok_iff, h.chars, chars_eq_dashed, hcons, ofChars?, if_pos h.letter,
    splitOn_parts h.writes]
  exact (ofParts?_eq_some_iff h.writes.letter).mpr ⟨h.revision, n, h.authority, h.writes, rfl⟩

theorem sid_eq_of_parse (h : p.Spells n text) (hparse : parse text = .ok sid) :
    p.sid n.rid = sid :=
  Except.ok.inj ((parse_of_spells h).symm.trans hparse)

theorem parse_error_of_no_spelling (h : ¬∃ p n, Spelling.Spells p n text) :
    parse text = .error (.badSid text) := by
  cases hparse : ofChars? text.toList with
  | none => rw [parse, hparse]
  | some sid =>
      obtain ⟨p, n, hspells, -⟩ := exists_spells_of_parse (parse_eq_ok_iff.mpr hparse)
      exact absurd ⟨p, n, hspells⟩ h

/-- The text of what is read from a spelling spells the same numbers. -/
theorem spells_text_sid (h : p.Spells n text) :
    (p.normal n.rid).Spells n (p.sid n.rid).text where
  chars := by
    show (String.ofList (p.normal n.rid).base ++ "-" ++ Nat.repr n.rid.toNat).toList
      = (p.normal n.rid).base ++ '-' :: Nat.toDigits 10 n.rid.toNat
    rw [String.toList_append, String.toList_append, String.toList_ofList, Nat.toList_repr,
      List.append_assoc]
    rfl
  letter := .inl rfl
  revision := h.revision
  authority := h.authority
  writes :=
    { h.writes with
      letter := by
        show 'S' ≠ '-'
        decide
      rid := .plain (Numeral.digits_toDigits n.rid.toNat) }

theorem parse_text_of_spells (h : p.Spells n text) :
    parse (p.sid n.rid).text = .ok (p.sid n.rid) := by
  have hsid : (p.normal n.rid).sid n.rid = p.sid n.rid := rfl
  rw [parse_of_spells (spells_text_sid h), hsid]

/--
**Reading accepts the spellings of SIDs and nothing else.**

The rid has the value of the last numeral, and the base is what stands between the first character
and the last dash, behind a capital letter.  Reading again what was printed changes nothing.
-/
theorem parse_grammar (text : String) :
    ((∃ sid, parse text = .ok sid) ↔ ∃ p n, Spelling.Spells p n text) ∧
    (∀ p n sid, Spelling.Spells p n text → parse text = .ok sid →
      sid.rid = n.rid ∧
      ∃ between, text.toList = p.letter :: between ++ '-' :: p.rid ∧ '-' ∉ p.rid ∧
        sid.base = String.ofList ('S' :: between)) ∧
    (∀ sid, parse text = .ok sid → parse sid.text = .ok sid) ∧
    ((¬∃ p n, Spelling.Spells p n text) → parse text = .error (.badSid text)) := by
  refine ⟨⟨?_, ?_⟩, ?_, ?_, parse_error_of_no_spelling⟩
  · intro ⟨sid, hparse⟩
    obtain ⟨p, n, hspells, -⟩ := exists_spells_of_parse hparse
    exact ⟨p, n, hspells⟩
  · intro ⟨p, n, hspells⟩
    exact ⟨p.sid n.rid, parse_of_spells hspells⟩
  · intro p n sid hspells hparse
    obtain rfl := sid_eq_of_parse hspells hparse
    exact ⟨rfl, dashed (p.revision :: p.authority :: p.subs), hspells.chars,
      not_mem_of_writes hspells.writes.rid, rfl⟩
  · intro sid hparse
    obtain ⟨p, n, hspells, rfl⟩ := exists_spells_of_parse hparse
    exact parse_text_of_spells hspells

/-- Signs and zeros stay in the base, and the rid loses them. -/
example : parse "s-1-+5-007-+0018" = .ok { base := "S-1-+5-007", rid := 18 } := by
  decide +kernel

end IdentityMap.Sid
