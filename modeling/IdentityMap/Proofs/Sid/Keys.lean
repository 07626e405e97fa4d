/-
Texts, bytes and keys of one SID.

The tables know a SID by its base and its rid, character for character, and a directory knows it by
its bytes.  The bytes are those of the numbers, and reading keeps a base as it is spelled.  So a SID
has one binary form and as many keys as its base has spellings.

The spelling without signs and zeros to leave out stands out.  It is the key that the directory's
bytes are read as, and hence the only one that comes back from them.
-/
import IdentityMap.Proofs.Sid.Grammar
import IdentityMap.Proofs.Sid.Layout

namespace IdentityMap.Sid

variable {p q : Spelling} {n m : Numbers} {text a b : String} {sid s t : Sid}
  {bytes : List UInt8} {parts : List (List Char)} {subs : List UInt32}

/-! ### Bytes and numbers -/

theorem header?_sid (h : n.Fits) : n.sid.header? = some (n.revision, n.authority, n.subs) := by
  rw [header?_of_writes (toList_base_sid n) (writes_spelling n), if_pos h.authority]

/-- The bytes say what the numbers are. -/
theorem layout_inj (hn : n.Fits) (hm : m.Fits) (h : n.layout = m.layout) : n = m := by
  have hsid : n.sid = m.sid := by
    have hread := ofBytes?_layout hn
    rw [h, ofBytes?_layout hm] at hread
    exact (Option.some.inj hread).symm
  have hheader := header?_sid hn
  rw [hsid, header?_sid hm] at hheader
  have hrid : m.rid = n.rid := congrArg Sid.rid hsid.symm
  obtain ⟨_, _, _, _⟩ := n
  obtain ⟨_, _, _, _⟩ := m
  simp only [Option.some.injEq, Prod.mk.injEq] at hheader
  obtain ⟨rfl, rfl, rfl⟩ := hheader
  obtain rfl := hrid
  rfl

/-- A text is written as the bytes of the numbers that it spells. -/
theorem toBytes_of_spells (h : p.Spells n text) :
    (p.sid n.rid).toBytes =
      if n.authority < 2 ^ 48 ∧ n.words.length ≤ 15 then .ok n.layout
      else .error (.badSid (p.sid n.rid).text) :=
  toBytes_of_writes String.toList_ofList rfl (spells_text_sid h).writes

/-- Bytes are written only of numbers that have room in the layout. -/
theorem room_of_toBytes (h : p.Spells n text) (hbytes : (p.sid n.rid).toBytes = .ok bytes) :
    (n.authority < 2 ^ 48 ∧ n.words.length ≤ 15) ∧ bytes = n.layout := by
  rw [toBytes_of_spells h] at hbytes
  split at hbytes
  · next hroom => exact ⟨hroom, (Except.ok.inj hbytes).symm⟩
  · cases hbytes

theorem fits_of_room (h : n.authority < 2 ^ 48 ∧ n.words.length ≤ 15) : n.Fits where
  authority := h.1
  words := by omega

/-! ### Keys and spellings -/

/-- Two texts are one key just when their numerals up to the rid are the same, and the rid has one
value. -/
theorem sid_eq_iff (hp : p.Spells n a) (hq : q.Spells m b) :
    p.sid n.rid = q.sid m.rid ↔
      n.rid = m.rid ∧ p.authority = q.authority ∧ p.subs = q.subs := by
  constructor
  · intro h
    have hbase : (p.normal n.rid).base = (q.normal m.rid).base :=
      String.ofList_injective (congrArg Sid.base h)
    have hsame := (spells_text_sid hp).writes.base_inj (spells_text_sid hq).writes hbase
    exact ⟨congrArg Sid.rid h, hsame⟩
  · intro ⟨hrid, hauthority, hsubs⟩
    rw [Spelling.sid, Spelling.sid, Spelling.base, Spelling.base, hrid]
    simp only [Spelling.normal, hauthority, hsubs, hp.revision, hq.revision]

theorem forall_isShortest_iff
    (h : List.Forall₂ (fun part (sub : UInt32) => Numeral.Writes part sub.toNat) parts subs) :
    (∀ part ∈ parts, Numeral.IsShortest part) ↔
      parts = subs.map fun sub => Nat.toDigits 10 sub.toNat := by
  induction h with
  | nil => simp
  | cons hsub _ ih =>
      rw [List.forall_mem_cons, ih, hsub.isShortest_iff, List.map_cons, List.cons.injEq]

theorem isPlain_iff (h : p.Writes n) :
    p.IsPlain ↔ p.authority = n.spelling.authority ∧ p.subs = n.spelling.subs := by
  show _ ↔ p.authority = Nat.toDigits 10 n.authority ∧
    p.subs = n.subs.map fun sub => Nat.toDigits 10 sub.toNat
  rw [← h.authority.isShortest_iff, ← forall_isShortest_iff h.subs]
  constructor
  · intro hplain
    exact ⟨hplain.authority, hplain.subs⟩
  · intro ⟨hauthority, hsubs⟩
    exact ⟨hauthority, hsubs⟩

theorem sid_spelling (n : Numbers) : n.spelling.sid n.rid = n.sid := by
  have hbase : String.ofList n.spelling.base = n.sid.base := by
    rw [← toList_base_sid, String.ofList_toList]
  show ({ base := String.ofList n.spelling.base, rid := n.rid } : Sid) = n.sid
  rw [hbase]
  rfl

/-- The shortest spelling of numbers that have some spelling. -/
theorem spells_spelling (h : p.Spells n text) :
    n.spelling.Spells n (String.ofList n.spelling.chars) where
  chars := String.toList_ofList
  letter := .inl rfl
  revision := by
    have hrevision : n.revision.toNat = 1 :=
      (h.revision ▸ h.writes.revision).unique writes_one
    show Nat.toDigits 10 n.revision.toNat = ['1']
    rw [hrevision]
    rfl
  authority := h.authority
  writes := writes_spelling n

/-- What is read from a spelling is the directory's key just when the spelling is plain. -/
theorem sid_eq_iff_isPlain (h : p.Spells n text) : p.sid n.rid = n.sid ↔ p.IsPlain := by
  rw [← sid_spelling, sid_eq_iff h (spells_spelling h), isPlain_iff h.writes]
  exact and_iff_right rfl

/-! ### Plain texts -/

/-- `text` is read as `sid`, and the numerals of its base have no sign and no zero to leave out.
The rid may be written in any way, because its numeral is not kept. -/
structure PlainlyRead (text : String) (sid : Sid) (n : Numbers) : Prop where
  parses : parse text = .ok sid
  spelled : ∃ p, Spelling.Spells p n text ∧ p.IsPlain

/-- Of plain texts, the directory's keys are read. -/
theorem PlainlyRead.eq_sid (h : PlainlyRead text sid n) : sid = n.sid := by
  obtain ⟨p, hspells, hplain⟩ := h.spelled
  rw [← sid_eq_of_parse hspells h.parses, sid_eq_iff_isPlain hspells]
  exact hplain

theorem PlainlyRead.ofBytes_of_toBytes (h : PlainlyRead text sid n)
    (hbytes : sid.toBytes = .ok bytes) :
    (n.authority < 2 ^ 48 ∧ n.words.length ≤ 15) ∧ bytes = n.layout ∧ ofBytes bytes = .ok sid := by
  obtain ⟨p, hspells, -⟩ := h.spelled
  have hwritten := hbytes
  rw [← sid_eq_of_parse hspells h.parses] at hwritten
  obtain ⟨hroom, hlayout⟩ := room_of_toBytes hspells hwritten
  exact ⟨hroom, hlayout, ofBytes_eq_ok_iff.mpr ⟨n, fits_of_room hroom, hlayout, h.eq_sid⟩⟩

theorem PlainlyRead.toBytes_of_room (h : PlainlyRead text sid n)
    (hroom : n.authority < 2 ^ 48 ∧ n.words.length ≤ 15) : sid.toBytes = .ok n.layout := by
  obtain ⟨p, hspells, -⟩ := h.spelled
  rw [← sid_eq_of_parse hspells h.parses, toBytes_of_spells hspells, if_pos hroom]

/--
**A plain text comes back from its bytes.**

What it is read as has bytes just when the authority fits six of them and there are at most fifteen
sub-authorities.  The bytes are read as the same SID, so no other plain SID has them.
-/
theorem plain_text_round_trip (h : PlainlyRead text sid n) :
    ((∃ bytes, sid.toBytes = .ok bytes) ↔ n.authority < 2 ^ 48 ∧ n.words.length ≤ 15) ∧
    (∀ bytes, sid.toBytes = .ok bytes →
      bytes.length = 8 + 4 * n.words.length ∧ ofBytes bytes = .ok sid) ∧
    (∀ text' other m bytes, PlainlyRead text' other m → sid.toBytes = .ok bytes →
      other.toBytes = .ok bytes → other = sid) := by
  refine ⟨⟨?_, ?_⟩, ?_, ?_⟩
  · intro ⟨_, hbytes⟩
    exact (h.ofBytes_of_toBytes hbytes).1
  · intro hroom
    exact ⟨n.layout, h.toBytes_of_room hroom⟩
  · intro bytes hbytes
    obtain ⟨-, hlayout, hread⟩ := h.ofBytes_of_toBytes hbytes
    exact ⟨by rw [hlayout, length_layout], hread⟩
  · intro text' other m bytes hother hbytes hbytes'
    obtain ⟨-, -, hread⟩ := h.ofBytes_of_toBytes hbytes
    obtain ⟨-, -, hread'⟩ := hother.ofBytes_of_toBytes hbytes'
    exact Except.ok.inj (hread'.symm.trans hread)

/-- The largest authority that has room in the layout, and a rid with a zero to leave out. -/
theorem plain_text_round_trip_largest_authority :
    let sid : Sid := { base := "S-1-281474976710655-4294967295-0", rid := 7 }
    let n : Numbers :=
      { revision := 1, authority := 281474976710655, subs := [4294967295, 0], rid := 7 }
    PlainlyRead "s-1-281474976710655-4294967295-0-07" sid n ∧
      ∃ bytes, sid.toBytes = .ok bytes ∧ bytes.length = 20 ∧ ofBytes bytes = .ok sid := by
  intro sid n
  let p : Spelling := { n.spelling with letter := 's', rid := ['0', '7'] }
  have hrid : Numeral.Writes ['0', '7'] (7 : UInt32).toNat :=
    Numeral.word32?_eq_some_iff.mp (by decide)
  have hwrites : p.Writes n := { writes_spelling n with letter := by decide, rid := hrid }
  have hspells : p.Spells n "s-1-281474976710655-4294967295-0-07" :=
    { chars := by decide +kernel, letter := .inr rfl, revision := by decide, authority := by decide,
      writes := hwrites }
  have hplain : PlainlyRead "s-1-281474976710655-4294967295-0-07" sid n :=
    ⟨by decide +kernel, p, hspells, (isPlain_iff hwrites).mpr ⟨rfl, rfl⟩⟩
  obtain ⟨hroom, hread, -⟩ := plain_text_round_trip hplain
  obtain ⟨bytes, hbytes⟩ := hroom.mpr (by decide)
  exact ⟨hplain, bytes, hbytes, hread bytes hbytes⟩

/-! ### Texts with one binary form -/

/--
**Texts of one binary SID are one key just when they spell its base alike.**

They spell the same numbers.  The numerals of the base may still be different ones, and then the
tables take the texts for two SIDs, of which at most one is what the directory's bytes are read as:
the one whose numerals have no sign and no zero to leave out.
-/
theorem same_bytes_one_key_iff (ha : parse a = .ok s) (hb : parse b = .ok t)
    (hs : s.toBytes = .ok bytes) (ht : t.toBytes = .ok bytes) :
    ∃ p q n, Spelling.Spells p n a ∧ Spelling.Spells q n b ∧
      (s = t ↔ p.authority = q.authority ∧ p.subs = q.subs) ∧
      ∃ r, ofBytes bytes = .ok r ∧ (s = r ↔ p.IsPlain) ∧ (t = r ↔ q.IsPlain) := by
  obtain ⟨p, n, hp, rfl⟩ := exists_spells_of_parse ha
  obtain ⟨q, m, hq, rfl⟩ := exists_spells_of_parse hb
  obtain ⟨hn, hlayout⟩ := room_of_toBytes hp hs
  obtain ⟨hm, hlayout'⟩ := room_of_toBytes hq ht
  have hfits := fits_of_room hn
  obtain rfl : n = m := layout_inj hfits (fits_of_room hm) (hlayout.symm.trans hlayout')
  refine ⟨p, q, n, hp, hq, ?_, n.sid, ?_, sid_eq_iff_isPlain hp, sid_eq_iff_isPlain hq⟩
  · rw [sid_eq_iff hp hq]
    exact and_iff_right rfl
  · exact ofBytes_eq_ok_iff.mpr ⟨n, hfits, hlayout, rfl⟩

/-- The letter and the rid may differ in one key.  The zero in its base keeps it apart from the
directory's key. -/
theorem same_bytes_one_key_iff_021 :
    let key : Sid := { base := "S-1-5-021-7", rid := 1104 }
    let bytes := [1, 3, 0, 0, 0, 0, 0, 5, 21, 0, 0, 0, 7, 0, 0, 0, 80, 4, 0, 0]
    parse "s-1-5-021-7-01104" = .ok key ∧ parse "S-1-5-021-7-+1104" = .ok key ∧
      key.toBytes = .ok bytes ∧
      ∃ p q n, Spelling.Spells p n "s-1-5-021-7-01104" ∧ Spelling.Spells q n "S-1-5-021-7-+1104" ∧
        (p.authority = q.authority ∧ p.subs = q.subs) ∧ ¬p.IsPlain := by
  intro key bytes
  have ha : parse "s-1-5-021-7-01104" = .ok key := by decide +kernel
  have hb : parse "S-1-5-021-7-+1104" = .ok key := by decide +kernel
  have hbytes : key.toBytes = .ok bytes := by decide +kernel
  have hread : ofBytes bytes = .ok { base := "S-1-5-21-7", rid := 1104 } := by decide +kernel
  obtain ⟨p, q, n, hp, hq, hsame, r, hr, hplain, -⟩ :=
    same_bytes_one_key_iff ha hb hbytes hbytes
  refine ⟨ha, hb, hbytes, p, q, n, hp, hq, hsame.mp rfl, fun h => ?_⟩
  obtain rfl : { base := "S-1-5-21-7", rid := 1104 } = r := Except.ok.inj (hread.symm.trans hr)
  exact absurd (hplain.mpr h) (by decide +kernel)

/-- The same binary SID twice, once with a zero to leave out. -/
theorem same_bytes_two_keys :
    let s : Sid := { base := "S-1-5-021-7", rid := 1104 }
    let t : Sid := { base := "S-1-5-21-7", rid := 1104 }
    let bytes := [1, 3, 0, 0, 0, 0, 0, 5, 21, 0, 0, 0, 7, 0, 0, 0, 80, 4, 0, 0]
    parse "S-1-5-021-7-1104" = .ok s ∧ parse "S-1-5-21-7-1104" = .ok t ∧
      s.toBytes = .ok bytes ∧ t.toBytes = .ok bytes ∧ s ≠ t := by
  decide +kernel

end IdentityMap.Sid
