/-
Binary SIDs and the numbers in them.

The layout gives a number of bytes to each number, so it can be read back, and only from itself.
Reading takes every layout, up to the 255 sub-authorities that its count can say.  Writing stops at
fifteen.  So what is read is written again as it was just when it has no more than fifteen.
-/
import IdentityMap.Proofs.Sid.Spelling

namespace IdentityMap.Sid

/-! ### Bytes of one number -/

variable {width value : Nat} {bytes : List UInt8}

theorem length_littleEndian (width value : Nat) : (littleEndian width value).length = width := by
  induction width generalizing value with
  | zero => rfl
  | succ width ih => rw [littleEndian, List.length_cons, ih]

theorem ofLittleEndian_littleEndian (h : value < 256 ^ width) :
    ofLittleEndian (littleEndian width value) = value := by
  induction width generalizing value with
  | zero =>
      rw [Nat.pow_zero] at h
      rw [littleEndian, ofLittleEndian]
      omega
  | succ width ih =>
      have hlow : (UInt8.ofNat (value % 256)).toNat = value % 256 :=
        UInt8.toNat_ofNat_of_lt' (Nat.mod_lt value (by decide))
      have hhigh : value / 256 < 256 ^ width := by
        rw [Nat.pow_succ] at h
        exact Nat.div_lt_of_lt_mul (by omega)
      rw [littleEndian, ofLittleEndian, hlow, ih hhigh]
      omega

theorem ofLittleEndian_lt (bytes : List UInt8) : ofLittleEndian bytes < 256 ^ bytes.length := by
  induction bytes with
  | nil => decide
  | cons b rest ih =>
      have hb : b.toNat < 256 := b.toNat_lt
      rw [ofLittleEndian, List.length_cons, Nat.pow_succ]
      omega

theorem littleEndian_ofLittleEndian (bytes : List UInt8) :
    littleEndian bytes.length (ofLittleEndian bytes) = bytes := by
  induction bytes with
  | nil => rfl
  | cons b rest ih =>
      have hb : b.toNat < 256 := b.toNat_lt
      have hlow : (b.toNat + 256 * ofLittleEndian rest) % 256 = b.toNat := by omega
      have hhigh : (b.toNat + 256 * ofLittleEndian rest) / 256 = ofLittleEndian rest := by omega
      rw [List.length_cons, ofLittleEndian, littleEndian, hlow, hhigh, ih, UInt8.ofNat_toNat]

/-! ### Bytes of words -/

/-- Words one after another, four bytes for each. -/
def bytesOfWords (words : List UInt32) : List UInt8 :=
  words.flatMap fun word => littleEndian 4 word.toNat

theorem length_bytesOfWords (words : List UInt32) :
    (bytesOfWords words).length = 4 * words.length := by
  induction words with
  | nil => rfl
  | cons word words ih =>
      show (littleEndian 4 word.toNat ++ bytesOfWords words).length = 4 * (words.length + 1)
      rw [List.length_append, length_littleEndian, ih]
      omega

theorem wordsOfBytes_bytesOfWords (words : List UInt32) :
    wordsOfBytes (bytesOfWords words) = words := by
  induction words with
  | nil => rfl
  | cons word words ih =>
      have hword : word.toNat < 256 ^ 4 := by
        have := word.toNat_lt
        omega
      show UInt32.ofNat (ofLittleEndian (littleEndian 4 word.toNat))
        :: wordsOfBytes (bytesOfWords words) = word :: words
      rw [ofLittleEndian_littleEndian hword, ih, UInt32.ofNat_toNat]

/-- Bytes that fill whole words are the bytes of these words. -/
theorem bytesOfWords_wordsOfBytes {count : Nat} (h : bytes.length = 4 * count) :
    bytesOfWords (wordsOfBytes bytes) = bytes := by
  induction count generalizing bytes with
  | zero =>
      rw [List.eq_nil_of_length_eq_zero h]
      rfl
  | succ count ih =>
      match bytes, h with
      | a :: b :: c :: d :: rest, h =>
          have hrest : rest.length = 4 * count := by
            simp only [List.length_cons] at h
            omega
          have hlt : ofLittleEndian [a, b, c, d] < 256 ^ 4 := ofLittleEndian_lt [a, b, c, d]
          have hword : (UInt32.ofNat (ofLittleEndian [a, b, c, d])).toNat
              = ofLittleEndian [a, b, c, d] := UInt32.toNat_ofNat_of_lt' hlt
          show littleEndian 4 (UInt32.ofNat (ofLittleEndian [a, b, c, d])).toNat
            ++ bytesOfWords (wordsOfBytes rest) = a :: b :: c :: d :: rest
          rw [ih hrest, hword]
          exact congrArg (· ++ rest) (littleEndian_ofLittleEndian [a, b, c, d])

/-! ### The layout -/

/-- The bytes of a SID with these numbers. -/
def Numbers.layout (n : Numbers) : List UInt8 :=
  n.revision :: UInt8.ofNat n.words.length ::
    ((littleEndian 6 n.authority).reverse ++ bytesOfWords n.words)

variable {n m : Numbers} {sid : Sid} {p : Spelling}

theorem length_layout (n : Numbers) : n.layout.length = 8 + 4 * n.words.length := by
  rw [Numbers.layout, List.length_cons, List.length_cons, List.length_append, List.length_reverse,
    length_littleEndian, length_bytesOfWords]
  omega

/-- The numbers fit the bytes that the layout has for them. -/
structure Numbers.Fits (n : Numbers) : Prop where
  authority : n.authority < 2 ^ 48
  words : n.words.length < 256

/-- Where the length agrees with the count, the last word is the rid, and all others go to the
base. -/
theorem ofBytes?_cons {revision count : UInt8} {rest : List UInt8}
    (h : rest.length = 6 + 4 * count.toNat) :
    ofBytes? (revision :: count :: rest) =
      (wordsOfBytes (rest.drop 6)).getLast?.map fun rid =>
        { base := baseOf revision (ofLittleEndian (rest.take 6).reverse)
            (wordsOfBytes (rest.drop 6)).dropLast, rid } := by
  rw [ofBytes?, if_pos h]

/-- A layout is read as the SID with its numbers. -/
theorem ofBytes?_layout (h : n.Fits) : ofBytes? n.layout = some n.sid := by
  have hcount : (UInt8.ofNat n.words.length).toNat = n.words.length :=
    UInt8.toNat_ofNat_of_lt' h.words
  have hauthority : (littleEndian 6 n.authority).reverse.length = 6 := by
    rw [List.length_reverse, length_littleEndian]
  have hvalue : ofLittleEndian (littleEndian 6 n.authority) = n.authority :=
    ofLittleEndian_littleEndian h.authority
  rw [Numbers.layout, ofBytes?_cons, List.drop_left' hauthority, List.take_left' hauthority,
    wordsOfBytes_bytesOfWords, List.reverse_reverse, hvalue, Numbers.words, List.getLast?_concat,
    List.dropLast_concat]
  · rfl
  · rw [List.length_append, hauthority, length_bytesOfWords, hcount]

/-- What is read as a SID is a layout. -/
theorem exists_layout_of_ofBytes? (h : ofBytes? bytes = some sid) :
    ∃ n : Numbers, n.Fits ∧ bytes = n.layout ∧ sid = n.sid := by
  match bytes, h with
  | revision :: count :: rest, h =>
      by_cases hlength : rest.length = 6 + 4 * count.toNat
      · rw [ofBytes?_cons hlength] at h
        obtain ⟨rid, hrid, hsid⟩ := Option.map_eq_some_iff.mp h
        obtain ⟨subs, hwords⟩ := List.getLast?_eq_some_iff.mp hrid
        have hrest : (rest.drop 6).length = 4 * count.toNat := by
          rw [List.length_drop]
          omega
        have hhead : (rest.take 6).reverse.length = 6 := by
          rw [List.length_reverse, List.length_take]
          omega
        have hbytes := bytesOfWords_wordsOfBytes hrest
        have hcount : (subs ++ [rid]).length = count.toNat := by
          have hlength := length_bytesOfWords (wordsOfBytes (rest.drop 6))
          rw [hbytes, hrest, hwords] at hlength
          omega
        refine ⟨{ revision, authority := ofLittleEndian (rest.take 6).reverse, subs, rid },
          ⟨?_, ?_⟩, ?_, ?_⟩
        · have hlt := ofLittleEndian_lt (rest.take 6).reverse
          rw [hhead] at hlt
          exact hlt
        · show (subs ++ [rid]).length < 256
          rw [hcount]
          exact count.toNat_lt
        · have hauthority := littleEndian_ofLittleEndian (rest.take 6).reverse
          rw [hhead] at hauthority
          show revision :: count :: rest = revision :: UInt8.ofNat (subs ++ [rid]).length ::
            ((littleEndian 6 (ofLittleEndian (rest.take 6).reverse)).reverse
              ++ bytesOfWords (subs ++ [rid]))
          rw [hauthority, List.reverse_reverse, ← hwords, hbytes, List.take_append_drop, hwords,
            hcount, UInt8.ofNat_toNat]
        · rw [← hsid, hwords, List.dropLast_concat]
          rfl
      · rw [ofBytes?, if_neg hlength] at h
        cases h

/-- **Of all bytes, the layouts are read, and each as the SID with its numbers.** -/
theorem ofBytes_eq_ok_iff :
    ofBytes bytes = .ok sid ↔ ∃ n : Numbers, n.Fits ∧ bytes = n.layout ∧ sid = n.sid := by
  constructor
  · intro h
    rw [ofBytes] at h
    split at h
    · next heq =>
      obtain rfl := Except.ok.inj h
      exact exists_layout_of_ofBytes? heq
    · cases h
  · rintro ⟨n, hfits, rfl, rfl⟩
    rw [ofBytes, ofBytes?_layout hfits]

/-! ### Writing -/

theorem bytes?_of_header? (h : sid.header? = some (n.revision, n.authority, n.subs))
    (hrid : sid.rid = n.rid) :
    sid.bytes? = if n.words.length ≤ 15 then some n.layout else none := by
  have hbytes : sid.bytes? = (guard (n.words.length ≤ 15) : Option Unit).bind
      fun _ => some n.layout := by
    rw [bytes?, h, hrid]
    rfl
  rw [hbytes]
  by_cases hlength : n.words.length ≤ 15
  · have hguard : (guard (n.words.length ≤ 15) : Option Unit) = some () := if_pos hlength
    rw [hguard, if_pos hlength, Option.bind_some]
  · have hguard : (guard (n.words.length ≤ 15) : Option Unit) = none := if_neg hlength
    rw [hguard, if_neg hlength, Option.bind_none]

/-- A SID is written in the layout of its numbers, as far as they have one that may be written. -/
theorem toBytes_of_writes (hbase : sid.base.toList = p.base) (hrid : sid.rid = n.rid)
    (h : p.Writes n) :
    sid.toBytes =
      if n.authority < 2 ^ 48 ∧ n.words.length ≤ 15 then .ok n.layout
      else .error (.badSid sid.text) := by
  have hheader := header?_of_writes hbase h
  by_cases hauthority : n.authority < 2 ^ 48
  · rw [if_pos hauthority] at hheader
    rw [toBytes, bytes?_of_header? hheader hrid]
    by_cases hlength : n.words.length ≤ 15
    · rw [if_pos hlength, if_pos ⟨hauthority, hlength⟩]
    · rw [if_neg hlength, if_neg fun h => hlength h.2]
  · rw [if_neg hauthority] at hheader
    rw [toBytes, bytes?, hheader, if_neg fun h => hauthority h.1]
    rfl

/--
**What is read is written again as it was, up to fifteen sub-authorities.**

Sixty-eight bytes have room for these.  Longer layouts are read as well, but the SID that they are
read as is not written.
-/
theorem toBytes_of_ofBytes (h : ofBytes bytes = .ok sid) :
    sid.toBytes =
      if bytes.length ≤ 8 + 4 * 15 then .ok bytes else .error (.badSid sid.text) := by
  obtain ⟨n, hfits, rfl, rfl⟩ := ofBytes_eq_ok_iff.mp h
  rw [toBytes_of_writes (toList_base_sid n) rfl (writes_spelling n), length_layout]
  have hroom : n.authority < 2 ^ 48 ∧ n.words.length ≤ 15 ↔
      8 + 4 * n.words.length ≤ 8 + 4 * 15 := by
    have hauthority := hfits.authority
    omega
  simp only [hroom]

/-- The layout of a SID whose sub-authorities, the rid among them, are all one. -/
def layoutOfOnes (count : UInt8) : List UInt8 :=
  1 :: count :: 0 :: 0 :: 0 :: 0 :: 0 :: 5 :: bytesOfWords (List.replicate count.toNat 1)

/-- A SID with fifteen sub-authorities is read, and written again as it was. -/
theorem toBytes_of_ofBytes_fifteen :
    ∃ sid, ofBytes (layoutOfOnes 15) = .ok sid ∧ sid.toBytes = .ok (layoutOfOnes 15) := by
  have h : ofBytes (layoutOfOnes 15)
      = .ok { base := "S-1-5-1-1-1-1-1-1-1-1-1-1-1-1-1-1", rid := 1 } := by
    decide +kernel
  exact ⟨_, h, (toBytes_of_ofBytes h).trans (by decide +kernel)⟩

/-- One with sixteen is read too, but not written. -/
theorem sixteen_read_not_written :
    let sid : Sid := { base := "S-1-5-1-1-1-1-1-1-1-1-1-1-1-1-1-1-1", rid := 1 }
    ofBytes (layoutOfOnes 16) = .ok sid ∧ sid.toBytes = .error (.badSid sid.text) := by
  decide +kernel

end IdentityMap.Sid
