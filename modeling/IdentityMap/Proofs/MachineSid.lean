/-
The machine SID as it is configured, and SIDs as they are read.

A local account has a SID that is the machine SID with a number behind it.  So the text of the SID
begins with the machine SID as it is spelled.  The checks of a configuration let every text through
that can be read as a SID, and they leave it as it is.

Reading makes the letter a capital one and keeps all else of a base.  So a machine SID with a small
letter is one that no SID has that was read, and what is cached for a local account then stands
under a key that no caller comes back with.
-/
import IdentityMap.Config.Loading
import IdentityMap.Proofs.Cache.Overwriting
import IdentityMap.Proofs.HostAccounts
import IdentityMap.Proofs.Sid.Grammar

namespace IdentityMap

variable {δ α : Type} {c : Config} {machine : String} {sid read : Sid} {id : UnixId}

/-! ### Bases as they are read -/

namespace Sid

/-- The base that is read from a text which a number stands behind. -/
def readBase (text : String) : String :=
  String.ofList ('S' :: text.toList.tail)

/-- The spelling of a SID with another number behind it. -/
def Spelling.append (p : Spelling) (rid : UInt32) : Spelling :=
  { p with subs := p.subs ++ [p.rid], rid := Nat.toDigits 10 rid.toNat }

/-- The numbers of a SID with another one behind them. -/
def Numbers.append (n : Numbers) (rid : UInt32) : Numbers :=
  { n with subs := n.words, rid }

variable {p : Spelling} {n : Numbers} {text : String} {rid : UInt32}

theorem readBase_eq_self_iff : readBase text = text ↔ text.toList.head? = some 'S' := by
  rw [readBase, ← String.toList_inj, String.toList_ofList]
  cases text.toList with
  | nil => simp
  | cons letter rest => simp [eq_comm]

/-- What was the whole text is the base now. -/
theorem base_append (p : Spelling) (rid : UInt32) : (p.append rid).base = p.chars := by
  show p.letter :: dashed ((p.revision :: p.authority :: p.subs) ++ [p.rid])
    = p.letter :: dashed (p.revision :: p.authority :: p.subs) ++ '-' :: p.rid
  rw [dashed_concat, List.cons_append]

theorem spells_append (h : p.Spells n text) :
    (p.append rid).Spells (n.append rid) ({ base := text, rid } : Sid).text where
  chars := by
    show (text ++ "-" ++ Nat.repr rid.toNat).toList
      = (p.append rid).base ++ '-' :: Nat.toDigits 10 rid.toNat
    rw [base_append, String.toList_append, String.toList_append, h.chars, Nat.toList_repr,
      List.append_assoc]
    rfl
  letter := h.letter
  revision := h.revision
  authority := h.authority
  writes :=
    { h.writes with
      subs := List.rel_append h.writes.subs (.cons h.writes.rid .nil)
      rid := .plain (Numeral.digits_toDigits rid.toNat) }

theorem base_sid_append (h : p.Spells n text) :
    ((p.append rid).sid rid).base = readBase text := by
  have htail : text.toList.tail = (p.append rid).base.tail := by
    rw [h.chars, base_append]
  rw [readBase, htail]
  rfl

/-- A text that is a SID can be the base of another one, and only its letter may change. -/
theorem parse_text_of_base (h : parse text = .ok read) (rid : UInt32) :
    parse ({ base := text, rid } : Sid).text = .ok { base := readBase text, rid } := by
  obtain ⟨p, n, hspells, -⟩ := exists_spells_of_parse h
  rw [parse_of_spells (spells_append hspells), ← base_sid_append hspells]
  rfl

end Sid

/-! ### What is checked -/

/-- A machine SID that is let through can be read as a SID. -/
theorem Config.exists_parse_of_validate (hvalid : c.validate = .ok ())
    (hmachine : c.mapping.machineSid = some machine) : ∃ read, Sid.parse machine = .ok read := by
  cases hparse : Sid.parse machine with
  | ok read => exact ⟨read, rfl⟩
  | error e =>
      unfold validate at hvalid
      simp only [hmachine, Option.map_some, hparse] at hvalid
      cases hvalid

theorem Settings.machine?_of_validate (hvalid : c.validate = .ok ())
    (hmachine : c.mapping.machineSid = some machine) : c.mapping.machine? = some machine := by
  obtain ⟨read, hparse⟩ := c.exists_parse_of_validate hvalid hmachine
  have hne : machine ≠ "" := by
    rintro rfl
    cases hparse
  rw [machine?, hmachine]
  simp [hne]

/-! ### What is cached -/

/-- The mapping that is written for an account that was answered with its local SID. -/
def LocalAccount.named (sid : Sid) (id : UnixId) (unixName : Option String) : IdMapping :=
  { LocalAccount.mapping sid id with unixName }

theorem IdToSid.record_localItem {request : Request} (hid : request.id = .unix id)
    (settings : Settings) (names : NameService) (now : Int) (cache : Cache) :
    record settings names now request (localItem sid) cache
      = cache.putId (LocalAccount.named sid id (recordedName names request id)) := by
  simp only [record, localItem, hid]
  rfl

/-- A mapping that never expires is found by its own SID and no other. -/
theorem idRow?_putId_named_iff {cache : Cache} (h : cache.Keyed) {unixName : Option String}
    {now : Int} (hnow : now < Expiry.noExpiry) :
    (cache.putId (LocalAccount.named sid id unixName)).idRow? read now
      = some (LocalAccount.named sid id unixName).row ↔ read = sid := by
  have hlive : isLive (some (LocalAccount.named sid id unixName).expiry.column) now = true := by
    show (Expiry.noExpiry == 0 || decide (now < Expiry.noExpiry)) = true
    rw [decide_eq_true hnow, Bool.or_true]
  rw [(h.putId _).idRow?_eq_some_iff, IdMapping.answersSid_row_iff]
  constructor
  · rintro ⟨-, -, hread, -⟩
    exact hread
  · rintro rfl
    refine ⟨(Cache.wrote_putId cache _).written, rfl, rfl, ?_⟩
    rw [IdMapping.isUsable, hlive, Bool.or_true]

/--
**The SID of a local account is read back as it is, if the machine SID begins with a capital
letter.**

Whatever machine SID the checks let through, the text of every local SID can be read.  What is read
has the number of the SID and the base of the machine SID with a capital letter.  So it is the SID
itself if and only if the machine SID has this letter.

The same goes for the cache.  When an account is answered with its local SID, the mapping between
the two is written, and it never expires.  The SID that is read from the answer's text finds this
mapping if and only if the machine SID begins with a capital letter.
-/
theorem local_sid_read_back_iff (hvalid : c.validate = .ok ())
    (hmachine : c.mapping.machineSid = some machine) :
    (∀ id sid, LocalAccount.encode machine id = .ok sid →
      Sid.parse sid.text = .ok { sid with base := Sid.readBase machine } ∧
      (Sid.parse sid.text = .ok sid ↔ machine.toList.head? = some 'S')) ∧
    ∀ (e : Engine δ α) (s : EngineState δ α) (now later : Int) (request : Request) (sid : Sid),
      e.settings = c.mapping → s.Reachable → later < Expiry.noExpiry →
      (IdToSid.resolve e s.cache s.rules now request s.directory).1 = IdToSid.localItem sid →
      ∃ id read, request.id = .unix id ∧ LocalAccount.encode machine id = .ok sid ∧
        (e.mapId now request s).1.id = some (.sid sid) ∧ Sid.parse sid.text = .ok read ∧
        ((e.mapId now request s).2.cache.idRow? read later = some
            (LocalAccount.named sid id (IdToSid.recordedName e.names request id)).row ↔
          machine.toList.head? = some 'S') := by
  obtain ⟨read, hparse⟩ := c.exists_parse_of_validate hvalid hmachine
  have htext : ∀ {id sid}, LocalAccount.encode machine id = .ok sid →
      Sid.parse sid.text = .ok { sid with base := Sid.readBase machine } := by
    intro id sid hsid
    obtain ⟨rfl, -⟩ := LocalAccount.exists_rid_of_encode hsid
    exact Sid.parse_text_of_base hparse sid.rid
  have hself : ∀ {id sid}, LocalAccount.encode machine id = .ok sid →
      ({ sid with base := Sid.readBase machine } = sid ↔ machine.toList.head? = some 'S') := by
    intro id sid hsid
    obtain ⟨rfl, -⟩ := LocalAccount.exists_rid_of_encode hsid
    rw [← Sid.readBase_eq_self_iff]
    exact ⟨congrArg Sid.base, fun h => by rw [h]⟩
  constructor
  · intro id sid hsid
    refine ⟨htext hsid, ?_⟩
    rw [htext hsid, Except.ok.injEq]
    exact hself hsid
  · intro e s now later request sid hsettings hs hlater hitem
    have hmachine' : e.settings.machine? = some machine := by
      rw [hsettings]
      exact Settings.machine?_of_validate hvalid hmachine
    obtain ⟨id, hid, hsid⟩ := IdToSid.encode_of_localItem hmachine' hitem
    refine ⟨id, _, hid, hsid, ?_, htext hsid, ?_⟩
    · show (IdToSid.resolve e s.cache s.rules now request s.directory).1.answer.id = _
      rw [hitem]
      rfl
    · show (IdToSid.record e.settings e.names now request
          (IdToSid.resolve e s.cache s.rules now request s.directory).1 s.cache).idRow? _ later
        = _ ↔ _
      rw [hitem, IdToSid.record_localItem hid, idRow?_putId_named_iff hs.keyed hlater]
      exact hself hsid

/-- Under a machine SID with a capital letter, the SID of uid 1001 is read back as it is and finds
what was written for it. -/
theorem local_sid_read_back_iff_1001 :
    let c : Config := { mapping := { machineSid := some "S-1-5-21-7" } }
    let e : Engine Unit SequentialIds := { Engine.bare with settings := c.mapping }
    let s : EngineState Unit SequentialIds := .fresh {} () .aboveReserved
    let account : UnixId := { kind := .uid, number := 1001 }
    let sid : Sid := { base := "S-1-5-21-7", rid := 2001 }
    Sid.parse sid.text = .ok sid ∧
      (e.mapId 0 (sidRequest account) s).2.cache.idRow? sid 1
        = some (LocalAccount.mapping sid account).row := by
  intro c e s account sid
  obtain ⟨hread, hfinds⟩ := local_sid_read_back_iff (δ := Unit) (α := SequentialIds)
    (c := c) rfl rfl
  have hparse := (hread account sid rfl).2.mpr (by decide +kernel)
  obtain ⟨id, read, hid, -, -, hparse', hfound⟩ := hfinds e s 0 1 (sidRequest account) sid rfl
    (.start {} () _) (by decide) (by decide +kernel)
  cases hid
  obtain rfl : sid = read := Except.ok.inj (hparse.symm.trans hparse')
  exact ⟨hparse, hfound.mpr (by decide +kernel)⟩

/-- Under a machine SID with a small letter, the SID that is read from the text of the answer finds
nothing, although the SID of the answer does. -/
theorem local_sid_with_small_letter :
    let c : Config := { mapping := { machineSid := some "s-1-5-21-7" } }
    let e : Engine Unit SequentialIds := { Engine.bare with settings := c.mapping }
    let account : UnixId := { kind := .uid, number := 1001 }
    let sid : Sid := { base := "s-1-5-21-7", rid := 2001 }
    let read : Sid := { base := "S-1-5-21-7", rid := 2001 }
    let cache := (e.mapId 0 (sidRequest account) (.fresh {} () .aboveReserved)).2.cache
    c.validate = .ok () ∧ LocalAccount.encode "s-1-5-21-7" account = .ok sid ∧
      Sid.parse sid.text = .ok read ∧ sid ≠ read ∧
      cache.idOf sid .uid 1
        = .ok { id := account, direction := .both, unixName := none, expired := false } ∧
      cache.idOf read .uid 1 = .error .notFound := by
  refine ⟨rfl, rfl, ?_⟩
  decide +kernel

end IdentityMap
