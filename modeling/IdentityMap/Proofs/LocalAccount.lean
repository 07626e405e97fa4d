/-
SIDs of this host.

A rid is a number moved by the base of its kind.  Each kind has room for so many numbers that
the rids of users and of groups take about half of the range each and no sum wraps, so that a
rid is read as the number that it was made of.

All numbers with room lie below 2^31.  So a local account never has a minted id, and a SID that
is not one of the host's own is never the answer for a local account, nor answered with one.
-/
import IdentityMap.Mapping.IdToSid
import IdentityMap.Proofs.Cache.Rows

namespace IdentityMap

/-- The SID is one that stands for an account of this host. -/
def Settings.IsOwn (settings : Settings) (sid : Sid) : Prop :=
  settings.machine?.any sid.hasBase = true ∧ LocalAccount.uidBase ≤ sid.rid

/-- Only the machine SID matters. -/
theorem Settings.isOwn_congr {settings settings' : Settings} {sid : Sid}
    (h : settings.machineSid = settings'.machineSid) :
    settings.IsOwn sid ↔ settings'.IsOwn sid := by
  simp only [IsOwn, machine?, h]

namespace LocalAccount

variable {settings : Settings} {machine : String} {sid : Sid} {id : UnixId} {wanted : Wanted}

/-! ### Numbers and rids -/

/-- The rid of number 0. -/
def base : IdKind → UInt32
  | .uid => uidBase
  | .gid => gidBase

/-- How many numbers of a kind have a rid. -/
def room : IdKind → Nat
  | .uid => 0x80000000 - 1000
  | .gid => 0x80000000

theorem encode_of_lt (h : id.number.toNat < room id.kind) :
    encode machine id = .ok { base := machine, rid := id.number + base id.kind } := by
  obtain ⟨kind, number⟩ := id
  cases kind with
  | uid => exact if_pos (UInt32.lt_iff_toNat_lt.mpr h)
  | gid => exact if_pos (UInt32.lt_iff_toNat_lt.mpr h)

theorem encode_of_le (h : room id.kind ≤ id.number.toNat) :
    encode machine id = .error .denied := by
  obtain ⟨kind, number⟩ := id
  have hnot : ¬number.toNat < room kind := Nat.not_lt.mpr h
  cases kind with
  | uid => exact if_neg fun hlt => hnot (UInt32.lt_iff_toNat_lt.mp hlt)
  | gid => exact if_neg fun hlt => hnot (UInt32.lt_iff_toNat_lt.mp hlt)

/-- There is a SID for the numbers that have room. -/
theorem encode_ok_iff :
    encode machine id = .ok sid ↔
      id.number.toNat < room id.kind ∧
        sid = { base := machine, rid := id.number + base id.kind } := by
  by_cases hroom : id.number.toNat < room id.kind
  · rw [encode_of_lt hroom, Except.ok.injEq]
    exact ⟨fun h => ⟨hroom, h.symm⟩, fun ⟨_, h⟩ => h.symm⟩
  · rw [encode_of_le (Nat.not_lt.mp hroom)]
    constructor
    · intro h
      cases h
    · intro ⟨h, _⟩
      exact absurd h hroom

/-- No rid wraps. -/
theorem toNat_rid (h : id.number.toNat < room id.kind) :
    (id.number + base id.kind).toNat = id.number.toNat + (base id.kind).toNat := by
  have husers : (base .uid).toNat = 1000 := rfl
  have hgroups : (base .gid).toNat = 0x80000000 := rfl
  obtain ⟨kind, number⟩ := id
  rw [UInt32.toNat_add]
  cases kind with
  | uid =>
      simp only [room, husers] at h ⊢
      omega
  | gid =>
      simp only [room, hgroups] at h ⊢
      omega

/-- The rid of an account is read as that account. -/
theorem ofRid?_rid (h : id.number.toNat < room id.kind) :
    ofRid? (id.number + base id.kind) = some id := by
  have husers : uidBase.toNat = 1000 := rfl
  have hgroups : gidBase.toNat = 0x80000000 := rfl
  have hrid := toNat_rid h
  obtain ⟨kind, number⟩ := id
  cases kind with
  | uid =>
      have hroom : number.toNat < 0x80000000 - 1000 := h
      have hsum : (number + uidBase).toNat = number.toNat + uidBase.toNat := hrid
      have hnot : ¬gidBase ≤ number + uidBase := by
        rw [UInt32.le_iff_toNat_le]
        omega
      have hle : uidBase ≤ number + uidBase := by
        rw [UInt32.le_iff_toNat_le]
        omega
      show ofRid? (number + uidBase) = _
      rw [ofRid?, if_neg hnot, if_pos hle, UInt32.add_sub_cancel]
  | gid =>
      have hsum : (number + gidBase).toNat = number.toNat + gidBase.toNat := hrid
      have hle : gidBase ≤ number + gidBase := by
        rw [UInt32.le_iff_toNat_le]
        omega
      show ofRid? (number + gidBase) = _
      rw [ofRid?, if_pos hle, UInt32.add_sub_cancel]

/-- What a rid is read as has room, and that rid. -/
theorem rid_of_ofRid? {rid : UInt32} (h : ofRid? rid = some id) :
    id.number.toNat < room id.kind ∧ rid = id.number + base id.kind := by
  have husers : uidBase.toNat = 1000 := rfl
  have hgroups : gidBase.toNat = 0x80000000 := rfl
  have hlt := rid.toNat_lt
  unfold ofRid? at h
  split at h
  · next hle =>
      cases h
      refine ⟨?_, (UInt32.sub_add_cancel rid gidBase).symm⟩
      show (rid - gidBase).toNat < 0x80000000
      rw [UInt32.toNat_sub_of_le _ _ hle]
      omega
  · next hnot =>
      split at h
      · next hle =>
          cases h
          refine ⟨?_, (UInt32.sub_add_cancel rid uidBase).symm⟩
          show (rid - uidBase).toNat < 0x80000000 - 1000
          rw [UInt32.toNat_sub_of_le _ _ hle]
          rw [UInt32.le_iff_toNat_le] at hnot hle
          omega
      · cases h

theorem ofRid?_eq_some_iff {rid : UInt32} :
    ofRid? rid = some id ↔ id.number.toNat < room id.kind ∧ rid = id.number + base id.kind := by
  constructor
  · exact rid_of_ofRid?
  · intro ⟨hroom, hrid⟩
    rw [hrid]
    exact ofRid?_rid hroom

/-- Writing an account as a SID and reading it off the rid are one relation. -/
theorem encode_ok_iff_ofRid? :
    encode machine id = .ok sid ↔ sid.base = machine ∧ ofRid? sid.rid = some id := by
  rw [encode_ok_iff, ofRid?_eq_some_iff]
  obtain ⟨base', rid⟩ := sid
  rw [Sid.mk.injEq]
  exact and_left_comm

/-! ### From rids to numbers -/

theorem isEphemeral_of_ofRid? {rid : UInt32} (h : ofRid? rid = some id) :
    isEphemeral id.number = false := by
  obtain ⟨hroom, -⟩ := rid_of_ofRid? h
  have hle : room id.kind ≤ 0x80000000 := by
    cases id.kind <;> decide
  rw [isEphemeral_eq_false_iff]
  omega

theorem uidBase_le_of_ofRid? {rid : UInt32} (h : ofRid? rid = some id) : uidBase ≤ rid := by
  obtain ⟨hroom, rfl⟩ := rid_of_ofRid? h
  have hle : uidBase.toNat ≤ (base id.kind).toNat := by
    cases id.kind <;> decide
  rw [UInt32.le_iff_toNat_le, toNat_rid hroom]
  omega

/-- Every rid from the first one on is that of an account. -/
theorem exists_ofRid? {rid : UInt32} (h : uidBase ≤ rid) : ∃ id, ofRid? rid = some id := by
  unfold ofRid?
  rw [if_pos h]
  split <;> exact ⟨_, rfl⟩

/-- The account of a decoded SID is the one behind its rid. -/
theorem ofRid?_of_decode (h : decode sid wanted = .ok id) : ofRid? sid.rid = some id := by
  unfold decode at h
  cases hrid : ofRid? sid.rid with
  | none => rw [hrid] at h; cases h
  | some id' =>
      simp only [hrid] at h
      cases hcheck : wanted.check id'.kind "SID requested as unix id" with
      | error failure => rw [hcheck] at h; cases h
      | ok u => rw [hcheck] at h; cases h; rfl

/-- SIDs that are decoded to local accounts are the host's own. -/
theorem isOwn_of_decode (hmachine : settings.machine?.any sid.hasBase = true)
    (h : decode sid wanted = .ok id) : settings.IsOwn sid :=
  ⟨hmachine, uidBase_le_of_ofRid? (ofRid?_of_decode h)⟩

/-- The host's own SIDs are decoded, if any kind of account will do. -/
theorem exists_decode_posix (h : settings.IsOwn sid) : ∃ id, decode sid .posix = .ok id := by
  obtain ⟨id, hid⟩ := exists_ofRid? h.2
  exact ⟨id, by rw [decode, hid]; rfl⟩

/-! ### From numbers to rids -/

/-- There is room for the rid of an account that has a local SID. -/
theorem exists_rid_of_encode (h : encode machine id = .ok sid) :
    sid.base = machine ∧ uidBase ≤ sid.rid := by
  obtain ⟨hbase, hrid⟩ := encode_ok_iff_ofRid?.mp h
  exact ⟨hbase, uidBase_le_of_ofRid? hrid⟩

/-- Local accounts have the host's own SIDs. -/
theorem isOwn_of_localSid (h : IdToSid.localSid settings id = .ok sid) : settings.IsOwn sid := by
  unfold IdToSid.localSid at h
  cases hmachine : settings.machine? with
  | none => rw [hmachine] at h; cases h
  | some machine =>
      simp only [hmachine] at h
      obtain ⟨hbase, hrid⟩ := exists_rid_of_encode h
      refine ⟨?_, hrid⟩
      simp [hmachine, Sid.hasBase, hbase, sameFolded_refl]

end LocalAccount
end IdentityMap
