/-
The names in the cache.

With a fixed directory, a SID only ever stands in the name cache under the names of its
entries.  They may be spelled otherwise, since the cache takes over the name by which the
rules looked the account up.
-/
import IdentityMap.Proofs.Mapping.Batches

namespace IdentityMap

open Directory (Fixed)

/-! ### Names of a SID -/

/-- The SID stands in the name cache under names that its entries have, in some spelling. -/
def Cache.NamesFrom (cache : Cache) (fixed : Fixed) (sid : Sid) : Prop :=
  ∀ row ∈ cache.names, row.isAbout sid = true → ∃ entry ∈ fixed.entries, entry.sid = sid ∧
    ∃ name domain, Fixed.isNamed name domain entry = true ∧
      row.cachedName = .ok { name, domain := some domain, type := entry.type }

theorem cachedName_nameMapping (settings : Settings) (now : Int) (sid : Sid) (name : WindowsName) :
    (nameMapping settings now sid name).row.cachedName
      = .ok { name := name.name, domain := some name.domain, type := name.type } := by
  obtain ⟨name, domain, type⟩ := name
  cases type <;> rfl

theorem eq_of_isAbout_nameMapping {settings : Settings} {now : Int} {sid sid' : Sid}
    {name : WindowsName} (h : (nameMapping settings now sid' name).row.isAbout sid = true) :
    sid' = sid := by
  simp only [NameRow.isAbout, Bool.and_eq_true, beq_iff_eq, NameMapping.row, nameMapping] at h
  cases sid
  cases sid'
  rw [Sid.mk.injEq]
  exact ⟨Option.some.inj h.1, wordColumn_inj h.2⟩

theorem Cache.NamesFrom.nameOf {cache : Cache} {fixed : Fixed} {sid : Sid} {now : Int}
    {hit : CachedName} (h : cache.NamesFrom fixed sid) (hhit : cache.nameOf sid now = .ok hit) :
    ∃ entry ∈ fixed.entries, entry.sid = sid ∧ ∃ name domain,
      Fixed.isNamed name domain entry = true ∧
      hit = { name, domain := some domain, type := entry.type } := by
  unfold Cache.nameOf at hhit
  cases hrow : cache.nameRow? sid now with
  | none => rw [hrow] at hhit; cases hhit
  | some row =>
      simp only [hrow] at hhit
      unfold Cache.nameRow? at hrow
      have hanswers : row.answersSid sid now = true := by simpa using List.find?_some hrow
      rw [NameRow.answersSid, Bool.and_eq_true] at hanswers
      obtain ⟨entry, hentry, hsid, name, domain, hnamed, hname⟩ :=
        h row (List.mem_of_find?_eq_some hrow) hanswers.1
      rw [hname] at hhit
      exact ⟨entry, hentry, hsid, name, domain, hnamed, (Except.ok.inj hhit).symm⟩

/-! ### Where names come from -/

section Trace

variable {α : Type} {e : Engine Fixed.State α} {fixed : Fixed} {before : List Reply}
  {s : EngineState Fixed.State α} {now : Int} {requests : List Request} {request : Request}
  {item : Item} {sid : Sid}

/-- An account from the directory has an entry under the name that was looked up. -/
theorem entry_of_resolveName {cache : Cache} {name domain : String} {d d' : Fixed.State}
    {account : NamedAccount}
    (h : IdToSid.resolveName fixed.client cache now name domain d = (.ok account, d'))
    (hsource : account.source = .directory) :
    ∃ entry ∈ fixed.entries, entry.sid = account.sid ∧ entry.type = account.type ∧
      Fixed.isNamed name domain entry = true := by
  unfold IdToSid.resolveName at h
  split at h
  · obtain ⟨hok, -⟩ := Prod.mk.inj h
    rw [← Except.ok.inj hok] at hsource
    cases hsource
  · split at h
    · obtain ⟨hok, -⟩ := Prod.mk.inj h
      rw [← Except.ok.inj hok] at hsource
      cases hsource
    · obtain ⟨d'', hlookup, -⟩ := Fixed.lookupOne_eq fixed (.ofName name domain) d
      rw [hlookup] at h
      cases hanswer : fixed.answerAt d.outages (.ofName name domain) with
      | error failure => rw [hanswer] at h; cases h
      | ok entry =>
          rw [hanswer] at h
          obtain ⟨hok, -⟩ := Prod.mk.inj h
          rw [← Except.ok.inj hok]
          obtain ⟨hentry, hnamed⟩ := Fixed.entry_of_name (Fixed.entry_of_answerAt hanswer)
          exact ⟨entry, hentry, rfl, rfl, hnamed⟩
    · cases h

/-- The name that a SID is given in the directory is the name of an entry. -/
theorem named_of_found (hdirectory : e.directory = fixed.client) {m m' : Mint α}
    (houtcome : SidToId.Outcome e s.rules s.cache now (batchFound e now requests s).1 request m
      item m') {resolution : Resolution} (hstate : item.state = .resolved resolution)
    (hsource : resolution.source = .directory) {name : WindowsName}
    (hname : resolution.windowsName = some name) (hsid : request.id = .sid sid)
    (hok : item.answer.isSuccess = true) :
    ∃ entry ∈ fixed.entries, entry.sid = sid ∧ entry.type = name.type ∧
      Fixed.isNamed name.name name.domain entry = true := by
  have hfound : ∀ {sid' name},
      SidToId.Named s.cache now (batchFound e now requests s).1 request sid' name .directory →
      ∃ entry ∈ fixed.entries, entry.sid = sid ∧ entry.type = name.type ∧
        Fixed.isNamed name.name name.domain entry = true := by
    intro sid' name hnamed
    cases hnamed with
    | @directory entry hanswer =>
        rw [batchFound, hdirectory] at hanswer
        have hresolve := Fixed.entry_of_answerAt (SidToId.answerFor_round hsid hanswer).symm
        obtain ⟨hentry, hsid⟩ := Fixed.entry_of_sid hresolve
        refine ⟨entry, hentry, hsid, rfl, ?_⟩
        simp [Fixed.isNamed, sameFolded_refl]
  cases houtcome with
  | failed hfailed | exhausted hfailed _ =>
      rw [hfailed] at hok
      cases hok
  | reserved _ _ => cases hstate
  | cached _ _ _ => cases hstate
  | ruled _ hnamed _ _ _ =>
      cases hstate
      cases hname
      cases hsource
      exact hfound hnamed
  | localAccount _ _ _ _ =>
      cases hstate
      cases hsource
  | minted _ hunruled _ _ =>
      cases hstate
      cases hname
      cases hsource
      cases hunruled with
      | named hnamed _ _ => exact hfound hnamed

/-- The name that a rule gives an account from the directory is the name of an entry. -/
theorem named_of_ruled (hdirectory : e.directory = fixed.client)
    (houtcome : IdToSid.Outcome e s.cache s.rules now request s.directory item)
    {resolution : Resolution} (hstate : item.state = .resolved resolution)
    (hsource : resolution.source = .directory) {name : WindowsName}
    (hname : resolution.windowsName = some name) (hid : item.answer.id = some (.sid sid))
    (hok : item.answer.isSuccess = true) :
    ∃ entry ∈ fixed.entries, entry.sid = sid ∧ entry.type = name.type ∧
      Fixed.isNamed name.name name.domain entry = true := by
  cases houtcome with
  | failed hfailed =>
      rw [hfailed] at hok
      cases hok
  | reserved _ _ => cases hstate
  | cached _ _ _ => cases hstate
  | @ruled _ _ found _ _ _ _ _ hmapped =>
      cases hstate
      cases hname
      cases hid
      obtain ⟨-, s₁, s₂, hresolve⟩ := Rule.mapToWindows_ok hmapped
      rw [hdirectory] at hresolve
      refine entry_of_resolveName hresolve ?_
      by_contra hother
      simp only [if_neg hother] at hsource
      cases hsource
  | localAccount _ _ _ _ _ =>
      cases hstate
      cases hsource

/-- In every run, the cache takes the names of a SID from its entries. -/
theorem Trace.namesFrom (hdirectory : e.directory = fixed.client) {rules : RuleTable}
    {directory : Fixed.State} {a : α} (htrace : Trace e (.fresh rules directory a) before s)
    (sid : Sid) : s.cache.NamesFrom fixed sid := by
  induction htrace with
  | start =>
      intro row hrow
      cases hrow
  | @mapSids _ s _ now requests _ ih =>
      rw [mapSids_eq]
      refine recordAll_inv (fun c => c.NamesFrom fixed sid) (fun {c p} hp hc row hrow habout => ?_)
        ih
      rcases SidToId.mem_names_record hrow with
        hold | ⟨resolution, sid', name, hstate, hsid, hok, hsource, hname, rfl⟩
      · exact hc row hold habout
      · obtain rfl := eq_of_isAbout_nameMapping habout
        obtain ⟨_, _, houtcome⟩ := exists_outcome hp
        obtain ⟨entry, hentry, hentrySid, htype, hnamed⟩ :=
          named_of_found hdirectory houtcome hstate hsource hname hsid hok
        refine ⟨entry, hentry, hentrySid, name.name, name.domain, hnamed, ?_⟩
        rw [cachedName_nameMapping, htype]
  | @mapId _ s _ now request _ ih =>
      simp only [Engine.mapId]
      intro row hrow habout
      rcases IdToSid.mem_names_record hrow with
        hold | ⟨resolution, sid', name, hstate, hid, hok, hsource, hname, rfl⟩
      · exact ih row hold habout
      · obtain rfl := eq_of_isAbout_nameMapping habout
        obtain ⟨entry, hentry, hsid, htype, hnamed⟩ :=
          named_of_ruled hdirectory (IdToSid.outcome e s.cache s.rules now request s.directory)
            hstate hsource hname hid hok
        refine ⟨entry, hentry, hsid, name.name, name.domain, hnamed, ?_⟩
        rw [cachedName_nameMapping, htype]

end Trace

end IdentityMap
