/-
What calls do to the cache.

There are few ways in which a call touches it.  It writes the mapping of an item, and may
have taken a direction from a minted id of the same SID before; it writes the name of a SID;
it drops rows that are past their time; or it clears the cache.  Rules and what was asked make
no difference.

So an invariant of the cache is settled by what these few do to it.  `Lasting` asks for just
that, and for what the mappings that are written have in common, and then every call keeps
the invariant.
-/
import IdentityMap.Proofs.Cache.Keys
import IdentityMap.Proofs.Ledger

namespace IdentityMap

variable {δ α : Type}

/-! ### Writing the mapping of a SID -/

namespace SidToId

/-- The kind of the minted id that keeps its way back when the mapping of an item is written:
the id that the item was resolved anew in place of, unless its own is a minted one. -/
def spared? (item : Item) (m : IdMapping) : Option IdKind :=
  match item.state with
  | .resolved resolution =>
    if isEphemeral m.id.number then none else resolution.superseded.map (·.kind)
  | _ => none

/-- Takes the direction to unix from the minted id that is spared. -/
def makeRoom (item : Item) (m : IdMapping) (cache : Cache) : Cache :=
  match spared? item m with
  | some kind => cache.supersede m.sid kind
  | none => cache

/-- Writing an item back is making room for its mapping and putting it there. -/
theorem ids_record {settings : Settings} {now : Int} {request : Request} {item : Item}
    {m : IdMapping} (cache : Cache) (hm : written? request item = some m) :
    (record settings now request item cache).ids = ((makeRoom item m cache).putId m).ids := by
  obtain ⟨resolution, hstate, hsid, hid, hok, hmapping⟩ := written?_eq_some hm
  have hanswer : item.answer.unix? = some m.id := by rw [Answer.unix?, hid]; rfl
  simp only [record, hstate, hsid, hanswer, if_pos hok, ids_cacheResolution, ← hmapping,
    makeRoom, spared?]
  cases resolution.superseded with
  | none => simp
  | some old => by_cases heph : isEphemeral m.id.number = true <;> simp [heph]

end SidToId

/-! ### What is written -/

/-- Every mapping that the engine writes for an item is of this kind. -/
structure Engine.Writes (e : Engine δ α) (Good : IdMapping → Prop) : Prop where
  fromSid : ∀ {rules cache now found request m item m' written},
    SidToId.Outcome e rules cache now found request m item m' →
    SidToId.written? request item = some written → Good written
  fromId : ∀ {cache rules now request d item written},
    IdToSid.Outcome e cache rules now request d item →
    IdToSid.written? e.names request item = some written → Good written

namespace SidToId

variable {e : Engine δ α} {rules : RuleTable} {cache : Cache} {now : Int} {found : Found}
  {request : Request} {m m' : Mint α} {item : Item} {written : IdMapping}

/-- What is written for a SID leads from it to its unix id, and a minted id back as well. -/
theorem direction_of_written (hlocal : e.names.IsLocal)
    (h : Outcome e rules cache now found request m item m')
    (hwritten : written? request item = some written) :
    written.direction.isToUnix = true ∧
      (isEphemeral written.id.number = true → written.direction = .both) := by
  obtain ⟨resolution, hstate, -, hid, hok, hmapping⟩ := written?_eq_some hwritten
  have hdirection : written.direction = item.answer.direction := by rw [hmapping]; rfl
  rw [hdirection]
  cases h with
  | failed hfailed =>
      rw [hfailed] at hok
      cases hok
  | exhausted hfailed _ =>
      rw [hfailed] at hok
      cases hok
  | reserved _ _ => cases hstate
  | cached _ _ _ => cases hstate
  | ruled _ _ _ _ hmapped =>
      refine ⟨Rule.isToUnix_of_mapToUnix hmapped, fun heph => ?_⟩
      have hsame := Identity.unix.inj (Option.some.inj hid)
      have hordinary := RuleTable.mapsLocally hlocal rules hmapped
      rw [hsame, heph] at hordinary
      cases hordinary
  | localAccount _ _ _ _ => exact ⟨rfl, fun _ => rfl⟩
  | minted _ _ _ _ => exact ⟨rfl, fun _ => rfl⟩

end SidToId

/-- Nothing is written for a minted id that was asked for. -/
theorem IdToSid.isEphemeral_of_written {e : Engine δ α} {rules : RuleTable} {cache : Cache}
    {now : Int} {request : Request} {d : δ} {item : Item} {written : IdMapping}
    (h : Outcome e cache rules now request d item)
    (hwritten : written? e.names request item = some written) :
    isEphemeral written.id.number = false := by
  obtain ⟨resolution, hstate, hasked, -, hok, -⟩ := written?_eq_some hwritten
  cases h with
  | failed hfailed =>
      rw [hfailed] at hok
      cases hok
  | reserved _ _ => cases hstate
  | cached _ _ _ => cases hstate
  | ruled hid _ hminted _ _ =>
      obtain rfl := Identity.unix.inj (hid.symm.trans hasked)
      exact hminted
  | localAccount hid _ hminted _ _ =>
      obtain rfl := Identity.unix.inj (hid.symm.trans hasked)
      exact hminted

theorem Engine.writes_anything (e : Engine δ α) : e.Writes fun _ => True where
  fromSid _ _ := trivial
  fromId _ _ := trivial

/-- Mappings of minted ids are written in both directions. -/
theorem Engine.writes_both {e : Engine δ α} (hlocal : e.names.IsLocal) :
    e.Writes fun m => isEphemeral m.id.number = true → m.direction = .both where
  fromSid houtcome hwritten := (SidToId.direction_of_written hlocal houtcome hwritten).2
  fromId houtcome hwritten heph := by
    rw [IdToSid.isEphemeral_of_written houtcome hwritten] at heph
    cases heph

/-! ### Lasting invariants -/

/-- An invariant of the cache that nothing breaks, as long as the mappings that are written are
of this kind. -/
structure Cache.Lasting (Good : IdMapping → Prop) (Inv : Cache → Prop) : Prop where
  empty : Inv {}
  putId : ∀ {cache : Cache} {m : IdMapping}, Inv cache → Good m → Inv (cache.putId m)
  putName : ∀ {cache : Cache} {m : NameMapping}, Inv cache → Inv (cache.putName m)
  supersede : ∀ {cache : Cache} {sid : Sid} {kind : IdKind}, Inv cache →
    Inv (cache.supersede sid kind)
  purge : ∀ {cache : Cache} {now : Int}, Inv cache → Inv (cache.purge now)

theorem Cache.Keyed.lasting : Lasting (fun _ => True) Keyed where
  empty := .empty
  putId h _ := h.putId _
  putName h := h.congr rfl
  supersede h := h.supersede _ _
  purge h := h.purge _

namespace Cache.Lasting

variable {Good : IdMapping → Prop} {Inv : Cache → Prop} (hlasting : Lasting Good Inv)
  {e : Engine δ α} {now : Int} {s : EngineState δ α}
include hlasting

/-! #### Items -/

theorem cacheResolution {settings : Settings} {resolution : Resolution} {sid : Sid} {id : UnixId}
    {unixName : Option String} {direction : Direction} {cache : Cache}
    (hgood : Good (resolution.mapping sid id unixName direction)) (h : Inv cache) :
    Inv (cacheResolution settings now resolution sid id unixName direction cache) := by
  have hwritten : Inv (cache.putId (resolution.mapping sid id unixName direction)) :=
    hlasting.putId h hgood
  unfold IdentityMap.cacheResolution
  simp only
  split
  · exact hlasting.putName hwritten
  · exact hwritten

theorem recordSid {settings : Settings} {request : Request} {item : Item} {cache : Cache}
    (hgood : ∀ m, SidToId.written? request item = some m → Good m) (h : Inv cache) :
    Inv (SidToId.record settings now request item cache) := by
  unfold SidToId.record
  split
  · next resolution sid id hstate hsid hid =>
      by_cases hok : item.answer.isSuccess = true
      · rw [if_pos hok]
        refine hlasting.cacheResolution (hgood _ ?_) ?_
        · simp only [SidToId.written?, hstate, hsid, hid, if_pos hok]
        · split
          · split
            · exact h
            · exact hlasting.supersede h
          · exact h
      · rw [if_neg hok]
        exact h
  · exact h

theorem recordId {settings : Settings} {names : NameService} {request : Request} {item : Item}
    {cache : Cache} (hgood : ∀ m, IdToSid.written? names request item = some m → Good m)
    (h : Inv cache) : Inv (IdToSid.record settings names now request item cache) := by
  unfold IdToSid.record
  split
  · next resolution id sid hstate hid hsid =>
      by_cases hok : item.answer.isSuccess = true
      · rw [if_pos hok]
        refine hlasting.cacheResolution (hgood _ ?_) h
        simp only [IdToSid.written?, hstate, hid, hsid, if_pos hok]
      · rw [if_neg hok]
        exact h
  · exact h

/-! #### Calls -/

theorem mapSids (hwrites : e.Writes Good) (h : Inv s.cache) (requests : List Request) :
    Inv (e.mapSids now requests s).2.cache := by
  rw [mapSids_eq]
  refine recordAll_inv Inv (fun {c p} hp hc => ?_) h
  obtain ⟨_, _, houtcome⟩ := exists_outcome hp
  exact hlasting.recordSid (fun m hm => hwrites.fromSid houtcome hm) hc

theorem mapId (hwrites : e.Writes Good) (h : Inv s.cache) (request : Request) :
    Inv (e.mapId now request s).2.cache :=
  hlasting.recordId (fun _ hm => hwrites.fromId (IdToSid.outcome ..) hm) h

theorem mapIds (hwrites : e.Writes Good) (h : Inv s.cache) (requests : List Request) :
    Inv (e.mapIds now requests s).2.cache := by
  induction requests generalizing s with
  | nil => exact h
  | cons request rest ih => exact ih (hlasting.mapId hwrites h request)

theorem mapName (hwrites : e.Writes Good) (h : Inv s.cache) (name : String)
    (domain : Option String) (wanted : Wanted) :
    Inv (e.mapName now name domain wanted s).2.cache := by
  unfold Engine.mapName
  split
  · exact h
  · simp only
    split
    · exact h
    · next account directory hresolve =>
        have hnamed : Inv (if account.source = .directory then
            cacheName e.settings now account.sid name (e.domainFor domain) account.type s.cache
            else s.cache) := by
          split
          · exact hlasting.putName h
          · exact h
        split
        · exact hnamed
        · exact hlasting.mapSids hwrites hnamed _

theorem nameSid (h : Inv s.cache) (sid : Sid) (answer : Answer) :
    Inv (e.nameSid now sid answer s).2.cache := by
  unfold Engine.nameSid
  split
  · exact h
  · split
    · exact h
    · split
      · exact h
      · split
        · exact hlasting.putName h
        · exact h
    · exact h

theorem nameId (hwrites : e.Writes Good) (h : Inv s.cache) (id : UnixId) :
    Inv (e.nameId now id s).2.cache := by
  have hmapped : Inv (e.mapId now { id := .unix id, wanted := .sid } s).2.cache :=
    hlasting.mapId hwrites h _
  unfold Engine.nameId
  simp only
  split
  · exact hlasting.nameSid hmapped _ _
  · exact hmapped

/-- **Every call keeps a lasting invariant.** -/
theorem call (hwrites : e.Writes Good) (h : Inv s.cache) (call : Call) :
    Inv (call.run e now s).2.cache := by
  cases call with
  | mapSids requests => exact hlasting.mapSids hwrites h requests
  | mapIds requests => exact hlasting.mapIds hwrites h requests
  | mapName name domain wanted =>
      have hmapped : Inv (e.mapName now name domain wanted s).2.cache :=
        hlasting.mapName hwrites h name domain wanted
      simp only [Call.run]
      split
      · next hrun => rw [hrun] at hmapped; exact hmapped
      · next hrun => rw [hrun] at hmapped; exact hmapped
  | nameId id => exact hlasting.nameId hwrites h id
  | addRule rule =>
      simp only [Call.run, Engine.addRule]
      cases s.rules.add rule e.settings.domain? with
      | error failure => exact h
      | ok rules => exact h
  | removeRules filter => exact h
  | flushRules isUser => exact h
  | purge => exact hlasting.purge h
  | clear => exact hlasting.empty

/-- A whole run keeps a lasting invariant. -/
theorem run (hwrites : e.Writes Good) (h : Inv s.cache) (calls : List (Int × Call)) :
    Inv (e.run calls s).2.cache := by
  induction calls generalizing s with
  | nil => exact h
  | cons timed rest ih =>
      obtain ⟨now, call⟩ := timed
      exact ih (hlasting.call hwrites h call)

end Cache.Lasting
end IdentityMap
