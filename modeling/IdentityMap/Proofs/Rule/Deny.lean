/-
Rules that deny.

A deny decides if it comes first, or if only `*` comes before it and finds no account.  It
stays among the rules however the name is spelled, since a store compares names in any
ASCII case: another spelling may be mapped by a `*` that comes first, for the host's own
names are compared exactly, but the rules are never without an answer.
-/
import IdentityMap.Rule.Evaluation
import Mathlib.Data.List.TakeWhile

namespace IdentityMap

/-! ### Spellings in a store -/

theorem utf8Size_toLower (c : Char) : c.toLower.utf8Size = c.utf8Size := by
  unfold Char.toLower
  split
  · next h =>
      have hlow : c.val ≤ 0x7F := UInt32.le_trans h.2 (by decide)
      have hshift : c.val + ('a'.val - 'A'.val) ≤ 0x7F := by
        have hupper := UInt32.le_iff_toNat_le.mp h.2
        rw [UInt32.le_iff_toNat_le, UInt32.toNat_add]
        simp only [show ('a'.val - 'A'.val).toNat = 32 from rfl, show 'Z'.val.toNat = 90 from rfl,
          show (0x7F : UInt32).toNat = 127 from rfl] at hupper ⊢
        omega
      rw [Char.utf8Size_eq_one_iff.mpr hlow, Char.utf8Size_eq_one_iff.mpr hshift]
  · rfl

/-- Folding the case of a text does not change its length in bytes. -/
theorem utf8ByteSize_map_toLower (cs : List Char) :
    (String.ofList (cs.map Char.toLower)).utf8ByteSize = (String.ofList cs).utf8ByteSize := by
  have hcons : ∀ (c : Char) (rest : List Char),
      String.ofList (c :: rest) = String.singleton c ++ String.ofList rest := by
    intro c rest
    rw [← String.toList_inj]
    simp
  induction cs with
  | nil => rfl
  | cons c rest ih =>
      rw [List.map_cons, hcons, hcons, String.utf8ByteSize_append, String.utf8ByteSize_append, ih,
        String.utf8ByteSize_singleton, String.utf8ByteSize_singleton, utf8Size_toLower]

theorem utf8ByteSize_fold (s : String) :
    (String.ofList (fold s)).utf8ByteSize = s.utf8ByteSize := by
  have hs := utf8ByteSize_map_toLower s.toList
  rwa [String.ofList_toList] at hs

/-- A store holds two spellings of a name for one. -/
theorem sameInStore_of_sameFolded {a b : String} (h : sameFolded a b = true) :
    sameInStore a b = true := by
  have hfold := sameFolded_iff.mp h
  rw [sameInStore_iff, storeKey, storeKey, ← utf8ByteSize_fold a, ← utf8ByteSize_fold b, hfold]

theorem sameInStore_congr {a b c : String} (h : sameFolded b c = true) :
    sameInStore a b = sameInStore a c := by
  have hkey := sameInStore_iff.mp (sameInStore_of_sameFolded h)
  rw [sameInStore, sameInStore, hkey]

/-- Capitals become small letters, so any other character has been itself. -/
theorem eq_of_toLower_eq {c d : Char} (h : c.toLower = d) (hd : d.val < 'a'.val) : c = d := by
  unfold Char.toLower at h
  split at h
  · next hcapital =>
      have hval : c.val + ('a'.val - 'A'.val) = d.val := congrArg Char.val h
      have hsum := congrArg UInt32.toNat hval
      have hlower := UInt32.le_iff_toNat_le.mp hcapital.1
      have hupper := UInt32.le_iff_toNat_le.mp hcapital.2
      have hsmall := UInt32.lt_iff_toNat_lt.mp hd
      rw [UInt32.toNat_add] at hsum
      simp only [show ('a'.val - 'A'.val).toNat = 32 from rfl, show 'Z'.val.toNat = 90 from rfl,
        show 'A'.val.toNat = 65 from rfl, show 'a'.val.toNat = 97 from rfl]
        at hlower hupper hsmall hsum
      omega
  · exact h

/-- Where there is no NUL, only spellings of a name are one name to a store. -/
theorem sameInStore_eq_sameFolded {a b : String} (hb : '\x00' ∉ b.toList) :
    sameInStore a b = sameFolded a b := by
  refine Bool.eq_iff_iff.mpr ⟨fun h => ?_, sameInStore_of_sameFolded⟩
  obtain ⟨hshown, hsize⟩ := Prod.mk.inj (sameInStore_iff.mp h)
  have hwhole : (fold b).takeWhile (· != '\x00') = fold b := by
    refine List.takeWhile_eq_self_iff.mpr fun c hc => ?_
    obtain ⟨d, hd, rfl⟩ := List.mem_map.mp hc
    refine bne_iff_ne.mpr fun hnul => hb ?_
    rwa [← eq_of_toLower_eq hnul (by decide)]
  -- What `a` has behind a NUL would make it longer than `b`.
  have hsplit := List.takeWhile_append_dropWhile (p := (· != '\x00')) (l := fold a)
  rw [hshown, hwhole] at hsplit
  have hrest : (fold a).dropWhile (· != '\x00') = [] := by
    have hbytes := utf8ByteSize_fold a
    rw [← hsplit, String.ofList_append, String.utf8ByteSize_append, utf8ByteSize_fold, hsize]
      at hbytes
    exact String.ofList_eq_empty_iff.mp (String.utf8ByteSize_eq_zero_iff.mp (by omega))
  rw [hrest, List.append_nil] at hsplit
  exact sameFolded_iff.mpr hsplit.symm

/-! ### The spelling of a Windows name -/

namespace Rule

variable {table : RuleTable} {mappingDomain : Option String} {name name' domain domain' : String}
  {kind : IdKind}

theorem isDefaultDomain_congr (h : sameFolded domain domain' = true) :
    isDefaultDomain mappingDomain domain = isDefaultDomain mappingDomain domain' := by
  have hfold := sameFolded_iff.mp h
  simp only [isDefaultDomain, sameFolded, hfold]

/-- The spelling of a name does not change which rules may map it. -/
theorem unixCandidates_congr (hname : sameFolded name name' = true)
    (hdomain : sameFolded domain domain' = true) (isUser inDefaultDomain : Bool) :
    table.unixCandidates isUser name domain inDefaultDomain
      = table.unixCandidates isUser name' domain' inDefaultDomain := by
  have hmatches : RuleTable.matchesWindows isUser name domain inDefaultDomain
      = RuleTable.matchesWindows isUser name' domain' inDefaultDomain := by
    funext rule
    simp only [RuleTable.matchesWindows, sameInStore_congr hname, sameInStore_congr hdomain]
  rw [RuleTable.unixCandidates, RuleTable.unixCandidates, RuleTable.rulesForWindows,
    RuleTable.rulesForWindows, hmatches]

/-! ### From Windows to unix -/

section Unix

variable {names : NameService} {candidates : List UnixCandidate}

/-- The candidate that decides about a Windows name is a deny. -/
inductive DeniesUnix (names : NameService) (kind : IdKind) (name : String) :
    List UnixCandidate → Prop
  | deny {candidate : UnixCandidate} {rest : List UnixCandidate}
      (hdeny : isEmptyName candidate.unixName = true) :
      DeniesUnix names kind name (candidate :: rest)
  | pass {candidate : UnixCandidate} {rest : List UnixCandidate}
      (hself : isWildcard candidate.unixName = true)
      (hmissing : names.idOf kind name = .error .notFound)
      (hrest : DeniesUnix names kind name rest) :
      DeniesUnix names kind name (candidate :: rest)

theorem isEmptyName_of_isWildcard {s : String} (h : isWildcard s = true) :
    isEmptyName s = false := by
  obtain rfl : s = wildcard := by simpa [isWildcard] using h
  decide

theorem DeniesUnix.tryUnix_eq (h : DeniesUnix names kind name candidates) :
    tryUnix names kind name candidates = .error .denied := by
  induction h with
  | deny hdeny => simp only [tryUnix, if_pos hdeny]
  | pass hself hmissing _ ih =>
      simp only [tryUnix, isEmptyName_of_isWildcard hself, hself, hmissing]
      exact ih

/-- The same candidates answer for every other spelling, too. -/
theorem DeniesUnix.tryUnix_ne (h : DeniesUnix names kind name candidates) (other : String) :
    tryUnix names kind other candidates ≠ .error .notFound := by
  induction h with
  | deny hdeny =>
      simp only [tryUnix, if_pos hdeny]
      simp
  | pass hself _ _ ih =>
      simp only [tryUnix, isEmptyName_of_isWildcard hself, hself]
      cases hfound : names.idOf kind other with
      | ok number => simp
      | error failure =>
          cases failure with
          | notFound => exact ih
          | _ => simp

end Unix

/-! ### From unix to Windows -/

section Windows

variable {lookup : String → String → Except Failure NamedAccount}
  {candidates : List WindowsCandidate}

/-- The candidate that decides about a unix name is a deny. -/
inductive DeniesWindows (mappingDomain : Option String) (unixName : String) (kind : IdKind)
    (lookup : String → String → Except Failure NamedAccount) : List WindowsCandidate → Prop
  | deny {candidate : WindowsCandidate} {rest : List WindowsCandidate}
      (hdeny : isEmptyName candidate.windowsName = true) :
      DeniesWindows mappingDomain unixName kind lookup (candidate :: rest)
  | pass {candidate : WindowsCandidate} {rest : List WindowsCandidate} {domain : String}
      {failure : Failure} (hself : isWildcard candidate.windowsName = true)
      (hdomain : destinationDomain mappingDomain unixName candidate.windowsDomain = .ok domain)
      (hmissing : (lookup unixName domain).bind (checkKind kind) = .error failure)
      (hpass : failure = .notFound ∨ failure = .notUser ∨ failure = .notGroup)
      (hrest : DeniesWindows mappingDomain unixName kind lookup rest) :
      DeniesWindows mappingDomain unixName kind lookup (candidate :: rest)

/-- Whatever is found meanwhile, the candidates have an answer. -/
theorem DeniesWindows.tryWindows_ne {σ : Type}
    (h : DeniesWindows mappingDomain name kind lookup candidates)
    (resolve : String → String → σ → Except Failure NamedAccount × σ) (s : σ) :
    (tryWindows mappingDomain name kind resolve candidates s).1 ≠ .error .notFound := by
  induction h generalizing s with
  | deny hdeny =>
      simp only [tryWindows, if_pos hdeny]
      simp
  | @pass candidate rest domain failure hself hdomain _ _ _ ih =>
      simp only [tryWindows, isEmptyName_of_isWildcard hself, hself, Bool.false_eq_true, if_false,
        if_true, hdomain, Bool.true_and]
      cases (resolve name domain s).1.bind (checkKind kind) with
      | ok account => simp
      | error failure =>
          by_cases hpass : (failure = .notFound || failure = .notUser || failure = .notGroup) = true
          · simp only [if_pos hpass]
            exact ih _
          · simp only [if_neg hpass]
            have hfound : failure ≠ .notFound := by
              rintro rfl
              exact hpass rfl
            rw [if_neg hfound]
            exact fun hnone => hfound (Except.error.inj hnone)

end Windows

end Rule
end IdentityMap
