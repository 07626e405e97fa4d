/-
What rules look up to map a unix name, and when they find nothing.

The one that is asked for Windows names may do anything, and remember all that it was asked
for.  It can be replaced by one that does the same and writes down each name, with what came of
it; the rules see nothing but the answers, so nothing else changes.

The rules are tried by their order, and only a self-reference that is missed gives way to the
next.  So the rules that are looked up for are a first part of all that may map the name, and
all but the last of them are self-references.  That rules never tie makes "first part" a
statement about orders.

It says which rules are looked up for, and not only which may be: each one whose turn comes, if
it is no deny and there is a domain for it.  With the answers that these lookups are given one
after the other, the result is determined.
-/
import IdentityMap.Proofs.Rule.TotalOrder

namespace IdentityMap

namespace Rule

/-! ### The record -/

/-- A Windows name that was looked up, and what came of it. -/
structure Lookup where
  name : String
  domain : String
  answer : Except Failure NamedAccount

/-- There is no such name, or it is that of an account that has no id of this kind. -/
def Lookup.Misses (kind : IdKind) (lookup : Lookup) : Prop :=
  lookup.answer = .error .notFound ∨ lookup.answer = .error .notUser ∨
    lookup.answer = .error .notGroup ∨
    ∃ account, lookup.answer = .ok account ∧ account.type.kind ≠ kind

variable {σ : Type} {resolve : String → String → σ → Except Failure NamedAccount × σ}
  {mappingDomain : Option String} {unixName : String} {kind : IdKind}

/-- Looks a name up as `resolve` does, and writes it down. -/
def recorded (resolve : String → String → σ → Except Failure NamedAccount × σ)
    (name domain : String) (w : σ × List Lookup) :
    Except Failure NamedAccount × (σ × List Lookup) :=
  let (answer, s) := resolve name domain w.1
  (answer, s, w.2 ++ [{ name, domain, answer }])

/-- The record changes nothing. -/
theorem tryWindows_recorded (candidates : List WindowsCandidate) (s : σ) (log : List Lookup) :
    tryWindows mappingDomain unixName kind resolve candidates s
      = ((tryWindows mappingDomain unixName kind (recorded resolve) candidates (s, log)).1,
        (tryWindows mappingDomain unixName kind (recorded resolve) candidates (s, log)).2.1) := by
  induction candidates generalizing s log with
  | nil => rfl
  | cons candidate rest ih =>
      unfold tryWindows
      split
      · rfl
      simp only
      split
      · rfl
      · simp only [recorded]
        split
        · rfl
        · split
          · exact ih ..
          · rfl

/-- Looked up one after the other from a state on, the names are answered in this way, and that
leads to another state. -/
inductive Transcript (resolve : String → String → σ → Except Failure NamedAccount × σ) :
    σ → List Lookup → σ → Prop
  | nil (s : σ) : Transcript resolve s [] s
  | cons {s s' : σ} {lookup : Lookup} {rest : List Lookup}
      (hanswer : lookup.answer = (resolve lookup.name lookup.domain s).1)
      (hrest : Transcript resolve (resolve lookup.name lookup.domain s).2 rest s') :
      Transcript resolve s (lookup :: rest) s'

/-! ### One lookup -/

theorem bind_checkKind_eq_ok_iff {answer : Except Failure NamedAccount} {account : NamedAccount} :
    answer.bind (checkKind kind) = .ok account ↔
      answer = .ok account ∧ account.type.kind = kind := by
  cases answer with
  | error failure => simp [Except.bind]
  | ok found =>
      simp only [Except.bind, Except.ok.injEq]
      cases kind <;> cases htype : found.type <;>
        simp [checkKind, htype, AccountType.kind] <;>
        rintro rfl <;> simp [htype]

/-- A miss is what a self-reference gives way for. -/
theorem Lookup.misses_iff {lookup : Lookup} :
    lookup.Misses kind ↔ ∃ failure, lookup.answer.bind (checkKind kind) = .error failure ∧
      (failure = .notFound ∨ failure = .notUser ∨ failure = .notGroup) := by
  unfold Misses
  cases lookup.answer with
  | error failure => simp [Except.bind]
  | ok found =>
      simp only [Except.bind]
      cases kind <;> cases htype : found.type <;> simp [checkKind, htype, AccountType.kind]

/-- A lookup that fails is missed just if it fails in a way that a self-reference gives way for. -/
theorem Lookup.misses_iff_of_error {lookup : Lookup} {failure : Failure}
    (h : lookup.answer.bind (checkKind kind) = .error failure) :
    (failure = .notFound || failure = .notUser || failure = .notGroup) = true ↔
      lookup.Misses kind := by
  simp [misses_iff, h, or_assoc]

/-- A name is looked up in the rule's own domain, or in the mapping domain, or in none if it is
reserved; or it is not looked up at all. -/
theorem destinationDomain_cases (mappingDomain : Option String) (name : String)
    (domain : Option String) :
    (∃ d, d ≠ "" ∧ (domain = some d ∨ mappingDomain = some d) ∧
      destinationDomain mappingDomain name domain = .ok d) ∨
    ((∀ d, domain = some d → d = "") ∧ (∀ d, mappingDomain = some d → d = "") ∧
      ((WellKnown.ofName name).isSome = true ∧
          destinationDomain mappingDomain name domain = .ok "" ∨
        (WellKnown.ofName name).isSome = false ∧
          destinationDomain mappingDomain name domain = .error (.noDomain name))) := by
  have hfilter : ∀ o : Option String,
      (∃ d, o = some d ∧ d ≠ "" ∧ o.filter (!·.isEmpty) = some d) ∨
        ((∀ d, o = some d → d = "") ∧ o.filter (!·.isEmpty) = none) := by
    intro o
    cases o with
    | none => simp
    | some d => by_cases hd : d = "" <;> simp [hd, Option.filter]
  unfold destinationDomain
  rcases hfilter domain with ⟨d, hd, hne, hown⟩ | ⟨hnone, hown⟩
  · exact Or.inl ⟨d, hne, Or.inl hd, by rw [hown]⟩
  · rcases hfilter mappingDomain with ⟨d, hd, hne, hmapping⟩ | ⟨hnone', hmapping⟩
    · exact Or.inl ⟨d, hne, Or.inr hd, by rw [hown, hmapping]⟩
    · refine Or.inr ⟨hnone, hnone', ?_⟩
      rw [hown, hmapping]
      cases (WellKnown.ofName name).isSome <;> simp

theorem eq_noDomain_of_destinationDomain {name : String} {domain : Option String}
    {failure : Failure} (h : destinationDomain mappingDomain name domain = .error failure) :
    failure = .noDomain name := by
  rcases destinationDomain_cases mappingDomain name domain with
    ⟨d, -, -, hok⟩ | ⟨-, -, ⟨-, hok⟩ | ⟨-, herror⟩⟩
  · rw [h] at hok
    cases hok
  · rw [h] at hok
    cases hok
  · rw [h] at herror
    exact Except.error.inj herror

end Rule

namespace StoredRule

/-- The Windows name that the rule leads a unix name to. -/
def destination (unixName : String) (rule : StoredRule) : String :=
  if isWildcard rule.windowsName then unixName else rule.windowsName

/-- There is a domain to look a name up in for the rule, or the name needs none. -/
def HasUsableDomain (mappingDomain : Option String) (name : String) (rule : StoredRule) : Prop :=
  (∃ d, d ≠ "" ∧ (rule.windowsDomain = some d ∨ mappingDomain = some d)) ∨
    (WellKnown.ofName name).isSome = true

/-- The rule is looked up for: its destination, in the domain that goes with it. -/
structure LooksUp (mappingDomain : Option String) (unixName : String) (rule : StoredRule)
    (lookup : Rule.Lookup) : Prop where
  isNamed : isEmptyName rule.windowsName = false
  name : lookup.name = rule.destination unixName
  domain : Rule.destinationDomain mappingDomain lookup.name rule.windowsDomain
    = .ok lookup.domain

/-- What the rule makes of the name when its lookup decides. -/
def conclude (kind : IdKind) (rule : StoredRule) (lookup : Rule.Lookup) :
    Except Failure WindowsMatch :=
  match lookup.answer.bind (Rule.checkKind kind) with
  | .ok account =>
    .ok
      { account, windowsName := lookup.name, windowsDomain := lookup.domain
        direction := if applies rule.toUnixOrder then .both else .toWindows }
  | .error failure => .error (if failure = .notFound then .denied else failure)

/-- What the rule leads to, for `Rule.tryWindows`. -/
def candidate (rule : StoredRule) : WindowsCandidate :=
  { windowsName := rule.windowsName, windowsDomain := rule.windowsDomain
    toUnixOrder := rule.toUnixOrder }

variable {rule : StoredRule} {mappingDomain : Option String} {unixName : String} {kind : IdKind}
  {lookup : Rule.Lookup}

theorem hasUsableDomain_iff {name : String} :
    rule.HasUsableDomain mappingDomain name ↔
      ∃ d, Rule.destinationDomain mappingDomain name rule.windowsDomain = .ok d := by
  rcases Rule.destinationDomain_cases mappingDomain name rule.windowsDomain with
    ⟨d, hne, hdomain, hok⟩ | ⟨hown, hmapping, ⟨hreserved, hok⟩ | ⟨hreserved, herror⟩⟩
  · exact ⟨fun _ => ⟨d, hok⟩, fun _ => Or.inl ⟨d, hne, hdomain⟩⟩
  · exact ⟨fun _ => ⟨"", hok⟩, fun _ => Or.inr hreserved⟩
  · constructor
    · rintro (⟨d, hne, hd | hd⟩ | hname)
      · exact absurd (hown d hd) hne
      · exact absurd (hmapping d hd) hne
      · rw [hreserved] at hname
        cases hname
    · rintro ⟨d, hok⟩
      rw [herror] at hok
      cases hok

theorem LooksUp.hasUsableDomain (h : rule.LooksUp mappingDomain unixName lookup) :
    rule.HasUsableDomain mappingDomain (rule.destination unixName) := by
  rw [← h.name]
  exact hasUsableDomain_iff.mpr ⟨lookup.domain, h.domain⟩

/-- Without a domain, a name is looked up only if it is reserved and there is no mapping
domain. -/
theorem LooksUp.of_domain_eq_empty (h : rule.LooksUp mappingDomain unixName lookup)
    (hempty : lookup.domain = "") :
    (WellKnown.ofName lookup.name).isSome = true ∧ ∀ d, mappingDomain = some d → d = "" := by
  have hdomain := h.domain
  rw [hempty] at hdomain
  rcases Rule.destinationDomain_cases mappingDomain lookup.name rule.windowsDomain with
    ⟨d, hne, -, hok⟩ | ⟨-, hnone, ⟨hreserved, -⟩ | ⟨-, herror⟩⟩
  · exact absurd (Except.ok.inj (hok.symm.trans hdomain)) hne
  · exact ⟨hreserved, hnone⟩
  · rw [hdomain] at herror
    cases herror

/-- A rule leads to the account that was found for it, if that is of the kind asked for. -/
theorem conclude_ok {found : WindowsMatch} (h : rule.conclude kind lookup = .ok found) :
    lookup.answer = .ok found.account ∧ found.account.type.kind = kind := by
  unfold conclude at h
  split at h
  · next account haccount =>
      cases h
      exact Rule.bind_checkKind_eq_ok_iff.mp haccount
  · cases h

/-- A rule that decides never says that there is nothing to be found. -/
theorem conclude_ne_notFound : rule.conclude kind lookup ≠ .error .notFound := by
  intro h
  unfold conclude at h
  split at h
  · cases h
  · split at h
    · cases h
    · next hother => exact hother (Except.error.inj h)

/-- What comes of a rule when it is its turn: it is a deny, or has no domain, or it is looked up
for.  Then it decides, unless it leads any name to itself and that one is missed. -/
inductive Turn (mappingDomain : Option String) (kind : IdKind) (unixName : String)
    (asked : List (StoredRule × Rule.Lookup)) (result : Except Failure WindowsMatch)
    (rule : StoredRule) : Prop
  | denies (h : isEmptyName rule.windowsName = true) (hresult : result = .error .denied)
  | noDomain (h : isEmptyName rule.windowsName = false)
      (hdomain : ¬rule.HasUsableDomain mappingDomain (rule.destination unixName))
      (hresult : result = .error (.noDomain (rule.destination unixName)))
  | missed {lookup : Rule.Lookup} (hmem : (rule, lookup) ∈ asked)
      (hself : isWildcard rule.windowsName = true) (hmisses : lookup.Misses kind)
  | decides {lookup : Rule.Lookup} (hmem : (rule, lookup) ∈ asked)
      (hstops : ¬(isWildcard rule.windowsName = true ∧ lookup.Misses kind))
      (hresult : result = rule.conclude kind lookup)

theorem Turn.mono {asked asked' : List (StoredRule × Rule.Lookup)}
    {result : Except Failure WindowsMatch} (h : Turn mappingDomain kind unixName asked result rule)
    (hsub : asked ⊆ asked') : Turn mappingDomain kind unixName asked' result rule := by
  cases h with
  | denies hdeny hresult => exact .denies hdeny hresult
  | noDomain hnamed hdomain hresult => exact .noDomain hnamed hdomain hresult
  | missed hmem hself hmisses => exact .missed (hsub hmem) hself hmisses
  | decides hmem hstops hresult => exact .decides (hsub hmem) hstops hresult

end StoredRule

namespace Rule

variable {σ : Type} {resolve : String → String → σ → Except Failure NamedAccount × σ}
  {mappingDomain : Option String} {unixName : String} {kind : IdKind}

/-! ### Rule by rule -/

/-- How rules are tried for a unix name: which of them are looked up for, with what came of it,
and what they make of the name. -/
inductive Inquiry (mappingDomain : Option String) (unixName : String) (kind : IdKind) :
    List StoredRule → List (StoredRule × Lookup) → Except Failure WindowsMatch → Prop
  | exhausted : Inquiry mappingDomain unixName kind [] [] (.error .notFound)
  | denied {rule : StoredRule} {rest : List StoredRule}
      (h : isEmptyName rule.windowsName = true) :
      Inquiry mappingDomain unixName kind (rule :: rest) [] (.error .denied)
  | noDomain {rule : StoredRule} {rest : List StoredRule}
      (h : isEmptyName rule.windowsName = false)
      (hdomain : ¬rule.HasUsableDomain mappingDomain (rule.destination unixName)) :
      Inquiry mappingDomain unixName kind (rule :: rest) []
        (.error (.noDomain (rule.destination unixName)))
  | decided {rule : StoredRule} {rest : List StoredRule} {lookup : Lookup}
      (hlooks : rule.LooksUp mappingDomain unixName lookup)
      (hstops : ¬(isWildcard rule.windowsName = true ∧ lookup.Misses kind)) :
      Inquiry mappingDomain unixName kind (rule :: rest) [(rule, lookup)]
        (rule.conclude kind lookup)
  | missed {rule : StoredRule} {rest : List StoredRule} {lookup : Lookup}
      {asked : List (StoredRule × Lookup)} {result : Except Failure WindowsMatch}
      (hlooks : rule.LooksUp mappingDomain unixName lookup)
      (hself : isWildcard rule.windowsName = true) (hmisses : lookup.Misses kind)
      (hrest : Inquiry mappingDomain unixName kind rest asked result) :
      Inquiry mappingDomain unixName kind (rule :: rest) ((rule, lookup) :: asked) result

/-- How the first rule is tried. -/
theorem tryWindows_candidate (rule : StoredRule) (rest : List WindowsCandidate) (s : σ) :
    tryWindows mappingDomain unixName kind resolve (rule.candidate :: rest) s
      = if isEmptyName rule.windowsName then (.error .denied, s)
        else match destinationDomain mappingDomain (rule.destination unixName)
            rule.windowsDomain with
        | .error e => (.error e, s)
        | .ok domain =>
          match (resolve (rule.destination unixName) domain s).1.bind (checkKind kind) with
          | .ok account =>
            (.ok
              { account, windowsName := rule.destination unixName, windowsDomain := domain
                direction := if applies rule.toUnixOrder then .both else .toWindows },
              (resolve (rule.destination unixName) domain s).2)
          | .error e =>
            if isWildcard rule.windowsName && (e = .notFound || e = .notUser || e = .notGroup) then
              tryWindows mappingDomain unixName kind resolve rest
                (resolve (rule.destination unixName) domain s).2
            else (.error (if e = .notFound then .denied else e),
              (resolve (rule.destination unixName) domain s).2) := by
  rfl

section Step

variable {rule : StoredRule} {lookup : Lookup} {s : σ}

/-- A rule that decides ends the search. -/
theorem tryWindows_decided (hlooks : rule.LooksUp mappingDomain unixName lookup)
    (hanswer : lookup.answer = (resolve lookup.name lookup.domain s).1)
    (hstops : ¬(isWildcard rule.windowsName = true ∧ lookup.Misses kind))
    (rest : List WindowsCandidate) :
    tryWindows mappingDomain unixName kind resolve (rule.candidate :: rest) s
      = (rule.conclude kind lookup, (resolve lookup.name lookup.domain s).2) := by
  rw [tryWindows_candidate, if_neg (Bool.eq_false_iff.mp hlooks.isNamed), ← hlooks.name,
    hlooks.domain]
  simp only [← hanswer]
  cases hchecked : lookup.answer.bind (checkKind kind) with
  | ok account => simp only [StoredRule.conclude, hchecked]
  | error failure =>
      simp only [StoredRule.conclude, hchecked]
      rw [if_neg]
      rw [Bool.and_eq_true, Lookup.misses_iff_of_error hchecked]
      exact hstops

/-- A self-reference that is missed gives way to the next rule. -/
theorem tryWindows_missed (hlooks : rule.LooksUp mappingDomain unixName lookup)
    (hanswer : lookup.answer = (resolve lookup.name lookup.domain s).1)
    (hself : isWildcard rule.windowsName = true) (hmisses : lookup.Misses kind)
    (rest : List WindowsCandidate) :
    tryWindows mappingDomain unixName kind resolve (rule.candidate :: rest) s
      = tryWindows mappingDomain unixName kind resolve rest
          (resolve lookup.name lookup.domain s).2 := by
  obtain ⟨failure, hchecked, -⟩ := Lookup.misses_iff.mp hmisses
  rw [tryWindows_candidate, if_neg (Bool.eq_false_iff.mp hlooks.isNamed), ← hlooks.name,
    hlooks.domain]
  simp only [← hanswer, hchecked]
  rw [if_pos]
  rw [hself, Bool.true_and, Lookup.misses_iff_of_error hchecked]
  exact hmisses

end Step

/-- Rules are always tried in this way, and the lookups are answered by `resolve`. -/
theorem exists_inquiry (resolve : String → String → σ → Except Failure NamedAccount × σ)
    (mappingDomain : Option String) (unixName : String) (kind : IdKind)
    (rules : List StoredRule) (s : σ) (log : List Lookup) :
    ∃ asked s',
      Inquiry mappingDomain unixName kind rules asked
        (tryWindows mappingDomain unixName kind (recorded resolve) (rules.map (·.candidate))
          (s, log)).1 ∧
      (tryWindows mappingDomain unixName kind (recorded resolve) (rules.map (·.candidate))
        (s, log)).2 = (s', log ++ asked.map (·.2)) ∧
      Transcript resolve s (asked.map (·.2)) s' := by
  induction rules generalizing s log with
  | nil => exact ⟨[], s, .exhausted, by simp [tryWindows], .nil s⟩
  | cons rule rest ih =>
      rw [List.map_cons]
      by_cases hdeny : isEmptyName rule.windowsName = true
      · rw [tryWindows_candidate, if_pos hdeny]
        exact ⟨[], s, .denied hdeny, by simp, .nil s⟩
      have hnamed : isEmptyName rule.windowsName = false := Bool.eq_false_iff.mpr hdeny
      cases hdomain : destinationDomain mappingDomain (rule.destination unixName)
          rule.windowsDomain with
      | error failure =>
          obtain rfl := eq_noDomain_of_destinationDomain hdomain
          rw [tryWindows_candidate, if_neg hdeny, hdomain]
          refine ⟨[], s, .noDomain hnamed ?_, by simp, .nil s⟩
          rw [StoredRule.hasUsableDomain_iff, hdomain]
          rintro ⟨d, hd⟩
          cases hd
      | ok domain =>
          let lookup : Lookup :=
            { name := rule.destination unixName, domain
              answer := (resolve (rule.destination unixName) domain s).1 }
          let next := (resolve lookup.name lookup.domain s).2
          have hlooks : rule.LooksUp mappingDomain unixName lookup := ⟨hnamed, rfl, hdomain⟩
          have hanswer : lookup.answer
              = (recorded resolve lookup.name lookup.domain (s, log)).1 := rfl
          have hnext : (recorded resolve lookup.name lookup.domain (s, log)).2
              = (next, log ++ [lookup]) := rfl
          by_cases hmissed : isWildcard rule.windowsName = true ∧ lookup.Misses kind
          · obtain ⟨asked, s', hinquiry, hlog, htranscript⟩ := ih next (log ++ [lookup])
            rw [tryWindows_missed hlooks hanswer hmissed.1 hmissed.2, hnext, hlog]
            refine ⟨(rule, lookup) :: asked, s', .missed hlooks hmissed.1 hmissed.2 hinquiry, ?_,
              .cons rfl htranscript⟩
            rw [List.map_cons, List.append_assoc]
            rfl
          · rw [tryWindows_decided hlooks hanswer hmissed, hnext]
            exact ⟨[(rule, lookup)], next, .decided hlooks hmissed, rfl, .cons rfl (.nil next)⟩

namespace Inquiry

variable {rules : List StoredRule} {asked : List (StoredRule × Lookup)}
  {result : Except Failure WindowsMatch}

/-- What is looked up for is a first part of the rules. -/
theorem isPrefix (h : Inquiry mappingDomain unixName kind rules asked result) :
    asked.map (·.1) <+: rules := by
  induction h with
  | exhausted | denied | noDomain => exact List.nil_prefix
  | decided => exact List.cons_prefix_cons.mpr ⟨rfl, List.nil_prefix⟩
  | missed _ _ _ _ ih => exact List.cons_prefix_cons.mpr ⟨rfl, ih⟩

theorem looksUp (h : Inquiry mappingDomain unixName kind rules asked result) :
    ∀ pair ∈ asked, pair.1.LooksUp mappingDomain unixName pair.2 := by
  induction h with
  | exhausted | denied | noDomain => simp
  | decided hlooks => simpa using hlooks
  | missed hlooks _ _ _ ih => exact List.forall_mem_cons.mpr ⟨hlooks, ih⟩

/-- Only a self-reference that is missed gives way to another rule. -/
theorem missed_of_before {order : StoredRule → Option Nat}
    (h : Inquiry mappingDomain unixName kind rules asked result)
    (hascending : rules.Pairwise (StoredRule.Before order)) {rule earlier : StoredRule}
    {lookup : Lookup} (hmem : (rule, lookup) ∈ asked) (hearlier : earlier ∈ rules)
    (hbefore : StoredRule.Before order earlier rule) :
    isWildcard earlier.windowsName = true ∧
      ∃ missed, (earlier, missed) ∈ asked ∧ missed.Misses kind := by
  -- Nothing stands before the first rule.
  have hfirst : ∀ {rest : List StoredRule}, (rule :: rest).Pairwise (StoredRule.Before order) →
      earlier ∉ rule :: rest := by
    intro rest hpairs hmem
    rcases List.mem_cons.mp hmem with rfl | hrest
    · exact hbefore.asymm hbefore
    · exact hbefore.asymm ((List.pairwise_cons.mp hpairs).1 _ hrest)
  induction h with
  | exhausted | denied | noDomain => exact absurd hmem List.not_mem_nil
  | decided =>
      obtain ⟨rfl, -⟩ := Prod.mk.inj (List.mem_singleton.mp hmem)
      exact absurd hearlier (hfirst hascending)
  | missed _ hself hmisses _ ih =>
      rcases List.mem_cons.mp hmem with heq | hlater
      · obtain ⟨rfl, -⟩ := Prod.mk.inj heq
        exact absurd hearlier (hfirst hascending)
      · rcases List.mem_cons.mp hearlier with rfl | hrest
        · exact ⟨hself, _, List.mem_cons_self .., hmisses⟩
        · obtain ⟨hself', missed, hmissed, hmisses'⟩ :=
            ih (List.pairwise_cons.mp hascending).2 hlater hrest
          exact ⟨hself', missed, List.mem_cons_of_mem _ hmissed, hmisses'⟩

/-- A rule that nothing before it decides has its turn. -/
theorem turn {order : StoredRule → Option Nat}
    (h : Inquiry mappingDomain unixName kind rules asked result)
    (hascending : rules.Pairwise (StoredRule.Before order)) {rule : StoredRule}
    (hrule : rule ∈ rules)
    (hundecided : ∀ earlier ∈ rules, StoredRule.Before order earlier rule →
      isWildcard earlier.windowsName = true ∧
        ∃ missed, (earlier, missed) ∈ asked ∧ missed.Misses kind) :
    rule.Turn mappingDomain kind unixName asked result := by
  induction h with
  | exhausted => cases hrule
  | denied hdeny =>
      rcases List.mem_cons.mp hrule with rfl | hrest
      · exact .denies hdeny rfl
      · have hbefore := (List.pairwise_cons.mp hascending).1 _ hrest
        obtain ⟨-, missed, hmem, -⟩ := hundecided _ (List.mem_cons_self ..) hbefore
        cases hmem
  | noDomain hnamed hdomain =>
      rcases List.mem_cons.mp hrule with rfl | hrest
      · exact .noDomain hnamed hdomain rfl
      · have hbefore := (List.pairwise_cons.mp hascending).1 _ hrest
        obtain ⟨-, missed, hmem, -⟩ := hundecided _ (List.mem_cons_self ..) hbefore
        cases hmem
  | decided _ hstops =>
      rcases List.mem_cons.mp hrule with rfl | hrest
      · exact .decides (List.mem_singleton_self _) hstops rfl
      · have hbefore := (List.pairwise_cons.mp hascending).1 _ hrest
        obtain ⟨hself, missed, hmem, hmisses⟩ :=
          hundecided _ (List.mem_cons_self ..) hbefore
        obtain ⟨-, rfl⟩ := Prod.mk.inj (List.mem_singleton.mp hmem)
        exact absurd ⟨hself, hmisses⟩ hstops
  | missed _ hself hmisses _ ih =>
      obtain ⟨hfirst, hascending'⟩ := List.pairwise_cons.mp hascending
      rcases List.mem_cons.mp hrule with rfl | hrest
      · exact .missed (List.mem_cons_self ..) hself hmisses
      · refine (ih hascending' hrest fun earlier hearlier hbefore => ?_).mono
          (List.subset_cons_self ..)
        obtain ⟨hself', missed, hmem, hmisses'⟩ :=
          hundecided earlier (List.mem_cons_of_mem _ hearlier) hbefore
        refine ⟨hself', missed, (List.mem_cons.mp hmem).resolve_left fun heq => ?_, hmisses'⟩
        obtain ⟨rfl, -⟩ := Prod.mk.inj heq
        exact (hfirst _ hearlier).asymm (hfirst _ hearlier)

/-- The account that the rules lead to is what the last lookup has found. -/
theorem last_of_found (h : Inquiry mappingDomain unixName kind rules asked result)
    {found : WindowsMatch} (hfound : result = .ok found) :
    ∃ last, (asked.map (·.2)).getLast? = some last ∧ last.answer = .ok found.account ∧
      found.account.type.kind = kind := by
  induction h with
  | exhausted | denied | noDomain => cases hfound
  | decided => exact ⟨_, rfl, StoredRule.conclude_ok hfound⟩
  | missed _ _ _ _ ih =>
      obtain ⟨last, hlast, hanswer⟩ := ih hfound
      refine ⟨last, ?_, hanswer⟩
      rw [List.map_cons, List.getLast?_cons, hlast]
      rfl

/-- Nothing is found just when all rules are self-references that were missed. -/
theorem notFound_iff (h : Inquiry mappingDomain unixName kind rules asked result)
    (hnodup : rules.Nodup) :
    result = .error .notFound ↔ ∀ rule ∈ rules, isWildcard rule.windowsName = true ∧
      ∃ lookup, (rule, lookup) ∈ asked ∧ lookup.Misses kind := by
  induction h with
  | exhausted => simp
  | denied | noDomain =>
      refine ⟨fun h => (nomatch h), fun hall => ?_⟩
      obtain ⟨-, lookup, hmem, -⟩ := hall _ (List.mem_cons_self ..)
      exact absurd hmem List.not_mem_nil
  | decided _ hstops =>
      refine ⟨fun h => absurd h StoredRule.conclude_ne_notFound, fun hall => ?_⟩
      obtain ⟨hself, lookup, hmem, hmisses⟩ := hall _ (List.mem_cons_self ..)
      obtain ⟨-, rfl⟩ := Prod.mk.inj (List.mem_singleton.mp hmem)
      exact absurd ⟨hself, hmisses⟩ hstops
  | missed _ hself hmisses _ ih =>
      obtain ⟨hfresh, hrest⟩ := List.nodup_cons.mp hnodup
      rw [ih hrest, List.forall_mem_cons]
      constructor
      · intro hall
        refine ⟨⟨hself, _, List.mem_cons_self .., hmisses⟩, fun rule hrule => ?_⟩
        obtain ⟨hself', lookup, hmem, hmisses'⟩ := hall rule hrule
        exact ⟨hself', lookup, List.mem_cons_of_mem _ hmem, hmisses'⟩
      · rintro ⟨-, hall⟩ rule hrule
        obtain ⟨hself', lookup, hmem, hmisses'⟩ := hall rule hrule
        refine ⟨hself', lookup, (List.mem_cons.mp hmem).resolve_left fun heq => ?_, hmisses'⟩
        obtain ⟨rfl, -⟩ := Prod.mk.inj heq
        exact hfresh hrule

end Inquiry

end Rule

/-! ### What a search comes to -/

namespace StoredRule

/-- The rule may lead this unix name somewhere: it applies from unix to Windows and is for the
name or for any. -/
def concernsUnix (kind : IdKind) (unixName : String) (rule : StoredRule) : Bool :=
  rule.isUser == kind.isUser && rule.direction.any (·.isToWindows) &&
    (isWildcard rule.unixName || rule.unixName == unixName)

/-- The rule leads any name to itself. -/
def IsSelfReference (rule : StoredRule) : Prop :=
  rule.windowsName = wildcard ∧ rule.unixName = wildcard

variable {rule : StoredRule}

theorem isToWindows_direction :
    rule.direction.any (·.isToWindows) = applies rule.toWindowsOrder := by
  unfold StoredRule.direction
  cases applies rule.toUnixOrder <;> cases applies rule.toWindowsOrder <;> rfl

theorem matchesUnix_eq_concernsUnix (kind : IdKind) (unixName : String) (rule : StoredRule) :
    RuleTable.matchesUnix kind.isUser unixName rule = rule.concernsUnix kind unixName := by
  simp only [RuleTable.matchesUnix, concernsUnix, isToWindows_direction]
  grind

end StoredRule

namespace Rule

/-- Nothing that comes before the rule decides about the name: whatever concerns the name is a
self-reference that was missed. -/
def Undecided (table : RuleTable) (kind : IdKind) (unixName : String)
    (asked : List (StoredRule × Lookup)) (rule : StoredRule) : Prop :=
  ∀ earlier ∈ table.rules, earlier.concernsUnix kind unixName = true →
    StoredRule.Before (·.toWindowsOrder) earlier rule →
      earlier.IsSelfReference ∧ ∃ missed, (earlier, missed) ∈ asked ∧ missed.Misses kind

/-- What is to be said of the lookups for a unix name, each with the rule that it is for, and of
what comes of them. -/
structure SoundLookups (table : RuleTable) (mappingDomain : Option String) (kind : IdKind)
    (unixName : String) (asked : List (StoredRule × Lookup))
    (result : Except Failure WindowsMatch) : Prop where
  /-- Only rules that concern the name are looked up for, and each for its own destination. -/
  concerned : ∀ rule lookup, (rule, lookup) ∈ asked →
    rule ∈ table.rules ∧ rule.concernsUnix kind unixName = true ∧
      rule.LooksUp mappingDomain unixName lookup
  /-- They are by ascending order, so each is looked up for once at most. -/
  ascending : asked.Pairwise fun p q => StoredRule.Before (·.toWindowsOrder) p.1 q.1
  /-- A rule that concerns the name is looked up for just when nothing before it decides, it is no
  deny, and there is a domain for its destination. -/
  asked_iff : ∀ rule ∈ table.rules, rule.concernsUnix kind unixName = true →
    ((∃ lookup, (rule, lookup) ∈ asked) ↔
      Undecided table kind unixName asked rule ∧ isEmptyName rule.windowsName = false ∧
        rule.HasUsableDomain mappingDomain (rule.destination unixName))
  /-- What a rule comes to that nothing before it decides, and the result if it decides. -/
  turn : ∀ rule ∈ table.rules, rule.concernsUnix kind unixName = true →
    Undecided table kind unixName asked rule →
      rule.Turn mappingDomain kind unixName asked result
  /-- A name goes without a domain only if it is reserved and there is no mapping domain; an empty
  one is none. -/
  domain : ∀ rule lookup, (rule, lookup) ∈ asked → lookup.domain = "" →
    (WellKnown.ofName lookup.name).isSome = true ∧ ∀ d, mappingDomain = some d → d = ""
  /-- The account that is found is what the last lookup gave, and its kind is right. -/
  found : ∀ found, result = .ok found →
    ∃ last, (asked.map (·.2)).getLast? = some last ∧ last.answer = .ok found.account ∧
      found.account.type.kind = kind
  /-- Nothing is found just when all rules that concern the name are self-references that can
  be looked up for and were missed. -/
  notFound : result = .error .notFound ↔
    ∀ rule ∈ table.rules, rule.concernsUnix kind unixName = true →
      rule.IsSelfReference ∧ rule.HasUsableDomain mappingDomain unixName ∧
        ∃ lookup, (rule, lookup) ∈ asked ∧ lookup.Misses kind

section Search

variable {commands : List RuleCommand} {mappingDomain : Option String} {kind : IdKind}
  {unixName : String} {asked : List (StoredRule × Lookup)}
  {result : Except Failure WindowsMatch}

theorem mem_rulesForUnix {table : RuleTable} {rule : StoredRule} :
    rule ∈ table.rulesForUnix kind.isUser unixName
      ↔ rule ∈ table.rules ∧ rule.concernsUnix kind unixName = true := by
  rw [RuleTable.rulesForUnix, RuleTable.byOrder, List.mem_mergeSort, List.mem_filter,
    StoredRule.matchesUnix_eq_concernsUnix]

/-- A stored rule with the Windows name `*` has the unix name `*`, too. -/
theorem isSelfReference_of_isWildcard {rule : StoredRule}
    (hrule : rule ∈ (RuleTable.after commands).rules)
    (hconcerns : rule.concernsUnix kind unixName = true)
    (hself : isWildcard rule.windowsName = true) : rule.IsSelfReference := by
  obtain ⟨_, _, -, hstores⟩ := RuleTable.exists_add_of_mem_after hrule
  simp only [StoredRule.concernsUnix, StoredRule.isToWindows_direction, Bool.and_eq_true]
    at hconcerns
  obtain ⟨n, hn, -⟩ := (Option.any_eq_true _ _).mp hconcerns.1.2
  obtain ⟨hunix, hwindows⟩ := hstores.of_order hn
  have hany : isWildcard rule.unixName = true := by
    have hthree := hwindows.mp hself
    exact hunix.mpr (by omega)
  exact ⟨by simpa [isWildcard] using hself, by simpa [isWildcard] using hany⟩

section Inquiry

variable (h : Inquiry mappingDomain unixName kind
  ((RuleTable.after commands).rulesForUnix kind.isUser unixName) asked result)
include h

theorem Inquiry.concerned {rule : StoredRule} {lookup : Lookup} (hmem : (rule, lookup) ∈ asked) :
    rule ∈ (RuleTable.after commands).rules ∧ rule.concernsUnix kind unixName = true :=
  mem_rulesForUnix.mp (h.isPrefix.subset (List.mem_map.mpr ⟨(rule, lookup), hmem, rfl⟩))

/-- Whatever comes before a rule that is looked up for did not decide. -/
theorem Inquiry.undecided {rule : StoredRule} {lookup : Lookup} (hmem : (rule, lookup) ∈ asked) :
    Undecided (.after commands) kind unixName asked rule := by
  intro earlier hearlier hconcerns hbefore
  obtain ⟨hself, hmissed⟩ := h.missed_of_before
    (RuleTable.pairwise_rulesForUnix commands kind.isUser unixName) hmem
    (mem_rulesForUnix.mpr ⟨hearlier, hconcerns⟩) hbefore
  exact ⟨isSelfReference_of_isWildcard hearlier hconcerns hself, hmissed⟩

theorem Inquiry.turn_of_undecided {rule : StoredRule}
    (hrule : rule ∈ (RuleTable.after commands).rules)
    (hconcerns : rule.concernsUnix kind unixName = true)
    (hundecided : Undecided (.after commands) kind unixName asked rule) :
    rule.Turn mappingDomain kind unixName asked result := by
  refine h.turn (RuleTable.pairwise_rulesForUnix commands kind.isUser unixName)
    (mem_rulesForUnix.mpr ⟨hrule, hconcerns⟩) fun earlier hearlier hbefore => ?_
  obtain ⟨hmem, hconcerns'⟩ := mem_rulesForUnix.mp hearlier
  obtain ⟨hself, hmissed⟩ := hundecided earlier hmem hconcerns' hbefore
  exact ⟨by simp [hself.1, isWildcard], hmissed⟩

theorem Inquiry.asked_iff {rule : StoredRule} (hrule : rule ∈ (RuleTable.after commands).rules)
    (hconcerns : rule.concernsUnix kind unixName = true) :
    (∃ lookup, (rule, lookup) ∈ asked) ↔
      Undecided (.after commands) kind unixName asked rule ∧
        isEmptyName rule.windowsName = false ∧
        rule.HasUsableDomain mappingDomain (rule.destination unixName) := by
  constructor
  · rintro ⟨lookup, hmem⟩
    have hlooks := h.looksUp _ hmem
    exact ⟨h.undecided hmem, hlooks.isNamed, hlooks.hasUsableDomain⟩
  · rintro ⟨hundecided, hnamed, hdomain⟩
    cases h.turn_of_undecided hrule hconcerns hundecided with
    | denies hdeny _ =>
        rw [hnamed] at hdeny
        cases hdeny
    | noDomain _ hnone _ => exact absurd hdomain hnone
    | missed hmem _ _ => exact ⟨_, hmem⟩
    | decides hmem _ _ => exact ⟨_, hmem⟩

/-- What is said of the lookups holds of any that go through the rules one by one. -/
theorem Inquiry.soundLookups :
    SoundLookups (.after commands) mappingDomain kind unixName asked result := by
  have hascending := RuleTable.pairwise_rulesForUnix commands kind.isUser unixName
  have hnodup : ((RuleTable.after commands).rulesForUnix kind.isUser unixName).Nodup :=
    hascending.imp fun {a b} hbefore heq => by
      subst heq
      exact hbefore.asymm hbefore
  refine ⟨?_, ?_, ?_, ?_, ?_, ?_, ?_⟩
  · intro rule lookup hmem
    obtain ⟨hrule, hconcerns⟩ := h.concerned hmem
    exact ⟨hrule, hconcerns, h.looksUp _ hmem⟩
  · exact List.pairwise_map.mp (hascending.sublist h.isPrefix.sublist)
  · exact fun rule hrule hconcerns => h.asked_iff hrule hconcerns
  · exact fun rule hrule hconcerns hundecided => h.turn_of_undecided hrule hconcerns hundecided
  · intro rule lookup hmem hempty
    exact (h.looksUp _ hmem).of_domain_eq_empty hempty
  · exact fun found hfound => h.last_of_found hfound
  · rw [h.notFound_iff hnodup]
    constructor
    · intro hall rule hrule hconcerns
      obtain ⟨hself, lookup, hmem, hmisses⟩ := hall rule (mem_rulesForUnix.mpr ⟨hrule, hconcerns⟩)
      have hdomain := (h.looksUp _ hmem).hasUsableDomain
      rw [StoredRule.destination, if_pos hself] at hdomain
      exact ⟨isSelfReference_of_isWildcard hrule hconcerns hself, hdomain, lookup, hmem, hmisses⟩
    · intro hall rule hrule
      obtain ⟨hmem, hconcerns⟩ := mem_rulesForUnix.mp hrule
      obtain ⟨hself, -, hmissed⟩ := hall rule hmem hconcerns
      exact ⟨by simp [hself.1, isWildcard], hmissed⟩

end Inquiry

end Search

end Rule

/--
**What rules look up for a unix name, and when they find nothing.**

Whatever commands have made the rules, and whatever is asked for Windows names (with a memory
`σ` of its own, such as all that it was asked before): writing the lookups down changes
nothing, and they are answered one after the other by the one that is asked.

Each of them is for a rule that concerns the unix name, by ascending order.  A rule that concerns
the name is looked up for just when nothing before it decides, it is no deny, and there is a
domain for it; and when nothing before it decides, it decides itself unless it is a self-reference
that is missed.  A name goes without a domain only if it is reserved and there is no mapping
domain.  An account that is found is that of the last lookup and of the right type.  Nothing is
found just when all rules that concern the name are self-references that can be looked up for,
and all were missed.
-/
theorem sound_lookups (commands : List RuleCommand) (mappingDomain : Option String)
    (kind : IdKind) (unixName : String) {σ : Type}
    (resolve : String → String → σ → Except Failure NamedAccount × σ) (s : σ) :
    let table := RuleTable.after commands
    let search := Rule.mapToWindows table mappingDomain unixName kind (Rule.recorded resolve)
      (s, [])
    Rule.mapToWindows table mappingDomain unixName kind resolve s = (search.1, search.2.1) ∧
      ∃ asked : List (StoredRule × Rule.Lookup),
        search.2.2 = asked.map (·.2) ∧
        Rule.Transcript resolve s (asked.map (·.2)) search.2.1 ∧
        Rule.SoundLookups table mappingDomain kind unixName asked search.1 := by
  intro table search
  refine ⟨Rule.tryWindows_recorded _ s [], ?_⟩
  obtain ⟨asked, s', hinquiry, hlog, htranscript⟩ := Rule.exists_inquiry resolve mappingDomain
    unixName kind (table.rulesForUnix kind.isUser unixName) s []
  have hstate : search.2 = (s', asked.map (·.2)) := hlog
  rw [hstate]
  exact ⟨asked, rfl, htranscript, hinquiry.soundLookups⟩

namespace Staff

/-- Users of the host go by their own names in CORP, or else they are guests there. -/
def backCommands : List RuleCommand :=
  let rule (windowsName : String) : Rule :=
    { isUser := true, windowsDomain := none, windowsName, unixName := "*", isNt4 := false
      direction := .toWindows }
  [.add (rule "guest") (some "CORP"), .add (rule "*") (some "CORP")]

/-- The guest of CORP. -/
def guest : NamedAccount :=
  { sid := { base := "S-1-5-21-7", rid := 501 }, type := .user, source := .directory }

/-- A domain where there is nobody but the guest.  It counts how often it is asked. -/
def lookUp (name domain : String) (count : Nat) : Except Failure NamedAccount × Nat :=
  (if name = "guest" ∧ domain = "CORP" then .ok guest else .error .notFound, count + 1)

end Staff

/-- Zed is not there, and so he is the guest. -/
theorem sound_lookups_zed :
    ∃ asked : List (StoredRule × Rule.Lookup),
      (asked.map (·.2)).map (fun lookup => (lookup.name, lookup.domain))
        = [("zed", "CORP"), ("guest", "CORP")] ∧
      Rule.Transcript Staff.lookUp 0 (asked.map (·.2)) 2 ∧
      Rule.SoundLookups (.after Staff.backCommands) none .uid "zed" asked
        (.ok { account := Staff.guest, windowsName := "guest", windowsDomain := "CORP"
               direction := .toWindows }) := by
  have hrules : (RuleTable.after Staff.backCommands).rulesForUnix (IdKind.isUser .uid) "zed"
      = (List.range' 1 5).flatMap fun n =>
          ((RuleTable.after Staff.backCommands).rules.filter
            (RuleTable.matchesUnix true "zed")).filter fun rule =>
              rule.toWindowsOrder.getD 0 == n :=
    RuleTable.byOrder_eq_flatMap (by decide +kernel)
  let search := Rule.mapToWindows (.after Staff.backCommands) none "zed" .uid
    (Rule.recorded Staff.lookUp) (0, [])
  have hsearch : (search.1, search.2.1,
      search.2.2.map fun lookup => (lookup.name, lookup.domain))
        = (.ok { account := Staff.guest, windowsName := "guest", windowsDomain := "CORP"
                 direction := .toWindows },
            2, [("zed", "CORP"), ("guest", "CORP")]) := by
    simp only [search]
    rw [Rule.mapToWindows, RuleTable.windowsCandidates, hrules]
    decide +kernel
  obtain ⟨hresult, hrest⟩ := Prod.mk.inj hsearch
  obtain ⟨hcount, hlookups⟩ := Prod.mk.inj hrest
  obtain ⟨-, asked, hlog, htranscript, hsound⟩ :=
    sound_lookups Staff.backCommands none .uid "zed" Staff.lookUp 0
  exact ⟨asked, hlog ▸ hlookups, hcount ▸ htranscript, hresult ▸ hsound⟩

end IdentityMap
