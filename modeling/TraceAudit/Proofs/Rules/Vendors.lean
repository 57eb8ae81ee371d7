import Mathlib.Data.List.Pairwise
import TraceAudit.Proofs.Rules.Merge
import TraceAudit.Proofs.Web.Suffixes

/-!
# Vendors of accepted rules

In every accepted rule set the names of the vendors are distinct and the domains of each are
registrable. The merge looks at names and the lookup at domains, so one domain may be listed under
two names, and then it is the first vendor that is found. Each vendor is found by its own domains
exactly if no two of them list one domain.
-/

namespace TraceAudit

namespace RuleSet

/-- The domains of all vendors are registrable, and no two vendors have one name. -/
structure SoundVendors (rules : RuleSet) : Prop where
  registrable : ∀ v ∈ rules.vendors, ∀ d ∈ v.domains, Web.registrableDomain? d = some d
  distinct : (rules.vendors.map Vendor.provider).Nodup

theorem soundVendors_empty : empty.SoundVendors :=
  ⟨fun _ listed => absurd listed List.not_mem_nil, List.nodup_nil⟩

theorem soundVendors_builtin : builtin.SoundVendors :=
  ⟨by decide +kernel, by decide +kernel⟩

end RuleSet

/-- A rule without a fault has registrable domains once they are normalized. -/
theorem Vendor.registrable_of_faultless {v : Vendor} (faultless : v.fault? = none) :
    ∀ d ∈ v.normalized.domains, Web.registrableDomain? d = some d := by
  intro d listed
  unfold fault? at faultless
  split at faultless
  · cases faultless
  · split at faultless
    · cases faultless
    · split at faultless
      · cases faultless
      · rename_i all_registrable
        have registrable := List.find?_eq_none.1 all_registrable d listed
        simpa [isRegistrable] using registrable

namespace RuleSet

theorem SoundVendors.addVendor {rules after : RuleSet} {v : Vendor} (sound : rules.SoundVendors)
    (added : rules.addVendor v = .ok after) : after.SoundVendors := by
  unfold RuleSet.addVendor at added
  split at added
  · cases added
  · rename_i faultless
    rw [← Except.ok.inj added]
    refine ⟨fun other listed => ?_, nodup_map_key_put (fun old => ?_) sound.distinct⟩
    · rcases mem_put listed with rfl | kept
      · exact Vendor.registrable_of_faultless faultless
      · exact sound.registrable other kept
    · rw [beq_iff_eq, eq_comm]

theorem SoundVendors.addCommand {rules after : RuleSet} {c : CommandRule}
    (sound : rules.SoundVendors) (added : rules.addCommand c = .ok after) :
    after.SoundVendors := by
  unfold RuleSet.addCommand at added
  split at added
  · cases added
  · rw [← Except.ok.inj added]
    exact ⟨sound.registrable, sound.distinct⟩

/-- The vendors of an accepted document are sound. -/
theorem soundVendors_ofToml {document : String} {rules : RuleSet}
    (accepted : ofToml document = .ok rules) : rules.SoundVendors :=
  ofToml_induction soundVendors_empty soundVendors_builtin
    (fun added sound => sound.addVendor added) (fun added sound => sound.addCommand added) accepted

/-! ## Lookups by domain -/

/-- A vendor allows a domain in small letters exactly if it lists it. -/
theorem SoundVendors.allowsDomain_iff {rules : RuleSet} (sound : rules.SoundVendors) {v : Vendor}
    (there : v ∈ rules.vendors) {domain : String} (small : Text.lower domain = domain) :
    v.allowsDomain domain = true ↔ domain ∈ v.domains := by
  unfold Vendor.allowsDomain
  rw [List.any_eq_true]
  constructor
  · rintro ⟨d, listed, same⟩
    rw [Text.sameIgnoringCase_iff, small,
      Web.lower_of_registrableDomain? (sound.registrable v there d listed)] at same
    exact same ▸ listed
  · intro listed
    exact ⟨domain, listed, Text.sameIgnoringCase_refl domain⟩

/-- The vendor that is found by a domain in small letters lists it. -/
theorem SoundVendors.listed_of_vendor? {rules : RuleSet} (sound : rules.SoundVendors)
    {domain : String} (small : Text.lower domain = domain) {v : Vendor}
    (found : rules.vendor? domain = some v) : v ∈ rules.vendors ∧ domain ∈ v.domains := by
  unfold vendor? at found
  have there : v ∈ rules.vendors := List.mem_of_find?_eq_some found
  have allowed := List.find?_some found
  exact ⟨there, (sound.allowsDomain_iff there small).1 allowed⟩

/-- A vendor is found by a domain that it lists exactly if no vendor before it lists the domain. -/
theorem SoundVendors.vendor?_eq_some_iff {rules : RuleSet} (sound : rules.SoundVendors) {v : Vendor}
    (there : v ∈ rules.vendors) {d : String} (listed : d ∈ v.domains) :
    rules.vendor? d = some v ↔
      ∃ before after, rules.vendors = before ++ v :: after ∧ ∀ u ∈ before, d ∉ u.domains := by
  have small := Web.lower_of_registrableDomain? (sound.registrable v there d listed)
  unfold vendor?
  rw [List.find?_eq_some_iff_append, and_iff_right ((sound.allowsDomain_iff there small).2 listed)]
  constructor
  · rintro ⟨before, after, split, passed⟩
    refine ⟨before, after, split, fun u earlier also_listed => ?_⟩
    have within : u ∈ rules.vendors := split ▸ List.mem_append_left _ earlier
    have allowed := (sound.allowsDomain_iff within small).2 also_listed
    have refused := passed u earlier
    rw [allowed] at refused
    cases refused
  · rintro ⟨before, after, split, passed⟩
    refine ⟨before, after, split, fun u earlier => ?_⟩
    have within : u ∈ rules.vendors := split ▸ List.mem_append_left _ earlier
    rw [Bool.not_eq_true']
    exact Bool.eq_false_iff.2 fun allowed =>
      passed u earlier ((sound.allowsDomain_iff within small).1 allowed)

/-- A vendor that is not found by a domain that it lists has another before it, with another name,
which is found. -/
theorem SoundVendors.exists_other {rules : RuleSet} (sound : rules.SoundVendors) {v : Vendor}
    (there : v ∈ rules.vendors) {d : String} (listed : d ∈ v.domains)
    (missed : rules.vendor? d ≠ some v) :
    ∃ u ∈ rules.vendors, u.provider ≠ v.provider ∧ d ∈ u.domains ∧ rules.vendor? d = some u := by
  have small := Web.lower_of_registrableDomain? (sound.registrable v there d listed)
  cases found : rules.vendor? d with
  | none =>
      have refused := List.find?_eq_none.1 found v there
      exact absurd ((sound.allowsDomain_iff there small).2 listed) refused
  | some u =>
      obtain ⟨within, also_listed⟩ := sound.listed_of_vendor? small found
      refine ⟨u, within, fun same => ?_, also_listed, rfl⟩
      have itself : u = v := List.inj_on_of_nodup_map sound.distinct within there same
      exact missed (itself ▸ found)

/-- No two vendors list one domain. -/
def Disjoint (rules : RuleSet) : Prop :=
  rules.vendors.Pairwise fun u v => ∀ d ∈ u.domains, d ∉ v.domains

instance (rules : RuleSet) : Decidable rules.Disjoint :=
  inferInstanceAs (Decidable (rules.vendors.Pairwise _))

/-- Each vendor is found by each of its domains exactly if no two vendors list one domain. -/
theorem SoundVendors.all_found_iff {rules : RuleSet} (sound : rules.SoundVendors) :
    (∀ v ∈ rules.vendors, ∀ d ∈ v.domains, rules.vendor? d = some v) ↔ rules.Disjoint := by
  constructor
  · intro all_found
    refine List.pairwise_iff_forall_sublist.2 fun {u v} ordered d listed also_listed => ?_
    have first := all_found u (ordered.subset (by simp)) d listed
    have second := all_found v (ordered.subset (by simp)) d also_listed
    have same : u = v := Option.some.inj (first.symm.trans second)
    exact List.nodup_iff_sublist.1 sound.distinct.of_map v (same ▸ ordered)
  · intro disjoint v there d listed
    by_contra missed
    obtain ⟨u, within, renamed, also_listed, _⟩ := sound.exists_other there listed missed
    have symmetric : Std.Symm fun u v : Vendor => ∀ d ∈ u.domains, d ∉ v.domains :=
      ⟨fun _ _ apart d listed also_listed => apart d also_listed listed⟩
    exact disjoint.forall within there (fun same => renamed (congrArg Vendor.provider same)) d
      also_listed listed

end RuleSet
end TraceAudit
