import TraceAudit.Analysis.Payment
import TraceAudit.Proofs.Rules.Vendors
import TraceAudit.Proofs.Web.Authority

/-!
# Whose call it is

A call is judged by a vendor only if the host of its URL is one of the vendor's domains or lies below
one. Nothing else that a URL says has a part in it: not the user before the host, not the port, the
path or the query after it, and not the labels before a domain. A domain with more labels after it
is another host.
-/

namespace TraceAudit

open Web (IsWithin NamesHost Target)

/-- The target of a call and the vendor that judges it. -/
structure RuleSet.Judges (rules : RuleSet) (call : HttpCall) (target : Target) (v : Vendor) :
    Prop where
  read : Target.ofUrl? call.url = some target
  vendor : rules.vendorOf? target = some v

/-- The vendor that judges a call decides its outcome. -/
theorem RuleSet.Judges.checkPayment_eq {rules : RuleSet} {call : HttpCall} {target : Target}
    {v : Vendor} (judges : rules.Judges call target v) :
    checkPayment call rules = checkVendorCall call v target.path := by
  unfold checkPayment
  rw [judges.read]
  dsimp only
  rw [judges.vendor]

/-- A call to a vendor's host is never a gap. -/
theorem checkVendorCall_ne_gap (call : HttpCall) (v : Vendor) (path : String) (g : Gap) :
    checkVendorCall call v path ≠ .gap g := by
  unfold checkVendorCall
  split
  · dsimp only
    split <;> exact Outcome.noConfusion
  · exact Outcome.noConfusion

/-- A call is covered exactly if some vendor judges it. -/
theorem covered_iff {call : HttpCall} {rules : RuleSet} :
    checkPayment call rules ≠ .gap .uncoveredHost ↔ ∃ target v, rules.Judges call target v := by
  constructor
  · intro covered
    unfold checkPayment at covered
    cases read : Target.ofUrl? call.url with
    | none =>
        rw [read] at covered
        exact absurd rfl covered
    | some target =>
        cases vendor : rules.vendorOf? target with
        | none =>
            rw [read] at covered
            dsimp only at covered
            rw [vendor] at covered
            exact absurd rfl covered
        | some v => exact ⟨target, v, read, vendor⟩
  · rintro ⟨target, v, judges⟩
    rw [judges.checkPayment_eq]
    exact checkVendorCall_ne_gap call v target.path .uncoveredHost

/-- The same vendor judges each call with one address. -/
theorem RuleSet.Judges.of_url_eq {rules : RuleSet} {call other : HttpCall} {target : Target}
    {v : Vendor} (judges : rules.Judges call target v) (address : other.url = call.url) :
    rules.Judges other target v :=
  ⟨(congrArg Target.ofUrl? address).trans judges.read, judges.vendor⟩

/-- Outcomes of two calls with one address are related if those are that the vendor has for them who
judges both. -/
theorem checkPayment_related {motive : Outcome → Outcome → Prop}
    (uncovered : motive (.gap .uncoveredHost) (.gap .uncoveredHost)) {call other : HttpCall}
    (address : other.url = call.url) {rules : RuleSet}
    (judged : ∀ target v, rules.Judges call target v →
      motive (checkVendorCall call v target.path) (checkVendorCall other v target.path)) :
    motive (checkPayment call rules) (checkPayment other rules) := by
  by_cases covered : ∃ target v, rules.Judges call target v
  · obtain ⟨target, v, judges⟩ := covered
    rw [judges.checkPayment_eq, (judges.of_url_eq address).checkPayment_eq]
    exact judged target v judges
  · have also_uncovered : ¬∃ target v, rules.Judges other target v :=
      fun ⟨target, v, judges⟩ => covered ⟨target, v, judges.of_url_eq address.symm⟩
    rw [not_not.1 (mt covered_iff.1 covered), not_not.1 (mt covered_iff.1 also_uncovered)]
    exact uncovered

/-- The vendor that judges a call lists the registrable domain of its target. -/
theorem RuleSet.SoundVendors.registrable_listed {rules : RuleSet} (sound : rules.SoundVendors)
    {call : HttpCall} {target : Target} {v : Vendor} (judges : rules.Judges call target v) :
    v ∈ rules.vendors ∧ ∃ d ∈ v.domains, Web.registrableDomain? target.host = some d := by
  obtain ⟨d, registrable, found⟩ := Option.bind_eq_some_iff.1 judges.vendor
  rw [(Target.isOfParts_ofUrl? judges.read).registrable] at registrable
  obtain ⟨there, listed⟩ :=
    sound.listed_of_vendor? (Web.lower_of_registrableDomain? registrable) found
  exact ⟨there, d, listed, registrable⟩

/-- A call that is not uncovered is judged by a vendor with a domain that the host of its URL is or
lies below. The host is what the part of the URL between the user and the port names by itself. -/
theorem covered_host_within {document : String} {rules : RuleSet}
    (accepted : RuleSet.ofToml document = .ok rules) {call : HttpCall}
    (covered : checkPayment call rules ≠ .gap .uncoveredHost) :
    ∃ target v, rules.Judges call target v ∧ v ∈ rules.vendors ∧
      checkPayment call rules = checkVendorCall call v target.path ∧
      (∃ d ∈ v.domains,
        IsWithin ((Web.withoutFinalDots target.host.toList).map Char.toLower) d.toList) ∧
      ∀ kind host, NamesHost kind host (Web.cleanUrl (Text.trimChars call.url.toList)) →
        ∃ h, Web.Host.ofText? kind host = some h ∧ target.host = String.ofList h.text := by
  obtain ⟨target, v, judges⟩ := covered_iff.1 covered
  obtain ⟨there, d, listed, registrable⟩ :=
    (RuleSet.soundVendors_ofToml accepted).registrable_listed judges
  have within := Web.isWithin_of_registrableDomain? registrable
  rw [(Target.isOfParts_ofUrl? judges.read).plainHost] at within
  exact ⟨target, v, judges, there, judges.checkPayment_eq, ⟨d, listed, within⟩,
    fun _ _ named => Web.ofText?_of_namesHost named judges.read⟩

/-- A call whose URL names another provider before the host and after it. -/
def disguisedCall : HttpCall where
  method := "POST"
  url := "tcp://evil.com@api.stripe.com:443/v1/charges?to=adyen.com"
  headers := []
  body := none

theorem disguisedCall_host_within :
    RuleSet.ofToml "" = .ok .builtin ∧
    checkPayment disguisedCall .builtin ≠ .gap .uncoveredHost ∧
    ∃ target v, RuleSet.builtin.Judges disguisedCall target v ∧ v ∈ RuleSet.builtin.vendors ∧
      checkPayment disguisedCall .builtin = checkVendorCall disguisedCall v target.path ∧
      (∃ d ∈ v.domains,
        IsWithin ((Web.withoutFinalDots target.host.toList).map Char.toLower) d.toList) ∧
      ∀ kind host, NamesHost kind host (Web.cleanUrl (Text.trimChars disguisedCall.url.toList)) →
        ∃ h, Web.Host.ofText? kind host = some h ∧ target.host = String.ofList h.text := by
  have accepted : RuleSet.ofToml "" = .ok .builtin := by decide +kernel
  have covered : checkPayment disguisedCall .builtin ≠ .gap .uncoveredHost := by decide +kernel
  exact ⟨accepted, covered, covered_host_within accepted covered⟩

end TraceAudit
