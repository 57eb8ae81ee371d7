import TraceAudit.Proofs.Analysis.Attribution

/-!
# Where a vendor's rule is enforced

A vendor's rule is enforced on a domain that the vendor lists if the vendor is found by it, as it is
if no vendor before it lists the same domain. Otherwise a vendor with another name judges each call
to the domain, and the rule is of no effect there. In the tables of the library no two vendors share
a domain. Those of a rules file may share one with them, under a name in other letters.
-/

namespace TraceAudit

open Web (Target)

/-- The host of a target is a domain or has it as its registrable domain. -/
def Web.Target.BelongsTo (target : Target) (domain : String) : Prop :=
  target.host = domain ∨ target.registrable = some domain

/-- A target that belongs to a registrable domain has it as its registrable domain. -/
theorem Web.Target.BelongsTo.registrable {target : Target} {d : String}
    (belongs : target.BelongsTo d) (parts : target.IsOfParts)
    (own : Web.registrableDomain? d = some d) : target.registrable = some d := by
  rcases belongs with host | registrable
  · rw [parts.registrable, host, own]
  · exact registrable

/-- A call in the scope of a rule that sends no usable key is reported under the vendor's name. -/
theorem checkVendorCall_of_unusable {call : HttpCall} {v : Vendor} {path : String}
    (mutating : call.isMutating = true) (covers : v.coversPath path = true)
    (unusable : ∀ value ∈ call.keyValues v, v.isPlaceholder value = true) :
    checkVendorCall call v path = .analyzed [paymentDetection call v (call.keyValues v)] := by
  have none_usable : ¬(call.keyValues v).any (!v.isPlaceholder ·) = true := by
    rw [List.any_eq_true]
    rintro ⟨value, sent, usable⟩
    rw [unusable value sent] at usable
    cases usable
  unfold checkVendorCall
  rw [mutating, covers, Bool.and_self, if_pos rfl]
  dsimp only
  rw [if_neg none_usable]

/-- A call on a path that the vendor does not cover is not looked at. -/
theorem checkVendorCall_of_not_coversPath (call : HttpCall) {v : Vendor} {path : String}
    (uncovered : v.coversPath path = false) : checkVendorCall call v path = .notApplicable := by
  unfold checkVendorCall
  rw [uncovered, Bool.and_false, if_neg Bool.false_ne_true]

namespace RuleSet

/-- Each call to a domain that is in the scope of a vendor's rule and sends no usable key is reported
under the vendor's name. -/
def Enforces (rules : RuleSet) (v : Vendor) (d : String) : Prop :=
  ∀ call target, Target.ofUrl? call.url = some target → target.BelongsTo d →
    call.isMutating = true → v.coversPath target.path = true →
    (∀ value ∈ call.keyValues v, v.isPlaceholder value = true) →
    checkPayment call rules = .analyzed [paymentDetection call v (call.keyValues v)]

/-- The vendor that is found by a registrable domain judges each call to it. -/
theorem judges_of_vendor? {rules : RuleSet} {d : String} {v : Vendor}
    (own : Web.registrableDomain? d = some d) (found : rules.vendor? d = some v) {call : HttpCall}
    {target : Target} (read : Target.ofUrl? call.url = some target)
    (belongs : target.BelongsTo d) : rules.Judges call target v := by
  refine ⟨read, ?_⟩
  unfold vendorOf?
  rw [belongs.registrable (Target.isOfParts_ofUrl? read) own, Option.bind_some, found]

/-- The rule of the vendor that is found by a registrable domain is enforced on it. -/
theorem enforces_of_vendor? {rules : RuleSet} {d : String} {v : Vendor}
    (own : Web.registrableDomain? d = some d) (found : rules.vendor? d = some v) :
    rules.Enforces v d := by
  intro call target read belongs mutating covers unusable
  rw [(judges_of_vendor? own found read belongs).checkPayment_eq]
  exact checkVendorCall_of_unusable mutating covers unusable

/-- In accepted rules each vendor is found by each of its domains exactly if no two vendors list one
domain. A vendor that is found by a domain enforces its rule there; for one that is not found, a
vendor with another name decides the outcome of each call to the domain. -/
theorem found_iff_disjoint {document : String} {rules : RuleSet}
    (accepted : ofToml document = .ok rules) :
    ((∀ v ∈ rules.vendors, ∀ d ∈ v.domains, rules.vendor? d = some v) ↔ rules.Disjoint) ∧
    ∀ v ∈ rules.vendors, ∀ d ∈ v.domains,
      (rules.vendor? d = some v ↔
        ∃ before after, rules.vendors = before ++ v :: after ∧ ∀ u ∈ before, d ∉ u.domains) ∧
      (rules.vendor? d = some v → rules.Enforces v d) ∧
      (rules.vendor? d ≠ some v →
        ∃ u ∈ rules.vendors, u.provider ≠ v.provider ∧ d ∈ u.domains ∧
          ∀ call target, Target.ofUrl? call.url = some target → target.BelongsTo d →
            checkPayment call rules = checkVendorCall call u target.path) := by
  have sound := soundVendors_ofToml accepted
  refine ⟨sound.all_found_iff, fun v there d listed => ?_⟩
  have own := sound.registrable v there d listed
  refine ⟨sound.vendor?_eq_some_iff there listed, enforces_of_vendor? own, fun missed => ?_⟩
  obtain ⟨u, within, renamed, also_listed, found⟩ := sound.exists_other there listed missed
  exact ⟨u, within, renamed, also_listed, fun _ _ read belongs =>
    (judges_of_vendor? own found read belongs).checkPayment_eq⟩

/-- The rules of the library are enforced on all their domains. -/
theorem builtin_enforced :
    ofToml "" = .ok builtin ∧
    ∀ v ∈ builtin.vendors, ∀ d ∈ v.domains, builtin.vendor? d = some v ∧ builtin.Enforces v d := by
  have accepted : ofToml "" = .ok builtin := by decide +kernel
  obtain ⟨all_found, each⟩ := found_iff_disjoint accepted
  have found := all_found.2 (by decide +kernel)
  exact ⟨accepted, fun v there d listed =>
    ⟨found v there d listed, (each v there d listed).2.1 (found v there d listed)⟩⟩

/-- A rules file with a rule for a provider of the library under a name in other letters. -/
def respelledDocument : String :=
  "[[vendor]]\nprovider_name='Stripe'\nhost_allowlist=['stripe.com']\npath_prefixes=['/v2/']\n" ++
  "idempotency_location='header'\nkey_name='Idempotency-Key'"

/-- The vendor of that file. -/
def respelledVendor : Vendor where
  provider := "Stripe"
  domains := ["stripe.com"]
  pathStarts := ["/v2/"]
  location := .header
  keyName := "Idempotency-Key"
  placeholders := []

/-- The rules of that file, over the tables of the library. -/
def respelledRules : RuleSet := ⟨builtinVendors ++ [respelledVendor], builtinCommands⟩

/-- A call in the scope of the vendor's rule, without a key. -/
def keylessCall : HttpCall where
  method := "POST"
  url := "tcp://stripe.com/v2/charges"
  headers := []
  body := none

/-- The vendor of the library is found by the domain of both. -/
theorem vendor?_respelledRules :
    respelledRules.vendor? "stripe.com" = some (builtinVendors.head (by decide)) := by
  decide +kernel

/-- A path that only the respelled rule covers is not looked at. -/
theorem passed_respelledRules {call : HttpCall} {target : Target}
    (read : Target.ofUrl? call.url = some target) (belongs : target.BelongsTo "stripe.com")
    (path : target.path = "/v2/charges") : checkPayment call respelledRules = .notApplicable := by
  have own : Web.registrableDomain? "stripe.com" = some "stripe.com" := by decide +kernel
  rw [(judges_of_vendor? own vendor?_respelledRules read belongs).checkPayment_eq, path]
  exact checkVendorCall_of_not_coversPath call (by decide)

/-- The respelled rule is accepted, but the vendor of the library is found in its place, and calls
that only the respelled rule is about are passed as not applicable. -/
theorem respelled_not_enforced :
    ofToml respelledDocument = .ok respelledRules ∧ respelledVendor ∈ respelledRules.vendors ∧
      "stripe.com" ∈ respelledVendor.domains ∧
      respelledRules.vendor? "stripe.com" ≠ some respelledVendor ∧
      ¬respelledRules.Enforces respelledVendor "stripe.com" ∧
      ∀ call target, Target.ofUrl? call.url = some target → target.BelongsTo "stripe.com" →
        target.path = "/v2/charges" → checkPayment call respelledRules = .notApplicable := by
  have accepted : ofToml respelledDocument = .ok respelledRules := by decide +kernel
  have other : respelledRules.vendor? "stripe.com" ≠ some respelledVendor := by
    rw [vendor?_respelledRules]
    decide
  have read : Target.ofUrl? keylessCall.url =
      some ⟨"stripe.com", some "stripe.com", "/v2/charges"⟩ := by
    decide +kernel
  have not_enforced : ¬respelledRules.Enforces respelledVendor "stripe.com" := by
    intro enforced
    have reported := enforced keylessCall _ read (.inl rfl) (by decide) (by decide) (by decide)
    rw [passed_respelledRules read (.inl rfl) rfl] at reported
    cases reported
  exact ⟨accepted, by decide, by decide, other, not_enforced,
    fun _ _ read belongs path => passed_respelledRules read belongs path⟩

end RuleSet
end TraceAudit
