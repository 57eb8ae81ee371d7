import TraceAudit.Proofs.Analysis.Compliance

/-!
# Names of keys

A key that is looked for in the body is found under the very name that the rule gives. One that is
looked for in a header is found under a name without the blanks around it, while the rule's name
keeps the blanks that it was given with. So a key can be sent under the configured name exactly if
it is sent in the body or if its name has no blanks around it; and if not, no header of any name is
the key.
-/

namespace TraceAudit

open Web (Target)

/-- A call sends a text under the name of a vendor's key as the rule writes it: as a header, or as a
member of an object. -/
inductive HttpCall.SendsByName (call : HttpCall) (v : Vendor) (text : String) : Prop where
  | header (sought : v.location = .header) (given : (v.keyName, .string text) ∈ call.headers)
  | field {members : List (String × Json)} (sought : v.location = .bodyField)
      (given : call.body = some (.object members))
      (member : members.lookup v.keyName = some (.string text))

/-- The name of a vendor's key can be found where the vendor looks for it. -/
def Vendor.FindsKey (v : Vendor) : Prop :=
  v.location = .bodyField ∨ Text.trim v.keyName = v.keyName

instance (v : Vendor) : Decidable v.FindsKey :=
  inferInstanceAs (Decidable (_ ∨ _))

/-- What a call sends by a name that can be found is sent where the vendor looks for the key. -/
theorem HttpCall.SendsByName.sends {call : HttpCall} {v : Vendor} {text : String}
    (byName : call.SendsByName v text) (finds : v.FindsKey) : call.Sends v text := by
  cases byName with
  | header sought given =>
      rcases finds with body | trimmed
      · cases sought.symm.trans body
      · have sends : call.Sends v (Json.string text).scalarText :=
          .header sought given (congrArg Text.lower trimmed)
        exact sends
  | @field members sought given member =>
      have gives : (Json.object members).GivesField v.keyName (Json.string text).scalarText :=
        .object member
      exact .field sought given gives

/-- A header whose name is compared without blanks never has a name with blanks around it. -/
theorem HttpCall.findsKey_of_sends {call : HttpCall} {v : Vendor} {text : String}
    (sends : call.Sends v text) : v.FindsKey := by
  cases sends with
  | header _ _ named => exact .inr (Text.trim_eq_self_of_lower_eq named)
  | field sought => exact .inl sought

/-- Of a call in the scope of a vendor's rule that sends a usable key by the name that the rule
gives, nothing is reported exactly if the name can be found. If it cannot, each call in the scope of
the rule is reported, whatever it sends. -/
theorem key_by_name_compliant_iff {rules : RuleSet} {call : HttpCall} {target : Target} {v : Vendor}
    (judges : rules.Judges call target v) (mutating : call.isMutating = true)
    (covered : v.coversPath target.path = true) :
    (∀ text, v.isPlaceholder text = false → call.SendsByName v text →
      (checkPayment call rules = .analyzed [] ↔ v.FindsKey)) ∧
    (¬v.FindsKey → checkPayment call rules = .analyzed [paymentDetection call v []]) := by
  have changes := HttpCall.isMutating_iff.1 mutating
  have covers : v.Covers target.path := Vendor.coversPath_iff.1 covered
  have reported (lost : ¬v.FindsKey) :
      checkPayment call rules = .analyzed [paymentDetection call v []] := by
    have silent : ∀ text, ¬call.Sends v text :=
      fun _ sends => lost (HttpCall.findsKey_of_sends sends)
    have no_values : call.keyValues v = [] :=
      List.eq_nil_iff_forall_not_mem.2 fun text sent =>
        silent text (HttpCall.mem_keyValues_iff.1 sent)
    rw [judges.checkPayment_eq, checkVendorCall_of_none_usable changes covers
      fun text sends _ => silent text sends, no_values]
  refine ⟨fun text usable byName => ⟨fun clean => ?_, fun finds => ?_⟩, reported⟩
  · by_contra lost
    rw [reported lost] at clean
    cases clean
  · have accepts := Vendor.isPlaceholder_eq_false_iff.1 usable
    rw [judges.checkPayment_eq]
    exact checkVendorCall_of_usable changes covers ⟨text, byName.sends finds, accepts⟩

/-- A call that sends the key of a vendor of the library by its name. -/
def namedCall : HttpCall where
  method := "POST"
  url := "tcp://api.stripe.com/v1/charges"
  headers := [("Idempotency-Key", .string "order-1")]
  body := none

theorem namedCall_compliant :
    RuleSet.builtin.Judges namedCall ⟨"api.stripe.com", some "stripe.com", "/v1/charges"⟩
      (RuleSet.builtinVendors.head (by decide)) ∧
    namedCall.SendsByName (RuleSet.builtinVendors.head (by decide)) "order-1" ∧
    checkPayment namedCall .builtin = .analyzed [] := by
  have judges : RuleSet.builtin.Judges namedCall
      ⟨"api.stripe.com", some "stripe.com", "/v1/charges"⟩
      (RuleSet.builtinVendors.head (by decide)) :=
    ⟨by decide +kernel, by decide +kernel⟩
  have byName : namedCall.SendsByName (RuleSet.builtinVendors.head (by decide)) "order-1" :=
    .header rfl List.mem_cons_self
  have compliant := (key_by_name_compliant_iff judges (by decide) (by decide)).1 "order-1"
    (by decide) byName
  exact ⟨judges, byName, compliant.2 (by decide)⟩

/-- A rules file with blanks around the name of a key. -/
def spacedNameDocument : String :=
  "[[vendor]]\nprovider_name='B'\nhost_allowlist=['shop.de']\npath_prefixes=['/v1/']\n" ++
  "idempotency_location='header'\nkey_name=' Key '"

/-- The vendor of that file. -/
def spacedNameVendor : Vendor where
  provider := "B"
  domains := ["shop.de"]
  pathStarts := ["/v1/"]
  location := .header
  keyName := " Key "
  placeholders := []

/-- The rules of that file, over the tables of the library. -/
def spacedNameRules : RuleSet :=
  ⟨RuleSet.builtinVendors ++ [spacedNameVendor], RuleSet.builtinCommands⟩

/-- A call that sends the key by the name that the file gives. -/
def spacedNameCall : HttpCall where
  method := "POST"
  url := "tcp://shop.de/v1/charges"
  headers := [(" Key ", .string "order-1")]
  body := none

/-- The file is accepted, but the key is reported missing from a call that sends it by its name. -/
theorem spacedNameCall_reported :
    RuleSet.ofToml spacedNameDocument = .ok spacedNameRules ∧
    spacedNameRules.Judges spacedNameCall ⟨"shop.de", some "shop.de", "/v1/charges"⟩
      spacedNameVendor ∧
    spacedNameCall.isMutating = true ∧ spacedNameVendor.coversPath "/v1/charges" = true ∧
    spacedNameVendor.isPlaceholder "order-1" = false ∧
    spacedNameCall.SendsByName spacedNameVendor "order-1" ∧
    checkPayment spacedNameCall spacedNameRules =
      .analyzed [⟨paymentRule, "B: POST tcp://shop.de/v1/charges ( Key  missing)", some "B"⟩] := by
  have byName : spacedNameCall.SendsByName spacedNameVendor "order-1" :=
    .header rfl List.mem_cons_self
  exact ⟨by decide +kernel, ⟨by decide +kernel, by decide +kernel⟩, by decide, by decide, by decide,
    byName, by decide +kernel⟩

end TraceAudit
