import TraceAudit.Proofs.Analysis.Bodies
import TraceAudit.Proofs.Analysis.Enforcement
import TraceAudit.Proofs.Analysis.Outcomes
import TraceAudit.Proofs.Rules.Reach
import TraceAudit.Proofs.Text.Trimming

/-!
# What makes a call compliant

A call in the scope of a vendor's rule is compliant exactly if some text that it sends where the
vendor looks for the key is usable. In which order headers come, in which letters their names are
written, and which blanks are around names and values, has no part in this, and more headers never
make a call less compliant. Only what a report shows of a call depends on the order. The method has
a part in it: a call that changes nothing is out of scope, so calls are compared only if the methods
of both change something or neither does.
-/

namespace TraceAudit

open Web (Target)

/-! ## Usable texts -/

/-- A text can be a key: it is not blank and no placeholder, in letters of either case and with any
blanks around it. -/
structure Vendor.Accepts (v : Vendor) (text : String) : Prop where
  shown : Text.trim text ≠ ""
  meant : ∀ p ∈ v.placeholders, Text.lower (Text.trim p) ≠ Text.lower (Text.trim text)

theorem Vendor.isPlaceholder_eq_false_iff {v : Vendor} {text : String} :
    v.isPlaceholder text = false ↔ v.Accepts text := by
  rw [isPlaceholder, Bool.or_eq_false_iff, List.any_eq_false]
  constructor
  · rintro ⟨shown, meant⟩
    refine ⟨fun empty => ?_, fun p listed same => meant p listed ?_⟩
    · rw [empty] at shown
      cases shown
    · exact (Text.sameIgnoringCase_iff _ _).2 same
  · rintro ⟨shown, meant⟩
    refine ⟨?_, fun p listed same => meant p listed ((Text.sameIgnoringCase_iff _ _).1 same)⟩
    rw [← Bool.not_eq_true, String.isEmpty_iff]
    exact shown

/-- Blanks around a text do not matter. -/
theorem Vendor.Accepts.of_trim_eq {v : Vendor} {text other : String} (accepts : v.Accepts text)
    (same : Text.trim other = Text.trim text) : v.Accepts other :=
  ⟨same ▸ accepts.shown, same ▸ accepts.meant⟩

/-! ## What a call sends -/

/-- A call sends a text where a vendor looks for the key: in a header with the key's name, in
letters of either case and with any blanks around the name, or in a field of its body with that very
name. -/
inductive HttpCall.Sends (call : HttpCall) (v : Vendor) : String → Prop where
  | header {name : String} {value : Json} (sought : v.location = .header)
      (given : (name, value) ∈ call.headers)
      (named : Text.lower (Text.trim name) = Text.lower v.keyName) : Sends call v value.scalarText
  | field {body : Json} {text : String} (sought : v.location = .bodyField)
      (given : call.body = some body) (gives : body.GivesField v.keyName text) : Sends call v text

theorem HttpCall.mem_headerValues_iff {call : HttpCall} {name text : String} :
    text ∈ call.headerValues name ↔
      ∃ h ∈ call.headers, Text.lower (Text.trim h.1) = Text.lower name ∧ h.2.scalarText = text := by
  simp [headerValues, Text.sameIgnoringCase_iff, and_assoc]

theorem HttpCall.mem_keyValues_iff {call : HttpCall} {v : Vendor} {text : String} :
    text ∈ call.keyValues v ↔ call.Sends v text := by
  unfold keyValues
  constructor
  · intro sent
    cases sought : v.location with
    | header =>
        rw [sought] at sent
        obtain ⟨⟨name, value⟩, given, named, rfl⟩ := mem_headerValues_iff.1 sent
        exact .header sought given named
    | bodyField =>
        rw [sought] at sent
        obtain ⟨body, given, found⟩ := Option.bind_eq_some_iff.1 (Option.mem_toList.1 sent)
        exact .field sought given (bodyField?_eq_some_iff.1 found)
  · intro sends
    cases sends with
    | header sought given named =>
        rw [sought]
        exact mem_headerValues_iff.2 ⟨_, given, named, rfl⟩
    | field sought given gives =>
        rw [sought]
        have found := bodyField?_eq_some_iff.2 gives
        exact Option.mem_toList.2 (Option.bind_eq_some_iff.2 ⟨_, given, found⟩)

/-- A header as far as it matters: its name in small letters and its text, without blanks around
them. -/
def HttpCall.bareHeader (h : String × Json) : String × String :=
  (Text.lower (Text.trim h.1), Text.trim h.2.scalarText)

/-- A usable text that one call sends is there in a call with the same body and the same headers, as
far as they matter, and more. -/
theorem HttpCall.exists_usable_of_subset {call other : HttpCall} (body : other.body = call.body)
    (headers : call.headers.map bareHeader ⊆ other.headers.map bareHeader) {v : Vendor}
    (usable : ∃ text, call.Sends v text ∧ v.Accepts text) :
    ∃ text, other.Sends v text ∧ v.Accepts text := by
  obtain ⟨text, sends, accepts⟩ := usable
  cases sends with
  | header sought given named =>
      obtain ⟨⟨name, value⟩, also_given, same⟩ :=
        List.mem_map.1 (headers (List.mem_map_of_mem given))
      obtain ⟨same_name, same_text⟩ := Prod.mk.inj same
      exact ⟨value.scalarText, .header sought also_given (same_name.trans named),
        accepts.of_trim_eq same_text⟩
  | field sought given gives => exact ⟨text, .field sought (body.trans given) gives, accepts⟩

/-! ## Calls in the scope of a rule -/

/-- The method of a call is one that changes something, in letters of either case and with any
blanks around it. -/
def HttpCall.Changes (call : HttpCall) : Prop :=
  ∃ method ∈ ["POST", "PUT", "PATCH"], Text.lower (Text.trim call.method) = Text.lower method

theorem HttpCall.isMutating_iff {call : HttpCall} : call.isMutating = true ↔ call.Changes := by
  have capital : ∀ method ∈ mutatingMethods, Text.upper method = method := by decide
  rw [isMutating, List.contains_iff_mem]
  constructor
  · intro listed
    exact ⟨_, listed, (Text.lower_upper _).symm⟩
  · rintro ⟨method, listed, same⟩
    rw [Text.upper_eq_upper_iff.2 same, capital method listed]
    exact listed

/-- A path starts with one of the starts that a vendor gives. -/
def Vendor.Covers (v : Vendor) (path : String) : Prop :=
  ∃ start ∈ v.pathStarts, start.toList <+: path.toList

/-- A call that is not in the scope of a rule is not looked at. -/
theorem checkVendorCall_of_outside {call : HttpCall} {v : Vendor} {path : String}
    (outside : ¬(call.Changes ∧ v.Covers path)) : checkVendorCall call v path = .notApplicable := by
  unfold checkVendorCall
  refine if_neg fun scope => outside ?_
  obtain ⟨changes, covers⟩ := Bool.and_eq_true_iff.1 scope
  exact ⟨HttpCall.isMutating_iff.1 changes, Vendor.coversPath_iff.1 covers⟩

/-- One usable text is enough. -/
theorem checkVendorCall_of_usable {call : HttpCall} {v : Vendor} {path : String}
    (changes : call.Changes) (covers : v.Covers path)
    (usable : ∃ text, call.Sends v text ∧ v.Accepts text) :
    checkVendorCall call v path = .analyzed [] := by
  obtain ⟨text, sends, accepts⟩ := usable
  have found : (call.keyValues v).any (!v.isPlaceholder ·) = true := by
    refine List.any_eq_true.2 ⟨text, HttpCall.mem_keyValues_iff.2 sends, ?_⟩
    rw [Vendor.isPlaceholder_eq_false_iff.2 accepts]
    rfl
  unfold checkVendorCall
  rw [HttpCall.isMutating_iff.2 changes, Vendor.coversPath_iff.2 covers, Bool.and_self,
    if_pos rfl]
  dsimp only
  rw [if_pos found]

/-- A call in the scope of a rule that sends no usable text is reported. -/
theorem checkVendorCall_of_none_usable {call : HttpCall} {v : Vendor} {path : String}
    (changes : call.Changes) (covers : v.Covers path)
    (unusable : ∀ text, call.Sends v text → ¬v.Accepts text) :
    checkVendorCall call v path = .analyzed [paymentDetection call v (call.keyValues v)] := by
  refine checkVendorCall_of_unusable (HttpCall.isMutating_iff.2 changes)
    (Vendor.coversPath_iff.2 covers) fun text sent => ?_
  rw [← Bool.not_eq_false, Vendor.isPlaceholder_eq_false_iff]
  exact unusable text (HttpCall.mem_keyValues_iff.1 sent)

/-! ## Outcomes -/

/-- An outcome without what it shows of the call. -/
def Outcome.withoutEvidence : Outcome → Outcome
  | .analyzed detections => .analyzed (detections.map fun d => { d with evidence := "" })
  | .notApplicable => .notApplicable
  | .gap g => .gap g

namespace Outcome

theorem withoutEvidence_eq_gap_iff {o : Outcome} {g : Gap} :
    o.withoutEvidence = .gap g ↔ o = .gap g := by
  cases o <;> simp [withoutEvidence]

theorem withoutEvidence_eq_notApplicable_iff {o : Outcome} :
    o.withoutEvidence = .notApplicable ↔ o = .notApplicable := by
  cases o <;> simp [withoutEvidence]

theorem withoutEvidence_eq_clean_iff {o : Outcome} :
    o.withoutEvidence = .analyzed [] ↔ o = .analyzed [] := by
  cases o <;> simp [withoutEvidence]

/-- One detection without its evidence is that of its rule and its subject. -/
theorem withoutEvidence_eq_single_iff {o : Outcome} {e : Detection} :
    o.withoutEvidence = withoutEvidence (.analyzed [e]) ↔
      ∃ d, o = .analyzed [d] ∧ d.rule = e.rule ∧ d.subject = e.subject := by
  cases o with
  | gap g => simp [withoutEvidence]
  | notApplicable => simp [withoutEvidence]
  | analyzed detections =>
      simp [withoutEvidence, List.map_eq_cons_iff, Detection.mk.injEq]

end Outcome

/-- What a vendor makes of a call to a path of its hosts. -/
inductive Vendor.Rates (v : Vendor) (call : HttpCall) (path : String) : Outcome → Prop where
  /-- Only calls that change something on a path that the vendor covers need a key. -/
  | outside (scope : ¬(call.Changes ∧ v.Covers path)) : Rates v call path .notApplicable
  | compliant (changes : call.Changes) (covers : v.Covers path)
      (usable : ∃ text, call.Sends v text ∧ v.Accepts text) : Rates v call path (.analyzed [])
  | reported (changes : call.Changes) (covers : v.Covers path)
      (unusable : ∀ text, call.Sends v text → ¬v.Accepts text) {d : Detection}
      (rule : d.rule = paymentRule) (subject : d.subject = some v.provider) :
      Rates v call path (.analyzed [d])

/-- The outcome for a call to a vendor's host is what the vendor makes of it. -/
theorem Vendor.rates_iff {v : Vendor} {call : HttpCall} {path : String} {o : Outcome} :
    v.Rates call path o ↔
      o.withoutEvidence = (checkVendorCall call v path).withoutEvidence := by
  constructor
  · intro rates
    cases rates with
    | outside scope => rw [checkVendorCall_of_outside scope]
    | compliant changes covers usable => rw [checkVendorCall_of_usable changes covers usable]
    | reported changes covers unusable rule subject =>
        rw [checkVendorCall_of_none_usable changes covers unusable]
        exact Outcome.withoutEvidence_eq_single_iff.2 ⟨_, rfl, rule, subject⟩
  · intro same
    by_cases scope : call.Changes ∧ v.Covers path
    · obtain ⟨changes, covers⟩ := scope
      by_cases usable : ∃ text, call.Sends v text ∧ v.Accepts text
      · rw [checkVendorCall_of_usable changes covers usable] at same
        rw [Outcome.withoutEvidence_eq_clean_iff.1 same]
        exact .compliant changes covers usable
      · have unusable : ∀ text, call.Sends v text → ¬v.Accepts text :=
          fun text sends accepts => usable ⟨text, sends, accepts⟩
        rw [checkVendorCall_of_none_usable changes covers unusable] at same
        obtain ⟨d, rfl, rule, subject⟩ := Outcome.withoutEvidence_eq_single_iff.1 same
        exact .reported changes covers unusable rule subject
    · rw [checkVendorCall_of_outside scope] at same
      rw [Outcome.withoutEvidence_eq_notApplicable_iff.1 same]
      exact .outside scope

/-! ## Whose rule it is -/

/-- A vendor lists a domain, in letters of either case. -/
def Vendor.Lists (v : Vendor) (domain : String) : Prop :=
  ∃ d ∈ v.domains, Text.lower d = Text.lower domain

theorem Vendor.allowsDomain_eq_true_iff {v : Vendor} {domain : String} :
    v.allowsDomain domain = true ↔ v.Lists domain := by
  simp [allowsDomain, Lists, Text.sameIgnoringCase_iff]

/-- A call goes to a path of a vendor if the vendor is the first that lists the registrable domain
of the host. -/
inductive HttpCall.GoesTo (call : HttpCall) (rules : RuleSet) : Vendor → String → Prop where
  | first {target : Target} {domain : String} {before after : List Vendor} {v : Vendor}
      (read : Target.ofUrl? call.url = some target)
      (registrable : target.registrable = some domain)
      (order : rules.vendors = before ++ v :: after) (lists : v.Lists domain)
      (passed : ∀ u ∈ before, ¬u.Lists domain) : GoesTo call rules v target.path

theorem HttpCall.goesTo_iff {call : HttpCall} {rules : RuleSet} {v : Vendor} {path : String} :
    call.GoesTo rules v path ↔ ∃ target, rules.Judges call target v ∧ target.path = path := by
  have found_iff (domain : String) : rules.vendor? domain = some v ↔
      v.Lists domain ∧ ∃ before after, rules.vendors = before ++ v :: after ∧
        ∀ u ∈ before, ¬u.Lists domain := by
    unfold RuleSet.vendor?
    rw [List.find?_eq_some_iff_append, Vendor.allowsDomain_eq_true_iff]
    simp only [Bool.not_eq_true', ← Bool.not_eq_true, Vendor.allowsDomain_eq_true_iff]
  constructor
  · rintro ⟨read, registrable, order, lists, passed⟩
    refine ⟨_, ⟨read, ?_⟩, rfl⟩
    rw [RuleSet.vendorOf?, registrable, Option.bind_some]
    exact (found_iff _).2 ⟨lists, _, _, order, passed⟩
  · rintro ⟨target, ⟨read, vendor⟩, rfl⟩
    obtain ⟨domain, registrable, found⟩ := Option.bind_eq_some_iff.1 vendor
    obtain ⟨lists, before, after, order, passed⟩ := (found_iff domain).1 found
    exact .first read registrable order lists passed

/-- What a call earns under some rules. -/
inductive HttpCall.Earns (call : HttpCall) (rules : RuleSet) : Outcome → Prop where
  | unread (read : Target.ofUrl? call.url = none) : Earns call rules (.gap .uncoveredHost)
  | unlisted {target : Target} (read : Target.ofUrl? call.url = some target)
      (nobody : ∀ domain, target.registrable = some domain → ∀ v ∈ rules.vendors,
        ¬v.Lists domain) : Earns call rules (.gap .uncoveredHost)
  | rated {v : Vendor} {path : String} {o : Outcome} (goes : call.GoesTo rules v path)
      (rates : v.Rates call path o) : Earns call rules o

/-- A call that no vendor judges is uncovered. -/
theorem HttpCall.earns_gap_of_not_judged {call : HttpCall} {rules : RuleSet}
    (nobody : ¬∃ target v, rules.Judges call target v) :
    call.Earns rules (.gap .uncoveredHost) := by
  cases read : Target.ofUrl? call.url with
  | none => exact .unread read
  | some target =>
      refine .unlisted read fun domain registrable v listed lists => nobody ?_
      have found : (rules.vendor? domain).isSome = true :=
        List.find?_isSome.2 ⟨v, listed, Vendor.allowsDomain_eq_true_iff.2 lists⟩
      obtain ⟨first, found⟩ := Option.isSome_iff_exists.1 found
      refine ⟨target, first, read, ?_⟩
      rw [RuleSet.vendorOf?, registrable, Option.bind_some, found]

/-- The outcomes that a call earns are those that say of it what its outcome says, whatever they
show of it. -/
theorem HttpCall.earns_iff {call : HttpCall} {rules : RuleSet} {o : Outcome} :
    call.Earns rules o ↔ o.withoutEvidence = (checkPayment call rules).withoutEvidence := by
  constructor
  · intro earns
    cases earns with
    | unread read =>
        have uncovered : ¬∃ target v, rules.Judges call target v := by
          rintro ⟨target, v, judges⟩
          cases read.symm.trans judges.read
        rw [not_not.1 (mt covered_iff.1 uncovered)]
    | unlisted read nobody =>
        have uncovered : ¬∃ target v, rules.Judges call target v := by
          rintro ⟨target, v, judges⟩
          cases Option.some.inj (read.symm.trans judges.read)
          obtain ⟨domain, registrable, found⟩ := Option.bind_eq_some_iff.1 judges.vendor
          have allows := List.find?_some found
          exact nobody domain registrable v (List.mem_of_find?_eq_some found)
            (Vendor.allowsDomain_eq_true_iff.1 allows)
        rw [not_not.1 (mt covered_iff.1 uncovered)]
    | rated goes rates =>
        obtain ⟨target, judges, rfl⟩ := goesTo_iff.1 goes
        rw [judges.checkPayment_eq]
        exact Vendor.rates_iff.1 rates
  · intro same
    by_cases covered : ∃ target v, rules.Judges call target v
    · obtain ⟨target, v, judges⟩ := covered
      rw [judges.checkPayment_eq] at same
      exact .rated (goesTo_iff.2 ⟨target, judges, rfl⟩) (Vendor.rates_iff.2 same)
    · rw [not_not.1 (mt covered_iff.1 covered)] at same
      rw [Outcome.withoutEvidence_eq_gap_iff.1 same]
      exact earns_gap_of_not_judged covered

/-! ## Calls with other headers -/

section OtherHeaders

variable {call other : HttpCall} {v : Vendor} {path : String}

/-- A vendor makes the same of two calls if both change something or neither does, and both send a
usable text or neither does. -/
theorem Vendor.Rates.of_usable_iff {o : Outcome} (changes : other.Changes ↔ call.Changes)
    (usable : (∃ text, other.Sends v text ∧ v.Accepts text) ↔
      ∃ text, call.Sends v text ∧ v.Accepts text)
    (rates : v.Rates call path o) : v.Rates other path o := by
  cases rates with
  | outside scope =>
      exact .outside fun ⟨also_changes, covers⟩ => scope ⟨changes.1 also_changes, covers⟩
  | compliant here covers found => exact .compliant (changes.2 here) covers (usable.2 found)
  | reported here covers unusable rule subject =>
      refine .reported (changes.2 here) covers (fun text sends accepts => ?_) rule subject
      obtain ⟨text, sends, accepts⟩ := usable.1 ⟨text, sends, accepts⟩
      exact unusable text sends accepts

/-- Headers that are the same as far as they matter make no difference to a vendor. -/
theorem checkVendorCall_of_perm_headers (changes : other.Changes ↔ call.Changes)
    (body : other.body = call.body)
    (headers : (other.headers.map HttpCall.bareHeader).Perm
      (call.headers.map HttpCall.bareHeader)) :
    (checkVendorCall other v path).withoutEvidence =
      (checkVendorCall call v path).withoutEvidence := by
  have usable : (∃ text, call.Sends v text ∧ v.Accepts text) ↔
      ∃ text, other.Sends v text ∧ v.Accepts text :=
    ⟨HttpCall.exists_usable_of_subset body headers.symm.subset,
      HttpCall.exists_usable_of_subset body.symm headers.subset⟩
  exact Vendor.rates_iff.1 (.of_usable_iff changes.symm usable (Vendor.rates_iff.2 rfl))

/-- More headers make no usable text unusable: a vendor that reports nothing of a call makes the
same of one with them. -/
theorem checkVendorCall_of_more_headers (changes : other.Changes ↔ call.Changes)
    (body : other.body = call.body)
    (headers : call.headers.map HttpCall.bareHeader ⊆ other.headers.map HttpCall.bareHeader)
    (clean : (checkVendorCall call v path).detections = []) :
    checkVendorCall other v path = checkVendorCall call v path := by
  by_cases scope : call.Changes ∧ v.Covers path
  · obtain ⟨here, covers⟩ := scope
    by_cases usable : ∃ text, call.Sends v text ∧ v.Accepts text
    · have also_usable := HttpCall.exists_usable_of_subset body headers usable
      rw [checkVendorCall_of_usable here covers usable,
        checkVendorCall_of_usable (changes.2 here) covers also_usable]
    · have unusable : ∀ text, call.Sends v text → ¬v.Accepts text :=
        fun text sends accepts => usable ⟨text, sends, accepts⟩
      rw [checkVendorCall_of_none_usable here covers unusable] at clean
      cases clean
  · have also_outside : ¬(other.Changes ∧ v.Covers path) := fun ⟨also_changes, covers⟩ =>
      scope ⟨changes.1 also_changes, covers⟩
    rw [checkVendorCall_of_outside scope, checkVendorCall_of_outside also_outside]

end OtherHeaders

/-- A call has an outcome that it earns, and earns no other, what is shown of the call apart. Take two
calls with one address and one body whose methods both change something or both change nothing;
without this condition on the methods one may be in scope and the other not. Their outcomes say the
same if the headers are the same as far as they matter, in any order; and with more headers a call
of which nothing is reported has the same outcome. -/
theorem outcome_is_earned (call : HttpCall) (rules : RuleSet) :
    (∀ o, call.Earns rules o ↔ o.withoutEvidence = (checkPayment call rules).withoutEvidence) ∧
    ∀ other : HttpCall, other.url = call.url → other.body = call.body →
      (other.Changes ↔ call.Changes) →
      ((other.headers.map HttpCall.bareHeader).Perm (call.headers.map HttpCall.bareHeader) →
        (checkPayment other rules).withoutEvidence = (checkPayment call rules).withoutEvidence) ∧
      (call.headers ⊆ other.headers → (checkPayment call rules).detections = [] →
        checkPayment other rules = checkPayment call rules) := by
  refine ⟨fun o => HttpCall.earns_iff, fun other address body changes => ⟨fun headers => ?_,
    fun headers => ?_⟩⟩
  · exact checkPayment_related
      (motive := fun o also => also.withoutEvidence = o.withoutEvidence) rfl address
      fun target v _ => checkVendorCall_of_perm_headers changes body headers
  · exact checkPayment_related
      (motive := fun o also => o.detections = [] → also = o) (fun _ => rfl) address
      fun target v _ => checkVendorCall_of_more_headers changes body (List.map_subset _ headers)

/-- A call with a placeholder and with a usable key. -/
def keyedCall : HttpCall where
  method := "POST"
  url := "tcp://api.stripe.com/v1/charges"
  headers := [("IDEMPOTENCY-KEY", .string "test"), ("Idempotency-Key", .number (.integer 17))]
  body := none

/-- The same call in other letters, with other blanks and with its headers in another order. -/
def respelledCall : HttpCall where
  method := " post"
  url := "tcp://api.stripe.com/v1/charges"
  headers := [(" idempotency-key", .string "17 "), ("idempotency-KEY ", .string "test")]
  body := none

/-- The first call with one placeholder more. -/
def paddedCall : HttpCall where
  method := "POST"
  url := "tcp://api.stripe.com/v1/charges"
  headers := ("IDEMPOTENCY-key", .string "none") :: keyedCall.headers
  body := none

/-- All three calls are compliant. -/
theorem respelledCall_earned :
    respelledCall.url = keyedCall.url ∧ respelledCall.body = keyedCall.body ∧
    (respelledCall.Changes ↔ keyedCall.Changes) ∧
    (respelledCall.headers.map HttpCall.bareHeader).Perm
      (keyedCall.headers.map HttpCall.bareHeader) ∧
    (checkPayment respelledCall .builtin).withoutEvidence =
      (checkPayment keyedCall .builtin).withoutEvidence ∧
    keyedCall.Earns .builtin (.analyzed []) ∧
    checkPayment paddedCall .builtin = checkPayment keyedCall .builtin := by
  have compliant : checkPayment keyedCall .builtin = .analyzed [] := by decide +kernel
  have changes : respelledCall.Changes ↔ keyedCall.Changes :=
    iff_of_true (HttpCall.isMutating_iff.1 (by decide)) (HttpCall.isMutating_iff.1 (by decide))
  have headers : (respelledCall.headers.map HttpCall.bareHeader).Perm
      (keyedCall.headers.map HttpCall.bareHeader) := by
    decide +kernel
  have clean : (checkPayment keyedCall .builtin).detections = [] := by
    rw [compliant]
    rfl
  have padded : keyedCall.headers ⊆ paddedCall.headers := List.subset_cons_self _ _
  obtain ⟨earned, others⟩ := outcome_is_earned keyedCall .builtin
  have earns : keyedCall.Earns .builtin (.analyzed []) := by
    rw [earned, compliant]
  exact ⟨rfl, rfl, changes, headers, (others respelledCall rfl rfl changes).1 headers, earns,
    (others paddedCall rfl rfl Iff.rfl).2 padded clean⟩

end TraceAudit
