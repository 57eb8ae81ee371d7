import TraceAudit.Proofs.Rules.Vendors
import TraceAudit.Proofs.Web.NamedUrls

/-!
# What the domains and paths of vendors reach

A domain that is not registrable is refused, as it could never match, and so is the start of a path
without a slash. Not all that is accepted matches: a URL writes hosts and paths in its own way, and
rules are compared with what it writes. The URL of a domain and the start of a path is the vendor's
exactly if the domain is plain, and the start is plain or another start takes its place.
-/

namespace TraceAudit

/-- What the paths of a rule without a fault start with begins with a slash. -/
theorem Vendor.absolute_of_faultless {v : Vendor} (faultless : v.fault? = none) :
    ∀ start ∈ v.normalized.pathStarts, start.toList.head? = some '/' := by
  intro start listed
  rw [normalized] at listed
  unfold fault? at faultless
  split at faultless
  · cases faultless
  · split at faultless
    · cases faultless
    · split at faultless
      · cases faultless
      · split at faultless
        · cases faultless
        · rename_i good_starts
          rw [Bool.or_eq_true, not_or, List.any_eq_true] at good_starts
          by_contra relative
          have refused : (start.toList.head? != some '/') = true := bne_iff_ne.2 relative
          exact good_starts.2 ⟨start, listed, refused⟩

namespace RuleSet

/-- What holds of the vendors of the library and of all vendors without a fault holds of those of an
accepted document. -/
theorem forall_vendors_ofToml {motive : Vendor → Prop} (known : ∀ v ∈ builtinVendors, motive v)
    (given : ∀ v : Vendor, v.fault? = none → motive v.normalized) {document : String}
    {rules : RuleSet} (accepted : ofToml document = .ok rules) :
    ∀ v ∈ rules.vendors, motive v := by
  refine ofToml_induction (motive := fun rules => ∀ v ∈ rules.vendors, motive v)
    (fun _ listed => absurd listed List.not_mem_nil) known (fun {rules after v} added before => ?_)
    (fun {rules after c} added before => ?_) accepted
  · unfold addVendor at added
    split at added
    · cases added
    · rename_i faultless
      rw [← Except.ok.inj added]
      intro other listed
      rcases mem_put listed with rfl | kept
      · exact given v faultless
      · exact before other kept
  · unfold addCommand at added
    split at added
    · cases added
    · rw [← Except.ok.inj added]
      exact before

/-- What the paths of a vendor of an accepted document start with begins with a slash. -/
theorem absolute_ofToml {document : String} {rules : RuleSet}
    (accepted : ofToml document = .ok rules) {v : Vendor} (there : v ∈ rules.vendors) :
    ∀ start ∈ v.pathStarts, start.toList.head? = some '/' :=
  forall_vendors_ofToml
    (motive := fun v => ∀ start ∈ v.pathStarts, start.toList.head? = some '/')
    (by decide) (fun _ faultless => Vendor.absolute_of_faultless faultless) accepted v there

end RuleSet

namespace Vendor

theorem coversPath_iff {v : Vendor} {path : String} :
    v.coversPath path = true ↔ ∃ start ∈ v.pathStarts, start.toList <+: path.toList := by
  simp [coversPath]

/-- A path that one of the starts was written for is covered exactly if the start is plain, or if
another start covers what is sent. -/
theorem coversPath_sentPath_iff {v : Vendor} {start : String} (listed : start ∈ v.pathStarts)
    (absolute : start.toList.head? = some '/') :
    v.coversPath (String.ofList (Web.sentPath start.toList)) = true ↔
      Web.IsPlainPath start.toList ∨
        ∃ other ∈ v.pathStarts, other ≠ start ∧
          other.toList <+: Web.sentPath start.toList := by
  rw [coversPath_iff, String.toList_ofList, ← Web.prefix_sentPath_iff absolute]
  constructor
  · rintro ⟨other, there, begins⟩
    by_cases same : other = start
    · rw [same] at begins
      exact .inl begins
    · exact .inr ⟨other, there, same, begins⟩
  · rintro (begins | ⟨other, there, _, begins⟩)
    · exact ⟨start, listed, begins⟩
    · exact ⟨other, there, begins⟩

end Vendor

namespace RuleSet

/-- The URL of a listed domain and a listed start of paths belongs to the domain and is covered
exactly if the domain is plain, and the start is plain or another one covers what is sent. -/
theorem reached_iff {document : String} {rules : RuleSet} (accepted : ofToml document = .ok rules)
    {v : Vendor} (there : v ∈ rules.vendors) {domain start : String}
    (listed : domain ∈ v.domains) (given : start ∈ v.pathStarts) :
    (∃ target, Web.Target.ofUrl? ("https://" ++ domain ++ start) = some target ∧
        target.registrable = some domain ∧ v.coversPath target.path = true) ↔
      Web.IsPlainName domain.toList ∧
        (Web.IsPlainPath start.toList ∨
          ∃ other ∈ v.pathStarts, other ≠ start ∧
            other.toList <+: Web.sentPath start.toList) := by
  have own := (soundVendors_ofToml accepted).registrable v there domain listed
  have absolute := absolute_ofToml accepted there start given
  rw [← Vendor.coversPath_sentPath_iff given absolute]
  constructor
  · rintro ⟨target, read, registrable, covered⟩
    have plain := Web.isPlainName_of_ofUrl? own absolute read registrable
    have sent := Option.some.inj
      (read.symm.trans (Web.ofUrl?_of_isPlainName own absolute plain))
    rw [sent] at covered
    exact ⟨plain, covered⟩
  · rintro ⟨plain, covered⟩
    exact ⟨_, Web.ofUrl?_of_isPlainName own absolute plain, rfl, covered⟩

/-- The domain and the path of the first vendor of the library are plain, so it is reached. -/
theorem builtin_reached :
    ∃ target, Web.Target.ofUrl? ("https://" ++ "stripe.com" ++ "/v1/") = some target ∧
      target.registrable = some "stripe.com" ∧
      (builtinVendors.head (by decide)).coversPath target.path = true := by
  have accepted : ofToml "" = .ok builtin := by decide +kernel
  have name : Web.IsPlainName "stripe.com".toList := by decide +kernel
  have path : Web.IsPlainPath "/v1/".toList := by decide
  exact (reached_iff accepted (List.head_mem _) (by decide) (by decide)).2 ⟨name, .inl path⟩

/-- A rules file with a domain that is not of ASCII. -/
def umlautDocument : String :=
  "[[vendor]]\nprovider_name='B'\nhost_allowlist=['bücher.de']\npath_prefixes=['/v1/']\n" ++
  "idempotency_location='header'\nkey_name='K'"

/-- The vendor of that file. -/
def umlautVendor : Vendor where
  provider := "B"
  domains := ["bücher.de"]
  pathStarts := ["/v1/"]
  location := .header
  keyName := "K"
  placeholders := []

/-- The domain is accepted, but no URL belongs to it, also not that of the domain and the path. -/
theorem umlaut_not_reached :
    ofToml umlautDocument = .ok ⟨builtinVendors ++ [umlautVendor], builtinCommands⟩ ∧
      (¬∃ target, Web.Target.ofUrl? ("https://" ++ "bücher.de" ++ "/v1/") = some target ∧
        target.registrable = some "bücher.de" ∧ umlautVendor.coversPath target.path = true) ∧
      ∀ url target, Web.Target.ofUrl? url = some target →
        target.registrable ≠ some "bücher.de" := by
  have accepted : ofToml umlautDocument =
      .ok ⟨builtinVendors ++ [umlautVendor], builtinCommands⟩ := by
    decide +kernel
  have apart : ∀ url target, Web.Target.ofUrl? url = some target →
      target.registrable ≠ some "bücher.de" := by
    intro url target read registrable
    have visible := Web.Target.isVisible_of_registrable read registrable 'ü' (by decide)
    exact absurd visible (by decide)
  refine ⟨accepted, ?_, apart⟩
  rintro ⟨target, read, registrable, _⟩
  exact apart _ target read registrable

end RuleSet
end TraceAudit
