import Mathlib.Data.List.Basic
import TraceAudit.Proofs.Text.Ascii
import TraceAudit.Web.Domain

/-!
# Registrable domains are suffixes

The registrable domain of a host is the host or stands at its end, after a dot: it is made of whole
labels. So no labels before a domain change what a host belongs to, and nothing written after it is
part of it.
-/

namespace TraceAudit

namespace Text

/-- Pieces before others do not change how the others are joined. -/
theorem suffix_joined_append {separator : Char} {front back : List (List Char)}
    (front_there : front ≠ []) (back_there : back ≠ []) :
    separator :: joined separator back <:+ joined separator (front ++ back) := by
  induction front with
  | nil => exact absurd rfl front_there
  | cons first rest ih =>
      cases rest with
      | nil =>
          obtain ⟨next, more, rfl⟩ := List.exists_cons_of_ne_nil back_there
          exact ⟨first, by simp [joined_cons_cons]⟩
      | cons second others =>
          obtain ⟨before, whole⟩ := ih (List.cons_ne_nil second others)
          refine ⟨first ++ separator :: before, ?_⟩
          have next : joined separator (first :: second :: others ++ back) =
              first ++ separator :: joined separator (second :: others ++ back) := by
            rw [List.cons_append, List.cons_append, joined_cons_cons]
          rw [next, ← whole]
          simp

end Text

namespace Web

/-- A host is a domain, or lies below it. -/
def IsWithin (host domain : List Char) : Prop :=
  host = domain ∨ '.' :: domain <:+ host

instance (host domain : List Char) : Decidable (IsWithin host domain) :=
  inferInstanceAs (Decidable (_ ∨ _))

/-- A longer name that only begins or ends like the domain is not within it. -/
example : IsWithin "api.shop.com".toList "shop.com".toList ∧
    ¬IsWithin "shop.com.evil.com".toList "shop.com".toList ∧
    ¬IsWithin "evilshop.com".toList "shop.com".toList := by decide

theorem IsWithin.subset {host domain : List Char} (within : IsWithin host domain) :
    domain ⊆ host := by
  rcases within with rfl | suffix
  · exact List.Subset.refl _
  · exact fun _ found => suffix.subset (List.mem_cons_of_mem '.' found)

end Web

namespace PublicSuffix

/-- A registrable domain is made of the last labels of the host, with a dot before them if there
are others. -/
theorem isWithin_of_registrableUnder {rules : SuffixRules} {host domain : List Char}
    (found : registrableUnder rules host = some domain) : Web.IsWithin host domain := by
  unfold registrableUnder at found
  dsimp only at found
  generalize size_eq : rules.suffixSize (Text.pieces (· == '.') host).reverse.tail = size at found
  have labels := List.take_append_drop size (Text.pieces (· == '.') host).reverse
  split at found
  · cases found
  · cases found
  · cases found
  · rename_i label more _ dropped _
    rw [dropped] at labels
    have pieces : Text.pieces (· == '.') host = more.reverse ++
        ((Text.pieces (· == '.') host).reverse.take size ++ [label]).reverse := by
      rw [← List.reverse_append, List.append_assoc, List.singleton_append, labels,
        List.reverse_reverse]
    have domain_eq := Option.some.inj found
    have whole := Text.joined_pieces '.' host
    cases more with
    | nil =>
        refine .inl ?_
        rw [List.reverse_nil, List.nil_append] at pieces
        rw [← whole, pieces, domain_eq]
    | cons next others =>
        refine .inr ?_
        rw [← whole, pieces, ← domain_eq]
        exact Text.suffix_joined_append (by simp) (by simp)

theorem isWithin_of_registrable? {host domain : List Char}
    (found : registrable? host = some domain) : Web.IsWithin host domain := by
  unfold registrable? at found
  split at found
  · cases found
  · exact isWithin_of_registrableUnder found

end PublicSuffix

namespace Web

/-- The registrable domain of a host is the host or stands at its end after a dot. -/
theorem isWithin_of_registrableDomain? {host domain : String}
    (found : registrableDomain? host = some domain) :
    IsWithin (plainHost host.toList) domain.toList := by
  unfold registrableDomain? at found
  dsimp only at found
  split at found
  · cases found
  · split at found
    · rw [← Option.some.inj found, String.toList_ofList]
      exact .inl rfl
    · obtain ⟨plain, registrable, rfl⟩ := Option.map_eq_some_iff.1 found
      rw [String.toList_ofList]
      exact PublicSuffix.isWithin_of_registrable? registrable

/-- The characters of a registrable domain are small letters where they are letters. -/
theorem small_of_registrableDomain? {host domain : String}
    (found : registrableDomain? host = some domain) : ∀ c ∈ domain.toList, c.toLower = c := by
  intro c there
  obtain ⟨d, _, rfl⟩ := List.mem_map.1 ((isWithin_of_registrableDomain? found).subset there)
  exact Text.toLower_toLower d

/-- A registrable domain is in small letters. -/
theorem lower_of_registrableDomain? {host domain : String}
    (found : registrableDomain? host = some domain) : Text.lower domain = domain := by
  rw [Text.lower, List.map_congr_left (small_of_registrableDomain? found), List.map_id',
    String.ofList_toList]

end Web
end TraceAudit
