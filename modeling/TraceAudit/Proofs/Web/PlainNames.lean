import TraceAudit.Proofs.Text.Composition
import TraceAudit.Proofs.Web.Addresses
import TraceAudit.Proofs.Web.Suffixes

/-!
# Names that a URL keeps

A host is not always written as a URL names it: characters are decoded and mapped, labels are put
into Punycode, and numbers become addresses. A name is kept if it is of ASCII and in small letters,
holds no character that hosts may not hold, if its labels in Punycode are writings of valid labels,
and if it is not a number other than an address as addresses are printed.
-/

namespace TraceAudit

namespace Text

/-- The bytes of a text of ASCII are its code points. -/
theorem encodeUtf8_of_ascii {cs : List Char} (ascii : ∀ c ∈ cs, c.toNat < 128) :
    encodeUtf8 (String.ofList cs) = cs.map fun c => UInt8.ofNat c.toNat := by
  have one : ∀ c ∈ cs, String.utf8EncodeChar c = [UInt8.ofNat c.toNat] := by
    intro c found
    have size : c.utf8Size = 1 := Char.utf8Size_eq_one_iff.2 (Nat.le_of_lt_succ (ascii c found))
    exact String.utf8EncodeChar_eq_singleton size
  have bytes : (cs.flatMap String.utf8EncodeChar) = cs.map fun c => UInt8.ofNat c.toNat := by
    rw [List.map_eq_flatMap, List.flatMap_def, List.flatMap_def, List.map_congr_left one]
  rw [encodeUtf8, String.toByteArray_ofList, List.utf8Encode, bytes, List.data_toByteArray]

end Text

namespace Web

/-- Bytes none of which is a percent sign are decoded to themselves. -/
theorem percentDecode_of_not_mem {bytes : Bytes} (plain : ∀ b ∈ bytes, b ≠ 37) :
    percentDecode bytes = bytes := by
  fun_induction percentDecode bytes with
  | case1 a b rest high low digits other ih => exact absurd rfl (plain 37 List.mem_cons_self)
  | case2 a b rest _ ih => exact absurd rfl (plain 37 List.mem_cons_self)
  | case3 b rest _ ih => rw [ih fun c found => plain c (List.mem_cons_of_mem b found)]
  | case4 => rfl

/-- A text of ASCII without percent signs is decoded to itself. -/
theorem percentDecode_of_ascii {cs : List Char} (ascii : ∀ c ∈ cs, c.toNat < 128)
    (plain : '%' ∉ cs) :
    (Text.decodeUtf8Lenient (percentDecode (Text.encodeUtf8 (String.ofList cs)))).toList = cs := by
  have kept : ∀ b ∈ Text.encodeUtf8 (String.ofList cs), b ≠ 37 := by
    rw [Text.encodeUtf8_of_ascii ascii]
    intro b found
    obtain ⟨c, there, rfl⟩ := List.mem_map.1 found
    intro percent
    have code : c.toNat = 37 := by
      have small := ascii c there
      have same := congrArg UInt8.toNat percent
      simp at same
      omega
    have sign : c = '%' := by
      rw [← Char.ofNat_toNat c, code]
    exact plain (sign ▸ there)
  rw [percentDecode_of_not_mem kept, Text.decodeUtf8Lenient_encodeUtf8, String.toList_ofList]

end Web

namespace Idna

/-- The labels of a name stand for labels whose directions fit. -/
def HasSoundLabels (name : List Char) : Prop :=
  ∃ labels, (Text.pieces (· == '.') name).mapM label? = some labels ∧
    (!labels.any (·.any isRightToLeft) || labels.all directionsFit) = true

instance (name : List Char) : Decidable (HasSoundLabels name) :=
  decidable_of_iff _ (Option.any_eq_true _ ((Text.pieces (· == '.') name).mapM label?))

theorem mapM_image?_of_ascii {name : List Char} (ascii : ∀ c ∈ name, c.toNat < 128)
    (small : ∀ c ∈ name, c.toLower = c) : name.mapM image? = some (name.map ([·])) := by
  induction name with
  | nil => rfl
  | cons c rest ih =>
      have here : image? c = some [c] := by
        rw [image?, if_pos (ascii c List.mem_cons_self), small c List.mem_cons_self]
      have later := ih (fun d found => ascii d (List.mem_cons_of_mem c found))
        fun d found => small d (List.mem_cons_of_mem c found)
      rw [List.mapM_cons, here, later]
      rfl

/-- A name of ASCII in small letters is its own ASCII form if it has one, and it has one if its
labels are sound and it holds no character that hosts may not hold. -/
theorem toAscii?_of_ascii {name : List Char} (ascii : ∀ c ∈ name, c.toNat < 128)
    (small : ∀ c ∈ name, c.toLower = c) {result : List Char} :
    toAscii? name = some result ↔
      result = name ∧ HasSoundLabels name ∧ ∀ c ∈ name, isForbidden c = false := by
  have mapped : (name.map ([·])).flatten = name := by
    rw [← List.flatMap_def]
    exact List.flatMap_singleton' name
  have kept : ∀ part ∈ Text.pieces (· == '.') name, written part = id part := by
    intro part listed
    have all : part.all (·.toNat < 128) = true := List.all_eq_true.2 fun c found =>
      decide_eq_true (ascii c (Text.of_mem_pieces listed c found).1)
    rw [written, if_pos all, id]
  have whole : Text.joined '.' ((Text.pieces (· == '.') name).map written) = name := by
    rw [List.map_congr_left kept, List.map_id, Text.joined_pieces]
  rw [toAscii?, mapM_image?_of_ascii ascii small, Option.bind_eq_bind, Option.bind_some, mapped]
  dsimp only
  rw [Text.composed_of_ascii ascii, whole, Option.bind_eq_some_iff]
  constructor
  · rintro ⟨labels, read, sound⟩
    split at sound
    · rename_i both
      obtain ⟨fits, allowed⟩ := Bool.and_eq_true_iff.1 both
      rw [Bool.not_eq_true', List.any_eq_false] at allowed
      exact ⟨(Option.some.inj sound).symm, ⟨labels, read, fits⟩,
        fun c found => Bool.eq_false_iff.2 (allowed c found)⟩
    · cases sound
  · rintro ⟨rfl, ⟨labels, read, fits⟩, allowed⟩
    refine ⟨labels, read, if_pos (Bool.and_eq_true_iff.2 ⟨fits, ?_⟩)⟩
    rw [Bool.not_eq_true', List.any_eq_false]
    exact fun c found => Bool.eq_false_iff.1 (allowed c found)

end Idna

namespace Web

/-! ## Registrable domains -/

theorem withoutFinalDots_append {front back : List Char} (some_back : back ≠ [])
    (no_dot : ∀ c ∈ back, c ≠ '.') : withoutFinalDots (front ++ back) = front ++ back := by
  obtain ⟨last, others, shape⟩ := List.exists_cons_of_ne_nil (List.reverse_ne_nil_iff.2 some_back)
  have kept : ¬(last == '.') = true := by
    have listed : last ∈ back := List.mem_reverse.1 (shape ▸ List.mem_cons_self)
    simpa using no_dot last listed
  have reversed : (front ++ back).reverse = last :: (others ++ front.reverse) := by
    rw [List.reverse_append, shape, List.cons_append]
  rw [withoutFinalDots, Text.dropEndWhile, reversed,
    List.dropWhile_cons_of_neg (p := (· == '.')) kept, ← reversed, List.reverse_reverse]

/-- The characters of a registrable domain are those of the host in small letters. -/
theorem of_mem_registrableDomain? {motive : Char → Prop} {host domain : String}
    (found : registrableDomain? host = some domain)
    (each : ∀ c ∈ host.toList, motive c.toLower) : ∀ c ∈ domain.toList, motive c := by
  intro c there
  obtain ⟨d, within, rfl⟩ :=
    List.mem_map.1 ((isWithin_of_registrableDomain? found).subset there)
  have trimmed : d ∈ Text.trimChars host.toList :=
    List.mem_reverse.1 ((List.dropWhile_sublist _).subset (List.mem_reverse.1 within))
  have inner : d ∈ Text.dropBlanks host.toList :=
    List.mem_reverse.1 ((List.dropWhile_sublist _).subset (List.mem_reverse.1 trimmed))
  exact each d ((List.dropWhile_sublist _).subset inner)

/-- A printed address is its own registrable domain. -/
theorem registrableDomain?_ipv4 (address : Nat) :
    registrableDomain? (String.ofList (IPv4.text address)) =
      some (String.ofList (IPv4.text address)) := by
  have visible : ∀ c ∈ IPv4.text address, Text.IsVisible c :=
    fun c => Host.of_mem_ipv4 (by decide) (by decide)
  have small : ∀ c ∈ IPv4.text address, c.toLower = id c :=
    fun c => Host.of_mem_ipv4 (motive := fun c => c.toLower = id c) (by decide) (by decide)
  obtain ⟨front, shape⟩ := IPv4.exists_text_eq address
  have no_dot : ∀ c ∈ Nat.toDigits 10 (address / Nat.pow 256 0 % 256), c ≠ '.' := fun c =>
    Text.of_mem_toDigits (motive := (· ≠ '.')) (by decide) (by decide) (by decide)
  have plain : plainHost (IPv4.text address) = IPv4.text address := by
    rw [plainHost, Text.trimChars_of_visible visible, shape,
      withoutFinalDots_append Nat.toDigits_ne_nil no_dot, ← shape, List.map_congr_left small,
      List.map_id]
  have address_text : isAddress (IPv4.text address) = true := by
    rw [isAddress, IPv4.isPlain_text, Bool.true_or]
  have nonempty : (IPv4.text address).isEmpty = false := by
    simp [shape]
  rw [registrableDomain?, String.toList_ofList, plain, nonempty, address_text]
  rfl

/-! ## Hosts -/

/-- A character that ends nothing before or after a host that it is part of. -/
def IsSafe (c : Char) : Prop :=
  Text.IsVisible c ∧ SchemeKind.web.endsAuthority c = false ∧ c ≠ '@' ∧ c ≠ '['

instance (c : Char) : Decidable (IsSafe c) :=
  inferInstanceAs (Decidable (_ ∧ _))

theorem isSafe_of_allowed {c : Char} (ascii : c.toNat < 128)
    (allowed : Idna.isForbidden c = false) : IsSafe c :=
  Text.ascii_induction (motive := fun c => Idna.isForbidden c = false → IsSafe c) (by decide) ascii
    allowed

/-- A text without a bracket before it names an address of four bytes or a name. -/
theorem Host.ofWeb?_eq_some_iff {cs : List Char} (unbracketed : cs.head? ≠ some '[')
    {host : Host} :
    ofWeb? cs = some host ↔
      ∃ ascii, Idna.toAscii? (Text.decodeUtf8Lenient
          (percentDecode (Text.encodeUtf8 (String.ofList cs)))).toList = some ascii ∧
        ascii ≠ [] ∧
        if IPv4.endsInNumber ascii = true then (IPv4.ofHost? ascii).map .ipv4 = some host
        else .name ascii = host := by
  rw [ofWeb?, if_neg unbracketed]
  dsimp only
  rw [Option.bind_eq_bind, Option.bind_eq_some_iff]
  refine exists_congr fun ascii => and_congr_right fun _ => ?_
  cases ascii with
  | nil => simp
  | cons c rest =>
      simp only [List.isEmpty_cons, Bool.false_eq_true, if_false, ne_eq, reduceCtorEq,
        not_false_eq_true, true_and]
      split
      · rfl
      · exact Option.some_inj

/-- The text of a host that no bracket stands before holds no character that hosts may not hold. -/
theorem Host.allowed_of_ofWeb? {cs : List Char} (unbracketed : cs.head? ≠ some '[') {host : Host}
    (read : ofWeb? cs = some host) : ∀ c ∈ host.text, Idna.isForbidden c.toLower = false := by
  obtain ⟨ascii, mapped, _, read⟩ := (ofWeb?_eq_some_iff unbracketed).1 read
  split at read
  · obtain ⟨address, _, rfl⟩ := Option.map_eq_some_iff.1 read
    exact fun c => of_mem_ipv4 (motive := fun c => Idna.isForbidden c.toLower = false) (by decide)
      (by decide)
  · subst read
    intro c found
    obtain ⟨d, there, rfl⟩ := List.mem_map.1 found
    obtain ⟨small, allowed⟩ := Idna.allowed_of_toAscii? mapped d there
    rw [Text.toLower_toLower]
    exact Text.ascii_induction
      (motive := fun c => Idna.isForbidden c = false → Idna.isForbidden c.toLower = false)
      (by decide) small allowed

/-- The text of a host of the web is safe. -/
theorem Host.isSafe_of_ofWeb? {cs : List Char} {host : Host} (read : ofWeb? cs = some host) :
    ∀ c ∈ host.text, IsSafe c.toLower := by
  by_cases bracketed : cs.head? = some '['
  · rw [ofWeb?, if_pos bracketed, bracketed?] at read
    split at read
    · obtain ⟨groups, _, rfl⟩ := Option.map_eq_some_iff.1 read
      exact fun c => of_mem_ipv6 (motive := fun c => IsSafe c.toLower) (by decide) (by decide)
        (by decide)
    · cases read
  · intro c found
    have visible := isWritten_ofWeb? read c found
    exact isSafe_of_allowed visible.toLower.ascii (allowed_of_ofWeb? bracketed read c found)

/-! ## Plain names -/

/-- A name of ASCII without the characters that hosts may not hold, whose labels are sound, and
which is no number unless it is an address as addresses are printed. -/
structure IsPlainName (name : List Char) : Prop where
  ascii : ∀ c ∈ name, c.toNat < 128
  allowed : ∀ c ∈ name, Idna.isForbidden c = false
  labels : Idna.HasSoundLabels name
  number : IPv4.endsInNumber name = true → IPv4.isPlain name = true

instance (name : List Char) : Decidable (IsPlainName name) :=
  decidable_of_iff ((name.all fun c => c.toNat < 128) ∧ (name.all fun c => !Idna.isForbidden c) ∧
      Idna.HasSoundLabels name ∧ (IPv4.endsInNumber name = true → IPv4.isPlain name = true))
    ⟨fun ⟨ascii, allowed, labels, number⟩ =>
        ⟨by simpa using ascii, by simpa using allowed, labels, number⟩,
      fun plain => ⟨by simpa using plain.ascii, by simpa using plain.allowed, plain.labels,
        plain.number⟩⟩

/-- Where there are no characters that hosts may not hold, a name is only put into its ASCII form,
which is the name. -/
theorem Host.ofWeb?_of_allowed {name : List Char} (ascii : ∀ c ∈ name, c.toNat < 128)
    (allowed : ∀ c ∈ name, Idna.isForbidden c = false) (small : ∀ c ∈ name, c.toLower = c)
    {host : Host} :
    ofWeb? name = some host ↔
      Idna.HasSoundLabels name ∧ name ≠ [] ∧
        if IPv4.endsInNumber name = true then (IPv4.ofHost? name).map .ipv4 = some host
        else .name name = host := by
  have unbracketed : name.head? ≠ some '[' := fun bracket =>
    absurd (allowed '[' (List.mem_of_head? bracket)) (by decide)
  have no_percent : '%' ∉ name := fun found => absurd (allowed '%' found) (by decide)
  rw [ofWeb?_eq_some_iff unbracketed, percentDecode_of_ascii ascii no_percent]
  constructor
  · rintro ⟨result, mapped, rest⟩
    obtain ⟨rfl, labels, _⟩ := (Idna.toAscii?_of_ascii ascii small).1 mapped
    exact ⟨labels, rest⟩
  · rintro ⟨labels, rest⟩
    exact ⟨name, (Idna.toAscii?_of_ascii ascii small).2 ⟨rfl, labels, allowed⟩, rest⟩

/-- A plain name in small letters is written as it is. -/
theorem IsPlainName.ofWeb? {name : List Char} (plain : IsPlainName name) (some_name : name ≠ [])
    (small : ∀ c ∈ name, c.toLower = c) :
    ∃ host, Host.ofWeb? name = some host ∧ host.text = name := by
  by_cases number : IPv4.endsInNumber name = true
  · obtain ⟨address, read, printed⟩ := IPv4.ofHost?_of_isPlain (plain.number number)
    refine ⟨.ipv4 address, ?_, printed⟩
    rw [Host.ofWeb?_of_allowed plain.ascii plain.allowed small, if_pos number, read]
    exact ⟨plain.labels, some_name, rfl⟩
  · refine ⟨.name name, ?_, ?_⟩
    · rw [Host.ofWeb?_of_allowed plain.ascii plain.allowed small, if_neg number]
      exact ⟨plain.labels, some_name, rfl⟩
    · exact (List.map_congr_left small).trans (List.map_id name)

/-- A name that is the registrable domain of the host that it names is plain. -/
theorem isPlainName_of_ofWeb? {name : List Char} {host : Host}
    (ascii : ∀ c ∈ name, c.toNat < 128) (allowed : ∀ c ∈ name, Idna.isForbidden c = false)
    (small : ∀ c ∈ name, c.toLower = c) (read : Host.ofWeb? name = some host)
    (registrable : registrableDomain? (String.ofList host.text) = some (String.ofList name)) :
    IsPlainName name := by
  obtain ⟨labels, _, read⟩ := (Host.ofWeb?_of_allowed ascii allowed small).1 read
  refine ⟨ascii, allowed, labels, fun number => ?_⟩
  rw [if_pos number] at read
  obtain ⟨address, _, rfl⟩ := Option.map_eq_some_iff.1 read
  -- The host is written as an address, which is its own registrable domain, so this is the name.
  have same : IPv4.text address = name := by
    have both := (registrableDomain?_ipv4 address).symm.trans registrable
    exact String.ofList_inj.1 (Option.some.inj both)
  rw [← same]
  exact IPv4.isPlain_text address

end Web
end TraceAudit
