import TraceAudit.Proofs.Web.Authority
import TraceAudit.Proofs.Web.PlainNames
import TraceAudit.Web.Form

/-!
# Forms as they are written

Names and values are written into a form byte by byte: letters, digits and four marks as they are, a
space as a plus sign, and every other byte percent encoded. So neither an ampersand nor an equals
sign is left in a part, and a form is read as the names and values that it was written for.
-/

namespace TraceAudit.Web

/-! ## Percent encoded bytes -/

theorem percentDecode_cons {b : UInt8} (plain : b ≠ 37) (rest : Bytes) :
    percentDecode (b :: rest) = b :: percentDecode rest := by
  rw [percentDecode]
  exact fun _ _ _ percent _ => plain percent

theorem hexByte?_hexDigit : ∀ n < 16, hexByte? (UInt8.ofNat (hexDigit n).toNat) = some n := by
  decide

/-- A byte is decoded from the percent sign and the two digits that it is encoded as. -/
theorem percentDecode_percentByte (b : UInt8) (rest : Bytes) :
    percentDecode ((percentByte b).map (fun c => UInt8.ofNat c.toNat) ++ rest) =
      b :: percentDecode rest := by
  have below : b.toNat < 256 := b.toNat_lt
  have high := hexByte?_hexDigit (b.toNat / 16) (by omega)
  have low := hexByte?_hexDigit (b.toNat % 16) (by omega)
  have whole : UInt8.ofNat (16 * (b.toNat / 16) + b.toNat % 16) = b := by
    rw [Nat.div_add_mod, UInt8.ofNat_toNat]
  have sign : UInt8.ofNat '%'.toNat = 37 := rfl
  simp only [percentByte, List.map_cons, List.map_nil, List.cons_append, List.nil_append, sign]
  rw [percentDecode, high, low]
  dsimp only
  rw [whole]

namespace Form

/-! ## Parts -/

/-- Whether a byte is written as the character of ASCII that it is. -/
def isPlainByte (b : UInt8) : Bool :=
  let c := Char.ofNat b.toNat
  c.isAlphanum || c == '*' || c == '-' || c == '.' || c == '_'

/-- A byte of a name or a value. -/
def byteChars (b : UInt8) : List Char :=
  if isPlainByte b then [Char.ofNat b.toNat] else if b = 32 then ['+'] else percentByte b

/-- A name or a value. -/
def partChars (s : String) : List Char :=
  (Text.encodeUtf8 s).flatMap byteChars

/-- What holds of each of the 256 bytes holds of all bytes. -/
theorem byte_induction {motive : UInt8 → Prop} (each : ∀ n, n < 256 → motive (UInt8.ofNat n))
    (b : UInt8) : motive b := by
  have holds := each b.toNat b.toNat_lt
  rwa [UInt8.ofNat_toNat] at holds

/-- A character that a name or a value may be written with. -/
structure IsPartChar (c : Char) : Prop where
  ascii : c.toNat < 128
  kept : c.isAlphanum = true ∨ c ∈ ['*', '-', '.', '_', '+', '%']

instance (c : Char) : Decidable (IsPartChar c) :=
  decidable_of_iff (c.toNat < 128 ∧ (c.isAlphanum = true ∨ c ∈ ['*', '-', '.', '_', '+', '%']))
    ⟨fun ⟨ascii, kept⟩ => ⟨ascii, kept⟩, fun ⟨ascii, kept⟩ => ⟨ascii, kept⟩⟩

theorem isPartChar_of_mem_byteChars (b : UInt8) : ∀ c ∈ byteChars b, IsPartChar c := by
  have all : (byteChars b).all (fun c => decide (IsPartChar c)) = true :=
    byte_induction (motive := fun b => (byteChars b).all (fun c => decide (IsPartChar c)) = true)
      (by decide +kernel) b
  exact fun c found => of_decide_eq_true (List.all_eq_true.1 all c found)

theorem isPartChar_of_mem_partChars {s : String} {c : Char} (found : c ∈ partChars s) :
    IsPartChar c := by
  obtain ⟨b, _, within⟩ := List.mem_flatMap.1 found
  exact isPartChar_of_mem_byteChars b c within

/-- A character of a part as it is read, a plus sign being a space. -/
def spaced (c : Char) : Char :=
  if c = '+' then ' ' else c

theorem spaced_plain (b : UInt8) (plain : isPlainByte b = true) :
    UInt8.ofNat (spaced (Char.ofNat b.toNat)).toNat = b ∧ b ≠ 37 :=
  byte_induction
    (motive := fun b => isPlainByte b = true →
      UInt8.ofNat (spaced (Char.ofNat b.toNat)).toNat = b ∧ b ≠ 37)
    (by decide +kernel) b plain

theorem spaced_percentByte (b : UInt8) : (percentByte b).map spaced = percentByte b :=
  byte_induction (motive := fun b => (percentByte b).map spaced = percentByte b)
    (by decide +kernel) b

/-- A byte is read as it was written. -/
theorem percentDecode_byteChars (b : UInt8) (rest : Bytes) :
    percentDecode (((byteChars b).map spaced).map (fun c => UInt8.ofNat c.toNat) ++ rest) =
      b :: percentDecode rest := by
  unfold byteChars
  split
  · rename_i plain
    obtain ⟨same, no_percent⟩ := spaced_plain b plain
    rw [List.map_singleton, List.map_singleton, same, List.singleton_append,
      percentDecode_cons no_percent]
  · split
    · rename_i space
      subst space
      exact percentDecode_cons (by decide) rest
    · rw [spaced_percentByte, percentDecode_percentByte]

/-- Bytes are read as they were written, one after the other. -/
theorem percentDecode_spaced (bytes : Bytes) :
    percentDecode (((bytes.flatMap byteChars).map spaced).map fun c => UInt8.ofNat c.toNat) =
      bytes := by
  induction bytes with
  | nil => rw [List.flatMap_nil, List.map_nil, List.map_nil, percentDecode]
  | cons b rest ih =>
      rw [List.flatMap_cons, List.map_append, List.map_append, percentDecode_byteChars, ih]

/-- A name or a value is read as it was written. -/
theorem decodePart_partChars (s : String) : decodePart (partChars s) = s := by
  have ascii : ∀ c ∈ (partChars s).map spaced, c.toNat < 128 := by
    intro c found
    obtain ⟨d, there, rfl⟩ := List.mem_map.1 found
    unfold spaced
    split
    · decide
    · exact (isPartChar_of_mem_partChars there).ascii
  have bytes : percentDecode (Text.encodeUtf8 (String.ofList ((partChars s).map spaced))) =
      Text.encodeUtf8 s := by
    rw [Text.encodeUtf8_of_ascii ascii]
    exact percentDecode_spaced (Text.encodeUtf8 s)
  exact (congrArg Text.decodeUtf8Lenient bytes).trans (Text.decodeUtf8Lenient_encodeUtf8 s)

/-! ## Forms -/

/-- A name and its value with an equals sign between them. -/
def pairChars (field : String × String) : List Char :=
  partChars field.1 ++ '=' :: partChars field.2

/-- Names and values as a form. -/
def write (fields : List (String × String)) : String :=
  String.ofList (Text.joined '&' (fields.map pairChars))

/-- A name and its value are read as they were written. -/
theorem pair_pairChars (field : String × String) : pair (pairChars field) = field := by
  have kept : ∀ c ∈ partChars field.1, (c == '=') = false := by
    intro c found
    rw [beq_eq_false_iff_ne]
    rintro rfl
    exact absurd (isPartChar_of_mem_partChars found) (by decide)
  have cut : Text.cutAt (· == '=') (pairChars field) =
      (partChars field.1, some (partChars field.2)) :=
    Text.cutAt_append kept rfl (partChars field.2)
  rw [pair, cut]
  dsimp only
  rw [Option.getD_some, decodePart_partChars, decodePart_partChars]

theorem eq_or_isPartChar_of_mem_pairChars {field : String × String} {c : Char}
    (found : c ∈ pairChars field) : c = '=' ∨ IsPartChar c := by
  rcases List.mem_append.1 found with name | rest
  · exact .inr (isPartChar_of_mem_partChars name)
  · exact (List.mem_cons.1 rest).imp_right isPartChar_of_mem_partChars

/-- A form is read as the names and values that it was written for. -/
theorem pairs_write (fields : List (String × String)) : pairs (write fields) = fields := by
  have kept : ∀ part ∈ fields.map pairChars, ∀ c ∈ part, (c == '&') = false := by
    intro part listed c found
    obtain ⟨field, _, rfl⟩ := List.mem_map.1 listed
    rw [beq_eq_false_iff_ne]
    rintro rfl
    rcases eq_or_isPartChar_of_mem_pairChars found with equals | part
    · cases equals
    · exact absurd part (by decide)
  have some_char : ∀ part ∈ fields.map pairChars, (!part.isEmpty) = true := by
    intro part listed
    obtain ⟨field, _, rfl⟩ := List.mem_map.1 listed
    simp [pairChars]
  have cut : (Text.pieces (· == '&') (write fields).toList).filter (!·.isEmpty) =
      fields.map pairChars := by
    rw [write, String.toList_ofList]
    by_cases empty : fields = []
    · subst empty
      rfl
    · rw [Text.pieces_joined (mt List.map_eq_nil_iff.1 empty) kept,
        List.filter_eq_self.2 some_char]
  rw [pairs, cut, List.map_map]
  exact (List.map_congr_left fun field _ => pair_pairChars field).trans (List.map_id fields)

/-- A form has no character but those of its parts, equals signs and ampersands. -/
theorem of_mem_write {fields : List (String × String)} {c : Char}
    (found : c ∈ (write fields).toList) : c = '&' ∨ c = '=' ∨ IsPartChar c := by
  rw [write, String.toList_ofList] at found
  rcases Text.eq_or_mem_of_mem_joined found with between | ⟨part, listed, within⟩
  · exact .inl between
  · obtain ⟨field, _, rfl⟩ := List.mem_map.1 listed
    exact .inr (eq_or_isPartChar_of_mem_pairChars within)

end Form
end TraceAudit.Web
