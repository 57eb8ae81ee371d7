import TraceAudit.Proofs.Text.Ascii
import TraceAudit.Web.Target

/-!
# The text of a host

Whatever the URL, the host it names is written in visible characters of ASCII: names are mapped and
written in Punycode or with percent signs, and addresses are written in digits. So there is nothing
to trim from a host, and its registrable domain is taken of the host as it is.
-/

namespace TraceAudit

open Text (IsVisible)

namespace Punycode

theorem digit_ascii {n : Nat} (below : n < 36) : (digit n).toNat < 128 := by
  have each : ∀ n, n < 36 → (digit n).toNat < 128 := by decide
  exact each n below

/-- The digits of a number are of ASCII. -/
theorem digits_ascii (bias position n : Nat) : ∀ c ∈ digits bias position n, c.toNat < 128 := by
  fun_induction digits bias position n with
  | case1 position n t small =>
      have below := (threshold_bounds position bias).2
      intro c found
      rw [List.mem_singleton.1 found]
      exact digit_ascii (by omega)
  | case2 position n t large ih =>
      have below := (threshold_bounds position bias).2
      intro c found
      rcases List.mem_cons.1 found with rfl | later
      · have left : (n - t) % (36 - t) < 36 - t := Nat.mod_lt _ (by omega)
        exact digit_ascii (by omega)
      · exact ih c later

/-- All that was written so far is of ASCII. -/
def Writing.IsAscii (w : Writing) : Prop :=
  ∀ part ∈ w.written, ∀ c ∈ part, c.toNat < 128

theorem Writing.IsAscii.pass {w : Writing} (ascii : w.IsAscii) (basic n : Nat) (c : Char) :
    (w.pass basic n c).IsAscii := by
  unfold Writing.pass
  split
  · exact ascii
  · split
    · intro part listed
      rcases List.mem_cons.1 listed with rfl | before
      · exact digits_ascii w.bias 36 w.steps
      · exact ascii part before
    · exact ascii

theorem Writing.IsAscii.run {w : Writing} (ascii : w.IsAscii) (text : List Char) (basic : Nat)
    (codes : List Nat) (next : Nat) : (Writing.run text basic codes next w).IsAscii := by
  induction codes generalizing next w with
  | nil => exact ascii
  | cons n rest ih =>
      have passes (cs : List Char) (v : Writing) (before : v.IsAscii) :
          (cs.foldl (Writing.pass basic n) v).IsAscii := by
        induction cs generalizing v with
        | nil => exact before
        | cons c cs ih => exact ih (v.pass basic n c) (before.pass basic n c)
      rw [Writing.run]
      refine ih ?_ (n + 1)
      exact passes text _ ascii

/-- The writing of a text is of ASCII. -/
theorem encode_ascii (text : List Char) : ∀ c ∈ encode text, c.toNat < 128 := by
  intro c found
  unfold encode at found
  dsimp only at found
  rcases List.mem_append.1 found with basic | written
  · rcases List.mem_append.1 basic with basic | hyphen
    · exact of_decide_eq_true (List.mem_filter.1 basic).2
    · split at hyphen
      · cases hyphen
      · rw [List.mem_singleton.1 hyphen]
        decide
  · obtain ⟨part, listed, within⟩ := List.mem_flatten.1 written
    have start : Writing.IsAscii
        ⟨[], 0, 72, (text.filter (·.toNat < 128)).length⟩ := fun _ impossible =>
      absurd impossible List.not_mem_nil
    exact start.run _ _ _ _ part (List.mem_reverse.1 listed) c within

end Punycode

namespace Idna

/-- A label is written in ASCII. -/
theorem written_ascii (label : List Char) : ∀ c ∈ written label, c.toNat < 128 := by
  intro c found
  unfold written at found
  split at found
  · rename_i ascii
    exact of_decide_eq_true (List.all_eq_true.1 ascii c found)
  · rcases List.mem_append.1 found with start | rest
    · have each : writtenStart.all (·.toNat < 128) = true := by decide
      exact of_decide_eq_true (List.all_eq_true.1 each c start)
    · exact Punycode.encode_ascii label c rest

/-- The ASCII form of a host name is of ASCII and holds no character that hosts may not hold. -/
theorem allowed_of_toAscii? {name ascii : List Char} (found : toAscii? name = some ascii) :
    ∀ c ∈ ascii, c.toNat < 128 ∧ isForbidden c = false := by
  simp only [toAscii?, Option.bind_eq_bind, Option.bind_eq_some_iff] at found
  obtain ⟨mapped, _, labels, _, fits⟩ := found
  split at fits
  · rename_i sound
    intro c there
    rw [← Option.some.inj fits] at there
    constructor
    · rcases Text.eq_or_mem_of_mem_joined there with rfl | ⟨part, listed, within⟩
      · decide
      · obtain ⟨label, _, rfl⟩ := List.mem_map.1 listed
        exact written_ascii label c within
    · simp only [Bool.and_eq_true, Bool.not_eq_true', List.any_eq_false] at sound
      exact Bool.eq_false_iff.2 (sound.2 c there)
  · cases fits

/-- The ASCII form of a host name is visible. -/
theorem isVisible_of_toAscii? {name ascii : List Char} (found : toAscii? name = some ascii) :
    ∀ c ∈ ascii, IsVisible c := by
  intro c there
  obtain ⟨ascii, plain⟩ := allowed_of_toAscii? found c there
  exact Text.ascii_induction (motive := fun c => isForbidden c = false → IsVisible c) (by decide)
    ascii plain

end Idna

namespace Web

theorem isVisible_hexDigit {n : Nat} (below : n < 16) : IsVisible (hexDigit n) := by
  have each : ∀ n, n < 16 → IsVisible (hexDigit n) := by decide
  exact each n below

/-- A byte with a percent sign is visible. -/
theorem isVisible_of_mem_percentByte {b : UInt8} {c : Char} (found : c ∈ percentByte b) :
    IsVisible c := by
  have bound := b.toNat_lt
  rcases List.mem_cons.1 found with rfl | found
  · decide
  · rcases List.mem_cons.1 found with rfl | found
    · exact isVisible_hexDigit (by omega)
    · rw [List.mem_singleton.1 found]
      exact isVisible_hexDigit (by omega)

namespace Host

/-- A host of no particular scheme is visible once its controls are encoded. -/
theorem isVisible_of_mem_percentEncode {cs : List Char} (allowed : cs.any isForbidden = false)
    {c : Char} (found : c ∈ percentEncode isControl cs) : IsVisible c := by
  obtain ⟨d, there, within⟩ := List.mem_flatMap.1 found
  split at within
  · obtain ⟨b, _, within⟩ := List.mem_flatMap.1 within
    exact isVisible_of_mem_percentByte within
  · rename_i kept
    rw [List.mem_singleton.1 within]
    have plain : isForbidden d = false := Bool.eq_false_iff.2 fun forbidden =>
      List.any_eq_false.1 allowed d there forbidden
    simp only [Bool.or_eq_true, decide_eq_true_eq, not_or, Nat.not_le] at kept
    exact Text.ascii_induction
      (motive := fun d => isForbidden d = false → ¬ isControl d = true → IsVisible d) (by decide)
      kept.1 plain kept.2

/-- An address of four bytes is written in digits and dots. -/
theorem of_mem_ipv4 {motive : Char → Prop} (dot : motive '.')
    (digit : ∀ d, d < 16 → motive d.digitChar) {address : Nat} {c : Char}
    (found : c ∈ IPv4.text address) : motive c := by
  rcases Text.eq_or_mem_of_mem_joined found with rfl | ⟨part, listed, within⟩
  · exact dot
  · obtain ⟨place, _, rfl⟩ := List.mem_map.1 listed
    have digits : (toString (address / Nat.pow 256 place % 256)).toList =
        Nat.toDigits 10 (address / Nat.pow 256 place % 256) := Nat.toList_repr
    rw [digits] at within
    exact Text.of_mem_toDigits digit (by decide) (by decide) within

/-- An address of eight groups is written in digits, colons and dots. -/
theorem of_mem_ipv6 {motive : Char → Prop} (dot : motive '.') (colon : motive ':')
    (digit : ∀ d, d < 16 → motive d.digitChar) {groups : List Nat} {c : Char}
    (found : c ∈ IPv6.text groups) : motive c := by
  have colons (part : List Nat) (within : c ∈ Text.joined ':' (part.map IPv6.groupText)) :
      motive c := by
    rcases Text.eq_or_mem_of_mem_joined within with rfl | ⟨group, listed, within⟩
    · exact colon
    · obtain ⟨n, _, rfl⟩ := List.mem_map.1 listed
      exact Text.of_mem_toDigits digit (by decide) (by decide) within
  unfold IPv6.text at found
  split at found
  · rcases List.mem_append.1 found with start | address
    · have each : ("::ffff:".toList.all fun c => c = ':' ∨ c = Nat.digitChar 15) = true := by
        decide
      rcases of_decide_eq_true (List.all_eq_true.1 each c start) with rfl | rfl
      · exact colon
      · exact digit 15 (by decide)
    · exact of_mem_ipv4 dot digit address
  · dsimp only at found
    split at found
    · exact colons _ found
    · rcases List.mem_append.1 found with before | after
      · rcases List.mem_append.1 before with before | gap
        · exact colons _ before
        · rw [List.eq_of_mem_replicate (n := 2) gap]
          exact colon
      · exact colons _ after

/-- The host that the text of a URL of some kind names. -/
def ofText? (kind : SchemeKind) (cs : List Char) : Option Host :=
  match kind with
  | .other => ofOther? cs
  | _ => ofWeb? cs

/-- A host is written in visible characters. -/
def IsWritten (host : Host) : Prop :=
  ∀ c ∈ host.text, IsVisible c

theorem isWritten_bracketed? {cs : List Char} {host : Host} (read : bracketed? cs = some host) :
    host.IsWritten := by
  unfold bracketed? at read
  split at read
  · obtain ⟨groups, _, rfl⟩ := Option.map_eq_some_iff.1 read
    exact fun c => of_mem_ipv6 (by decide) (by decide) (by decide)
  · cases read

theorem isWritten_name {text : List Char} (visible : ∀ c ∈ text, IsVisible c) :
    (name text).IsWritten := by
  intro c found
  obtain ⟨d, there, rfl⟩ := List.mem_map.1 found
  exact (visible d there).toLower

theorem isWritten_ofWeb? {cs : List Char} {host : Host} (read : ofWeb? cs = some host) :
    host.IsWritten := by
  unfold ofWeb? at read
  split at read
  · exact isWritten_bracketed? read
  · obtain ⟨ascii, mapped, read⟩ := Option.bind_eq_some_iff.1 read
    split at read
    · cases read
    · split at read
      · obtain ⟨address, _, rfl⟩ := Option.map_eq_some_iff.1 read
        exact fun c => of_mem_ipv4 (by decide) (by decide)
      · rw [← Option.some.inj read]
        exact isWritten_name (Idna.isVisible_of_toAscii? mapped)

theorem isWritten_ofOther? {cs : List Char} {host : Host} (read : ofOther? cs = some host) :
    host.IsWritten := by
  unfold ofOther? at read
  split at read
  · exact isWritten_bracketed? read
  · split at read
    · cases read
    · rename_i allowed
      rw [Bool.or_eq_true, not_or] at allowed
      rw [← Option.some.inj read]
      exact isWritten_name fun c => isVisible_of_mem_percentEncode (Bool.eq_false_iff.2 allowed.2)

theorem isWritten_ofText? {kind : SchemeKind} {cs : List Char} {host : Host}
    (read : ofText? kind cs = some host) : host.IsWritten := by
  cases kind with
  | web => exact isWritten_ofWeb? read
  | file => exact isWritten_ofWeb? read
  | other => exact isWritten_ofOther? read

end Host

namespace Target

/-- What follows the digits of a port, if there is one. -/
def restOf? (kind : SchemeKind) : Option (List Char) → Option (List Char)
  | none => some []
  | some port => afterPort? kind port

/-- A target is read in three steps: its host, what follows the port, and the path. -/
theorem ofAuthority?_eq_some_iff {kind : SchemeKind} {cs : List Char} {target : Target} :
    ofAuthority? kind cs = some target ↔
      ∃ host rest,
        Host.ofText? kind
          (cutAtPort false (withoutUser (cs.takeWhile (!kind.endsAuthority ·)))).1 = some host ∧
        restOf? kind
          (cutAtPort false (withoutUser (cs.takeWhile (!kind.endsAuthority ·)))).2 = some rest ∧
        target = ofParts host (pathOf kind (rest ++ cs.dropWhile (!kind.endsAuthority ·))) := by
  unfold ofAuthority?
  dsimp only
  generalize cutAtPort false (withoutUser (cs.takeWhile (!kind.endsAuthority ·))) = cut
  obtain ⟨hostText, port⟩ := cut
  have steps : ∀ {read : Option Host}, (read.bind fun host => (restOf? kind port).bind fun rest =>
        some (ofParts host (pathOf kind (rest ++ cs.dropWhile (!kind.endsAuthority ·))))) =
          some target ↔
      ∃ host rest, read = some host ∧ restOf? kind port = some rest ∧
        target = ofParts host (pathOf kind (rest ++ cs.dropWhile (!kind.endsAuthority ·))) := by
    intro read
    simp only [Option.bind_eq_some_iff, Option.some.injEq]
    constructor
    · rintro ⟨host, hosted, rest, after, rfl⟩
      exact ⟨host, rest, hosted, after, rfl⟩
    · rintro ⟨host, rest, hosted, after, rfl⟩
      exact ⟨host, hosted, rest, after, rfl⟩
  cases kind <;> cases port <;> exact steps

/-- The target is made of a host in visible characters and a path. -/
def IsOfParts (target : Target) : Prop :=
  ∃ host : Host, host.IsWritten ∧ ∃ path, target = ofParts host path

theorem isOfParts_ofAuthority? {kind : SchemeKind} {cs : List Char} {target : Target}
    (read : ofAuthority? kind cs = some target) : target.IsOfParts := by
  obtain ⟨host, _, hosted, _, rfl⟩ := ofAuthority?_eq_some_iff.1 read
  exact ⟨host, Host.isWritten_ofText? hosted, _, rfl⟩

theorem isOfParts_ofFile? {cs : List Char} {target : Target} (read : ofFile? cs = some target) :
    target.IsOfParts := by
  unfold ofFile? at read
  dsimp only at read
  split at read
  · cases read
  · obtain ⟨host, hosted, read⟩ := Option.bind_eq_some_iff.1 read
    split at read
    · cases read
    · exact ⟨host, Host.isWritten_ofWeb? hosted, _, (Option.some.inj read).symm⟩

/-- The target of every URL is made of a host in visible characters and a path. -/
theorem isOfParts_ofUrl? {url : String} {target : Target} (read : ofUrl? url = some target) :
    target.IsOfParts := by
  unfold ofUrl? at read
  obtain ⟨⟨scheme, rest⟩, _, read⟩ := Option.bind_eq_some_iff.1 read
  dsimp only at read
  split at read
  · exact isOfParts_ofAuthority? read
  · split at read
    · split at read
      · exact isOfParts_ofFile? read
      · cases read
    · cases read
  · split at read
    · exact isOfParts_ofAuthority? read
    · cases read

/-- The registrable domain of a target is that of its host. -/
theorem IsOfParts.registrable {target : Target} (parts : target.IsOfParts) :
    target.registrable = registrableDomain? target.host := by
  obtain ⟨host, _, path, rfl⟩ := parts
  rfl

/-- There is nothing to trim from the host of a target. -/
theorem IsOfParts.plainHost {target : Target} (parts : target.IsOfParts) :
    plainHost target.host.toList = (withoutFinalDots target.host.toList).map Char.toLower := by
  obtain ⟨host, written, path, rfl⟩ := parts
  have text : (ofParts host path).host.toList = host.text := String.toList_ofList
  rw [text, Web.plainHost, Text.trimChars_of_visible written]

end Target
end Web
end TraceAudit
