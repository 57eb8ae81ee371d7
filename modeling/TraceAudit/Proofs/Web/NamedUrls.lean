import TraceAudit.Proofs.Web.Authority
import TraceAudit.Proofs.Web.PlainNames
import TraceAudit.Proofs.Web.PlainPaths

/-!
# URLs of a name and a path

What a URL sends to that is written from a name and a path, as those in a vendor rule are meant. It
belongs to the name exactly if the name is plain, and then it goes to the path as the path is sent.
-/

namespace TraceAudit.Web

/-- The text of the URL from the name on, as it is read. -/
def cleanBody (name rest : List Char) : List Char :=
  (name.filter fun c => !(c == '\t' || c == '\n' || c == '\r')) ++ '/' :: cleanEnd rest

/-- Only the end of the path is trimmed, and line breaks are left out everywhere. -/
theorem cleanUrl_https {name path : String} {rest : List Char}
    (absolute : path.toList = '/' :: rest) :
    cleanUrl (Text.trimChars ("https://" ++ name ++ path).toList) =
      "https".toList ++ ':' :: '/' :: '/' :: cleanBody name.toList rest := by
  have text : ("https://" ++ name ++ path).toList =
      'h' :: ("ttps://".toList ++ name.toList ++ '/' :: rest) := by
    rw [String.toList_append, String.toList_append, absolute]
    rfl
  have begun {p : Char → Bool} (kept : p 'h' = false) (others : List Char) :
      ('h' :: others).dropWhile p = 'h' :: others :=
    List.dropWhile_cons_of_neg (by simp [kept])
  have ended {p : Char → Bool} (kept : p '/' = false) (back : List Char) :
      Text.dropEndWhile p ('h' :: ("ttps://".toList ++ name.toList ++ '/' :: back)) =
        'h' :: ("ttps://".toList ++ name.toList ++ '/' :: Text.dropEndWhile p back) :=
    Text.dropEndWhile_append_cons ('h' :: ("ttps://".toList ++ name.toList)) kept back
  rw [text, Text.trimChars, Text.dropBlanks, begun (by decide), ended (by decide), cleanUrl]
  dsimp only
  rw [begun (by decide), ended (by decide), cleanBody, cleanEnd, List.append_assoc]
  simp only [List.filter_cons, List.filter_append]
  rfl

/-- The URL is one of the web. Slashes before the name, and there may be some in it, are passed
over. -/
theorem ofUrl?_https {name path : String} {rest : List Char}
    (absolute : path.toList = '/' :: rest) :
    Target.ofUrl? ("https://" ++ name ++ path) =
      Target.ofAuthority? .web ((cleanBody name.toList rest).dropWhile SchemeKind.web.isSlash) := by
  have isScheme : IsScheme "https".toList :=
    ⟨'h', "ttps".toList, by decide, by decide, List.all_eq_true.1 (by decide)⟩
  have kind : SchemeKind.ofScheme ("https".toList.map Char.toLower) = .web := by decide
  rw [Target.ofUrl?, cleanUrl_https absolute, scheme?_append isScheme, Option.bind_eq_bind,
    Option.bind_some]
  dsimp only
  rw [kind]
  dsimp only
  rw [List.dropWhile_cons_of_pos (by decide), List.dropWhile_cons_of_pos (by decide)]

/-- A safe name is read as it is, up to the path. -/
theorem cleanBody_of_isSafe {name : List Char} (safe : ∀ c ∈ name, IsSafe c) (rest : List Char) :
    cleanBody name rest = name ++ '/' :: cleanEnd rest := by
  rw [cleanBody, List.filter_eq_self.2]
  intro c found
  exact Text.ascii_induction
    (motive := fun c => IsSafe c → (!(c == '\t' || c == '\n' || c == '\r')) = true) (by decide)
    (safe c found).1.ascii (safe c found)

/-- The host of the URL of a safe name is in the name, before a port if there is one. -/
theorem ofUrl?_https_of_isSafe {name path : String} {rest : List Char}
    (absolute : path.toList = '/' :: rest) (some_name : name.toList ≠ [])
    (safe : ∀ c ∈ name.toList, IsSafe c) {target : Target} :
    Target.ofUrl? ("https://" ++ name ++ path) = some target ↔
      ∃ host after, Host.ofWeb? (cutAtPort false name.toList).1 = some host ∧
        Target.restOf? .web (cutAtPort false name.toList).2 = some after ∧
        target = Target.ofParts host (pathOf .web (after ++ '/' :: cleanEnd rest)) := by
  have inside : ∀ c ∈ name.toList, (!SchemeKind.web.endsAuthority c) = true := fun c found => by
    rw [(safe c found).2.1]
    rfl
  have start : (name.toList ++ '/' :: cleanEnd rest).dropWhile SchemeKind.web.isSlash =
      name.toList ++ '/' :: cleanEnd rest := by
    obtain ⟨c, others, whole⟩ := List.exists_cons_of_ne_nil some_name
    have ends := (safe c (whole ▸ List.mem_cons_self)).2.1
    simp only [SchemeKind.endsAuthority, Bool.or_eq_false_iff] at ends
    rw [whole, List.cons_append, List.dropWhile_cons_of_neg (by simp [ends.1.1])]
  have authority : (name.toList ++ '/' :: cleanEnd rest).takeWhile
      (!SchemeKind.web.endsAuthority ·) = name.toList := by
    rw [List.takeWhile_append_of_pos inside, List.takeWhile_cons_of_neg (by decide),
      List.append_nil]
  have after : (name.toList ++ '/' :: cleanEnd rest).dropWhile
      (!SchemeKind.web.endsAuthority ·) = '/' :: cleanEnd rest := by
    rw [List.dropWhile_append_of_pos inside, List.dropWhile_cons_of_neg (by decide)]
  have user : IsUser .web [] := .inl rfl
  have no_user : withoutUser name.toList = name.toList :=
    withoutUser_append user fun c found => (safe c found).2.2.1
  rw [ofUrl?_https absolute, cleanBody_of_isSafe safe, start, Target.ofAuthority?_eq_some_iff,
    authority, after, no_user]
  rfl

/-! ## Ports -/

theorem cutAtPort_subset (inBrackets : Bool) (cs : List Char) :
    (cutAtPort inBrackets cs).1 ⊆ cs := by
  induction cs generalizing inBrackets with
  | nil => exact List.Subset.refl _
  | cons c rest ih =>
      rw [cutAtPort]
      split
      · exact List.nil_subset _
      · exact List.cons_subset_cons c (ih _)

/-- A name of allowed characters has no port. -/
theorem cutAtPort_of_allowed {name : List Char}
    (allowed : ∀ c ∈ name, Idna.isForbidden c = false) : cutAtPort false name = (name, none) := by
  have plain : ∀ c ∈ name, c ≠ ':' ∧ c ≠ '[' := by
    intro c found
    have here := allowed c found
    constructor
    · rintro rfl
      exact absurd here (by decide)
    · rintro rfl
      exact absurd here (by decide)
  have cut := cutAtPort_append plain []
  rw [List.append_nil] at cut
  rw [cut, cutAtPort, List.append_nil]

/-! ## Targets -/

theorem Target.registrable_ofParts (host : Host) (path : List Char) :
    (ofParts host path).registrable = registrableDomain? (String.ofList host.text) := by
  rw [ofParts]

/-- The registrable domain of a target is in visible characters, whatever the URL. -/
theorem Target.isVisible_of_registrable {url domain : String} {target : Target}
    (read : ofUrl? url = some target) (registrable : target.registrable = some domain) :
    ∀ c ∈ domain.toList, Text.IsVisible c := by
  obtain ⟨host, written, _, rfl⟩ := isOfParts_ofUrl? read
  rw [registrable_ofParts] at registrable
  refine of_mem_registrableDomain? registrable ?_
  rw [String.toList_ofList]
  exact fun c found => (written c found).toLower

section Named

variable {name path : String}

theorem toList_ne_nil_of_registrableDomain? (own : registrableDomain? name = some name) :
    name.toList ≠ [] := by
  intro nothing
  rw [String.toList_eq_nil_iff.1 nothing] at own
  exact absurd own (by decide)

/-- The URL of a plain name and a path goes to the name and to the path as it is sent. -/
theorem ofUrl?_of_isPlainName (own : registrableDomain? name = some name)
    (absolute : path.toList.head? = some '/') (plain : IsPlainName name.toList) :
    Target.ofUrl? ("https://" ++ name ++ path) =
      some ⟨name, some name, String.ofList (sentPath path.toList)⟩ := by
  obtain ⟨rest, shape⟩ := List.head?_eq_some_iff.1 absolute
  have some_name := toList_ne_nil_of_registrableDomain? own
  have small : ∀ c ∈ name.toList, c.toLower = c := small_of_registrableDomain? own
  have safe : ∀ c ∈ name.toList, IsSafe c := fun c found =>
    isSafe_of_allowed (plain.ascii c found) (plain.allowed c found)
  obtain ⟨host, read, text⟩ := plain.ofWeb? some_name small
  rw [ofUrl?_https_of_isSafe shape some_name safe, cutAtPort_of_allowed plain.allowed]
  refine ⟨host, [], read, rfl, ?_⟩
  rw [Target.ofParts, text, String.ofList_toList, own, List.nil_append, sentPath, shape,
    cleanEnd_cons]

/-- The name of a URL that belongs to the name is plain. -/
theorem isPlainName_of_ofUrl? (own : registrableDomain? name = some name)
    (absolute : path.toList.head? = some '/') {target : Target}
    (read : Target.ofUrl? ("https://" ++ name ++ path) = some target)
    (registrable : target.registrable = some name) : IsPlainName name.toList := by
  obtain ⟨rest, shape⟩ := List.head?_eq_some_iff.1 absolute
  have some_name := toList_ne_nil_of_registrableDomain? own
  -- The host is safe, so the name is, and then the host is read from the name.
  have safe : ∀ c ∈ name.toList, IsSafe c := by
    rw [ofUrl?_https shape, Target.ofAuthority?_eq_some_iff] at read
    obtain ⟨host, _, hosted, _, rfl⟩ := read
    rw [Target.registrable_ofParts] at registrable
    refine of_mem_registrableDomain? registrable ?_
    rw [String.toList_ofList]
    exact Host.isSafe_of_ofWeb? hosted
  obtain ⟨host, _, hosted, _, rfl⟩ := (ofUrl?_https_of_isSafe shape some_name safe).1 read
  rw [Target.registrable_ofParts] at registrable
  have unbracketed : (cutAtPort false name.toList).1.head? ≠ some '[' := fun bracket =>
    (safe '[' (cutAtPort_subset _ _ (List.mem_of_head? bracket))).2.2.2 rfl
  -- The text of the host is allowed, so the name is, and has no port.
  have allowed : ∀ c ∈ name.toList, Idna.isForbidden c = false := by
    refine of_mem_registrableDomain? registrable ?_
    rw [String.toList_ofList]
    exact Host.allowed_of_ofWeb? unbracketed hosted
  rw [cutAtPort_of_allowed allowed] at hosted
  refine isPlainName_of_ofWeb? (fun c found => (safe c found).1.ascii) allowed
    (small_of_registrableDomain? own) hosted ?_
  rw [String.ofList_toList]
  exact registrable

end Named

end TraceAudit.Web
