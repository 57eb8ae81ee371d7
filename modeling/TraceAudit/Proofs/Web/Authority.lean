import TraceAudit.Proofs.Text.Cuts
import TraceAudit.Proofs.Web.Hosts

/-!
# What stands around a host

A URL may give a user before its host, and a port, a path, a query and a fragment after it. None of
them has a part in the host of the target: it is the one that the text of the host names by itself.
-/

namespace TraceAudit

namespace Web

/-- A letter, and then letters, digits and some signs. -/
def IsScheme (scheme : List Char) : Prop :=
  ∃ first rest, scheme = first :: rest ∧ first.isAlpha = true ∧
    ∀ c ∈ rest, (c.isAlphanum || c == '+' || c == '-' || c == '.') = true

/-- The name of a host, or an address of four bytes. -/
def IsHostText (kind : SchemeKind) (host : List Char) : Prop :=
  host ≠ [] ∧ ∀ c ∈ host, kind.endsAuthority c = false ∧ c ≠ '@' ∧ c ≠ ':' ∧ c ≠ '['

/-- Nothing, or something with an at sign after it. -/
def IsUser (kind : SchemeKind) (user : List Char) : Prop :=
  user = [] ∨ ∃ name, user = name ++ ['@'] ∧ ∀ c ∈ name, kind.endsAuthority c = false

/-- Nothing, or digits with a colon before them. -/
def IsPort (port : List Char) : Prop :=
  port = [] ∨ ∃ digits, port = ':' :: digits ∧ ∀ c ∈ digits, c.isDigit = true

/-- Nothing, or a path, a query or a fragment. -/
def IsTail (kind : SchemeKind) (tail : List Char) : Prop :=
  tail = [] ∨ ∃ first rest, tail = first :: rest ∧ kind.endsAuthority first = true

/-- The text of a URL, of any kind but that of files, that names a host. -/
inductive NamesHost (kind : SchemeKind) (host : List Char) : List Char → Prop where
  | intro {scheme user port tail : List Char} (remote : kind ≠ .file) (isScheme : IsScheme scheme)
      (ofKind : SchemeKind.ofScheme (scheme.map Char.toLower) = kind)
      (isUser : IsUser kind user) (isHost : IsHostText kind host) (isPort : IsPort port)
      (isTail : IsTail kind tail) :
      NamesHost kind host
        (scheme ++ ':' :: '/' :: '/' :: (user ++ host ++ port ++ tail))

theorem scheme?_append {scheme : List Char} (isScheme : IsScheme scheme) (rest : List Char) :
    scheme? (scheme ++ ':' :: rest) = some (scheme.map Char.toLower, rest) := by
  obtain ⟨first, more, rfl, letter, allowed⟩ := isScheme
  have no_colon : ∀ c ∈ first :: more, (c == ':') = false := by
    intro c found
    refine Bool.eq_false_iff.2 fun colon => ?_
    rw [beq_iff_eq.1 colon] at found
    rcases List.mem_cons.1 found with rfl | later
    · exact absurd letter (by decide)
    · exact absurd (allowed ':' later) (by decide)
  unfold scheme?
  rw [Text.cutAt_append no_colon (beq_self_eq_true ':')]
  have all : (more.all fun d => d.isAlphanum || d == '+' || d == '-' || d == '.') = true :=
    List.all_eq_true.2 allowed
  dsimp only
  rw [letter, all]
  rfl

theorem endsAuthority_of_isDigit {kind : SchemeKind} {c : Char} (digit : c.isDigit = true) :
    kind.endsAuthority c = false := by
  have ascii : c.toNat < 128 := by
    have below : c.toNat ≤ 57 := by
      simp only [Char.isDigit, Bool.and_eq_true, decide_eq_true_eq] at digit
      exact digit.2
    omega
  cases kind <;>
    exact Text.ascii_induction
      (motive := fun c => c.isDigit = true → SchemeKind.endsAuthority _ c = false) (by decide)
      ascii digit

section Authority

variable {kind : SchemeKind} {user host port tail : List Char}

/-- Nothing before the tail ends the part of the URL that names the host. -/
theorem endsAuthority_of_mem (isUser : IsUser kind user) (isHost : IsHostText kind host)
    (isPort : IsPort port) : ∀ c ∈ user ++ host ++ port, kind.endsAuthority c = false := by
  intro c found
  rcases List.mem_append.1 found with before | after
  · rcases List.mem_append.1 before with inUser | inHost
    · rcases isUser with rfl | ⟨name, rfl, inner⟩
      · cases inUser
      · rcases List.mem_append.1 inUser with inName | sign
        · exact inner c inName
        · rw [List.mem_singleton.1 sign]
          cases kind <;> decide
    · exact (isHost.2 c inHost).1
  · rcases isPort with rfl | ⟨digits, rfl, numeric⟩
    · cases after
    · rcases List.mem_cons.1 after with rfl | digit
      · cases kind <;> decide
      · exact endsAuthority_of_isDigit (numeric c digit)

/-- The part of the URL that names the host ends where the tail begins. -/
theorem takeWhile_endsAuthority (inner : ∀ c ∈ user ++ host ++ port, kind.endsAuthority c = false)
    (isTail : IsTail kind tail) :
    (user ++ host ++ port ++ tail).takeWhile (!kind.endsAuthority ·) = user ++ host ++ port := by
  rw [List.takeWhile_append_of_pos fun c found => by rw [inner c found]; rfl]
  rcases isTail with rfl | ⟨first, rest, rfl, ends⟩
  · rw [List.takeWhile_nil, List.append_nil]
  · rw [List.takeWhile_cons_of_neg (by simp [ends]), List.append_nil]

/-- The user is passed over. -/
theorem withoutUser_append (isUser : IsUser kind user) {after : List Char}
    (no_sign : ∀ c ∈ after, c ≠ '@') : withoutUser (user ++ after) = after := by
  have kept : ∀ c ∈ after.reverse, (c != '@') = true := fun c found =>
    bne_iff_ne.2 (no_sign c (List.mem_reverse.1 found))
  unfold withoutUser
  rw [List.reverse_append, List.takeWhile_append_of_pos kept]
  rcases isUser with rfl | ⟨name, rfl, _⟩
  · rw [List.reverse_nil, List.takeWhile_nil, List.append_nil, List.reverse_reverse]
  · have signed : (name ++ ['@']).reverse = '@' :: name.reverse := by simp
    rw [signed, List.takeWhile_cons_of_neg (by simp), List.append_nil, List.reverse_reverse]

/-- The host ends where the port begins. -/
theorem cutAtPort_append (isHost : ∀ c ∈ host, c ≠ ':' ∧ c ≠ '[') (port : List Char) :
    cutAtPort false (host ++ port) =
      (host ++ (cutAtPort false port).1, (cutAtPort false port).2) := by
  induction host with
  | nil => rfl
  | cons c rest ih =>
      obtain ⟨no_colon, no_bracket⟩ := isHost c List.mem_cons_self
      have later := ih fun d found => isHost d (List.mem_cons_of_mem c found)
      rw [List.cons_append, cutAtPort, if_neg fun both => no_colon both.1]
      have outside : (if c = '[' then true else if c = ']' then false else false) = false := by
        rw [if_neg no_bracket, ite_self]
      dsimp only
      rw [outside, later, List.cons_append]

theorem cutAtPort_of_isPort (isPort : IsPort port) : (cutAtPort false port).1 = [] := by
  rcases isPort with rfl | ⟨digits, rfl, _⟩
  · rfl
  · rfl

/-- Only the text of the host decides what the part of a URL after its slashes sends to. -/
theorem ofText?_of_ofAuthority? {target : Target} (isUser : IsUser kind user)
    (isHost : IsHostText kind host) (isPort : IsPort port) (isTail : IsTail kind tail)
    (read : Target.ofAuthority? kind (user ++ host ++ port ++ tail) = some target) :
    ∃ h, Host.ofText? kind host = some h ∧ target.host = String.ofList h.text := by
  obtain ⟨h, rest, hosted, _, rfl⟩ := Target.ofAuthority?_eq_some_iff.1 read
  have no_sign : ∀ c ∈ host ++ port, c ≠ '@' := by
    intro c found
    rcases List.mem_append.1 found with inHost | inPort
    · exact (isHost.2 c inHost).2.1
    · rintro rfl
      rcases isPort with rfl | ⟨digits, rfl, numeric⟩
      · cases inPort
      · rcases List.mem_cons.1 inPort with colon | digit
        · exact absurd colon (by decide)
        · exact absurd (numeric '@' digit) (by decide)
  rw [takeWhile_endsAuthority (endsAuthority_of_mem isUser isHost isPort) isTail,
    List.append_assoc, withoutUser_append isUser no_sign,
    cutAtPort_append (fun c found => (isHost.2 c found).2.2) port, cutAtPort_of_isPort isPort,
    List.append_nil] at hosted
  exact ⟨h, hosted, rfl⟩

end Authority

/-- Whatever user, port, path, query and fragment stand around the text of a host, the host of the
target is the one that this text names. -/
theorem ofText?_of_namesHost {kind : SchemeKind} {host : List Char} {url : String}
    {target : Target} (named : NamesHost kind host (cleanUrl (Text.trimChars url.toList)))
    (read : Target.ofUrl? url = some target) :
    ∃ h, Host.ofText? kind host = some h ∧ target.host = String.ofList h.text := by
  unfold Target.ofUrl? at read
  generalize cleanUrl (Text.trimChars url.toList) = text at named read
  obtain ⟨remote, isScheme, ofKind, isUser, isHost, isPort, isTail⟩ := named
  rename_i scheme user port tail
  rw [scheme?_append isScheme, Option.bind_eq_bind, Option.bind_some] at read
  dsimp only at read
  rw [ofKind] at read
  cases kind with
  | file => exact absurd rfl remote
  | other => exact ofText?_of_ofAuthority? isUser isHost isPort isTail read
  | web =>
      -- The host is not empty, so no slash but the first two is passed over.
      have start : ('/' :: '/' :: (user ++ host ++ port ++ tail)).dropWhile SchemeKind.web.isSlash =
          user ++ host ++ port ++ tail := by
        have inner := endsAuthority_of_mem isUser isHost isPort
        have nonempty : user ++ host ++ port ≠ [] := by simp [isHost.1]
        obtain ⟨c, rest, whole⟩ := List.exists_cons_of_ne_nil nonempty
        rw [whole] at inner ⊢
        have no_slash : SchemeKind.web.isSlash c = false := by
          have ends := inner c List.mem_cons_self
          simp only [SchemeKind.endsAuthority, Bool.or_eq_false_iff] at ends
          exact ends.1.1
        rw [List.dropWhile_cons_of_pos (by decide), List.dropWhile_cons_of_pos (by decide),
          List.cons_append, List.dropWhile_cons_of_neg (by simp [no_slash])]
      dsimp only at read
      rw [start] at read
      exact ofText?_of_ofAuthority? isUser isHost isPort isTail read

end Web
end TraceAudit
