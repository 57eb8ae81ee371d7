import TraceAudit.Program.FileSystem
import TraceAudit.Proofs.Steps
import TraceAudit.Proofs.Text.Ascii

/-!
# Files that were written

A file that was written at a path is read there, and files at other places are read as before: no
directory is where a file is put, so each path leads where it led. The files of one directory are at
different places.
-/

namespace TraceAudit

namespace FileSystem

/-! ## Places -/

theorem lookup_filter_of_ne {nodes : List (Place × FileNode)} {place other : Place}
    (ne : other ≠ place) :
    (nodes.filter (·.1 != place)).lookup other = nodes.lookup other := by
  induction nodes with
  | nil => rfl
  | cons node rest ih =>
      by_cases removed : node.1 = place
      · have elsewhere : (other == node.1) = false := by
          rw [removed]
          exact beq_eq_false_iff_ne.2 ne
        rw [List.filter_cons_of_neg (by simp [removed]), ih, List.lookup_cons, elsewhere]
      · rw [List.filter_cons_of_pos (by simp [removed]), List.lookup_cons, List.lookup_cons, ih]

/-- What was put at a place stands there. -/
theorem node?_put_self {fs : FileSystem} {place : Place} (below_root : place ≠ [])
    (node : FileNode) : (fs.put place node).node? place = some node := by
  obtain ⟨name, rest, rfl⟩ := List.exists_cons_of_ne_nil below_root
  rw [node?, put, List.lookup_cons_self]
  exact List.cons_ne_nil name rest

/-- Nothing else changes. -/
theorem node?_put_of_ne {fs : FileSystem} {place other : Place} (ne : other ≠ place)
    (node : FileNode) : (fs.put place node).node? other = fs.node? other := by
  cases other with
  | nil => rfl
  | cons name rest =>
      rw [node?, node?, put, List.lookup_cons, beq_eq_false_iff_ne.2 ne]
      · exact lookup_filter_of_ne ne
      · exact List.cons_ne_nil name rest
      · exact List.cons_ne_nil name rest

/-! ## Ways -/

variable {fs : FileSystem} {place : Place}

/-- Where no directory stands, nothing is entered, and so it may be replaced. -/
theorem enter_put (closed : fs.node? place ≠ some .directory) (node : FileNode)
    {at_place next : Place} {name : String} (entered : fs.enter at_place name = .ok next) :
    (fs.put place node).enter at_place name = .ok next := by
  have elsewhere : at_place ≠ place := by
    rintro rfl
    unfold enter at entered
    split at entered
    · cases entered
    · cases entered
    · rename_i stands
      exact closed stands
  unfold enter at entered ⊢
  rwa [node?_put_of_ne elsewhere]

theorem foldlM_enter_put (closed : fs.node? place ≠ some .directory) (node : FileNode)
    {names : List String} {start found : Place}
    (walked : names.foldlM fs.enter start = .ok found) :
    names.foldlM (fs.put place node).enter start = .ok found := by
  induction names generalizing start with
  | nil => exact walked
  | cons name rest ih =>
      rw [List.foldlM_cons] at walked ⊢
      obtain ⟨next, entered, onward⟩ := bind_eq_ok_iff.1 walked
      rw [enter_put closed node entered]
      exact ih onward

/-- A path is walked name by name, and where it ends in a slash what it leads to is entered. -/
theorem locate_eq_ok_iff {path : String} :
    fs.locate path = .ok place ↔ pathError? path = none ∧
      ∃ last, (names path).foldlM fs.enter (fs.origin path) = .ok last ∧
        (if path.toList.getLast? = some '/' then fs.enter last "." else .ok last) = .ok place := by
  unfold locate
  cases pathError? path with
  | some e =>
      constructor
      · intro impossible
        cases impossible
      · rintro ⟨impossible, _⟩
        cases impossible
  | none => exact bind_eq_ok_iff.trans ⟨fun led => ⟨rfl, led⟩, fun led => led.2⟩

/-- Where no directory stands, putting something there changes no way. -/
theorem locate_put (closed : fs.node? place ≠ some .directory) (node : FileNode) {path : String}
    {found : Place} (led : fs.locate path = .ok found) :
    (fs.put place node).locate path = .ok found := by
  obtain ⟨named, last, walked, ended⟩ := locate_eq_ok_iff.1 led
  refine locate_eq_ok_iff.2 ⟨named, last, foldlM_enter_put closed node walked, ?_⟩
  split at ended
  · rename_i slash
    rw [if_pos slash]
    exact enter_put closed node ended
  · rename_i slash
    rw [if_neg slash]
    exact ended

/-! ## Reading and writing -/

theorem read_eq_ok_iff {path : String} {content : Bytes} :
    fs.read path = .ok content ↔
      ∃ found, fs.locate path = .ok found ∧ fs.node? found = some (.file content) := by
  refine bind_eq_ok_iff.trans (exists_congr fun found => and_congr_right fun _ => ?_)
  cases fs.node? found with
  | none => simp [throw, throwThe, MonadExceptOf.throw]
  | some node => cases node <;> simp [throw, throwThe, MonadExceptOf.throw, pure, Except.pure]

theorem write_eq_ok_iff {path : String} {content : Bytes} {after : FileSystem} :
    fs.write path content = .ok after ↔
      ∃ found, fs.locate path = .ok found ∧ fs.node? found ≠ some .directory ∧
        after = fs.put found (.file content) := by
  refine bind_eq_ok_iff.trans (exists_congr fun found => and_congr_right fun _ => ?_)
  by_cases directory : fs.node? found = some .directory
  · simp [directory, throw, throwThe, MonadExceptOf.throw, bind, Except.bind]
  · simp [directory, pure, Except.pure, eq_comm]

/-- What was written is read. -/
theorem read_of_write {path : String} {content : Bytes} {after : FileSystem}
    (written : fs.write path content = .ok after) : after.read path = .ok content := by
  obtain ⟨found, led, closed, rfl⟩ := write_eq_ok_iff.1 written
  have below_root : found ≠ [] := by
    rintro rfl
    exact closed rfl
  exact read_eq_ok_iff.2 ⟨found, locate_put closed _ led, node?_put_self below_root _⟩

/-! ## Files at their places -/

/-- The place of the file that a path leads to, if there is one. -/
def fileAt? (fs : FileSystem) (path : String) : Option Place :=
  match fs.locate path with
  | .error _ => none
  | .ok found =>
      match fs.node? found with
      | some (.file _) => some found
      | _ => none

theorem fileAt?_eq_some_iff {path : String} :
    fs.fileAt? path = some place ↔
      fs.locate path = .ok place ∧ ∃ content, fs.node? place = some (.file content) := by
  unfold fileAt?
  cases fs.locate path with
  | error e => simp
  | ok found =>
      dsimp only
      split
      · rename_i content stands
        simp only [Option.some.injEq, Except.ok.injEq]
        constructor
        · rintro rfl
          exact ⟨rfl, content, stands⟩
        · exact And.left
      · rename_i no_file
        simp only [reduceCtorEq, Except.ok.injEq, false_iff]
        rintro ⟨rfl, content, stands⟩
        exact no_file content stands

variable {path other : String} {content kept : Bytes} {after : FileSystem} {beside : Place}

/-- A path at which something was written leads to a file. -/
theorem exists_fileAt?_of_write (written : fs.write path content = .ok after) :
    ∃ found, after.fileAt? path = some found := by
  obtain ⟨found, led, closed, rfl⟩ := write_eq_ok_iff.1 written
  have below_root : found ≠ [] := by
    rintro rfl
    exact closed rfl
  exact ⟨found,
    fileAt?_eq_some_iff.2 ⟨locate_put closed _ led, content, node?_put_self below_root _⟩⟩

/-- A path that led to a file leads to it when something was written. -/
theorem fileAt?_of_write (written : fs.write path content = .ok after)
    (stands : fs.fileAt? other = some beside) : after.fileAt? other = some beside := by
  obtain ⟨found, _, closed, rfl⟩ := write_eq_ok_iff.1 written
  obtain ⟨other_led, before, holds⟩ := fileAt?_eq_some_iff.1 stands
  refine fileAt?_eq_some_iff.2 ⟨locate_put closed _ other_led, ?_⟩
  by_cases same : beside = found
  · subst same
    have below_root : beside ≠ [] := by
      rintro rfl
      exact closed rfl
    exact ⟨content, node?_put_self below_root _⟩
  · rw [node?_put_of_ne same]
    exact ⟨before, holds⟩

/-- Writing one file leaves those at other places as they are. -/
theorem read_of_write_beside (written : fs.write path content = .ok after)
    (here : after.fileAt? path = some place) (there : after.fileAt? other = some beside)
    (ne : beside ≠ place) (stands : fs.read other = .ok kept) : after.read other = .ok kept := by
  obtain ⟨found, led, closed, rfl⟩ := write_eq_ok_iff.1 written
  obtain ⟨other_found, other_led, holds⟩ := read_eq_ok_iff.1 stands
  have onward := locate_put closed (.file content) other_led
  cases (locate_put closed (.file content) led).symm.trans (fileAt?_eq_some_iff.1 here).1
  cases onward.symm.trans (fileAt?_eq_some_iff.1 there).1
  exact read_eq_ok_iff.2 ⟨_, onward, by rwa [node?_put_of_ne ne]⟩

/-! ## Files of one directory -/

/-- A name of a file in a directory: it holds no slash and is none of the dots. -/
structure IsFileName (name : String) : Prop where
  nonempty : name ≠ ""
  whole : '/' ∉ name.toList
  not_here : name ≠ "."
  not_above : name ≠ ".."

instance (name : String) : Decidable (IsFileName name) :=
  decidable_of_iff (name ≠ "" ∧ '/' ∉ name.toList ∧ name ≠ "." ∧ name ≠ "..")
    ⟨fun ⟨nonempty, whole, not_here, not_above⟩ => ⟨nonempty, whole, not_here, not_above⟩,
      fun named => ⟨named.nonempty, named.whole, named.not_here, named.not_above⟩⟩

variable {directory name : String}

/-- In a directory that has a name, a slash stands before the name of a file. -/
theorem pathIn_cases (directory name : String) :
    (directory = "" ∧ pathIn directory name = name) ∨
      ∃ front, (directory.toList = front ++ ['/'] ∨ directory.toList = front ∧ front ≠ []) ∧
        pathIn directory name = String.ofList (front ++ '/' :: name.toList) := by
  by_cases empty : directory = ""
  · subst empty
    exact .inl ⟨rfl, String.empty_append⟩
  · right
    have shown : directory.toList ≠ [] := by simpa using empty
    by_cases slash : directory.toList.getLast? = some '/'
    · obtain ⟨front, ends⟩ := List.getLast?_eq_some_iff.1 slash
      refine ⟨front, .inl ends, String.toList_inj.1 ?_⟩
      rw [pathIn, if_pos (by simp [slash])]
      simp [ends]
    · refine ⟨directory.toList, .inr ⟨rfl, shown⟩, String.toList_inj.1 ?_⟩
      rw [pathIn, if_neg (by simp [slash, empty])]
      simp

theorem names_append_slash (before after : List Char) :
    names (String.ofList (before ++ '/' :: after)) =
      names (String.ofList before) ++ names (String.ofList after) := by
  simp only [names, String.toList_ofList]
  rw [Text.pieces_append (by rfl), List.filter_append, List.map_append]

namespace IsFileName

theorem names_eq (named : IsFileName name) : names name = [name] := by
  have kept : ∀ c ∈ name.toList, (c == '/') = false := by
    intro c found
    rw [beq_eq_false_iff_ne]
    rintro rfl
    exact named.whole found
  have shown : name.toList ≠ [] := by simpa using named.nonempty
  rw [names, Text.pieces_of_kept kept]
  simp [shown]

theorem head?_ne (named : IsFileName name) : name.toList.head? ≠ some '/' :=
  fun slash => named.whole (List.mem_of_mem_head? slash)

theorem getLast?_ne (named : IsFileName name) : name.toList.getLast? ≠ some '/' :=
  fun slash => named.whole (List.mem_of_getLast? slash)

/-- The path of a file in a directory leads through the directory to the file. -/
theorem names_pathIn (named : IsFileName name) (directory : String) :
    names (pathIn directory name) = names directory ++ [name] := by
  rcases pathIn_cases directory name with ⟨rfl, here⟩ | ⟨front, ends, path⟩
  · rw [here, named.names_eq]
    rfl
  · rw [path, names_append_slash, String.ofList_toList, named.names_eq]
    rcases ends with slash | ⟨whole, _⟩
    · have same := names_append_slash front []
      rw [← slash, String.ofList_toList] at same
      rw [same]
      exact congrArg (· ++ [name]) (List.append_nil _).symm
    · rw [← whole, String.ofList_toList]

theorem origin_pathIn (named : IsFileName name) (directory : String) :
    fs.origin (pathIn directory name) = fs.origin directory := by
  rcases pathIn_cases directory name with ⟨rfl, here⟩ | ⟨front, ends, path⟩
  · rw [here, origin, if_neg named.head?_ne]
    rfl
  · have same : (front ++ '/' :: name.toList).head? = directory.toList.head? := by
      rcases ends with slash | ⟨whole, shown⟩
      · rw [slash]
        cases front <;> rfl
      · rw [whole]
        cases front with
        | nil => exact absurd rfl shown
        | cons c rest => rfl
    rw [origin, origin, path, String.toList_ofList, same]

/-- A path does not end in a slash if the name of its file does not. -/
theorem getLast?_pathIn_ne (named : IsFileName name) (directory : String) :
    (pathIn directory name).toList.getLast? ≠ some '/' := by
  rcases pathIn_cases directory name with ⟨rfl, here⟩ | ⟨front, _, path⟩
  · rw [here]
    exact named.getLast?_ne
  · have shown : name.toList ≠ [] := by simpa using named.nonempty
    have last : (front ++ '/' :: name.toList).getLast? = name.toList.getLast? := by
      rw [List.append_cons, List.getLast?_append, Option.or_of_isSome (by simpa using shown)]
    rw [path, String.toList_ofList, last]
    exact named.getLast?_ne

/-- A file stands right below its directory. -/
theorem locate_pathIn (named : IsFileName name) (directory : String) {found : Place}
    (led : fs.locate (pathIn directory name) = .ok found) :
    ∃ base, (names directory).foldlM fs.enter (fs.origin directory) = .ok base ∧
      found = base ++ [name] := by
  obtain ⟨_, last, walked, ended⟩ := locate_eq_ok_iff.1 led
  rw [if_neg (named.getLast?_pathIn_ne directory)] at ended
  cases ended
  rw [named.names_pathIn, named.origin_pathIn, List.foldlM_append] at walked
  obtain ⟨base, walked, onward⟩ := bind_eq_ok_iff.1 walked
  refine ⟨base, walked, ?_⟩
  rw [List.foldlM_cons] at onward
  obtain ⟨next, entered, ended⟩ := bind_eq_ok_iff.1 onward
  cases ended
  unfold enter at entered
  rw [if_neg named.not_here, if_neg named.not_above] at entered
  split at entered
  · cases entered
  · cases entered
  · split at entered
    · cases entered
    · exact (Except.ok.inj entered).symm

end IsFileName

/-- The files of one directory are at different places. -/
theorem fileAt?_pathIn_ne (named : IsFileName name) (other_named : IsFileName other)
    (ne : name ≠ other) (here : fs.fileAt? (pathIn directory name) = some place)
    (there : fs.fileAt? (pathIn directory other) = some beside) : place ≠ beside := by
  obtain ⟨base, walked, rfl⟩ := named.locate_pathIn directory (fileAt?_eq_some_iff.1 here).1
  obtain ⟨other_base, other_walked, rfl⟩ :=
    other_named.locate_pathIn directory (fileAt?_eq_some_iff.1 there).1
  cases walked.symm.trans other_walked
  simpa using ne

end FileSystem
end TraceAudit
