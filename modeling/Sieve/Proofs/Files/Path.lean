/-
Where an expanded path leads. A path leads through steps, which are the components that name
something: doubled slashes, slashes at the end and single points add none, and two points are a
step like any other. A path in a folder begins with all the steps of the folder.

A relative path that is joined to a folder adds its steps to those of the folder, however the
two texts meet at the slash. So a relative path goes on from the working directory, a tilde leads
to the home directory and what is behind its slash goes on from there, and an absolute path stays
as it is. All of them become absolute.

Only behind the tilde this can go wrong. Its slash is taken off before the rest is joined to the
home directory; where a second slash follows, the rest is an absolute path, which stands for
itself, and the home directory is lost.
-/

import Sieve.Host

namespace Sieve

namespace Files

/-- The components of a path that name something. The root is none of them. -/
def steps (path : List Char) : List (List Char) :=
  (components path).filter fun component => decide (component ≠ [] ∧ component ≠ ['.'])

/-- A path that is the tilde, or goes on from it behind a slash. -/
def StartsAtTilde (path : List Char) : Prop :=
  path = ['~'] ∨ ['~', '/'] <+: path

variable {base home work path rest : List Char}

/-! ### Steps of joined paths -/

theorem components_eq_splitOnP (path : List Char) :
    components path = path.splitOnP (· == '/') := by
  induction path with
  | nil => rfl
  | cons character rest inductionHypothesis =>
    obtain ⟨first, others, split⟩ :=
      List.exists_cons_of_ne_nil (List.splitOnP_ne_nil (· == '/') rest)
    rw [components, inductionHypothesis, List.splitOnP_cons_eq_if_modifyHead, split]
    by_cases slash : character = '/'
    · simp [slash]
    · simp [slash]

@[simp]
theorem steps_append_slash (base path : List Char) :
    steps (base ++ '/' :: path) = steps base ++ steps path := by
  simp only [steps, components_eq_splitOnP, ← List.filter_append]
  exact congrArg (List.filter _) (List.splitOnP_append_cons base path rfl)

theorem steps_append_slash_nil (base : List Char) : steps (base ++ ['/']) = steps base := by
  rw [steps_append_slash]
  exact List.append_nil (steps base)

theorem join_of_isAbsolute (base : List Char) (absolute : isAbsolute path = true) :
    join base path = path := by
  simp [join, absolute]

theorem join_of_relative (absoluteBase : isAbsolute base = true)
    (relative : isAbsolute path = false) :
    join base path = if base.getLast? = some '/' then base ++ path else base ++ '/' :: path := by
  cases base with
  | nil => cases absoluteBase
  | cons first others => simp [join, relative]

/-- A relative path goes on from where the folder has led. -/
theorem steps_join (absoluteBase : isAbsolute base = true) (relative : isAbsolute path = false) :
    steps (join base path) = steps base ++ steps path := by
  rw [join_of_relative absoluteBase relative]
  split
  -- the slash between the two is the last one of the folder
  · obtain ⟨start, rfl⟩ := List.getLast?_eq_some_iff.mp ‹_›
    rw [steps_append_slash_nil, ← steps_append_slash, List.append_assoc, List.singleton_append]
  · exact steps_append_slash base path

theorem isAbsolute_append (more : List Char) (absolute : isAbsolute base = true) :
    isAbsolute (base ++ more) = true := by
  cases base with
  | nil => cases absolute
  | cons first others => exact absolute

theorem isAbsolute_join (path : List Char) (absoluteBase : isAbsolute base = true) :
    isAbsolute (join base path) = true := by
  cases absolute : isAbsolute path with
  | true => rwa [join_of_isAbsolute base absolute]
  | false =>
    rw [join_of_relative absoluteBase absolute]
    split
    · exact isAbsolute_append path absoluteBase
    · exact isAbsolute_append ('/' :: path) absoluteBase

/-! ### Expansion -/

theorem expandHome_of_not_startsAtTilde (home? : Option (List Char))
    (noTilde : ¬StartsAtTilde path) : expandHome home? path = path := by
  unfold expandHome
  split
  · exact absurd (Or.inl rfl) noTilde
  · exact absurd (Or.inr (by simp)) noTilde
  · rfl

theorem not_startsAtTilde_of_isAbsolute (absolute : isAbsolute path = true) :
    ¬StartsAtTilde path := by
  rintro (rfl | ⟨rest, rfl⟩)
  · cases absolute
  · cases absolute

theorem expand_eq_join (home? : Option (List Char)) (work : List Char)
    (nonempty : Text.trim path ≠ []) :
    expand home? work path = join work (expandHome home? (Text.trim path)) := by
  unfold expand
  split
  · exact absurd ‹_› nonempty
  · rfl

theorem isAbsolute_expand (home? : Option (List Char)) (path : List Char)
    (absoluteWork : isAbsolute work = true) : isAbsolute (expand home? work path) = true := by
  unfold expand
  split
  · exact absoluteWork
  · exact isAbsolute_join _ absoluteWork

theorem expand_of_isAbsolute (home? : Option (List Char)) (work : List Char)
    (absolute : isAbsolute (Text.trim path) = true) :
    expand home? work path = Text.trim path := by
  have nonempty : Text.trim path ≠ [] := by
    intro empty
    rw [empty] at absolute
    cases absolute
  have noTilde := not_startsAtTilde_of_isAbsolute absolute
  rw [expand_eq_join home? work nonempty, expandHome_of_not_startsAtTilde home? noTilde,
    join_of_isAbsolute work absolute]

theorem steps_expand_of_relative (home? : Option (List Char))
    (absoluteWork : isAbsolute work = true) (relative : isAbsolute (Text.trim path) = false)
    (noTilde : ¬StartsAtTilde (Text.trim path)) :
    steps (expand home? work path) = steps work ++ steps (Text.trim path) := by
  by_cases empty : Text.trim path = []
  · have stays : expand home? work path = work := by simp [expand, empty]
    rw [stays, empty]
    exact (List.append_nil (steps work)).symm
  · rw [expand_eq_join home? work empty, expandHome_of_not_startsAtTilde home? noTilde,
      steps_join absoluteWork relative]

theorem expand_tilde (work : List Char) (absoluteHome : isAbsolute home = true)
    (typed : Text.trim path = ['~']) : expand (some home) work path = home := by
  rw [expand_eq_join (some home) work (by simp [typed]), typed]
  exact join_of_isAbsolute work absoluteHome

/-- The rest behind the tilde is joined to the home directory and to nothing else. -/
theorem expand_tilde_slash (work : List Char) (absoluteHome : isAbsolute home = true)
    (typed : Text.trim path = '~' :: '/' :: rest) :
    expand (some home) work path = join home rest := by
  rw [expand_eq_join (some home) work (by simp [typed]), typed]
  exact join_of_isAbsolute work (isAbsolute_join rest absoluteHome)

end Files

namespace Host

open Files (isAbsolute steps StartsAtTilde)

/-- In an absolute working directory every path that somebody typed is expanded to an absolute one.
An absolute path stays as it is but for the blanks around it; any other path without a tilde goes
on from the working directory. With an absolute home directory, a tilde alone is this directory,
and behind its slash a path goes on from there, unless the path begins with a second slash: then
the path itself is meant, wherever it leads. -/
theorem typed_paths_lead_where_meant_unless_rooted_behind_tilde (host : Host)
    (absoluteWork : isAbsolute host.work = true) (path : String) :
    let typed := Text.trim path.toList
    isAbsolute (host.expand path) = true ∧
      (isAbsolute typed = true → host.expand path = typed) ∧
      (isAbsolute typed = false → ¬StartsAtTilde typed →
        steps (host.expand path) = steps host.work ++ steps typed) ∧
      ∀ home, host.home = some home → isAbsolute home = true →
        (typed = ['~'] → host.expand path = home) ∧
        ∀ rest, typed = '~' :: '/' :: rest →
          if isAbsolute rest then host.expand path = rest
          else steps (host.expand path) = steps home ++ steps rest := by
  intro typed
  refine ⟨Files.isAbsolute_expand _ _ absoluteWork, Files.expand_of_isAbsolute _ _,
    Files.steps_expand_of_relative _ absoluteWork, fun home known absoluteHome => ⟨?_, ?_⟩⟩
  · intro tilde
    rw [expand, known]
    exact Files.expand_tilde _ absoluteHome tilde
  · intro rest tilde
    rw [expand, known, Files.expand_tilde_slash _ absoluteHome tilde]
    split
    · exact Files.join_of_isAbsolute home ‹_›
    · exact Files.steps_join absoluteHome (Bool.eq_false_iff.mpr ‹_›)

/-- Blanks around the path, a home directory with a slash at its end, a single point, a doubled
slash, two points and a second tilde. -/
theorem points_and_slashes_behind_tilde :
    let host : Host := ⟨some "/home/".toList, "/work".toList, fun _ => .missing, [], .empty⟩
    let rest := "./a//../~".toList
    isAbsolute host.work = true ∧ host.home = some "/home/".toList ∧
      isAbsolute "/home/".toList = true ∧
      Text.trim "\t~/./a//../~\n".toList = '~' :: '/' :: rest ∧ isAbsolute rest = false ∧
      steps (host.expand "\t~/./a//../~\n") =
        ["home".toList, "a".toList, "..".toList, "~".toList] := by
  intro host rest
  have leads := typed_paths_lead_where_meant_unless_rooted_behind_tilde host rfl "\t~/./a//../~\n"
  have reached := (leads.2.2.2 _ rfl rfl).2 rest rfl
  exact ⟨rfl, rfl, rfl, rfl, rfl, reached⟩

/-- A second slash behind the tilde leads out of the home directory. -/
theorem doubled_slash_leaves_home :
    let host : Host := ⟨some "/home".toList, "/work".toList, fun _ => .missing, [], .empty⟩
    isAbsolute host.work = true ∧ host.home = some "/home".toList ∧
      isAbsolute "/home".toList = true ∧
      ['~', '/'] <+: Text.trim "~//etc/x".toList ∧
      host.expand "~//etc/x" = "/etc/x".toList ∧
      ¬steps "/home".toList <+: steps (host.expand "~//etc/x") := by
  decide

end Host

end Sieve
