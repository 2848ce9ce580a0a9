import Codebox.Support.Splitting

/-! # Workspace paths

A path relative to the workspace, as `WorkspacePath::try_new` validates and normalizes it. A string
is the list of its characters; its length is counted in the bytes of their UTF-8 form.

The checks are made on the string as it came, and the normalization then drops empty and `.`
components from it. One check does not carry over: a drive letter behind a leading `./` is only
uncovered by the normalization.
-/

namespace Codebox.Domain

/-! ## The value -/

inductive WorkspacePathError where
  | empty | containsNul | backslashNotAllowed | absolute | drivePrefix
  | tooLong (maxBytes actualBytes : Nat)
  | parentTraversal
  deriving Repr, DecidableEq

def maxWorkspacePathBytes : Nat := 4096

structure WorkspacePath where
  text : List Char
  deriving Repr, DecidableEq

/-- The length in bytes. -/
def byteLength : List Char → Nat
  | [] => 0
  | char :: rest => char.utf8Size + byteLength rest

/-- The source looks at the first two bytes. An ASCII byte is a character of its own, so they are
the first two characters where the test can succeed. -/
def isDrivePrefixed : List Char → Bool
  | letter :: colon :: _ => letter.isAlpha && colon == ':'
  | _ => false

/-- One pass of the loop over the components. -/
def pushComponent (normalized : List Char) : List Char → Except WorkspacePathError (List Char)
  | [] | ['.'] => .ok normalized
  | ['.', '.'] => .error .parentTraversal
  | component => .ok (if normalized.isEmpty then component else normalized ++ '/' :: component)

def normalize (raw : List Char) : Except WorkspacePathError (List Char) :=
  (raw.splitOn '/').foldlM pushComponent []

def tryNew (raw : List Char) : Except WorkspacePathError WorkspacePath :=
  if raw.isEmpty then .error .empty
  else if raw.contains '\x00' then .error .containsNul
  else if raw.contains '\\' then .error .backslashNotAllowed
  else if ['/'].isPrefixOf raw then .error .absolute
  else if isDrivePrefixed raw then .error .drivePrefix
  else if maxWorkspacePathBytes < byteLength raw then
    .error (.tooLong maxWorkspacePathBytes (byteLength raw))
  else do
    let normalized ← normalize raw
    if normalized.isEmpty then .error .empty
    else if maxWorkspacePathBytes < byteLength normalized then
      .error (.tooLong maxWorkspacePathBytes (byteLength normalized))
    else .ok ⟨normalized⟩

def WorkspacePath.serialize (path : WorkspacePath) : List Char := path.text

def WorkspacePath.deserialize (value : List Char) : Except WorkspacePathError WorkspacePath := tryNew value

/-! ## Components -/

/-- The components that the normalization leaves out. -/
def Kept (component : List Char) : Bool := component != [] && component != ['.']

def keptComponents (raw : List Char) : List (List Char) := (raw.splitOn '/').filter Kept

/-- A component that names something. -/
def Named (component : List Char) : Prop := component ≠ [] ∧ component ≠ ['.'] ∧ component ≠ ['.', '.']

variable {component raw : List Char} {components : List (List Char)} {char : Char} {path : WorkspacePath}

theorem pushComponent_dropped {normalized : List Char} (dropped : Kept component = false) :
    pushComponent normalized component = .ok normalized := by
  have : component = [] ∨ component = ['.'] := by
    simpa [Kept, Classical.or_iff_not_imp_left] using dropped
  rcases this with rfl | rfl <;> rfl

theorem pushComponent_kept {normalized result : List Char} (kept : Kept component = true)
    (pushed : pushComponent normalized component = .ok result) :
    Named component ∧
      result = if normalized.isEmpty then component else normalized ++ '/' :: component := by
  simp only [Kept, Bool.and_eq_true, bne_iff_ne, ne_eq] at kept
  unfold pushComponent at pushed
  split at pushed
  · exact absurd rfl kept.1
  · exact absurd rfl kept.2
  · cases pushed
  · rename_i up
    cases pushed
    exact ⟨⟨kept.1, kept.2, up⟩, rfl⟩

theorem pushComponent_named {normalized : List Char} (named : Named component) :
    pushComponent normalized component =
      .ok (if normalized.isEmpty then component else normalized ++ '/' :: component) := by
  unfold pushComponent
  split
  · exact absurd rfl named.1
  · exact absurd rfl named.2.1
  · exact absurd rfl named.2.2
  · rfl

def Filled (components : List (List Char)) : Prop := ∀ component ∈ components, component ≠ []

theorem Filled.concat (filled : Filled components) (named : Named component) :
    Filled (components ++ [component]) := by
  intro part inside
  rcases List.mem_append.mp inside with inside | inside
  · exact filled part inside
  · exact List.mem_singleton.mp inside ▸ named.1

theorem mem_intercalate (inside : char ∈ ['/'].intercalate components) :
    char = '/' ∨ ∃ component ∈ components, char ∈ component := by
  induction components with
  | nil => cases inside
  | cons first rest ih =>
      cases rest with
      | nil => exact .inr ⟨first, List.mem_singleton.mpr rfl, by simpa using inside⟩
      | cons second rest =>
          rw [List.intercalate_cons_cons, List.append_assoc, List.mem_append, List.mem_append] at inside
          rcases inside with inside | slash | inside
          · exact .inr ⟨first, List.mem_cons_self .., inside⟩
          · exact .inl (List.mem_singleton.mp slash)
          · apply (ih inside).imp_right
            rintro ⟨component, among, within⟩
            exact ⟨component, List.mem_cons_of_mem first among, within⟩

theorem intercalate_concat (some : components ≠ []) :
    ['/'].intercalate (components ++ [component]) = ['/'].intercalate components ++ '/' :: component := by
  induction components with
  | nil => exact absurd rfl some
  | cons first rest ih =>
      cases rest with
      | nil => simp [List.intercalate]
      | cons second rest =>
          have := ih (List.cons_ne_nil second rest)
          simp only [List.cons_append, List.intercalate_cons_cons] at this ⊢
          rw [this]
          simp

/-- Joined components, as the loop grows them. -/
theorem Filled.push (filled : Filled components) :
    (if (['/'].intercalate components).isEmpty then component
      else ['/'].intercalate components ++ '/' :: component) =
      ['/'].intercalate (components ++ [component]) := by
  cases components with
  | nil => simp
  | cons first rest =>
      have filledFirst := filled first (List.mem_cons_self ..)
      rw [intercalate_concat (List.cons_ne_nil first rest), if_neg]
      cases rest with
      | nil => simp [filledFirst]
      | cons second rest => simp [List.intercalate_cons_cons]

/-- The loop joins the kept components, and goes through only when each of them is a name. -/
theorem foldlM_pushComponent {pushed : List (List Char)} {result : List Char} (filled : Filled pushed)
    (run : components.foldlM pushComponent (['/'].intercalate pushed) = .ok result) :
    result = ['/'].intercalate (pushed ++ components.filter Kept) ∧
      ∀ component ∈ components.filter Kept, Named component := by
  induction components generalizing pushed with
  | nil =>
      cases run
      simp
  | cons component rest ih =>
      rw [List.foldlM_cons] at run
      by_cases kept : Kept component
      · cases next : pushComponent (['/'].intercalate pushed) component with
        | error error =>
            rw [next] at run
            cases run
        | ok joined =>
            rw [next] at run
            obtain ⟨named, grown⟩ := pushComponent_kept kept next
            rw [grown, filled.push] at run
            obtain ⟨whole, names⟩ := ih (filled.concat named) run
            rw [List.filter_cons_of_pos kept]
            refine ⟨by rw [whole, List.append_assoc]; rfl, fun part inside => ?_⟩
            rcases List.mem_cons.mp inside with rfl | inside
            · exact named
            · exact names part inside
      · rw [pushComponent_dropped (eq_false_of_ne_true kept)] at run
        rw [List.filter_cons_of_neg kept]
        exact ih filled run

/-- Names are joined as they stand. -/
theorem foldlM_pushComponent_named {pushed : List (List Char)} (filled : Filled pushed)
    (names : ∀ component ∈ components, Named component) :
    components.foldlM pushComponent (['/'].intercalate pushed) = .ok (['/'].intercalate (pushed ++ components)) := by
  induction components generalizing pushed with
  | nil => simp [pure, Except.pure]
  | cons component rest ih =>
      have named := names component (List.mem_cons_self ..)
      rw [List.foldlM_cons, pushComponent_named named, filled.push]
      have whole := ih (filled.concat named)
        (fun part inside => names part (List.mem_cons_of_mem component inside))
      rw [List.append_assoc] at whole
      exact whole

/-! ## Accepted paths -/

/-- What a string passed to become the path `path`. -/
structure Checked (raw path : List Char) : Prop where
  nul : '\x00' ∉ raw
  backslash : '\\' ∉ raw
  joined : path = ['/'].intercalate (keptComponents raw)
  names : ∀ component ∈ keptComponents raw, Named component
  nonempty : path ≠ []
  short : byteLength path ≤ maxWorkspacePathBytes

theorem checked_of_tryNew (accepted : tryNew raw = .ok path) : Checked raw path.text := by
  unfold tryNew at accepted
  split at accepted
  · cases accepted
  split at accepted
  · cases accepted
  rename_i nul
  split at accepted
  · cases accepted
  rename_i backslash
  split at accepted
  · cases accepted
  split at accepted
  · cases accepted
  split at accepted
  · cases accepted
  cases run : normalize raw with
  | error error =>
      rw [run] at accepted
      cases accepted
  | ok normalized =>
      rw [run] at accepted
      simp only [bind, Except.bind] at accepted
      split at accepted
      · cases accepted
      rename_i nonempty
      split at accepted
      · cases accepted
      rename_i short
      cases accepted
      have filled : Filled [] := nofun
      obtain ⟨joined, names⟩ := foldlM_pushComponent filled run
      rw [List.contains_iff_mem] at nul backslash
      rw [List.isEmpty_iff] at nonempty
      exact ⟨nul, backslash, joined, names, nonempty, Nat.le_of_not_lt short⟩

theorem mem_keptComponents (inside : component ∈ keptComponents raw) : '/' ∉ component ∧ component ⊆ raw :=
  Support.mem_splitOn (List.mem_of_mem_filter inside)

section Checked

variable {path : List Char} (checked : Checked raw path)
include checked

theorem Checked.components_ne_nil : keptComponents raw ≠ [] := by
  intro none
  apply checked.nonempty
  rw [checked.joined, none]
  rfl

/-- The components of the path are the kept ones of the string. -/
theorem Checked.splitOn : path.splitOn '/' = keptComponents raw := by
  rw [checked.joined]
  exact List.splitOn_intercalate '/' (fun component inside => (mem_keptComponents inside).1)
    checked.components_ne_nil

theorem Checked.mem (inside : char ∈ path) : char = '/' ∨ char ∈ raw := by
  rw [checked.joined] at inside
  apply (mem_intercalate inside).imp_right
  rintro ⟨component, kept, within⟩
  exact (mem_keptComponents kept).2 within

/-- A slash at either end would leave an empty component there. -/
theorem Checked.head : path.head? ≠ some '/' := by
  intro slash
  obtain ⟨rest, rfl⟩ := List.head?_eq_some_iff.mp slash
  have split := checked.splitOn
  rw [List.splitOn_cons_eq_if_modifyHead, if_pos (beq_self_eq_true '/')] at split
  have among : [] ∈ keptComponents raw := split ▸ List.mem_cons_self ..
  exact (checked.names [] among).1 rfl

theorem Checked.last : path.getLast? ≠ some '/' := by
  intro slash
  obtain ⟨before, rfl⟩ := List.getLast?_eq_some_iff.mp slash
  have split := checked.splitOn
  rw [List.splitOn_append_cons_self, List.splitOn_nil] at split
  have among : [] ∈ keptComponents raw := split ▸ List.mem_append_right _ (List.mem_singleton.mpr rfl)
  exact (checked.names [] among).1 rfl

theorem Checked.normalize : normalize path = .ok path := by
  have filled : Filled [] := nofun
  have run := foldlM_pushComponent_named filled checked.names
  rw [Domain.normalize, checked.splitOn]
  rw [List.nil_append, ← checked.joined] at run
  exact run

/-- The path is accepted again unless it starts like a drive. -/
theorem Checked.tryNew (plain : isDrivePrefixed path = false) : tryNew path = .ok ⟨path⟩ := by
  have nul : '\x00' ∉ path := fun inside => (checked.mem inside).elim (by decide) checked.nul
  have backslash : '\\' ∉ path := fun inside => (checked.mem inside).elim (by decide) checked.backslash
  have relative : ¬ ['/'].isPrefixOf path := by
    intro leading
    rw [List.isPrefixOf_iff_prefix] at leading
    obtain ⟨rest, rfl⟩ := leading
    exact checked.head rfl
  unfold Domain.tryNew
  simp [checked.nonempty, nul, backslash, relative, plain, Nat.not_lt.mpr checked.short, checked.normalize,
    bind, Except.bind]

/-- The path starts like a drive when its first component does: the slash behind it is no colon. -/
theorem Checked.isDrivePrefixed {first : List Char} (leads : (keptComponents raw).head? = some first) :
    isDrivePrefixed path = isDrivePrefixed first := by
  obtain ⟨rest, kept⟩ := List.head?_eq_some_iff.mp leads
  have filled : first ≠ [] := (checked.names first (kept ▸ List.mem_cons_self ..)).1
  rw [checked.joined, kept]
  cases rest with
  | nil => simp
  | cons second rest =>
      rw [List.intercalate_cons_cons]
      match first, filled with
      | [letter], _ => simp [Domain.isDrivePrefixed]
      | letter :: colon :: _, _ => rfl

end Checked

/-- A path in normal form, read off a string: what the value promises its holders. -/
structure NormalForm (raw : List Char) (path : WorkspacePath) : Prop where
  nonempty : path.text ≠ []
  short : byteLength path.text ≤ maxWorkspacePathBytes
  leading : path.text.head? ≠ some '/'
  trailing : path.text.getLast? ≠ some '/'
  names : ∀ component ∈ path.text.splitOn '/', Named component
  nul : '\x00' ∉ path.text
  backslash : '\\' ∉ path.text
  drive : isDrivePrefixed path.text = false
  components : path.text.splitOn '/' = keptComponents raw
  again : tryNew path.text = .ok path
  roundTrip : WorkspacePath.deserialize path.serialize = .ok path

theorem Checked.normalForm (checked : Checked raw path.text) (plain : Domain.isDrivePrefixed path.text = false) :
    NormalForm raw path where
  nonempty := checked.nonempty
  short := checked.short
  leading := checked.head
  trailing := checked.last
  names := fun component inside => checked.names component (checked.splitOn ▸ inside)
  nul := fun inside => (checked.mem inside).elim (by decide) checked.nul
  backslash := fun inside => (checked.mem inside).elim (by decide) checked.backslash
  drive := plain
  components := checked.splitOn
  again := checked.tryNew plain
  roundTrip := checked.tryNew plain

/-- An accepted path is in normal form exactly when the first component that is kept of the string
does not start like a drive. -/
theorem tryNew_normalForm {raw : List Char} {path : WorkspacePath} (accepted : tryNew raw = .ok path) :
    NormalForm raw path ↔ ∀ first, (keptComponents raw).head? = some first → isDrivePrefixed first = false := by
  have checked := checked_of_tryNew accepted
  constructor
  · intro normal first leads
    rw [← checked.isDrivePrefixed leads]
    exact normal.drive
  · intro plain
    apply checked.normalForm
    cases leads : (keptComponents raw).head? with
    | none => exact absurd (List.head?_eq_none_iff.mp leads) checked.components_ne_nil
    | some first =>
        rw [checked.isDrivePrefixed leads]
        exact plain first leads

theorem normalForm_of_dotted :
    NormalForm ['.', '/', 'a', '/', '/', 'b', '/'] ⟨['a', '/', 'b']⟩ := by
  apply (tryNew_normalForm (by decide +kernel)).mpr
  intro first leads
  have first_eq : (keptComponents ['.', '/', 'a', '/', '/', 'b', '/']).head? = some ['a'] := by decide +kernel
  rw [first_eq, Option.some.injEq] at leads
  subst leads
  rfl

theorem tryNew_uncovers_drive :
    tryNew ['.', '/', 'C', ':'] = .ok ⟨['C', ':']⟩ ∧ isDrivePrefixed ['C', ':'] = true ∧
      tryNew ['C', ':'] = .error .drivePrefix := by
  decide +kernel

end Codebox.Domain
