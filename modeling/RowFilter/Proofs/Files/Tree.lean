import RowFilter.Files.Permissions

/-! The files of a tree. Making directories keeps the text of every file, and writing changes one of them. In a
    closed tree, where everything is in a directory, a path that only goes down leads to a file as soon as the
    file is there, whatever directories are made. -/

namespace RowFilter.FileTree

/-- The text of the file at a place, if there is one. -/
def text? (t : FileTree) (place : List String) : Option String :=
  match t.entry? place with
  | some (.file content) => some content
  | _ => none

theorem text?_eq_some_iff {t : FileTree} {place : List String} {content : String} :
    t.text? place = some content ↔ t.entry? place = some (.file content) := by
  unfold text?
  split
  · next h => simp [h]
  · next h => exact ⟨nofun, fun hfile => absurd hfile (h content)⟩

theorem isDirectory_iff {t : FileTree} {place : List String} :
    t.isDirectory place = true ↔ t.entry? place = some .directory :=
  beq_iff_eq

@[simp] theorem isDirectory_nil (t : FileTree) : t.isDirectory [] = true := rfl

/-! ### Entries -/

theorem lookup_filter_ne {place q : List String} (h : q ≠ place) (es : List (List String × FileEntry)) :
    (es.filter fun e => e.1 != place).lookup q = es.lookup q := by
  induction es with
  | nil => rfl
  | cons e es ih =>
    obtain ⟨p, e⟩ := e
    by_cases hp : p = place
    · have hq : (q == p) = false := by simpa [hp] using h
      simp [hp, ih, List.lookup_cons, hp ▸ hq]
    · simp [hp, ih, List.lookup_cons]

/-- Another entry at a place that is no directory. -/
theorem entry?_put {t : FileTree} {place : List String} (h : t.isDirectory place = false) (e : FileEntry)
    (q : List String) : entry? (t.put place e) q = if q = place then some e else t.entry? q := by
  unfold entry? put
  by_cases hq : q = []
  · have hne : [] ≠ place := by
      rintro rfl
      cases h
    simp [hq, hne]
  · by_cases hplace : q = place
    · simp [hplace ▸ hq, hplace]
    · have hbeq : (q == place) = false := beq_eq_false_iff_ne.mpr hplace
      simp [hq, hplace, List.lookup_cons, hbeq, lookup_filter_ne hplace]

theorem isDirectory_put {t : FileTree} {place q : List String} (h : t.isDirectory place = false) (e : FileEntry)
    (hq : t.isDirectory q = true) : (t.put place e).isDirectory q = true := by
  have hne : q ≠ place := by
    rintro rfl
    rw [hq] at h
    cases h
  rw [isDirectory_iff, entry?_put h, if_neg hne]
  exact isDirectory_iff.mp hq

/-! ### Texts -/

theorem text?_put_directory {t : FileTree} {place : List String} (h : t.entry? place = none) :
    (t.put place .directory).text? = t.text? := by
  have hplace : t.isDirectory place = false := by simp [isDirectory, h]
  funext q
  unfold text?
  rw [entry?_put hplace]
  by_cases hq : q = place
  · simp [hq, h]
  · rw [if_neg hq]

theorem text?_put_file {t : FileTree} {place : List String} (h : t.isDirectory place = false) (content : String)
    (q : List String) : (t.put place (.file content)).text? q = if q = place then some content else t.text? q := by
  unfold text?
  rw [entry?_put h]
  by_cases hq : q = place
  · simp [hq]
  · simp [hq]

/-- Making directories keeps the files and the directories that are there. -/
theorem make_keeps (t : FileTree) (place names : List String) : (t.make place names).2.text? = t.text? ∧
    ∀ q, t.isDirectory q = true → (t.make place names).2.isDirectory q = true := by
  induction names generalizing t place with
  | nil => exact ⟨rfl, fun q hq => hq⟩
  | cons name rest ih =>
    unfold make
    dsimp only
    split
    · exact ih t _
    · exact ⟨rfl, fun q hq => hq⟩
    · next hnone =>
      have hnext : t.isDirectory (follow place name) = false := by simp [isDirectory, hnone]
      obtain ⟨htext, hdirectory⟩ := ih (t.put (follow place name) .directory) (follow place name)
      exact ⟨htext.trans (text?_put_directory hnone), fun q hq => hdirectory q (isDirectory_put hnext _ hq)⟩

theorem text?_make (t : FileTree) (place names : List String) : (t.make place names).2.text? = t.text? :=
  (make_keeps t place names).1

theorem isDirectory_make {t : FileTree} {q : List String} (h : t.isDirectory q = true) (place names : List String) :
    (t.make place names).2.isDirectory q = true :=
  (make_keeps t place names).2 q h

theorem exists_makePermitted (t : FileTree) (limit? : Option Nat) (path : String) :
    ∃ names, (t.makePermitted limit? path).2 = (t.make [] names).2 := by
  cases limit? with
  | none => exact ⟨_, rfl⟩
  | some limit => exact ⟨_, rfl⟩

/-! ### Closed trees -/

/-- Everything in the tree is in a directory. -/
def IsClosed (t : FileTree) : Prop :=
  ∀ e ∈ t.entries, t.isDirectory e.1.dropLast = true

instance (t : FileTree) : Decidable t.IsClosed :=
  inferInstanceAs (Decidable (∀ e ∈ t.entries, t.isDirectory e.1.dropLast = true))

theorem follow_cases (place : List String) (name : String) : follow place name = place ∨
    (name = ".." ∧ follow place name = place.dropLast) ∨ follow place name = place ++ [name] := by
  unfold follow
  split
  · exact .inl rfl
  · split
    · next h => exact .inr (.inl ⟨beq_iff_eq.mp h, rfl⟩)
    · exact .inr (.inr rfl)

namespace IsClosed

variable {t : FileTree}

theorem isDirectory_dropLast (ht : t.IsClosed) {place : List String} (h : t.entry? place ≠ none) :
    t.isDirectory place.dropLast = true := by
  unfold entry? at h
  split at h
  · next hempty =>
    rw [List.isEmpty_iff.mp hempty]
    rfl
  · obtain ⟨e, he⟩ := Option.ne_none_iff_exists'.mp h
    obtain ⟨es, es', hes, -⟩ := List.lookup_eq_some_iff.mp he
    exact ht (place, e) (hes ▸ List.mem_append_right es List.mem_cons_self)

/-- What is above something is a directory. -/
theorem isDirectory_of_append (ht : t.IsClosed) {place below : List String} (hne : below ≠ [])
    (h : t.entry? (place ++ below) ≠ none) : t.isDirectory place = true := by
  induction below generalizing place with
  | nil => exact absurd rfl hne
  | cons name below ih =>
    have hlast : t.entry? (place ++ [name]) ≠ none := by
      by_cases hbelow : below = []
      · rwa [hbelow] at h
      · have hdirectory : t.isDirectory (place ++ [name]) = true := ih hbelow (by rwa [List.append_assoc])
        rw [isDirectory_iff.mp hdirectory]
        exact Option.some_ne_none _
    simpa using ht.isDirectory_dropLast hlast

protected theorem put (ht : t.IsClosed) {place : List String} (h : t.isDirectory place = false)
    (habove : t.isDirectory place.dropLast = true) (e : FileEntry) : (t.put place e).IsClosed := by
  intro old hold
  rcases List.mem_cons.mp hold with rfl | hold
  · exact isDirectory_put h e habove
  · exact isDirectory_put h e (ht old (List.mem_filter.mp hold).1)

protected theorem make (ht : t.IsClosed) {place : List String} (h : t.isDirectory place = true)
    (names : List String) : (t.make place names).2.IsClosed := by
  induction names generalizing t place with
  | nil => exact ht
  | cons name rest ih =>
    unfold make
    dsimp only
    split
    · next hnext => exact ih ht (isDirectory_iff.mpr hnext)
    · exact ht
    · next hnone =>
      -- Going up leads to a directory, so that something is missing only below the place.
      have hnext : follow place name = place ++ [name] := by
        rcases follow_cases place name with hfollow | ⟨-, hfollow⟩ | hfollow
        · rw [hfollow, isDirectory_iff.mp h] at hnone
          cases hnone
        · have hup := ht.isDirectory_dropLast (isDirectory_iff.mp h ▸ Option.some_ne_none _)
          rw [hfollow, isDirectory_iff.mp hup] at hnone
          cases hnone
        · exact hfollow
      have hfalse : t.isDirectory (follow place name) = false := by simp [isDirectory, hnone]
      refine ih (ht.put hfalse ?_ _) ?_
      · rw [hnext, List.dropLast_concat]
        exact h
      · rw [isDirectory_iff, entry?_put hfalse, if_pos rfl]

end IsClosed

/-! ### Paths -/

/-- More directories open no other way. -/
theorem walk_of_isDirectory {t u : FileTree} (hu : ∀ q, t.isDirectory q = true → u.isDirectory q = true)
    {names place last : List String} (h : t.walk place names = some last) : u.walk place names = some last := by
  induction names generalizing place with
  | nil => exact h
  | cons name rest ih =>
    rw [walk] at h ⊢
    split at h
    · next hplace =>
      rw [if_pos (hu place hplace)]
      exact ih h
    · cases h

/-- The last step of a path is taken in a directory. -/
theorem IsClosed.isDirectory_of_walk {t : FileTree} (ht : t.IsClosed) {names place last : List String}
    (hplace : t.isDirectory place.dropLast = true) (h : t.walk place names = some last) :
    t.isDirectory last.dropLast = true := by
  induction names generalizing place with
  | nil => exact Option.some.inj h ▸ hplace
  | cons name rest ih =>
    rw [walk] at h
    split at h
    · next hdirectory =>
      refine ih ?_ h
      rcases follow_cases place name with hfollow | ⟨-, hfollow⟩ | hfollow
      · rwa [hfollow]
      · rw [hfollow]
        exact ht.isDirectory_dropLast (isDirectory_iff.mp hplace ▸ Option.some_ne_none _)
      · rwa [hfollow, List.dropLast_concat]
    · cases h

theorem IsClosed.isDirectory_dropLast_of_place? {t : FileTree} (ht : t.IsClosed) {path : String}
    {place : List String} (h : t.place? path = some place) : t.isDirectory place.dropLast = true := by
  unfold place? at h
  split at h
  · cases h
  · have hroot : t.isDirectory ([] : List String).dropLast = true := rfl
    exact ht.isDirectory_of_walk hroot h

theorem place?_of_isDirectory {t u : FileTree} (hu : ∀ q, t.isDirectory q = true → u.isDirectory q = true)
    {path : String} {place : List String} (h : t.place? path = some place) : u.place? path = some place := by
  unfold place? at h ⊢
  split at h
  · cases h
  · next hne =>
    rw [if_neg hne]
    exact walk_of_isDirectory hu h

/-- A path without names of two dots only goes down. -/
theorem prefix_of_walk {t : FileTree} {names place last : List String} (hnames : ".." ∉ names)
    (h : t.walk place names = some last) : ∃ below, last = place ++ below := by
  induction names generalizing place with
  | nil => exact ⟨[], by rw [List.append_nil, Option.some.inj h]⟩
  | cons name rest ih =>
    rw [List.mem_cons, not_or] at hnames
    rw [walk] at h
    split at h
    · obtain ⟨below, rfl⟩ := ih hnames.2 h
      rcases follow_cases place name with hfollow | ⟨hup, -⟩ | hfollow
      · exact ⟨below, by rw [hfollow]⟩
      · exact absurd hup.symm hnames.1
      · exact ⟨name :: below, by rw [hfollow, List.append_assoc, List.singleton_append]⟩
    · cases h

/-- If a path that only goes down leads to something that is no directory once more directories are there, it
    leads there before if that is there. -/
theorem IsClosed.walk_of_ne_none {t u : FileTree} (ht : t.IsClosed) {names place last : List String}
    (hnames : ".." ∉ names) (h : u.walk place names = some last) (hu : u.isDirectory last = false)
    (hlast : t.entry? last ≠ none) : t.walk place names = some last := by
  induction names generalizing place with
  | nil => exact h
  | cons name rest ih =>
    obtain ⟨below, hbelow⟩ := prefix_of_walk hnames h
    rw [List.mem_cons, not_or] at hnames
    rw [walk] at h ⊢
    split at h
    · next hplace =>
      have hne : below ≠ [] := by
        rintro rfl
        rw [hbelow, List.append_nil, hplace] at hu
        cases hu
      rw [if_pos (ht.isDirectory_of_append hne (hbelow ▸ hlast))]
      exact ih hnames.2 h
    · cases h

theorem IsClosed.place?_of_ne_none {t u : FileTree} (ht : t.IsClosed) {path : String} {place : List String}
    (hnames : ".." ∉ names path) (h : u.place? path = some place) (hu : u.isDirectory place = false)
    (hplace : t.entry? place ≠ none) : t.place? path = some place := by
  unfold place? at h ⊢
  split at h
  · cases h
  · next hne =>
    rw [if_neg hne]
    exact ht.walk_of_ne_none hnames h hu hplace

/-- Where nothing was at a path, making directories leads it to nothing new, unless it goes up again. -/
theorem IsClosed.entry?_eq_none_of_make {t : FileTree} (ht : t.IsClosed) {path : String} {made place : List String}
    (hat : t.at? path = none) (hpath : (t.place? path).isSome = true ∨ ".." ∉ names path)
    (hplace : (t.make [] made).2.place? path = some place)
    (hfree : (t.make [] made).2.isDirectory place = false) : t.entry? place = none := by
  have hbefore : t.place? path = some place → t.entry? place = none := by
    intro h
    rwa [at?, h] at hat
  rcases hpath with hsome | hnames
  · obtain ⟨q, hq⟩ := Option.isSome_iff_exists.mp hsome
    have hsame : (t.make [] made).2.place? path = some q :=
      place?_of_isDirectory (fun _ h => isDirectory_make h [] made) hq
    rw [hplace] at hsame
    cases hsame
    exact hbefore hq
  · cases hentry : t.entry? place with
    | none => rfl
    | some e =>
      have hne : t.entry? place ≠ none := hentry ▸ Option.some_ne_none e
      exact absurd (hbefore (ht.place?_of_ne_none hnames hplace hfree hne)) hne

end RowFilter.FileTree
