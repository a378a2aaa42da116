import RegisterMachine.Command.Directory

/-!
# Reading back what was written

A file that was written is read back with the contents that it was given, and a file
with another name keeps its own (`read_of_write`, `read_of_write_of_name_ne`).

What a path leads to depends on the entries on its way.  Writing changes the entry at
one place only (`entryAt?_put_of_ne`), and that place had no directory before and has
none afterwards.  So a way that could be gone before the writing does not lead through
it and can be gone afterwards (`follow_put`).  The new file could put directories on its
own way that were not there, but that way was gone to reach its place and holds
directories already (`HasDirectory.of_isBefore_child`).
-/

namespace RegisterMachine

namespace Place

/-- One place is before another if the names on the way to it begin the way to the other. -/
theorem isBefore_iff {place other : Place} :
    place.isBefore other = true ↔ place.base = other.base ∧
      place.names.length < other.names.length ∧ place.names <+: other.names := by
  simp [isBefore, and_assoc]

/-- A place and a name are told by the child that they make. -/
theorem child_inj {place other : Place} {name label : List Char} :
    place.child name = other.child label ↔ place = other ∧ name = label := by
  rcases place with ⟨base, names⟩
  rcases other with ⟨top, labels⟩
  simp [child, and_assoc]

/-- What is before a child of a place is the place itself or before it. -/
theorem eq_or_isBefore_of_isBefore_child {place other : Place} {name : List Char}
    (h : other.isBefore (place.child name) = true) :
    other = place ∨ other.isBefore place = true := by
  obtain ⟨hbase, hlength, hprefix⟩ := isBefore_iff.mp h
  rcases List.prefix_concat_iff.mp hprefix with heq | hprefix
  · simp [heq, child] at hlength
  rcases Nat.eq_or_lt_of_le hprefix.length_le with hlength | hlength
  · have hnames := hprefix.eq_of_length hlength
    exact .inl (by rw [← show Place.mk other.base other.names = place by rw [hbase, hnames]; rfl])
  · exact .inr (isBefore_iff.mpr ⟨hbase, hlength, hprefix⟩)

theorem isBefore_parent {place file : Place} (hnames : place.parent.names ≠ [])
    (h : place.isBefore file = true) : place.parent.isBefore file = true := by
  obtain ⟨hbase, hlength, hprefix⟩ := isBefore_iff.mp h
  rcases place with ⟨base, _ | ⟨name, names⟩⟩
  · exact absurd rfl hnames
  · have hdrop := List.dropLast_prefix (name :: names)
    exact isBefore_iff.mpr
      ⟨hbase, Nat.lt_of_le_of_lt hdrop.length_le hlength, hdrop.trans hprefix⟩

theorem isBefore_trans {place other file : Place} (h : place.isBefore other = true)
    (hfile : other.isBefore file = true) : place.isBefore file = true := by
  obtain ⟨hbase, hlength, hprefix⟩ := isBefore_iff.mp h
  obtain ⟨hbase', hlength', hprefix'⟩ := isBefore_iff.mp hfile
  exact isBefore_iff.mpr
    ⟨hbase.trans hbase', Nat.lt_trans hlength hlength', hprefix.trans hprefix'⟩

end Place

namespace Path

/-- A path whose last step goes into a name ends in that name. -/
theorem fileName?_of_getLast? {path : String} {name : List Char}
    (h : (steps path).getLast? = some (.into name)) : fileName? path = some name := by
  obtain ⟨before, hsteps⟩ := List.getLast?_eq_some_iff.mp h
  simp [fileName?, hsteps, List.filter_append]

end Path

namespace Directory

variable {d changed : Directory} {place other : Place} {name : List Char}
variable {contents bytes : ByteArray}

/-! ## Places of directories -/

/-- A place that has a directory if it has no file. -/
def HasDirectory (d : Directory) (place : Place) : Prop :=
  place.names = [] ∨ ∃ file ∈ d.files, place.isBefore file.1 = true

instance : Decidable (d.HasDirectory place) := inferInstanceAs (Decidable (_ ∨ _))

theorem entryAt?_of_lookup (h : d.files.lookup place = some contents) :
    d.entryAt? place = some (.file contents) := by
  rw [entryAt?, h]

/-- Where there is no file, there is a directory exactly if some file is behind it. -/
theorem entryAt?_of_lookup_eq_none (h : d.files.lookup place = none) :
    d.entryAt? place = if d.HasDirectory place then some .directory else none := by
  simp only [entryAt?, h, HasDirectory, Bool.or_eq_true, decide_eq_true_eq, List.any_eq_true]
  congr

theorem hasDirectory_of_entryAt? (h : d.entryAt? place = some .directory) :
    d.HasDirectory place := by
  cases hfile : d.files.lookup place with
  | some contents => simp [entryAt?_of_lookup hfile] at h
  | none => simpa [entryAt?_of_lookup_eq_none hfile] using h

theorem hasDirectory_start (path : String) : d.HasDirectory (Place.start path) := .inl rfl

/-- All places on the way to a directory have directories. -/
theorem HasDirectory.of_isBefore (h : d.HasDirectory place)
    (hbefore : other.isBefore place = true) : d.HasDirectory other := by
  obtain ⟨-, hlength, hprefix⟩ := Place.isBefore_iff.mp hbefore
  rcases h with hnames | ⟨file, hmem, hfile⟩
  · simp [hnames] at hlength
  · exact .inr ⟨file, hmem, Place.isBefore_trans hbefore hfile⟩

/-- Where a file can be put, its way has directories already. -/
theorem HasDirectory.of_isBefore_child (h : d.HasDirectory place)
    (hbefore : other.isBefore (place.child name) = true) : d.HasDirectory other := by
  rcases Place.eq_or_isBefore_of_isBefore_child hbefore with rfl | hbefore
  · exact h
  · exact h.of_isBefore hbefore

/-- The top is its own parent, so going up never leaves the directories. -/
theorem HasDirectory.parent (h : d.HasDirectory place) : d.HasDirectory place.parent := by
  by_cases hnames : place.parent.names = []
  · exact .inl hnames
  rcases h with htop | ⟨file, hmem, hfile⟩
  · rcases place with ⟨base, names⟩
    obtain rfl : names = [] := htop
    exact .inl rfl
  · exact .inr ⟨file, hmem, Place.isBefore_parent hnames hfile⟩

/-! ## Ways -/

theorem entry?_eq_ok_iff {entry : Option Entry} : d.entry? place name = .ok entry ↔
    Path.nameTooLong name = false ∧ d.entryAt? (place.child name) = entry := by
  unfold entry?
  cases Path.nameTooLong name with
  | true => simp
  | false => simp

theorem enter_into_eq_ok_iff : d.enter place (.into name) = .ok other ↔
    d.entry? place name = .ok (some .directory) ∧ place.child name = other := by
  rw [enter]
  cases d.entry? place name with
  | error fault => simp
  | ok entry => rcases entry with _ | _ | _ <;> simp

/-- A step that can be gone leads from a directory to a directory. -/
theorem HasDirectory.enter {step : Path.Step} (h : d.HasDirectory place)
    (henter : d.enter place step = .ok other) : d.HasDirectory other := by
  cases step with
  | stay =>
    obtain rfl : place = other := by simpa [Directory.enter] using henter
    exact h
  | up =>
    obtain rfl : place.parent = other := by simpa [Directory.enter] using henter
    exact h.parent
  | into name =>
    obtain ⟨hentry, rfl⟩ := enter_into_eq_ok_iff.mp henter
    exact hasDirectory_of_entryAt? (entry?_eq_ok_iff.mp hentry).2

theorem follow_cons_eq_ok_iff {step : Path.Step} {steps : List Path.Step} :
    d.follow place (step :: steps) = .ok other ↔
      ∃ next, d.enter place step = .ok next ∧ d.follow next steps = .ok other := by
  rw [follow]
  cases d.enter place step with
  | error fault => simp
  | ok next => simp

/-- A way that can be gone from a directory ends at one. -/
theorem HasDirectory.follow {steps : List Path.Step} (h : d.HasDirectory place)
    (hfollow : d.follow place steps = .ok other) : d.HasDirectory other := by
  induction steps generalizing place with
  | nil =>
    obtain rfl : place = other := by simpa [Directory.follow] using hfollow
    exact h
  | cons step steps ih =>
    obtain ⟨next, henter, hrest⟩ := follow_cons_eq_ok_iff.mp hfollow
    exact ih (h.enter henter) hrest

/-- A path leads to a name if its steps before the last can be gone and the last goes into it. -/
theorem target_eq_name_iff {path : String} : d.target path = .ok (.name place name) ↔
    path ≠ "" ∧ Path.tooLong path = false ∧
      d.follow (Place.start path) (Path.steps path).dropLast = .ok place ∧
      (Path.steps path).getLast? = some (.into name) := by
  rw [target]
  by_cases hempty : path = ""
  · simp [hempty]
  cases Path.tooLong path with
  | true => simp [hempty]
  | false =>
    dsimp only
    cases d.follow (Place.start path) (Path.steps path).dropLast with
    | error fault => simp [hempty]
    | ok reached =>
      rcases (Path.steps path).getLast? with _ | _ | _ | _ <;> simp [hempty]

/-- The place in which a path looks for a name has a directory. -/
theorem hasDirectory_of_target {path : String}
    (h : d.target path = .ok (.name place name)) : d.HasDirectory place := by
  obtain ⟨-, -, hfollow, -⟩ := target_eq_name_iff.mp h
  exact (hasDirectory_start path).follow hfollow

theorem fileName?_of_target {path : String}
    (h : d.target path = .ok (.name place name)) : Path.fileName? path = some name := by
  obtain ⟨-, -, -, hlast⟩ := target_eq_name_iff.mp h
  exact Path.fileName?_of_getLast? hlast

/-! ## Reading and writing -/

/-- A file is read if a path leads to it and does not ask for a directory. -/
theorem read_eq_ok_iff {path : String} : d.read path = .ok bytes ↔
    ∃ place name, d.target path = .ok (.name place name) ∧
      d.entry? place name = .ok (some (.file bytes)) ∧ Path.asksForDirectory path = false := by
  rw [read]
  cases d.target path with
  | error fault => simp
  | ok target =>
    cases target with
    | directory => simp
    | name place name =>
      simp only [Except.ok.injEq, Target.name.injEq, and_assoc, exists_eq_left', exists_and_left]
      cases d.entry? place name with
      | error fault => simp
      | ok entry =>
        rcases entry with _ | _ | _ <;> cases Path.asksForDirectory path <;> simp

/-- A file is written where a path leads to a file or to nothing, unless it asks for a directory. -/
theorem write_eq_ok_iff {path : String} : d.write path contents = .ok changed ↔
    ∃ place name entry, d.target path = .ok (.name place name) ∧
      d.entry? place name = .ok entry ∧ entry ≠ some .directory ∧
      Path.asksForDirectory path = false ∧ d.put (place.child name) contents = changed := by
  rw [write]
  cases d.target path with
  | error fault => simp
  | ok target =>
    cases target with
    | directory => simp
    | name place name =>
      simp only [Except.ok.injEq, Target.name.injEq, and_assoc, exists_eq_left', exists_and_left]
      cases d.entry? place name with
      | error fault => cases Path.asksForDirectory path <;> simp
      | ok entry =>
        rcases entry with _ | _ | _ <;> cases Path.asksForDirectory path <;> simp

/-! ## The directory with a file put into it -/

theorem entryAt?_put_self : (d.put place contents).entryAt? place = some (.file contents) :=
  entryAt?_of_lookup (by simp [put])

theorem lookup_filter_ne {files : List (Place × ByteArray)} (hne : other ≠ place) :
    (files.filter fun file => file.1 ≠ place).lookup other = files.lookup other := by
  induction files with
  | nil => rfl
  | cons file files ih =>
    by_cases hfile : file.1 = place
    · have hother : (other == file.1) = false := by simpa [hfile] using hne
      rw [List.filter_cons_of_neg (by simpa using hfile), ih, List.lookup_cons, hother]
    · rw [List.filter_cons_of_pos (by simpa using hfile), List.lookup_cons, ih, List.lookup_cons]

/-- A file that is put somewhere hides no file at another place. -/
theorem lookup_put (hne : other ≠ place) :
    (d.put place contents).files.lookup other = d.files.lookup other := by
  rw [put, List.lookup_cons, beq_eq_false_iff_ne.mpr hne]
  exact lookup_filter_ne hne

/-- A new file in a directory makes no directory and removes none. -/
theorem hasDirectory_put (h : d.HasDirectory place) :
    (d.put (place.child name) contents).HasDirectory other ↔ d.HasDirectory other := by
  constructor
  · rintro (hnames | ⟨file, hmem, hbefore⟩)
    · exact .inl hnames
    · rcases List.mem_cons.mp hmem with rfl | hmem
      · exact h.of_isBefore_child hbefore
      · exact .inr ⟨file, (List.mem_filter.mp hmem).1, hbefore⟩
  · rintro (hnames | ⟨file, hmem, hbefore⟩)
    · exact .inl hnames
    · -- The file may be the one that is replaced.
      by_cases hfile : file.1 = place.child name
      · exact .inr ⟨_, List.mem_cons_self, hfile ▸ hbefore⟩
      · exact .inr ⟨file, List.mem_cons_of_mem _ (List.mem_filter.mpr ⟨hmem, by simpa using hfile⟩),
          hbefore⟩

/-- Putting a file into a directory changes the entry at its own place only. -/
theorem entryAt?_put_of_ne (h : d.HasDirectory place) (hne : other ≠ place.child name) :
    (d.put (place.child name) contents).entryAt? other = d.entryAt? other := by
  have hlookup : (d.put (place.child name) contents).files.lookup other =
      d.files.lookup other := lookup_put hne
  cases hfile : d.files.lookup other with
  | some found => rw [entryAt?_of_lookup hfile, entryAt?_of_lookup (hlookup.trans hfile)]
  | none =>
    rw [entryAt?_of_lookup_eq_none hfile, entryAt?_of_lookup_eq_none (hlookup.trans hfile)]
    simp only [hasDirectory_put h]

/-- A way that could be gone before can be gone with the new file too. -/
theorem follow_put {start : Place} {steps : List Path.Step} (h : d.HasDirectory place)
    (hentry : d.entryAt? (place.child name) ≠ some .directory)
    (hfollow : d.follow start steps = .ok other) :
    (d.put (place.child name) contents).follow start steps = .ok other := by
  induction steps generalizing start with
  | nil => exact hfollow
  | cons step steps ih =>
    obtain ⟨next, henter, hrest⟩ := follow_cons_eq_ok_iff.mp hfollow
    refine follow_cons_eq_ok_iff.mpr ⟨next, ?_, ih hrest⟩
    cases step with
    | stay => exact henter
    | up => exact henter
    | into label =>
      obtain ⟨hlabel, rfl⟩ := enter_into_eq_ok_iff.mp henter
      obtain ⟨hsize, hnext⟩ := entry?_eq_ok_iff.mp hlabel
      -- The way does not lead through the file, where no directory was.
      have hne : start.child label ≠ place.child name := fun heq => hentry (heq ▸ hnext)
      refine enter_into_eq_ok_iff.mpr ⟨entry?_eq_ok_iff.mpr ⟨hsize, ?_⟩, rfl⟩
      exact (entryAt?_put_of_ne h hne).trans hnext

/-- A path that led to a name leads there with the new file too. -/
theorem target_put {path : String} {reached : Place} {label : List Char}
    (h : d.HasDirectory place) (hentry : d.entryAt? (place.child name) ≠ some .directory)
    (htarget : d.target path = .ok (.name reached label)) :
    (d.put (place.child name) contents).target path = .ok (.name reached label) := by
  obtain ⟨hempty, hsize, hfollow, hlast⟩ := target_eq_name_iff.mp htarget
  exact target_eq_name_iff.mpr ⟨hempty, hsize, follow_put h hentry hfollow, hlast⟩

/-- What was written is read back. -/
theorem read_of_write {path : String} (hwrite : d.write path contents = .ok changed) :
    changed.read path = .ok contents := by
  obtain ⟨place, name, entry, htarget, hold, hentry, hasks, rfl⟩ := write_eq_ok_iff.mp hwrite
  obtain ⟨hsize, rfl⟩ := entry?_eq_ok_iff.mp hold
  have hplace := hasDirectory_of_target htarget
  exact read_eq_ok_iff.mpr ⟨place, name, target_put hplace hentry htarget,
    entry?_eq_ok_iff.mpr ⟨hsize, entryAt?_put_self⟩, hasks⟩

/-- Writing a file leaves the files with other names as they are. -/
theorem read_of_write_of_name_ne {path file : String}
    (hwrite : d.write path contents = .ok changed) (hread : d.read file = .ok bytes)
    (hname : Path.fileName? file ≠ Path.fileName? path) : changed.read file = .ok bytes := by
  obtain ⟨place, name, entry, htarget, hold, hentry, -, rfl⟩ := write_eq_ok_iff.mp hwrite
  obtain ⟨-, rfl⟩ := entry?_eq_ok_iff.mp hold
  obtain ⟨reached, label, hfile, hlabel, hasks⟩ := read_eq_ok_iff.mp hread
  obtain ⟨hsize, hbytes⟩ := entry?_eq_ok_iff.mp hlabel
  have hplace := hasDirectory_of_target htarget
  have hne : reached.child label ≠ place.child name := by
    intro heq
    obtain ⟨-, rfl⟩ := Place.child_inj.mp heq
    exact hname ((fileName?_of_target hfile).trans (fileName?_of_target htarget).symm)
  exact read_eq_ok_iff.mpr ⟨reached, label, target_put hplace hentry hfile,
    entry?_eq_ok_iff.mpr ⟨hsize, (entryAt?_put_of_ne hplace hne).trans hbytes⟩, hasks⟩

end Directory

end RegisterMachine
