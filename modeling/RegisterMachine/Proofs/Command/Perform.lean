import RegisterMachine.Command.Perform
import RegisterMachine.Proofs.Binary.Fields
import RegisterMachine.Proofs.Command.Directory

/-!
# Commands on a directory

Of the commands that use files only an assembly writes one.  The others leave the
directory as it is, and what they come to is a function of what they read
(`loadProgram_run`, `loadSettings_run`, `performRun_run`, `performListing_run`).  An
assembly that comes to the exit code 0 wrote the image of the program that it read
(`write_of_performAssembly`).
-/

namespace RegisterMachine

/-! ## What is read -/

namespace Directory

/-- The text of a file. -/
def text (d : Directory) (path : String) : Except FileFault String :=
  match d.read path with
  | .error fault => .error fault
  | .ok bytes =>
    match String.fromUTF8? bytes with
    | some text => .ok text
    | none => .error .notText

def source (d : Directory) (path : String) : Except Complaint Program :=
  match d.text path with
  | .error fault => .error ⟨path, fault.message⟩
  | .ok text => Command.readSource path text

def program (d : Directory) (path : String) : Except Complaint Program :=
  if Path.isBinary path then
    match d.read path with
    | .error fault => .error ⟨path, fault.message⟩
    | .ok bytes => Command.readBinary path bytes
  else d.source path

def settings (d : Directory) : Option String → Except Complaint Settings
  | none => .ok {}
  | some path =>
    match d.text path with
    | .error fault => .error ⟨path, fault.message⟩
    | .ok text =>
      match Settings.ofJson? text with
      | some settings => .ok settings
      | none => .error (Command.settingsComplaint path)

end Directory

/-! ## Outcomes -/

namespace Command

variable (d : Directory) (path : String)

/-- A command goes on with what its first part gave. -/
theorem run_bind {α β : Type} {first : StateM Directory α} {next : α → StateM Directory β}
    {d e : Directory} {result : α} (h : first.run d = (result, e)) :
    (first >>= next).run d = (next result).run e := by
  rw [StateT.run_bind, h]
  rfl

/-- Reading leaves the directory as it is. -/
theorem read_run : (FileAccess.read path : StateM Directory _).run d = (d.read path, d) := rfl

theorem readText_run :
    (FileAccess.readText path : StateM Directory _).run d = (d.text path, d) := by
  rw [FileAccess.readText, run_bind (read_run d path), Directory.text]
  cases d.read path with
  | error fault => rfl
  | ok bytes =>
    dsimp only
    cases String.fromUTF8? bytes with
    | none => rfl
    | some text => rfl

theorem loadSource_run : (loadSource path : StateM Directory _).run d = (d.source path, d) := by
  rw [loadSource, run_bind (readText_run d path), Directory.source]
  cases d.text path with
  | error fault => rfl
  | ok text => rfl

/-- What is loaded for a path is the program of the file there, and nothing is written. -/
theorem loadProgram_run : (loadProgram path : StateM Directory _).run d = (d.program path, d) := by
  rw [loadProgram, Directory.program]
  cases Path.isBinary path with
  | false => exact loadSource_run d path
  | true =>
    rw [if_pos rfl, if_pos rfl, run_bind (read_run d path)]
    cases d.read path with
    | error fault => rfl
    | ok bytes => rfl

theorem loadSettings_run (path? : Option String) :
    (loadSettings path? : StateM Directory _).run d = (d.settings path?, d) := by
  cases path? with
  | none => rfl
  | some path =>
    rw [loadSettings, run_bind (readText_run d path), Directory.settings]
    cases d.text path with
    | error fault => rfl
    | ok text =>
      dsimp only
      cases Settings.ofJson? text with
      | none => rfl
      | some settings => rfl

/-- A run is a function of the settings and the program that are read, the settings first. -/
theorem performRun_run (request : RunRequest) :
    (performRun request : StateM Directory _).run d =
      ((match d.settings request.settings, d.program request.path with
        | .error complaint, _ => .refusal complaint
        | .ok _, .error complaint => .refusal complaint
        | .ok settings, .ok program => request.execute settings program), d) := by
  rw [performRun, run_bind (loadSettings_run d request.settings)]
  cases d.settings request.settings with
  | error complaint => rfl
  | ok settings =>
    dsimp only
    rw [run_bind (loadProgram_run d request.path)]
    cases d.program request.path with
    | error complaint => rfl
    | ok program => rfl

/-- A listing is a function of the program that is read. -/
theorem performListing_run :
    (performListing path : StateM Directory _).run d =
      ((match d.program path with
        | .error complaint => .refusal complaint
        | .ok program => { output := program.listing.toUTF8 }), d) := by
  rw [performListing, run_bind (loadProgram_run d path)]
  cases d.program path with
  | error complaint => rfl
  | ok program => rfl

theorem write_run (bytes : ByteArray) : (FileAccess.write path bytes : StateM Directory _).run d =
    match d.write path bytes with
    | .ok changed => (.ok (), changed)
    | .error fault => (.error fault, d) := rfl

/-- An assembly writes the image of its program, and only if nothing failed before. -/
theorem performAssembly_run (source output : String) :
    (performAssembly source output : StateM Directory _).run d =
      match d.source source with
      | .error complaint => (.refusal complaint, d)
      | .ok program =>
        match program.encode with
        | .error fault => (.refusal ⟨"Encode failed", fault.message⟩, d)
        | .ok bytes =>
          match d.write output bytes.toByteArray with
          | .error fault => (.refusal ⟨output, fault.message⟩, d)
          | .ok changed =>
            ({ errors :=
              s!"Wrote {program.length} instructions, {program.strings.size} strings to {output}\n"
              }, changed) := by
  rw [performAssembly, run_bind (loadSource_run d source)]
  cases d.source source with
  | error complaint => rfl
  | ok program =>
    dsimp only
    cases program.encode with
    | error fault => rfl
    | ok bytes =>
      dsimp only
      rw [StateT.run_bind, write_run]
      cases d.write output bytes.toByteArray with
      | error fault => rfl
      | ok changed => rfl

@[simp]
theorem code_refusal (complaint : Complaint) : (Exit.refusal complaint).code = 1 := rfl

/-- An assembly that comes to the exit code 0 wrote the image of the program that it read. -/
theorem write_of_performAssembly {source output : String}
    (h : ((performAssembly source output : StateM Directory _).run d).1.code = 0) :
    ∃ program bytes, d.source source = .ok program ∧ program.encode = .ok bytes ∧
      d.write output bytes.toByteArray =
        .ok ((performAssembly source output : StateM Directory _).run d).2 := by
  rw [performAssembly_run] at h ⊢
  split at h
  · simp at h
  rename_i program hsource
  split at h
  · simp at h
  rename_i bytes hencode
  split at h
  · simp at h
  rename_i changed hwrite
  exact ⟨program, bytes, hsource, hencode, hwrite⟩

end Command

/-! ## Files that are loaded -/

namespace Directory

variable {d : Directory} {path other : String} {p q : Program}

/-- A file has a text exactly if it holds the bytes of that text. -/
theorem text_eq_ok_iff {text : String} :
    d.text path = .ok text ↔ d.read path = .ok text.toUTF8 := by
  rw [Directory.text]
  cases d.read path with
  | error fault => simp
  | ok bytes =>
    simp only [Except.ok.injEq, ← fromUTF8?_eq_some_iff_toUTF8]
    cases String.fromUTF8? bytes with
    | none => simp
    | some found => simp

/-- A file is loaded as a program. -/
def Loads (d : Directory) (path : String) (p : Program) : Prop :=
  (Command.loadProgram path : StateM Directory _).run d = (.ok p, d)

theorem loads_iff : d.Loads path p ↔ d.program path = .ok p := by
  rw [Loads, Command.loadProgram_run, Prod.mk.injEq, and_iff_left rfl]

/-- A source is loaded as what the text of the file assembles to. -/
theorem source_eq_ok_iff : d.source path = .ok p ↔
    ∃ text : String, d.read path = .ok text.toUTF8 ∧ Program.assemble text = .ok p := by
  rw [source]
  simp only [← text_eq_ok_iff]
  cases d.text path with
  | error fault => simp
  | ok text =>
    simp only [Command.readSource, Except.ok.injEq, exists_eq_left']
    cases Program.assemble text with
    | error fault => simp
    | ok program => simp

theorem loads_source_iff (h : Path.isBinary path = false) : d.Loads path p ↔
    ∃ text : String, d.read path = .ok text.toUTF8 ∧ Program.assemble text = .ok p := by
  rw [loads_iff, program, h]
  exact source_eq_ok_iff

/-- A binary file is loaded as what its bytes decode to. -/
theorem loads_binary_iff (h : Path.isBinary path = true) : d.Loads path p ↔
    ∃ bytes, d.read path = .ok bytes ∧ Program.decode bytes.data.toList = .ok p := by
  rw [loads_iff, program, h, if_pos rfl]
  cases d.read path with
  | error fault => simp
  | ok bytes =>
    simp only [Command.readBinary, Except.ok.injEq, exists_eq_left']
    cases Program.decode bytes.data.toList with
    | error fault => simp
    | ok program => simp

/-- There is no file at the empty path. -/
theorem Loads.ne_empty (h : d.Loads path p) : path ≠ "" := by
  rintro rfl
  cases (show d.program "" = .error _ from rfl).symm.trans (loads_iff.mp h)

end Directory

end RegisterMachine
