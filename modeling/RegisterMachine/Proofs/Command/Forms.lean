import RegisterMachine.Proofs.Binary.Image
import RegisterMachine.Proofs.Command.Perform
import RegisterMachine.Proofs.Execution.Canonical

/-!
# The forms of a program

A program is kept in a file as assembly text or as a binary image, and its listing is
assembly text again.  No command that reads a program tells these files apart
(`forms_interchangeable`).

The assembly text and its binary image hold the same program, since decoding undoes
encoding.  The listing holds another one, with zero in the fields that are not read.  A
request runs that one to the same exit (`RunRequest.execute_canonical`) and lists it as
the same text, so a file that holds the one can stand in for a file that holds the other
(`Interchangeable.of_canonical`).  What remains is that a command does not look at the
path of a program file but to load it.
-/

namespace RegisterMachine

/-! ## Command lines that run a program -/

namespace Arguments

variable {kind : String → Option OptionKind} {before longer : List String} {first : Arguments}

theorem scan_of_look_operand {argument : String}
    (h : look argument = .operand) (rest : List String) :
    scan kind (argument :: rest) = (scan kind rest).map (addOperand argument) := by
  rw [scan, h]

/-- Arguments with an operand and more arguments behind them. -/
def join (first : Arguments) (operand : String) (last : Arguments) : Arguments :=
  ⟨first.operands ++ operand :: last.operands, first.options ++ last.options⟩

/-- Between some arguments, it does not matter what operand stands. -/
def TakesOperand (kind : String → Option OptionKind) (before after : List String)
    (first : Arguments) : Prop :=
  ∃ last? : Option Arguments, ∀ operand, look operand = .operand →
    scan kind (before ++ operand :: after) = last?.map (first.join operand)

theorem TakesOperand.map {after : List String} {f : Arguments → Arguments}
    (h : TakesOperand kind before after first)
    (hjoin : ∀ operand last, (f first).join operand last = f (first.join operand last))
    (hscan : ∀ operand,
      scan kind (longer ++ operand :: after) = (scan kind (before ++ operand :: after)).map f) :
    TakesOperand kind longer after (f first) := by
  obtain ⟨last?, hlast⟩ := h
  refine ⟨last?, fun operand hlook => ?_⟩
  rw [hscan, hlast operand hlook, Option.map_map]
  exact congrArg (Option.map · last?) (funext fun last => (hjoin operand last).symm)

/-- Behind arguments that are complete, every operand is scanned in the same way. -/
theorem takesOperand_of_scan (h : scan kind before = some first) (after : List String) :
    TakesOperand kind before after first := by
  fun_induction scan kind before generalizing first with
  | case1 =>
    cases h
    exact ⟨scan kind after, fun operand hlook => scan_of_look_operand hlook after⟩
  | case2 argument rest hterminator =>
    -- Behind a terminator, whatever follows the operand is an operand too.
    cases h
    refine ⟨some { operands := after }, fun operand _ => ?_⟩
    rw [List.cons_append, scan, hterminator]
    rfl
  | case4 argument rest hargument ih =>
    obtain ⟨scanned, hscan, rfl⟩ := Option.map_eq_some_iff.mp h
    refine (ih hscan).map (fun _ _ => rfl) fun operand => ?_
    rw [List.cons_append, scan, hargument]
  | case7 argument rest name hkind hargument ih =>
    obtain ⟨scanned, hscan, rfl⟩ := Option.map_eq_some_iff.mp h
    refine (ih hscan).map (fun _ _ => rfl) fun operand => ?_
    simp only [List.cons_append, scan, hargument, hkind]
  | case8 argument rest name value hkind hargument ih =>
    obtain ⟨scanned, hscan, rfl⟩ := Option.map_eq_some_iff.mp h
    refine (ih hscan).map (fun _ _ => rfl) fun operand => ?_
    simp only [List.cons_append, scan, hargument, hkind]
  | case10 argument name hkind value rest hvalue hargument ih =>
    obtain ⟨scanned, hscan, rfl⟩ := Option.map_eq_some_iff.mp h
    refine (ih hscan).map (fun _ _ => rfl) fun operand => ?_
    simp only [List.cons_append, scan, hargument, hkind, hvalue, if_true]
  | case3 | case5 | case6 | case9 | case11 => cases h
end Arguments

namespace Command

theorem parseRun_of_options (options : List (String × String)) :
    ∃ request? : Option RunRequest, ∀ path ≠ "",
      parseRun ⟨[path], options⟩ = request?.map fun request => .run { request with path } := by
  let arguments : Arguments := { options }
  refine ⟨do
    let registers ← arguments.single? "registers" Arguments.word?
    let stepLimit ← arguments.single? "step-limit" Arguments.word?
    let settings ← arguments.single? "config" Arguments.path?
    let assignments ← (arguments.values "set").mapM fun text => (Assignment.parse text).toOption
    let json ← arguments.flag? "json"
    return { path := "", registers, stepLimit, settings, assignments, json }, ?_⟩
  intro path hpath
  simp only [parseRun, Arguments.path?, if_neg hpath, Option.map_bind, Option.bind_some,
    Option.bind_eq_bind, Function.comp_def, Option.map_some, Option.pure_def]
  rfl

/-- A run has one operand, so there is none with another one beside its path. -/
theorem parseRun_join (first last : Arguments) :
    ∃ request? : Option RunRequest, ∀ path ≠ "",
      parseRun (first.join path last) = request?.map fun request => .run { request with path } := by
  rcases first with ⟨_ | ⟨operand, operands⟩, options⟩
  · rcases last with ⟨_ | ⟨operand, operands⟩, options'⟩
    · exact parseRun_of_options (options ++ options')
    · exact ⟨none, fun path _ => rfl⟩
  · exact ⟨none, fun path _ => by simp [parseRun, Arguments.join]⟩

/-- What is asked of a run does not depend on the path among the flags. -/
theorem parse_run {before : List String} {first : Arguments}
    (hbefore : Arguments.scan runOptions before = some first) (after : List String) :
    ∃ request? : Option RunRequest, ∀ path, Arguments.look path = .operand → path ≠ "" →
      parse ("run" :: (before ++ path :: after)) =
        request?.map fun request => .run { request with path } := by
  obtain ⟨last?, hscan⟩ := Arguments.takesOperand_of_scan hbefore after
  have hparse (path : String) (hlook : Arguments.look path = .operand) :
      parse ("run" :: (before ++ path :: after)) =
        (last?.map (first.join path)).bind parseRun := by
    rw [parse, if_pos rfl, hscan path hlook]
  cases last? with
  | none => exact ⟨none, fun path hlook _ => hparse path hlook⟩
  | some last =>
    obtain ⟨request?, hrequest⟩ := parseRun_join first last
    exact ⟨request?, fun path hlook hpath => (hparse path hlook).trans (hrequest path hpath)⟩

/-- What is said of a misuse of a run does not depend on the path either. -/
theorem misuse_run {before : List String} {first : Arguments}
    (hbefore : Arguments.scan runOptions before = some first) (after : List String) :
    ∃ text, ∀ path, Arguments.look path = .operand →
      misuse ("run" :: (before ++ path :: after)) = text := by
  obtain ⟨last?, hscan⟩ := Arguments.takesOperand_of_scan hbefore after
  -- Of the arguments, only the options are looked at, and the path is none of them.
  let fault? := last?.bind fun last => wrongAssignment? { options := first.options ++ last.options }
  have hfault (path : String) (hlook : Arguments.look path = .operand) :
      assignmentFault? ("run" :: (before ++ path :: after)) = fault? := by
    rw [assignmentFault?, if_pos rfl, hscan path hlook]
    cases last? <;> rfl
  exact ⟨_, fun path hlook => by rw [misuse, hfault path hlook]⟩

theorem parse_disassemble {path : String} (hlook : Arguments.look path = .operand)
    (hpath : path ≠ "") : parse ["disasm", path] = some (.disassemble path) := by
  have hscan : Arguments.scan noOptions [path] = some { operands := [path] } := by
    rw [Arguments.scan_of_look_operand hlook]
    rfl
  simp [parse, hscan, parseOperands, Arguments.path?, hpath]

end Command

/-! ## Runs of canonical programs -/

namespace Machine

/-- Assignments look at the registers only. -/
theorem assign_cases (registers : RegisterFile) (assignments : List Assignment) :
    (∃ fault, ∀ p, assign ⟨registers, p⟩ assignments = .error fault) ∨
      ∃ after, ∀ p, assign ⟨registers, p⟩ assignments = .ok ⟨after, p⟩ := by
  induction assignments generalizing registers with
  | nil => exact .inr ⟨registers, fun p => rfl⟩
  | cons assignment assignments ih =>
    simp only [assign, write]
    cases registers.set assignment.index assignment.value with
    | error fault => exact .inl ⟨fault, fun p => rfl⟩
    | ok registers => exact ih registers

theorem execute_congr {p q : Program} (hstep : ∀ c, q.step c = p.step c)
    (registers : RegisterFile) (limit : Option UInt64) :
    execute ⟨registers, q⟩ limit = execute ⟨registers, p⟩ limit := by
  simp only [execute, runFlushed, run_congr hstep]
  rfl

end Machine

theorem RunRequest.execute_canonical (request : RunRequest) (settings : Settings) (p : Program) :
    request.execute settings p.canonical = request.execute settings p := by
  obtain ⟨zeroed, hmachine, hcanonical⟩ : ∃ zeroed, request.machine p = ⟨zeroed, p⟩ ∧
      request.machine p.canonical = ⟨zeroed, p.canonical⟩ := by
    refine ⟨_, rfl, ?_⟩
    rw [machine, p.defaultRegisterCount_canonical]
    rfl
  rw [execute, execute, hmachine, hcanonical]
  rcases Machine.assign_cases zeroed request.assignments with
    ⟨fault, hassign⟩ | ⟨registers, hassign⟩
  · rw [hassign, hassign]
  · simp only [hassign, Machine.execute_congr p.step_canonical]

/-! ## Files that stand in for each other -/

namespace Command

/-- What a command comes to on a directory, and the directory that it leaves. -/
def on (command : Command) (d : Directory) : Exit × Directory :=
  (command.perform : StateM Directory Exit).run d

/-- What a command line comes to on a directory, and the directory that it leaves. -/
def lineOn (arguments : List String) (d : Directory) : Exit × Directory :=
  (performLine arguments : StateM Directory Exit).run d

end Command

namespace Directory

variable {d : Directory} {path other : String} {p q : Program}

/-- No command that reads a program tells two files apart. -/
structure Interchangeable (d : Directory) (path other : String) : Prop where
  run : ∀ request : RunRequest,
    (Command.run { request with path := other }).on d = (Command.run { request with path }).on d
  disassemble : (Command.disassemble other).on d = (Command.disassemble path).on d
  /-- On a command line with flags, complete ones before the path and any behind it.  A path
  that begins with a hyphen is no operand of a command line. -/
  runLine : Arguments.look path = .operand → Arguments.look other = .operand →
    ∀ before after, (Arguments.scan Command.runOptions before).isSome →
      Command.lineOn ("run" :: (before ++ other :: after)) d =
        Command.lineOn ("run" :: (before ++ path :: after)) d
  disassembleLine : Arguments.look path = .operand → Arguments.look other = .operand →
    Command.lineOn ["disasm", other] d = Command.lineOn ["disasm", path] d

/-- Files whose programs differ in unread fields only stand in for each other. -/
theorem Interchangeable.of_canonical (h : d.Loads path p) (hother : d.Loads other q)
    (hcanonical : q.canonical = p.canonical) : d.Interchangeable path other := by
  have hpath := h.ne_empty
  have hpath' := hother.ne_empty
  rw [loads_iff] at h hother
  have hrun (request : RunRequest) : (Command.run { request with path := other }).on d =
      (Command.run { request with path }).on d := by
    have hexecute (settings : Settings) :
        request.execute settings q = request.execute settings p := by
      rw [← request.execute_canonical settings q, hcanonical, request.execute_canonical]
    simp only [Command.on, Command.perform, Command.performRun_run, h, hother]
    cases d.settings request.settings with
    | error complaint => rfl
    | ok settings => exact congrArg (·, d) (hexecute settings)
  have hlisting : (Command.disassemble other).on d = (Command.disassemble path).on d := by
    have htext : q.listing = p.listing := by
      rw [← q.listing_canonical, hcanonical, p.listing_canonical]
    simp only [Command.on, Command.perform, Command.performListing_run, h, hother, htext]
  refine ⟨hrun, hlisting, fun hlook hlook' before after hbefore => ?_, fun hlook hlook' => ?_⟩
  · obtain ⟨first, hscan⟩ := Option.isSome_iff_exists.mp hbefore
    obtain ⟨request?, hparse⟩ := Command.parse_run hscan after
    rw [Command.lineOn, Command.lineOn, Command.performLine, Command.performLine,
      hparse path hlook hpath, hparse other hlook' hpath']
    obtain ⟨text, hmisuse⟩ := Command.misuse_run hscan after
    cases request? with
    | none =>
      rw [hmisuse path hlook, hmisuse other hlook']
      rfl
    | some request => exact hrun request
  · rw [Command.lineOn, Command.lineOn, Command.performLine, Command.performLine,
      Command.parse_disassemble hlook hpath, Command.parse_disassemble hlook' hpath']
    exact hlisting

/-- A source that holds the listing of a program is loaded as its canonical form. -/
theorem loads_listing (h : Path.isBinary path = false)
    (hread : d.read path = .ok p.listing.toUTF8) : d.Loads path p.canonical :=
  (loads_source_iff h).mpr ⟨p.listing, hread, p.assemble_listing⟩

/-- After an assembly, the source and the binary file are loaded as the same program. -/
theorem loads_of_assemble {binary : String} (hsource : Path.isBinary path = false)
    (hbinary : Path.isBinary binary = true)
    (hcode : ((Command.assemble path binary).on d).1.code = 0) :
    ∃ p, ((Command.assemble path binary).on d).2.Loads path p ∧
      ((Command.assemble path binary).on d).2.Loads binary p := by
  obtain ⟨p, bytes, hprogram, hencode, hwrite⟩ := Command.write_of_performAssembly d hcode
  obtain ⟨text, htext, hassemble⟩ := source_eq_ok_iff.mp hprogram
  have hname : Path.fileName? path ≠ Path.fileName? binary := by
    intro heq
    rw [Path.isBinary, heq] at hsource
    exact Bool.false_ne_true (hsource.symm.trans hbinary)
  have hdecode : Program.decode bytes.toByteArray.data.toList = .ok p := by
    rw [List.data_toByteArray]
    exact Program.decode_eq_ok_iff.mpr (Program.encode_eq_ok_iff.mp hencode)
  exact ⟨p,
    (loads_source_iff hsource).mpr ⟨text, read_of_write_of_name_ne hwrite htext hname, hassemble⟩,
    (loads_binary_iff hbinary).mpr ⟨bytes.toByteArray, read_of_write hwrite, hdecode⟩⟩

/-- The forms of a program stand in for each other: any program file and a source that holds
its listing, and a source and the binary file that it was assembled to. -/
theorem forms_interchangeable (d : Directory) (path : String) :
    (∀ p listing, d.Loads path p → Path.isBinary listing = false →
      d.read listing = .ok ((Command.disassemble path).on d).1.output →
      d.Interchangeable path listing) ∧
    (∀ binary, Path.isBinary path = false → Path.isBinary binary = true →
      ((Command.assemble path binary).on d).1.code = 0 →
      ((Command.assemble path binary).on d).2.Interchangeable path binary) := by
  constructor
  · intro p listing hload hsource hread
    have houtput : ((Command.disassemble path).on d).1.output = p.listing.toUTF8 := by
      simp only [Command.on, Command.perform, Command.performListing_run, loads_iff.mp hload]
    rw [houtput] at hread
    exact .of_canonical hload (loads_listing hsource hread) p.canonical_canonical
  · intro binary hsource hbinary hcode
    obtain ⟨p, hpath, himage⟩ := loads_of_assemble hsource hbinary hcode
    exact .of_canonical hpath himage rfl

/-- A binary file with an unread field that is not zero, and its listing. -/
theorem forms_interchangeable_nop :
    let p : Program := ⟨#[⟨.nop, 1, 0⟩, .ret 0], #["hi"], by decide⟩
    let d := ofFiles [("a.rvm", p.image.toByteArray), ("b.asm",
      "; string 0\n.string \"hi\"\n0000: nop\n0001: ret r0\n".toUTF8)]
    d.Interchangeable "a.rvm" "b.asm" ∧
      ((Command.assemble "b.asm" "c.rvm").on d).2.Interchangeable "b.asm" "c.rvm" := by
  intro p d
  have hload : d.Loads "a.rvm" p := by
    refine (loads_binary_iff (by decide +kernel)).mpr ⟨p.image.toByteArray, rfl, ?_⟩
    decide +kernel
  exact ⟨(forms_interchangeable d "a.rvm").1 p "b.asm" hload (by decide +kernel) (by decide +kernel),
    (forms_interchangeable d "b.asm").2 "c.rvm" (by decide +kernel) (by decide +kernel)
      (by decide +kernel)⟩

end Directory

end RegisterMachine
