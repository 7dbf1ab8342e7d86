import ClassScaffold.Command.Run
import ClassScaffold.Proofs.Config.FileTree
import ClassScaffold.Proofs.Diagram.Codec
import ClassScaffold.Proofs.Sources

/-! Generating on a command line: all sources are written, or nothing is. -/
namespace ClassScaffold

theorem Diagram.generateWith_eq_ok_iff {engine : TemplateEngine} {read : TextReader} {c : Config}
    {d : Diagram} {sources : Sources} :
    d.generateWith engine read c = .ok sources ↔ ∃ skeletons, c.skeletons read d.target = .ok skeletons ∧
      d.generate engine skeletons = .ok sources := by
  simp only [generateWith, bind_eq_ok_iff, mapError_eq_ok_iff]

namespace Command
variable {engine : TemplateEngine} {inputs : Inputs} {request : String}
  {config output : Option String}

/-- A stage of generating fails: the request cannot be read or is no diagram, the configuration
cannot be loaded, a skeleton cannot be read, the diagram is not valid or has references that cannot
be resolved, or a class cannot be rendered. -/
inductive Fails (engine : TemplateEngine) (inputs : Inputs) (request : String)
    (config : Option String) : Prop
  | request {fault : CommandFault} (h : readRequest inputs request = .error fault)
  | config {fault : CommandFault} (h : readConfig inputs config = .error fault)
  | skeletons {d : Diagram} {c : Config} {fault : ConfigFault}
    (hd : readRequest inputs request = .ok d) (hc : readConfig inputs config = .ok c)
    (h : c.skeletons inputs.read d.target = .error fault)
  | validation {d : Diagram} {rejection : Rejection} (hd : readRequest inputs request = .ok d)
    (h : d.validate = .error rejection)
  | resolution {d : Diagram} {rejection : Rejection} (hd : readRequest inputs request = .ok d)
    (h : d.resolve = .error rejection)
  | rendering {d : Diagram} {c : Config} {skeletons : SkeletonSet} {m : Model}
    {fault : GenerationFault} (hd : readRequest inputs request = .ok d)
    (hc : readConfig inputs config = .ok c)
    (hs : c.skeletons inputs.read d.target = .ok skeletons) (hr : d.resolve = .ok m)
    (h : m.sources engine skeletons = .error fault)

/-- What the stages make of what is read: the sources of a diagram. -/
def Generates (engine : TemplateEngine) (inputs : Inputs) (request : String)
    (config : Option String) (sources : Sources) : Prop :=
  ∃ d c, readRequest inputs request = .ok d ∧ readConfig inputs config = .ok c ∧
    d.generateWith engine inputs.read c = .ok sources

theorem Fails.not_generates (h : Fails engine inputs request config) (sources : Sources) :
    ¬ Generates engine inputs request config sources := by
  rintro ⟨d, c, hd, hc, hg⟩
  obtain ⟨skeletons, hs, hg⟩ := Diagram.generateWith_eq_ok_iff.mp hg
  obtain ⟨m, ha, hm⟩ := bind_eq_ok_iff.mp hg
  obtain ⟨hv, hr⟩ := Diagram.accept_eq_ok_iff.mp (mapError_eq_ok_iff.mp ha)
  cases h with
  | request h => cases hd.symm.trans h
  | config h => cases hc.symm.trans h
  | skeletons hd' hc' h =>
    cases hd.symm.trans hd'
    cases hc.symm.trans hc'
    cases hs.symm.trans h
  | validation hd' h =>
    cases hd.symm.trans hd'
    cases hv.symm.trans h
  | resolution hd' h =>
    cases hd.symm.trans hd'
    cases hr.symm.trans h
  | rendering hd' hc' hs' hr' h =>
    cases hd.symm.trans hd'
    cases hc.symm.trans hc'
    cases hs.symm.trans hs'
    cases hr.symm.trans hr'
    cases hm.symm.trans h

theorem exists_generates (h : ¬ Fails engine inputs request config) :
    ∃ sources, Generates engine inputs request config sources := by
  obtain ⟨d, hd⟩ := exists_ok_of_ne_error fun _ hd => h (.request hd)
  obtain ⟨c, hc⟩ := exists_ok_of_ne_error fun _ hc => h (.config hc)
  obtain ⟨skeletons, hs⟩ := exists_ok_of_ne_error fun _ hs => h (.skeletons hd hc hs)
  obtain ⟨⟨⟩, hv⟩ := exists_ok_of_ne_error fun _ hv => h (.validation hd hv)
  obtain ⟨m, hr⟩ := exists_ok_of_ne_error fun _ hr => h (.resolution hd hr)
  obtain ⟨sources, hm⟩ := exists_ok_of_ne_error fun _ hm => h (.rendering hd hc hs hr hm)
  refine ⟨sources, d, c, hd, hc, Diagram.generateWith_eq_ok_iff.mpr ⟨skeletons, hs, ?_⟩⟩
  exact bind_eq_ok_iff.mpr
    ⟨m, mapError_eq_ok_iff.mpr (Diagram.accept_eq_ok_iff.mpr ⟨hv, hr⟩), hm⟩

def outputEffect (text : String) : Option String → Effect
  | some path => .write path text
  | none => .print text

theorem effect_generate_eq_ok_iff {e : Effect} :
    (Command.generate request config output).effect engine inputs = .ok e ↔
      ∃ sources, Generates engine inputs request config sources ∧
        e = outputEffect sources.toJson.pretty output := by
  simp only [effect, bind_eq_ok_iff, mapError_eq_ok_iff, Generates]
  constructor
  · rintro ⟨d, hd, c, hc, sources, hg, he⟩
    refine ⟨sources, ⟨d, c, hd, hc, hg⟩, ?_⟩
    cases output <;> exact (Except.ok.inj he).symm
  · rintro ⟨sources, ⟨d, c, hd, hc, hg⟩, rfl⟩
    refine ⟨d, hd, c, hc, sources, hg, ?_⟩
    cases output <;> rfl

end Command

namespace FileTree

/-- A run ends with that exit code and output, and leaves that tree behind. -/
structure Leaves (run : Outcome × FileTree) (exit : Nat) (stdout : String) (tree : FileTree) :
    Prop where
  exit : run.1.exit = exit
  stdout : run.1.stdout = stdout
  tree : run.2 = tree

/-- The second tree has that file, and is otherwise like the first. -/
structure Replaced (t changed : FileTree) (path : List String) (content : ByteArray) : Prop where
  content : changed.files.lookup path = some content
  others : ∀ other, other ≠ path → changed.files.lookup other = t.files.lookup other
  directories : changed.directories = t.directories
  workingDirectory : changed.workingDirectory = t.workingDirectory

variable {engine : TemplateEngine} {t : FileTree} {stdin : Except FileFault String}
  {request : String} {config output : Option String}

theorem replaced_put {steps : List String} {content : ByteArray} :
    t.Replaced (t.put steps content) steps content :=
  ⟨lookup_put_self, fun _ => lookup_put_of_ne, rfl, rfl⟩

theorem run_of_fails (h : Command.Fails engine ⟨stdin, t.read⟩ request config) :
    ∃ report, t.run engine stdin (.generate request config output) = (⟨1, "", some report⟩, t) := by
  cases he : (Command.generate request config output).effect engine ⟨stdin, t.read⟩ with
  | error fault => exact ⟨_, by rw [run, he]; rfl⟩
  | ok e =>
    obtain ⟨sources, hg, -⟩ := Command.effect_generate_eq_ok_iff.mp he
    exact absurd hg (h.not_generates sources)

section Generated
variable {sources : Sources}
  (h : Command.Generates engine ⟨stdin, t.read⟩ request config sources)
include h

theorem run_without_output : Leaves (t.run engine stdin (.generate request config none)) 0
    (sources.toJson.pretty ++ "\n") t := by
  rw [run, Command.effect_generate_eq_ok_iff.mpr ⟨sources, h, rfl⟩]
  exact ⟨rfl, rfl, rfl⟩

theorem run_of_writable {path : String} {steps : List String} (hw : t.Writable path steps) :
    Leaves (t.run engine stdin (.generate request config (some path))) 0 ""
      (t.put steps sources.toJson.pretty.toUTF8) := by
  rw [run, Command.effect_generate_eq_ok_iff.mpr ⟨sources, h, rfl⟩]
  simp only [Command.outputEffect, hw.write]
  exact ⟨rfl, rfl, rfl⟩

theorem run_of_not_writable {path : String} (hw : ∀ steps, ¬ t.Writable path steps) :
    ∃ report, t.run engine stdin (.generate request config (some path)) =
      (⟨1, "", some report⟩, t) := by
  obtain ⟨fault, hf⟩ : ∃ fault, t.write path sources.toJson.pretty = .error fault :=
    exists_write_error hw
  rw [run, Command.effect_generate_eq_ok_iff.mpr ⟨sources, h, rfl⟩]
  simp only [Command.outputEffect, hf]
  exact ⟨_, rfl⟩

end Generated

/-- Whatever the template engine is, generating fails without a trace wherever one of its stages does.
Where none does, it gives the sources of the request as JSON with ascending ids, on standard output or
in the one file that it is told to write, and a file that cannot be written leaves no trace either. -/
theorem runLine_generate (engine : TemplateEngine) (t : FileTree) (stdin : Except FileFault String)
    {environment : Option String} {arguments : List String} {request : String}
    {config output : Option String}
    (h : Command.parse? environment arguments = some (.generate request config output)) :
    (Command.Fails engine ⟨stdin, t.read⟩ request config → ∃ report,
        t.runLine engine stdin environment arguments = (⟨1, "", some report⟩, t)) ∧
      (¬ Command.Fails engine ⟨stdin, t.read⟩ request config → ∃ sources text,
        Command.Generates engine ⟨stdin, t.read⟩ request config sources ∧
        Json.parse? text = some (.record (sources.map fun (id, source) => (id, .text source))) ∧
        (sources.map Prod.fst).Pairwise (· < ·) ∧
        (output = none →
          Leaves (t.runLine engine stdin environment arguments) 0 (text ++ "\n") t) ∧
        ∀ path, output = some path →
          (∀ steps, t.Writable path steps → ∃ changed,
              Leaves (t.runLine engine stdin environment arguments) 0 "" changed ∧
              changed.read path = .ok text ∧ t.Replaced changed steps text.toUTF8) ∧
            ((∀ steps, ¬ t.Writable path steps) → ∃ report,
              t.runLine engine stdin environment arguments = (⟨1, "", some report⟩, t))) := by
  have hrun : t.runLine engine stdin environment arguments =
      t.run engine stdin (.generate request config output) := by
    rw [runLine, h]
  rw [hrun]
  refine ⟨run_of_fails, fun hf => ?_⟩
  obtain ⟨sources, hg⟩ := Command.exists_generates hf
  obtain ⟨d, c, -, -, hgenerate⟩ := id hg
  obtain ⟨skeletons, -, hsources⟩ := Diagram.generateWith_eq_ok_iff.mp hgenerate
  refine ⟨sources, sources.toJson.pretty, hg, Json.parse?_pretty _,
    Diagram.ids_ascending hsources, ?_, ?_⟩
  · rintro rfl
    exact run_without_output hg
  · rintro path rfl
    exact ⟨fun steps hw => ⟨_, run_of_writable hg hw, hw.read_put, replaced_put⟩,
      run_of_not_writable hg⟩

/-- A request beside the directory above the working directory. -/
def withRequest (text : String) : FileTree where
  files := [(["requests", "figures.json"], text.toUTF8)]
  directories := []
  workingDirectory := ["home", "work"]

/-- Arguments that name the request from the root, and a file above the working directory. -/
def bothFiles : List String :=
  ["generate", "--request", "/requests/figures.json", "--output", "../out.json"]

private theorem parse?_bothFiles : Command.parse? none bothFiles =
    some (.generate "/requests/figures.json" none (some "../out.json")) := by
  decide +kernel

private theorem locate_withRequest (text : String) :
    (withRequest text).locate "/requests/figures.json" = .ok (.file ["requests", "figures.json"]) ∧
      (withRequest text).locate "../out.json" = .ok (.free ["home", "out.json"]) := by
  have hfault : pathFault? "/requests/figures.json" = none ∧ pathFault? "../out.json" = none := by
    have hsize : ¬ pathLimit < "/requests/figures.json".utf8ByteSize ∧
        ¬ pathLimit < "../out.json".utf8ByteSize := by decide +kernel
    simp [pathFault?, hsize]
  have hsteps : splitSlashes [] "/requests/figures.json".toList = ["", "requests", "figures.json"] ∧
      splitSlashes [] "../out.json".toList = ["..", "out.json"] := by decide +kernel
  have hstart : isAbsolute "/requests/figures.json" = true ∧ isAbsolute "../out.json" = false := by
    decide +kernel
  have hshort : ¬ nameLimit < "requests".utf8ByteSize ∧ ¬ nameLimit < "figures.json".utf8ByteSize ∧
      ¬ nameLimit < "out.json".utf8ByteSize := by decide +kernel
  simp only [locate, followFrom, hfault, hsteps, hstart]
  simp [follow, isDirectory, isFile, withRequest, hshort]

private theorem read_withRequest (text : String) :
    (withRequest text).read "/requests/figures.json" = .ok text := by
  rw [read, (locate_withRequest text).1]
  simp only [withRequest, List.lookup_cons_self, Option.bind_some, fromUTF8?_toUTF8]

private theorem readRequest_withRequest (stdin : Except FileFault String) (text : String) :
    Command.readRequest ⟨stdin, (withRequest text).read⟩ "/requests/figures.json" =
      match (Json.parse? text).bind Diagram.ofJson? with
      | some d => .ok d
      | none => .error .malformedRequest := by
  have hs : isStdin "/requests/figures.json" = false := by decide +kernel
  simp only [Command.readRequest, hs, read_withRequest]
  rfl

theorem runLine_generate_figures :
    Command.parse? none bothFiles =
        some (.generate "/requests/figures.json" none (some "../out.json")) ∧
      (∃ text changed, Leaves ((withRequest Diagram.figures.toJson.pretty).runLine Skeleton.engine
          (.error .notText) none bothFiles) 0 "" changed ∧
        changed.read "../out.json" = .ok text ∧
        (withRequest Diagram.figures.toJson.pretty).Replaced changed ["home", "out.json"]
          text.toUTF8) ∧
      ∃ report, (withRequest "").runLine Skeleton.engine (.error .notText) none bothFiles =
        (⟨1, "", some report⟩, withRequest "") := by
  refine ⟨parse?_bothFiles, ?_, ?_⟩
  · have hok : Diagram.figures.accept.toBool = true := by decide +kernel
    obtain ⟨m, ha⟩ := exists_ok_of_toBool hok
    obtain ⟨sources, hs⟩ := Diagram.generate_bundled_ok ha
    have hrequest := readRequest_withRequest (.error .notText) Diagram.figures.toJson.pretty
    rw [Json.parse?_pretty, Option.bind_some, Diagram.decodes.reads (Diagram.decodes.same _)]
      at hrequest
    have hg : Command.Generates Skeleton.engine
        ⟨.error .notText, (withRequest Diagram.figures.toJson.pretty).read⟩
        "/requests/figures.json" none sources :=
      ⟨Diagram.figures, {}, hrequest, rfl,
        Diagram.generateWith_eq_ok_iff.mpr ⟨_, Config.skeletons_default _ _, hs⟩⟩
    obtain ⟨_, text, _, _, _, _, hwrite⟩ :=
      (runLine_generate Skeleton.engine (withRequest Diagram.figures.toJson.pretty)
        (.error .notText) parse?_bothFiles).2 fun hf => hf.not_generates sources hg
    obtain ⟨changed, h⟩ := (hwrite "../out.json" rfl).1 ["home", "out.json"]
      (.inr (locate_withRequest _).2)
    exact ⟨text, changed, h⟩
  · have hmalformed : (Json.parse? "").bind Diagram.ofJson? = none := by
      have hp : Json.parse? "" = none := rfl
      rw [hp]
      rfl
    have hrequest := readRequest_withRequest (.error .notText) ""
    rw [hmalformed] at hrequest
    exact (runLine_generate Skeleton.engine (withRequest "") (.error .notText) parse?_bothFiles).1
      (.request hrequest)

end FileTree

end ClassScaffold
