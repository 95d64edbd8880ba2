import SnippetAudit.Artifact.Store
import SnippetAudit.Proofs.Artifact.RoundTrip
import SnippetAudit.Proofs.Backend.Logged
import SnippetAudit.Proofs.Files.Grown

/-!
# Falling back to the base program

Loading an artifact ends in one of a few ways: the name has no format, the file cannot be read, it holds no gzip, or no
artifact (`Artifact.Refused`), or else the whole artifact is there (`Artifact.load_eq_ok_iff`). A detector is made in one
of four ways, and touches nothing but the events (`Detector.PicksUp`): only an artifact that is loaded makes an optimized
one, with all of its program; every other case ends with the base program, and an artifact that is there but refused is
told of (`Detector.withArtifact_fallsBack`).
-/

namespace SnippetAudit

variable {σ : Type}

namespace Artifact

variable {fs : Files} {p : Path} {a : Artifact}

/-! ## Loading -/

/-- The JSON of an artifact file, as its name says that it is stored. -/
inductive Content (fs : Files) (p : Path) : ByteArray → Prop
  | plain {content : ByteArray} (format : Format.ofPath? p = some .json) (read : fs.read p = .ok content) :
      Content fs p content
  | packed {bytes content : ByteArray} (format : Format.ofPath? p = some .binary) (read : fs.read p = .ok bytes)
      (gzip : Gzip.decompress bytes = .ok content) : Content fs p content

/-- Why there is no artifact to load. -/
inductive Refused (fs : Files) (p : Path) : Failure → Prop
  | noFormat (format : Format.ofPath? p = none) : Refused fs p (.unsupportedFormat p.text)
  | unread {f : Format} {e : IoError} (format : Format.ofPath? p = some f) (read : fs.read p = .error e) :
      Refused fs p (.io e)
  | noGzip {bytes : ByteArray} {e : IoError} (format : Format.ofPath? p = some .binary) (read : fs.read p = .ok bytes)
      (gzip : Gzip.decompress bytes = .error e) : Refused fs p (.io e)
  | noArtifact {content : ByteArray} (holds : Content fs p content)
      (other : ∀ a, Json.decode decoder (Text.guarded content) ≠ .ok a) : Refused fs p .serialization

theorem decodeJson_eq_ok {content : ByteArray} :
    decodeJson content = .ok a ↔ Json.decode decoder (Text.guarded content) = .ok a := by
  unfold decodeJson
  cases Json.decode decoder (Text.guarded content) with
  | error e => simp
  | ok b => simp

theorem decodeJson_of_ne {content : ByteArray} (h : ∀ a, Json.decode decoder (Text.guarded content) ≠ .ok a) :
    decodeJson content = .error .serialization := by
  unfold decodeJson
  cases hdecode : Json.decode decoder (Text.guarded content) with
  | error e => rfl
  | ok b => exact (h b hdecode).elim

/-- The content of a file decides what is loaded. -/
theorem load_of_content {content : ByteArray} (h : Content fs p content) : load fs p = decodeJson content := by
  cases h with
  | plain format read => simp only [load, format, read, decode]
  | packed format read gzip => simp only [load, format, read, decode, gzip]

/-- Without a content there is a refusal. -/
theorem content_or_refused (fs : Files) (p : Path) :
    (∃ content, Content fs p content) ∨ ∃ e, load fs p = .error e ∧ Refused fs p e := by
  cases hformat : Format.ofPath? p with
  | none => exact .inr ⟨_, by simp only [load, hformat], .noFormat hformat⟩
  | some f =>
    cases hread : fs.read p with
    | error e => exact .inr ⟨_, by simp only [load, hformat, hread], .unread hformat hread⟩
    | ok bytes =>
      cases f with
      | json => exact .inl ⟨bytes, .plain hformat hread⟩
      | binary =>
        cases hgzip : Gzip.decompress bytes with
        | error e => exact .inr ⟨_, by simp only [load, hformat, hread, decode, hgzip], .noGzip hformat hread hgzip⟩
        | ok content => exact .inl ⟨content, .packed hformat hread hgzip⟩

/-- **What is loaded** is what the content holds. -/
theorem load_eq_ok_iff : load fs p = .ok a ↔
    ∃ content, Content fs p content ∧ Json.decode decoder (Text.guarded content) = .ok a := by
  constructor
  · intro h
    obtain ⟨content, hcontent⟩ | ⟨e, he, -⟩ := content_or_refused fs p
    · rw [load_of_content hcontent] at h
      exact ⟨content, hcontent, decodeJson_eq_ok.1 h⟩
    · rw [he] at h
      cases h
  · rintro ⟨content, hcontent, h⟩
    rw [load_of_content hcontent]
    exact decodeJson_eq_ok.2 h

/-- **Why loading fails.** -/
theorem load_eq_error_iff {e : Failure} : load fs p = .error e ↔ Refused fs p e := by
  constructor
  · intro h
    obtain ⟨content, hcontent⟩ | ⟨e', he, hrefused⟩ := content_or_refused fs p
    · rw [load_of_content hcontent] at h
      have hother : ∀ a, Json.decode decoder (Text.guarded content) ≠ .ok a := by
        intro a ha
        rw [decodeJson_eq_ok.2 ha] at h
        cases h
      rw [decodeJson_of_ne hother, Except.error.injEq] at h
      exact h ▸ .noArtifact hcontent hother
    · rw [he, Except.error.injEq] at h
      exact h ▸ hrefused
  · intro h
    cases h with
    | noFormat format => simp only [load, format]
    | unread format read => simp only [load, format, read]
    | noGzip format read gzip => simp only [load, format, read, decode, gzip]
    | noArtifact holds other => rw [load_of_content holds, decodeJson_of_ne other]

theorem read_of_load (h : load fs p = .ok a) : ∃ bytes, fs.read p = .ok bytes := by
  obtain ⟨content, hcontent, -⟩ := load_eq_ok_iff.1 h
  cases hcontent with
  | plain format read => exact ⟨_, read⟩
  | packed format read gzip => exact ⟨_, read⟩

/-- What is loaded is there. -/
theorem pathExists_of_load (h : load fs p = .ok a) : fs.pathExists p = true := by
  obtain ⟨bytes, hread⟩ := read_of_load h
  exact Files.pathExists_of_read hread

/-- A directory is refused, whatever it is called. -/
theorem refused_of_isDirectory (h : fs.isDirectory p = true) : ∃ e, Refused fs p e := by
  have hread : ∀ bytes, fs.read p ≠ .ok bytes := by
    intro bytes hbytes
    obtain ⟨place, hplace, hentry⟩ := Files.read_eq_ok.1 hbytes
    obtain ⟨place', hplace', hdirectory⟩ := Files.isDirectory_iff.1 h
    rw [hplace, Except.ok.injEq] at hplace'
    subst hplace'
    simp [Files.isDirectoryAt, hentry] at hdirectory
  cases hload : load fs p with
  | error e => exact ⟨e, load_eq_error_iff.1 hload⟩
  | ok a =>
    obtain ⟨bytes, hbytes⟩ := read_of_load hload
    exact (hread bytes hbytes).elim

end Artifact

/-! ## Programs in place -/

theorem Program.load_of_load {fs : Files} {p : Path} {a : Artifact} (h : Artifact.load fs p = .ok a) :
    Program.load fs p = .ok a.program := by
  unfold Program.load
  rw [h]
  rfl

theorem Program.load_of_error {fs : Files} {p : Path} {e : Failure} (h : Artifact.load fs p = .error e) :
    Program.load fs p = .error e := by
  unfold Program.load
  rw [h]
  rfl

/-! ## Detectors -/

namespace Detector

variable {taxonomy : Taxonomy} {p : Path} {run : Run σ}

theorem withArtifact_none (taxonomy : Taxonomy) (run : Run σ) : withArtifact taxonomy none run = (base taxonomy, run) :=
  rfl

theorem withArtifact_of_missing (taxonomy : Taxonomy) (h : run.files.pathExists p = false) :
    withArtifact taxonomy (some p) run = (base taxonomy, run) := by
  unfold withArtifact
  rw [Audit.bind_apply, Audit.files_apply]
  simp only [h]
  rfl

theorem withArtifact_of_load {a : Artifact} (taxonomy : Taxonomy) (h : Artifact.load run.files p = .ok a) :
    withArtifact taxonomy (some p) run = (⟨a.program, true⟩, run) := by
  unfold withArtifact
  rw [Audit.bind_apply, Audit.files_apply]
  simp only [Artifact.pathExists_of_load h, Program.reload_of_ok (Program.load_of_load h)]
  rfl

theorem withArtifact_of_refused {e : Failure} (taxonomy : Taxonomy) (hexists : run.files.pathExists p = true)
    (h : Artifact.load run.files p = .error e) : withArtifact taxonomy (some p) run =
      (base taxonomy, { run with events := run.events ++ [.artifactLoadFailed p.text e.message] }) := by
  unfold withArtifact
  rw [Audit.bind_apply, Audit.files_apply]
  simp only [hexists, Program.reload_of_error (Program.load_of_error h)]
  rfl

theorem withArtifact_of_error {e : Failure} (taxonomy : Taxonomy) (h : Artifact.load run.files p = .error e) :
    (withArtifact taxonomy (some p) run).1 = base taxonomy := by
  cases hexists : run.files.pathExists p with
  | false => rw [withArtifact_of_missing taxonomy hexists]
  | true => rw [withArtifact_of_refused taxonomy hexists h]

/-- How a detector comes out of some files, and the events that tell of it. -/
inductive PicksUp (taxonomy : Taxonomy) (fs : Files) : Option Path → Detector → List Event → Prop
  | noPath : PicksUp taxonomy fs none (base taxonomy) []
  | missing {p : Path} (missing : fs.pathExists p = false) : PicksUp taxonomy fs (some p) (base taxonomy) []
  | loaded {p : Path} {a : Artifact} (there : fs.pathExists p = true) (loads : Artifact.load fs p = .ok a) :
      PicksUp taxonomy fs (some p) ⟨a.program, true⟩ []
  | refused {p : Path} {e : Failure} (there : fs.pathExists p = true) (fails : Artifact.load fs p = .error e) :
      PicksUp taxonomy fs (some p) (base taxonomy) [.artifactLoadFailed p.text e.message]

/-- Every detector comes out in one of these ways, and all that is left behind in the run is what is told of it. -/
theorem withArtifact_picksUp (taxonomy : Taxonomy) (path : Option Path) (run : Run σ) :
    ∃ d told, PicksUp taxonomy run.files path d told ∧
      withArtifact taxonomy path run = (d, { run with events := run.events ++ told }) := by
  have hsame : ({ run with events := run.events ++ [] } : Run σ) = run := by rw [List.append_nil]
  cases path with
  | none => exact ⟨_, _, .noPath, by rw [withArtifact_none, hsame]⟩
  | some p =>
    cases hexists : run.files.pathExists p with
    | false => exact ⟨_, _, .missing hexists, by rw [withArtifact_of_missing taxonomy hexists, hsame]⟩
    | true =>
      cases hload : Artifact.load run.files p with
      | ok a => exact ⟨_, _, .loaded hexists hload, by rw [withArtifact_of_load taxonomy hload, hsame]⟩
      | error e => exact ⟨_, _, .refused hexists hload, withArtifact_of_refused taxonomy hexists hload⟩

section PicksUp

variable {fs : Files} {path : Option Path} {d : Detector} {told : List Event} (h : PicksUp taxonomy fs path d told)
include h

theorem PicksUp.optimized_iff : d.optimized = true ↔
    ∃ p a, path = some p ∧ fs.pathExists p = true ∧ Artifact.load fs p = .ok a := by
  cases h with
  | noPath => simp [base]
  | missing missing => simp [base, missing]
  | loaded there loads => simp [there, loads]
  | refused there fails => simp [base, fails]

/-- An artifact that can be loaded is taken as a whole. -/
theorem PicksUp.eq_of_load {a : Artifact} (hpath : path = some p) (hload : Artifact.load fs p = .ok a) :
    d = ⟨a.program, true⟩ := by
  cases h with
  | noPath => cases hpath
  | missing missing =>
    cases hpath
    exact absurd (Artifact.pathExists_of_load hload) (by simp [missing])
  | loaded there loads =>
    cases hpath
    rw [loads, Except.ok.injEq] at hload
    rw [hload]
  | refused there fails =>
    cases hpath
    rw [fails] at hload
    cases hload

/-- What is not optimized is the base program. -/
theorem PicksUp.eq_base (hplain : d.optimized = false) : d = base taxonomy := by
  cases h with
  | loaded there loads => cases hplain
  | noPath | missing | refused => rfl

/-- What is there and cannot be loaded is told of. -/
theorem PicksUp.told_of_error {e : Failure} (hpath : path = some p) (hexists : fs.pathExists p = true)
    (hload : Artifact.load fs p = .error e) : told = [.artifactLoadFailed p.text e.message] := by
  cases h with
  | noPath => cases hpath
  | missing missing =>
    cases hpath
    exact absurd hexists (by simp [missing])
  | loaded there loads =>
    cases hpath
    rw [loads] at hload
    cases hload
  | refused there fails =>
    cases hpath
    rw [fails, Except.error.injEq] at hload
    rw [hload]

/-- Nothing else is told of. -/
theorem PicksUp.told_eq_nil
    (hnothing : ¬∃ p e, path = some p ∧ fs.pathExists p = true ∧ Artifact.load fs p = .error e) : told = [] := by
  cases h with
  | noPath | missing | loaded => rfl
  | refused there fails => exact absurd ⟨_, _, rfl, there, fails⟩ hnothing

end PicksUp

/-- **Only an artifact that is loaded is taken, and then as a whole.** Else the detector is that of the base program: no
part of what could not be loaded is in it. What is there and cannot be loaded is told of, in one warning; nothing else
is, and nothing else of the run changes. What is refused is known from the file (`Artifact.Refused`), and a program is
only replaced by one that was loaded. -/
theorem withArtifact_fallsBack (taxonomy : Taxonomy) (path : Option Path) (run : Run σ) :
    ∃ d told, withArtifact taxonomy path run = (d, { run with events := run.events ++ told }) ∧
      (d.optimized = true ↔
        ∃ p a, path = some p ∧ run.files.pathExists p = true ∧ Artifact.load run.files p = .ok a) ∧
      (∀ p a, path = some p → Artifact.load run.files p = .ok a →
        d = ⟨a.program, true⟩ ∧ d.program.taxonomy = a.program.taxonomy) ∧
      (d.optimized = false → d = base taxonomy) ∧
      (∀ p e, path = some p → run.files.pathExists p = true → Artifact.load run.files p = .error e →
        ∃ event, told = [event] ∧ event.level = .warn ∧ event.fields =
          [("event", .str "artifact.load_failed"), ("path", .str p.text), ("error", .str e.message)]) ∧
      ((¬∃ p e, path = some p ∧ run.files.pathExists p = true ∧ Artifact.load run.files p = .error e) → told = []) ∧
      (∀ p e, Artifact.load run.files p = .error e ↔ Artifact.Refused run.files p e) ∧
      (∀ p, run.files.isDirectory p = true → ∃ e, Artifact.Refused run.files p e) ∧
      ∀ p program,
        (∀ a, Artifact.load run.files p = .ok a →
          (Program.reload run.files p).run program = (.ok (), a.program)) ∧
        ∀ e, Artifact.load run.files p = .error e →
          (Program.reload run.files p).run program = (.error e, program) := by
  obtain ⟨d, told, hpicks, hrun⟩ := withArtifact_picksUp taxonomy path run
  refine ⟨d, told, hrun, hpicks.optimized_iff, fun p a hpath hload => ?_, hpicks.eq_base,
    fun p e hpath hexists hload => ?_, hpicks.told_eq_nil, fun p e => Artifact.load_eq_error_iff,
    fun p => Artifact.refused_of_isDirectory, fun p program => ⟨fun a hload => ?_, fun e hload => ?_⟩⟩
  · rw [hpicks.eq_of_load hpath hload]
    exact ⟨rfl, rfl⟩
  · rw [hpicks.told_of_error hpath hexists hload]
    exact ⟨_, rfl, rfl, rfl⟩
  · exact Program.reload_of_ok (Program.load_of_load hload) program
  · exact Program.reload_of_error (Program.load_of_error hload) program

/-- An artifact of another taxonomy, a directory with the name of one, and the start of one that was compressed. -/
def shelf : Files where
  entries :=
    [(["m.json"], .file (Artifact.odd.encode .json)), (["d.json"], .directory), (["cut.bin"], .file ⟨#[0x1F, 0x8B, 8]⟩)]
  here := []

theorem withArtifact_fallsBack_shelf :
    (∃ a, Artifact.load shelf ⟨"m.json"⟩ = .ok a ∧
      (withArtifact .hierarchical (some ⟨"m.json"⟩) (.start () shelf)).1 = ⟨Artifact.odd.program, true⟩) ∧
    (shelf.isDirectory ⟨"d.json"⟩ = true ∧ ∃ e, Artifact.Refused shelf ⟨"d.json"⟩ e) ∧
    Artifact.load shelf ⟨"cut.bin"⟩ = .error (.io .gzipShort) ∧
    (withArtifact .hierarchical (some ⟨"cut.bin"⟩) (.start () shelf)).1 = base .hierarchical ∧
    (withArtifact .hierarchical (some ⟨"cut.bin"⟩) (.start () shelf)).2.events.map Event.level = [.warn] := by
  have hexists : shelf.pathExists ⟨"cut.bin"⟩ = true := by decide +kernel
  have hread : shelf.read ⟨"cut.bin"⟩ = .ok ⟨#[0x1F, 0x8B, 8]⟩ := rfl
  have hcut : Artifact.load shelf ⟨"cut.bin"⟩ = .error (.io .gzipShort) :=
    Artifact.load_eq_error_iff.2 (.noGzip (by decide +kernel) hread (by decide +kernel))
  have hdirectory : shelf.isDirectory ⟨"d.json"⟩ = true := by decide +kernel
  refine ⟨?_, ?_, hcut, ?_⟩
  · obtain ⟨a, hdecode, hkept⟩ := Artifact.exists_kept (a := Artifact.odd) (by decide) .json
    have hload : Artifact.load shelf ⟨"m.json"⟩ = .ok a := hdecode
    obtain ⟨d, told, hrun, -, htaken, -⟩ := withArtifact_fallsBack .hierarchical (some ⟨"m.json"⟩) (.start () shelf)
    rw [hrun, ← hkept.program]
    exact ⟨a, hload, (htaken _ a rfl hload).1⟩
  · obtain ⟨-, -, -, -, -, -, -, -, -, hrefused, -⟩ :=
      withArtifact_fallsBack .hierarchical (some ⟨"d.json"⟩) (.start () shelf)
    exact ⟨hdirectory, hrefused _ hdirectory⟩
  · obtain ⟨d, told, hrun, hopt, -, hbase, htold, -⟩ :=
      withArtifact_fallsBack .hierarchical (some ⟨"cut.bin"⟩) (.start () shelf)
    obtain ⟨event, rfl, hlevel, -⟩ := htold _ _ rfl hexists hcut
    have hplain : d.optimized = false := by
      refine Bool.eq_false_iff.2 fun h => ?_
      obtain ⟨p, a, hp, -, hload⟩ := hopt.1 h
      cases hp
      rw [show (Run.start () shelf).files = shelf from rfl, hcut] at hload
      cases hload
    rw [hrun]
    exact ⟨hbase hplain, congrArg (fun level => [level]) hlevel⟩

end Detector
end SnippetAudit
