import SnippetAudit.Backend.Script
import SnippetAudit.Service.Basic
import SnippetAudit.Proofs.Backend.Logged
import SnippetAudit.Proofs.Files.Path

/-!
# Requests stay among the models

A request may name an artifact by a path below the directory of models. Which texts are such paths can be read off
their segments (`Plain`). Such a path is joined to the directory, and its components are those of the directory with the
names of the text behind them (`components_of_confine`); for any other text the request is refused, and nothing is asked
of the backend (`answer_of_refused`). The two together are `confine_stays`.
-/

namespace SnippetAudit.Service

variable {σ : Type}

/-- The parts of a text between its slashes. -/
def segmentsOf (requested : String) : List (List Char) := requested.toList.splitOn '/'

/-- A text that names something below a directory: a relative path that does not start with a `.` of its own, does not
go up, and has a name. -/
def Plain (requested : String) : Prop :=
  requested.toList.head? ≠ some '/' ∧ (segmentsOf requested).head? ≠ some ['.'] ∧ ['.', '.'] ∉ segmentsOf requested ∧
    ∃ s ∈ segmentsOf requested, s ≠ [] ∧ s ≠ ['.']

instance (requested : String) : Decidable (Plain requested) := inferInstanceAs (Decidable (_ ∧ _ ∧ _ ∧ _))

/-- The names of a text, in their order. -/
def namesOf (requested : String) : List String :=
  ((segmentsOf requested).filter fun s => s ≠ [] ∧ s ≠ ['.']).map String.ofList

/-! ## Components of a text -/

section Components

variable {requested : String}

theorem segments_eq (requested : String) : (⟨requested⟩ : Path).segments = segmentsOf requested :=
  Text.splitAt_eq_splitOn '/' requested.toList

/-- Without a way up, every component is a name. -/
theorem filterMap_ofSegment? {segments : List (List Char)} (h : ['.', '.'] ∉ segments) :
    segments.filterMap Path.Component.ofSegment? =
      ((segments.filter fun s => s ≠ [] ∧ s ≠ ['.']).map String.ofList).map .name := by
  induction segments with
  | nil => rfl
  | cons s segments ih =>
    rw [List.mem_cons, not_or] at h
    by_cases hs : s = [] ∨ s = ['.']
    · have hnone : Path.Component.ofSegment? s = none := if_pos hs
      have hfilter : ¬(s ≠ [] ∧ s ≠ ['.']) := by tauto
      rw [List.filterMap_cons_none hnone, ih h.2, List.filter_cons_of_neg (by simpa using hfilter)]
    · have hsome : Path.Component.ofSegment? s = some (.name (String.ofList s)) := by
        rw [Path.Component.ofSegment?, if_neg hs, if_neg (Ne.symm h.1)]
      have hfilter : s ≠ [] ∧ s ≠ ['.'] := by tauto
      rw [List.filterMap_cons_some hsome, ih h.2, List.filter_cons_of_pos (by simpa using hfilter)]
      rfl

theorem up_mem_parts (h : ['.', '.'] ∈ segmentsOf requested) :
    Path.Component.up ∈ (⟨requested⟩ : Path).parts := by
  rw [Path.parts, segments_eq]
  exact List.mem_filterMap.2 ⟨_, h, rfl⟩

theorem namesOf_ne_nil : namesOf requested ≠ [] ↔ ∃ s ∈ segmentsOf requested, s ≠ [] ∧ s ≠ ['.'] := by
  rw [namesOf, ne_eq, List.map_eq_nil_iff, List.filter_eq_nil_iff]
  simp

/-- A plain text is a relative path of names. -/
theorem Plain.components (h : Plain requested) :
    (⟨requested⟩ : Path).components = (namesOf requested).map .name := by
  obtain ⟨hroot, hhere, hup, -⟩ := h
  have hrelative : (⟨requested⟩ : Path).isAbsolute = false := by simpa [Path.isAbsolute] using hroot
  rw [Path.components_eq, hrelative, if_neg Bool.false_ne_true, Path.parts, segments_eq, if_neg hhere,
    filterMap_ofSegment? hup]
  rfl

/-- A path of names, with one at least, is a plain text. -/
theorem plain_of_components (hne : (⟨requested⟩ : Path).components ≠ [])
    (hnames : ∀ c ∈ (⟨requested⟩ : Path).components, ∃ s, c = .name s) : Plain requested := by
  rw [Path.components_eq] at hne hnames
  have hroot : requested.toList.head? ≠ some '/' := by
    intro h
    have habsolute : (⟨requested⟩ : Path).isAbsolute = true := by simpa [Path.isAbsolute] using h
    obtain ⟨s, hs⟩ := hnames .root (by simp [habsolute])
    cases hs
  have hrelative : (⟨requested⟩ : Path).isAbsolute = false := by simpa [Path.isAbsolute] using hroot
  have hhere : (segmentsOf requested).head? ≠ some ['.'] := by
    intro h
    obtain ⟨s, hs⟩ := hnames .here (by simp [hrelative, segments_eq, h])
    cases hs
  have hup : ['.', '.'] ∉ segmentsOf requested := by
    intro h
    obtain ⟨s, hs⟩ := hnames .up (List.mem_append_right _ (up_mem_parts h))
    cases hs
  refine ⟨hroot, hhere, hup, namesOf_ne_nil.1 ?_⟩
  intro hnone
  apply hne
  rw [hrelative, if_neg Bool.false_ne_true, segments_eq, if_neg hhere, Path.parts, segments_eq,
    filterMap_ofSegment? hup]
  simpa [namesOf] using hnone

end Components

/-! ## What is accepted -/

/-- **The plain texts are accepted**, and no others. -/
theorem confine_eq (models : Path) (requested : String) :
    confine models requested = if Plain requested then some (models.join ⟨requested⟩) else none := by
  unfold confine
  by_cases h : Plain requested
  · have hne : namesOf requested ≠ [] := namesOf_ne_nil.2 h.2.2.2
    simp [h, h.components, hne]
  · rw [if_neg h, if_pos]
    by_contra hnames
    simp only [Bool.or_eq_true, not_or, List.isEmpty_iff, Bool.not_eq_true', Bool.not_eq_false,
      List.all_eq_true] at hnames
    refine h (plain_of_components hnames.1 fun c hc => ?_)
    have := hnames.2 c hc
    cases c with
    | name s => exact ⟨s, rfl⟩
    | root => cases this
    | here => cases this
    | up => cases this

/-- **An accepted path stays below the directory.** -/
theorem components_of_confine {models path : Path} {requested : String} (h : confine models requested = some path) :
    path.components = models.components ++ (namesOf requested).map .name ∧ namesOf requested ≠ [] := by
  rw [confine_eq] at h
  by_cases hplain : Plain requested
  · rw [if_pos hplain, Option.some.injEq] at h
    have hrelative : (⟨requested⟩ : Path).isAbsolute = false := by simpa [Path.isAbsolute] using hplain.1
    have hhere : (⟨requested⟩ : Path).segments.head? ≠ some ['.'] := by
      rw [segments_eq]
      exact hplain.2.1
    refine ⟨?_, namesOf_ne_nil.2 hplain.2.2.2⟩
    rw [← h, Path.components_join hrelative hhere, hplain.components]
  · rw [if_neg hplain] at h
    cases h

/-! ## What is refused -/

/-- A body of the right type and size is read as what it says. -/
theorem readBody_of_decode? {α : Type} {d : Json.Decoder α} {r : Request} {a : α} (htype : r.isJson = true)
    (hsize : r.body.utf8ByteSize ≤ bodyLimit) (h : Json.decode? d r.body = some a) : readBody d r = .ok a := by
  have hnotLong : ¬bodyLimit < r.body.utf8ByteSize := Nat.not_lt.2 hsize
  have hdecode : Json.decode d r.body.toList = .ok a := by
    unfold Json.decode? at h
    cases hresult : Json.decode d r.body.toList with
    | error fault => rw [hresult] at h; cases h
    | ok b => rw [hresult] at h; cases h; rfl
  unfold readBody
  simp only [htype, Bool.not_true, Bool.false_eq_true, if_false, if_neg hnotLong, hdecode]

/-- The answer to a request that names something else. -/
def refusal (requested : String) : Response :=
  detail 400 ("model_path must be a relative path inside the models directory: " ++ requested)

/-- **A refused request changes nothing**, the backend included. -/
theorem answer_of_refused (B : Backend σ) {s : Service} {r : Request} {code requested : String}
    (hmethod : r.method = "POST") (hpath : r.path = "/detect")
    (hbody : readBody Inquiry.decoder r = .ok ⟨code, some requested⟩) (h : confine s.models requested = none)
    (run : Run σ) : s.answer B r run = (refusal requested, run) := by
  have hendpoint : answerEndpoint B s r .detect run = (refusal requested, run) := by
    simp only [answerEndpoint, hbody, answerDetect, detectorFor, h]
    rfl
  have hdetect : Endpoint.ofPath? r.path = some .detect := by
    rw [hpath]
    decide
  simp only [answer, hdetect, hmethod]
  rw [if_neg (by decide), if_neg (by decide), Audit.bind_apply, hendpoint]
  rfl

/-- **Requests stay among the models.** A path is accepted exactly when it is plain, and then leads from the directory
through names alone. A detection with any other path is refused with status 400, and no prompt is sent. -/
theorem confine_stays (models : Path) (requested : String) :
    ((confine models requested).isSome = true ↔
      requested.toList.head? ≠ some '/' ∧ (segmentsOf requested).head? ≠ some ['.'] ∧
        ['.', '.'] ∉ segmentsOf requested ∧ ∃ s ∈ segmentsOf requested, s ≠ [] ∧ s ≠ ['.']) ∧
    (∀ path, confine models requested = some path →
      path.components = models.components ++ (namesOf requested).map .name ∧ namesOf requested ≠ []) ∧
    (∀ {σ : Type} (B : Backend σ) (detector : Detector) (r : Request) (code : String) (run : Run σ),
      r.method = "POST" → r.path = "/detect" → readBody Inquiry.decoder r = .ok ⟨code, some requested⟩ →
      confine models requested = none →
      (answer B ⟨detector, models⟩ r run).1.status = 400 ∧ (answer B ⟨detector, models⟩ r run).2 = run ∧
      (answer (B.logged Prod.mk) ⟨detector, models⟩ r run.unlogged).2.log = []) := by
  refine ⟨?_, fun path => components_of_confine, ?_⟩
  · rw [confine_eq]
    by_cases h : Plain requested
    · rw [if_pos h]
      exact iff_of_true rfl h
    · rw [if_neg h]
      exact iff_of_false Bool.false_ne_true h
  · intro σ B detector r code run hmethod hpath hbody h
    have hanswer := answer_of_refused (s := ⟨detector, models⟩) B hmethod hpath hbody h run
    have hlogged := answer_of_refused (s := ⟨detector, models⟩) (B.logged Prod.mk) hmethod hpath hbody h run.unlogged
    rw [hanswer, hlogged]
    exact ⟨rfl, rfl, Run.log_unlogged run⟩

/-- A path that goes up and one that does not, through a request with the former. -/
theorem confine_stays_upwards :
    confine ⟨"models"⟩ "c//./prod.json" = some ⟨"models/c//./prod.json"⟩ ∧
    (Path.components ⟨"models/c//./prod.json"⟩ = Path.components ⟨"models"⟩ ++ [.name "c", .name "prod.json"]) ∧
    let r : Request :=
      ⟨"POST", "/detect", some "application/json", "\x7b\"code\": \"x\", \"model_path\": \"c/../../key.json\"\x7d"⟩
    let s : Service := ⟨.base .hierarchical, ⟨"models"⟩⟩
    let run := Run.start ⟨[], fun _ => none, [], some (Script.markedReply "False" "[]"), []⟩ .empty
    (answer Script.backend s r run).1.status = 400 ∧ (answer Script.backend s r run).2 = run ∧
      (answer (Script.backend.logged Prod.mk) s r run.unlogged).2.log = [] := by
  have haccepted : confine ⟨"models"⟩ "c//./prod.json" = some ⟨"models/c//./prod.json"⟩ := by decide +kernel
  have hrefused : confine ⟨"models"⟩ "c/../../key.json" = none := by decide +kernel
  refine ⟨haccepted, ?_, ?_⟩
  · exact ((confine_stays ⟨"models"⟩ "c//./prod.json").2.1 _ haccepted).1
  · intro r s run
    have hbody : readBody Inquiry.decoder r = .ok ⟨"x", some "c/../../key.json"⟩ :=
      readBody_of_decode? (by decide +kernel) (by decide +kernel) (by decide +kernel)
    exact (confine_stays ⟨"models"⟩ "c/../../key.json").2.2 Script.backend s.detector r "x" run rfl (by decide +kernel)
      hbody hrefused

end SnippetAudit.Service
