import SnippetAudit.Verdict
import SnippetAudit.Proofs.Json.Compact
import SnippetAudit.Proofs.Reply.Fence
import Mathlib

/-!
# Completions that are JSON

A completion that is a JSON text behind its fence has no sections, so it is read by its members
(`ofCompletion_of_textOf`). A member that is no string is printed and read a second time. Its findings are those of
the member itself, since they hold no double (`Findings.ofText_compact`), and the print says yes for true and for one
only (`Verdict.saysYes_compact`); `ofCompletion_member` puts the two together.

A fence around a JSON text that has neither of the two members is not taken away: `ofCompletion_fencedBy` says which
texts keep their findings in a fence.
-/

namespace SnippetAudit

open Text (trim)

/-! ## Findings without doubles -/

/-- A double is no line number. -/
theorem Finding.line?_withoutReals (v : Json) : line? v.withoutReals = line? v := by
  cases v with
  | num n => cases n <;> rfl
  | null | bool | str | arr | obj => rfl

theorem Json.bind_member?_withoutReals {α : Type} {f : Json → Option α} (hf : ∀ v : Json, f v.withoutReals = f v)
    (name : String) (v : Json) : (v.withoutReals.member? name >>= f) = (v.member? name >>= f) := by
  rw [member?_withoutReals]
  cases v.member? name with
  | none => rfl
  | some m => exact hf m

theorem Finding.ofJson?_withoutReals (v : Json) : ofJson? v.withoutReals = ofJson? v := by
  cases v with
  | num n => cases n <;> rfl
  | null | bool | str | arr => rfl
  | obj ms =>
    have hline := Json.bind_member?_withoutReals line?_withoutReals "line_number" (.obj ms)
    have hstring := fun name => Json.bind_member?_withoutReals Json.asString?_withoutReals name (.obj ms)
    rw [Json.withoutReals] at hline hstring ⊢
    rw [ofJson?, ofJson?, hline, hstring, hstring, hstring]

/-- **The findings of a value do not depend on its doubles.** -/
theorem Findings.ofJson_withoutReals (v : Json) : ofJson v.withoutReals = ofJson v := by
  have hcomp : Finding.ofJson? ∘ Json.withoutReals = Finding.ofJson? := funext Finding.ofJson?_withoutReals
  rw [ofJson, ofJson, Json.member?_withoutReals]
  cases v.member? "bugs" with
  | none => rfl
  | some d =>
    simp only [Option.map_some, Option.bind_eq_bind, Option.bind_some, Json.asArray?_withoutReals]
    cases d.asArray? with
    | none => rfl
    | some items => simp only [Option.map_some, Option.getD_some, List.filterMap_map, hcomp]

/-- **A value is printed with its findings.** -/
theorem Findings.ofText_compact {v : Json} (h : v.Readable Json.depthLimit) : ofText v.compact = ofJson v := by
  obtain ⟨v', hv', he⟩ := h.parse?_compact
  rw [ofText, hv']
  show ofJson v' = ofJson v
  rw [← ofJson_withoutReals v', he, ofJson_withoutReals]

/-! ## Texts that say yes -/

namespace Verdict

/-- What is no capital letter stays as it is in lower case. -/
theorem toLower_eq {c : Char} (h : c.isUpper = false) : c.toLower = c := dif_neg (of_decide_eq_false h)

theorem isUpper_of_isDigit {c : Char} (h : c.isDigit = true) : c.isUpper = false := by
  simp only [Char.isDigit, Bool.and_eq_true, decide_eq_true_eq] at h
  have hle : c.val ≤ 57 := h.2
  refine decide_eq_false fun hupper => ?_
  have hge : 65 ≤ c.val := hupper.1
  rw [UInt32.le_iff_toNat_le] at hle hge
  exact absurd (Nat.le_trans hge hle) (by decide)

theorem saysYes_iff {s : List Char} : saysYes (String.ofList s) = true ↔
    s.map Char.toLower = ['t', 'r', 'u', 'e'] ∨ s.map Char.toLower = ['y', 'e', 's'] ∨ s.map Char.toLower = ['1'] := by
  simp [saysYes, Text.lowered, String.ofList_eq, or_assoc]

/-- A number says yes only when it is written `1`. -/
theorem eq_one_of_saysYes {n : Json.Numeral} {w : List Char} (h : n.Spelled w)
    (hyes : saysYes (String.ofList w) = true) : w = ['1'] := by
  obtain ⟨c, r, rfl, hc⟩ := h.exists_cons
  have hlower : c.toLower = c := by
    rcases hc with rfl | hc
    · rfl
    · exact toLower_eq (isUpper_of_isDigit hc)
  rw [saysYes_iff, List.map_cons, hlower] at hyes
  rcases hyes with hyes | hyes | hyes
  · obtain ⟨rfl, -⟩ := List.cons.inj hyes
    rcases hc with hc | hc <;> cases hc
  · obtain ⟨rfl, -⟩ := List.cons.inj hyes
    rcases hc with hc | hc <;> cases hc
  · obtain ⟨rfl, hr⟩ := List.cons.inj hyes
    rw [List.map_eq_nil_iff.1 hr]

/-- **Of all JSON texts, only those of true and of one say yes.** -/
theorem tree_of_saysYes {t : Json.Tree} {w : List Char} (h : Json.Spells (.value t) w)
    (hyes : saysYes (String.ofList w) = true) : t = .bool true ∨ t = .num (some (.whole 1)) := by
  cases h with
  | yes => exact Or.inl rfl
  | @num n _ hn =>
    obtain rfl := eq_one_of_saysYes hn hyes
    have hread := Json.numeral?_of_spelled hn Json.NumeralEnd.nil
    have hone : Json.numeral? (['1'] ++ []) = some (⟨false, ['1'], [], none⟩, []) := by decide
    rw [hone] at hread
    obtain ⟨rfl, -⟩ := Prod.mk.inj (Option.some.inj hread)
    exact Or.inr rfl
  | null | no | str | noItems | arr | noMembers | obj =>
    rw [saysYes_iff] at hyes
    rcases hyes with hyes | hyes | hyes <;> cases hyes

theorem saysYes_compact {depth : Nat} {v : Json} (h : v.Readable depth) :
    saysYes v.compact = true ↔ v = .bool true ∨ v = .num (.whole 1) := by
  constructor
  · intro hyes
    have ht := tree_of_saysYes (Json.spells_compact v) hyes
    cases h with
    | null | str | arr | obj => rcases ht with ht | ht <;> cases ht
    | bool b =>
      rcases ht with ht | ht
      · exact Or.inl (by rw [Json.Tree.bool.inj ht])
      · cases ht
    | @whole _ n hn =>
      rw [Json.printed, Json.Num.printed, Json.Num.number?_whole hn] at ht
      rcases ht with ht | ht
      · cases ht
      · cases ht
        exact Or.inr rfl
    | real x =>
      rw [Json.printed] at ht
      rcases Json.Num.printed_real x with ⟨-, y, hy⟩ | ⟨-, hnull⟩
      · rw [hy] at ht
        rcases ht with ht | ht <;> cases ht
      · rw [hnull] at ht
        rcases ht with ht | ht <;> cases ht
  · rintro (rfl | rfl)
    · decide
    · decide

end Verdict

namespace Reply

/-! ## Without sections -/

theorem ofCompletion_of_unmarked {completion : String} (h : Unmarked completion.toList) :
    ofCompletion completion = ofPlainText completion.toList := by
  have hsplit := Section.split_append h []
  rw [List.append_nil] at hsplit
  rw [ofCompletion, Section.ofText, hsplit]
  rfl

/-- **A JSON completion is read by its members**, or as it is where it has none of them. -/
theorem ofCompletion_of_textOf {completion : String} {t : Json.Tree} (h : Json.TextOf t (unfenced completion.toList)) :
    ofCompletion completion = ((t.json? Json.depthLimit).bind ofJson?).getD
      { reasoning := none, hasBug := "", details := Text.trimmed completion } := by
  rw [ofCompletion_of_unmarked (unmarked_of_unfenced h), ofPlainText, Json.parseChars?_of_textOf h]
  rfl

theorem ofJson?_eq (v : Json) : ofJson? v =
    if (v.member? "has_bug").isSome || (v.member? "bug_details").isSome then
      some
        { reasoning := v.member? "reasoning" >>= Json.asString?
          hasBug := memberText id (v.member? "has_bug")
          details := memberText unfencedString (v.member? "bug_details") }
    else none := by
  cases v with
  | null | bool | num | str | arr | obj => rfl

/-! ## Members that are no strings -/

theorem memberText_compact {v : Json} (hstring : ∀ s, v ≠ .str s) (hnull : v ≠ .null) (onString : String → String) :
    memberText onString (some v) = v.compact := by
  cases v with
  | null => exact absurd rfl hnull
  | str s => exact absurd rfl (hstring s)
  | bool | num | arr | obj => rfl

/-- **The claim of a member**: true, one, or a string that says yes. -/
theorem saysYes_memberText {depth : Nat} {o : Option Json} (h : ∀ v, o = some v → v.Readable depth) :
    Verdict.saysYes (memberText id o) = true ↔
      o = some (.bool true) ∨ o = some (.num (.whole 1)) ∨ ∃ s, o = some (.str s) ∧ Verdict.saysYes s = true := by
  cases o with
  | none => simp [memberText, show Verdict.saysYes "" = false by decide]
  | some v =>
    by_cases hnull : v = .null
    · subst hnull
      simp [memberText, show Verdict.saysYes "" = false by decide]
    by_cases hstring : ∃ s, v = .str s
    · obtain ⟨s, rfl⟩ := hstring
      simp [memberText]
    have hnot : ∀ s, v ≠ .str s := fun s hs => hstring ⟨s, hs⟩
    rw [memberText_compact hnot hnull, Verdict.saysYes_compact (h v rfl)]
    simp [hnot]

/-- **A completion with structured details is read as what it says.** -/
theorem ofCompletion_member {completion : String} {v details : Json}
    (hparse : Json.parseChars? (unfenced completion.toList) = some v)
    (hmember : v.member? "bug_details" = some details) (hstring : ∀ s, details ≠ .str s) (hnull : details ≠ .null) :
    (Verdict.ofCompletion completion).findings =
        .listed (((details.member? "bugs" >>= Json.asArray?).getD []).filterMap Finding.ofJson?) ∧
      (Verdict.ofCompletion completion).isDegraded = false ∧
      ((Verdict.ofCompletion completion).hasBug = true ↔
        v.member? "has_bug" = some (.bool true) ∨ v.member? "has_bug" = some (.num (.whole 1)) ∨
          ∃ s, v.member? "has_bug" = some (.str s) ∧ Verdict.saysYes s = true) := by
  obtain ⟨t, ht, hv⟩ := Json.parseChars?_eq_some.1 hparse
  have hread := Json.readable_of_parse? hparse
  have hreply : ofCompletion completion =
      { reasoning := v.member? "reasoning" >>= Json.asString?
        hasBug := memberText id (v.member? "has_bug")
        details := details.compact } := by
    rw [ofCompletion_of_textOf ht, hv, Option.bind_some, ofJson?_eq, hmember, memberText_compact hstring hnull]
    simp
  have hfindings : (Verdict.ofCompletion completion).findings = .ofJson details := by
    rw [Verdict.ofCompletion, hreply]
    exact Findings.ofText_compact (hread.member? hmember)
  refine ⟨hfindings, ?_, ?_⟩
  · rw [Verdict.isDegraded, hfindings]
    rfl
  · rw [Verdict.ofCompletion, hreply]
    exact saysYes_memberText fun m hm => hread.member? hm

/-- A fenced completion whose claim is the number one, with a finding and what is none. -/
theorem ofCompletion_member_fenced :
    (Verdict.ofCompletion (fencedBy "json"
        ("\x7b\"has_bug\": 1, \"bug_details\": " ++
          "\x7b\"bugs\": [\x7b\"line_number\": 7, \"bug_type_id\": \"C.3\"\x7d, []]\x7d\x7d"))).findings =
      .listed [⟨some 7, none, some "C.3", none⟩] :=
  (@ofCompletion_member _
    (.obj [("bug_details", .obj [("bugs", .arr
      [.obj [("bug_type_id", .str "C.3"), ("line_number", .num (.whole 7))], .arr []])]), ("has_bug", .num (.whole 1))])
    (.obj [("bugs", .arr [.obj [("bug_type_id", .str "C.3"), ("line_number", .num (.whole 7))], .arr []])])
    (by cbv) rfl (by rintro s ⟨⟩) (by rintro ⟨⟩)).1

/-! ## A fence around the whole -/

/-- A text with a member that carries a field. -/
def Carries (text : String) : Prop :=
  (Json.parse? text).any (fun v => (v.member? "has_bug").isSome || (v.member? "bug_details").isSome) = true

instance (text : String) : Decidable (Carries text) :=
  inferInstanceAs (Decidable (Option.any _ _ = true))

theorem carries_iff {t : Json.Tree} {text : String} (h : Json.TextOf t text.toList) :
    Carries text ↔ ((t.json? Json.depthLimit).bind ofJson?).isSome = true := by
  rw [Carries, Json.parse?, Json.parseChars?_of_textOf h]
  cases t.json? Json.depthLimit with
  | none => rfl
  | some v =>
    rw [Option.bind_some, ofJson?_eq, Option.any_some]
    split
    · next hfields => simp [hfields]
    · next hfields => simp [hfields]

/-- A JSON text does not start with a fence. -/
theorem trim_ne_fencedBy {t : Json.Tree} {s : List Char} (h : Json.TextOf t s) (tag text : String) :
    trim s ≠ (fencedBy tag text).toList := by
  intro he
  have hw := h.trim
  rw [he, toList_fencedBy] at hw
  obtain ⟨c, r, hcons, hc⟩ := hw.exists_cons
  obtain ⟨rfl, -⟩ := List.cons.inj hcons
  cases hc

theorem ofText_fencedBy (tag text : String) : Findings.ofText (fencedBy tag text) = .unread (fencedBy tag text) := by
  have hparse : Json.parse? (fencedBy tag text) = none := by
    refine Option.eq_none_iff_forall_ne_some.2 fun v hv => ?_
    obtain ⟨t, ht, -⟩ := Json.parseChars?_eq_some.1 hv
    exact trim_ne_fencedBy ht tag text (trim_fencedBy tag text)
  rw [Findings.ofText, hparse]

theorem ofText_ne_fencedBy {t : Json.Tree} {text : String} (h : Json.TextOf t text.toList) (tag text' : String) :
    Findings.ofText (Text.trimmed text) ≠ .unread (fencedBy tag text') := by
  intro he
  rw [Findings.ofText] at he
  split at he
  · cases he
  · have htext := congrArg String.toList (Findings.unread.inj he)
    rw [Text.trimmed, String.toList_ofList] at htext
    exact trim_ne_fencedBy h tag text' htext

/-- **A fence around a JSON text** changes neither the claim nor the reasoning. The findings stay where the text has
one of the two members; elsewhere the whole text counts as the details, and the fence hides what is in it. -/
theorem ofCompletion_fencedBy {tag text : String} {t : Json.Tree} (htag : FenceTag tag)
    (htext : Json.TextOf t text.toList) :
    (Verdict.ofCompletion (fencedBy tag text)).hasBug = (Verdict.ofCompletion text).hasBug ∧
      (Verdict.ofCompletion (fencedBy tag text)).reasoning = (Verdict.ofCompletion text).reasoning ∧
      ((Verdict.ofCompletion (fencedBy tag text)).findings = (Verdict.ofCompletion text).findings ↔ Carries text) ∧
      (¬ Carries text →
        (Verdict.ofCompletion (fencedBy tag text)).findings = .unread (fencedBy tag text) ∧
          (Verdict.ofCompletion text).findings = .ofText (Text.trimmed text)) := by
  have hreply := ofCompletion_of_textOf (unfenced_of_textOf htext ▸ htext.trim.textOf)
  have hreply' := ofCompletion_of_textOf (unfenced_fencedBy htag text ▸ htext.trim.textOf)
  have htrim : Text.trimmed (fencedBy tag text) = fencedBy tag text := by
    rw [Text.trimmed, trim_fencedBy, String.ofList_toList]
  rw [carries_iff htext]
  simp only [Verdict.ofCompletion, Verdict.ofReply, hreply, hreply', htrim]
  -- from here on the two replies differ only where there is no member to read
  cases (t.json? Json.depthLimit).bind ofJson? with
  | some reply => simp
  | none =>
    have hne := ofText_ne_fencedBy htext tag text
    simp only [Option.getD_none, Option.isSome_none, Bool.false_eq_true, not_false_eq_true, true_implies, iff_false,
      ofText_fencedBy, true_and, and_true]
    exact Ne.symm hne

/-- An answer keeps its claim and its findings in a fence. -/
theorem ofCompletion_fencedBy_answer :
    (Verdict.ofCompletion (fencedBy "json" "\x7b\"has_bug\": \"Yes\", \"bug_details\": []\x7d\n")).hasBug =
        (Verdict.ofCompletion "\x7b\"has_bug\": \"Yes\", \"bug_details\": []\x7d\n").hasBug ∧
      (Verdict.ofCompletion (fencedBy "json" "\x7b\"has_bug\": \"Yes\", \"bug_details\": []\x7d\n")).findings =
        (Verdict.ofCompletion "\x7b\"has_bug\": \"Yes\", \"bug_details\": []\x7d\n").findings := by
  have hparse : (Json.parse? "\x7b\"has_bug\": \"Yes\", \"bug_details\": []\x7d\n").isSome = true := by decide +kernel
  obtain ⟨v, hv⟩ := Option.isSome_iff_exists.1 hparse
  obtain ⟨t, ht, -⟩ := Json.parseChars?_eq_some.1 hv
  have h := ofCompletion_fencedBy (by decide : FenceTag "json") ht
  exact ⟨h.1, h.2.2.1.2 (by decide +kernel)⟩

/-- A list of findings alone loses them in a fence. -/
theorem ofCompletion_fencedBy_bugs :
    FenceTag "json" ∧ (Json.parse? "\x7b\"bugs\": [\x7b\"bug_type_id\": \"C.3\"\x7d]\x7d").isSome = true ∧
      (Verdict.ofCompletion "\x7b\"bugs\": [\x7b\"bug_type_id\": \"C.3\"\x7d]\x7d").findings =
        .listed [⟨none, none, some "C.3", none⟩] ∧
      (Verdict.ofCompletion (fencedBy "json" "\x7b\"bugs\": [\x7b\"bug_type_id\": \"C.3\"\x7d]\x7d")).isDegraded =
        true := by
  decide +kernel

end Reply
end SnippetAudit
