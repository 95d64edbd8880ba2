import SnippetAudit.Proofs.Reply.Plain
import SnippetAudit.Proofs.Reply.Transport

/-!
# The two forms of a reply

Three texts can be sent as the sections of a completion or as the string members of a JSON object. The findings are
the same in either form. The claim and the reasoning are trimmed in a section only, and a blank reasoning counts as
none there only: `ofCompletion_forms` says which texts come out alike.
-/

namespace SnippetAudit

open Text (trim)

/-- A text that says yes has no blanks around it. -/
theorem Verdict.trimmed_of_saysYes {s : String} (h : saysYes s = true) : Text.trimmed s = s := by
  rw [← String.ofList_toList (s := s), saysYes_iff] at h
  have hlower : Text.Word (s.toList.map Char.toLower) := by
    rcases h with h | h | h
    all_goals
      rw [h]
      decide
  have hword : Text.Word s.toList := by
    intro c hc
    refine Bool.eq_false_iff.2 fun hblank => ?_
    have hnot := hlower c.toLower (List.mem_map_of_mem hc)
    rw [toLower_eq (Text.isUpper_of_isBlank hblank), hblank] at hnot
    cases hnot
  rw [Text.trimmed, hword.trim_eq, String.ofList_toList]

namespace Reply

/-- A completion with the three texts as string members. -/
theorem ofCompletion_strings {completion reasoning hasBug details : String} {v : Json}
    (hparse : Json.parse? completion = some v) (hreasoning : v.member? "reasoning" = some (.str reasoning))
    (hhasBug : v.member? "has_bug" = some (.str hasBug)) (hdetails : v.member? "bug_details" = some (.str details)) :
    ofCompletion completion = { reasoning := some reasoning, hasBug := hasBug, details := unfencedString details } := by
  obtain ⟨t, ht, hv⟩ := Json.parseChars?_eq_some.1 hparse
  rw [ofCompletion_of_textOf (unfenced_of_textOf ht ▸ ht.trim.textOf), hv, Option.bind_some, ofJson?_eq, hreasoning,
    hhasBug, hdetails]
  rfl

/-- A reasoning comes out of its section as it is when there is nothing to trim. -/
theorem reasoning_eq_some {s : String} :
    ((some (trim s.toList)).filter (!·.isEmpty)).map String.ofList = some s ↔ s ≠ "" ∧ Text.trimmed s = s := by
  by_cases hnil : trim s.toList = []
  · have hempty : Text.trimmed s = "" := by rw [Text.trimmed, hnil]
    rw [hnil, hempty]
    constructor
    · intro h
      cases h
    · rintro ⟨hne, he⟩
      exact absurd he.symm hne
  · have hne : s ≠ "" := by
      rintro rfl
      exact hnil rfl
    rw [Option.filter_some, if_pos (by simpa using hnil), Option.map_some, Option.some_inj]
    exact ⟨fun h => ⟨hne, h⟩, fun h => h.2⟩

/-- A claim comes out of its section as it is unless it says yes only when it is trimmed. -/
theorem saysYes_eq_trimmed {s : String} : Verdict.saysYes s = Verdict.saysYes (Text.trimmed s) ↔
    (Verdict.saysYes (Text.trimmed s) = true → Text.trimmed s = s) := by
  constructor
  · intro h hyes
    exact Verdict.trimmed_of_saysYes (h.trans hyes)
  · intro h
    rw [Bool.eq_iff_iff]
    constructor
    · intro hyes
      rwa [Verdict.trimmed_of_saysYes hyes]
    · intro hyes
      rwa [h hyes] at hyes

/-- **The two forms of a reply.** -/
theorem ofCompletion_forms {completion before after reasoning hasBug details : String} {v : Json}
    {parts : List (String × String)} (hparse : Json.parse? completion = some v)
    (hr : v.member? "reasoning" = some (.str reasoning)) (hh : v.member? "has_bug" = some (.str hasBug))
    (hd : v.member? "bug_details" = some (.str details)) (hbefore : Preamble before) (hafter : Trailer after)
    (hparts : parts.Perm (askedParts reasoning hasBug details))
    (hreasoning : '\r' ∉ reasoning.toList ∧ Unmarked reasoning.toList)
    (hhasBug : '\r' ∉ hasBug.toList ∧ Unmarked hasBug.toList)
    (hdetails : '\r' ∉ details.toList ∧ Unmarked details.toList) :
    (Verdict.ofCompletion completion).findings = (Verdict.ofCompletion (laidOut before parts after)).findings ∧
      ((Verdict.ofCompletion completion).hasBug = (Verdict.ofCompletion (laidOut before parts after)).hasBug ↔
        (Verdict.saysYes (Text.trimmed hasBug) = true → Text.trimmed hasBug = hasBug)) ∧
      ((Verdict.ofCompletion completion).reasoning = (Verdict.ofCompletion (laidOut before parts after)).reasoning ↔
        reasoning ≠ "" ∧ Text.trimmed reasoning = reasoning) := by
  have hall := isPart_of_perm hparts (hreasoning.2.newline hreasoning.1) (hhasBug.2.newline hhasBug.1)
    (hdetails.2.newline hdetails.1)
  have hobject := ofCompletion_strings hparse hr hh hd
  have hsections := reply_laidOut hbefore hafter hall hparts
  rw [trim_bodyText hreasoning.1, trim_bodyText hhasBug.1, trim_bodyText hdetails.1, unfencedJson_trim] at hsections
  simp only [Verdict.ofCompletion, Verdict.ofReply, hobject, hsections]
  exact ⟨rfl, saysYes_eq_trimmed, eq_comm.trans reasoning_eq_some⟩

/-- An answer in two paragraphs with fenced details, in both forms. -/
theorem ofCompletion_forms_fenced :
    Json.parse? ("\x7b\"reasoning\": \"a\\n\\nb\", \"has_bug\": \"Yes\", " ++
        "\"bug_details\": \"\x60\x60\x60json\\n[]\\n\x60\x60\x60\"\x7d") =
      some (.obj [("bug_details", .str (fencedBy "json" "[]")), ("has_bug", .str "Yes"),
        ("reasoning", .str "a\n\nb")]) ∧
    (Verdict.ofCompletion ("\x7b\"reasoning\": \"a\\n\\nb\", \"has_bug\": \"Yes\", " ++
        "\"bug_details\": \"\x60\x60\x60json\\n[]\\n\x60\x60\x60\"\x7d")).findings =
      (Verdict.ofCompletion (laidOut "" (askedParts "a\n\nb" "Yes" (fencedBy "json" "[]")) "")).findings := by
  have hparse : Json.parse? ("\x7b\"reasoning\": \"a\\n\\nb\", \"has_bug\": \"Yes\", " ++
        "\"bug_details\": \"\x60\x60\x60json\\n[]\\n\x60\x60\x60\"\x7d") =
      some (.obj [("bug_details", .str (fencedBy "json" "[]")), ("has_bug", .str "Yes"),
        ("reasoning", .str "a\n\nb")]) := by
    cbv
  refine ⟨hparse, (ofCompletion_forms hparse rfl rfl rfl ?_ (Or.inl rfl) (List.Perm.refl _) ?_ ?_ ?_).1⟩
  · exact ⟨Or.inl rfl, by decide⟩
  · decide +kernel
  · decide +kernel
  · decide +kernel

/-- A blank in front of the claim loses it in a member, and only there. -/
theorem ofCompletion_forms_blank :
    Json.parse? ("\x7b\"reasoning\": \"The pointer is freed twice.\", \"has_bug\": \" true\", " ++
        "\"bug_details\": \"\x7b\\\"bugs\\\": [\x7b\\\"bug_type_id\\\": \\\"C.3\\\"\x7d]\x7d\"\x7d") =
      some (.obj [("bug_details", .str "\x7b\"bugs\": [\x7b\"bug_type_id\": \"C.3\"\x7d]\x7d"),
        ("has_bug", .str " true"), ("reasoning", .str "The pointer is freed twice.")]) ∧
    (Unmarked "The pointer is freed twice.".toList ∧ Unmarked " true".toList ∧
      Unmarked "\x7b\"bugs\": [\x7b\"bug_type_id\": \"C.3\"\x7d]\x7d".toList) ∧
    (Verdict.ofCompletion ("\x7b\"reasoning\": \"The pointer is freed twice.\", \"has_bug\": \" true\", " ++
        "\"bug_details\": \"\x7b\\\"bugs\\\": [\x7b\\\"bug_type_id\\\": \\\"C.3\\\"\x7d]\x7d\"\x7d")).hasBug =
      false ∧
    (Verdict.ofCompletion (laidOut "" (askedParts "The pointer is freed twice." " true"
        "\x7b\"bugs\": [\x7b\"bug_type_id\": \"C.3\"\x7d]\x7d") "")).hasBug = true :=
  ⟨by cbv, by decide +kernel, by decide +kernel, by decide +kernel⟩

end Reply
end SnippetAudit
