import SnippetAudit.Proofs.Json.Layout
import SnippetAudit.Proofs.Json.Numeral

/-!
# Printed JSON is JSON

`Json.printed` is the tree that the text of a value is read as: the value itself, except that a number is what its
digits denote. The indented text of a value is a spelling of that tree (`spells_pretty`), so it is read back as the tree
(`read_pretty`).
-/

namespace SnippetAudit.Json

open Number (shortestText)

/-! ## Numbers -/

namespace Num

/-- What the text of a binary number is read as. -/
def printedBinary (F : Number.Format) : Number.Binary → Tree
  | .finite negative d => .num (numeralOf F negative d).number?
  | _ => .null

/-- What the text of a number is read as. -/
def printed : Num → Tree
  | .whole n => .num (Numeral.mk (n < 0) (Nat.toDigits 10 n.natAbs) [] none).number?
  | .real x => printedBinary Number.double (.ofFloat x)
  | .real32 x => printedBinary Number.single (.ofFloat32 x)

theorem spells_shortestText (F : Number.Format) (b : Number.Binary) :
    Spells (.value (printedBinary F b)) ((shortestText F b).getD ['n', 'u', 'l', 'l']) := by
  cases b with
  | nan | infinite => exact .null
  | finite negative d =>
    obtain ⟨w, hw, hs⟩ := spelled_shortestText F negative d
    rw [hw]
    exact .num hs

theorem spells_text : ∀ n : Num, Spells (.value n.printed) n.text
  | .whole n => .num (spelled_whole n)
  | .real _ => spells_shortestText _ _
  | .real32 _ => spells_shortestText _ _

end Num

/-! ## Strings -/

theorem unit?_hexDigit {n : Nat} (h : n < 0x20) :
    unit? '0' '0' (hexDigit (n / 16)) (hexDigit (n % 16)) = some n := by
  have hall : ∀ m : Fin 0x20, unit? '0' '0' (hexDigit (m.val / 16)) (hexDigit (m.val % 16)) = some m.val := by decide
  exact hall ⟨n, h⟩

theorem unescape?_shortEscape {c l : Char} (h : shortEscape? c = some l) : unescape? l = some c := by
  unfold shortEscape? at h
  repeat' split at h
  all_goals
    cases h
    try subst c
    try rfl

theorem Piece.ofUnit_low {c : Char} (h : c.toNat < 0x20) : Piece.ofUnit c.toNat = .char c := by
  rw [Piece.ofUnit, if_neg (by omega), Char.ofNat_toNat]

/-- A character that is written as it is. -/
theorem plain_of_shortEscape {c : Char} (h : shortEscape? c = none) : c ≠ '"' ∧ c ≠ '\\' := by
  constructor <;> rintro rfl <;> cases h

theorem pieced_escaped (c : Char) {ps : List Piece} {w : List Char} (h : Pieced ps w) :
    Pieced (.char c :: ps) (escaped c ++ w) := by
  unfold escaped
  split
  · next l hl => exact .short (unescape?_shortEscape hl) h
  · next hl =>
    split
    · next hc =>
      have hu := Pieced.unit (unit?_hexDigit hc) h
      rwa [Piece.ofUnit_low hc] at hu
    · next hc =>
      have hplain := plain_of_shortEscape hl
      exact .char (by omega) hplain.1 hplain.2 h

theorem pieced_string : ∀ s : List Char, Pieced (s.map .char) (s.flatMap escaped)
  | [] => .nil
  | c :: s => by
    rw [List.map_cons, List.flatMap_cons]
    exact pieced_escaped c (pieced_string s)

theorem textOf?_chars : ∀ s : List Char, textOf? (s.map .char) = some s
  | [] => rfl
  | c :: s => by simp [textOf?, textOf?_chars s]

@[simp] theorem stringOf?_chars (s : String) : stringOf? (s.toList.map .char) = some s := by
  simp [stringOf?, textOf?_chars]

theorem spells_quoted (s : String) : Spells (.value (.str (some s))) (quoted s) := by
  have h := Spells.str (pieced_string s.toList)
  rwa [stringOf?_chars] at h

/-! ## Values -/

mutual

/-- What the text of a value is read as. -/
def printed : Json → Tree
  | .null => .null
  | .bool b => .bool b
  | .num n => n.printed
  | .str s => .str (some s)
  | .arr vs => .arr (printedItems vs)
  | .obj ms => .obj (printedMembers ms)

def printedItems : List Json → List Tree
  | [] => []
  | v :: vs => v.printed :: printedItems vs

def printedMembers : List (String × Json) → List (Option String × Tree)
  | [] => []
  | (n, v) :: ms => (some n, v.printed) :: printedMembers ms

end

theorem gap_newline (level : Nat) : Gap (newline level) := by
  intro c hc
  rcases List.mem_cons.1 hc with rfl | hc
  · rfl
  · rw [(List.mem_replicate.1 hc).2]
    rfl

theorem gap_blank : Gap [' '] := by decide

/-- A member, as it is printed between gaps. -/
theorem spells_member {g g₁ w g' ws : List Char} {n : String} {t : Tree} {ms : List (Option String × Tree)} (hg : Gap g)
    (hg₁ : Gap g₁) (h : Spells (.value t) w) (hg' : Gap g') (hs : Spells (.members ms) ws) :
    Spells (.members ((some n, t) :: ms)) (g ++ (quoted n ++ ':' :: (g₁ ++ (w ++ (g' ++ ',' :: ws))))) := by
  have hm := Spells.member hg (pieced_string n.toList) .nil hg₁ h hg' hs
  rwa [stringOf?_chars] at hm

theorem spells_lastMember {g g₁ w g' : List Char} {n : String} {t : Tree} (hg : Gap g) (hg₁ : Gap g₁)
    (h : Spells (.value t) w) (hg' : Gap g') :
    Spells (.members [(some n, t)]) (g ++ (quoted n ++ ':' :: (g₁ ++ (w ++ g')))) := by
  have hm := Spells.lastMember hg (pieced_string n.toList) .nil hg₁ h hg'
  rwa [stringOf?_chars] at hm

mutual

/-- **An indented text is a spelling of its value.** -/
theorem spells_pretty (level : Nat) : ∀ v : Json, Spells (.value v.printed) (prettyChars level v)
  | .null => .null
  | .bool true => .yes
  | .bool false => .no
  | .num n => by
    rw [printed, prettyChars]
    exact n.spells_text
  | .str s => by
    rw [printed, prettyChars]
    exact spells_quoted s
  | .arr [] => .noItems .nil
  | .arr (v :: vs) => by
    have h := spells_prettyItems (level + 1) (v :: vs) (List.cons_ne_nil _ _) (gap_newline level)
    rw [printed, prettyChars]
    exact .arr h
  | .obj [] => .noMembers .nil
  | .obj (m :: ms) => by
    have h := spells_prettyMembers (level + 1) (m :: ms) (List.cons_ne_nil _ _) (gap_newline level)
    rw [printed, prettyChars]
    exact .obj h

theorem spells_prettyItems (level : Nat) : ∀ vs : List Json, vs ≠ [] → ∀ {g : List Char}, Gap g →
    Spells (.items (printedItems vs)) (prettyItems level vs ++ g)
  | [], h, _, _ => absurd rfl h
  | [v], _, g, hg => by
    have h := Spells.lastItem (gap_newline level) (spells_pretty level v) hg
    simpa [printedItems, prettyItems] using h
  | v :: v' :: vs, _, g, hg => by
    have hs := spells_prettyItems level (v' :: vs) (List.cons_ne_nil _ _) hg
    have h := Spells.item (gap_newline level) (spells_pretty level v) .nil hs
    simpa [printedItems, prettyItems] using h

theorem spells_prettyMembers (level : Nat) : ∀ ms : List (String × Json), ms ≠ [] → ∀ {g : List Char}, Gap g →
    Spells (.members (printedMembers ms)) (prettyMembers level ms ++ g)
  | [], h, _, _ => absurd rfl h
  | [(n, v)], _, g, hg => by
    have h := spells_lastMember (n := n) (gap_newline level) gap_blank (spells_pretty level v) hg
    simpa [printedMembers, prettyMembers] using h
  | (n, v) :: m :: ms, _, g, hg => by
    have hs := spells_prettyMembers level (m :: ms) (List.cons_ne_nil _ _) hg
    have h := spells_member (n := n) (gap_newline level) gap_blank (spells_pretty level v) .nil hs
    simpa [printedMembers, prettyMembers] using h

end

/-- A natural of 64 bits is read as itself. -/
theorem printed_nat {n : Nat} (h : n < UInt64.size) : (nat n).printed = .num (some (.whole n)) := by
  have hsign : decide ((n : Int) < 0) = false := decide_eq_false (Int.not_lt.2 (Int.natCast_nonneg n))
  rw [nat, printed, Num.printed, hsign, Int.natAbs_natCast, Num.number?_nat h]

/-- **An indented text is read as its value.** -/
theorem read_pretty (v : Json) : read v.pretty.toList = (v.printed, true) := by
  rw [pretty, String.toList_ofList]
  exact read_of_textOf (spells_pretty 0 v).textOf

end SnippetAudit.Json
