import SnippetAudit.Json.Reader

/-!
# The grammar of JSON texts

`Spells (.value t) w` says that `w` is a spelling of the tree `t`, from the first character of its first token to the
last character of its last one. `Pieced` and `Numeral.Spelled` are the same for what stands between two quotes and for
numerals. The grammar does not mention the reader: that the two agree is shown in `Proofs.Json.Reader`.
-/

namespace SnippetAudit.Json

open Number (ofDigits)

/-- Blanks between tokens. -/
def Gap (g : List Char) : Prop := ∀ c ∈ g, isGap c = true

instance (g : List Char) : Decidable (Gap g) := List.decidableBAll (fun c => isGap c = true) g

/-! ## Strings -/

/-- The pieces between two quotes, and how they are written. -/
inductive Pieced : List Piece → List Char → Prop
  | nil : Pieced [] []
  | char {c : Char} {ps : List Piece} {w : List Char} (low : 0x20 ≤ c.toNat) (quote : c ≠ '"') (slash : c ≠ '\\')
      (rest : Pieced ps w) : Pieced (.char c :: ps) (c :: w)
  | short {e c : Char} {ps : List Piece} {w : List Char} (escape : unescape? e = some c) (rest : Pieced ps w) :
      Pieced (.char c :: ps) ('\\' :: e :: w)
  | unit {a b c d : Char} {n : Nat} {ps : List Piece} {w : List Char} (digits : unit? a b c d = some n)
      (rest : Pieced ps w) : Pieced (.ofUnit n :: ps) ('\\' :: 'u' :: a :: b :: c :: d :: w)

/-! ## Numerals -/

/-- A run of digits. -/
def Digits (ds : List Char) : Prop := ds ≠ [] ∧ ∀ c ∈ ds, c.isDigit = true

/-- Digits that are a zero alone or start with another digit. -/
def Whole (ds : List Char) : Prop := Digits ds ∧ (ds.head? = some '0' → ds = ['0'])

/-- The digits behind a point, with the point. -/
inductive FractionText : List Char → List Char → Prop
  | absent : FractionText [] []
  | present {ds : List Char} (digits : Digits ds) : FractionText ds ('.' :: ds)

/-- The sign of an exponent. -/
inductive SignText : Bool → List Char → Prop
  | absent : SignText false []
  | plus : SignText false ['+']
  | minus : SignText true ['-']

/-- An exponent, with its mark. -/
inductive ExponentText : Option Int → List Char → Prop
  | absent : ExponentText none []
  | present {m : Char} {negative : Bool} {s ds : List Char} (mark : m = 'e' ∨ m = 'E') (sign : SignText negative s)
      (digits : Digits ds) :
      ExponentText (some (if negative then -(ofDigits ds : Int) else ofDigits ds)) (m :: (s ++ ds))

/-- The sign of a numeral, which is never a plus. -/
inductive MinusText : Bool → List Char → Prop
  | absent : MinusText false []
  | present : MinusText true ['-']

/-- How a numeral is written. -/
inductive Numeral.Spelled : Numeral → List Char → Prop
  | mk {negative : Bool} {s whole fraction f e : List Char} {exponent : Option Int} (hs : MinusText negative s)
      (hw : Whole whole) (hf : FractionText fraction f) (he : ExponentText exponent e) :
      Spelled ⟨negative, whole, fraction, exponent⟩ (s ++ (whole ++ (f ++ e)))

/-- What may follow a numeral that is to end where it does. -/
def NumeralEnd (r : List Char) : Prop :=
  ∀ c ∈ r.head?, c.isDigit = false ∧ c ≠ '.' ∧ c ≠ 'e' ∧ c ≠ 'E'

/-! ## Values -/

/-- What a spelling is a spelling of: a value, or the inside of an array or of an object. -/
inductive Shape where
  | value (t : Tree)
  | items (ts : List Tree)
  | members (ms : List (Option String × Tree))

/-- A string with its quotes. -/
def quotedBy (w : List Char) : List Char := '"' :: (w ++ ['"'])

/-- The text that pieces stand for. -/
def stringOf? (ps : List Piece) : Option String := (textOf? ps).map String.ofList

/-- How a value is written, and how the inside of an array or an object is, with the gaps around every value. -/
inductive Spells : Shape → List Char → Prop
  | null : Spells (.value .null) ['n', 'u', 'l', 'l']
  | yes : Spells (.value (.bool true)) ['t', 'r', 'u', 'e']
  | no : Spells (.value (.bool false)) ['f', 'a', 'l', 's', 'e']
  | num {n : Numeral} {w : List Char} (h : n.Spelled w) : Spells (.value (.num n.number?)) w
  | str {ps : List Piece} {w : List Char} (h : Pieced ps w) : Spells (.value (.str (stringOf? ps))) (quotedBy w)
  | noItems {g : List Char} (hg : Gap g) : Spells (.value (.arr [])) ('[' :: (g ++ [']']))
  | arr {ts : List Tree} {w : List Char} (h : Spells (.items ts) w) : Spells (.value (.arr ts)) ('[' :: (w ++ [']']))
  | noMembers {g : List Char} (hg : Gap g) : Spells (.value (.obj [])) ('\x7b' :: (g ++ ['\x7d']))
  | obj {ms : List (Option String × Tree)} {w : List Char} (h : Spells (.members ms) w) :
      Spells (.value (.obj ms)) ('\x7b' :: (w ++ ['\x7d']))
  | lastItem {t : Tree} {g w g' : List Char} (hg : Gap g) (h : Spells (.value t) w) (hg' : Gap g') :
      Spells (.items [t]) (g ++ (w ++ g'))
  | item {t : Tree} {ts : List Tree} {g w g' ws : List Char} (hg : Gap g) (h : Spells (.value t) w) (hg' : Gap g')
      (hs : Spells (.items ts) ws) : Spells (.items (t :: ts)) (g ++ (w ++ (g' ++ ',' :: ws)))
  | lastMember {ps : List Piece} {t : Tree} {g k g₁ g₂ w g' : List Char} (hg : Gap g) (hk : Pieced ps k) (hg₁ : Gap g₁)
      (hg₂ : Gap g₂) (h : Spells (.value t) w) (hg' : Gap g') :
      Spells (.members [(stringOf? ps, t)]) (g ++ (quotedBy k ++ (g₁ ++ ':' :: (g₂ ++ (w ++ g')))))
  | member {ps : List Piece} {t : Tree} {ms : List (Option String × Tree)} {g k g₁ g₂ w g' ws : List Char} (hg : Gap g)
      (hk : Pieced ps k) (hg₁ : Gap g₁) (hg₂ : Gap g₂) (h : Spells (.value t) w) (hg' : Gap g')
      (hs : Spells (.members ms) ws) :
      Spells (.members ((stringOf? ps, t) :: ms)) (g ++ (quotedBy k ++ (g₁ ++ ':' :: (g₂ ++ (w ++ (g' ++ ',' :: ws))))))

/-! ## The first and the last character of a value -/

/-- The characters that a value starts with. -/
def isOpening (c : Char) : Bool := c ∈ ['n', 't', 'f', '"', '[', '\x7b', '-'] || c.isDigit

/-- The characters that a value ends with. -/
def isClosing (c : Char) : Bool := c ∈ ['l', 'e', '"', ']', '\x7d'] || c.isDigit

theorem Digits.exists_cons {ds : List Char} (h : Digits ds) : ∃ c r, ds = c :: r ∧ c.isDigit = true := by
  obtain ⟨hne, hd⟩ := h
  obtain ⟨c, r, rfl⟩ := List.exists_cons_of_ne_nil hne
  exact ⟨c, r, rfl, hd c List.mem_cons_self⟩

theorem Digits.exists_concat {ds : List Char} (h : Digits ds) : ∃ r c, ds = r ++ [c] ∧ c.isDigit = true := by
  obtain ⟨hne, hd⟩ := h
  refine ⟨ds.dropLast, ds.getLast hne, (List.dropLast_concat_getLast hne).symm, hd _ (List.getLast_mem hne)⟩

theorem Numeral.Spelled.exists_cons {n : Numeral} {w : List Char} (h : n.Spelled w) :
    ∃ c r, w = c :: r ∧ (c = '-' ∨ c.isDigit = true) := by
  obtain ⟨hs, hw, -, -⟩ := h
  obtain ⟨c, r, rfl, hc⟩ := hw.1.exists_cons
  cases hs with
  | absent => exact ⟨c, _, rfl, .inr hc⟩
  | present => exact ⟨'-', _, rfl, .inl rfl⟩

theorem Numeral.Spelled.exists_concat {n : Numeral} {w : List Char} (h : n.Spelled w) :
    ∃ r c, w = r ++ [c] ∧ c.isDigit = true := by
  obtain @⟨_, s, whole, _, f, _, _, -, hw, hf, he⟩ := h
  cases he with
  | absent =>
    cases hf with
    | absent =>
      obtain ⟨r, c, rfl, hc⟩ := hw.1.exists_concat
      exact ⟨s ++ r, c, by simp, hc⟩
    | present hd =>
      obtain ⟨r, c, rfl, hc⟩ := hd.exists_concat
      exact ⟨s ++ (whole ++ '.' :: r), c, by simp, hc⟩
  | @present m _ s' _ hm hs hd =>
    obtain ⟨r, c, rfl, hc⟩ := hd.exists_concat
    exact ⟨s ++ (whole ++ (f ++ m :: (s' ++ r))), c, by simp, hc⟩

/-- A value starts with a character that shows its kind. -/
theorem Spells.exists_cons {t : Tree} {w : List Char} (h : Spells (.value t) w) :
    ∃ c r, w = c :: r ∧ isOpening c = true := by
  cases h with
  | num hn =>
    obtain ⟨c, r, rfl, hc⟩ := hn.exists_cons
    refine ⟨c, r, rfl, ?_⟩
    rcases hc with rfl | hc
    · rfl
    · simp [isOpening, hc]
  | null | yes | no | str | noItems | arr | noMembers | obj => exact ⟨_, _, rfl, rfl⟩

theorem Spells.exists_concat {t : Tree} {w : List Char} (h : Spells (.value t) w) :
    ∃ r c, w = r ++ [c] ∧ isClosing c = true := by
  cases h with
  | num hn =>
    obtain ⟨r, c, rfl, hc⟩ := hn.exists_concat
    exact ⟨r, c, rfl, by simp [isClosing, hc]⟩
  | null => exact ⟨['n', 'u', 'l'], 'l', rfl, rfl⟩
  | yes => exact ⟨['t', 'r', 'u'], 'e', rfl, rfl⟩
  | no => exact ⟨['f', 'a', 'l', 's'], 'e', rfl, rfl⟩
  | @str ps k => exact ⟨'"' :: k, '"', rfl, rfl⟩
  | @noItems g => exact ⟨'[' :: g, ']', rfl, rfl⟩
  | @arr ts k => exact ⟨'[' :: k, ']', rfl, rfl⟩
  | @noMembers g => exact ⟨'\x7b' :: g, '\x7d', rfl, rfl⟩
  | @obj ms k => exact ⟨'\x7b' :: k, '\x7d', rfl, rfl⟩

end SnippetAudit.Json
