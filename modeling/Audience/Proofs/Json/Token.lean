import Audience.Json.Printer
import Audience.Json.Reading
import Audience.Proofs.Number.Integer

set_option autoImplicit false

/-! # Strings and whole numbers of JSON read back

What is written for a text in quotes is read as that text, whatever characters it has and whatever
follows it (`readString_escaped`): every character is written as one piece that stands for it
(`readPieces_escapeChar`). What is written for an integer within 64 bits is read as that integer, unless
more of a number follows it (`readNumber_intText`). -/

namespace Audience.Json

/-! ## Strings -/

/-- A piece stands for a character, whatever pieces come after it. -/
def Piece.StandsFor (p : Piece) (c : Char) : Prop :=
  ∀ (ending : Fault) (rest : List Piece),
    joinPieces ending (p :: rest) = (joinPieces ending rest).map (c :: ·)

theorem standsFor_char (c : Char) : (Piece.char c).StandsFor c := by
  intro ending rest
  rw [joinPieces]

/-- A code unit below those of pairs stands for the character of its number. -/
theorem standsFor_unit {n : Nat} (h : n < 0xD800) : (Piece.unit n).StandsFor (Char.ofNat n) := by
  intro ending rest
  have hlow : ¬ (0xDC00 ≤ n ∧ n ≤ 0xDFFF) := by omega
  have hhigh : n < 0xD800 ∨ 0xDBFF < n := Or.inl h
  rw [joinPieces.eq_def]
  exact (if_neg hlow).trans (if_pos hhigh)

/-- Control characters are written by their number, as two hexadecimal digits after two zeros. -/
theorem hexNumber?_control :
    ∀ n < 0x20, hexNumber? '0' '0' (hexDigit (n / 16)) (hexDigit (n % 16)) = some n := by
  decide

theorem endsWithinFour_cons (a b c d : Char) (rest : List Char) :
    endsWithinFour (a :: b :: c :: d :: rest) = false := by
  have ha := a.utf8Size_pos
  have hb := b.utf8Size_pos
  have hc := c.utf8Size_pos
  have hd := d.utf8Size_pos
  simp only [endsWithinFour, List.take, List.foldl, decide_eq_false_iff_not]
  omega

theorem readPieces_escape {e c : Char} (hunit : e ≠ 'u') (h : escapedChar? e = some c)
    (rest : List Char) : readPieces ('\\' :: e :: rest) = addPiece (.char c) (readPieces rest) := by
  rw [readPieces.eq_def]
  simp [hunit, h]

theorem readPieces_unit {a b c d : Char} {n : Nat} (h : hexNumber? a b c d = some n)
    (rest : List Char) :
    readPieces ('\\' :: 'u' :: a :: b :: c :: d :: rest)
      = addPiece (.unit n) (readPieces rest) := by
  rw [readPieces.eq_def]
  simp [endsWithinFour_cons, h]

theorem readPieces_plain {c : Char} (hquote : c ≠ '"') (hbackslash : c ≠ '\\')
    (hplain : ¬ c.toNat < 0x20) (rest : List Char) :
    readPieces (c :: rest) = addPiece (.char c) (readPieces rest) := by
  rw [readPieces.eq_def]
  simp [hbackslash, hplain]

/-- A character is written as one piece that stands for it, whatever follows. -/
theorem readPieces_escapeChar (c : Char) (rest : List Char) :
    ∃ p : Piece, p.StandsFor c ∧
      readPieces (escapeChar c ++ rest) = addPiece p (readPieces rest) := by
  unfold escapeChar
  split
  case h_8 =>
    split
    · next hcontrol =>
      have hunit := standsFor_unit (n := c.toNat) (by omega)
      rw [Char.ofNat_toNat] at hunit
      exact ⟨_, hunit, readPieces_unit (hexNumber?_control _ hcontrol) rest⟩
    · next hquote hbackslash _ _ _ _ _ hplain =>
      exact ⟨_, standsFor_char c, readPieces_plain (fun h => hquote h) hbackslash hplain rest⟩
  -- the seven characters that have an escape of their own
  all_goals exact ⟨_, standsFor_char _, readPieces_escape (by decide) rfl rest⟩

/-- The characters of a text are read up to the closing quote. -/
theorem readPieces_escaped (cs rest : List Char) :
    ∃ pieces : List Piece, (∀ ending, joinPieces ending pieces = .ok cs) ∧
      readPieces (cs.flatMap escapeChar ++ '"' :: rest) = (pieces, .ok rest) := by
  induction cs with
  | nil => exact ⟨[], fun _ => by rw [joinPieces], by simp [readPieces]⟩
  | cons c cs ih =>
      obtain ⟨pieces, hjoin, hread⟩ := ih
      obtain ⟨p, hp, hstep⟩ := readPieces_escapeChar c (cs.flatMap escapeChar ++ '"' :: rest)
      refine ⟨p :: pieces, fun ending => ?_, ?_⟩
      · rw [hp ending pieces, hjoin]
        rfl
      · rw [List.flatMap_cons, List.append_assoc, hstep, hread]
        rfl

theorem readString_escaped (s : String) (rest : List Char) :
    readString (s.toList.flatMap escapeChar ++ '"' :: rest) = (.ok s, .ok rest) := by
  obtain ⟨pieces, hjoin, hread⟩ := readPieces_escaped s.toList rest
  simp only [readString, hread, hjoin, Except.map, String.ofList_toList]

theorem readText_escaped (s : String) (rest : List Char) :
    readText (s.toList.flatMap escapeChar ++ '"' :: rest) = (.string s, .ok rest) := by
  simp only [readText, readString_escaped]

/-! ## Whole numbers -/

/-- An integer that a literal can give: one within 64 bits, with a sign or without. -/
def InRange (n : Int) : Prop :=
  Int64.minValue.toInt ≤ n ∧ n ≤ maxSignificand

/-- Whether a character may go on with a number literal after its whole digits. -/
def extendsNumber (c : Char) : Bool :=
  c.isDigit || c == '.' || c == 'e' || c == 'E'

/-- A text in which the number that stands before it does not go on. -/
def EndsNumber (rest : List Char) : Prop :=
  ∀ c ∈ rest.head?, extendsNumber c = false

theorem spanDigits_append {ds rest : List Char} (hds : ∀ c ∈ ds, c.isDigit = true)
    (hrest : EndsNumber rest) : spanDigits (ds ++ rest) = (ds, rest) := by
  have hstop : rest.takeWhile Char.isDigit = [] ∧ rest.dropWhile Char.isDigit = rest := by
    cases rest with
    | nil => exact ⟨rfl, rfl⟩
    | cons c cs =>
        have hc : c.isDigit = false := by
          have h := hrest c rfl
          simp only [extendsNumber, Bool.or_eq_false_iff] at h
          exact h.1.1.1
        simp [hc]
  rw [spanDigits, List.takeWhile_append_of_pos hds, List.dropWhile_append_of_pos hds, hstop.1,
    hstop.2, List.append_nil]

/-- Digits that nothing of a number follows are an integer literal. -/
theorem readFraction_endsNumber (negative : Bool) (whole : List Char) {rest : List Char}
    (hrest : EndsNumber rest) :
    readFraction negative whole rest = .ok (⟨negative, whole, none, none⟩, rest) := by
  cases rest with
  | nil => rfl
  | cons c cs =>
      have h := hrest c rfl
      simp only [extendsNumber, Bool.or_eq_false_iff, beq_eq_false_iff_ne] at h
      obtain ⟨⟨⟨-, hpoint⟩, he⟩, hE⟩ := h
      simp [readFraction, readExponent, hpoint, he, hE]

/-- Digits make up a whole number if they do not begin with a needless zero. -/
theorem readLiteral_digits {ds rest : List Char} (hne : ds ≠ [])
    (hds : ∀ c ∈ ds, c.isDigit = true) (hzero : ∀ es, ds = '0' :: es → es = [])
    (hrest : EndsNumber rest) :
    readLiteral (ds ++ rest) = .ok (⟨false, ds, none, none⟩, rest)
      ∧ readLiteral ('-' :: (ds ++ rest)) = .ok (⟨true, ds, none, none⟩, rest) := by
  have hspan := spanDigits_append hds hrest
  have hfraction := fun negative => readFraction_endsNumber negative ds hrest
  rcases ds with _ | ⟨d, _ | ⟨e, es⟩⟩
  · contradiction
  · have hminus : d ≠ '-' := (Number.ne_sign_of_isDigit (hds d (by simp))).1
    simp only [List.cons_append, List.nil_append] at hspan ⊢
    simp [readLiteral, hminus, hspan, hfraction]
  · have hminus : d ≠ '-' := (Number.ne_sign_of_isDigit (hds d (by simp))).1
    have hd : d ≠ '0' := by
      rintro rfl
      exact absurd (hzero _ rfl) (by simp)
    simp only [List.cons_append] at hspan ⊢
    simp [readLiteral, hminus, hd, hspan, hfraction]

/-- The literal that an integer is written as. -/
def Literal.ofInt (n : Int) : Literal :=
  ⟨decide (n < 0), Number.natText n.natAbs, none, none⟩

theorem readLiteral_intText (n : Int) {rest : List Char} (hrest : EndsNumber rest) :
    readLiteral (Number.intText n ++ rest) = .ok (Literal.ofInt n, rest) := by
  have hread := readLiteral_digits (Number.natText_ne_nil n.natAbs)
    (fun _ hc => Number.isDigit_of_mem_natText hc)
    (fun _ => Number.eq_nil_of_natText_eq_zero_cons) hrest
  by_cases hn : n < 0
  · rw [Number.intText, if_pos hn, List.cons_append, hread.2, Literal.ofInt, decide_eq_true hn]
  · rw [Number.intText, if_neg hn, hread.1, Literal.ofInt, decide_eq_false hn]

theorem Literal.value?_ofInt {n : Int} (h : InRange n) :
    (Literal.ofInt n).value? = some (.integer n) := by
  have hvalue : Nat.ofDigitChars 10 (Number.natText n.natAbs) 0 = n.natAbs :=
    Nat.ofDigitChars_ten_toDigits
  obtain ⟨hlow, hhigh⟩ := h
  by_cases hn : n < 0
  · have habs : -(n.natAbs : Int) = n := by omega
    have hne : n.natAbs ≠ 0 := by omega
    simp only [Literal.value?, Literal.ofInt, hvalue, decide_eq_true hn, if_true, habs,
      if_pos (And.intro hne hlow)]
  · have habs : (n.natAbs : Int) = n := by omega
    have hle : n.natAbs ≤ maxSignificand := by omega
    simp [Literal.value?, Literal.ofInt, hvalue, hn, habs, hle]

/-- A whole number is read as it was written, unless more of a number follows. -/
theorem readNumber_intText {n : Int} (h : InRange n) {rest : List Char} (hrest : EndsNumber rest) :
    readNumber (Number.intText n ++ rest) = (.number (.integer n), .ok rest) := by
  simp only [readNumber, readLiteral_intText n hrest, Literal.value?_ofInt h]

end Audience.Json
