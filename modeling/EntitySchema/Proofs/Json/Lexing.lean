import EntitySchema.Json.Token
import EntitySchema.Json.Writer

set_option autoImplicit false

namespace EntitySchema.Json

def Ends (rest : List Char) : Prop :=
  ∀ c ∈ rest.head?, c.isDigit = false ∧ c ≠ '.' ∧ c ≠ 'e' ∧ c ≠ 'E'

structure Digits (digits : List Char) : Prop where
  given : digits ≠ []
  each : ∀ c ∈ digits, c.isDigit = true

theorem digitRun_digits (digits rest : List Char) (run : Digits digits)
    (ended : ∀ c ∈ rest.head?, c.isDigit = false) :
    digitRun (digits ++ rest) = some (digits, rest) := by
  have taken : (digits ++ rest).takeWhile Char.isDigit = digits := by
    rw [List.takeWhile_append_of_pos run.each]
    cases rest with
    | nil => simp
    | cons c rest => simp [ended c rfl]
  have left : (digits ++ rest).dropWhile Char.isDigit = rest := by
    rw [List.dropWhile_append_of_pos run.each]
    cases rest with
    | nil => rfl
    | cons c rest => simp [ended c rfl]
  rw [digitRun, taken, left]
  cases digits with
  | nil => exact absurd rfl run.given
  | cons c digits => rfl

theorem digit_visible (c : Char) (digit : c.isDigit = true) : isSpace c = false := by
  simp only [isSpace, Bool.or_eq_false_iff, decide_eq_false_iff_not]
  refine ⟨⟨⟨?_, ?_⟩, ?_⟩, ?_⟩ <;> rintro rfl <;> exact absurd digit (by decide)

structure Numeral where
  negative : Bool
  whole : List Char
  fraction : Option (List Char)
  exponent : Option (Bool × List Char)

namespace Numeral

def fractionChars (n : Numeral) : List Char :=
  match n.fraction with
  | none => []
  | some digits => '.' :: digits

def exponentChars (n : Numeral) : List Char :=
  match n.exponent with
  | none => []
  | some (minus, digits) => 'e' :: (if minus then '-' else '+') :: digits

def body (n : Numeral) : List Char := n.whole ++ (n.fractionChars ++ n.exponentChars)

def chars (n : Numeral) : List Char := if n.negative then '-' :: n.body else n.body

def exponentValue (n : Numeral) : Option Int :=
  n.exponent.map fun (minus, digits) =>
    if minus then -(digitsValue digits : Int) else digitsValue digits

def value? (n : Numeral) : Option JsonNumber :=
  numberOf n.negative n.whole n.fraction n.exponentValue

structure Valid (n : Numeral) : Prop where
  whole : Digits n.whole
  unpadded : ¬(n.whole.length > 1 ∧ n.whole.head? = some '0')
  fraction : ∀ digits ∈ n.fraction, Digits digits
  exponent : ∀ part ∈ n.exponent, Digits part.2

theorem chars_visible (n : Numeral) (valid : n.Valid) :
    ∃ c digits, n.chars = c :: digits ∧ isSpace c = false := by
  obtain ⟨c, digits, shape⟩ := List.exists_cons_of_ne_nil valid.whole.given
  cases sign : n.negative with
  | true => exact ⟨'-', n.body, by simp [chars, sign], rfl⟩
  | false =>
      have digit := valid.whole.each c (by simp [shape])
      exact ⟨c, digits ++ (n.fractionChars ++ n.exponentChars), by simp [chars, body, sign, shape],
        digit_visible c digit⟩

variable (n : Numeral) (rest : List Char) (ends : Ends rest)

include ends

theorem exponentChars_stop :
    ∀ c ∈ (n.exponentChars ++ rest).head?, c.isDigit = false ∧ c ≠ '.' := by
  unfold exponentChars
  cases n.exponent with
  | none => exact fun c first => ⟨(ends c first).1, (ends c first).2.1⟩
  | some part => rintro c ⟨⟩; decide

theorem fractionChars_stop :
    ∀ c ∈ (n.fractionChars ++ (n.exponentChars ++ rest)).head?, c.isDigit = false := by
  have stop := n.exponentChars_stop rest ends
  unfold fractionChars
  cases n.fraction with
  | none => exact fun c first => (stop c first).1
  | some digits => rintro c ⟨⟩; rfl

variable (valid : n.Valid)

include valid

theorem exponentPart_chars :
    exponentPart (n.exponentChars ++ rest) = some (n.exponentValue, rest) := by
  unfold exponentChars exponentValue
  cases given : n.exponent with
  | none =>
      cases rest with
      | nil => rfl
      | cons c tail =>
          obtain ⟨-, -, small, large⟩ := ends c rfl
          simp [exponentPart, small, large]
  | some part =>
      obtain ⟨minus, digits⟩ := part
      have run := digitRun_digits digits rest (valid.exponent _ given) fun c first => (ends c first).1
      cases minus <;> simp [exponentPart, splitSign, run]

theorem fractionPart_chars :
    fractionPart (n.fractionChars ++ (n.exponentChars ++ rest)) =
      some (n.fraction, n.exponentChars ++ rest) := by
  have stop := n.exponentChars_stop rest ends
  unfold fractionChars
  cases given : n.fraction with
  | none =>
      cases shape : n.exponentChars ++ rest with
      | nil => rfl
      | cons c tail =>
          have point : c ≠ '.' := (stop c (by rw [shape]; rfl)).2
          simp [fractionPart, point]
  | some digits =>
      have run := digitRun_digits digits _ (valid.fraction _ given) fun c first => (stop c first).1
      simp [fractionPart, run]

theorem numberBody_body :
    numberBody n.negative (n.body ++ rest) = some (n.value?, rest) := by
  have run := digitRun_digits n.whole _ valid.whole (n.fractionChars_stop rest ends)
  rw [body, List.append_assoc, List.append_assoc]
  simp [numberBody, run, valid.unpadded, n.fractionPart_chars rest ends valid,
    n.exponentPart_chars rest ends valid, value?]

theorem firstToken_chars : firstToken (n.chars ++ rest) = (.number n.value?, rest) := by
  have read := n.numberBody_body rest ends valid
  unfold chars
  cases sign : n.negative with
  | true =>
      rw [sign] at read
      simp only [if_true, List.cons_append, firstToken, read]
  | false =>
      rw [sign] at read
      obtain ⟨c, digits, shape⟩ := List.exists_cons_of_ne_nil valid.whole.given
      have digit : c.isDigit = true := valid.whole.each c (by simp [shape])
      have front : n.body ++ rest =
          c :: (digits ++ (n.fractionChars ++ n.exponentChars) ++ rest) := by
        simp [body, shape]
      simp only [Bool.false_eq_true, if_false]
      rw [front] at read ⊢
      unfold firstToken
      split
      case h_13 => rw [read]
      all_goals
        rename_i same
        cases same <;> exact absurd digit (by decide)

end Numeral

theorem hexValues_control : ∀ n < 0x20,
    hexValues? ['0', '0', hexDigit (n / 16), hexDigit (n % 16)] = some n := by
  decide

theorem unit16_control (c : Char) (control : c.toNat < 0x20) : unit16 c.toNat = .char c := by
  have low : ¬(0xD800 ≤ c.toNat ∧ c.toNat < 0xE000) := by omega
  rw [unit16, if_neg low, Char.ofNat_toNat]

theorem control_escape (c : Char) (control : c.toNat < 0x20) (rest : List Char) :
    stringBody (escapeChar c ++ rest) =
      (stringBody rest).map fun (units, after) => (.char c :: units, after) := by
  have quote : c ≠ '"' := by rintro rfl; exact absurd control (by decide)
  have backslash : c ≠ '\\' := by rintro rfl; exact absurd control (by decide)
  have ofCode : ∀ code, c.toNat = code → c = Char.ofNat code := by
    rintro code rfl
    exact (Char.ofNat_toNat c).symm
  simp only [escapeChar, if_neg quote, if_neg backslash, if_pos control]
  split
  case isTrue back => rw [ofCode _ back]; rfl
  split
  case isTrue feed => rw [ofCode _ feed]; rfl
  split
  case isTrue line => rw [line]; rfl
  split
  case isTrue turn => rw [turn]; rfl
  split
  case isTrue tab => rw [tab]; rfl
  change (hexValues? _).bind _ = _
  rw [hexValues_control c.toNat control, Option.bind_some, unit16_control c control]
  rfl

theorem stringBody_escape (c : Char) (rest : List Char) :
    stringBody (escapeChar c ++ rest) =
      (stringBody rest).map fun (units, after) => (.char c :: units, after) := by
  by_cases quote : c = '"'
  · rw [quote]
    rfl
  by_cases backslash : c = '\\'
  · rw [backslash]
    rfl
  by_cases control : c.toNat < 0x20
  · exact control_escape c control rest
  · have plain : escapeChar c = [c] := by simp [escapeChar, quote, backslash, control]
    rw [plain, List.singleton_append, stringBody]
    all_goals simp [quote, backslash, control]

theorem stringBody_escaped (chars rest : List Char) :
    stringBody (chars.flatMap escapeChar ++ '"' :: rest) = some (chars.map .char, rest) := by
  induction chars with
  | nil => rfl
  | cons c chars ih =>
      rw [List.flatMap_cons, List.append_assoc, stringBody_escape, ih]
      rfl

theorem joinUnits_chars (chars : List Char) : joinUnits (chars.map .char) = some chars := by
  induction chars with
  | nil => rfl
  | cons c chars ih => rw [List.map_cons, joinUnits, ih, Option.map_some]

theorem firstToken_string (s : String) (rest : List Char) :
    firstToken ((quoteString s).toList ++ rest) = (.string (some s), rest) := by
  have front : (quoteString s).toList ++ rest =
      '"' :: (s.toList.flatMap escapeChar ++ '"' :: rest) := by
    simp [quoteString]
  rw [front, firstToken, stringBody_escaped]
  simp [joinUnits_chars]

theorem tokens_first (c : Char) (text rest : List Char) (token : Token)
    (visible : isSpace c = false) (first : firstToken (c :: text) = (token, rest))
    (shorter : rest.length ≤ text.length) : tokens (c :: text) = token :: tokens rest := by
  have kept : (c :: text).dropWhile isSpace = c :: text := by
    rw [List.dropWhile_cons, visible]
    rfl
  have inside : rest.length < (c :: text).length := Nat.lt_succ_of_le shorter
  rw [tokens, kept]
  simp only [first, dif_pos inside]

end EntitySchema.Json
