import EntitySchema.Sql.Fragment
import Mathlib.Data.List.Chain

/-!
# Reading SQL

SQL is read back from its text, the way a database reads it: names stand between double quotes, a
quote inside a name is written twice, and a dollar sign with digits is a place. A fragment whose
texts hold no quote and no dollar sign reads as its pieces.
-/

set_option autoImplicit false

namespace EntitySchema.Sql

inductive Token where
  | char (c : Char)
  | name (identifier : List Char)
  | place (index : Nat)
deriving DecidableEq

inductive Reading where
  | plain
  | name (read : List Char)
  | quote (read : List Char)
  | dollar
  | place (index : Nat)

def digitValue (c : Char) : Nat := c.toNat - '0'.toNat

namespace Reading

def close : Reading → List Token
  | .plain => []
  | .name read | .quote read => [.name read]
  | .dollar => [.char '$']
  | .place index => [.place index]

def continue? : Reading → Char → Option Reading
  | .plain, _ => none
  | .name read, c => some (if c = '"' then .quote read else .name (read ++ [c]))
  | .quote read, c => if c = '"' then some (.name (read ++ [c])) else none
  | .dollar, c => if c.isDigit then some (.place (digitValue c)) else none
  | .place index, c => if c.isDigit then some (.place (10 * index + digitValue c)) else none

end Reading

def scan : Reading → List Char → List Token
  | reading, [] => reading.close
  | reading, c :: rest =>
    match reading.continue? c with
    | some next => scan next rest
    | none =>
      reading.close ++
        if c = '"' then scan (.name []) rest
        else if c = '$' then scan .dollar rest
        else .char c :: scan .plain rest

def tokens (sql : String) : List Token := scan .plain sql.toList

def Token.place? : Token → Option Nat
  | .place index => some index
  | _ => none

def indices (sql : String) : List Nat := (tokens sql).filterMap Token.place?

-- A text that stands for itself wherever it is put: a reader finds neither a name nor a place in
-- it, and it does not lengthen the place before it.
def plainText (s : String) : Bool :=
  match s.toList with
  | [] => false
  | c :: rest => !c.isDigit && (c :: rest).all fun c => c != '"' && c != '$'

namespace Piece

def Clean : Piece → Prop
  | .text s => plainText s = true
  | .name identifier => '"' ∉ identifier.toList
  | .place _ => True

def isName : Piece → Bool
  | .name _ => true
  | _ => false

-- Two pieces that keep apart; two names in a row read as one.
def Apart (a b : Piece) : Prop := ¬(a.isName ∧ b.isName)

def tokens : Piece → List Token
  | .text s => s.toList.map .char
  | .name identifier => [.name identifier.toList]
  | .place index => [.place index]

end Piece

namespace Fragment

structure Readable (fragment : Fragment) : Prop where
  clean : ∀ piece ∈ fragment, piece.Clean
  apart : List.IsChain Piece.Apart fragment

def tokens (fragment : Fragment) : List Token := fragment.flatMap Piece.tokens

def indices (fragment : Fragment) : List Nat := fragment.tokens.filterMap Token.place?

end Fragment

theorem scan_plain_text (chars rest : List Char)
    (clean : chars.all (fun c => c != '"' && c != '$') = true) :
    scan .plain (chars ++ rest) = chars.map .char ++ scan .plain rest := by
  induction chars with
  | nil => rfl
  | cons c chars ih =>
      simp only [List.all_cons, Bool.and_eq_true, bne_iff_ne] at clean
      obtain ⟨⟨notQuote, notDollar⟩, cleanRest⟩ := clean
      simp [scan, Reading.continue?, Reading.close, notQuote, notDollar, ih cleanRest]

theorem scan_name (read chars rest : List Char) (clean : '"' ∉ chars) :
    scan (.name read) (chars ++ '"' :: rest) = scan (.quote (read ++ chars)) rest := by
  induction chars generalizing read with
  | nil => simp [scan, Reading.continue?]
  | cons c chars ih =>
      have notQuote : c ≠ '"' := fun same => clean (by simp [same])
      have cleanRest : '"' ∉ chars := fun member => clean (by simp [member])
      simpa [scan, Reading.continue?, notQuote] using ih (read ++ [c]) cleanRest

theorem scan_digits (index : Nat) (digits rest : List Char) (clean : ∀ c ∈ digits, c.isDigit) :
    scan (.place index) (digits ++ rest) =
      scan (.place (Nat.ofDigitChars 10 digits index)) rest := by
  induction digits generalizing index with
  | nil => rfl
  | cons c digits ih =>
      have digit : c.isDigit := clean c (by simp)
      have cleanRest : ∀ d ∈ digits, d.isDigit := fun d member => clean d (by simp [member])
      simpa [scan, Reading.continue?, digit, Nat.ofDigitChars_cons, digitValue] using
        ih (10 * index + digitValue c) cleanRest

theorem scan_place (index : Nat) (rest : List Char) :
    scan .dollar ((toString index).toList ++ rest) = scan (.place index) rest := by
  have printed : (toString index).toList = Nat.toDigits 10 index := Nat.toList_repr
  have digits : ∀ c ∈ Nat.toDigits 10 index, c.isDigit := fun c member =>
    Nat.isDigit_of_mem_toDigits (by decide) (by decide) member
  have value := Nat.ofDigitChars_ten_toDigits (n := index)
  rw [printed]
  cases shape : Nat.toDigits 10 index with
  | nil => exact absurd shape Nat.toDigits_ne_nil
  | cons c more =>
      rw [shape] at digits value
      have digit : c.isDigit := digits c (by simp)
      have moreDigits : ∀ d ∈ more, d.isDigit := fun d member => digits d (by simp [member])
      have first : scan .dollar (c :: more ++ rest) = scan (.place (digitValue c)) (more ++ rest) := by
        simp [scan, Reading.continue?, digit]
      rw [first, scan_digits _ _ _ moreDigits]
      rw [Nat.ofDigitChars_cons] at value
      simpa [digitValue] using congrArg (fun n => scan (.place n) rest) value

namespace Reading

def EndsBefore (piece : Piece) : Reading → Prop
  | .plain | .place _ => True
  | .quote _ => piece.isName = false
  | .name _ | .dollar => False

end Reading

namespace Piece

def finished : Piece → List Token
  | .text s => s.toList.map .char
  | _ => []

def reading : Piece → Reading
  | .text _ => .plain
  | .name identifier => .quote identifier.toList
  | .place index => .place index

theorem finished_close (piece : Piece) : piece.finished ++ piece.reading.close = piece.tokens := by
  cases piece <;> simp [finished, reading, tokens, Reading.close]

end Piece

theorem render_text (s : String) : (Piece.text s).render.toList = s.toList := rfl

theorem render_name (identifier : String) :
    (Piece.name identifier).render.toList = '"' :: (identifier.toList ++ ['"']) := by
  simp only [Piece.render, String.toList_append]
  rfl

theorem render_place (index : Nat) :
    (Piece.place index).render.toList = '$' :: (toString index).toList := by
  simp only [Piece.render, String.toList_append]
  rfl

theorem scan_start (reading : Reading) (c : Char) (rest : List Char)
    (ended : reading.continue? c = none) :
    scan reading (c :: rest) = reading.close ++ scan .plain (c :: rest) := by
  rw [scan, ended, scan]
  rfl

theorem scan_ended (reading : Reading) (piece : Piece) (rest : List Char) (clean : piece.Clean)
    (ends : reading.EndsBefore piece) :
    scan reading (piece.render.toList ++ rest) =
      reading.close ++ scan .plain (piece.render.toList ++ rest) := by
  cases piece with
  | text s =>
      rw [render_text]
      cases shape : s.toList with
      | nil => simp [Piece.Clean, plainText, shape] at clean
      | cons c more =>
          simp only [Piece.Clean, plainText, shape, List.all_cons, Bool.and_eq_true,
            Bool.not_eq_true', bne_iff_ne] at clean
          apply scan_start
          cases reading <;> simp_all [Reading.continue?, Reading.EndsBefore]
  | name identifier =>
      rw [render_name]
      apply scan_start
      cases reading <;> simp_all [Reading.continue?, Reading.EndsBefore, Piece.isName]
  | place index =>
      rw [render_place]
      apply scan_start
      cases reading <;> simp_all [Reading.continue?, Reading.EndsBefore]

theorem scan_piece (piece : Piece) (rest : List Char) (clean : piece.Clean) :
    scan .plain (piece.render.toList ++ rest) = piece.finished ++ scan piece.reading rest := by
  cases piece with
  | text s =>
      rw [render_text]
      cases shape : s.toList with
      | nil => simp [Piece.Clean, plainText, shape] at clean
      | cons c more =>
          simp only [Piece.Clean, plainText, shape, Bool.and_eq_true] at clean
          simpa only [Piece.finished, Piece.reading, shape] using
            scan_plain_text (c :: more) rest clean.2
  | name identifier =>
      simpa [render_name, Piece.finished, Piece.reading, scan, Reading.continue?, Reading.close]
        using scan_name [] identifier.toList rest clean
  | place index =>
      simpa [render_place, Piece.finished, Piece.reading, scan, Reading.continue?, Reading.close]
        using scan_place index rest

theorem render_cons (piece : Piece) (fragment : Fragment) :
    (Fragment.render (piece :: fragment)).toList =
      piece.render.toList ++ (Fragment.render fragment).toList := by
  simp [Fragment.render, String.toList_join]

theorem render_append (left right : Fragment) :
    (left ++ right).render = left.render ++ right.render := by
  apply String.toList_inj.mp
  simp [Fragment.render, String.toList_join]

def Fragment.reading (fragment : Fragment) (before : Reading) : Reading :=
  fragment.getLast?.elim before Piece.reading

theorem reading_cons (piece : Piece) (rest : Fragment) (before : Reading) :
    Fragment.reading (piece :: rest) before = Fragment.reading rest piece.reading := by
  rw [Fragment.reading, List.getLast?_cons, Fragment.reading]
  cases rest.getLast? <;> rfl

-- By induction on the fragment; what stands behind it has to end its last token, which the reader
-- holds until then.
theorem scan_onto (fragment : Fragment) (readable : fragment.Readable) (reading : Reading)
    (ends : ∀ piece ∈ fragment.head?, reading.EndsBefore piece) (chars : List Char)
    (behind : List Token)
    (ended : scan (fragment.reading reading) chars = (fragment.reading reading).close ++ behind) :
    scan reading (fragment.render.toList ++ chars) = reading.close ++ (fragment.tokens ++ behind) := by
  induction fragment generalizing reading with
  | nil => simpa [Fragment.render, Fragment.tokens, String.join, Fragment.reading] using ended
  | cons piece rest ih =>
      have clean : piece.Clean := readable.clean piece (by simp)
      have restReadable : Fragment.Readable rest :=
        ⟨fun other member => readable.clean other (by simp [member]), readable.apart.tail⟩
      have restEnds : ∀ other ∈ rest.head?, piece.reading.EndsBefore other := by
        intro other member
        have apart := (List.isChain_cons.mp readable.apart).1 other member
        cases piece <;> simp_all [Piece.reading, Reading.EndsBefore, Piece.Apart, Piece.isName]
      rw [reading_cons] at ended
      rw [render_cons, List.append_assoc, scan_ended reading piece _ clean (ends piece (by simp)),
        scan_piece piece _ clean, ih restReadable piece.reading restEnds ended,
        ← List.append_assoc piece.finished, Piece.finished_close]
      simp [Fragment.tokens]

theorem tokens_render (fragment : Fragment) (readable : fragment.Readable) :
    tokens fragment.render = fragment.tokens := by
  have ends : ∀ piece ∈ fragment.head?, Reading.plain.EndsBefore piece := fun _ _ => trivial
  simpa [tokens, Reading.close] using
    scan_onto fragment readable .plain ends [] [] (by simp [scan])

theorem tokens_render_append (fragment : Fragment) (s rest : String)
    (readable : Fragment.Readable (fragment ++ [.text s])) :
    tokens (Fragment.render (fragment ++ [.text s]) ++ rest) =
      Fragment.tokens (fragment ++ [.text s]) ++ tokens rest := by
  have ends : ∀ piece ∈ (fragment ++ [Piece.text s]).head?, Reading.plain.EndsBefore piece :=
    fun _ _ => trivial
  have stands : Fragment.reading (fragment ++ [.text s]) .plain = .plain := by
    rw [Fragment.reading, List.getLast?_concat]
    rfl
  have read := scan_onto _ readable .plain ends rest.toList (tokens rest)
    (by rw [stands]; rfl)
  simpa [tokens, Reading.close, String.toList_append] using read

theorem indices_render (fragment : Fragment) (readable : fragment.Readable) :
    indices fragment.render = fragment.indices := by
  rw [indices, tokens_render fragment readable, Fragment.indices]

namespace Fragment

theorem readable_nil : Readable [] := ⟨by simp, .nil⟩

theorem readable_single (piece : Piece) (clean : piece.Clean) : Readable [piece] :=
  ⟨by simpa using clean, .singleton piece⟩

theorem readable_append_text (left right : Fragment) (s : String) (leftReadable : left.Readable)
    (clean : plainText s = true) (rightReadable : right.Readable) :
    Readable (left ++ .text s :: right) := by
  constructor
  · intro piece member
    rcases List.mem_append.mp member with inLeft | inRight
    · exact leftReadable.clean piece inLeft
    · rcases List.mem_cons.mp inRight with same | inTail
      · subst same
        exact clean
      · exact rightReadable.clean piece inTail
  · rw [List.isChain_append, List.isChain_cons]
    refine ⟨leftReadable.apart, ⟨?_, rightReadable.apart⟩, ?_⟩
    · intro piece _ both
      simp [Piece.isName] at both
    · intro piece _ other first both
      simp only [List.head?_cons, Option.mem_some_iff] at first
      simp [← first, Piece.isName] at both

theorem readable_text_cons (right : Fragment) (s : String) (clean : plainText s = true)
    (readable : right.Readable) : Readable (.text s :: right) :=
  readable_append_text [] right s readable_nil clean readable

theorem readable_append_single (left : Fragment) (s : String) (leftReadable : left.Readable)
    (clean : plainText s = true) : Readable (left ++ [.text s]) :=
  readable_append_text left [] s leftReadable clean readable_nil

theorem readable_join (separator : String) (clean : plainText separator = true) :
    ∀ fragments : List Fragment, (∀ fragment ∈ fragments, fragment.Readable) →
      Readable (join separator fragments)
  | [], _ => readable_nil
  | [last], readable => readable last (by simp)
  | first :: second :: rest, readable => by
      have tail := readable_join separator clean (second :: rest)
        (fun fragment member => readable fragment (List.mem_cons_of_mem _ member))
      exact readable_append_text first _ separator (readable first (by simp)) clean tail

theorem readable_parenthesized (fragment : Fragment) (readable : fragment.Readable) :
    (parenthesized fragment).Readable :=
  readable_append_single (.text "(" :: fragment) ")"
    (readable_text_cons fragment "(" (by decide) readable) (by decide)

@[simp]
theorem tokens_nil : tokens [] = [] := rfl

@[simp]
theorem tokens_append (left right : Fragment) :
    tokens (left ++ right) = tokens left ++ tokens right := by
  simp [tokens]

theorem tokens_text_cons (s : String) (rest : Fragment) :
    tokens (.text s :: rest) = s.toList.map .char ++ tokens rest := rfl

theorem tokens_join_cons (separator : String) (first second : Fragment) (rest : List Fragment) :
    (join separator (first :: second :: rest)).tokens =
      first.tokens ++ (separator.toList.map .char ++ (join separator (second :: rest)).tokens) := by
  have joined : join separator (first :: second :: rest) =
      first ++ .text separator :: join separator (second :: rest) := rfl
  rw [joined, tokens_append, tokens_text_cons]

@[simp]
theorem indices_nil : indices [] = [] := rfl

@[simp]
theorem indices_append (left right : Fragment) :
    indices (left ++ right) = indices left ++ indices right := by
  simp [indices, tokens]

@[simp]
theorem indices_text_cons (s : String) (rest : Fragment) : indices (.text s :: rest) = indices rest := by
  have noPlace : (s.toList.map Token.char).filterMap Token.place? = [] := by
    simp [Token.place?]
  simp only [indices, tokens, List.flatMap_cons, List.filterMap_append, Piece.tokens, noPlace,
    List.nil_append]

@[simp]
theorem indices_name_cons (identifier : String) (rest : Fragment) :
    indices (.name identifier :: rest) = indices rest := by
  simp [indices, tokens, Piece.tokens, List.filterMap_cons, Token.place?]

@[simp]
theorem indices_place_cons (index : Nat) (rest : Fragment) :
    indices (.place index :: rest) = index :: indices rest := by
  simp [indices, tokens, Piece.tokens, Token.place?]

theorem indices_join (separator : String) :
    ∀ fragments : List Fragment, indices (join separator fragments) = fragments.flatMap indices
  | [] => rfl
  | [last] => by simp [join]
  | first :: second :: rest => by
      simp [join, indices_join separator (second :: rest)]

@[simp]
theorem indices_parenthesized (fragment : Fragment) :
    (parenthesized fragment).indices = fragment.indices := by
  simp [parenthesized]

end Fragment

end EntitySchema.Sql
