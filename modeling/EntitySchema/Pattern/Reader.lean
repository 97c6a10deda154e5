import EntitySchema.Number.Decimal
import EntitySchema.Pattern.Property
import EntitySchema.Text.Blank
import EntitySchema.Text.Letter

/-!
# Regular expressions as field values

A pattern is accepted if it can be compiled: it is well formed, names only known properties, nests
no deeper than `maxHeight`, matches whole characters only, and expands to an automaton of at most
`maxSize` bytes. Each part is read into a `Piece` that says how deep it nests and about how large
its automaton is. The reader keeps the open groups on a stack.
-/

set_option autoImplicit false

namespace EntitySchema.Pattern

def maxHeight : Nat := 250

def maxSize : Nat := 10485760

structure Mode where
  spaced : Bool
  unicode : Bool

structure Piece where
  height : Nat
  size : Nat
  repeatable : Bool

namespace Piece

def leaf (size : Nat) : Piece := ⟨0, size, true⟩
def empty : Piece := ⟨0, 0, false⟩
def flags : Piece := ⟨0, 0, false⟩

def tallest (pieces : List Piece) : Nat := pieces.foldl (fun h p => max h p.height) 0
def total (pieces : List Piece) : Nat := pieces.foldl (fun n p => n + p.size) 0

def sequence : List Piece → Piece
  | [] => empty
  | [p] => p
  | ps => ⟨tallest ps + 1, total ps, true⟩

def alternatives : List Piece → Piece
  | [] => empty
  | [p] => p
  | ps => ⟨tallest ps + 1, total ps + 64 + 4 * ps.length, true⟩

def repeated (low : Nat) (high : Option Nat) (p : Piece) : Piece :=
  let size := match high with
    | some high => low * p.size + (high - low) * (p.size + 40)
    | none => max low 1 * p.size + 72
  ⟨p.height + 1, size, true⟩

def group (captures : Bool) (p : Piece) : Piece :=
  ⟨p.height + 1, p.size + (if captures then 64 else 0), true⟩

end Piece

def charSize (c : Char) : Nat := 32 * c.utf8Size

def asciiClassSize : Nat := 64
def dotSize : Nat := 1000
def wordSize : Nat := 48064
def digitSize : Nat := 4504
def spaceSize : Nat := 680
def notWordSize : Nat := 45064
def notDigitSize : Nat := 11312
def notSpaceSize : Nat := 1924
def propertySize : Nat := 9000
def wideRangeSize : Nat := 200

inductive Atom where
  | literal (c : Char) (byteEscape : Bool)
  | dot
  | assertion
  | perlClass (negated : Bool) (size : Nat)
  | property

def Atom.allowed (mode : Mode) : Atom → Bool
  | .literal c byteEscape => mode.unicode || !byteEscape || c.toNat < 128
  | .dot => mode.unicode
  | .assertion => true
  | .perlClass negated _ => mode.unicode || !negated
  | .property => mode.unicode

def Atom.size (mode : Mode) : Atom → Nat
  | .literal c _ => charSize c
  | .dot => dotSize
  | .assertion => 32
  | .perlClass _ size => if mode.unicode then size else asciiClassSize
  | .property => propertySize

def dropBlanks (inComment : Bool) : List Char → List Char
  | [] => []
  | c :: rest =>
    if inComment then dropBlanks (c ≠ '\n') rest
    else if Blank.isBlank c then dropBlanks false rest
    else if c = '#' then dropBlanks true rest
    else c :: rest

def settle (mode : Mode) (text : List Char) : List Char :=
  if mode.spaced then dropBlanks false text else text

def hexDigit? (c : Char) : Option Nat :=
  if c.isDigit then some (c.toNat - '0'.toNat)
  else if 'a' ≤ c.toLower ∧ c.toLower ≤ 'f' then some (c.toLower.toNat - 'a'.toNat + 10)
  else none

def scalar? (n : Nat) : Option Char :=
  if n < 0xD800 ∨ (0xE000 ≤ n ∧ n < 0x110000) then some (Char.ofNat n) else none

def fixedHex (mode : Mode) : Nat → Nat → List Char → Option (Nat × List Char)
  | 0, value, text => some (value, text)
  | count + 1, value, c :: rest => do
    let digit ← hexDigit? c
    fixedHex mode count (value * 16 + digit) (settle mode rest)
  | _ + 1, _, [] => none

def untilBrace (mode : Mode) : List Char → List Char → Option (List Char × List Char)
  | _, [] => none
  | done, c :: rest =>
    if c = '\x7d' then some (done.reverse, rest) else untilBrace mode (c :: done) rest

def braced (mode : Mode) (text : List Char) : Option (List Char × List Char) :=
  if mode.spaced then
    let step (state : List Char × Bool × Bool) (c : Char) : List Char × Bool × Bool :=
      let (kept, inComment, closed) := state
      if closed then state
      else if inComment then (kept, c ≠ '\n', false)
      else if c = '\x7d' then (kept, false, true)
      else if Blank.isBlank c then state
      else if c = '#' then (kept, true, false)
      else (c :: kept, false, false)
    let rec rest (inComment : Bool) : List Char → Option (List Char)
      | [] => none
      | c :: tail =>
        if inComment then rest (c ≠ '\n') tail
        else if c = '\x7d' then some tail
        else rest (c = '#') tail
    (rest false text).map fun after =>
      ((text.foldl step ([], false, false)).1.reverse, after)
  else untilBrace mode [] text

def hexNumber? (digits : List Char) : Option Nat :=
  if digits.isEmpty then none
  else (digits.foldlM (fun n c => (hexDigit? c).map (n * 16 + ·)) 0).filter (· < 0x100000000)

def hexEscape (mode : Mode) (width : Nat) (text : List Char) : Option (Atom × List Char) :=
  match settle mode text with
  | '\x7b' :: rest => do
    let (digits, after) ← braced mode rest
    let c ← (hexNumber? digits).bind scalar?
    return (.literal c false, settle mode after)
  | text => do
    let (value, after) ← fixedHex mode width 0 text
    let c ← scalar? value
    return (.literal c (width = 2), after)

def splitAt? (mark : List Char) : List Char → List Char → Option (List Char × List Char)
  | _, [] => none
  | done, c :: rest =>
    if mark.isPrefixOf (c :: rest) then some (done.reverse, (c :: rest).drop mark.length)
    else splitAt? mark (c :: done) rest

def isProperty (name : List Char) : Bool :=
  match splitAt? ['!', '='] [] name with
  | some (property, value) => isPropertyValue property value
  | none =>
    match splitAt? [':'] [] name with
    | some (property, value) => isPropertyValue property value
    | none =>
      match splitAt? ['='] [] name with
      | some (property, value) => isPropertyValue property value
      | none => isPropertyName name

def propertyClass (mode : Mode) (text : List Char) : Option (Atom × List Char) :=
  match settle mode text with
  | [] => none
  | '\x7b' :: rest => do
    let (name, after) ← braced mode rest
    if isProperty name then some (.property, after) else none
  | c :: rest =>
    if c ≠ '\\' ∧ isPropertyName [c] then some (.property, settle mode rest) else none

def isMeta (c : Char) : Bool := "\\.+*?()|[]\x7b\x7d^$#&-~".toList.contains c

-- Word boundaries with a side, written in braces after the plain one. Braces that do not start like
-- a name are left for a repetition.
def boundarySide (mode : Mode) (text : List Char) : Option (Atom × List Char) :=
  match text with
  | '\x7b' :: rest =>
    match settle mode rest with
    | [] => none
    | c :: _ =>
      if c.isAlpha ∨ c = '-' then do
        let (name, after) ← braced mode rest
        if ["start", "end", "start-half", "end-half"].contains (String.ofList name) then
          some (.assertion, after)
        else none
      else some (.assertion, text)
  | _ => some (.assertion, text)

def escape (mode : Mode) : List Char → Option (Atom × List Char)
  | [] => none
  | c :: rest =>
    if c.isDigit then none
    else match c with
      | 'x' => hexEscape mode 2 rest
      | 'u' => hexEscape mode 4 rest
      | 'U' => hexEscape mode 8 rest
      | 'p' | 'P' => propertyClass mode rest
      | 'd' => some (.perlClass false digitSize, rest)
      | 's' => some (.perlClass false spaceSize, rest)
      | 'w' => some (.perlClass false wordSize, rest)
      | 'D' => some (.perlClass true notDigitSize, rest)
      | 'S' => some (.perlClass true notSpaceSize, rest)
      | 'W' => some (.perlClass true notWordSize, rest)
      | 'a' => some (.literal (Char.ofNat 7) false, rest)
      | 'f' => some (.literal (Char.ofNat 12) false, rest)
      | 't' => some (.literal '\t' false, rest)
      | 'n' => some (.literal '\n' false, rest)
      | 'r' => some (.literal '\r' false, rest)
      | 'v' => some (.literal (Char.ofNat 11) false, rest)
      | 'A' | 'z' | 'B' | '<' | '>' => some (.assertion, rest)
      | 'b' => boundarySide mode rest
      | _ =>
        if isMeta c ∨ (c.toNat < 128 ∧ ¬ c.isAlpha) then some (.literal c false, rest) else none

def classAtom (mode : Mode) : List Char → Option (Atom × List Char)
  | [] => none
  | '\\' :: rest => escape mode rest
  | c :: rest => some (.literal c false, rest)

def readClassItem? (mode : Mode) : Atom → Option Nat
  | .literal c _ =>
    if c.toNat < 128 then some 8 else if mode.unicode then some (charSize c) else none
  | .dot | .assertion => none
  | atom => if atom.allowed mode then some (atom.size mode) else none

def classRange (mode : Mode) (text : List Char) : Option (Nat × List Char) := do
  let (first, text) ← classAtom mode text
  let text := settle mode text
  match text with
  | [] => none
  | '-' :: rest =>
    match settle mode rest with
    | [] => (readClassItem? mode first).map (·, text)
    | ']' :: _ | '-' :: _ => (readClassItem? mode first).map (·, text)
    | next => do
      let (last, after) ← classAtom mode next
      match first, last with
      | .literal low _, .literal high _ =>
        let _ ← readClassItem? mode first
        let _ ← readClassItem? mode last
        if low ≤ high then some (if high.toNat < 128 then 8 else wideRangeSize, after) else none
      | _, _ => none
  | _ => (readClassItem? mode first).map (·, text)

def asciiClasses : List String :=
  ["alnum", "alpha", "ascii", "blank", "cntrl", "digit", "graph", "lower", "print", "punct",
   "space", "upper", "word", "xdigit"]

def asciiClass? (text : List Char) : Option (Bool × List Char) :=
  let (negated, text) := match text with
    | '^' :: rest => (true, rest)
    | other => (false, other)
  let name := text.takeWhile (· ≠ ':')
  match text.drop name.length with
  | ':' :: ']' :: rest =>
    if asciiClasses.contains (String.ofList name) then some (negated, rest) else none
  | _ => none

structure OpenClass where
  entries : List Nat
  operand : Option Nat
  size : Nat

namespace OpenClass

def start : OpenClass := ⟨[], none, 32⟩

def push (height size : Nat) (cls : OpenClass) : OpenClass :=
  { cls with entries := height :: cls.entries, size := cls.size + size }

def height (cls : OpenClass) : Nat :=
  let union := match cls.entries with
    | [] => 0
    | [h] => h
    | hs => hs.foldl max 0 + 1
  match cls.operand with
  | some left => max left union + 1
  | none => union

def operator (cls : OpenClass) : OpenClass := ⟨[], some cls.height, cls.size⟩

end OpenClass

-- The opening of a class after its bracket: negation, hyphens, and a closing bracket that stands
-- first and so for itself.
def openClass (mode : Mode) (text : List Char) : Option (OpenClass × List Char) := do
  let text := settle mode text
  let (negated, text) := match text with
    | '^' :: rest => (true, settle mode rest)
    | other => (false, other)
  if negated && !mode.unicode then none
  let rec hyphens (cls : OpenClass) : List Char → OpenClass × List Char
    | '-' :: rest => hyphens (cls.push 0 8) rest
    | other => (cls, other)
  let (cls, text) :=
    if mode.spaced then
      let lead := text.takeWhile fun c => c = '-' || Blank.isBlank c
      let count := (lead.filter (· = '-')).length
      ((List.range count).foldl (fun cls _ => cls.push 0 8) OpenClass.start,
        settle mode (text.drop lead.length))
    else hyphens OpenClass.start text
  match text with
  | [] => none
  | ']' :: rest =>
    if cls.entries.isEmpty then
      let rest := settle mode rest
      if rest.isEmpty then none else some (cls.push 0 8, rest)
    else some (cls, text)
  | _ => some (cls, text)

def classBody (mode : Mode) (stack : List OpenClass) (text : List Char) :
    Option (Piece × List Char) :=
  match stack with
  | [] => none
  | cls :: outer =>
    let proceed (stack : List OpenClass) (rest : List Char) : Option (Piece × List Char) :=
      if _shorter : rest.length < text.length then classBody mode stack rest else none
    match settle mode text with
    | [] => none
    | '[' :: rest =>
      let nested : Option (Piece × List Char) := do
        let (inner, after) ← openClass mode rest
        proceed (inner :: cls :: outer) after
      match rest with
      | ':' :: name =>
        match asciiClass? name with
        | some (negated, after) =>
          if negated && !mode.unicode then none else proceed (cls.push 0 8 :: outer) after
        | none => nested
      | _ => nested
    | ']' :: rest =>
      match outer with
      | [] => some (⟨cls.height + 1, cls.size, true⟩, rest)
      | around :: outer => proceed (around.push (cls.height + 1) cls.size :: outer) rest
    | '&' :: '&' :: rest => proceed (cls.operator :: outer) rest
    | '-' :: '-' :: rest => proceed (cls.operator :: outer) rest
    | '~' :: '~' :: rest => proceed (cls.operator :: outer) rest
    | other =>
      match classRange mode other with
      | some (size, rest) => proceed (cls.push 0 size :: outer) rest
      | none => none
termination_by text.length

def decimal (mode : Mode) (text : List Char) : Option (Nat × List Char) :=
  let text := text.dropWhile Blank.isBlank
  let rec digits (spaced : Bool) (value : Nat) (seen : Bool) : List Char → Option (Nat × List Char)
    | [] => if seen then some (value, []) else none
    | c :: rest =>
      if c.isDigit then digits spaced (value * 10 + (c.toNat - '0'.toNat)) true rest
      else if spaced && seen && Blank.isBlank c then digits spaced value seen rest
      else if seen then some (value, c :: rest) else none
  match digits mode.spaced 0 false text with
  | some (value, rest) =>
    if value < 0x100000000 then some (value, settle mode (rest.dropWhile Blank.isBlank)) else none
  | none => none

def counts (mode : Mode) (text : List Char) : Option (Nat × Option Nat × List Char) := do
  let (low, text) ← decimal mode (settle mode text)
  match text with
  | '\x7d' :: rest => some (low, some low, rest)
  | ',' :: rest =>
    match settle mode rest with
    | '\x7d' :: rest => some (low, none, rest)
    | text => do
      let (high, text) ← decimal mode text
      match text with
      | '\x7d' :: rest => if low ≤ high then some (low, some high, rest) else none
      | _ => none
  | _ => none

structure Frame where
  before : List Piece
  alternatives : List Piece
  mode : Mode
  captures : Bool

structure State where
  sequence : List Piece
  alternatives : List Piece
  mode : Mode
  groups : List Frame
  names : List (List Char)

def State.piece (s : State) : Piece :=
  match s.alternatives with
  | [] => Piece.sequence s.sequence
  | others => Piece.alternatives (Piece.sequence s.sequence :: others)

def State.push (p : Piece) (s : State) : State := { s with sequence := p :: s.sequence }

def isNameChar (first : Bool) (c : Char) : Bool :=
  c = '_' || Letter.alphabeticTable.has c ||
    (!first && (c = '.' || c = '[' || c = ']' || Letter.isNumeric c))

def groupName (text : List Char) : Option (List Char × List Char) :=
  let name := text.takeWhile (· ≠ '>')
  match name, text.drop name.length with
  | first :: more, _ :: rest =>
    if isNameChar true first && more.all (isNameChar false) then some (name, rest) else none
  | _, _ => none

def flags (text : List Char) (mode : Mode) : Option (Mode × Bool × Char × List Char) :=
  let items := text.takeWhile fun c => c ≠ ':' && c ≠ ')'
  match text.drop items.length with
  | [] => none
  | ending :: rest =>
    let known := items.all fun c => "imsUuRx-".toList.contains c
    let distinct := items.eraseDups.length = items.length
    let dangling := items.getLast? = some '-'
    if known ∧ distinct ∧ ¬ dangling then
      let on := items.takeWhile (· ≠ '-')
      let setting (c : Char) (old : Bool) : Bool :=
        if on.contains c then true else if items.contains c then false else old
      some (⟨setting 'x' mode.spaced, setting 'u' mode.unicode⟩, !items.isEmpty, ending, rest)
    else none

def State.openGroup (captures : Bool) (mode : Mode) (s : State) : State :=
  { s with
    sequence := [], alternatives := [], mode := mode
    groups := ⟨s.sequence, s.alternatives, s.mode, captures⟩ :: s.groups }

def openParenthesis (s : State) (text : List Char) : Option (State × List Char) :=
  let named (rest : List Char) : Option (State × List Char) := do
    let (name, after) ← groupName rest
    if s.names.contains name then none
    else some ({ s.openGroup true s.mode with names := name :: s.names }, after)
  match settle s.mode text with
  | '?' :: '=' :: _ | '?' :: '!' :: _ | '?' :: '<' :: '=' :: _ | '?' :: '<' :: '!' :: _ => none
  | '?' :: 'P' :: '<' :: rest => named rest
  | '?' :: '<' :: rest => named rest
  | '?' :: rest => do
    let (mode, any, ending, after) ← flags rest s.mode
    if ending = ':' then some (s.openGroup false mode, after)
    else if any then some ({ s.push Piece.flags with mode := mode }, after)
    else none
  | other => some (s.openGroup true s.mode, other)

def closeParenthesis (s : State) : Option State :=
  match s.groups with
  | [] => none
  | frame :: groups =>
    some { s with
      sequence := Piece.group frame.captures s.piece :: frame.before
      alternatives := frame.alternatives, mode := frame.mode, groups := groups }

def repeatLast (low : Nat) (high : Option Nat) (s : State) : Option State :=
  match s.sequence with
  | p :: before =>
    if p.repeatable then some { s with sequence := p.repeated low high :: before } else none
  | [] => none

def dropLazy : List Char → List Char
  | '?' :: rest => rest
  | text => text

def step (s : State) (text : List Char) : Option (State × List Char) :=
  let atom (found : Option (Atom × List Char)) : Option (State × List Char) := do
    let (atom, rest) ← found
    if atom.allowed s.mode then some (s.push (.leaf (atom.size s.mode)), rest) else none
  match text with
  | [] => none
  | '(' :: rest => openParenthesis s rest
  | ')' :: rest => (closeParenthesis s).map (·, rest)
  | '|' :: rest =>
    some ({ s with
      sequence := [], alternatives := Piece.sequence s.sequence :: s.alternatives }, rest)
  | '[' :: rest => do
    let (cls, after) ← openClass s.mode rest
    let (piece, after) ← classBody s.mode [cls] after
    return (s.push piece, after)
  | '?' :: rest => (repeatLast 0 (some 1) s).map (·, dropLazy rest)
  | '*' :: rest => (repeatLast 0 none s).map (·, dropLazy rest)
  | '+' :: rest => (repeatLast 1 none s).map (·, dropLazy rest)
  | '\x7b' :: rest => do
    let (low, high, after) ← counts s.mode rest
    let s ← repeatLast low high s
    return (s, dropLazy (settle s.mode after))
  | '\\' :: rest => atom (escape s.mode rest)
  | '.' :: rest => atom (some (.dot, rest))
  | '^' :: rest | '$' :: rest => atom (some (.assertion, rest))
  | c :: rest => atom (some (.literal c false, rest))

def read (s : State) (text : List Char) : Option Piece :=
  match settle s.mode text with
  | [] => if s.groups.isEmpty then some s.piece else none
  | rest =>
    match step s rest with
    | some (next, after) =>
      if _shorter : after.length < text.length then read next after else none
    | none => none
termination_by text.length

def isPattern (text : String) : Bool :=
  match read ⟨[], [], ⟨false, true⟩, [], []⟩ text.toList with
  | some piece => piece.height ≤ maxHeight && piece.size ≤ maxSize
  | none => false

end EntitySchema.Pattern
